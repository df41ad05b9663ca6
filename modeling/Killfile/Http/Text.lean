import Killfile.Http
import Killfile.Http.CodePage
import Killfile.Text.Blank
import Killfile.Text.Utf8

/-! The body of a response as text. -/

namespace Killfile.Http

/-- How bytes stand for text. One charset gives a single replacement character for any bytes. -/
inductive Charset where
  | utf8 | utf16 (bigEndian : Bool) | page (p : CodePage) | replacement
deriving DecidableEq, Repr

namespace Charset

def utf8Labels : List String :=
  ["unicode-1-1-utf-8", "unicode11utf8", "unicode20utf8", "utf-8", "utf8", "x-unicode20utf8"]

def utf16LittleLabels : List String :=
  ["csunicode", "iso-10646-ucs-2", "ucs-2", "unicode", "unicodefeff", "utf-16", "utf-16le"]

def utf16BigLabels : List String := ["unicodefffe", "utf-16be"]

/-- Charsets that are not decoded, since their bytes could be taken for markup. -/
def replacedLabels : List String :=
  ["csiso2022kr", "hz-gb-2312", "iso-2022-cn", "iso-2022-cn-ext", "iso-2022-kr", "replacement"]

/-- The charset with a label, which may have blanks around it. Case does not count. -/
def ofLabel? (label : List Char) : Option Charset :=
  let l := String.ofList ((Text.trim label).map Char.toLower)
  if l ∈ utf8Labels then some .utf8
  else if l ∈ utf16LittleLabels then some (.utf16 false)
  else if l ∈ utf16BigLabels then some (.utf16 true)
  else if l ∈ replacedLabels then some .replacement
  else (codePages.find? fun p => l ∈ p.labels).map .page

/-- Units of two bytes. A byte alone at the end is no unit. -/
def units (bigEndian : Bool) : List UInt8 → List (Option Nat)
  | a :: b :: s =>
    some (if bigEndian then 256 * a.toNat + b.toNat else 256 * b.toNat + a.toNat) :: units bigEndian s
  | [_] => [none]
  | [] => []

def isHigh (n : Nat) : Bool := 0xD800 ≤ n && n < 0xDC00

def isLow (n : Nat) : Bool := 0xDC00 ≤ n && n < 0xE000

/-- Units as text. Surrogates that make no pair give the replacement character. -/
def unitsText : List (Option Nat) → List Char
  | some a :: some b :: s =>
    if isHigh a && isLow b then
      Char.ofNat (0x10000 + 1024 * (a - 0xD800) + (b - 0xDC00)) :: unitsText s
    else (Text.Utf8.scalar? a).getD (Char.ofNat 0xFFFD) :: unitsText (some b :: s)
  | some a :: s => (Text.Utf8.scalar? a).getD (Char.ofNat 0xFFFD) :: unitsText s
  | none :: s => Char.ofNat 0xFFFD :: unitsText s
  | [] => []

def decode (c : Charset) (b : List UInt8) : String :=
  match c with
  | .utf8 => Text.Utf8.textLossy b
  | .utf16 bigEndian => String.ofList (unitsText (units bigEndian b))
  | .page p => p.decode b
  | .replacement => if b = [] then "" else "\uFFFD"

example : (ofLabel? " Windows-1251".toList).map (·.decode [0x4D, 0xCF, 0xF0, 0x98]) =
    some "MПр\u0098" := by
  decide +kernel

end Charset

/-- The value of the charset parameter of a content type. -/
def charsetLabel? (contentType : String) : Option (List Char) :=
  ((Text.pieces ';' contentType.toList).tail.map Text.trim).findSome? fun p =>
    if (p.takeWhile (· != '=')).map Char.toLower = "charset".toList then
      some ((p.dropWhile (· != '=')).tail.filter (· != '"'))
    else none

/-- Marks at the beginning of a text that tell its charset, whatever is said elsewhere. -/
def splitMark : List UInt8 → Option (Charset × List UInt8)
  | 0xEF :: 0xBB :: 0xBF :: s => some (.utf8, s)
  | 0xFF :: 0xFE :: s => some (.utf16 false, s)
  | 0xFE :: 0xFF :: s => some (.utf16 true, s)
  | _ => none

/-- The text of a response. Without a mark or a label it is UTF-8, and what is malformed is
replaced. -/
def Response.text (r : Response) : String :=
  match splitMark r.body with
  | some (c, b) => c.decode b
  | none => (((r.contentType.bind charsetLabel?).bind Charset.ofLabel?).getD .utf8).decode r.body

end Killfile.Http
