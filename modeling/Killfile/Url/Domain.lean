import Killfile.Text.Blank
import Killfile.Text.Utf8
import Killfile.Unicode.Direction
import Killfile.Unicode.DomainTable
import Killfile.Unicode.Normal
import Killfile.Url.Percent
import Killfile.Url.Punycode

/-! Domain names in ASCII. Characters are mapped and brought into normal form, and labels that are
still not ASCII are checked and written in punycode. -/

namespace Killfile.Url

/-- Characters that domains may not hold. -/
def deniedInDomain (c : Char) : Bool :=
  c.toNat ≤ 0x20 || c.toNat == 0x7F || "%#/:<>?@[\\]^|".toList.contains c

def domainValid : CharSet := CharSet.read Unicode.domainValidText

def domainIgnored : CharSet := CharSet.read Unicode.domainIgnoredText

/-- Characters that others replace: a range, the step in it, and what replaces its first one. -/
structure Replacement where
  low : Nat
  high : Nat
  step : Nat
  target : List Nat
deriving DecidableEq, Repr

def Replacement.read (w : List Char) : Replacement :=
  let source := w.takeWhile (· != '>')
  let range := CharSet.readRange (source.takeWhile (· != '/'))
  { low := range.1
    high := range.2
    step := if '/' ∈ source then CharSet.hexValue ((source.dropWhile (· != '/')).drop 1) else 1
    target := Unicode.readPoints ((w.dropWhile (· != '>')).drop 1) }

def domainReplacements : List Replacement := (Unicode.words Unicode.domainMapText).map Replacement.read

/-- What replaces a character. -/
def Replacement.of? (r : Replacement) (c : Char) : Option (List Char) :=
  if r.low ≤ c.toNat ∧ c.toNat ≤ r.high ∧ (c.toNat - r.low) % r.step = 0 then
    match r.target with
    | [n] => some [Char.ofNat (n + (c.toNat - r.low))]
    | l => some (l.map Char.ofNat)
  else none

/-- A character as it stands in a domain: itself, nothing, or others. Some may not stand there. -/
def mapChar (c : Char) : Option (List Char) :=
  if c.toNat < 0x80 then some [c.toLower]
  else if domainValid.contains c then some [c]
  else if domainIgnored.contains c then some []
  else domainReplacements.findSome? (·.of? c)

/-- Marks, with which no label begins. -/
def isCombining (c : Char) : Bool :=
  0x80 ≤ c.toNat && ["mn", "mc", "me"].any fun n => Unicode.inRow Unicode.categoryTable n c

/-- Joiners stand after a sign that silences a vowel, or, where they part letters, between letters
that would join. -/
def joinersFit (before : List Char) : List Char → Bool
  | [] => true
  | c :: s =>
    (match c.toNat with
      | 0x200C => afterVirama before ||
          (Unicode.joins ["l", "d"] before && Unicode.joins ["r", "d"] s)
      | 0x200D => afterVirama before
      | _ => true) && joinersFit (c :: before) s
where
  afterVirama : List Char → Bool
    | d :: _ => Unicode.combiningClass d.toNat = 9
    | [] => false

/-- A label may stand in a domain. -/
def isLabel (s : List Char) : Bool :=
  s.all (fun c => mapChar c = some [c] && !deniedInDomain c) &&
    !(s.head?.any isCombining) && joinersFit [] s

/-- The mark of labels in punycode. -/
def punycodeMark : List Char := "xn--".toList

def isAsciiText (s : List Char) : Bool := s.all fun c => c.toNat < 0x80

/-- The characters of a label. One in punycode has to stand for a label in normal form that is not
ASCII. -/
def readLabel (s : List Char) : Option (List Char) :=
  if s.take 4 = punycodeMark then do
    let l ← Punycode.decode (s.drop 4)
    if isAsciiText l ∨ Unicode.normalForm l ≠ l then none else some l
  else some s

/-- A label in ASCII. -/
def renderLabel (s : List Char) : List Char :=
  if isAsciiText s then s else punycodeMark ++ Punycode.encode s

/-- A domain in ASCII. If a label is written from right to left, every label keeps to a direction. -/
def domainToAscii? (bytes : List UInt8) : Option (List Char) := do
  let s ← Text.Utf8.text? bytes
  let mapped := (← s.toList.mapM mapChar).flatten
  let normal := if isAsciiText mapped then mapped else Unicode.normalForm mapped
  let labels ← (Text.pieces '.' normal).mapM readLabel
  let isRight := labels.any fun l => !isAsciiText l && l.any fun c => (Unicode.direction c).isRight
  if labels.all isLabel ∧ (isRight → labels.all Unicode.keepsDirection) then
    some (".".toList.intercalate (labels.map renderLabel))
  else none

end Killfile.Url
