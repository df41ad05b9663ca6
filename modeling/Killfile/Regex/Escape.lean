import Killfile.Regex.Syntax
import Killfile.Text.Blank

/-! Escapes, numbers and names inside a pattern. Readers return what is left of the text, and the
verbose switch lets blanks and comments stand between the characters they read. -/

namespace Killfile.Regex

open Text (isBlank)

/-- Skips blanks, and comments from a hash to the end of the line. -/
def skipBlanks (inComment : Bool) : List Char → List Char
  | [] => []
  | c :: s =>
    if inComment then skipBlanks (c != '\n') s
    else if isBlank c then skipBlanks false s
    else if c = '#' then skipBlanks true s
    else c :: s

/-- In verbose text blanks and comments are skipped, elsewhere nothing is. -/
def skip (verbose : Bool) (s : List Char) : List Char :=
  if verbose then skipBlanks false s else s

@[simp] theorem skip_false (s : List Char) : skip false s = s := rfl

def isHexDigit (c : Char) : Bool :=
  c.isDigit || ('a' ≤ c && c ≤ 'f') || ('A' ≤ c && c ≤ 'F')

def hexDigitValue (c : Char) : Nat :=
  if c.isDigit then c.toNat - '0'.toNat
  else if 'a' ≤ c then c.toNat - 'a'.toNat + 10
  else c.toNat - 'A'.toNat + 10

/-- The character whose code point a hexadecimal numeral gives. Surrogates have none. -/
def charOfHex (digits : List Char) : Option Char :=
  let n := digits.foldl (fun n c => 16 * n + hexDigitValue c) 0
  if h : n.isValidChar then some (Char.ofNatAux n h) else none

/-- So many hexadecimal digits. -/
def hexDigits (verbose : Bool) : Nat → List Char → Option (List Char × List Char)
  | 0, s => some ([], s)
  | _ + 1, [] => none
  | n + 1, c :: s =>
    if isHexDigit c then
      (hexDigits verbose n (skip verbose s)).map fun (ds, r) => (c :: ds, r)
    else none

/-- All up to the closing brace. -/
def braced (verbose inComment : Bool) : List Char → Option (List Char × List Char)
  | [] => none
  | c :: s =>
    if verbose && inComment then braced verbose (c != '\n') s
    else if verbose && isBlank c then braced verbose false s
    else if verbose && c == '#' then braced verbose true s
    else if c = '}' then some ([], s)
    else (braced verbose false s).map fun (name, r) => (c :: name, r)

/-- The numeral after the letter of a hexadecimal escape: a fixed number of digits, or any in braces. -/
def hexEscape (verbose : Bool) (width : Nat) (s : List Char) : Option (Ast × List Char) :=
  match skip verbose s with
  | '{' :: s => do
    let (ds, r) ← braced verbose false s
    if ds.isEmpty || !ds.all isHexDigit then none
    else (charOfHex ds).map fun c => (.char c false, skip verbose r)
  | s => do
    let (ds, r) ← hexDigits verbose width s
    (charOfHex ds).map fun c => (.char c (width == 2 && c.toNat ≤ 0xFF), r)

/-- Splits a text at the first place where two characters stand. -/
def splitAtPair (a b : Char) : List Char → Option (List Char × List Char)
  | [] => none
  | [_] => none
  | c :: d :: s =>
    if c = a ∧ d = b then some ([], s)
    else (splitAtPair a b (d :: s)).map fun (l, r) => (c :: l, r)

/-- Splits a text at the first of a character. -/
def splitAtChar (a : Char) : List Char → Option (List Char × List Char)
  | [] => none
  | c :: s => if c = a then some ([], s) else (splitAtChar a s).map fun (l, r) => (c :: l, r)

/-- A property class from the text in its braces. An unequal sign negates it. -/
def propertyQuery (negated : Bool) (name : List Char) : Ast :=
  match splitAtPair '!' '=' name with
  | some (p, v) => .property (.valued p v) (!negated)
  | none => match (splitAtChar ':' name).or (splitAtChar '=' name) with
    | some (p, v) => .property (.valued p v) negated
    | none => .property (.named name) negated

/-- The name of a property after its escape letter: one character, or any in braces. -/
def propertyEscape (verbose negated : Bool) (s : List Char) : Option (Ast × List Char) :=
  match skip verbose s with
  | [] => none
  | '{' :: s => (braced verbose false s).map fun (name, r) => (propertyQuery negated name, r)
  | '\\' :: _ => none
  | c :: s => some (.property (.named [c]) negated, skip verbose s)

def isNameChar (c : Char) : Bool := ('a' ≤ c && c ≤ 'z') || ('A' ≤ c && c ≤ 'Z') || c == '-'

/-- Letters and hyphens, as in the names of word boundaries. -/
def boundaryName (verbose inComment : Bool) : List Char → List Char × List Char
  | [] => ([], [])
  | c :: s =>
    if verbose && inComment then boundaryName verbose (c != '\n') s
    else if verbose && isBlank c then boundaryName verbose false s
    else if verbose && c == '#' then boundaryName verbose true s
    else if isNameChar c then
      let (name, r) := boundaryName verbose false s
      (c :: name, r)
    else ([], c :: s)

/-- The anchor after the letter b: a name in braces picks a kind of boundary, while braces that
begin otherwise are left for a repetition. -/
def boundaryEscape (verbose : Bool) (s : List Char) : Option (Ast × List Char) :=
  match s with
  | '{' :: t =>
    match skip verbose t with
    | [] => none
    | c :: u =>
      if isNameChar c then
        match boundaryName verbose false (c :: u) with
        | (name, '}' :: r) =>
          if name = "start".toList then some (.anchor .wordStart, r)
          else if name = "end".toList then some (.anchor .wordEnd, r)
          else if name = "start-half".toList then some (.anchor .wordStartHalf, r)
          else if name = "end-half".toList then some (.anchor .wordEndHalf, r)
          else none
        | _ => none
      else some (.anchor .boundary, s)
  | _ => some (.anchor .boundary, s)

/-- Characters with a meaning of their own in patterns. -/
def isMeta (c : Char) : Bool := "\\.+*?()|[]\x7b\x7d^$#&-~".toList.contains c

/-- Characters that a backslash may stand before without giving them a meaning. -/
def isEscapable (c : Char) : Bool :=
  isMeta c || (c.toNat < 0x80 && !c.isAlphanum && c != '<' && c != '>')

/-- What follows a backslash. -/
def escape (verbose : Bool) : List Char → Option (Ast × List Char)
  | [] => none
  | c :: s =>
    match c with
    | 'x' => hexEscape verbose 2 s
    | 'u' => hexEscape verbose 4 s
    | 'U' => hexEscape verbose 8 s
    | 'p' => propertyEscape verbose false s
    | 'P' => propertyEscape verbose true s
    | 'd' => some (.perl .digit false, s)
    | 'D' => some (.perl .digit true, s)
    | 's' => some (.perl .space false, s)
    | 'S' => some (.perl .space true, s)
    | 'w' => some (.perl .word false, s)
    | 'W' => some (.perl .word true, s)
    | 'a' => some (.char '\x07' false, s)
    | 'f' => some (.char '\x0c' false, s)
    | 't' => some (.char '\t' false, s)
    | 'n' => some (.char '\n' false, s)
    | 'r' => some (.char '\r' false, s)
    | 'v' => some (.char '\x0b' false, s)
    | 'A' => some (.anchor .textStart, s)
    | 'z' => some (.anchor .textEnd, s)
    | 'b' => boundaryEscape verbose s
    | 'B' => some (.anchor .notBoundary, s)
    | '<' => some (.anchor .wordStart, s)
    | '>' => some (.anchor .wordEnd, s)
    | _ => if isEscapable c then some (.char c false, s) else none

/-- Digits of a decimal numeral. -/
def decimalDigits (verbose inComment : Bool) : List Char → List Char × List Char
  | [] => ([], [])
  | c :: s =>
    if verbose && inComment then decimalDigits verbose (c != '\n') s
    else if verbose && isBlank c then decimalDigits verbose false s
    else if verbose && c == '#' then decimalDigits verbose true s
    else if c.isDigit then
      let (ds, r) := decimalDigits verbose false s
      (c :: ds, r)
    else ([], c :: s)

def decimalValue (digits : List Char) : Nat :=
  digits.foldl (fun n c => 10 * n + (c.toNat - '0'.toNat)) 0

/-- A count with blanks around it. It is absent without digits or from 2 ^ 32 on. -/
def count (verbose : Bool) (s : List Char) : Option Nat × List Char :=
  let (ds, r) := decimalDigits verbose false (s.dropWhile isBlank)
  let n := if ds.isEmpty || decimalValue ds ≥ 4294967296 then none else some (decimalValue ds)
  (n, r.dropWhile isBlank)

/-- The least and greatest count after an opening brace, up to the closing one. -/
def bounds (verbose : Bool) (s : List Char) : Option ((Nat × Option Nat) × List Char) :=
  match count verbose (skip verbose s) with
  | (some n, '}' :: r) => some ((n, some n), r)
  | (some n, ',' :: r) =>
    match skip verbose r with
    | '}' :: r => some ((n, none), r)
    | r => match count verbose r with
      | (some m, '}' :: r) => if n ≤ m then some ((n, some m), r) else none
      | _ => none
  | _ => none

end Killfile.Regex
