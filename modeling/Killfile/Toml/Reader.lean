import Killfile.Text.Utf8
import Killfile.Toml
import Killfile.Toml.Scalar

/-! Reading documents of TOML, line by line. -/

namespace Killfile.Toml

open Url (hexValue?)

def isSpace (c : Char) : Bool := c == ' ' || c == '\t'

def skipSpaces (s : List Char) : List Char := s.dropWhile isSpace

/-- Control characters other than the tab stand in no text and no comment. -/
def isControl (c : Char) : Bool := (c.toNat < 0x20 && c != '\t') || c.toNat == 0x7F

/-- What follows the end of a line. -/
def lineEnd? : List Char → Option (List Char)
  | '\n' :: s => some s
  | '\r' :: '\n' :: s => some s
  | _ => none

/-- Skips what remains of a line: spaces and a comment. -/
def finishLine (s : List Char) : Option (List Char) :=
  match skipSpaces s with
  | [] => some []
  | '#' :: r =>
    match r.dropWhile (!isControl ·) with
    | [] => some []
    | r => lineEnd? r
  | r => lineEnd? r

/-- Skips spaces, ends of lines and comments. The mark tells that a comment is open. -/
def skipBlanks : Bool → List Char → Option (List Char)
  | _, [] => some []
  | _, '\n' :: s => skipBlanks false s
  | _, '\r' :: '\n' :: s => skipBlanks false s
  | true, c :: s => if isControl c then none else skipBlanks true s
  | false, c :: s =>
    if isSpace c then skipBlanks false s
    else if c = '#' then skipBlanks true s
    else some (c :: s)

/-- The character of an escape of one letter. -/
def simpleEscape? : Char → Option Char
  | 'b' => some '\x08'
  | 't' => some '\t'
  | 'n' => some '\n'
  | 'f' => some '\x0c'
  | 'r' => some '\r'
  | 'e' => some '\x1b'
  | '"' => some '"'
  | '\\' => some '\\'
  | _ => none

/-- Digits in the escape of a code point. -/
def escapeWidth? : Char → Option Nat
  | 'x' => some 2
  | 'u' => some 4
  | 'U' => some 8
  | _ => none

/-- The character of an escape after its backslash. -/
def readEscape : List Char → Option (Char × List Char)
  | [] => none
  | c :: s =>
    match escapeWidth? c with
    | none => (simpleEscape? c).map (·, s)
    | some n =>
      let ds := s.take n
      if ds.length = n ∧ ds.all (isDigitOf 16) then
        (Text.Utf8.scalar? (digitsValue 16 ds)).map (·, s.drop n)
      else none

/-- A text in double quotes after the first of them. The number bounds its length. -/
def readQuoted : Nat → List Char → Option (List Char × List Char)
  | 0, _ => none
  | fuel + 1, s =>
    match s with
    | [] => none
    | '"' :: r => some ([], r)
    | '\\' :: r => do
      let (c, r) ← readEscape r
      let (t, r) ← readQuoted fuel r
      some (c :: t, r)
    | c :: r =>
      if isControl c then none else (readQuoted fuel r).map fun (t, r) => (c :: t, r)

/-- A text in single quotes after the first of them. -/
def readLiteral (s : List Char) : Option (List Char × List Char) :=
  match s.dropWhile fun c => c != '\'' && !isControl c with
  | '\'' :: r => some (s.takeWhile fun c => c != '\'' && !isControl c, r)
  | _ => none

/-- Three quotes close a text of several lines. Up to two more before them belong to it. -/
def closing? (q : Char) : List Char → Option (List Char × List Char)
  | a :: b :: c :: s =>
    if a = q ∧ b = q ∧ c = q then
      match s with
      | d :: e :: r =>
        if d = q then if e = q then some ([q, q], r) else some ([q], e :: r) else some ([], s)
      | [d] => if d = q then some ([q], []) else some ([], s)
      | [] => some ([], s)
    else none
  | _ => none

/-- Skips spaces and ends of lines. -/
def skipEnds : List Char → List Char
  | '\r' :: '\n' :: s => skipEnds s
  | '\n' :: s => skipEnds s
  | ' ' :: s => skipEnds s
  | '\t' :: s => skipEnds s
  | s => s

/-- A backslash before the end of a line takes with it the blanks up to the next text. -/
def skipContinuation (s : List Char) : Option (List Char) := (lineEnd? (skipSpaces s)).map skipEnds

/-- A text of several lines in double quotes, after the first three of them. -/
def readLongQuoted : Nat → List Char → Option (List Char × List Char)
  | 0, _ => none
  | fuel + 1, s =>
    match closing? '"' s with
    | some r => some r
    | none =>
      match s with
      | [] => none
      | '\\' :: r =>
        match skipContinuation r with
        | some r => readLongQuoted fuel r
        | none => do
          let (c, r) ← readEscape r
          let (t, r) ← readLongQuoted fuel r
          some (c :: t, r)
      | '\r' :: '\n' :: r => (readLongQuoted fuel r).map fun (t, r) => ('\r' :: '\n' :: t, r)
      | c :: r =>
        if isControl c && c != '\n' then none
        else (readLongQuoted fuel r).map fun (t, r) => (c :: t, r)

/-- A text of several lines in single quotes, after the first three of them. -/
def readLongLiteral : Nat → List Char → Option (List Char × List Char)
  | 0, _ => none
  | fuel + 1, s =>
    match closing? '\'' s with
    | some r => some r
    | none =>
      match s with
      | [] => none
      | '\r' :: '\n' :: r => (readLongLiteral fuel r).map fun (t, r) => ('\r' :: '\n' :: t, r)
      | c :: r =>
        if isControl c && c != '\n' then none
        else (readLongLiteral fuel r).map fun (t, r) => (c :: t, r)

/-- The end of the line on which a text of several lines begins does not belong to it. -/
def skipFirstEnd (s : List Char) : List Char := (lineEnd? s).getD s

/-- A text that is a value. -/
def readString (s : List Char) : Option (List Char × List Char) :=
  match s with
  | '"' :: '"' :: '"' :: r => readLongQuoted (r.length + 1) (skipFirstEnd r)
  | '\'' :: '\'' :: '\'' :: r => readLongLiteral (r.length + 1) (skipFirstEnd r)
  | '"' :: r => readQuoted (r.length + 1) r
  | '\'' :: r => readLiteral r
  | _ => none

def isKeyChar (c : Char) : Bool := c.isAlphanum || c == '_' || c == '-'

/-- One key: bare or in quotes. -/
def readKey (s : List Char) : Option (String × List Char) :=
  match s with
  | '"' :: r => (readQuoted (r.length + 1) r).map fun (k, r) => (.ofList k, r)
  | '\'' :: r => (readLiteral r).map fun (k, r) => (.ofList k, r)
  | _ =>
    match s.takeWhile isKeyChar with
    | [] => none
    | k => some (.ofList k, s.dropWhile isKeyChar)

/-- Nesting of brackets and of dotted keys is bounded. -/
def nestingBound : Nat := 80

/-- Keys with points between them, spaces around these. The keys before the last come first. -/
def readKeys : Nat → List Char → Option (List String × String × List Char)
  | 0, _ => none
  | fuel + 1, s => do
    let (k, s) ← readKey (skipSpaces s)
    match skipSpaces s with
    | '.' :: s => do
      let (path, last, s) ← readKeys fuel s
      some (k :: path, last, s)
    | s => some ([], k, s)

/-- Keys up to an equals sign. -/
def readAssigned (s : List Char) : Option (List String × String × List Char) := do
  match ← readKeys (nestingBound + 1) s with
  | (path, k, '=' :: s) => some (path, k, skipSpaces s)
  | _ => none

/-- A value without quotes and brackets. -/
def readScalar (s : List Char) : Option (Toml × List Char) :=
  let (t, r) := splitScalar s
  if isScalar t then some (.plain, r) else none

mutual
/-- A value inside of so many brackets. The first number bounds the steps. -/
def readValue : Nat → Nat → List Char → Option (Toml × List Char)
  | 0, _, _ => none
  | fuel + 1, depth, s =>
    match s with
    | '"' :: _ => (readString s).map fun (t, r) => (.string (.ofList t), r)
    | '\'' :: _ => (readString s).map fun (t, r) => (.string (.ofList t), r)
    | '[' :: r =>
      if depth = nestingBound then none
      else (readItems fuel (depth + 1) r).map fun (l, r) => (.array l, r)
    | '\x7b' :: r =>
      if depth = nestingBound then none
      else (readMembers fuel (depth + 1) [] r).map fun (ms, r) => (.table .closed ms, r)
    | _ => readScalar s

/-- Items up to the closing bracket. The last one may have a comma after it. -/
def readItems : Nat → Nat → List Char → Option (List Toml × List Char)
  | 0, _, _ => none
  | fuel + 1, depth, s => do
    match ← skipBlanks false s with
    | ']' :: r => some ([], r)
    | s => do
      let (v, s) ← readValue fuel depth s
      match ← skipBlanks false s with
      | ',' :: r => (readItems fuel depth r).map fun (l, r) => (v :: l, r)
      | ']' :: r => some ([v], r)
      | _ => none

/-- Members up to the closing brace, added to those before them. The last one may have a comma after
it. -/
def readMembers : Nat → Nat → Members → List Char → Option (Members × List Char)
  | 0, _, _, _ => none
  | fuel + 1, depth, ms, s => do
    match ← skipBlanks false s with
    | '\x7d' :: r => some (ms, r)
    | s => do
      let (path, k, s) ← readAssigned s
      let (v, s) ← readValue fuel depth s
      let (_, ms) ← addDotted path k v .closed ms
      match ← skipBlanks false s with
      | ',' :: r => readMembers fuel depth ms r
      | '\x7d' :: r => some (ms, r)
      | _ => none
end

/-- The keys of a header up to its closing bracket. -/
def readHeader (s : List Char) : Option (List String × String × List Char) := do
  match ← readKeys (nestingBound + 1) s with
  | (path, k, ']' :: s) => some (path, k, s)
  | _ => none

/-- One line that is not blank. -/
def readLine (s : List Char) : Option (Line × List Char) := do
  match s with
  | '[' :: '[' :: r =>
    match ← readHeader r with
    | (path, k, ']' :: r) => some (.item path k, r)
    | _ => none
  | '[' :: r =>
    let (path, k, r) ← readHeader r
    some (.table path k, r)
  | _ =>
    let (path, k, r) ← readAssigned s
    let (v, r) ← readValue (2 * r.length + 2) 0 r
    some (.entry path k v, r)

/-- Lines up to the end. The number bounds them. -/
def readLines : Nat → List Char → Option (List Line)
  | 0, _ => none
  | fuel + 1, s => do
    match ← skipBlanks false s with
    | [] => some []
    | s => do
      let (line, s) ← readLine s
      let s ← finishLine s
      (readLines fuel s).map (line :: ·)

/-- Reads a document. A byte order mark at its beginning does not belong to it. -/
def parse (s : List Char) : Option Members := do
  let s := if s.head? = some (Char.ofNat 0xFEFF) then s.tail else s
  ofLines (← readLines (s.length + 1) s)

end Killfile.Toml
