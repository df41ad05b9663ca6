import Killfile.Regex.Bracket
import Killfile.Unicode.Property

/-! Reading a pattern into a tree. -/

namespace Killfile.Regex

/-- An expression that is not complete: a group waits for its end, an alternation for its last
branch. Finished parts come in reverse. -/
inductive Frame where
  | group (before : List Ast) (kind : GroupKind) (verbose : Bool)
  | alternation (branches : List Ast)

/-- Where reading stands: the open frames, the parts of the innermost sequence in reverse, the names
given to groups so far, and the verbose switch. -/
structure ParseState where
  frames : List Frame := []
  items : List Ast := []
  names : List (List Char) := []
  verbose : Bool := false

/-- A group name begins with a letter or underscore and goes on with letters, numbers, underscores,
dots and brackets. -/
def isGroupName : List Char → Bool
  | [] => false
  | c :: s =>
    (c == '_' || Unicode.alphabetic.contains c) &&
      s.all fun d => d == '_' || d == '.' || d == '[' || d == ']' || Unicode.alphanumeric.contains d

/-- Switches as written: letters, with a hyphen before those that are put off. None occurs twice,
and something follows the hyphen. -/
def readFlags (on : Bool) : List Char → Option (List FlagChange)
  | [] => some []
  | '-' :: s => if on ∧ s ≠ [] then readFlags false s else none
  | c :: s => do
    let flag ← Flag.ofLetter c
    let rest ← readFlags on s
    if rest.any fun r => r.flag = flag then none else some (⟨flag, on⟩ :: rest)

/-- Where the verbose switch is put by changes, if they name it. -/
def verboseAfter (changes : List FlagChange) (verbose : Bool) : Bool :=
  match changes.find? fun c => c.flag = .verbose with
  | some c => c.on
  | none => verbose

/-- Opens a group. -/
def ParseState.enter (st : ParseState) (kind : GroupKind) (verbose : Bool) : ParseState :=
  { st with frames := .group st.items kind st.verbose :: st.frames, items := [], verbose }

/-- A group with a name, from its first character on. -/
def openNamed (st : ParseState) (s : List Char) : Option (ParseState × List Char) :=
  match s.dropWhile (· != '>') with
  | [] => none
  | _ :: r =>
    let name := s.takeWhile (· != '>')
    if isGroupName name ∧ name ∉ st.names then
      some ({ st.enter .capture st.verbose with names := name :: st.names }, r)
    else none

/-- Switches after a question mark, for the rest of the group or for a group of their own. -/
def openFlags (st : ParseState) (s : List Char) : Option (ParseState × List Char) := do
  let isEnd := fun c : Char => c == ':' || c == ')'
  let changes ← readFlags true (s.takeWhile (!isEnd ·))
  match s.dropWhile (!isEnd ·) with
  | ':' :: r => some (st.enter (.plain changes) (verboseAfter changes st.verbose), r)
  | ')' :: r =>
    if changes.isEmpty then none
    else some ({ st with
      items := .flags changes :: st.items, verbose := verboseAfter changes st.verbose }, r)
  | _ => none

/-- What follows an opening parenthesis. Conditions on what lies around are not part of patterns. -/
def openGroup (st : ParseState) (s : List Char) : Option (ParseState × List Char) :=
  match skip st.verbose s with
  | '?' :: '=' :: _ => none
  | '?' :: '!' :: _ => none
  | '?' :: '<' :: '=' :: _ => none
  | '?' :: '<' :: '!' :: _ => none
  | '?' :: 'P' :: '<' :: r => openNamed st r
  | '?' :: '<' :: r => openNamed st r
  | '?' :: r => openFlags st r
  | r => some (st.enter .capture st.verbose, r)

/-- Ends the branches of an alternation, if one is under way. -/
def closeBranches (items : List Ast) : List Frame → Ast × List Frame
  | .alternation branches :: frames =>
    (.alternation (.sequence items.reverse :: branches).reverse, frames)
  | frames => (.sequence items.reverse, frames)

def ParseState.leave (st : ParseState) : Option ParseState :=
  match closeBranches st.items st.frames with
  | (body, .group before kind verbose :: frames) =>
    some { st with frames, items := .group kind body :: before, verbose }
  | _ => none

/-- Ends a branch and begins the next. -/
def ParseState.branch (st : ParseState) : ParseState :=
  match st.frames with
  | .alternation branches :: frames =>
    { st with frames := .alternation (.sequence st.items.reverse :: branches) :: frames, items := [] }
  | frames => { st with frames := .alternation [.sequence st.items.reverse] :: frames, items := [] }

/-- Repeats the last part of the sequence. Switches cannot be repeated. -/
def ParseState.repeat (st : ParseState) (min : Nat) (max : Option Nat) : Option ParseState :=
  match st.items with
  | [] => none
  | .flags _ :: _ => none
  | a :: items => some { st with items := .repetition min max a :: items }

/-- A question mark after a repetition prefers few repetitions, which changes no set of matches. -/
def skipLazy : List Char → List Char
  | '?' :: s => s
  | s => s

def ParseState.push (st : ParseState) (a : Ast) : ParseState := { st with items := a :: st.items }

/-- Reads one part of a pattern from its first character. -/
def ParseState.step (st : ParseState) (c : Char) (s : List Char) :
    Option (ParseState × List Char) :=
  match c with
  | '(' => openGroup st s
  | ')' => st.leave.map fun st => (st, s)
  | '|' => some (st.branch, s)
  | '[' => (bracketed st.verbose s).map fun (set, r) => (st.push (.set set), r)
  | '?' => (st.repeat 0 (some 1)).map fun st => (st, skipLazy s)
  | '*' => (st.repeat 0 none).map fun st => (st, skipLazy s)
  | '+' => (st.repeat 1 none).map fun st => (st, skipLazy s)
  | '\x7b' => do
    let ((min, max), r) ← bounds st.verbose s
    let st ← st.repeat min max
    some (st, skipLazy (skip st.verbose r))
  | '\\' => (escape st.verbose s).map fun (a, r) => (st.push a, r)
  | '.' => some (st.push .dot, s)
  | '^' => some (st.push (.anchor .lineStart), s)
  | '$' => some (st.push (.anchor .lineEnd), s)
  | _ => some (st.push (.char c false), s)

/-- The tree at the end of the text, when all groups are closed. -/
def ParseState.finish (st : ParseState) : Option Ast :=
  match closeBranches st.items st.frames with
  | (a, []) => some a
  | _ => none

/-- Reads parts to the end of the text. Each takes at least one character. -/
def parseLoop : Nat → ParseState → List Char → Option Ast
  | 0, st, s => if skip st.verbose s = [] then st.finish else none
  | fuel + 1, st, s =>
    match skip st.verbose s with
    | [] => st.finish
    | c :: s => do
      let (st, r) ← st.step c s
      parseLoop fuel st r

/-- How deeply expressions may nest. -/
def nestingLimit : Nat := 250

/-- The tree of a pattern, if it is well formed and does not nest too deeply. -/
def parse (s : List Char) : Option Ast :=
  (parseLoop s.length {} s).filter fun a => a.depth ≤ nestingLimit

end Killfile.Regex
