import Killfile.Regex.Escape

/-! Classes in brackets: items, ranges, named ASCII classes, nesting and set operations. -/

namespace Killfile.Regex

/-- The ASCII classes that have names. -/
def posixClass? (name : List Char) : Option (List (Char × Char)) :=
  match String.ofList name with
  | "alnum" => some [('0', '9'), ('A', 'Z'), ('a', 'z')]
  | "alpha" => some [('A', 'Z'), ('a', 'z')]
  | "ascii" => some [('\x00', '\x7f')]
  | "blank" => some [('\t', '\t'), (' ', ' ')]
  | "cntrl" => some [('\x00', '\x1f'), ('\x7f', '\x7f')]
  | "digit" => some [('0', '9')]
  | "graph" => some [('!', '~')]
  | "lower" => some [('a', 'z')]
  | "print" => some [(' ', '~')]
  | "punct" => some [('!', '/'), (':', '@'), ('[', '\x60'), ('\x7b', '~')]
  | "space" => some [('\t', '\t'), ('\n', '\n'), ('\x0b', '\x0b'), ('\x0c', '\x0c'), ('\r', '\r'),
      (' ', ' ')]
  | "upper" => some [('A', 'Z')]
  | "word" => some [('0', '9'), ('A', 'Z'), ('_', '_'), ('a', 'z')]
  | "xdigit" => some [('0', '9'), ('A', 'F'), ('a', 'f')]
  | _ => none

/-- A named ASCII class after its opening bracket. Anything else is no such class, and the bracket
then opens an ordinary one. -/
def posixItem : List Char → Option (ClassSet × List Char)
  | ':' :: s =>
    let (negated, s) := match s with
      | '^' :: t => (true, t)
      | _ => (false, s)
    match s.dropWhile (· != ':') with
    | ':' :: ']' :: r =>
      (posixClass? (s.takeWhile (· != ':'))).map fun members => (.posix members negated, r)
    | _ => none
  | _ => none

/-- The character after the current one as the range reader sees it: in verbose text blanks are
passed over, and of a comment only its hash and the blanks after that. -/
def peekVerbose (inComment : Bool) : List Char → Option Char
  | [] => none
  | c :: s =>
    if isBlank c then peekVerbose inComment s
    else if !inComment && c == '#' then peekVerbose true s
    else some c
where isBlank := Text.isBlank

def peek (verbose : Bool) (s : List Char) : Option Char :=
  if verbose then (peekVerbose false s).or s.head? else s.head?

/-- One member of a bracket before it is known whether a range begins there. -/
def member (verbose : Bool) : List Char → Option (Ast × List Char)
  | [] => none
  | '\\' :: s => escape verbose s
  | c :: s => some (.char c false, s)

/-- A member that stands alone. Anchors have no place in brackets. -/
def memberSet : Ast → Option ClassSet
  | .char c _ => some (.char c)
  | .perl kind negated => some (.perl kind negated)
  | .property query negated => some (.property query negated)
  | _ => none

/-- A member, or a range from one to another. -/
def rangeItem (verbose : Bool) (s : List Char) : Option (ClassSet × List Char) := do
  let (a, r) ← member verbose s
  match skip verbose r with
  | [] => none
  | '-' :: t =>
    if peek verbose t = some ']' ∨ peek verbose t = some '-' then
      (memberSet a).map fun m => (m, '-' :: t)
    else
      let (b, r) ← member verbose (skip verbose t)
      match a, b with
      | .char c _, .char d _ => if c ≤ d then some (.range c d, r) else none
      | _, _ => none
  | r => (memberSet a).map fun m => (m, r)

/-- Hyphens at the front of a bracket stand for themselves. At least one character has to follow. -/
def leadingHyphens (verbose : Bool) : Nat → List ClassSet → List Char →
    Option (List ClassSet × List Char)
  | _, _, [] => none
  | fuel + 1, items, '-' :: s => leadingHyphens verbose fuel (.char '-' :: items) (skip verbose s)
  | _, items, s => some (items, s)

/-- What follows an opening bracket: a caret, hyphens, and a closing bracket that stands for itself.
The items come in reverse. -/
def openBracket (verbose : Bool) (s : List Char) : Option (Bool × List ClassSet × List Char) := do
  let s := skip verbose s
  let (negated, s) := match s with
    | '^' :: t => (true, skip verbose t)
    | _ => (false, s)
  match ← leadingHyphens verbose s.length [] s with
  | ([], ']' :: t) =>
    match skip verbose t with
    | [] => none
    | t => some (negated, [.char ']'], t)
  | (items, t) => some (negated, items, t)

/-- What an open bracket waits with: the items before it and its negation, or the left side of an
operation inside it. -/
inductive BracketFrame where
  | opened (items : List ClassSet) (negated : Bool)
  | operand (op : SetOperation) (left : ClassSet)

/-- Ends the right side of an operation, if one is under way. -/
def applyOperation (right : ClassSet) : List BracketFrame → ClassSet × List BracketFrame
  | .operand op left :: frames => (.operation op left right, frames)
  | frames => (right, frames)

/-- Begins the right side of an operation. Operations group to the left. -/
def pushOperation (op : SetOperation) (items : List ClassSet) (frames : List BracketFrame) :
    List BracketFrame :=
  let (left, frames) := applyOperation (.together items.reverse) frames
  .operand op left :: frames

/-- Reads items, given in reverse, until the outermost bracket closes. -/
def bracketLoop (verbose : Bool) :
    Nat → List BracketFrame → List ClassSet → List Char → Option (ClassSet × List Char)
  | 0, _, _, _ => none
  | fuel + 1, frames, items, s =>
    match skip verbose s with
    | [] => none
    | '[' :: s =>
      match posixItem s with
      | some (item, r) => bracketLoop verbose fuel frames (item :: items) r
      | none => do
        let (negated, inner, r) ← openBracket verbose s
        bracketLoop verbose fuel (.opened items negated :: frames) inner r
    | ']' :: s =>
      match applyOperation (.together items.reverse) frames with
      | (whole, [.opened _ negated]) => some (.bracket whole negated, s)
      | (whole, .opened before negated :: frames) =>
        bracketLoop verbose fuel frames (.bracket whole negated :: before) s
      | _ => none
    | '&' :: '&' :: s => bracketLoop verbose fuel (pushOperation .intersection items frames) [] s
    | '-' :: '-' :: s => bracketLoop verbose fuel (pushOperation .difference items frames) [] s
    | '~' :: '~' :: s =>
      bracketLoop verbose fuel (pushOperation .symmetricDifference items frames) [] s
    | s => do
      let (item, r) ← rangeItem verbose s
      bracketLoop verbose fuel frames (item :: items) r

/-- A class after its opening bracket. -/
def bracketed (verbose : Bool) (s : List Char) : Option (ClassSet × List Char) := do
  let (negated, items, r) ← openBracket verbose s
  bracketLoop verbose (r.length + 1) [.opened [] negated] items r

end Killfile.Regex
