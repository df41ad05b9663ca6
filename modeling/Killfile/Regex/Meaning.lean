import Killfile.Regex.Syntax
import Killfile.Unicode.Case
import Killfile.Unicode.Property

/-! What the tree of a pattern means: sets of characters, conditions on positions, and the ways to
join and repeat them. Switches are resolved on the way. -/

namespace Killfile.Regex

/-- What may stand at a line end: a line feed alone, or carriage returns as well. -/
inductive LineEnd where
  | feed | returnFeed
deriving DecidableEq, Repr

/-- Conditions on a position between the character before and the character after it. -/
inductive Condition where
  | textStart | textEnd
  | lineStart (ends : LineEnd)
  | lineEnd (ends : LineEnd)
  | boundary (unicode : Bool)
  | notBoundary (unicode : Bool)
  | wordStart (unicode : Bool)
  | wordEnd (unicode : Bool)
  | wordStartHalf (unicode : Bool)
  | wordEndHalf (unicode : Bool)
deriving DecidableEq, Repr

end Regex

/-- Regular expressions over characters. -/
inductive Regex where
  | nothing
  | set (s : CharSet)
  | condition (c : Regex.Condition)
  | seq (a b : Regex)
  | alt (a b : Regex)
  | repetition (min : Nat) (max : Option Nat) (a : Regex)
  | capture (a : Regex)
deriving DecidableEq, Repr

namespace Regex

/-- The switches that change meanings. -/
structure Flags where
  ignoreCase : Bool := false
  multiLine : Bool := false
  dotAll : Bool := false
  unicode : Bool := true
  crlf : Bool := false
deriving DecidableEq, Repr

def Flags.change (f : Flags) (c : FlagChange) : Flags :=
  match c.flag with
  | .ignoreCase => { f with ignoreCase := c.on }
  | .multiLine => { f with multiLine := c.on }
  | .dotAll => { f with dotAll := c.on }
  | .unicode => { f with unicode := c.on }
  | .crlf => { f with crlf := c.on }
  | .swapGreed => f
  | .verbose => f

/-- Letters of ASCII that differ only in case. -/
def asciiOrbit (c : Char) : List Char :=
  if c.isAlpha then [c.toLower, c.toUpper] else [c]

/-- Adds the ASCII letters that differ only in case from a member. -/
def asciiClosure (s : CharSet) : CharSet :=
  s.union (CharSet.ofChars
    (((List.range 128).map Char.ofNat).filter fun c => (asciiOrbit c).any s.contains))

/-- Adds the characters that differ only in case from a member when case is to be ignored. -/
def Flags.fold (f : Flags) (s : CharSet) : CharSet :=
  if !f.ignoreCase then s
  else if f.unicode then Unicode.caseClosure s
  else asciiClosure s

/-- Without Unicode a set that is not ASCII could match parts of characters, so it is refused. -/
def Flags.admit (f : Flags) (s : CharSet) : Option CharSet :=
  if f.unicode || s.isAscii then some s else none

/-- Case folding comes before negation. -/
def Flags.finish (f : Flags) (negated : Bool) (s : CharSet) : Option CharSet :=
  f.admit (if negated then (f.fold s).compl else f.fold s)

/-- One character. Written as a byte beyond ASCII it has no meaning without Unicode. -/
def Flags.char (f : Flags) (c : Char) (asByte : Bool) : Option Regex :=
  if !f.unicode && asByte && c.toNat ≥ 0x80 then none
  else if !f.ignoreCase then some (.set (CharSet.singleton c))
  else some (.set (CharSet.ofChars (if f.unicode then Unicode.caseOrbit c else asciiOrbit c)))

/-- Any character, save line ends unless the switch lets the dot match them. -/
def Flags.dot (f : Flags) : Option Regex :=
  if !f.unicode then none
  else if f.dotAll then some (.set CharSet.full)
  else if f.crlf then some (.set (CharSet.ofChars ['\n', '\r']).compl)
  else some (.set (CharSet.singleton '\n').compl)

def Flags.condition (f : Flags) : Anchor → Condition
  | .lineStart =>
    if f.multiLine then .lineStart (if f.crlf then .returnFeed else .feed) else .textStart
  | .lineEnd => if f.multiLine then .lineEnd (if f.crlf then .returnFeed else .feed) else .textEnd
  | .textStart => .textStart
  | .textEnd => .textEnd
  | .boundary => .boundary f.unicode
  | .notBoundary => .notBoundary f.unicode
  | .wordStart => .wordStart f.unicode
  | .wordEnd => .wordEnd f.unicode
  | .wordStartHalf => .wordStartHalf f.unicode
  | .wordEndHalf => .wordEndHalf f.unicode

def ascii (members : List (Char × Char)) : CharSet :=
  CharSet.ofRanges (members.map fun r => (r.1.toNat, r.2.toNat))

/-- Digits, blanks and word characters, of Unicode or of ASCII. They are closed under case. -/
def Flags.perl (f : Flags) (kind : PerlClass) (negated : Bool) : Option CharSet :=
  let s := match kind, f.unicode with
    | .digit, true => Unicode.digit
    | .space, true => Unicode.whiteSpace
    | .word, true => Unicode.word
    | .digit, false => ascii [('0', '9')]
    | .space, false => ascii [('\t', '\r'), (' ', ' ')]
    | .word, false => ascii [('0', '9'), ('A', 'Z'), ('_', '_'), ('a', 'z')]
  f.admit (if negated then s.compl else s)

/-- Properties need Unicode. -/
def Flags.property (f : Flags) (query : PropertyQuery) (negated : Bool) : Option CharSet :=
  if !f.unicode then none
  else do
    let s ← match query with
      | .named name => Unicode.named? name
      | .valued property value => Unicode.valued? property value
    f.finish negated s

def SetOperation.apply : SetOperation → CharSet → CharSet → CharSet
  | .intersection, s, t => s.inter t
  | .difference, s, t => s.diff t
  | .symmetricDifference, s, t => s.symmDiff t

mutual
/-- The members of a class. -/
def ClassSet.meaning (f : Flags) : ClassSet → Option CharSet
  | .nothing => some .empty
  | .char c => f.admit (.singleton c)
  | .range a b => f.admit (.ofRanges [(a.toNat, b.toNat)])
  | .posix members negated => f.finish negated (ascii members)
  | .property query negated => f.property query negated
  | .perl kind negated => f.perl kind negated
  | .bracket inner negated => do f.finish negated (← inner.meaning f)
  | .union items => ClassSet.meanings f items
  | .operation op l r => do
    some (op.apply (f.fold (← l.meaning f)) (f.fold (← r.meaning f)))

/-- The members of several classes together. -/
def ClassSet.meanings (f : Flags) : List ClassSet → Option CharSet
  | [] => some .empty
  | s :: rest => do some ((← s.meaning f).union (← ClassSet.meanings f rest))
end

/-- The longest match in bytes, if there is one. It tells what can match only the empty text. -/
def maxLength : Regex → Option Nat
  | .nothing => some 0
  | .set s => if s.isEmpty then none else some 4
  | .condition _ => some 0
  | .seq a b => do some ((← a.maxLength) + (← b.maxLength))
  | .alt a b => do some (max (← a.maxLength) (← b.maxLength))
  | .repetition _ max a => do some ((← a.maxLength) * (← max))
  | .capture a => a.maxLength

/-- Repetition. What can match only the empty text is repeated at most once, and the trivial counts
need no repetition. -/
def times (min : Nat) (max : Option Nat) (a : Regex) : Regex :=
  let (min, max) := if a.maxLength = some 0 then (Nat.min min 1, some ((max.getD 1).min 1))
    else (min, max)
  if max = some 0 then .nothing
  else if min = 1 ∧ max = some 1 then a
  else .repetition min max a

/-- A sequence in which parts that match only the empty text are left out. -/
def andThen : Regex → Regex → Regex
  | .nothing, b => b
  | a, .nothing => a
  | a, b => .seq a b

/-- Parts one after the other. -/
def sequence (parts : List Regex) : Regex := parts.foldr andThen .nothing

/-- The parts of a sequence. -/
def parts : Regex → List Regex
  | .nothing => []
  | .seq a b => a.parts ++ b.parts
  | a => [a]

/-- A set of one character. -/
def isLetter : Regex → Bool
  | .set ⟨[(first, last)]⟩ => first == last
  | _ => false

/-- Parts in a row, of which characters that stand side by side are one. -/
def runs : List Regex → List (List Regex)
  | [] => []
  | a :: rest =>
    match runs rest with
    | (b :: run) :: more =>
      if a.isLetter && b.isLetter then (a :: b :: run) :: more else [a] :: (b :: run) :: more
    | more => [a] :: more

/-- Groups that capture are told apart by their numbers. -/
def hasCapture : Regex → Bool
  | .capture _ => true
  | .seq a b => a.hasCapture || b.hasCapture
  | .alt a b => a.hasCapture || b.hasCapture
  | .repetition _ _ a => a.hasCapture
  | _ => false

/-- What two rows begin with. -/
def commonStart : List (List Regex) → List (List Regex) → List (List Regex)
  | a :: l, b :: m => if a = b ∧ !a.any hasCapture then a :: commonStart l m else []
  | _, _ => []

/-- The branches of a choice. -/
def branches : Regex → List Regex
  | .alt a b => a.branches ++ b.branches
  | a => [a]

/-- Branches one beside the other. Where there are none nothing at all is matched. -/
def oneOf : List Regex → Regex
  | [] => .set .empty
  | [a] => a
  | a :: rest => .alt a (oneOf rest)

/-- The members of a branch that is a set. -/
def set? : Regex → Option CharSet
  | .set s => some s
  | _ => none

/-- Branches become one set if they all are single characters, or none is and they all are sets. -/
def joined (l : List Regex) : Regex :=
  if l.all isLetter || l.all (fun a => a.set?.isSome && !a.isLetter) then
    .set (.unions (l.filterMap set?))
  else oneOf l

/-- What all branches begin with, if they all have several parts. -/
def sharedStart (l : List Regex) : List (List Regex) :=
  match l.map fun a => runs a.parts with
  | [] => []
  | first :: rest =>
    if (first :: rest).all fun r => 1 < r.length then rest.foldl commonStart first else []

/-- A choice between branches. Those that are choices give their own branches, and what all of them
begin with is matched before the choice. -/
def choice (l : List Regex) : Regex :=
  let l := l.flatMap branches
  let start := (sharedStart l).flatten
  if start = [] then joined l
  else
    let rest := l.map fun a => sequence (a.parts.drop start.length)
    (sequence start).andThen (joined (rest.flatMap branches))

mutual
/-- The meaning of a tree under switches, and the switches in force after it. -/
def Ast.meaning (f : Flags) : Ast → Option (Regex × Flags)
  | .empty => some (.nothing, f)
  | .flags changes => some (.nothing, changes.foldl Flags.change f)
  | .char c asByte => do some (← f.char c asByte, f)
  | .dot => do some (← f.dot, f)
  | .anchor a => some (.condition (f.condition a), f)
  | .property query negated => do some (.set (← f.property query negated), f)
  | .perl kind negated => do some (.set (← f.perl kind negated), f)
  | .set s => do some (.set (← s.meaning f), f)
  | .repetition min max body => do
    let (a, f) ← body.meaning f
    some (times min max a, f)
  | .group .capture body => do
    let (a, _) ← body.meaning f
    some (.capture a, f)
  | .group (.plain changes) body => do
    let (a, _) ← body.meaning (changes.foldl Flags.change f)
    some (a, f)
  | .concat items => Ast.sequenceMeaning f items
  | .alternation items => do
    let (branches, f) ← Ast.branchMeanings f items
    some (choice branches, f)

def Ast.sequenceMeaning (f : Flags) : List Ast → Option (Regex × Flags)
  | [] => some (.nothing, f)
  | a :: rest => do
    let (a, f) ← a.meaning f
    let (b, f) ← Ast.sequenceMeaning f rest
    some (a.andThen b, f)

def Ast.branchMeanings (f : Flags) : List Ast → Option (List Regex × Flags)
  | [] => some ([], f)
  | a :: rest => do
    let (a, f) ← a.meaning f
    let (rest, f) ← Ast.branchMeanings f rest
    some (a :: rest, f)
end

end Regex

end Killfile
