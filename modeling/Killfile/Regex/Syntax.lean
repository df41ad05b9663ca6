/-! Patterns as written: the tree that the text of a regular expression stands for. -/

namespace Killfile.Regex

/-- Switches that a pattern can turn on and off. -/
inductive Flag where
  | ignoreCase | multiLine | dotAll | swapGreed | unicode | crlf | verbose
deriving DecidableEq, Repr

/-- The letter of each switch. -/
def Flag.ofLetter : Char → Option Flag
  | 'i' => some .ignoreCase
  | 'm' => some .multiLine
  | 's' => some .dotAll
  | 'U' => some .swapGreed
  | 'u' => some .unicode
  | 'R' => some .crlf
  | 'x' => some .verbose
  | _ => none

/-- A switch and the position it is put in. -/
structure FlagChange where
  flag : Flag
  on : Bool
deriving DecidableEq, Repr

/-- Conditions on a position that consume nothing. -/
inductive Anchor where
  | lineStart | lineEnd | textStart | textEnd
  | boundary | notBoundary | wordStart | wordEnd | wordStartHalf | wordEndHalf
deriving DecidableEq, Repr

inductive PerlClass where
  | digit | space | word
deriving DecidableEq, Repr

/-- What a property class asks for: a lone name, or a property and its value. -/
inductive PropertyQuery where
  | named (name : List Char)
  | valued (property value : List Char)
deriving DecidableEq, Repr

inductive SetOperation where
  | intersection | difference | symmetricDifference
deriving DecidableEq, Repr

/-- Classes in brackets and what stands inside them. -/
inductive ClassSet where
  | nothing
  | char (c : Char)
  | range (first last : Char)
  | posix (members : List (Char × Char)) (negated : Bool)
  | property (query : PropertyQuery) (negated : Bool)
  | perl (kind : PerlClass) (negated : Bool)
  | bracket (inner : ClassSet) (negated : Bool)
  | union (items : List ClassSet)
  | operation (op : SetOperation) (left right : ClassSet)

/-- Groups that capture, and groups that may change switches instead. -/
inductive GroupKind where
  | capture
  | plain (changes : List FlagChange)
deriving DecidableEq, Repr

inductive Ast where
  | empty
  | flags (changes : List FlagChange)
  /-- The mark tells a character written as two hexadecimal digits, which may mean a byte. -/
  | char (c : Char) (asByte : Bool)
  | dot
  | anchor (a : Anchor)
  | property (query : PropertyQuery) (negated : Bool)
  | perl (kind : PerlClass) (negated : Bool)
  | set (s : ClassSet)
  | repetition (min : Nat) (max : Option Nat) (body : Ast)
  | group (kind : GroupKind) (body : Ast)
  | concat (items : List Ast)
  | alternation (items : List Ast)

mutual
/-- Nesting of brackets, unions and operations. -/
def ClassSet.depth : ClassSet → Nat
  | .bracket s _ => s.depth + 1
  | .union items => ClassSet.depths items + 1
  | .operation _ l r => max l.depth r.depth + 1
  | _ => 0

def ClassSet.depths : List ClassSet → Nat
  | [] => 0
  | s :: rest => max s.depth (ClassSet.depths rest)
end

mutual
/-- Nesting of everything that holds other expressions. -/
def Ast.depth : Ast → Nat
  | .set s => s.depth
  | .repetition _ _ a => a.depth + 1
  | .group _ a => a.depth + 1
  | .concat items => Ast.depths items + 1
  | .alternation items => Ast.depths items + 1
  | _ => 0

def Ast.depths : List Ast → Nat
  | [] => 0
  | a :: rest => max a.depth (Ast.depths rest)
end

/-- A sequence of expressions. One alone needs no node of its own. -/
def Ast.sequence : List Ast → Ast
  | [] => .empty
  | [a] => a
  | items => .concat items

/-- Members of a bracket, side by side. -/
def ClassSet.together : List ClassSet → ClassSet
  | [] => .nothing
  | [s] => s
  | items => .union items

end Killfile.Regex
