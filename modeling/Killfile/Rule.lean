/-! Rules: which feeds they select, which part of an entry they look at and how. -/

namespace Killfile

/-- The part of an entry that a rule looks at. -/
inductive Attribute where
  | title | content | description | author | tag
  | unknown (name : String)
deriving DecidableEq, Repr

namespace Attribute

def name : Attribute → String
  | .title => "title"
  | .content => "content"
  | .description => "description"
  | .author => "author"
  | .tag => "tag"
  | .unknown s => s

def ofName : String → Attribute
  | "title" => .title
  | "content" => .content
  | "description" => .description
  | "author" => .author
  | "tag" => .tag
  | s => .unknown s

@[simp] theorem name_ofName (s : String) : (ofName s).name = s := by
  unfold ofName
  split <;> rfl

theorem ofName_injective {s t : String} (h : ofName s = ofName t) : s = t := by
  rw [← name_ofName s, h, name_ofName]

/-- The attribute has a meaning. -/
def isKnown : Attribute → Bool
  | .unknown _ => false
  | _ => true

end Attribute

/-- How the pattern of a rule is compared with a text. -/
inductive Operator where
  | matchesRegex | notMatchesRegex | containsTerm | notContainsTerm
  | unknown (symbol : String)
deriving DecidableEq, Repr

namespace Operator

def symbol : Operator → String
  | .matchesRegex => "=~"
  | .notMatchesRegex => "!~"
  | .containsTerm => "#"
  | .notContainsTerm => "!#"
  | .unknown s => s

def ofSymbol : String → Operator
  | "=~" => .matchesRegex
  | "!~" => .notMatchesRegex
  | "#" => .containsTerm
  | "!#" => .notContainsTerm
  | s => .unknown s

@[simp] theorem symbol_ofSymbol (s : String) : (ofSymbol s).symbol = s := by
  unfold ofSymbol
  split <;> rfl

theorem ofSymbol_injective {s t : String} (h : ofSymbol s = ofSymbol t) : s = t := by
  rw [← symbol_ofSymbol s, h, symbol_ofSymbol]

def isKnown : Operator → Bool
  | .unknown _ => false
  | _ => true

/-- The operator asks that the comparison fail. -/
def negated : Operator → Bool
  | .notMatchesRegex | .notContainsTerm => true
  | _ => false

end Operator

/-- One line of a killfile. The command is kept and means nothing. -/
structure Rule where
  command : String
  selector : String
  attr : Attribute
  operator : Operator
  pattern : String
deriving DecidableEq, Repr

namespace Rule

/-- The rule with these five texts. -/
def ofFields (command selector attr operator pattern : String) : Rule :=
  ⟨command, selector, .ofName attr, .ofSymbol operator, pattern⟩

/-- The delimiter of the filter clause: a backtick when the pattern holds a double quote. -/
def delimiter (pattern : List Char) : Char := if '"' ∈ pattern then '\x60' else '"'

/-- The filter clause between its delimiters. -/
def clause (attr operator pattern : List Char) : List Char :=
  delimiter pattern :: attr ++ ' ' :: operator ++ ' ' :: pattern ++ [delimiter pattern]

/-- The rule as a line of a killfile. -/
def render (r : Rule) : String :=
  String.ofList (r.command.toList ++ " \"".toList ++ r.selector.toList ++ "\" ".toList ++
    clause r.attr.name.toList r.operator.symbol.toList r.pattern.toList)

end Rule

end Killfile
