import Killfile.Matcher
import Killfile.Rule.Selection

/-! Which entries of a feed the rules kill. -/

namespace Killfile

/-- Ids in ascending order, each once. -/
def insertId (n : Int) : List Int → List Int
  | [] => [n]
  | m :: l => if n < m then n :: m :: l else if n = m then m :: l else m :: insertId n l

namespace Rule

/-- A rule matches one of the texts, tried in order until one is found. -/
def matchesSome (r : Rule) : List String → Logged PatternCache Bool
  | [] => pure false
  | t :: ts => do
    if ← Matcher.matchesText r.operator r.pattern t then pure true else matchesSome r ts

/-- A rule matches an entry: a rule on tags when it matches some tag, any other when it matches the
text of its attribute. -/
def matchesEntry (r : Rule) (e : Entry) : Logged PatternCache Bool := matchesSome r (texts r.attr e)

/-- Some rule selects the feed. -/
def anySelects (rules : List Rule) (f : Feed) : Bool := rules.any (·.selects f)

/-- Every rule matches the entry, whatever it selects. -/
def allMatch (e : Entry) : List Rule → Logged PatternCache Bool
  | [] => pure true
  | r :: rules => do
    if ← r.matchesEntry e then allMatch e rules else pure false

/-- The event of an entry that a rule kills. -/
def matchEvent (r : Rule) (f : Feed) (e : Entry) : Event :=
  ⟨.info, "entry matches rules in the killfile",
    [("entry_id", .int e.id), ("feed_id", .int f.id), ("rule", .text r.render)]⟩

/-- Adds the ids of the entries that one rule matches. -/
def addMatches (r : Rule) (f : Feed) : List Entry → List Int → Logged PatternCache (List Int)
  | [], ids => pure ids
  | e :: es, ids => do
    if ← r.matchesEntry e then
      Logged.report (r.matchEvent f e)
      addMatches r f es (insertId e.id ids)
    else addMatches r f es ids

/-- Goes through the rules in order. From the first rule that selects the feed on, every rule is
applied, whatever it selects itself. -/
def killFrom (f : Feed) (es : List Entry) :
    Bool → List Rule → List Int → Logged PatternCache (List Int)
  | _, [], ids => pure ids
  | selected, r :: rules, ids =>
    if selected || r.selects f then do
      killFrom f es true rules (← r.addMatches f es ids)
    else killFrom f es false rules ids

/-- The ids of the entries of a feed that the rules kill. -/
def killSet (rules : List Rule) (f : Feed) (es : List Entry) : Logged PatternCache (List Int) :=
  killFrom f es false rules []

end Rule

end Killfile
