import Killfile.Log
import Killfile.Regex
import Killfile.Rule
import Killfile.Text.Blank

/-! Comparing the pattern of a rule with a text. The pattern is a regular expression or a list of
terms, and expressions are compiled once and kept. -/

namespace Killfile

open Text (pieces)

/-- The mark in front of a term in which case does not count. -/
def caseMark : List Char := "(?i)".toList

/-- The pattern of an ASCII word boundary. -/
def wordBoundary : List Char := "(?-u:\\b)".toList

/-- The pattern that finds a term as it is written, between word boundaries. -/
def termPattern (term : List Char) : String :=
  let (mark, word) := if term.take caseMark.length = caseMark
    then (caseMark, term.drop caseMark.length) else ([], term)
  String.ofList (mark ++ wordBoundary ++ Regex.escapeText word ++ wordBoundary)

/-- The terms of a list. Blanks belong to the terms. -/
def terms (list : String) : List (List Char) := pieces ',' list.toList

/-- Patterns tried so far with what they compiled to. -/
abbrev PatternCache := List (String × Option Regex)

namespace Matcher

/-- The event of a pattern that is no regular expression. -/
def invalidPattern (pattern : String) : Event :=
  ⟨.error, "invalid pattern in killfile, rule will not match", [("pattern", .text pattern)]⟩

/-- Looks a pattern up, or compiles it and keeps it. A pattern that does not compile is reported when
it is kept. -/
def compiled (pattern : String) : Logged PatternCache (Option Regex) := do
  match (← Logged.get).find? fun p => p.1 = pattern with
  | some p => pure p.2
  | none =>
    let r := Regex.compile pattern
    if r.isNone then Logged.report (invalidPattern pattern)
    Logged.set ((pattern, r) :: (← Logged.get))
    pure r

/-- Some term of a list is found. Terms after the first one found are not tried. -/
def findsTerm (text : String) : List (List Char) → Logged PatternCache Bool
  | [] => pure false
  | t :: ts => do
    match ← compiled (termPattern t) with
    | some r => if r.matchesText text then pure true else findsTerm text ts
    | none => findsTerm text ts

/-- Compares a pattern with a text by an operator. An expression that does not compile and an unknown
operator never match. -/
def matchesText (op : Operator) (pattern text : String) : Logged PatternCache Bool :=
  match op with
  | .matchesRegex | .notMatchesRegex => do
    match ← compiled pattern with
    | some r => pure (r.matchesText text != op.negated)
    | none => pure false
  | .containsTerm | .notContainsTerm => do
    pure ((← findsTerm text (terms pattern)) != op.negated)
  | .unknown _ => pure false

end Matcher

/-- Compares a pattern with a text without keeping anything. -/
def Operator.holds (op : Operator) (pattern text : String) : Bool :=
  let found := fun p : String => (Regex.compile p).map fun r => r.matchesText text
  match op with
  | .matchesRegex | .notMatchesRegex => (found pattern).any fun b => b != op.negated
  | .containsTerm | .notContainsTerm =>
    ((terms pattern).any fun t => (found (termPattern t)).any id) != op.negated
  | .unknown _ => false

end Killfile
