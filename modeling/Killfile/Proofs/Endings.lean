import Mathlib.Data.List.Basic
import Killfile.Proofs.Line
import Killfile.Proofs.Lines

/-! Ends of lines. A carriage return at the end of a line is a blank behind its clause and changes
nothing of what the line comes to, so it does not matter with which end lines are written. Nor does it
matter that the last line of a file has none when another file is put behind it. -/

namespace Killfile

open Text (isBlank)

namespace Rule

theorem not_isBlank_of_isDelimiter {d : Char} (h : d = '"' ∨ d = '\x60') : ¬ isBlank d = true := by
  rcases h with rfl | rfl
  · decide
  · decide

/-- A blank behind a line stands behind its clause, where everything is ignored. -/
theorem isLine_append_blank_iff {line c u a o p : List Char} {b : Char} (hb : isBlank b = true) :
    IsLine (line ++ [b]) c u a o p ↔ IsLine line c u a o p := by
  constructor
  · rintro ⟨ha, hword, ho, hsolid, hp, w₀, f₁, w₁, f₂, w₂, d, tail, hw₀, hf₁, hw₁, hf₂, hw₂, hd,
      htail, hline⟩
    rcases List.eq_nil_or_concat tail with rfl | ⟨tail, x, rfl⟩
    · -- The delimiter would be the blank.
      have hcut : line ++ [b] = w₀ ++ f₁ ++ w₁ ++ f₂ ++ w₂ ++ (d :: a ++ ' ' :: o ++ ' ' :: p) ++
          [d] := by simpa using hline
      obtain rfl : b = d := List.singleton_inj.mp (List.append_inj' hcut rfl).2
      exact absurd hb (not_isBlank_of_isDelimiter hd)
    · have hcut : line ++ [b] = w₀ ++ f₁ ++ w₁ ++ f₂ ++ w₂ ++
          (d :: a ++ ' ' :: o ++ ' ' :: p ++ d :: tail) ++ [x] := by simpa using hline
      obtain ⟨rfl, -⟩ := List.append_inj' hcut rfl
      have hd' : d ∉ tail := by
        intro hmem
        exact htail (by simp [hmem])
      exact ⟨ha, hword, ho, hsolid, hp,
        w₀, f₁, w₁, f₂, w₂, d, tail, hw₀, hf₁, hw₁, hf₂, hw₂, hd, hd', rfl⟩
  · rintro ⟨ha, hword, ho, hsolid, hp, w₀, f₁, w₁, f₂, w₂, d, tail, hw₀, hf₁, hw₁, hf₂, hw₂, hd,
      htail, rfl⟩
    have hne : d ≠ b := by
      rintro rfl
      exact not_isBlank_of_isDelimiter hd hb
    exact ⟨ha, hword, ho, hsolid, hp, w₀, f₁, w₁, f₂, w₂, d, tail ++ [b], hw₀, hf₁, hw₁, hf₂, hw₂,
      hd, by simp [htail, hne], by simp⟩

theorem fields_append_blank {b : Char} (hb : isBlank b = true) (line : List Char) :
    fields (line ++ [b]) = fields line := by
  ext ⟨c, u, a, o, p⟩
  simp only [fields_iff]
  exact isLine_append_blank_iff hb

theorem parse_append_blank {b : Char} (hb : isBlank b = true) (l : List Char) :
    parse (.ofList (l ++ [b])) = parse (.ofList l) := by
  rw [parse, parse, String.toList_ofList, String.toList_ofList, fields_append_blank hb]

end Rule

namespace Document

/-- What the lines of a text come to, one after the other. -/
def outcomes (text : List Char) : List (Option (Except LineError Rule)) := (lines text).map readLine

def isRejection : Option (Except LineError Rule) → Bool
  | some (.error _) => true
  | _ => false

theorem rules_read (text : String) :
    (read text).rules = (outcomes text.toList).filterMap (·.bind Except.toOption) := by
  rw [(lists_read text).rules, outcomes, List.filterMap_map]
  rfl

/-- Rejected lines have their places among all lines as numbers. -/
theorem lineNumbers_read (text : String) :
    (read text).rejected.map (·.lineNumber) = (outcomes text.toList).findIdxs isRejection 1 := by
  have hrejection : ∀ p : List Char × Nat, (rejection? p).map (·.lineNumber) =
      if isRejection (readLine p.1) then some p.2 else none := by
    intro p
    rw [rejection?]
    rcases readLine p.1 with - | e | r <;> rfl
  rw [outcomes, List.findIdxs_map, List.findIdxs_eq_filterMap_zipIdx]
  simp only [read, List.map_filterMap, hrejection, Function.comp_apply, Bool.cond_eq_ite]

theorem findIdxs_add (os : List (Option (Except LineError Rule))) (n k : Nat) :
    os.findIdxs isRejection (n + k) = (os.findIdxs isRejection n).map (· + k) := by
  have hstart : ∀ s, os.findIdxs isRejection s = (os.findIdxs isRejection).map (· + s) :=
    fun s => List.findIdxs_start
  rw [hstart (n + k), hstart n, List.map_map]
  refine List.map_congr_left fun i _ => ?_
  exact (Nat.add_assoc i n k).symm

theorem readLine_append_return (l : List Char) : readLine (l ++ ['\r']) = readLine l := by
  have hreturn : isBlank '\r' = true := by decide
  have hblank : (l ++ ['\r']).all isBlank = l.all isBlank := by simp [hreturn]
  rw [readLine, readLine, hblank, Rule.parse_append_blank hreturn]

theorem readLine_dropReturn (l : List Char) : readLine (dropReturn l) = readLine l := by
  by_cases h : l.getLast? = some '\r'
  · obtain ⟨l', rfl⟩ := List.getLast?_eq_some_iff.mp h
    rw [dropReturn_append_return, readLine_append_return]
  · rw [dropReturn_of_getLast?_ne h]

/-- The text with a carriage return before every line feed. -/
def withReturns (text : List Char) : List Char :=
  text.flatMap fun c => if c = '\n' then ['\r', '\n'] else [c]

theorem withReturns_of_unbroken {l : List Char} (h : '\n' ∉ l) : withReturns l = l := by
  induction l with
  | nil => rfl
  | cons c l ih =>
    rw [List.mem_cons, not_or] at h
    rw [withReturns, List.flatMap_cons, if_neg (Ne.symm h.1), ← withReturns, ih h.2,
      List.singleton_append]

theorem withReturns_append_cons {l : List Char} (h : '\n' ∉ l) (text : List Char) :
    withReturns (l ++ '\n' :: text) = (l ++ ['\r']) ++ '\n' :: withReturns text := by
  rw [withReturns, List.flatMap_append, ← withReturns, withReturns_of_unbroken h]
  simp [withReturns]

theorem outcomes_append_cons {l : List Char} (h : '\n' ∉ l) (text : List Char) :
    outcomes (l ++ '\n' :: text) = readLine l :: outcomes text := by
  rw [outcomes, lines_append_cons h, List.map_cons, readLine_dropReturn, ← outcomes]

theorem outcomes_withReturns (text : List Char) :
    outcomes (withReturns text) = outcomes text := by
  induction text using feed_induction with
  | unbroken l hl => rw [withReturns_of_unbroken hl]
  | feed l text hl ih =>
    have hreturn : '\n' ∉ l ++ ['\r'] := by simpa using hl
    rw [withReturns_append_cons hl, outcomes_append_cons hreturn, readLine_append_return, ih,
      outcomes_append_cons hl]

/-- In a text without carriage returns the lines themselves stay the same. -/
theorem lines_withReturns {text : List Char} (h : '\r' ∉ text) :
    lines (withReturns text) = lines text := by
  induction text using feed_induction with
  | unbroken l hl => rw [withReturns_of_unbroken hl]
  | feed l text hl ih =>
    have hreturn : '\n' ∉ l ++ ['\r'] := by simpa using hl
    have hlast : l.getLast? ≠ some '\r' := by
      intro hlast
      exact h (List.mem_append_left _ (List.mem_of_getLast? hlast))
    have htext : '\r' ∉ text := by
      intro hmem
      exact h (by simp [hmem])
    rw [withReturns_append_cons hl, lines_append_cons hreturn, dropReturn_append_return, ih htext,
      lines_append_cons hl, dropReturn_of_getLast?_ne hlast]

/-- A line feed at the end of a text adds a blank line at most. -/
theorem outcomes_append_feed (a : List Char) :
    outcomes (a ++ ['\n']) = outcomes a ∨ outcomes (a ++ ['\n']) = outcomes a ++ [none] := by
  induction a using feed_induction with
  | unbroken l hl =>
    rw [outcomes_append_cons hl, outcomes, lines_nil, List.map_nil]
    by_cases hne : l = []
    · right
      rw [hne, outcomes, lines_nil]
      rfl
    · left
      rw [outcomes, lines_of_unbroken hne hl, List.map_singleton]
  | feed l text hl ih =>
    rw [List.append_assoc, List.cons_append, outcomes_append_cons hl, outcomes_append_cons hl]
    rcases ih with h | h
    · left
      rw [h]
    · right
      rw [h, List.cons_append]

theorem outcomes_append_feed_cons (a b : List Char) :
    outcomes (a ++ '\n' :: b) = outcomes (a ++ ['\n']) ++ outcomes b := by
  rw [outcomes, lines_append_feed, List.map_append, ← outcomes, ← outcomes]

theorem rules_append_feed (a : List Char) :
    (outcomes (a ++ ['\n'])).filterMap (·.bind Except.toOption) =
      (outcomes a).filterMap (·.bind Except.toOption) := by
  rcases outcomes_append_feed a with h | h
  · rw [h]
  · rw [h, List.filterMap_append]
    simp

theorem lineNumbers_append_feed (a : List Char) (n : Nat) :
    (outcomes (a ++ ['\n'])).findIdxs isRejection n = (outcomes a).findIdxs isRejection n := by
  rcases outcomes_append_feed a with h | h
  · rw [h]
  · rw [h, List.findIdxs_append]
    simp [isRejection]

/-- Lines may end with a carriage return and a line feed in place of a line feed alone: the rules and
the numbers of the rejected lines stay the same, and if the text held no carriage returns nothing of
what is read changes. A text behind another with a line feed between them adds its rules to those of
the first and its rejected lines, their numbers counted on from the lines of the first. -/
theorem read_endings (text a b : String) :
    (read (.ofList (withReturns text.toList))).rules = (read text).rules ∧
    (read (.ofList (withReturns text.toList))).rejected.map (·.lineNumber) =
      (read text).rejected.map (·.lineNumber) ∧
    ('\r' ∉ text.toList → read (.ofList (withReturns text.toList)) = read text) ∧
    (read (a ++ "\n" ++ b)).rules = (read a).rules ++ (read b).rules ∧
    (read (a ++ "\n" ++ b)).rejected.map (·.lineNumber) =
      (read a).rejected.map (·.lineNumber) ++
        (read b).rejected.map fun r => r.lineNumber + (1 + a.toList.count '\n') := by
  have hjoin : (a ++ "\n" ++ b).toList = a.toList ++ '\n' :: b.toList := by simp
  have hlength : (outcomes (a.toList ++ ['\n'])).length = 1 + a.toList.count '\n' := by
    rw [outcomes, List.length_map, length_lines_feed, Nat.add_comm]
  refine ⟨?_, ?_, fun h => ?_, ?_, ?_⟩
  · rw [rules_read, rules_read, String.toList_ofList, outcomes_withReturns]
  · rw [lineNumbers_read, lineNumbers_read, String.toList_ofList, outcomes_withReturns]
  · rw [read, String.toList_ofList, lines_withReturns h, ← read]
  · rw [rules_read, rules_read, rules_read, hjoin, outcomes_append_feed_cons, List.filterMap_append,
      rules_append_feed]
  · have hb : (read b).rejected.map (fun r => r.lineNumber + (1 + a.toList.count '\n')) =
        (outcomes b.toList).findIdxs isRejection (1 + (1 + a.toList.count '\n')) := by
      rw [findIdxs_add, ← lineNumbers_read, List.map_map]
      rfl
    rw [hb, lineNumbers_read, lineNumbers_read, hjoin, outcomes_append_feed_cons,
      List.findIdxs_append, lineNumbers_append_feed, hlength]

/-- A line that is no rule, and behind it one that is. -/
def feedText : String := "Moon\nignore-article * \"title # Sun\""

/-- Of two files put together the second begins with an empty line, and the first ends with a
carriage return that becomes part of an end of line. -/
theorem read_endings_joined :
    '\r' ∉ feedText.toList ∧ read (.ofList (withReturns feedText.toList)) = read feedText ∧
    (read ("Moon\r" ++ "\n" ++ "\nSun")).rejected.map (·.lineNumber) = [1, 3] := by
  have h : '\r' ∉ feedText.toList := by decide
  obtain ⟨-, -, hsame, -, hnumbers⟩ := read_endings feedText "Moon\r" "\nSun"
  exact ⟨h, hsame h, hnumbers.trans (by decide +kernel)⟩

end Document

end Killfile
