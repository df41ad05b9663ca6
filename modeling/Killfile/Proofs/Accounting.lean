import Killfile.Proofs.Line
import Killfile.Proofs.Lines

/-! Every line of a killfile is accounted for. A line that is not blank gives one rule or one
rejection, which has its number and its text, and no rule is lost with the blank lines, since none
of them is a rule. -/

namespace Killfile

open Text (isBlank)

namespace Rule

theorem all_isBlank_iff {l : List Char} : l.all isBlank = true ↔ Blanks l := List.all_eq_true

/-- A blank line has no command. -/
theorem parse_of_blanks {l : List Char} (h : Blanks l) :
    parse (.ofList l) = .error .malformed := by
  have htrim : Text.trimStart l = [] := trimStart_iff.mpr ⟨l, h, by simp, nofun⟩
  have hfields : fields l = none := by
    rw [fields, htrim]
    rfl
  rw [parse, String.toList_ofList, hfields]

end Rule

namespace Document

open Rule (Blanks)

/-- A line with its number, which is counted from one. -/
def LineAt (ls : List (List Char)) (n : Nat) (l : List Char) : Prop :=
  ∃ i, n = i + 1 ∧ ls[i]? = some l

theorem mem_zipIdx_iff {ls : List (List Char)} {n : Nat} {l : List Char} :
    (l, n) ∈ ls.zipIdx 1 ↔ LineAt ls n l := by
  rw [List.mk_mem_zipIdx_iff_le_and_getElem?_sub]
  constructor
  · rintro ⟨hn, hl⟩
    exact ⟨n - 1, by omega, hl⟩
  · rintro ⟨i, rfl, hl⟩
    exact ⟨by omega, by simpa using hl⟩

/-- A document accounts for these lines. Its rules are those that can be read from lines, and its
rejections are the lines that are neither rules nor blank, both in the order of the lines. With their
lines the rules have numbers, and of the lines that are not blank just those without a rule are
rejected. -/
structure Accounts (ls : List (List Char)) (d : Document) : Prop where
  rules : d.rules = ls.filterMap fun l => (Rule.parse (.ofList l)).toOption
  ordered : d.rejected.Pairwise (·.lineNumber < ·.lineNumber)
  rejected : ∀ n line e, ⟨n, line, e⟩ ∈ d.rejected ↔
    ∃ l, LineAt ls n l ∧ line = .ofList l ∧ ¬ Blanks l ∧ Rule.parse (.ofList l) = .error e
  once : ∃ placed : List (Nat × Rule), placed.map Prod.snd = d.rules ∧
    placed.Pairwise (·.1 < ·.1) ∧
    (∀ n r, (n, r) ∈ placed ↔ ∃ l, LineAt ls n l ∧ Rule.parse (.ofList l) = .ok r) ∧
    ∀ n l, LineAt ls n l → ¬ Blanks l →
      ((∃ r, (n, r) ∈ placed) ↔ n ∉ d.rejected.map (·.lineNumber))

theorem readLine_eq_error_iff {l : List Char} {e : LineError} :
    readLine l = some (.error e) ↔ ¬ Blanks l ∧ Rule.parse (.ofList l) = .error e := by
  rw [readLine, ← Rule.all_isBlank_iff]
  split <;> simp_all

theorem LineAt.unique {ls : List (List Char)} {n : Nat} {l l' : List Char} (h : LineAt ls n l)
    (h' : LineAt ls n l') : l = l' := by
  obtain ⟨i, rfl, hl⟩ := h
  obtain ⟨j, hij, hl'⟩ := h'
  obtain rfl : i = j := by omega
  exact Option.some.inj (hl.symm.trans hl')

/-- Blank lines may be read like all others, for they are no rules. -/
theorem toOption_readLine (l : List Char) :
    (readLine l).bind Except.toOption = (Rule.parse (.ofList l)).toOption := by
  rw [readLine]
  split
  · next hblank => rw [Rule.parse_of_blanks (Rule.all_isBlank_iff.mp hblank)]; rfl
  · rfl

/-- The rules of numbered lines, each with the number of its line. -/
def placedRules (ls : List (List Char)) : List (Nat × Rule) :=
  (ls.zipIdx 1).filterMap fun p => (rule? p).map fun r => (p.2, r)

theorem map_placedRules (ls : List (List Char)) :
    (placedRules ls).map Prod.snd = (ls.zipIdx 1).filterMap rule? := by
  simp [placedRules, List.map_filterMap, Function.comp_def]

theorem pairwise_placedRules (ls : List (List Char)) :
    (placedRules ls).Pairwise (·.1 < ·.1) := by
  refine (pairwise_zipIdx ls 1).filterMap _ fun p q hlt a ha b hb => ?_
  obtain ⟨r, -, rfl⟩ := Option.map_eq_some_iff.mp ha
  obtain ⟨s, -, rfl⟩ := Option.map_eq_some_iff.mp hb
  exact hlt

theorem mem_placedRules {ls : List (List Char)} {n : Nat} {r : Rule} :
    (n, r) ∈ placedRules ls ↔ ∃ l, LineAt ls n l ∧ Rule.parse (.ofList l) = .ok r := by
  have hrule : ∀ l k q, rule? (l, k) = some q ↔ Rule.parse (.ofList l) = .ok q := by
    intro l k q
    rw [rule?_eq, toOption_readLine]
    cases Rule.parse (.ofList l) <;> simp [Except.toOption]
  simp only [placedRules, List.mem_filterMap, Option.map_eq_some_iff, Prod.exists, Prod.mk.injEq,
    hrule]
  constructor
  · rintro ⟨l, k, hl, q, hq, rfl, rfl⟩
    exact ⟨l, mem_zipIdx_iff.mp hl, hq⟩
  · rintro ⟨l, hl, hr⟩
    exact ⟨l, n, mem_zipIdx_iff.mpr hl, r, hr, rfl, rfl⟩

theorem mem_rejected_iff {text : String} {n : Nat} {line : String} {e : LineError} :
    ⟨n, line, e⟩ ∈ (read text).rejected ↔
      ∃ l, LineAt (lines text.toList) n l ∧ line = .ofList l ∧ ¬ Blanks l ∧
        Rule.parse (.ofList l) = .error e := by
  simp only [(lists_read text).rejected, readLine_eq_error_iff, LineAt]
  constructor
  · rintro ⟨i, l, hn, hl, h⟩
    exact ⟨l, ⟨i, hn, hl⟩, h⟩
  · rintro ⟨l, ⟨i, hn, hl⟩, h⟩
    exact ⟨i, l, hn, hl, h⟩

/-- The number of a line that is not blank stands with the rejected ones if the line is no rule. -/
theorem LineAt.mem_lineNumbers_iff {text : String} {n : Nat} {l : List Char}
    (hl : LineAt (lines text.toList) n l) (hsolid : ¬ Blanks l) :
    n ∈ (read text).rejected.map (·.lineNumber) ↔ ∃ e, Rule.parse (.ofList l) = .error e := by
  constructor
  · intro hn
    obtain ⟨⟨k, line, e⟩, hmem, rfl⟩ := List.mem_map.mp hn
    obtain ⟨l', hl', -, -, he⟩ := mem_rejected_iff.mp hmem
    obtain rfl := hl.unique hl'
    exact ⟨e, he⟩
  · rintro ⟨e, he⟩
    exact List.mem_map.mpr ⟨_, mem_rejected_iff.mpr ⟨l, hl, rfl, hsolid, he⟩, rfl⟩

theorem LineAt.mem_placedRules_iff {ls : List (List Char)} {n : Nat} {l : List Char}
    (hl : LineAt ls n l) {r : Rule} :
    (n, r) ∈ placedRules ls ↔ Rule.parse (.ofList l) = .ok r := by
  rw [mem_placedRules]
  constructor
  · rintro ⟨l', hl', hr⟩
    obtain rfl := hl.unique hl'
    exact hr
  · intro hr
    exact ⟨l, hl, hr⟩

theorem accounts_read (text : String) : Accounts (lines text.toList) (read text) := by
  obtain ⟨hrules, hordered, -⟩ := lists_read text
  refine ⟨?_, hordered, fun n line e => mem_rejected_iff, placedRules (lines text.toList),
    map_placedRules _, pairwise_placedRules _, fun n r => mem_placedRules, fun n l hl hsolid => ?_⟩
  · simpa only [toOption_readLine] using hrules
  · -- A line has one outcome, so it is a rule exactly when it is not rejected.
    rw [hl.mem_lineNumbers_iff hsolid, exists_congr fun r => hl.mem_placedRules_iff]
    cases Rule.parse (.ofList l) with
    | error e => exact ⟨nofun, fun h => absurd ⟨e, rfl⟩ h⟩
    | ok r => exact ⟨fun _ => nofun, fun _ => ⟨r, rfl⟩⟩

/-- A text has one list of lines, and what is read from it accounts for these: the rules are the
lines that can be read as such, in order, the lines that cannot are rejected under their numbers, and
each line that is not blank is found in one place only. No blank line is a rule. -/
theorem read_accounts (text : String) :
    (∃! ls, Lined text.toList ls) ∧
    (∀ ls, Lined text.toList ls → Accounts ls (read text)) ∧
    ∀ l, Blanks l → Rule.parse (.ofList l) = .error .malformed := by
  refine ⟨⟨lines text.toList, lined_lines _, fun ls h => lined_iff.mp h⟩, fun ls h => ?_,
    fun l h => Rule.parse_of_blanks h⟩
  rw [lined_iff.mp h]
  exact accounts_read text

/-- A rule, two blank lines and a word, with both ends of lines. -/
def mixedText : String := "ignore-article * \"title # Moon\"\r\n \u2003\n\r\nMoon"

/-- The word is rejected under the number that it has among all lines. -/
theorem read_accounts_mixed :
    Lined mixedText.toList
      ["ignore-article * \"title # Moon\"".toList, " \u2003".toList, [], "Moon".toList] ∧
    (read mixedText).rules = [.ofFields "ignore-article" "*" "title" "#" "Moon"] ∧
    ⟨4, "Moon", .malformed⟩ ∈ (read mixedText).rejected ∧
    Blanks " \u2003".toList ∧ Rule.parse " \u2003" = .error .malformed := by
  have hlined : Lined mixedText.toList
      ["ignore-article * \"title # Moon\"".toList, " \u2003".toList, [], "Moon".toList] :=
    lined_iff.mpr (by decide)
  have hblanks : Blanks " \u2003".toList := Rule.all_isBlank_iff.mp (by decide)
  obtain ⟨-, haccounts, hblank⟩ := read_accounts mixedText
  refine ⟨hlined, (haccounts _ hlined).rules.trans (by decide +kernel),
    ((haccounts _ hlined).rejected 4 "Moon" .malformed).mpr ?_, hblanks, hblank _ hblanks⟩
  exact ⟨"Moon".toList, ⟨3, rfl, rfl⟩, rfl, fun h => absurd (h 'M' (by decide)) (by decide),
    by decide +kernel⟩

end Document

end Killfile
