import Killfile.Proofs.Reading
import Killfile.Proofs.Rendering

/-! A check of a killfile beside a load of it. Both read the same text, so what is printed for the
eye is what a load puts in force and what it logs as skipped. A killfile that cannot be read fails
the check, and a load of it keeps the rules that it had. -/

namespace Killfile

namespace Document

/-- A line that is set aside is one line. -/
theorem not_mem_line_of_mem_rejected {text : String} {r : Rejection}
    (h : r ∈ (read text).rejected) : '\n' ∉ r.line.toList := by
  obtain ⟨⟨l, n⟩, hl, hr⟩ := List.mem_filterMap.mp h
  obtain ⟨-, hline, -⟩ := rejection?_eq_some_iff.mp hr
  rw [hline, String.toList_ofList]
  exact not_mem_of_mem_lines (List.fst_mem_of_mem_zipIdx hl)

end Document

namespace Source

variable {W : Type} {read : String → Except FileError String} {t : Http.Transport W} {s : Source}
  {w : W}

/-- No source says of itself that it holds lines that are no rules. -/
theorem reading_ne_invalidKillfile (n : Nat) :
    (s.reading read t w).1 ≠ .error (.invalidKillfile n) := by
  cases s with
  | file path => cases h : read path <;> simp [reading, Reading.ofFile, h, Except.mapError]
  | url u =>
    rcases h : t.exchange { method := .get, url := u } w with ⟨e | a, v, log⟩
    · simp [reading_of_no_response read h]
    · rw [reading_of_response read h]
      split <;> simp

end Source

namespace Task

variable {W : Type}

/-- Lines as they are printed, each with a line feed behind it. -/
def printed (lines : List String) : String := String.join (lines.map (· ++ "\n"))

/-- The complaint about a line that is skipped. -/
def complaint (source : String) (r : Rejection) : String :=
  source ++ ":" ++ toString r.lineNumber ++ ": invalid filter expression: " ++ r.line

/-- What a check tells of rules and of lines that are skipped: the rules one a line, a count of both
below a blank line, one complaint for each line that is skipped, and whether there are any. A complaint
is one line if the source, with which it begins, is written without a line feed. -/
structure Tells (source : String) (rules : RuleSet) (skipped : List Rejection) (o : Outcome Unit) :
    Prop where
  output : o.output = printed (rules.map (·.render) ++
    ["", toString rules.length ++ " rules, " ++ toString skipped.length ++ " rejected lines"])
  errors : o.errors = printed (skipped.map (complaint source))
  rule_on_line : ∀ r ∈ rules, '\n' ∉ r.render.toList
  complaint_on_line : '\n' ∉ source.toList → ∀ r ∈ skipped, '\n' ∉ (complaint source r).toList
  ok_iff : o.result = .ok () ↔ skipped = []
  invalid_iff : ∀ n, o.result = .error (.invalidKillfile n) ↔ 0 < n ∧ skipped.length = n

/-- How the outcome of a check goes with what was read, with the rules that a load of the same finds in
force and those that it leaves, and with the events of the load. -/
inductive Agrees (source : String) (before : RuleSet) :
    Except Failure String → Outcome Unit → RuleSet → Log → Prop where
  | unreadable (x : Failure) :
      Agrees source before (.error x) { result := .error x } before
        [⟨.error, "failed to read killfile, keeping current rules", []⟩]
  | readable {text : String} {o : Outcome Unit} {installed : RuleSet} {skipped : List Rejection}
      (tells : Tells source installed skipped o) :
      Agrees source before (.ok text) o installed
        ((skipped.map fun r => ⟨.error, "skipping killfile line",
            [("line", .int r.lineNumber), ("expression", .text r.line)]⟩) ++
          (installed.map fun r => ⟨.debug, "parsed rule", [("rule", .text r.render)]⟩) ++
          [⟨.info, "loaded killfile",
            [("parsed", .int installed.length), ("skipped", .int skipped.length)]⟩])

/-- Lines that are no rules are all that a check of a text can fail for. -/
theorem Tells.eq_invalidKillfile {source : String} {rules : RuleSet} {skipped : List Rejection}
    {o : Outcome Unit} {x : Failure} (h : Tells source rules skipped o)
    (hresult : o.result = .error x) : ∃ n, x = .invalidKillfile n := by
  by_cases hskipped : skipped = []
  · rw [h.ok_iff.mpr hskipped] at hresult
    exact nomatch hresult
  · have hinvalid := (h.invalid_iff _).mpr ⟨List.length_pos_of_ne_nil hskipped, rfl⟩
    exact ⟨_, Except.error.inj (hresult.symm.trans hinvalid)⟩

theorem rejectionLine_eq (source : String) (r : Rejection) :
    rejectionLine source r = complaint source r ++ "\n" := by
  simp [rejectionLine, complaint, LineError.message, String.append_assoc]

theorem not_mem_complaint {source : String} {r : Rejection} (hsource : '\n' ∉ source.toList)
    (hline : '\n' ∉ r.line.toList) : '\n' ∉ (complaint source r).toList := by
  have hnumber : '\n' ∉ Nat.toDigits 10 r.lineNumber := fun h =>
    absurd (Nat.isDigit_of_mem_toDigits (by decide) (by decide) h) (by decide)
  simp [complaint, hsource, hline, hnumber]

theorem tells_report (source text : String) :
    Tells source (Document.read text).rules (Document.read text).rejected
      (report source (Document.read text)) where
  output := by
    have hrules : (Document.read text).rules.map ruleLine =
        ((Document.read text).rules.map (·.render)).map (· ++ "\n") := by
      rw [List.map_map]
      rfl
    simp [report, printed, hrules, countLine, String.join_append, String.join_cons,
      String.append_assoc]
  errors := by
    rw [report, printed, List.map_map]
    exact congrArg String.join (List.map_congr_left fun r _ => rejectionLine_eq source r)
  rule_on_line r hr := Document.not_mem_render hr
  complaint_on_line hsource r hr :=
    not_mem_complaint hsource (Document.not_mem_line_of_mem_rejected hr)
  ok_iff := by
    by_cases h : (Document.read text).rejected = [] <;> simp [report, h]
  invalid_iff n := by
    by_cases h : (Document.read text).rejected = []
    · simp only [report, h, if_true, List.length_nil, reduceCtorEq, false_iff]
      omega
    · have hpos := List.length_pos_of_ne_nil h
      simp only [report, h, if_false, Except.error.injEq, Failure.invalidKillfile.injEq]
      omega

theorem agrees_of_reading {reading : Reading W} {w v : W} {content : Except Failure String} {log : Log}
    (h : reading w = (content, v, log)) (source : String) (rules : RuleSet) :
    Agrees source rules content (check source reading w).1 (RuleSet.reloaded rules content)
      (RuleSet.readingEvents content) := by
  cases content with
  | error x =>
    rw [check_of_failure h]
    exact .unreadable x
  | ok text =>
    rw [check_of_text h]
    exact .readable (tells_report source text)

/-- A load that fails to read is told by its only event, since every other ends with a count. -/
theorem Agrees.events_eq_iff {source : String} {before installed : RuleSet}
    {content : Except Failure String} {o : Outcome Unit} {events : Log}
    (h : Agrees source before content o installed events) :
    events = [⟨.error, "failed to read killfile, keeping current rules", []⟩] ↔
      ∃ x, content = .error x := by
  cases h with
  | unreadable x => simp
  | readable tells =>
    rw [List.append_eq_singleton_iff]
    simp

/-- A check fails with the failure to read its killfile, if there is one, and else at most because of
lines that are no rules. -/
theorem Agrees.result_eq_error_iff {source : String} {before installed : RuleSet}
    {content : Except Failure String} {o : Outcome Unit} {events : Log}
    (h : Agrees source before content o installed events) {x : Failure}
    (hx : ∀ n, x ≠ .invalidKillfile n) : o.result = .error x ↔ content = .error x := by
  cases h with
  | unreadable y => simp
  | readable tells =>
    simp only [reduceCtorEq, iff_false]
    intro hresult
    obtain ⟨n, rfl⟩ := tells.eq_invalidKillfile hresult
    exact hx n rfl

end Task

namespace Source

/-- A check says what a load would do, whatever the source holds. Both leave the world in the same
state. The check fails with a failure to read exactly when the load logs that it cannot read and keeps
the rules that it had. Otherwise the check prints the rules that the load puts in force, complains about
the lines that the load logs as skipped, counts both as the load does, and succeeds if and only if none
is skipped. -/
theorem check_beside_load {W : Type} (read : String → Except FileError String)
    (t : Http.Transport W) (s : Source) (w : W) (rules : RuleSet) :
    ∃ (o : Outcome Unit) (v : W) (log : Log) (installed : RuleSet) (events : Log),
      Task.check s.render (s.reading read t) w = (o, v, log) ∧
      RuleSet.load (s.reading read t) (w, rules) = ((), (v, installed), log ++ events) ∧
      Task.Agrees s.render rules (s.reading read t w).1 o installed events ∧
      (∀ x, (s.reading read t w).1 = .error x ↔
        o.result = .error x ∧ ∀ n, x ≠ .invalidKillfile n) ∧
      ((∃ x, o.result = .error x ∧ ∀ n, x ≠ .invalidKillfile n) ↔
        events = [⟨.error, "failed to read killfile, keeping current rules", []⟩]) := by
  rcases h : s.reading read t w with ⟨content, v, log⟩
  have hagrees := Task.agrees_of_reading h s.render rules
  have hfails : ∀ x, content = .error x ↔ (Task.check s.render (s.reading read t) w).1.result =
      .error x ∧ ∀ n, x ≠ .invalidKillfile n := by
    intro x
    constructor
    · rintro rfl
      have hx : ∀ n, x ≠ .invalidKillfile n := by
        rintro n rfl
        exact reading_ne_invalidKillfile n (congrArg Prod.fst h)
      exact ⟨(hagrees.result_eq_error_iff hx).mpr rfl, hx⟩
    · rintro ⟨hresult, hx⟩
      exact (hagrees.result_eq_error_iff hx).mp hresult
  refine ⟨_, v, log, _, _, ?_, RuleSet.load_apply h rules, hagrees, hfails, ?_⟩
  · cases content with
    | error x => rw [Task.check_of_failure h]
    | ok text => rw [Task.check_of_text h]
  · rw [hagrees.events_eq_iff]
    exact exists_congr fun x => (hfails x).symm

end Source

end Killfile
