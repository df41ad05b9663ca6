import Killfile.Proofs.Pieces
import Killfile.Proofs.Url.Percent
import Killfile.Url
import Mathlib.Data.List.Induction

/-! Paths of web addresses. Their segments are resolved, so that they are read back as they are. -/

namespace Killfile.Url

open Text (pieces)

/-- A segment as it stands in the path of a web address. -/
structure IsSegment (s : List Char) : Prop where
  plain : Plain inPath s
  slash : '/' ∉ s
  backslash : '\\' ∉ s
  double : isDoubleDot s = false
  single : isSingleDot s = false

/-- The path of a web address. -/
def IsPath (p : List Char) : Prop :=
  ∃ l, l ≠ [] ∧ (∀ s ∈ l, IsSegment s) ∧ p = renderSegments l

/-- A text without the slashes at its end. -/
def trimSlashes (s : List Char) : List Char := (s.reverse.dropWhile (· == '/')).reverse

section Trimming

variable {s t : List Char} {c : Char}

theorem trimSlashes_snoc : trimSlashes (s ++ ['/']) = trimSlashes s := by
  simp [trimSlashes]

theorem trimSlashes_of_getLast? (h : s.getLast? ≠ some '/') : trimSlashes s = s := by
  cases hs : s.reverse with
  | nil => rw [List.reverse_eq_nil_iff.mp hs]; rfl
  | cons c r =>
    have hc : c ≠ '/' := by
      rintro rfl
      exact h (by rw [List.getLast?_eq_head?_reverse, hs]; rfl)
    rw [trimSlashes, hs, List.dropWhile_cons_of_neg (by simpa using hc), ← hs, List.reverse_reverse]

/-- What ends before the slashes stays as it is. -/
theorem trimSlashes_append (h : s.getLast? ≠ some '/') : trimSlashes (s ++ t) = s ++ trimSlashes t := by
  induction t using List.reverseRecOn with
  | nil => simpa [trimSlashes] using trimSlashes_of_getLast? h
  | append_singleton t d ih =>
    by_cases hd : d = '/'
    · subst hd
      rw [← List.append_assoc, trimSlashes_snoc, trimSlashes_snoc, ih]
    · rw [trimSlashes_of_getLast? (by simpa using hd), trimSlashes_of_getLast? (by simpa using hd)]

theorem trimSlashes_append_cons (h : c ≠ '/') : trimSlashes (s ++ c :: t) = s ++ c :: trimSlashes t := by
  have hlast : (s ++ [c]).getLast? ≠ some '/' := by simpa using h
  simpa using trimSlashes_append (t := t) hlast

theorem mem_of_mem_trimSlashes (h : c ∈ trimSlashes s) : c ∈ s :=
  List.mem_reverse.mp ((List.dropWhile_sublist _).subset (List.mem_reverse.mp h))

end Trimming

section Segments

variable {l : List (List Char)} {s p : List Char}

theorem renderSegments_cons : renderSegments (p :: l) = '/' :: (p ++ renderSegments l) := rfl

theorem renderSegments_append {m : List (List Char)} :
    renderSegments (l ++ m) = renderSegments l ++ renderSegments m := List.flatMap_append

/-- Without the slashes at its end, a path has fewer segments or as many. -/
theorem trimSlashes_renderSegments (h : ∀ s ∈ l, '/' ∉ s) :
    ∃ m, m <+: l ∧ trimSlashes (renderSegments l) = renderSegments m := by
  induction l using List.reverseRecOn with
  | nil => exact ⟨[], List.prefix_rfl, rfl⟩
  | append_singleton l p ih =>
    cases p with
    | nil =>
      obtain ⟨m, hm, htrim⟩ := ih fun s hs => h s (List.mem_append_left _ hs)
      refine ⟨m, hm.trans (List.prefix_append l _), ?_⟩
      rw [renderSegments_append]
      exact trimSlashes_snoc.trans htrim
    | cons c p =>
      have hmem : '/' ∉ c :: p := h (c :: p) (by simp)
      have hshape : renderSegments (l ++ [c :: p]) = (renderSegments l ++ ['/']) ++ c :: p := by
        simp [renderSegments]
      refine ⟨l ++ [c :: p], List.prefix_rfl, trimSlashes_of_getLast? fun hlast => hmem ?_⟩
      rw [hshape, List.getLast?_append, List.getLast?_cons] at hlast
      exact List.mem_of_getLast? (List.getLast?_cons.trans hlast)

/-- The segments of a path are the pieces between its slashes. -/
theorem pieces_renderSegments (hp : '/' ∉ p) (h : ∀ s ∈ l, '/' ∉ s) :
    pieces '/' (p ++ renderSegments l) = p :: l := by
  induction l generalizing p with
  | nil => simpa [renderSegments] using Text.pieces_of_not_mem hp
  | cons q l ih =>
    obtain ⟨hq, hl⟩ := List.forall_mem_cons.mp h
    rw [renderSegments_cons, Text.pieces_append_cons, Text.pieces_of_not_mem hp, ih hq hl]
    rfl

theorem resolveSegments_of_isSegment {before : List (List Char)} (h : ∀ s ∈ l, IsSegment s) :
    resolveSegments false before l = before.reverse ++ l := by
  induction l generalizing before with
  | nil => simp [resolveSegments]
  | cons s l ih =>
    obtain ⟨hs, hl⟩ := List.forall_mem_cons.mp h
    rw [resolveSegments, if_neg (by simp [hs.double]), if_neg (by simp [hs.single]), ih hl]
    simp [normalDrive]

/-- A path that has been resolved is read back. -/
theorem readSegments_renderSegments (hne : l ≠ []) (h : ∀ s ∈ l, IsSegment s) :
    readSegments .web (renderSegments l) = l := by
  cases l with
  | nil => exact absurd rfl hne
  | cons p l =>
    obtain ⟨hp, hl⟩ := List.forall_mem_cons.mp h
    have hback : '\\' ∉ renderSegments (p :: l) := by
      intro hmem
      obtain ⟨s, hs, hmem⟩ := List.mem_flatMap.mp hmem
      exact (h s hs).backslash (by simpa using hmem)
    have hsame : ((renderSegments (p :: l)).map fun c => if c = '\\' then '/' else c) =
        renderSegments (p :: l) := by
      refine (List.map_congr_left fun c hc => if_neg ?_).trans (List.map_id _)
      rintro rfl
      exact hback hc
    have hencode : (p :: l).map (encode inPath) = p :: l :=
      (List.map_congr_left fun s hs => encode_of_plain (h s hs).plain).trans (List.map_id _)
    simp only [readSegments, SchemeKind.isSpecial, if_true, hsame]
    rw [if_neg (by simp), renderSegments_cons]
    simp only [List.head?_cons, if_true, List.tail_cons]
    rw [pieces_renderSegments hp.slash fun s hs => (hl s hs).slash, hencode]
    exact resolveSegments_of_isSegment h

end Segments

section Reading

theorem isSegment_encode {s : List Char} (hslash : '/' ∉ s) (hback : '\\' ∉ s)
    (hdouble : isDoubleDot (encode inPath s) = false) (hsingle : isSingleDot (encode inPath s) = false) :
    IsSegment (encode inPath s) := by
  have hmem {c : Char} (hc : c ∉ s) (hp : c ∉ percentChars) : c ∉ encode inPath s := by
    intro h
    obtain ⟨h, -⟩ | h := mem_encode h
    · exact hc h
    · exact hp h
  exact ⟨plain_encode plain_inPath, hmem hslash (by decide), hmem hback (by decide), hdouble, hsingle⟩

theorem isSegment_nil : IsSegment [] := by
  constructor
  · exact plain_nil
  all_goals decide

theorem isSegment_dropSegment {before : List (List Char)} (h : ∀ s ∈ before, IsSegment s) :
    ∀ s ∈ dropSegment before, IsSegment s := by
  intro s hs
  cases before with
  | nil => simp [dropSegment] at hs
  | cons p before =>
    rw [dropSegment] at hs
    split at hs
    · exact h s hs
    · exact h s (List.mem_cons_of_mem p hs)

/-- Resolving leaves segments, and one at least. -/
theorem isSegment_resolveSegments {l before : List (List Char)} (hl : ∀ s ∈ l, '/' ∉ s ∧ '\\' ∉ s)
    (hb : ∀ s ∈ before, IsSegment s) (hne : l = [] → before ≠ []) :
    resolveSegments false before (l.map (encode inPath)) ≠ [] ∧
      ∀ s ∈ resolveSegments false before (l.map (encode inPath)), IsSegment s := by
  induction l generalizing before with
  | nil => exact ⟨by simpa [resolveSegments] using hne rfl, by simpa [resolveSegments] using hb⟩
  | cons s l ih =>
    obtain ⟨⟨hslash, hback⟩, hl⟩ := List.forall_mem_cons.mp hl
    -- A dot segment at the end leaves an empty segment.
    have hdots {b : List (List Char)} (h : ∀ s ∈ b, IsSegment s) :
        let b' := if l.map (encode inPath) = [] then [] :: b else b
        resolveSegments false b' (l.map (encode inPath)) ≠ [] ∧
          ∀ s ∈ resolveSegments false b' (l.map (encode inPath)), IsSegment s := by
      refine ih hl ?_ ?_
      · split
        · exact List.forall_mem_cons.mpr ⟨isSegment_nil, h⟩
        · exact h
      · rintro rfl
        simp
    rw [List.map_cons, resolveSegments]
    split
    · exact hdots (isSegment_dropSegment hb)
    next hdouble =>
      split
      · exact hdots hb
      next hsingle =>
        refine ih hl (List.forall_mem_cons.mpr ⟨?_, hb⟩) fun _ => List.cons_ne_nil _ _
        exact isSegment_encode hslash hback (by simpa using hdouble) (by simpa using hsingle)

/-- The path of a web address has been resolved. -/
theorem isPath_readSegments (s : List Char) : IsPath (renderPath .web (readSegments .web s)) := by
  obtain ⟨t, ht, hback⟩ : ∃ t : List Char,
      readSegments .web s = resolveSegments false [] ((pieces '/' t).map (encode inPath)) ∧ '\\' ∉ t := by
    let t := s.map fun c => if c = '\\' then '/' else c
    have hback : '\\' ∉ t := by
      intro h
      obtain ⟨c, -, hc⟩ := List.mem_map.mp h
      split at hc
      · cases hc
      next hne => exact hne hc
    refine ⟨if t.head? = some '/' then t.tail else t, ?_, ?_⟩
    · simp only [readSegments, SchemeKind.isSpecial, if_true]
      rfl
    · split
      · exact fun h => hback (List.mem_of_mem_tail h)
      · exact hback
  have hpieces : ∀ p ∈ pieces '/' t, '/' ∉ p ∧ '\\' ∉ p := by
    intro p hp
    obtain ⟨hslash, x, y, rfl, -⟩ := Text.mem_pieces_iff.mp hp
    exact ⟨hslash, fun hmem => hback (by simp [hmem])⟩
  obtain ⟨hne, hsegments⟩ := @isSegment_resolveSegments _ [] hpieces (by simp)
    fun h => absurd h (Text.pieces_ne_nil '/' t)
  exact ⟨_, hne, hsegments, by rw [ht]; rfl⟩

end Reading

end Killfile.Url
