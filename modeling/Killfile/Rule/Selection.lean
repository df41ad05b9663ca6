import Killfile.Feed
import Killfile.Rule
import Killfile.Text.Blank
import Killfile.Unicode.Case

/-! Which feeds a rule selects, and which texts of an entry it looks at. -/

namespace Killfile

open Text (pieces trim)

/-- A text begins with another. -/
def startsWith (w s : List Char) : Bool := s.take w.length == w

/-- A text occurs in another. -/
def occursIn (w : List Char) : List Char → Bool
  | [] => w.isEmpty
  | c :: s => startsWith w (c :: s) || occursIn w s

theorem occursIn_iff {w s : List Char} : occursIn w s = true ↔ ∃ x y, s = x ++ w ++ y := by
  induction s with
  | nil =>
    rw [occursIn, List.isEmpty_iff]
    constructor
    · rintro rfl
      exact ⟨[], [], rfl⟩
    · rintro ⟨x, y, h⟩
      simp only [List.nil_eq, List.append_eq_nil_iff] at h
      exact h.1.2
  | cons c s ih =>
    rw [occursIn, Bool.or_eq_true, ih, startsWith, beq_iff_eq]
    constructor
    · rintro (h | ⟨x, y, rfl⟩)
      · exact ⟨[], (c :: s).drop w.length, by
          simpa [h] using (List.take_append_drop w.length (c :: s)).symm⟩
      · exact ⟨c :: x, y, by simp⟩
    · rintro ⟨x, y, h⟩
      cases x with
      | nil =>
        left
        rw [h]
        simp
      | cons d x =>
        right
        simp only [List.cons_append, List.cons.injEq] at h
        exact ⟨x, y, h.2⟩

namespace Rule

def categoryWord : List Char := "category:".toList

/-- The list of titles after the word category and a colon, in which the case of ASCII letters does
not count. -/
def categoryList? (selector : List Char) : Option (List Char) :=
  if (selector.take categoryWord.length).map Char.toLower = categoryWord then
    some (selector.drop categoryWord.length)
  else none

/-- Titles in a list are parted by commas, and blanks around them and case do not count. The blanks
of the title they are compared with do. -/
def listsCategory (titles : List Char) (title : List Char) : Bool :=
  (pieces ',' titles).any fun t => Unicode.lowercase (trim t) == Unicode.lowercase title

/-- A selector is a star for all feeds, a part of the URL of a feed, or a list of categories. -/
def selects (r : Rule) (f : Feed) : Bool :=
  r.selector == "*" || occursIn r.selector.toList f.url.toList ||
    (categoryList? r.selector.toList).any fun l => listsCategory l f.category.title.toList

/-- The texts of an entry that belong to an attribute. Description is another name for content, and
an unknown attribute has one empty text. -/
def texts (a : Attribute) (e : Entry) : List String :=
  match a with
  | .title => [e.title]
  | .content => [e.content]
  | .description => [e.content]
  | .author => [e.author]
  | .tag => e.tags
  | .unknown _ => [""]

end Rule

end Killfile
