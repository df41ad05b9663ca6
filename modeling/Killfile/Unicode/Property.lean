import Killfile.CharSet
import Killfile.Unicode.Ages
import Killfile.Unicode.BinaryProperties
import Killfile.Unicode.Breaks
import Killfile.Unicode.Categories
import Killfile.Unicode.Scripts

/-! Sets of characters named by Unicode properties, with names compared loosely. -/

namespace Killfile.Unicode

/-- Loose form of a name: case, blanks, hyphens, underscores and a leading "is" do not count, and
neither does anything outside ASCII. The name isc keeps its beginning, since c is a category. -/
def looseName (name : List Char) : String :=
  let keep := fun s : List Char =>
    (s.filter fun c => c.toNat < 0x80 && c != ' ' && c != '_' && c != '-').map Char.toLower
  match name with
  | i :: s :: rest =>
    if i.toLower = 'i' ∧ s.toLower = 's' then
      if keep rest = ['c'] then "isc" else String.ofList (keep rest)
    else String.ofList (keep name)
  | _ => String.ofList (keep name)

/-- The row of a table that bears a name. -/
def row? (table : List (List String × List String)) (name : String) : Option CharSet :=
  (table.find? fun r => r.1.contains name).map fun r => CharSet.read r.2

/-- Categories that unite others. -/
def categoryGroups : List (List String × List String) := [
  (["lc", "casedletter"], ["lu", "ll", "lt"]),
  (["l", "letter"], ["lu", "ll", "lt", "lm", "lo"]),
  (["m", "mark", "combiningmark"], ["mn", "mc", "me"]),
  (["n", "number"], ["nd", "nl", "no"]),
  (["p", "punctuation", "punct"], ["pc", "pd", "ps", "pe", "pi", "pf", "po"]),
  (["s", "symbol"], ["sm", "sc", "sk", "so"]),
  (["z", "separator"], ["zs", "zl", "zp"]),
  (["c", "other"], ["cc", "cf", "cn", "co"])]

/-- A general category, a union of them, or one of the sets any, assigned and ascii. -/
def category? (name : String) : Option CharSet :=
  if name = "any" then some CharSet.full
  else if name = "assigned" then (row? categoryTable "cn").map CharSet.compl
  else if name = "ascii" then some ⟨[(0, 0x7F)]⟩
  else match categoryGroups.find? fun g => g.1.contains name with
    | some g => some (CharSet.unions (g.2.filterMap (row? categoryTable)))
    | none => row? categoryTable name

/-- Code points assigned in a version or before it. -/
def age? (version : String) : Option CharSet :=
  let older := ageTable.takeWhile fun r => !r.1.contains version
  match ageTable.drop older.length with
  | [] => none
  | r :: _ => some (CharSet.unions ((older ++ [r]).map fun r => CharSet.read r.2))

/-- The set a lone name stands for: a yes-or-no property, else a category, else a script. -/
def named? (name : List Char) : Option CharSet :=
  let n := looseName name
  (row? binaryTable n).or ((category? n).or (row? scriptTable n))

/-- The set of characters for which a property has a value. -/
def valued? (property value : List Char) : Option CharSet :=
  let v := looseName value
  match looseName property with
  | "gc" | "generalcategory" | "category" => category? v
  | "sc" | "script" => row? scriptTable v
  | "scx" | "scriptextensions" => row? scriptExtensionTable v
  | "age" => age? v
  | "gcb" | "graphemeclusterbreak" => row? graphemeBreakTable v
  | "wb" | "wordbreak" => row? wordBreakTable v
  | "sb" | "sentencebreak" => row? sentenceBreakTable v
  | _ => none

/-- Decimal digits. -/
def digit : CharSet := (row? categoryTable "nd").getD .empty

def whiteSpace : CharSet := (row? binaryTable "whitespace").getD .empty

def alphabetic : CharSet := (row? binaryTable "alphabetic").getD .empty

/-- Letters, marks, decimal digits, connectors and the characters that join others. -/
def word : CharSet :=
  CharSet.unions (alphabetic :: ["m", "nd", "pc"].filterMap category? ++
    [(row? binaryTable "joincontrol").getD .empty])

/-- Alphabetic characters and numbers of any kind. -/
def alphanumeric : CharSet := alphabetic.union ((category? "n").getD .empty)

end Killfile.Unicode
