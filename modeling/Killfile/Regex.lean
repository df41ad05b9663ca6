import Killfile.Regex.Parse
import Killfile.Regex.Size
import Killfile.Regex.Walk

/-! Regular expressions from their text. -/

namespace Killfile.Regex

/-- Reads a pattern. None is given if it is not well formed, nests too deeply, could match parts of
characters, or needs too much room. -/
def compile (pattern : String) : Option Regex := do
  let a ← parse pattern.toList
  let (r, _) ← a.meaning {}
  if r.fits then some r else none

/-- Puts a backslash before each character that patterns give a meaning. -/
def escapeText (s : List Char) : List Char :=
  s.flatMap fun c => if isMeta c then ['\\', c] else [c]

/-- Whether a pattern matches some part of a text. -/
def matchesText (r : Regex) (text : String) : Bool := r.search text.toList

end Killfile.Regex
