import Killfile.Failure
import Killfile.Text.Blank
import Killfile.Text.Utf8

/-! Files under a directory, and reading them by their paths. -/

namespace Killfile

/-- What stands under a name. -/
inductive FileContent where
  | bytes (b : List UInt8)
  | directory
deriving DecidableEq, Repr

/-- The text of a file. -/
def FileContent.text : FileContent → Except FileError String
  | .directory => .error .isDirectory
  | .bytes b =>
    match Text.Utf8.text? b with
    | some s => .ok s
    | none => .error .notText

/-- Contents under their paths from the directory. -/
abbrev Files := List (String × FileContent)

namespace Files

/-- The names in a path. Names of the directory itself and empty ones lead nowhere. -/
def names (path : String) : List (List Char) :=
  (Text.pieces '/' path.toList).filter fun n => n ≠ [] ∧ n ≠ ['.']

/-- A path that can only mean a directory. -/
def asksDirectory (path : String) : Bool :=
  match (Text.pieces '/' path.toList).getLast? with
  | some n => n = [] || n = ['.']
  | none => false

/-- Names that lead into a directory, however deep. -/
def isInside (name dir : List (List Char)) : Bool :=
  dir.length < name.length && name.take dir.length == dir

/-- What stands at names from the directory. Directories on the way to a file are there with it. -/
def standing? (files : Files) (n : List (List Char)) : Option FileContent :=
  if n = [] then some .directory
  else match files.find? fun f => names f.1 = n with
    | some f => some f.2
    | none => if files.any fun f => isInside (names f.1) n then some .directory else none

def bytesOf (s : List Char) : Nat := (Text.Utf8.encode (.ofList s)).length

/-- Follows names from a place. Two points lead back, and nothing is known outside of the
directory. -/
def follow (files : Files) : List (List Char) → List (List Char) → Except FileError FileContent
  | place, [] =>
    match files.standing? place with
    | some c => .ok c
    | none => .error .notFound
  | place, n :: rest =>
    match files.standing? place with
    | none => .error .notFound
    | some (.bytes _) => .error .notDirectory
    | some .directory =>
      if 255 < bytesOf n then .error .nameTooLong
      else if n ≠ ['.', '.'] then follow files (place ++ [n]) rest
      else if place ≠ [] then follow files place.dropLast rest
      else if rest.all (· == ['.', '.']) then .ok .directory
      else .error .notFound

/-- What stands at a path. -/
def lookup (files : Files) (path : String) : Except FileError FileContent :=
  let n := names path
  if '\x00' ∈ path.toList then .error .nulInName
  else if path = "" then .error .notFound
  else if 4096 ≤ bytesOf path.toList then .error .nameTooLong
  else if path.toList.head? = some '/' then if n = [] then .ok .directory else .error .notFound
  else match follow files [] n with
    | .ok (.bytes b) => if asksDirectory path then .error .notDirectory else .ok (.bytes b)
    | r => r

/-- The text at a path. -/
def read (files : Files) (path : String) : Except FileError String :=
  (files.lookup path).bind FileContent.text

end Files

end Killfile
