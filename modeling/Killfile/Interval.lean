import Killfile.Text.Blank
import Killfile.Unicode.Case

/-! Intervals of time as text, such as 30s, 15m, 6h or 1d. -/

namespace Killfile.Interval

/-- Seconds in a unit. -/
def unitSeconds? : Char → Option Nat
  | 's' => some 1
  | 'm' => some 60
  | 'h' => some 3600
  | 'd' => some 86400
  | _ => none

/-- Intervals are counted in 64 bits. -/
def bound : Nat := 18446744073709551616

/-- The text in lower case, without blanks around it. -/
def normal (text : String) : List Char := Unicode.lowercase (Text.trim text.toList)

/-- Value of decimal digits. -/
def digitsValue (digits : List Char) : Nat :=
  digits.foldl (fun n c => 10 * n + (c.toNat - '0'.toNat)) 0

/-- A number below the bound, which may have a plus sign. -/
def number? (s : List Char) : Option Nat :=
  let ds := if s.head? = some '+' then s.tail else s
  if ds ≠ [] ∧ ds.all Char.isDigit ∧ digitsValue ds < bound then some (digitsValue ds) else none

/-- Splits off a letter at the end. Without one the unit is the second. -/
def splitUnit (s : List Char) : List Char × Char :=
  match s.getLast? with
  | some c => if c.isAlpha then (s.dropLast, c) else (s, 's')
  | none => (s, 's')

/-- Seconds of an interval that is neither zero nor beyond the bound. -/
def parse? (text : String) : Option Nat := do
  let (digits, unit) := splitUnit (normal text)
  let factor ← unitSeconds? unit
  let n ← number? digits
  if 0 < n * factor ∧ n * factor < bound then some (n * factor) else none

/-- The interval in the largest unit that divides it. -/
def render (seconds : Nat) : String :=
  if 86400 ≤ seconds ∧ seconds % 86400 = 0 then toString (seconds / 86400) ++ "d"
  else if 3600 ≤ seconds ∧ seconds % 3600 = 0 then toString (seconds / 3600) ++ "h"
  else if 60 ≤ seconds ∧ seconds % 60 = 0 then toString (seconds / 60) ++ "m"
  else toString seconds ++ "s"

end Killfile.Interval
