import Mathlib.Algebra.Group.Int.Defs
import Mathlib.Tactic.Common

/-!
# Values in configuration edits

`str::parse` for the types that an edit of the configuration can set.
-/

namespace OpenPinch

/-- The sign of a numeral and what follows it. -/
def signAndDigits : List Char → Int × List Char
  | '-' :: rest => (-1, rest)
  | '+' :: rest => (1, rest)
  | rest => (1, rest)

/-- `str::parse::<i64>`: a sign or none, and digits. -/
def parseI64 (text : String) : Option Int :=
  let (sign, digits) := signAndDigits text.toList
  if digits.isEmpty || !digits.all Char.isDigit then none
  else
    let value := sign * digits.foldl (fun n digit => 10 * n + (digit.toNat - '0'.toNat : Nat)) 0
    if -2 ^ 63 ≤ value ∧ value < 2 ^ 63 then some value else none

/-- `str::parse` for an unsigned type below a limit: a plus or none, and digits. -/
def parseUnsigned (limit : Nat) (text : String) : Option Nat :=
  let digits :=
    match text.toList with
    | '+' :: rest => rest
    | rest => rest
  if digits.isEmpty || !digits.all Char.isDigit then none
  else
    let value := digits.foldl (fun n digit => 10 * n + (digit.toNat - '0'.toNat)) 0
    if value < limit then some value else none

/-- `str::parse::<bool>`. -/
def parseBool (text : String) : Option Bool :=
  if text = "true" then some true else if text = "false" then some false else none

end OpenPinch
