/-!
# Decimal numbers

Reading numbers that are written in decimal digits, as `toString` and `Nat.toDigits 10` write them.
-/

namespace TapeC.Text

/-- A number that is written in decimal digits, at least one. -/
def readDecimal? (cs : List Char) : Option Nat :=
  if cs.isEmpty || !cs.all (·.isDigit) then none
  else some (cs.foldl (fun n c => 10 * n + (c.toNat - '0'.toNat)) 0)

end TapeC.Text
