import TapeC.Host.Utility.Quote

/-!
# Amounts with units

Numbers of lines or bytes that options ask for: decimal digits, and a letter that stands for a
power of 1024, or of 1000 if `B` or `D` follows it.
-/

namespace TapeC.Amount

inductive Fault where
  | malformed
  | tooLarge
deriving DecidableEq

/-- The greatest amount. -/
def max : Nat := Nat.pow 2 64 - 1

/-- The power that a letter stands for. -/
def power? : Char → Option Nat
  | 'k' | 'K' => some 1
  | 'm' | 'M' => some 2
  | 'G' => some 3
  | 'T' => some 4
  | 'P' => some 5
  | 'E' => some 6
  | 'Z' => some 7
  | 'Y' => some 8
  | 'R' => some 9
  | 'Q' => some 10
  | _ => none

/-- The number that a unit stands for. -/
def unit? : List Char → Option Nat
  | [] => some 1
  | ['b'] => some 512
  | [c] => (power? c).map (Nat.pow 1024 ·)
  | [c, 'B'] | [c, 'D'] => (power? c).map (Nat.pow 1000 ·)
  | [c, 'i', 'B'] => (power? c).map (Nat.pow 1024 ·)
  | _ => none

def isBlank (c : Char) : Bool := c = ' ' || ('\t' ≤ c && c ≤ '\r')

/-- Reads an amount. A unit alone stands for itself. -/
def read (cs : List Char) : Except Fault Nat :=
  let signed := cs.dropWhile isBlank
  let unsigned := if signed.head? = some '+' then signed.tail else signed
  let digits := unsigned.takeWhile Char.isDigit
  let unit := unsigned.drop digits.length
  if digits.isEmpty && (unit.isEmpty || signed.head? = some '+' || cs.length ≠ unsigned.length) then
    .error .malformed
  else
    match unit? unit with
    | none => .error .malformed
    | some scale =>
      let n := if digits.isEmpty then 1
        else digits.foldl (fun n c => 10 * n + (c.toNat - '0'.toNat)) 0
      if max < n * scale then .error .tooLarge else .ok (n * scale)

/-- What is said of an amount that cannot be read. -/
def complaint (kind : String) (f : Fault) (cs : List Char) : List Char :=
  "invalid number of ".toList ++ kind.toList ++ [':', ' '] ++ Quote.cited cs ++
    match f with
    | .malformed => []
    | .tooLarge => ": Value too large for defined data type".toList

end TapeC.Amount
