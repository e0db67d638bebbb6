import TapeC.Op

/-!
# Cell arithmetic in the generated program

What the compound assignments to a cell mean on a machine with 32-bit `int` and 64-bit `long`. The
cell, an `unsigned char`, is promoted to `int`; the literal has the first type that it fits in;
the sum or difference is taken in the wider of the two types, where an overflow has no meaning; and
its value is converted back to the cell, modulo 256.
-/

namespace TapeC

/-- The signed types that a sum or difference may be taken in. -/
inductive SignedType where
  | int
  | long
deriving DecidableEq

namespace SignedType

/-- The least number that is too great for the type; its negation is the least value. -/
def limit : SignedType → Int
  | .int => 2147483648
  | .long => 9223372036854775808

/-- The type has the value. -/
def Holds (t : SignedType) (v : Int) : Prop := -t.limit ≤ v ∧ v < t.limit

instance (t : SignedType) (v : Int) : Decidable (t.Holds v) :=
  inferInstanceAs (Decidable (_ ∧ _))

/-- The type of an unsuffixed decimal literal: the first one that has its value. -/
def ofLiteral? (n : Nat) : Option SignedType := [int, long].find? (·.Holds n)

/-- The type that a sum with an `int` is taken in. -/
def withInt : SignedType → SignedType
  | .int => .int
  | .long => .long

end SignedType

/-- The sum or the difference, if it does not overflow. -/
def SignedType.compute? (t : SignedType) (v : Int) : Option Int :=
  if t.Holds v then some v else none

/-- The value that `*ptr += n;` or `*ptr -= n;` leaves in a cell that holds `c`. There is none if
the literal has no type, or the sum or difference overflows. -/
def assignCell? (a : Arith) (n : Nat) (c : UInt8) : Option UInt8 := do
  let t := (← SignedType.ofLiteral? n).withInt
  let v ← t.compute? (if a = .inc then (c.toNat : Int) + n else (c.toNat : Int) - n)
  some (UInt8.ofNat (v % 256).toNat)

end TapeC
