import TapeC.Machine.Behaviour
import TapeC.Op

/-!
# The tape

A tape of byte cells, an index to one of them, and the input that is not read yet. Cells are
numbered by integers; an `Extent` says which of them there are. Moving the index to a cell that
there is not is a fault. A tape has no gaps: a move by `n` cells meets the end of the tape if and
only if one of `n` moves by one cell does.
-/

namespace TapeC

/-- The cells that there are. -/
structure Extent where
  holds : Int → Bool
  between {i j k : Int} : holds i → holds k → i ≤ j → j ≤ k → holds j

namespace Extent

/-- The cells of a generated program's tape, of which there are 30000. -/
def generated : Extent where
  holds i := 0 ≤ i && i < 30000
  between := by
    intro i j k hi hk hij hjk
    simp only [Bool.and_eq_true, decide_eq_true_eq] at hi hk ⊢
    omega

/-- A tape without ends. -/
def endless : Extent where
  holds _ := true
  between _ _ _ _ := rfl

end Extent

/-- Bytes by their number. There is none after the end, if there is one: the bytes of a list `bs`
are `fun n => bs[n]?`. -/
abbrev Input : Type := Nat → Option UInt8

structure Config where
  cells : Int → UInt8
  index : Int
  input : Input

namespace Config

/-- Every cell is zero and the index is at the first one. -/
def start (input : Input) : Config := ⟨fun _ => 0, 0, input⟩

/-- The cell in use. -/
def cell (c : Config) : UInt8 := c.cells c.index

def setCell (c : Config) (b : UInt8) : Config :=
  { c with cells := fun i => if i = c.index then b else c.cells i }

/-- The byte that is read at the end of the input. -/
def endOfInput : UInt8 := 255

/-- Reads a byte of the input into the cell in use. -/
def readByte (c : Config) : UInt8 × Config :=
  match c.input 0 with
  | none => (endOfInput, c.setCell endOfInput)
  | some b => (b, { c.setCell b with input := fun n => c.input (n + 1) })

/-- Does an arithmetic instruction with an amount. Cells count modulo 256. There is no outcome if
the index leaves the tape. -/
def arith (e : Extent) (a : Arith) (n : Nat) (c : Config) : Option Config :=
  match a with
  | .inc => some (c.setCell (c.cell + UInt8.ofNat n))
  | .dec => some (c.setCell (c.cell - UInt8.ofNat n))
  | .right => if e.holds (c.index + n) then some { c with index := c.index + n } else none
  | .left => if e.holds (c.index - n) then some { c with index := c.index - n } else none

end Config

end TapeC
