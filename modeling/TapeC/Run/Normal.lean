import Mathlib.Algebra.GroupWithZero.Nat
import Mathlib.Data.List.Chain
import TapeC.Run

/-!
# Normal run lists

A run list is normal if no run is empty and no two neighbours have the same instruction.
`normalize` makes a run list normal without changing what it stands for: empty runs are dropped, and
then each stretch of neighbours with the same instruction becomes one run, those that came together
by a drop too.
-/

namespace TapeC.Run

structure IsNormal (rs : List Run) : Prop where
  count_pos : ∀ r ∈ rs, 0 < r.count
  isChain : rs.IsChain fun r s => r.instruction ≠ s.instruction

/-- The runs that are not empty, in maximal stretches of neighbours with the same instruction. -/
def stretches (rs : List Run) : List (List Run) :=
  (rs.filter (0 < ·.count)).splitBy fun r s => r.instruction = s.instruction

/-- The one run for a stretch, with the sum of its counts. -/
def merge? (rs : List Run) : Option Run :=
  rs.head?.map fun r => ⟨r.instruction, (rs.map (·.count)).sum⟩

/-- The normal form of a run list. -/
def normalize (rs : List Run) : List Run := (stretches rs).filterMap merge?

/-- A run list as program text, run after run. -/
def text (rs : List Run) : String := String.join (rs.map expand)

end TapeC.Run
