import TapeC.Brackets
import TapeC.Listing.Program

/-!
# Levels of indentation

A second way to say how deep the line of an op is indented: by how far the loops are open at it,
counted from the lowest point that this number ever had. The lines of a listing find their level
step by step; `level` says it of each op by itself, from the ops before it.
-/

namespace TapeC.Listing

/-- How many more loops start than end. -/
def openLoops (ops : List Op) : Int := Brackets.excess Op.side? ops

/-- The least excess of loop starts over loop ends that a beginning of the ops has; the empty one
has none. -/
def lowest (ops : List Op) : Int :=
  (List.range (ops.length + 1)).foldl (fun low n => min low (openLoops (ops.take n))) 0

/-- The ops that decide on the level of the line at a place: those before it, and a loop end's own
too. -/
def deciding (ops : List Op) (i : Nat) : List Op :=
  if ops[i]? = some .loopEnd then ops.take (i + 1) else ops.take i

/-- The level of the line at a place, one for the function body and one for each open loop that is
left when the loop ends without a beginning are passed over. -/
def level (ops : List Op) (i : Nat) : Int :=
  1 + openLoops (deciding ops i) - lowest (deciding ops i)

end TapeC.Listing
