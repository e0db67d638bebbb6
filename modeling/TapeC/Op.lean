import TapeC.Run

/-!
# Ops

An op is what one statement of the generated program does: an arithmetic instruction with an
amount, or one of the other instructions. Two ways lead from instructions to ops: one op per
occurrence, or constant folding, which makes one op of each run of an arithmetic instruction.
`Op.unfold` goes back, and `unfold_optimize` says that both ways are lossless.
-/

namespace TapeC

inductive Op where
  | arith (a : Arith) (amount : Nat)
  | write
  | read
  | loopStart
  | loopEnd
deriving DecidableEq, Inhabited

namespace Op

/-- The instruction done with an amount. Only the arithmetic ones have one; the others are done
once, whatever the amount. -/
def withAmount (i : Instruction) (n : Nat) : Op :=
  match i with
  | .arith a => .arith a n
  | .write => .write
  | .read => .read
  | .loopStart => .loopStart
  | .loopEnd => .loopEnd

/-- One occurrence of an instruction. -/
def unit (i : Instruction) : Op := withAmount i 1

/-- The instructions that an op stands for. -/
def unfold : Op → List Instruction
  | .arith a n => List.replicate n (.arith a)
  | .write => [.write]
  | .read => [.read]
  | .loopStart => [.loopStart]
  | .loopEnd => [.loopEnd]

@[simp] theorem unfold_unit (i : Instruction) : (unit i).unfold = [i] := by
  cases i <;> rfl

end Op

/-- The ops of a run: one for all of it if the instruction is arithmetic, else one for each
occurrence. -/
def Run.ops (r : Run) : List Op :=
  if r.instruction.isArithmetic then [.withAmount r.instruction r.count]
  else List.replicate r.count (.unit r.instruction)

/-- Constant folding: the ops of each run in turn. Runs are taken as they are; an empty one gives
an op of amount zero if it is arithmetic and no op otherwise. -/
def foldRuns (rs : List Run) : List Op := rs.flatMap Run.ops

/-! ## Optimizations -/

/-- The optimizations that a compilation may use. -/
structure Optimizations where
  constantFolding : Bool
deriving DecidableEq, Inhabited

namespace Optimizations

def all : Optimizations := ⟨true⟩

def none : Optimizations := ⟨false⟩

/-- The names of the optimizations in use. -/
def names (o : Optimizations) : List String :=
  if o.constantFolding then ["ConstantFolding"] else []

/-- The names in braces, with commas between them. -/
def render (o : Optimizations) : String := "\x7b" ++ ", ".intercalate o.names ++ "\x7d"

end Optimizations

/-- The ops of an instruction sequence. -/
def optimize (o : Optimizations) (is : List Instruction) : List Op :=
  if o.constantFolding then foldRuns (Run.group is) else is.map Op.unit

theorem Run.flatMap_unfold_ops (r : Run) :
    r.ops.flatMap Op.unfold = List.replicate r.count r.instruction := by
  obtain ⟨i, n⟩ := r
  cases i with
  | arith a => simp [ops, Instruction.isArithmetic, Op.withAmount, Op.unfold]
  | _ => simp [ops, Instruction.isArithmetic, List.flatMap_replicate]

/-- Folding keeps what a run list stands for. -/
theorem unfold_foldRuns (rs : List Run) : (foldRuns rs).flatMap Op.unfold = Run.unroll rs := by
  rw [foldRuns, List.flatMap_assoc, Run.unroll]
  exact congrArg (rs.flatMap ·) (funext Run.flatMap_unfold_ops)

/-- The ops of a sequence stand for the sequence, with and without folding. -/
theorem unfold_optimize (o : Optimizations) (is : List Instruction) :
    (optimize o is).flatMap Op.unfold = is := by
  unfold optimize
  split
  · rw [unfold_foldRuns, Run.unroll_group]
  · simp [List.flatMap_map]

end TapeC
