import TapeC.Machine.Tape

/-!
# Structured code

Ops as the statements that they are written as: loops hold the code between their first and their
last line. A loop runs as long as the cell in use is not zero. `Code.ofOps?` finds the loops in an
op list; it fails if the loops do not close as they open.
-/

namespace TapeC

inductive Code where
  | arith (a : Arith) (amount : Nat)
  | write
  | read
  | loop (body : List Code)

namespace Code

/-- Reads ops into code. `outer` holds what comes before each loop that is open, the innermost
first, and `done` what the innermost holds so far, all in reverse. -/
def ofOpsFrom? (outer : List (List Code)) (done : List Code) : List Op → Option (List Code)
  | [] => if outer.isEmpty then some done.reverse else none
  | .arith a n :: ops => ofOpsFrom? outer (.arith a n :: done) ops
  | .write :: ops => ofOpsFrom? outer (.write :: done) ops
  | .read :: ops => ofOpsFrom? outer (.read :: done) ops
  | .loopStart :: ops => ofOpsFrom? (done :: outer) [] ops
  | .loopEnd :: ops =>
    match outer with
    | [] => none
    | before :: outer => ofOpsFrom? outer (.loop done.reverse :: before) ops

/-- The code that an op list is. -/
def ofOps? (ops : List Op) : Option (List Code) := ofOpsFrom? [] [] ops

mutual

/-- The ops of a statement: those of a loop stand between its ends. -/
def toOps : Code → List Op
  | .arith a n => [.arith a n]
  | .write => [.write]
  | .read => [.read]
  | .loop body => .loopStart :: (listToOps body ++ [.loopEnd])

/-- The ops of statements that follow each other. -/
def listToOps : List Code → List Op
  | [] => []
  | code :: rest => toOps code ++ listToOps rest

end

end Code

/-- What is still to be done, and the tape. -/
structure CodeState where
  code : List Code
  config : Config

namespace CodeMachine

variable (e : Extent)

/-- Does the first statement. A loop puts its body before itself. -/
def step (s : CodeState) : StepResult CodeState :=
  let c := s.config
  match s.code with
  | [] => .halted
  | .arith a n :: rest =>
    match c.arith e a n with
    | some c' => .next none ⟨rest, c'⟩
    | none => .fault
  | .write :: rest => .next (some (.wrote c.cell)) ⟨rest, c⟩
  | .read :: rest => .next (some (.got c.readByte.1)) ⟨rest, c.readByte.2⟩
  | .loop body :: rest =>
    if c.cell = 0 then .next none ⟨rest, c⟩
    else .next none ⟨body ++ .loop body :: rest, c⟩

/-- The machine that runs code on a tape. -/
def machine : Machine CodeState := ⟨step e⟩

end CodeMachine

end TapeC
