import TapeC.Machine.Structured
import TapeC.Proofs.Brackets

/-!
# Ops and structured code

`Code.ofOps?` and `Code.listToOps` are inverse to each other, and op lists that are code are those
with balanced loops.

* `ofOps?_listToOps`: the ops of code are read as that code.
* `exists_ofOps?`: an op list with balanced loops is read as code that has these ops. What is read
  so far and the code of the loops that are open make up the ops read so far (`opened`).
-/

namespace TapeC

namespace Code

/-- Induction over statements that follow each other, and over those of loops among them. -/
theorem listInduction {motive : List Code → Prop} (nil : motive [])
    (arith : ∀ a n rest, motive rest → motive (.arith a n :: rest))
    (write : ∀ rest, motive rest → motive (.write :: rest))
    (read : ∀ rest, motive rest → motive (.read :: rest))
    (loop : ∀ body rest, motive body → motive rest → motive (.loop body :: rest)) :
    ∀ code, motive code
  | [] => nil
  | .arith a n :: rest => arith a n rest (listInduction nil arith write read loop rest)
  | .write :: rest => write rest (listInduction nil arith write read loop rest)
  | .read :: rest => read rest (listInduction nil arith write read loop rest)
  | .loop body :: rest => loop body rest (listInduction nil arith write read loop body)
      (listInduction nil arith write read loop rest)

@[simp] theorem listToOps_nil : listToOps [] = [] := rfl

@[simp] theorem listToOps_cons (code : Code) (rest : List Code) :
    listToOps (code :: rest) = toOps code ++ listToOps rest := rfl

@[simp] theorem toOps_arith (a : Arith) (n : Nat) : toOps (.arith a n) = [.arith a n] := rfl

@[simp] theorem toOps_write : toOps .write = [.write] := rfl

@[simp] theorem toOps_read : toOps .read = [.read] := rfl

@[simp] theorem toOps_loop (body : List Code) :
    toOps (.loop body) = .loopStart :: (listToOps body ++ [.loopEnd]) := rfl

@[simp] theorem listToOps_append (xs ys : List Code) :
    listToOps (xs ++ ys) = listToOps xs ++ listToOps ys := by
  induction xs with
  | nil => rfl
  | cons x xs ih => rw [List.cons_append, listToOps_cons, listToOps_cons, ih, List.append_assoc]

/-! ## The ops of code are read as that code -/

theorem ofOpsFrom?_listToOps (code : List Code) (outer : List (List Code)) (done : List Code)
    (ops : List Op) :
    ofOpsFrom? outer done (listToOps code ++ ops) =
      ofOpsFrom? outer (code.reverse ++ done) ops := by
  induction code using listInduction generalizing outer done ops with
  | nil => rfl
  | arith a n rest ih | write rest ih | read rest ih => simp [ofOpsFrom?, ih]
  | loop body rest ihb ih => simp [ofOpsFrom?, ihb, ih]

theorem ofOps?_listToOps (code : List Code) : ofOps? (listToOps code) = some code := by
  have := ofOpsFrom?_listToOps code [] [] []
  simpa [ofOps?, ofOpsFrom?] using this

/-! ## Balanced ops are code -/

/-- The ops of the loops that are open, up to the beginning of the innermost. -/
def opened : List (List Code) → List Op
  | [] => []
  | before :: outer => opened outer ++ listToOps before.reverse ++ [.loopStart]

theorem exists_ofOpsFrom? (outer : List (List Code)) (done : List Code) {ops : List Op}
    (h : Brackets.closes outer.length (Brackets.sides Op.side? ops) = true) :
    ∃ code, ofOpsFrom? outer done ops = some code ∧
      listToOps code = opened outer ++ listToOps done.reverse ++ ops := by
  induction ops generalizing outer done with
  | nil =>
    obtain rfl : outer = [] := by simpa [Brackets.sides] using h
    exact ⟨done.reverse, rfl, by simp [opened]⟩
  | cons op ops ih =>
    rw [Brackets.sides_cons] at h
    cases op with
    | arith a n =>
      obtain ⟨code, hcode, hops⟩ := ih outer (.arith a n :: done) h
      exact ⟨code, hcode, by simp [hops]⟩
    | write =>
      obtain ⟨code, hcode, hops⟩ := ih outer (.write :: done) h
      exact ⟨code, hcode, by simp [hops]⟩
    | read =>
      obtain ⟨code, hcode, hops⟩ := ih outer (.read :: done) h
      exact ⟨code, hcode, by simp [hops]⟩
    | loopStart =>
      obtain ⟨code, hcode, hops⟩ := ih (done :: outer) [] h
      exact ⟨code, hcode, by simp [hops, opened]⟩
    | loopEnd =>
      cases outer with
      | nil => cases h
      | cons before outer =>
        obtain ⟨code, hcode, hops⟩ := ih outer (.loop done.reverse :: before) h
        exact ⟨code, hcode, by simp [hops, opened]⟩

theorem exists_ofOps? {ops : List Op} (h : Brackets.Balanced Op.side? ops) :
    ∃ code, ofOps? ops = some code ∧ listToOps code = ops := by
  obtain ⟨code, hcode, hops⟩ :=
    exists_ofOpsFrom? [] [] ((Brackets.balanced_iff_closes ops).1 h)
  exact ⟨code, hcode, by simpa [opened] using hops⟩

end Code

/-! ## Steps of the code machine -/

namespace CodeMachine

variable {e : Extent} {c c' : Config}

theorem step_arith_some {a : Arith} {n : Nat} (h : c.arith e a n = some c') (rest : List Code) :
    (machine e).step ⟨.arith a n :: rest, c⟩ = .next none ⟨rest, c'⟩ := by
  simp [machine, step, h]

theorem step_arith_none {a : Arith} {n : Nat} (h : c.arith e a n = none) (rest : List Code) :
    (machine e).step ⟨.arith a n :: rest, c⟩ = .fault := by
  simp [machine, step, h]

theorem step_write (rest : List Code) (c : Config) :
    (machine e).step ⟨.write :: rest, c⟩ = .next (some (.wrote c.cell)) ⟨rest, c⟩ := rfl

theorem step_read (rest : List Code) (c : Config) :
    (machine e).step ⟨.read :: rest, c⟩ = .next (some (.got c.readByte.1)) ⟨rest, c.readByte.2⟩ :=
  rfl

theorem step_loop_zero (h : c.cell = 0) (body rest : List Code) :
    (machine e).step ⟨.loop body :: rest, c⟩ = .next none ⟨rest, c⟩ := by
  simp [machine, step, h]

theorem step_loop_of_ne_zero (h : c.cell ≠ 0) (body rest : List Code) :
    (machine e).step ⟨.loop body :: rest, c⟩ = .next none ⟨body ++ .loop body :: rest, c⟩ := by
  simp [machine, step, h]

end CodeMachine

end TapeC
