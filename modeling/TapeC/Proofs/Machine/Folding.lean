import TapeC.Proofs.Machine.Simulation
import TapeC.Proofs.Machine.Structured

/-!
# Folding keeps the meaning

An arithmetic op with amount `n` does what `n` ops with amount one do, on a tape without gaps: cells
count modulo 256, and a long move leaves the tape if and only if one of the short ones does.

* `Config.arith_succ`: one more is one before the others.
* `simulates_listToUnits`: code is followed by the same code in unit steps. A statement is matched
  by as many steps as its amount says; for an amount of zero there is none, and the code gets
  shorter.

**Theorem (`foldRuns_agree`).** The ops of a run list and the unit ops of its instructions cannot be
told apart, whatever the counts are and whichever runs stand next to each other.
-/

namespace TapeC

/-! ## Amounts -/

namespace Config

variable {e : Extent} {c c' : Config}

@[simp] theorem cell_setCell (c : Config) (b : UInt8) : (c.setCell b).cell = b := by
  simp [cell, setCell]

@[simp] theorem setCell_cell (c : Config) : c.setCell c.cell = c := by
  have : (fun i => if i = c.index then c.cells c.index else c.cells i) = c.cells := by
    funext i
    by_cases hi : i = c.index <;> simp [hi]
  simp only [setCell, cell, this]

@[simp] theorem setCell_setCell (c : Config) (b b' : UInt8) :
    (c.setCell b).setCell b' = c.setCell b' := by
  simp only [setCell, mk.injEq, and_true]
  funext i
  by_cases hi : i = c.index <;> simp [hi]

theorem add_ofNat_succ (b : UInt8) (n : Nat) :
    b + UInt8.ofNat (n + 1) = b + UInt8.ofNat 1 + UInt8.ofNat n := by
  rw [Nat.add_comm, UInt8.ofNat_add, UInt8.add_assoc]

theorem sub_ofNat_succ (b : UInt8) (n : Nat) :
    b - UInt8.ofNat (n + 1) = b - UInt8.ofNat 1 - UInt8.ofNat n := by
  rw [UInt8.sub_eq_iff_eq_add, Nat.add_comm, UInt8.ofNat_add, UInt8.add_comm (UInt8.ofNat 1),
    ← UInt8.add_assoc, UInt8.sub_add_cancel, UInt8.sub_add_cancel]

theorem arith_zero (h : e.holds c.index) (a : Arith) : c.arith e a 0 = some c := by
  cases a <;> simp [arith, h]

/-- A move by one more cell is possible if and only if the first cell of the move and then the
rest are there. -/
theorem arith_succ (h : e.holds c.index) (a : Arith) (n : Nat) :
    c.arith e a (n + 1) = (c.arith e a 1).bind (arith e a n) := by
  cases a with
  | inc => simp only [arith, Option.bind_some, cell_setCell, setCell_setCell, add_ofNat_succ _ n]
  | dec => simp only [arith, Option.bind_some, cell_setCell, setCell_setCell, sub_ofNat_succ _ n]
  | right =>
    have hcast : c.index + ((n + 1 : Nat) : Int) = c.index + (1 : Nat) + n := by push_cast; omega
    simp only [arith]
    rw [hcast]
    by_cases h1 : e.holds (c.index + (1 : Nat))
    · rw [if_pos h1, Option.bind_some, arith]
    · have hn : ¬ e.holds (c.index + (1 : Nat) + n) := fun hn =>
        h1 (e.between h hn (by omega) (by omega))
      rw [if_neg h1, if_neg hn, Option.bind_none]
  | left =>
    have hcast : c.index - ((n + 1 : Nat) : Int) = c.index - (1 : Nat) - n := by push_cast; omega
    simp only [arith]
    rw [hcast]
    by_cases h1 : e.holds (c.index - (1 : Nat))
    · rw [if_pos h1, Option.bind_some, arith]
    · have hn : ¬ e.holds (c.index - (1 : Nat) - n) := fun hn =>
        h1 (e.between hn h (by omega) (by omega))
      rw [if_neg h1, if_neg hn, Option.bind_none]

/-- The index stays on the tape. -/
theorem holds_of_arith (h : e.holds c.index) {a : Arith} {n : Nat} (ha : c.arith e a n = some c') :
    e.holds c'.index := by
  cases a with
  | inc | dec => obtain rfl := Option.some.inj ha; exact h
  | right | left =>
    simp only [arith] at ha
    split at ha
    · obtain rfl := Option.some.inj ha
      assumption
    · cases ha

theorem readByte_index (c : Config) : c.readByte.2.index = c.index := by
  unfold readByte
  split <;> rfl

end Config

/-! ## Code in unit steps -/

namespace Code

mutual

/-- A statement in steps of amount one. -/
def toUnits : Code → List Code
  | .arith a n => List.replicate n (.arith a 1)
  | .write => [.write]
  | .read => [.read]
  | .loop body => [.loop (listToUnits body)]

/-- Statements that follow each other, in steps of amount one. -/
def listToUnits : List Code → List Code
  | [] => []
  | code :: rest => toUnits code ++ listToUnits rest

end

@[simp] theorem listToUnits_nil : listToUnits [] = [] := rfl

@[simp] theorem listToUnits_arith (a : Arith) (n : Nat) (rest : List Code) :
    listToUnits (.arith a n :: rest) = List.replicate n (.arith a 1) ++ listToUnits rest := rfl

@[simp] theorem listToUnits_write (rest : List Code) :
    listToUnits (.write :: rest) = .write :: listToUnits rest := rfl

@[simp] theorem listToUnits_read (rest : List Code) :
    listToUnits (.read :: rest) = .read :: listToUnits rest := rfl

@[simp] theorem listToUnits_loop (body rest : List Code) :
    listToUnits (.loop body :: rest) = .loop (listToUnits body) :: listToUnits rest := rfl

theorem listToUnits_append (xs ys : List Code) :
    listToUnits (xs ++ ys) = listToUnits xs ++ listToUnits ys := by
  induction xs with
  | nil => rfl
  | cons x xs ih =>
    show toUnits x ++ listToUnits (xs ++ ys) = toUnits x ++ listToUnits xs ++ listToUnits ys
    rw [ih, List.append_assoc]

/-- The instructions that code stands for. -/
def instructions (code : List Code) : List Instruction := (listToOps code).flatMap Op.unfold

@[simp] theorem instructions_nil : instructions [] = [] := rfl

@[simp] theorem instructions_arith (a : Arith) (n : Nat) (rest : List Code) :
    instructions (.arith a n :: rest) = List.replicate n (.arith a) ++ instructions rest := rfl

@[simp] theorem instructions_write (rest : List Code) :
    instructions (.write :: rest) = .write :: instructions rest := rfl

@[simp] theorem instructions_read (rest : List Code) :
    instructions (.read :: rest) = .read :: instructions rest := rfl

@[simp] theorem instructions_loop (body rest : List Code) :
    instructions (.loop body :: rest) =
      .loopStart :: (instructions body ++ .loopEnd :: instructions rest) := by
  simp [instructions, Op.unfold]

theorem listToOps_replicate (a : Arith) (n : Nat) :
    listToOps (List.replicate n (.arith a 1)) = List.replicate n (.arith a 1) := by
  induction n with
  | zero => rfl
  | succ n ih => rw [List.replicate_succ, List.replicate_succ, listToOps_cons, ih]; rfl

theorem listToOps_listToUnits (code : List Code) :
    listToOps (listToUnits code) = (instructions code).map Op.unit := by
  induction code using listInduction with
  | nil => rfl
  | arith a n rest ih => simp [listToOps_replicate, ih, Op.unit, Op.withAmount]
  | write rest ih | read rest ih => simp [ih, Op.unit, Op.withAmount]
  | loop body rest ihb ih => simp [ihb, ih, Op.unit, Op.withAmount]

/-- The unit ops of code's instructions are the code in unit steps. -/
theorem ofOps?_units (code : List Code) :
    ofOps? ((instructions code).map Op.unit) = some (listToUnits code) := by
  rw [← listToOps_listToUnits, ofOps?_listToOps]

end Code

/-! ## The simulation -/

namespace CodeMachine

open Code

variable {e : Extent} {c c' : Config}

/-- Unit steps get as far as the one step with their number as its amount. -/
theorem reachesIn_replicate (h : e.holds c.index) {a : Arith} {n : Nat}
    (ha : c.arith e a n = some c') (rest : List Code) :
    (machine e).ReachesIn n ⟨List.replicate n (.arith a 1) ++ rest, c⟩ [] ⟨rest, c'⟩ := by
  induction n generalizing c with
  | zero =>
    obtain rfl := Option.some.inj ((Config.arith_zero h a).symm.trans ha)
    exact .refl _
  | succ n ih =>
    rw [Config.arith_succ h] at ha
    obtain ⟨c₁, h₁, h₂⟩ := Option.bind_eq_some_iff.1 ha
    exact .step (step_arith_some h₁ _) (ih (Config.holds_of_arith h h₁) h₂)

/-- If the one step leaves the tape, one of the unit steps does. -/
theorem faults_replicate (h : e.holds c.index) {a : Arith} {n : Nat}
    (ha : c.arith e a n = none) (rest : List Code) :
    (machine e).Faults ⟨List.replicate n (.arith a 1) ++ rest, c⟩ [] := by
  induction n generalizing c with
  | zero => rw [Config.arith_zero h] at ha; cases ha
  | succ n ih =>
    rw [Config.arith_succ h] at ha
    cases h₁ : c.arith e a 1 with
    | none => exact Machine.faults_self (step_arith_none h₁ _)
    | some c₁ =>
      rw [h₁, Option.bind_some] at ha
      obtain ⟨t, ht, hstop⟩ := ih (Config.holds_of_arith h h₁) ha
      exact ⟨t, .step (step_arith_some h₁ _) ht, hstop⟩

/-- The second state is the first one with its code in unit steps, and the index is on the tape. -/
structure InUnits (e : Extent) (s t : CodeState) : Prop where
  code : t.code = listToUnits s.code
  config : t.config = s.config
  holds : e.holds s.config.index

theorem simulates_listToUnits (e : Extent) :
    Machine.Simulates (machine e) CodeState.config (machine e) CodeState.config (InUnits e)
      (·.code.length) := by
  rintro ⟨code, c⟩ ⟨units, c'⟩ ⟨hcode, hc, hold⟩
  dsimp only at hcode hc hold
  subst hcode hc
  cases code with
  | nil => exact Machine.halts_self rfl
  | cons code rest =>
    cases code with
    | arith a n =>
      cases ha : c'.arith e a n with
      | none =>
        rw [step_arith_none ha]
        exact faults_replicate hold ha _
      | some c₁ =>
        rw [step_arith_some ha]
        exact ⟨n, ⟨listToUnits rest, c₁⟩, reachesIn_replicate hold ha _,
          ⟨rfl, rfl, Config.holds_of_arith hold ha⟩, fun _ => Nat.lt_succ_self _⟩
    | write =>
      rw [step_write]
      exact Machine.follows_one (step_write (listToUnits rest) c') ⟨rfl, rfl, hold⟩
    | read =>
      rw [step_read]
      exact Machine.follows_one (step_read (listToUnits rest) c')
        ⟨rfl, rfl, by rwa [Config.readByte_index]⟩
    | loop body =>
      by_cases hz : c'.cell = 0
      · rw [step_loop_zero hz]
        exact Machine.follows_one (step_loop_zero hz _ _) ⟨rfl, rfl, hold⟩
      · rw [step_loop_of_ne_zero hz]
        exact Machine.follows_one (step_loop_of_ne_zero hz _ _)
          ⟨(listToUnits_append body (.loop body :: rest)).symm, rfl, hold⟩

/-- Code and the same code in unit steps cannot be told apart. -/
theorem agree_listToUnits {e : Extent} {c : Config} (h : e.holds c.index) (code : List Code) :
    Machine.Agree (machine e) CodeState.config ⟨code, c⟩
      (machine e) CodeState.config ⟨listToUnits code, c⟩ :=
  Machine.agree_of_simulates (simulates_listToUnits e) ⟨rfl, rfl, h⟩

end CodeMachine

/-! ## Run lists -/

/-- Ops whose instructions have balanced loops are code that stands for these instructions, and so
are the unit ops of these instructions. -/
theorem exists_ofOps?_unfold {ops : List Op}
    (h : Brackets.Balanced Instruction.side? (ops.flatMap Op.unfold)) :
    ∃ code, Code.ofOps? ops = some code ∧ Code.instructions code = ops.flatMap Op.unfold ∧
      Code.ofOps? ((ops.flatMap Op.unfold).map Op.unit) = some (Code.listToUnits code) := by
  rw [Brackets.balanced_congr (Brackets.sides_flatMap_unfold ops)] at h
  obtain ⟨code, hcode, hops⟩ := Code.exists_ofOps? h
  have hins : Code.instructions code = ops.flatMap Op.unfold := by
    rw [Code.instructions, hops]
  exact ⟨code, hcode, hins, by rw [← hins, Code.ofOps?_units]⟩

/-- **Folding keeps the meaning.** On a tape without ends, the ops of a run list whose brackets are
balanced and the unit ops of its instructions are code that cannot be told apart, wherever it
starts. -/
theorem foldRuns_agree (rs : List Run)
    (h : Brackets.Balanced Instruction.side? (Run.unroll rs)) (c : Config) :
    ∃ folded units, Code.ofOps? (foldRuns rs) = some folded ∧
      Code.ofOps? ((Run.unroll rs).map Op.unit) = some units ∧
      Machine.Agree (CodeMachine.machine .endless) CodeState.config ⟨folded, c⟩
        (CodeMachine.machine .endless) CodeState.config ⟨units, c⟩ := by
  rw [← unfold_foldRuns] at h ⊢
  obtain ⟨code, hcode, -, hunits⟩ := exists_ofOps?_unfold h
  exact ⟨code, Code.listToUnits code, hcode, hunits, CodeMachine.agree_listToUnits rfl code⟩

/-- Equal neighbours, runs of brackets that span two loops, an empty run, and more than a byte. -/
theorem foldRuns_agree_nested :
    let rs : List Run := [⟨.read, 1⟩, ⟨.arith .inc, 300⟩, ⟨.arith .inc, 2⟩, ⟨.loopStart, 2⟩,
      ⟨.arith .dec, 1⟩, ⟨.arith .left, 0⟩, ⟨.loopEnd, 2⟩, ⟨.write, 3⟩]
    let c : Config := .start fun n => [5][n]?
    Brackets.Balanced Instruction.side? (Run.unroll rs) ∧
      ∃ folded units, Code.ofOps? (foldRuns rs) = some folded ∧
        Code.ofOps? ((Run.unroll rs).map Op.unit) = some units ∧
        Machine.Agree (CodeMachine.machine .endless) CodeState.config ⟨folded, c⟩
          (CodeMachine.machine .endless) CodeState.config ⟨units, c⟩ :=
  ⟨by decide, foldRuns_agree _ (by decide) _⟩

end TapeC
