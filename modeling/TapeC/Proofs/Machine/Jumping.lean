import TapeC.Machine.Jump
import TapeC.Proofs.Machine.Folding

/-!
# Structured code and the jump machine

The code machine keeps what is still to be done; the jump machine keeps a place in the program,
which is here the characters of an instruction sequence (`charsOf`). A state of one stands for a
state of the other if the program goes on from the place as the code says.

* `Spans i code j`: the program has the code between places `i` and `j`, each loop with both of its
  brackets.
* `Stands i code`: from place `i` on the program does the code. A loop whose body has just been done
  stands at its closing bracket, and a loop that comes next at its opening one; these are the two
  places where the code machine says the same and the jump machine does not.

Every step of one machine is a step of the other (`simulates_stands`), since a jump leads to the
other end of the loop (`Loop.placeAfterClosing?_eq`, `Loop.placeAfterOpening?_eq`): what lies
between opens and closes as many brackets.
-/

namespace TapeC

open Code
open Brackets (drop_eq_cons)

namespace JumpMachine

/-- The program has the code, in steps of amount one, from place `i` up to place `j`. -/
inductive Spans (program : List Instruction) : Nat → List Code → Nat → Prop where
  | nil (i : Nat) : Spans program i [] i
  | arith {i j : Nat} {a : Arith} {rest : List Code} (h : program[i]? = some (.arith a))
      (hrest : Spans program (i + 1) rest j) : Spans program i (.arith a 1 :: rest) j
  | write {i j : Nat} {rest : List Code} (h : program[i]? = some .write)
      (hrest : Spans program (i + 1) rest j) : Spans program i (.write :: rest) j
  | read {i j : Nat} {rest : List Code} (h : program[i]? = some .read)
      (hrest : Spans program (i + 1) rest j) : Spans program i (.read :: rest) j
  | loop {i j k : Nat} {body rest : List Code} (hopen : program[i]? = some .loopStart)
      (hbody : Spans program (i + 1) body k) (hclose : program[k]? = some .loopEnd)
      (hrest : Spans program (k + 1) rest j) : Spans program i (.loop body :: rest) j

/-- A loop of the program: its brackets stand at places `i` and `k`. -/
structure Loop (program : List Instruction) (i : Nat) (body : List Code) (k : Nat) : Prop where
  opening : program[i]? = some .loopStart
  spans : Spans program (i + 1) body k
  closing : program[k]? = some .loopEnd

/-- The program does the code from place `i` on, and ends with it. -/
inductive Stands (program : List Instruction) : Nat → List Code → Prop where
  | finish : Stands program program.length []
  | arith {i : Nat} {a : Arith} {rest : List Code} (h : program[i]? = some (.arith a))
      (hrest : Stands program (i + 1) rest) : Stands program i (.arith a 1 :: rest)
  | write {i : Nat} {rest : List Code} (h : program[i]? = some .write)
      (hrest : Stands program (i + 1) rest) : Stands program i (.write :: rest)
  | read {i : Nat} {rest : List Code} (h : program[i]? = some .read)
      (hrest : Stands program (i + 1) rest) : Stands program i (.read :: rest)
  | enter {i k : Nat} {body rest : List Code} (h : Loop program i body k)
      (hrest : Stands program (k + 1) rest) : Stands program i (.loop body :: rest)
  | again {i k : Nat} {body rest : List Code} (h : Loop program i body k)
      (hrest : Stands program (k + 1) rest) : Stands program k (.loop body :: rest)

variable {program : List Instruction} {i j k : Nat} {code body rest : List Code}

theorem Spans.stands_append (h : Spans program i code j) (hrest : Stands program j rest) :
    Stands program i (code ++ rest) := by
  induction h with
  | nil => exact hrest
  | arith h _ ih => exact .arith h (ih hrest)
  | write h _ ih => exact .write h (ih hrest)
  | read h _ ih => exact .read h (ih hrest)
  | loop hopen hbody hclose _ _ ih => exact .enter ⟨hopen, hbody, hclose⟩ (ih hrest)

/-! ## The characters of a program -/

/-- The program as the jump machine reads it. -/
def charsOf (program : List Instruction) : List Char := program.map (·.toChar)

theorem getElem?_charsOf {x : Instruction} (h : program[i]? = some x) :
    (charsOf program)[i]? = some x.toChar := by
  rw [charsOf, List.getElem?_map, h, Option.map_some]

theorem drop_charsOf {x : Instruction} (h : program[i]? = some x) :
    (charsOf program).drop i = x.toChar :: (charsOf program).drop (i + 1) :=
  drop_eq_cons (getElem?_charsOf h)

theorem reverse_take_charsOf {x : Instruction} (h : program[i]? = some x) :
    ((charsOf program).take (i + 1)).reverse = x.toChar :: ((charsOf program).take i).reverse := by
  rw [List.take_add_one, getElem?_charsOf h]
  simp

/-! ## Where jumps lead -/

/-- What is neither bracket is passed over. -/
theorem placeAfterClosing?_arith (d i : Nat) (a : Arith) (cs : List Char) :
    placeAfterClosing? d i (a.toChar :: cs) = placeAfterClosing? d (i + 1) cs := by
  cases a <;> rfl

theorem placeAfterOpening?_arith (d i : Nat) (a : Arith) (cs : List Char) :
    placeAfterOpening? d i (a.toChar :: cs) = placeAfterOpening? d (i - 1) cs := by
  cases a <;> rfl

/-- Code is passed over on the way to a closing bracket. -/
theorem Spans.placeAfterClosing?_eq (h : Spans program i code j) (d : Nat) :
    placeAfterClosing? d i ((charsOf program).drop i) =
      placeAfterClosing? d j ((charsOf program).drop j) := by
  induction h generalizing d with
  | nil => rfl
  | arith h _ ih =>
    rw [drop_charsOf h, Instruction.toChar, placeAfterClosing?_arith, ih]
  | write h _ ih | read h _ ih =>
    rw [drop_charsOf h, ← ih]
    rfl
  | @loop i j k body rest hopen _ hclose _ ihb ih =>
    calc placeAfterClosing? d i ((charsOf program).drop i)
        = placeAfterClosing? (d + 1) (i + 1) ((charsOf program).drop (i + 1)) := by
          rw [drop_charsOf hopen]
          rfl
      _ = placeAfterClosing? (d + 1) k ((charsOf program).drop k) := ihb (d + 1)
      _ = placeAfterClosing? d (k + 1) ((charsOf program).drop (k + 1)) := by
          rw [drop_charsOf hclose]
          rfl
      _ = placeAfterClosing? d j ((charsOf program).drop j) := ih d

/-- Code is passed over on the way back to an opening bracket. -/
theorem Spans.placeAfterOpening?_eq (h : Spans program i code j) (d : Nat) :
    placeAfterOpening? d j ((charsOf program).take j).reverse =
      placeAfterOpening? d i ((charsOf program).take i).reverse := by
  induction h generalizing d with
  | nil => rfl
  | @arith i j a rest h _ ih =>
    rw [ih, reverse_take_charsOf h, Instruction.toChar, placeAfterOpening?_arith,
      Nat.add_sub_cancel]
  | write h _ ih | read h _ ih =>
    rw [ih, reverse_take_charsOf h]
    rfl
  | @loop i j k body rest hopen _ hclose _ ihb ih =>
    calc placeAfterOpening? d j ((charsOf program).take j).reverse
        = placeAfterOpening? d (k + 1) ((charsOf program).take (k + 1)).reverse := ih d
      _ = placeAfterOpening? (d + 1) k ((charsOf program).take k).reverse := by
          rw [reverse_take_charsOf hclose]
          rfl
      _ = placeAfterOpening? (d + 1) (i + 1) ((charsOf program).take (i + 1)).reverse :=
          ihb (d + 1)
      _ = placeAfterOpening? d i ((charsOf program).take i).reverse := by
          rw [reverse_take_charsOf hopen]
          rfl

theorem Loop.placeAfterClosing?_eq (h : Loop program i body k) :
    placeAfterClosing? 0 (i + 1) ((charsOf program).drop (i + 1)) = some (k + 1) := by
  rw [h.spans.placeAfterClosing?_eq, drop_charsOf h.closing]
  rfl

theorem Loop.placeAfterOpening?_eq (h : Loop program i body k) :
    placeAfterOpening? 0 k ((charsOf program).take k).reverse = some (i + 1) := by
  rw [h.spans.placeAfterOpening?_eq, reverse_take_charsOf h.opening]
  rfl

/-! ## Code in its own program -/

theorem Spans.replicate {a : Arith} {n : Nat}
    (h : ∀ m < n, program[i + m]? = some (.arith a)) (hrest : Spans program (i + n) code j) :
    Spans program i (List.replicate n (.arith a 1) ++ code) j := by
  induction n generalizing i with
  | zero => exact hrest
  | succ n ih =>
    refine .arith (h 0 (Nat.succ_pos n)) (ih (fun m hm => ?_) ?_)
    · rw [Nat.add_right_comm, Nat.add_assoc]
      exact h (m + 1) (Nat.succ_lt_succ hm)
    · rwa [Nat.add_right_comm, Nat.add_assoc]

theorem getElem?_length {before after : List Instruction} {x : Instruction}
    (h : program = before ++ x :: after) : program[before.length]? = some x := by
  simp [h]

/-- A program that holds the instructions of code has the code there. -/
theorem spans_of_eq (code : List Code) (before after : List Instruction)
    (h : program = before ++ (instructions code ++ after)) :
    Spans program before.length (listToUnits code) (before ++ instructions code).length := by
  induction code using listInduction generalizing before after with
  | nil => simpa using Spans.nil before.length
  | arith a n rest ih =>
    have hrest := ih (before ++ List.replicate n (.arith a)) after (by simpa using h)
    rw [instructions_arith, ← List.append_assoc]
    refine .replicate (fun m hm => ?_) (by simpa using hrest)
    rw [h, instructions_arith, List.getElem?_append_right (by omega), Nat.add_sub_cancel_left,
      List.append_assoc, List.getElem?_append_left (by simpa using hm), List.getElem?_replicate,
      if_pos hm]
  | write rest ih =>
    have hrest := ih (before ++ [.write]) after (by simpa using h)
    exact .write (getElem?_length h) (by simpa using hrest)
  | read rest ih =>
    have hrest := ih (before ++ [.read]) after (by simpa using h)
    exact .read (getElem?_length h) (by simpa using hrest)
  | loop body rest ihb ih =>
    have hbody := ihb (before ++ [.loopStart]) (.loopEnd :: (instructions rest ++ after))
      (by simpa using h)
    have hprogram : program = before ++ [.loopStart] ++ instructions body ++
        .loopEnd :: (instructions rest ++ after) := by simpa using h
    have hrest := ih (before ++ [.loopStart] ++ instructions body ++ [.loopEnd]) after
      (by simpa using h)
    exact .loop (getElem?_length h) (by simpa using hbody) (getElem?_length hprogram)
      (by simpa [Nat.add_assoc] using hrest)

theorem stands_instructions (code : List Code) :
    Stands (instructions code) 0 (listToUnits code) := by
  have hcode : instructions code = [] ++ (instructions code ++ []) := by simp
  have h := spans_of_eq code [] [] hcode
  simpa using h.stands_append .finish

/-! ## The simulation -/

variable {e : Extent} {c c' : Config}

theorem step_length (c : Config) :
    (machine e (charsOf program)).step ⟨program.length, c⟩ = .halted := by
  simp [machine, step, charsOf]

/-- **An arithmetic character** does what its instruction does with amount one. -/
theorem step_arith {a : Arith} (hi : program[i]? = some (.arith a)) (c : Config) :
    (machine e (charsOf program)).step ⟨i, c⟩ =
      match c.arith e a 1 with
      | some c' => .next none ⟨i + 1, c'⟩
      | none => .fault := by
  have hchar := getElem?_charsOf hi
  cases a with
  | inc | dec =>
    simp only [machine, step, hchar]
    rfl
  | right | left =>
    simp only [machine, step, hchar, Instruction.toChar, Arith.toChar, moveTo, Config.arith,
      Int.natCast_one]
    split <;> rfl

theorem step_arith_some {a : Arith} (hi : program[i]? = some (.arith a))
    (h : c.arith e a 1 = some c') :
    (machine e (charsOf program)).step ⟨i, c⟩ = .next none ⟨i + 1, c'⟩ := by
  rw [step_arith hi, h]

theorem step_arith_none {a : Arith} (hi : program[i]? = some (.arith a))
    (h : c.arith e a 1 = none) : (machine e (charsOf program)).step ⟨i, c⟩ = .fault := by
  rw [step_arith hi, h]

theorem step_write (hi : program[i]? = some .write) (c : Config) :
    (machine e (charsOf program)).step ⟨i, c⟩ = .next (some (.wrote c.cell)) ⟨i + 1, c⟩ := by
  simp [machine, step, getElem?_charsOf hi, Instruction.toChar]

theorem step_read (hi : program[i]? = some .read) (c : Config) :
    (machine e (charsOf program)).step ⟨i, c⟩ =
      .next (some (.got c.readByte.1)) ⟨i + 1, c.readByte.2⟩ := by
  simp [machine, step, getElem?_charsOf hi, Instruction.toChar]

theorem step_opening_zero (h : Loop program i body k) (hz : c.cell = 0) :
    (machine e (charsOf program)).step ⟨i, c⟩ = .next none ⟨k + 1, c⟩ := by
  simp [machine, step, getElem?_charsOf h.opening, Instruction.toChar, hz,
    h.placeAfterClosing?_eq, jump]

theorem step_opening_of_ne_zero (h : Loop program i body k) (hz : c.cell ≠ 0) :
    (machine e (charsOf program)).step ⟨i, c⟩ = .next none ⟨i + 1, c⟩ := by
  simp [machine, step, getElem?_charsOf h.opening, Instruction.toChar, hz]

theorem step_closing_zero (h : Loop program i body k) (hz : c.cell = 0) :
    (machine e (charsOf program)).step ⟨k, c⟩ = .next none ⟨k + 1, c⟩ := by
  simp [machine, step, getElem?_charsOf h.closing, Instruction.toChar, hz]

theorem step_closing_of_ne_zero (h : Loop program i body k) (hz : c.cell ≠ 0) :
    (machine e (charsOf program)).step ⟨k, c⟩ = .next none ⟨i + 1, c⟩ := by
  simp [machine, step, getElem?_charsOf h.closing, Instruction.toChar, hz,
    h.placeAfterOpening?_eq, jump]

/-- The program goes on from the counter as the code says, and the tapes are the same. -/
structure Matches (program : List Instruction) (s : CodeState) (t : JumpState) : Prop where
  stands : Stands program t.counter s.code
  config : t.config = s.config

/-- Each step of the code machine is one step of the jump machine. -/
theorem simulates_stands (e : Extent) (program : List Instruction) :
    Machine.Simulates (CodeMachine.machine e) CodeState.config (machine e (charsOf program))
      JumpState.config (Matches program) (fun _ => 0) := by
  rintro ⟨code, c⟩ ⟨i, c'⟩ ⟨hstands, hc⟩
  dsimp only at hstands hc
  subst hc
  cases hstands with
  | finish => exact Machine.halts_self (step_length c')
  | @arith _ a rest h hrest =>
    cases ha : c'.arith e a 1 with
    | none =>
      rw [CodeMachine.step_arith_none ha]
      exact Machine.faults_self (step_arith_none h ha)
    | some c₁ =>
      rw [CodeMachine.step_arith_some ha]
      exact Machine.follows_one (step_arith_some h ha) ⟨hrest, rfl⟩
  | write h hrest =>
    rw [CodeMachine.step_write]
    exact Machine.follows_one (step_write h c') ⟨hrest, rfl⟩
  | read h hrest =>
    rw [CodeMachine.step_read]
    exact Machine.follows_one (step_read h c') ⟨hrest, rfl⟩
  | @enter _ k body rest h hrest =>
    by_cases hz : c'.cell = 0
    · rw [CodeMachine.step_loop_zero hz]
      exact Machine.follows_one (step_opening_zero h hz) ⟨hrest, rfl⟩
    · rw [CodeMachine.step_loop_of_ne_zero hz]
      exact Machine.follows_one (step_opening_of_ne_zero h hz)
        ⟨h.spans.stands_append (.again h hrest), rfl⟩
  | @again j _ body rest h hrest =>
    by_cases hz : c'.cell = 0
    · rw [CodeMachine.step_loop_zero hz]
      exact Machine.follows_one (step_closing_zero h hz) ⟨hrest, rfl⟩
    · rw [CodeMachine.step_loop_of_ne_zero hz]
      exact Machine.follows_one (step_closing_of_ne_zero h hz)
        ⟨h.spans.stands_append (.again h hrest), rfl⟩

/-- **Code and the jump machine** on the characters of the code cannot be told apart. -/
theorem agree_instructions {e : Extent} {c : Config} (h : e.holds c.index) (code : List Code) :
    Machine.Agree (CodeMachine.machine e) CodeState.config ⟨code, c⟩
      (machine e (charsOf (instructions code))) JumpState.config (start c) :=
  (CodeMachine.agree_listToUnits h code).trans
    (Machine.agree_of_simulates (simulates_stands e _) ⟨stands_instructions code, rfl⟩)

end JumpMachine

end TapeC
