import TapeC.Proofs.Run.NormalForm

/-!
# Folding is lossless and as short as can be

An op list is *folded* if there is nothing left to fold in it: no amount is zero, and no two
neighbours do the same arithmetic instruction.

**Theorem (`optimize_shortest`).** The ops of an instruction sequence stand for the sequence, with
and without folding. With folding they are folded, and no op list that stands for the sequence has
fewer ops, whatever amounts it splits the runs into.

The lower bound compares one op of the other list at a time. In front of any sequence, the
instructions of one op make at most one op more (`length_optimize_append_le`): they are all the
same, so they begin one run at most, or join the first one. An induction over the other list adds
this up (`length_optimize_le`).

Folded op lists are exactly what folding gives (`isFolded_iff`), so there is one for each
sequence.
-/

namespace TapeC

namespace Op

/-- The instruction that an op does, once or more. -/
def instruction : Op → Instruction
  | .arith a _ => .arith a
  | .write => .write
  | .read => .read
  | .loopStart => .loopStart
  | .loopEnd => .loopEnd

/-- There is nothing left to fold. -/
structure IsFolded (ops : List Op) : Prop where
  amount_pos : ∀ a n, .arith a n ∈ ops → 0 < n
  isChain : ops.IsChain fun op op' =>
    ¬(op.instruction = op'.instruction ∧ op.instruction.isArithmetic)

@[simp] theorem instruction_unit (i : Instruction) : (unit i).instruction = i := by
  cases i <;> rfl

/-- An op that is not arithmetic is one occurrence of its instruction. -/
theorem eq_unit {op : Op} (h : op.instruction.isArithmetic = false) :
    op = unit op.instruction := by
  cases op with
  | arith a n => cases h
  | _ => rfl

theorem exists_arith {op : Op} (h : op.instruction.isArithmetic = true) :
    ∃ a n, op = .arith a n := by
  cases op with
  | arith a n => exact ⟨a, n, rfl⟩
  | _ => cases h

/-! ## Folded op lists -/

namespace IsFolded

variable {op : Op} {ops : List Op}

theorem nil : IsFolded [] := ⟨by simp, .nil⟩

theorem tail (h : IsFolded (op :: ops)) : IsFolded ops :=
  ⟨fun a n hmem => h.amount_pos a n (List.mem_cons_of_mem op hmem), h.isChain.tail⟩

/-- An arithmetic op may stand before a folded list that begins with another instruction. -/
theorem cons_arith (h : IsFolded ops) {a : Arith} {n : Nat} (hpos : 0 < n)
    (hne : ∀ op ∈ ops.head?, op.instruction ≠ .arith a) : IsFolded (.arith a n :: ops) := by
  refine ⟨fun b m hmem => ?_, List.isChain_cons.2 ⟨fun op hop hsame => ?_, h.isChain⟩⟩
  · rcases List.mem_cons.1 hmem with heq | hmem
    · obtain ⟨-, rfl⟩ := Op.arith.inj heq
      exact hpos
    · exact h.amount_pos b m hmem
  · exact hne op hop hsame.1.symm

/-- Any other op may stand before every folded list. -/
theorem cons_unit (h : IsFolded ops) {i : Instruction} (hi : i.isArithmetic = false) :
    IsFolded (unit i :: ops) := by
  refine ⟨fun a n hmem => ?_, List.isChain_cons.2 ⟨fun op _ hsame => ?_, h.isChain⟩⟩
  · rcases List.mem_cons.1 hmem with heq | hmem
    · have hins : i = .arith a := by rw [← instruction_unit i, ← heq]; rfl
      rw [hins] at hi
      cases hi
    · exact h.amount_pos a n hmem
  · rw [instruction_unit, hi] at hsame
    cases hsame.2

theorem replicate_append (h : IsFolded ops) {i : Instruction} (hi : i.isArithmetic = false)
    (n : Nat) : IsFolded (List.replicate n (unit i) ++ ops) := by
  induction n with
  | zero => exact h
  | succ n ih => exact ih.cons_unit hi

end IsFolded

end Op

open Op

/-! ## The ops of normal run lists -/

/-- The first op does the first instruction, if no run is empty. -/
theorem head?_foldRuns {rs : List Run} (hpos : ∀ r ∈ rs, 0 < r.count) :
    (foldRuns rs).head?.map Op.instruction = rs.head?.map (·.instruction) := by
  cases rs with
  | nil => rfl
  | cons r rs =>
    obtain ⟨i, n⟩ := r
    obtain ⟨n, rfl⟩ := Nat.exists_eq_succ_of_ne_zero
      (Nat.ne_of_gt (hpos _ List.mem_cons_self))
    rw [foldRuns_cons]
    cases i <;> rfl

theorem Run.IsNormal.isFolded {rs : List Run} (h : IsNormal rs) : IsFolded (foldRuns rs) := by
  induction rs with
  | nil => exact .nil
  | cons r rs ih =>
    rw [foldRuns_cons, Run.ops]
    split
    · rename_i harith
      obtain ⟨i, n⟩ := r
      cases i with
      | arith a =>
        refine (ih h.tail).cons_arith (h.count_pos _ List.mem_cons_self) fun op hop heq => ?_
        -- The next op would come from a run of the same instruction.
        have hhead := head?_foldRuns h.tail.count_pos
        rw [hop, Option.map_some, heq, eq_comm, Option.map_eq_some_iff] at hhead
        obtain ⟨s, hs, hi⟩ := hhead
        exact (List.isChain_cons.1 h.isChain).1 s hs hi.symm
      | _ => cases harith
    · rename_i harith
      exact (ih h.tail).replicate_append (Bool.not_eq_true _ ▸ harith) _

theorem optimize_all (is : List Instruction) : optimize .all is = foldRuns (Run.group is) := rfl

/-- What folding gives is folded. -/
theorem isFolded_optimize (is : List Instruction) : IsFolded (optimize .all is) :=
  (Run.isNormal_group is).isFolded

/-! ## The lower bound -/

/-- Equal occurrences in front of a sequence are one run with what they join. -/
theorem Run.exists_group_replicate_append (i : Instruction) (n : Nat) (is : List Instruction) :
    ∃ m rs, group (List.replicate (n + 1) i ++ is) = ⟨i, m⟩ :: rs ∧
      (foldRuns rs).length ≤ (foldRuns (group is)).length := by
  induction n with
  | zero =>
    rw [List.replicate_one, List.singleton_append, group_cons]
    cases group is with
    | nil => exact ⟨1, [], rfl, Nat.le_refl _⟩
    | cons r rs =>
      rw [push]
      split
      · refine ⟨r.count + 1, rs, rfl, ?_⟩
        rw [foldRuns_cons, List.length_append]
        exact Nat.le_add_left _ _
      · exact ⟨1, r :: rs, rfl, Nat.le_refl _⟩
  | succ n ih =>
    obtain ⟨m, rs, hgroup, hle⟩ := ih
    refine ⟨m + 1, rs, ?_, hle⟩
    rw [List.replicate_succ, List.cons_append, group_cons, hgroup, push, if_pos rfl]

/-- An op that is not arithmetic joins nothing. -/
theorem optimize_unfold_append {op : Op} (h : op.instruction.isArithmetic = false)
    (is : List Instruction) : optimize .all (op.unfold ++ is) = op :: optimize .all is := by
  have hpush : foldRuns (Run.push op.instruction (Run.group is)) =
      .unit op.instruction :: foldRuns (Run.group is) := by
    refine foldRuns_push fun j _ hj => ?_
    rw [h] at hj
    cases hj.2
  rw [eq_unit h, unfold_unit, List.singleton_append, optimize_all, Run.group_cons, hpush,
    optimize_all]

/-- The instructions of one op make at most one op more. -/
theorem length_optimize_append_le (op : Op) (is : List Instruction) :
    (optimize .all (op.unfold ++ is)).length ≤ (optimize .all is).length + 1 := by
  by_cases harith : op.instruction.isArithmetic = true
  · obtain ⟨a, n, rfl⟩ := exists_arith harith
    cases n with
    | zero => exact Nat.le_succ _
    | succ n =>
      obtain ⟨m, rs, hgroup, hle⟩ := Run.exists_group_replicate_append (.arith a) n is
      rw [optimize_all, optimize_all, Op.unfold, hgroup, foldRuns_cons, List.length_append,
        Nat.add_comm]
      exact Nat.add_le_add_right hle 1
  · rw [Bool.not_eq_true] at harith
    rw [optimize_unfold_append harith]
    exact Nat.le_refl _

/-- No op list is shorter than the folding of what it stands for. -/
theorem length_optimize_le (ops : List Op) :
    (optimize .all (ops.flatMap Op.unfold)).length ≤ ops.length := by
  induction ops with
  | nil => exact Nat.le_refl _
  | cons op ops ih =>
    calc (optimize .all ((op :: ops).flatMap Op.unfold)).length
        = (optimize .all (op.unfold ++ ops.flatMap Op.unfold)).length := by
          rw [List.flatMap_cons]
      _ ≤ (optimize .all (ops.flatMap Op.unfold)).length + 1 := length_optimize_append_le op _
      _ ≤ (op :: ops).length := Nat.succ_le_succ ih

/-! ## One folded list for each sequence -/

theorem Op.IsFolded.head?_flatMap_unfold {ops : List Op} (h : IsFolded ops) :
    (ops.flatMap Op.unfold).head? = ops.head?.map Op.instruction := by
  cases ops with
  | nil => rfl
  | cons op ops =>
    cases op with
    | arith a n =>
      obtain ⟨n, rfl⟩ := Nat.exists_eq_succ_of_ne_zero
        (Nat.ne_of_gt (h.amount_pos a n List.mem_cons_self))
      rfl
    | _ => rfl

/-- A folded op list is the folding of what it stands for. -/
theorem Op.IsFolded.optimize_flatMap_unfold {ops : List Op} (h : IsFolded ops) :
    optimize .all (ops.flatMap Op.unfold) = ops := by
  induction ops with
  | nil => rfl
  | cons op ops ih =>
    rw [List.flatMap_cons]
    by_cases harith : op.instruction.isArithmetic = true
    · obtain ⟨a, n, rfl⟩ := exists_arith harith
      have hhead : (ops.flatMap Op.unfold).head? ≠ some (.arith a) := by
        rw [h.tail.head?_flatMap_unfold]
        intro hsome
        obtain ⟨op, hop, hi⟩ := Option.map_eq_some_iff.1 hsome
        exact (List.isChain_cons.1 h.isChain).1 op hop ⟨hi.symm, rfl⟩
      obtain ⟨n, rfl⟩ := Nat.exists_eq_succ_of_ne_zero
        (Nat.ne_of_gt (h.amount_pos a n List.mem_cons_self))
      rw [Op.unfold, optimize_all, Run.group_replicate_append hhead, foldRuns_cons,
        ← optimize_all, ih h.tail]
      rfl
    · rw [Bool.not_eq_true] at harith
      rw [optimize_unfold_append harith, ih h.tail]

/-- The folded op lists are the results of folding. -/
theorem isFolded_iff (ops : List Op) :
    IsFolded ops ↔ optimize .all (ops.flatMap Op.unfold) = ops :=
  ⟨fun h => h.optimize_flatMap_unfold, fun h => h ▸ isFolded_optimize _⟩

/-- **Lossless and shortest.** -/
theorem optimize_shortest :
    (∀ (o : Optimizations) (is : List Instruction), (optimize o is).flatMap Op.unfold = is) ∧
      (∀ rs : List Run, (foldRuns rs).flatMap Op.unfold =
        rs.flatMap fun r => List.replicate r.count r.instruction) ∧
      ∀ is : List Instruction, IsFolded (optimize .all is) ∧
        ∀ ops : List Op, ops.flatMap Op.unfold = is →
          (optimize .all is).length ≤ ops.length := by
  refine ⟨unfold_optimize, unfold_foldRuns, fun is => ⟨isFolded_optimize is, ?_⟩⟩
  rintro ops rfl
  exact length_optimize_le ops

/-- An op list with a split amount and an amount of zero in between. -/
theorem optimize_shortest_split :
    let is : List Instruction := [.arith .right, .arith .right, .loopStart, .loopStart]
    let ops : List Op := [.arith .right 1, .arith .inc 0, .arith .right 1, .loopStart, .loopStart]
    ops.flatMap Op.unfold = is ∧ (optimize .all is).length ≤ ops.length :=
  ⟨rfl, (optimize_shortest.2.2 _).2 _ rfl⟩

end TapeC
