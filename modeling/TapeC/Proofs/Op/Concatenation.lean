import TapeC.Proofs.Op.Shortest

/-!
# Folding sequences put together

**Theorem (`optimize_append`).** The ops of two instruction sequences put together are those of the
one and then those of the other, if and only if the border between them does not go through a run of
an arithmetic instruction. If it does, the two ops at the border become one, with the sum of their
amounts, and all others stay. The same is true of texts, wherever they are cut.

Both cases are shown by naming the op list. It stands for the whole sequence, and it is folded: at
the border stand two ops of which the instructions are known, the last one of the first sequence and
the first one of the second (`head?_optimize`, `getLast?_optimize`). There is one folded list only
for a sequence.
-/

namespace TapeC

/-- The border between two sequences goes through a run that folding makes one op of: the one ends
with the arithmetic instruction that the other begins with. -/
def Joins (is js : List Instruction) : Prop :=
  ∃ a : Arith, is.getLast? = some (.arith a) ∧ js.head? = some (.arith a)

/-- The ops are made up of those of two sequences, as they are if the border goes through no run. If
it goes through one, the ops on both sides of it are made one. -/
structure Composes (is js : List Instruction) (ops : List Op) : Prop where
  eq_append_iff : ops = optimize .all is ++ optimize .all js ↔ ¬Joins is js
  joined : ∀ a : Arith, is.getLast? = some (.arith a) → js.head? = some (.arith a) →
    ∃ init m n tail, optimize .all is = init ++ [.arith a m] ∧
      optimize .all js = .arith a n :: tail ∧ ops = init ++ .arith a (m + n) :: tail

namespace Op

theorem exists_eq_arith {op : Op} {a : Arith} (h : op.instruction = .arith a) :
    ∃ n, op = .arith a n := by
  cases op with
  | arith b n => exact ⟨n, by rw [Instruction.arith.inj h]⟩
  | _ => cases h

namespace IsFolded

variable {op : Op} {init ops ops' : List Op}

/-- No op stands for nothing, so that the last instruction is that of the last op. -/
theorem getLast?_flatMap_unfold (h : IsFolded ops) :
    (ops.flatMap unfold).getLast? = ops.getLast?.map instruction := by
  rcases List.eq_nil_or_concat ops with rfl | ⟨init, op, rfl⟩
  · rfl
  · have hlast : op.unfold.getLast? = some op.instruction := by
      cases op with
      | arith a n =>
        have hpos := h.amount_pos a n (by simp)
        simp [unfold, instruction, List.getLast?_replicate, Nat.ne_of_gt hpos]
      | _ => rfl
    simp [List.getLast?_append, hlast]

/-- Whether neighbours fold depends on their instructions only. -/
theorem isChain_map_instruction :
    ((ops.map instruction).IsChain fun i j => ¬(i = j ∧ i.isArithmetic)) ↔
      ops.IsChain fun op op' => ¬(op.instruction = op'.instruction ∧ op.instruction.isArithmetic) :=
  List.isChain_map instruction

theorem append (h : IsFolded ops) (h' : IsFolded ops')
    (hborder : ∀ op ∈ ops.getLast?, ∀ op' ∈ ops'.head?,
      ¬(op.instruction = op'.instruction ∧ op.instruction.isArithmetic)) :
    IsFolded (ops ++ ops') := by
  refine ⟨fun a n hmem => ?_, List.isChain_append.2 ⟨h.isChain, h'.isChain, hborder⟩⟩
  rcases List.mem_append.1 hmem with hmem | hmem
  · exact h.amount_pos a n hmem
  · exact h'.amount_pos a n hmem

/-- Two folded lists that meet in an arithmetic instruction, with one op for it. -/
theorem join {a : Arith} {m n : Nat} (h : IsFolded (init ++ [.arith a m]))
    (h' : IsFolded (.arith a n :: ops)) : IsFolded (init ++ .arith a (m + n) :: ops) := by
  refine ⟨fun b k hmem => ?_, ?_⟩
  · rcases List.mem_append.1 hmem with hmem | hmem
    · exact h.amount_pos b k (List.mem_append_left _ hmem)
    rcases List.mem_cons.1 hmem with heq | hmem
    · have hm := h.amount_pos a m (by simp)
      rw [(Op.arith.inj heq).2]
      exact Nat.add_pos_left hm n
    · exact h'.amount_pos b k (List.mem_cons_of_mem _ hmem)
  · have hinit := isChain_map_instruction.2 h.isChain
    have hops := isChain_map_instruction.2 h'.isChain
    rw [List.map_append] at hinit
    rw [← isChain_map_instruction, List.map_append]
    exact List.isChain_split.2 ⟨hinit, hops⟩

end IsFolded

end Op

open Op

/-! ## The ops at the border -/

variable {is js : List Instruction} {a : Arith}

theorem head?_optimize (is : List Instruction) :
    (optimize .all is).head?.map Op.instruction = is.head? := by
  rw [← (isFolded_optimize is).head?_flatMap_unfold, unfold_optimize]

theorem getLast?_optimize (is : List Instruction) :
    (optimize .all is).getLast?.map Op.instruction = is.getLast? := by
  rw [← (isFolded_optimize is).getLast?_flatMap_unfold, unfold_optimize]

theorem exists_optimize_eq_cons (h : js.head? = some (.arith a)) :
    ∃ n tail, optimize .all js = .arith a n :: tail := by
  rw [← head?_optimize, Option.map_eq_some_iff] at h
  obtain ⟨op, hop, hins⟩ := h
  obtain ⟨n, rfl⟩ := exists_eq_arith hins
  obtain ⟨tail, htail⟩ := List.head?_eq_some_iff.1 hop
  exact ⟨n, tail, htail⟩

theorem exists_optimize_eq_concat (h : is.getLast? = some (.arith a)) :
    ∃ init m, optimize .all is = init ++ [.arith a m] := by
  rw [← getLast?_optimize, Option.map_eq_some_iff] at h
  obtain ⟨op, hop, hins⟩ := h
  obtain ⟨m, rfl⟩ := exists_eq_arith hins
  obtain ⟨init, hinit⟩ := List.getLast?_eq_some_iff.1 hop
  exact ⟨init, m, hinit⟩

/-! ## Both cases -/

theorem optimize_append_of_not_joins (h : ¬Joins is js) :
    optimize .all (is ++ js) = optimize .all is ++ optimize .all js := by
  have hfolded : IsFolded (optimize .all is ++ optimize .all js) := by
    refine (isFolded_optimize is).append (isFolded_optimize js) fun op hop op' hop' hsame => h ?_
    obtain ⟨heq, harith⟩ := hsame
    obtain ⟨a, n, rfl⟩ := exists_arith harith
    refine ⟨a, ?_, ?_⟩
    · rw [← getLast?_optimize, Option.mem_def.1 hop]
      rfl
    · rw [← head?_optimize, Option.mem_def.1 hop', Option.map_some, ← heq]
      rfl
  have hlist := hfolded.optimize_flatMap_unfold
  rwa [List.flatMap_append, unfold_optimize, unfold_optimize] at hlist

theorem optimize_append_of_joins {init tail : List Op} {m n : Nat}
    (his : optimize .all is = init ++ [.arith a m])
    (hjs : optimize .all js = .arith a n :: tail) :
    optimize .all (is ++ js) = init ++ .arith a (m + n) :: tail := by
  have hinit := isFolded_optimize is
  have htail := isFolded_optimize js
  rw [his] at hinit
  rw [hjs] at htail
  have hunfold : (init ++ .arith a (m + n) :: tail).flatMap Op.unfold = is ++ js := by
    rw [← unfold_optimize .all is, ← unfold_optimize .all js, his, hjs]
    simp only [List.flatMap_append, List.flatMap_cons, List.flatMap_nil, Op.unfold,
      List.replicate_add, List.append_nil, List.append_assoc]
  rw [← hunfold]
  exact (hinit.join htail).optimize_flatMap_unfold

theorem composes_append (is js : List Instruction) :
    Composes is js (optimize .all (is ++ js)) := by
  have hjoined : ∀ a : Arith, is.getLast? = some (.arith a) → js.head? = some (.arith a) →
      ∃ init m n tail, optimize .all is = init ++ [.arith a m] ∧
        optimize .all js = .arith a n :: tail ∧
        optimize .all (is ++ js) = init ++ .arith a (m + n) :: tail := by
    intro a hlast hhead
    obtain ⟨init, m, his⟩ := exists_optimize_eq_concat hlast
    obtain ⟨n, tail, hjs⟩ := exists_optimize_eq_cons hhead
    exact ⟨init, m, n, tail, his, hjs, optimize_append_of_joins his hjs⟩
  refine ⟨⟨?_, optimize_append_of_not_joins⟩, hjoined⟩
  rintro happend ⟨a, hlast, hhead⟩
  obtain ⟨init, m, n, tail, his, hjs, hops⟩ := hjoined a hlast hhead
  -- There would be one op more than there are.
  have hlength := congrArg List.length happend
  rw [hops, his, hjs] at hlength
  simp at hlength

/-- **Folding goes part by part, but for one op.** -/
theorem optimize_append :
    (∀ is js : List Instruction, Composes is js (optimize .all (is ++ js))) ∧
      ∀ t u : String, Composes (instructionsOf t) (instructionsOf u)
        (optimize .all (instructionsOf (t ++ u))) := by
  refine ⟨composes_append, fun t u => ?_⟩
  rw [instructionsOf_append]
  exact composes_append _ _

/-- A run that goes on behind a comment, and a cut through the comment. -/
theorem optimize_append_in_comment :
    let t := ">++ a com"
    let u := "ment +++ ["
    (instructionsOf t).getLast? = some (.arith .inc) ∧
      (instructionsOf u).head? = some (.arith .inc) ∧
      ∃ init m n tail, optimize .all (instructionsOf t) = init ++ [.arith .inc m] ∧
        optimize .all (instructionsOf u) = .arith .inc n :: tail ∧
        optimize .all (instructionsOf (t ++ u)) = init ++ .arith .inc (m + n) :: tail :=
  ⟨by decide +kernel, by decide +kernel,
    (optimize_append.2 _ _).joined .inc (by decide +kernel) (by decide +kernel)⟩

end TapeC
