import TapeC.Op
import TapeC.Run.Normal

/-!
# What grouping gives

The runs of an instruction sequence can be built from its end, one occurrence at a time, by
`Run.push` (`Run.group_eq_foldr`). So each fact about them is a fact about `push`: a normal list
stays normal (`IsNormal.push`), and the ops of the list get one more unit op in front, unless the
occurrence is arithmetic and joins the first run (`foldRuns_push`).
-/

namespace TapeC

namespace Run

/-- The first run is one of the first instruction. -/
theorem head?_group (is : List Instruction) :
    (group is).head?.map (·.instruction) = is.head? := by
  cases is with
  | nil => rfl
  | cons i is => rw [group_cons, head?_push, List.head?_cons]

/-- Whether a run may follow depends on its instruction only. -/
theorem isChain_cons_congr {r s : Run} {rs : List Run} (h : s.instruction = r.instruction)
    (hc : (r :: rs).IsChain fun r s => r.instruction ≠ s.instruction) :
    (s :: rs).IsChain fun r s => r.instruction ≠ s.instruction := by
  rw [List.isChain_cons] at hc ⊢
  rwa [h]

/-- One more occurrence leaves no run empty and brings no two runs of an instruction together. -/
theorem IsNormal.push {rs : List Run} (h : IsNormal rs) (i : Instruction) :
    IsNormal (push i rs) := by
  cases rs with
  | nil => exact ⟨by simp [Run.push], by simp [Run.push]⟩
  | cons r rs =>
    rw [Run.push]
    split
    · rename_i hi
      refine ⟨fun s hs => ?_, isChain_cons_congr hi h.isChain⟩
      rcases List.mem_cons.1 hs with rfl | hs
      · exact Nat.succ_pos r.count
      · exact h.count_pos s (List.mem_cons_of_mem r hs)
    · rename_i hi
      refine ⟨fun s hs => ?_, List.isChain_cons_cons.2 ⟨hi, h.isChain⟩⟩
      rcases List.mem_cons.1 hs with rfl | hs
      · exact Nat.one_pos
      · exact h.count_pos s hs

theorem isNormal_group (is : List Instruction) : IsNormal (group is) := by
  induction is with
  | nil => exact ⟨by simp, by simp⟩
  | cons i is ih =>
    rw [group_cons]
    exact ih.push i

end Run

/-! ## Folding -/

theorem foldRuns_cons (r : Run) (rs : List Run) : foldRuns (r :: rs) = r.ops ++ foldRuns rs :=
  List.flatMap_cons

theorem Run.ops_one (i : Instruction) : (⟨i, 1⟩ : Run).ops = [.unit i] := by
  cases i <;> rfl

/-- An occurrence that joins no arithmetic run is an op of its own. -/
theorem foldRuns_push {i : Instruction} {rs : List Run}
    (h : ∀ j, rs.head?.map (·.instruction) = some j → ¬(i = j ∧ i.isArithmetic)) :
    foldRuns (Run.push i rs) = .unit i :: foldRuns rs := by
  cases rs with
  | nil => rw [Run.push, foldRuns_cons, Run.ops_one]; rfl
  | cons r rs =>
    rw [Run.push]
    split
    · rename_i hi
      have hplain : r.instruction.isArithmetic = false := by
        simpa [hi] using h r.instruction rfl
      simp only [foldRuns_cons, Run.ops, hi, hplain, Bool.false_eq_true, if_false,
        List.replicate_succ, List.cons_append]
    · rw [foldRuns_cons, Run.ops_one, List.singleton_append]

/-- An arithmetic occurrence that joins a run makes its amount one greater. -/
theorem foldRuns_push_arith (a : Arith) (n : Nat) (rs : List Run) :
    foldRuns (Run.push (.arith a) (⟨.arith a, n⟩ :: rs)) = .arith a (n + 1) :: foldRuns rs := by
  rw [Run.push, if_pos rfl, foldRuns_cons]
  rfl

end TapeC
