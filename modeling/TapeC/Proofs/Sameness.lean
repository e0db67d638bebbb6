import TapeC.Compile
import TapeC.Proofs.Lexer.Steps
import TapeC.Proofs.Listing.Reading
import TapeC.Proofs.Run.Grouping

/-!
# When two programs are the same

A program is read back as its ops, and the ops stand for the instructions of the text. So a program
says neither more nor less than the instructions do: what is between them has no effect, and no two
instruction sequences are compiled to one program, even if their brackets are not balanced.

**Theorem (`compile_eq_iff`).** Two texts are compiled to the same program if and only if they have
the same instructions. Folding makes no difference to a text if and only if no arithmetic
instruction stands next to itself.

For the second part, one occurrence more is an op of its own, or else it makes an amount greater
than one (`optimize_all_eq_none_iff`).
-/

namespace TapeC

/-! ## Texts -/

theorem optimize_injective {o : Optimizations} {is js : List Instruction}
    (h : optimize o is = optimize o js) : is = js := by
  rw [← unfold_optimize o is, h, unfold_optimize]

/-- Two sanitized texts are the same if and only if the instructions are. -/
theorem sanitize_eq_iff {t u : String} :
    sanitize t = sanitize u ↔ instructionsOf t = instructionsOf u := by
  constructor
  · intro h
    rw [sanitize, sanitize, String.ofList_inj] at h
    exact List.map_injective_iff.2 (fun _ _ => Instruction.toChar_injective) h
  · intro h
    rw [sanitize, h, sanitize]

/-! ## Adjacent instructions -/

/-- An occurrence that joins an arithmetic run gives an amount that no unit op has. -/
theorem foldRuns_push_ne_unit {a : Arith} {r : Run} (hr : r.instruction = .arith a)
    (hpos : 0 < r.count) (rs : List Run) (ops : List Op) :
    foldRuns (Run.push (.arith a) (r :: rs)) ≠ .unit (.arith a) :: ops := by
  obtain ⟨_, n⟩ := r
  obtain rfl := hr
  rw [foldRuns_push_arith]
  intro h
  obtain ⟨-, hn⟩ := Op.arith.inj (List.cons.inj h).1
  exact absurd hn (Nat.ne_of_gt (Nat.succ_lt_succ hpos))

/-- Folding joins occurrences that stand next to each other, and nothing else. -/
theorem optimize_all_eq_none_iff (is : List Instruction) :
    optimize .all is = optimize .none is ↔
      is.IsChain fun i j => ¬(i = j ∧ i.isArithmetic) := by
  change foldRuns (Run.group is) = is.map Op.unit ↔ _
  induction is with
  | nil => exact ⟨fun _ => .nil, fun _ => rfl⟩
  | cons i is ih =>
    rw [Run.group_cons, List.map_cons, List.isChain_cons, ← ih, ← Run.head?_group is]
    constructor
    · intro h
      by_cases hjoin : ∀ j, (Run.group is).head?.map (·.instruction) = some j →
          ¬(i = j ∧ i.isArithmetic)
      · rw [foldRuns_push hjoin] at h
        exact ⟨hjoin, (List.cons.inj h).2⟩
      · -- One that joins makes an amount of at least two, and folding would be seen.
        push Not at hjoin
        obtain ⟨j, hj, rfl, harith⟩ := hjoin
        obtain ⟨r, hr, hi⟩ := Option.map_eq_some_iff.1 hj
        obtain ⟨rs, hrs⟩ := List.head?_eq_some_iff.1 hr
        have hpos := (Run.isNormal_group is).count_pos r (List.mem_of_mem_head? hr)
        cases i with
        | arith a => exact absurd (hrs ▸ h) (foldRuns_push_ne_unit hi hpos rs _)
        | write | read | loopStart | loopEnd => cases harith
    · rintro ⟨hjoin, hfold⟩
      rw [foldRuns_push hjoin, hfold]

/-- The characters of the arithmetic instructions. -/
theorem toChar_mem_arithmetic_iff (i : Instruction) :
    i.toChar ∈ ['>', '<', '+', '-'] ↔ i.isArithmetic := by
  rcases i with (_ | _ | _ | _) | _ | _ | _ | _ <;> decide

/-- **Instructions are all that counts.** A program is that of another text if and only if the
instructions are the same, and it is the unfolded program of its text if and only if no character
of an arithmetic instruction stands next to itself among the instructions. -/
theorem compile_eq_iff :
    (∀ (o : Optimizations) (t u : String), compile o t = compile o u ↔ sanitize t = sanitize u) ∧
      ∀ t : String, compile .all t = compile .none t ↔
        (sanitize t).toList.IsChain fun c d => ¬(c = d ∧ c ∈ ['>', '<', '+', '-']) := by
  refine ⟨fun o t u => ?_, fun t => ?_⟩
  · rw [sanitize_eq_iff]
    constructor
    · intro h
      exact optimize_injective (Listing.program_injective h)
    · intro h
      rw [compile, h, compile]
  · have hprogram : compile .all t = compile .none t ↔
        optimize .all (instructionsOf t) = optimize .none (instructionsOf t) :=
      ⟨Listing.program_injective, congrArg Listing.program⟩
    rw [hprogram, optimize_all_eq_none_iff, sanitize, String.toList_ofList, List.isChain_map]
    simp only [toChar_mem_arithmetic_iff, Instruction.toChar_inj]

end TapeC
