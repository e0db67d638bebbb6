import TapeC.Compile
import TapeC.Machine.Text
import TapeC.Proofs.Lexer.Concatenation
import TapeC.Proofs.Listing.Reading
import TapeC.Proofs.Machine.Jumping

/-!
# Translation keeps the meaning

**Theorem (`compile_agree`).** If the brackets of a text are balanced, then the program that it is
compiled to can be read as code, and this code and the jump machine on the text's eight characters
cannot be told apart, with and without folding and on every input. The jump machine has its own
reading of these characters.

The program text is read as the ops that it was made of (`Listing.read?_program`). They stand for
the instructions of the text (`unfold_optimize`, `instructionsOf_eq`), so their loops are those of
the text and can be found (`exists_ofOps?_unfold`). The characters of these instructions are those
that are left of the text without its comments (`charsOf_filterMap_ofChar?`). What is left is code
and its characters (`JumpMachine.agree_instructions`).
-/

namespace TapeC

/-- The program of a text with balanced brackets is code that stands for the text's instructions. -/
theorem exists_ofText?_compile (o : Optimizations) {text : String}
    (h : Brackets.Balanced bracketSide? text.toList) :
    ∃ code, Code.ofText? (compile o text) = some code ∧
      Code.instructions code = text.toList.filterMap Instruction.ofChar? := by
  rw [← Brackets.balanced_congr (Brackets.sides_filterMap_ofChar? text.toList),
    ← instructionsOf_eq, ← unfold_optimize o (instructionsOf text)] at h
  obtain ⟨code, hcode, hins, -⟩ := exists_ofOps?_unfold h
  refine ⟨code, ?_, by rw [hins, unfold_optimize, instructionsOf_eq]⟩
  rw [Code.ofText?, compile, Listing.read?_program, Option.bind_some, hcode]

/-- The instructions among characters are written as the eight characters among them. -/
theorem charsOf_filterMap_ofChar? (cs : List Char) :
    JumpMachine.charsOf (cs.filterMap Instruction.ofChar?) =
      cs.filter (· ∈ "><+-.,[]".toList) := by
  rw [JumpMachine.charsOf, map_toChar_filterMap_ofChar?]
  rfl

/-- **Translation keeps the meaning.** -/
theorem compile_agree (o : Optimizations) (text : String)
    (h : Brackets.Balanced bracketSide? text.toList) (input : Input) :
    ∃ code, Code.ofText? (compile o text) = some code ∧
      Machine.Agree (CodeMachine.machine .generated) CodeState.config ⟨code, .start input⟩
        (JumpMachine.machine .generated (text.toList.filter (· ∈ "><+-.,[]".toList)))
        JumpState.config (JumpMachine.start (.start input)) := by
  obtain ⟨code, hcode, hins⟩ := exists_ofText?_compile o h
  refine ⟨code, hcode, ?_⟩
  rw [← charsOf_filterMap_ofChar?, ← hins]
  exact JumpMachine.agree_instructions rfl code

/-- A text with nested loops, comments and a read, folded, on two bytes of input. -/
theorem compile_agree_echo :
    let text := "read ,[ all >+++[-<.>] and echo it <,]"
    let input : Input := fun n => [7, 0][n]?
    Brackets.Balanced bracketSide? text.toList ∧
      ∃ code, Code.ofText? (compile .all text) = some code ∧
        Machine.Agree (CodeMachine.machine .generated) CodeState.config ⟨code, .start input⟩
          (JumpMachine.machine .generated (text.toList.filter (· ∈ "><+-.,[]".toList)))
          JumpState.config (JumpMachine.start (.start input)) :=
  ⟨by decide, compile_agree .all _ (by decide) _⟩

end TapeC
