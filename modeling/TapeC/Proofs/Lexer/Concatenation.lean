import TapeC.Proofs.Lexer.Positions

/-!
# Texts put together

**Theorem (`tokens_append_instruction_append`).** An instruction keeps apart what stands before it
and what stands after it. The tokens of a text with an instruction in it are those of the text
before it, the instruction, and those of the text after it, moved to where that text begins.

**Theorem (`sanitize_eq_filter`).** Sanitizing a text keeps the characters of the alphabet and drops
all others. So the instructions of two texts put together are those of the one and then those of the
other, wherever the cut is. Of tokens this cannot be said, since a cut can go through a comment.

For the first theorem, a step reads the same token if more text follows and begins with an
instruction: a comment stops there as it stops at the end of a text, and loses the same blanks
(`Next.followedBy`). `tokens_followedBy` is the induction over the tokens. Behind the instruction
goes on a lexer that differs from a fresh one by its position only, so that its tokens are known
(`Told.tokens_eq`), and what is left is to count lines and columns (`Position.moved_eq`).
-/

namespace TapeC

/-! ## Positions -/

theorem Instruction.toChar_ne_linefeed (i : Instruction) : i.toChar ≠ '\n' := by
  rcases i with (_ | _ | _ | _) | _ | _ | _ | _ <;> decide

/-- A text that begins at another position than the first one is moved as a whole, but to the right
its first line only. -/
theorem Position.moved_eq {q : Position} (hline : 0 < q.line) (hcol : 0 < q.col)
    (cs : List Char) :
    q.moved cs =
      ⟨(start.moved cs).line + (q.line - 1),
        if '\n' ∈ cs then (start.moved cs).col else (start.moved cs).col + (q.col - 1),
        (start.moved cs).offset + q.offset⟩ := by
  by_cases h : '\n' ∈ cs
  · simp only [moved, start, h, if_true, Position.mk.injEq, true_and]
    omega
  · simp only [moved, start, h, if_false, Position.mk.injEq]
    omega

namespace Lexer

variable {l : Lexer} {r : Option Located × Lexer}

/-! ## The end of the text -/

/-- The lexer after it has met the end of the text. -/
def finished (l : Lexer) : Lexer := l.after (l.tokens.length + 1)

/-- It stands behind everything that it had to read. -/
theorem finished_eq (l : Lexer) : l.finished = ⟨l.position.advance l.rest, []⟩ := by
  induction l using tokensInduction with
  | stop l l' h =>
    have hstep := l.next_spec
    rw [finished, tokens_of_next_none h, List.length_nil, after_succ, after_zero]
    rw [h] at hstep ⊢
    cases hstep
    rfl
  | token l t l' h ih =>
    obtain ⟨read, hrest, hpos, -⟩ := l.next_spec.exists_consumed
    rw [h] at hrest hpos
    rw [finished, tokens_of_next_some h, List.length_cons, after_succ, h, hrest,
      Position.advance_append, ← hpos]
    exact ih

/-! ## An instruction in a text -/

/-- The lexer with more text behind what it has to read. -/
def followedBy (l : Lexer) (more : List Char) : Lexer := ⟨l.position, l.rest ++ more⟩

/-- **One step.** A token is read as before if an instruction follows the text. -/
theorem Next.followedBy (h : Next l r) (ht : r.1.isSome) (i : Instruction) (bs : List Char) :
    Next (l.followedBy (i.toChar :: bs)) (r.1, r.2.followedBy (i.toChar :: bs)) := by
  cases h with
  | stop blank => cases ht
  | @instruction p blanks blank k cs =>
    have hnext := Next.instruction (p := p) blank k (cs ++ i.toChar :: bs)
    simpa [Lexer.followedBy] using hnext
  | @comment p blanks blank c body cs head text stop =>
    -- The comment ends where it ended: at the next instruction, or at the one that follows.
    have hstop : ∀ d, (cs ++ i.toChar :: bs).head? = some d → isInstructionChar d = true := by
      intro d hd
      cases cs with
      | nil =>
        rw [← Option.some.inj hd]
        exact isInstructionChar_toChar i
      | cons e cs => exact stop d hd
    have hnext := Next.comment (p := p) blank head text hstop
    simpa [Lexer.followedBy] using hnext

/-- **Any number of steps.** -/
theorem tokens_followedBy (l : Lexer) (i : Instruction) (bs : List Char) :
    (l.followedBy (i.toChar :: bs)).tokens =
      l.tokens ++ ⟨l.finished.position, .instruction i⟩ ::
        tokens ⟨l.finished.position.step i.toChar, bs⟩ := by
  rw [finished_eq]
  induction l using tokensInduction with
  | stop l l' h =>
    have hstep := l.next_spec
    rw [tokens_of_next_none h]
    rw [h] at hstep
    cases hstep with
    | @stop p blanks blank =>
      exact tokens_of_next_some (Next.instruction (p := p) blank i bs).next_eq
  | token l t l' h ih =>
    have hnext := (l.next_spec.followedBy (by rw [h]; rfl) i bs).next_eq
    obtain ⟨read, hrest, hpos, -⟩ := l.next_spec.exists_consumed
    rw [h] at hnext hrest hpos
    rw [tokens_of_next_some hnext, ih, tokens_of_next_some h, hrest, Position.advance_append,
      ← hpos, List.cons_append]

/-! ## A text behind another one -/

theorem finished_append_singleton (a : String) (i : Instruction) :
    (ofText (a ++ String.singleton i.toChar)).finished.position =
      (ofText a).finished.position.step i.toChar := by
  have htext : (ofText (a ++ String.singleton i.toChar)).rest = a.toList ++ [i.toChar] := by
    rw [ofText, String.toList_append, String.toList_singleton]
  rw [finished_eq, finished_eq, htext, Position.advance_append]
  rfl

/-- The position behind a text and an instruction, by counting. -/
theorem finished_step (a : String) (i : Instruction) :
    ((ofText a).finished.position.step i.toChar).line = 1 + a.toList.count '\n' ∧
      0 < ((ofText a).finished.position.step i.toChar).col ∧
      ((ofText a).finished.position.step i.toChar).offset = a.length + 1 := by
  have hstep (p : Position) : p.step i.toChar = ⟨p.line, p.col + 1, p.offset + 1⟩ :=
    if_neg i.toChar_ne_linefeed
  have hpos : (ofText a).finished.position = Position.start.moved a.toList := by
    rw [finished_eq, ← Position.advance_eq_moved]
    rfl
  rw [hpos, Position.moved_start, hstep, String.length_toList]
  exact ⟨rfl, Nat.succ_pos _, rfl⟩

/-- The tokens of a text that begins somewhere else, as displaced ones of a fresh lexer. -/
theorem tokens_ofText_at (b : String) {q : Position} (hline : 0 < q.line) (hcol : 0 < q.col) :
    tokens ⟨q, b.toList⟩ =
      (ofText b).tokens.map fun t =>
        ⟨⟨t.position.line + (q.line - 1),
          if '\n' ∈ b.toList.take t.position.offset then t.position.col
          else t.position.col + (q.col - 1),
          t.position.offset + q.offset⟩, t.token⟩ := by
  have htold : Told b.toList ⟨q, 0⟩ (ofText b) ⟨q, b.toList⟩ := (Told.start b).tell q
  rw [htold.tokens_eq]
  refine List.map_congr_left fun t ht => ?_
  have hpos := position_eq_moved_start ht
  have hmoved := Position.moved_eq hline hcol (b.toList.take t.position.offset)
  rw [← hpos] at hmoved
  rw [Located.relocate, Mark.locate, List.drop_zero, hmoved]

/-- **Instructions keep texts apart.** -/
theorem tokens_append_instruction_append (a b : String) (i : Instruction) :
    (ofText (a ++ String.singleton i.toChar ++ b)).tokens =
      (ofText a).tokens ++ ⟨(ofText a).finished.position, .instruction i⟩ ::
        (ofText b).tokens.map fun t =>
          ⟨⟨t.position.line + a.toList.count '\n',
            if '\n' ∈ b.toList.take t.position.offset then t.position.col
            else t.position.col +
              ((ofText (a ++ String.singleton i.toChar)).finished.position.col - 1),
            t.position.offset + (a.length + 1)⟩, t.token⟩ := by
  obtain ⟨hline, hcol, hoffset⟩ := finished_step a i
  have htext : ofText (a ++ String.singleton i.toChar ++ b) =
      (ofText a).followedBy (i.toChar :: b.toList) := by
    simp [ofText, Lexer.followedBy]
  rw [htext, tokens_followedBy, finished_append_singleton,
    tokens_ofText_at b (by rw [hline]; omega) hcol, hline, hoffset, Nat.add_sub_cancel_left]

end Lexer

/-! ## The alphabet -/

theorem Instruction.mem_all (i : Instruction) : i ∈ all := by
  rcases i with (_ | _ | _ | _) | _ | _ | _ | _ <;> decide

/-- The alphabet has the characters of the instructions and no others. -/
theorem mem_alphabet_iff {c : Char} :
    c ∈ Instruction.alphabet.toList ↔ isInstructionChar c = true := by
  rw [Instruction.alphabet, String.toList_ofList, List.mem_map]
  constructor
  · rintro ⟨i, -, rfl⟩
    exact isInstructionChar_toChar i
  · intro h
    obtain ⟨i, rfl⟩ := exists_eq_toChar h
    exact ⟨i, i.mem_all, rfl⟩

/-- The instructions among characters, written out, are the characters of the alphabet. -/
theorem map_toChar_filterMap_ofChar? (cs : List Char) :
    (cs.filterMap Instruction.ofChar?).map (·.toChar) =
      cs.filter (· ∈ Instruction.alphabet.toList) := by
  induction cs with
  | nil => rfl
  | cons c cs ih =>
    by_cases h : c ∈ Instruction.alphabet.toList
    · obtain ⟨i, rfl⟩ := exists_eq_toChar (mem_alphabet_iff.1 h)
      simp [h, ih]
    · have hnone : Instruction.ofChar? c = none :=
        ofChar?_eq_none (by simpa [mem_alphabet_iff] using h)
      simp [h, hnone, ih]

/-! ## Sanitized texts -/

theorem Lexer.map_toChar_instructions (l : Lexer) :
    l.instructions.map (·.toChar) = l.rest.filter (· ∈ Instruction.alphabet.toList) := by
  rw [instructions_eq_filterMap, map_toChar_filterMap_ofChar?]

theorem toList_sanitize (text : String) :
    (sanitize text).toList = text.toList.filter (· ∈ Instruction.alphabet.toList) := by
  rw [sanitize, String.toList_ofList]
  exact (Lexer.ofText text).map_toChar_instructions

theorem sanitize_append (t u : String) : sanitize (t ++ u) = sanitize t ++ sanitize u := by
  rw [sanitize, instructionsOf_append, List.map_append, String.ofList_append, sanitize, sanitize]

/-- What a session's lexer has still to read is the text but for what was consumed. How much that is
can be seen from a session that is told nothing about its place. -/
theorem Lexer.Session.rest_after (text : String) (commands : List Lexer.Command) :
    ((Session.ofText text).after commands).current.rest =
      text.toList.drop ((Session.ofText text).after
        (commands.filter (·.keepsPlace))).current.position.offset := by
  have htold := (⟨.start text, .start text⟩ :
    Session.Told text.toList .start (.ofText text) (.ofText text)).after commands
  rw [htold.current.eq]
  exact htold.current.isIn.rest_eq

/-- **Sanitizing is filtering.** This is so from any place of a text on that a session can come to,
and a text may be cut anywhere, though its tokens may not. -/
theorem sanitize_eq_filter :
    (∀ text : String,
        (sanitize text).toList = text.toList.filter (· ∈ Instruction.alphabet.toList)) ∧
      (∀ (text : String) (commands : List Lexer.Command),
        let l := ((Lexer.Session.ofText text).after commands).current
        let untold := ((Lexer.Session.ofText text).after (commands.filter (·.keepsPlace))).current
        l.rest = text.toList.drop untold.position.offset ∧
          l.instructions.map (·.toChar) =
            l.rest.filter (· ∈ Instruction.alphabet.toList)) ∧
      (∃ t u : String, Token.ofText (t ++ u) ≠ Token.ofText t ++ Token.ofText u) ∧
      ∀ t u : String, sanitize (t ++ u) = sanitize t ++ sanitize u := by
  refine ⟨toList_sanitize, fun text commands => ⟨?_, ?_⟩, ⟨"cut ", "comment", ?_⟩,
    sanitize_append⟩
  · exact Lexer.Session.rest_after text commands
  · exact Lexer.map_toChar_instructions _
  · decide +kernel

end TapeC
