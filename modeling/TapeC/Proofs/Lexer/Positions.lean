import Mathlib.Data.List.Induction
import Mathlib.Data.List.TakeWhile
import TapeC.Lexer.Marks
import TapeC.Proofs.Lexer.Sessions
import TapeC.Proofs.Lexer.Tokenization

/-!
# Positions are exact and change nothing else

**Theorem (`relocates_after`).** However often and whatever a session's lexer is told about where it
is, the session hands out the tokens of one that is told nothing. Each position that it reports, and
the one that it goes on with, is what it was told last, moved over the characters between there and
the place that the position is of. Where nothing was told, a token's line and column are counted
from the beginning of the text, and they grow from token to token.

A call of `next` looks at the text that is left and only moves the position on. So a lexer whose
positions are given anew, place by place, reads as before (`next_relocate`), as long as the new
positions keep pace with the text (`KeepsPace`); and those that are counted from a mark do, from the
mark on (`Told.keepsPace`). `Session.Told.step` is the step, and `Session.Told.after` the run.
-/

namespace TapeC

/-! ## Positions -/

namespace Position

theorem advance_eq_moved (p : Position) (cs : List Char) : p.advance cs = p.moved cs := by
  induction cs using List.reverseRecOn with
  | nil => simp [moved]
  | append_singleton cs c ih =>
    rw [advance_append, ih]
    by_cases h : c = '\n'
    · simp [moved, step, h, Nat.add_assoc]
    · by_cases hcs : '\n' ∈ cs <;>
        simp [moved, step, h, Ne.symm h, hcs, Nat.add_assoc, Nat.add_comm]

theorem moved_start (cs : List Char) :
    start.moved cs =
      ⟨1 + cs.count '\n', 1 + (cs.reverse.takeWhile (· ≠ '\n')).length, cs.length⟩ := by
  by_cases h : '\n' ∈ cs
  · simp [moved, start, h]
  · have hall : cs.reverse.takeWhile (· ≠ '\n') = cs.reverse := by
      rw [List.takeWhile_eq_self_iff]
      intro c hc
      have hne : c ≠ '\n' := fun hn => h (hn ▸ List.mem_reverse.1 hc)
      simpa using hne
    rw [hall]
    simp [moved, start, h]

/-- Earlier by line, and by column within a line. -/
def IsBefore (p q : Position) : Prop := p.line < q.line ∨ p.line = q.line ∧ p.col < q.col

theorem IsBefore.trans {p q r : Position} (h : p.IsBefore q) (h' : q.IsBefore r) :
    p.IsBefore r := by
  unfold IsBefore at *
  omega

theorem isBefore_step (p : Position) (c : Char) : p.IsBefore (p.step c) := by
  unfold IsBefore step
  split
  · exact .inl (Nat.lt_succ_self p.line)
  · exact .inr ⟨rfl, Nat.lt_succ_self p.col⟩

theorem isBefore_advance_cons (p : Position) (c : Char) (cs : List Char) :
    p.IsBefore (p.advance (c :: cs)) := by
  induction cs generalizing p c with
  | nil => exact p.isBefore_step c
  | cons d cs ih => exact (p.isBefore_step c).trans (ih (p.step c) d)

end Position

namespace Lexer

variable {cs : List Char} {m : Mark} {f : Nat → Position} {l : Lexer}

/-! ## Marks -/

/-- Behind the mark, positions move on with the text. -/
theorem Mark.locate_add {n : Nat} (hm : m.place ≤ n) (hn : n ≤ cs.length) {xs ys : List Char}
    (hcs : cs.drop n = xs ++ ys) :
    m.locate cs (n + xs.length) = (m.locate cs n).advance xs := by
  have hlen : m.place ≤ (cs.take n).length := by
    rw [List.length_take]
    omega
  rw [locate, locate, ← Position.advance_eq_moved, ← Position.advance_eq_moved,
    ← Position.advance_append, List.take_add, hcs, List.take_left,
    List.drop_append_of_le_length hlen]

theorem Mark.locate_place (cs : List Char) (p : Position) (n : Nat) :
    (⟨p, n⟩ : Mark).locate cs n = p := by
  have hnil : (cs.take n).drop n = [] := List.drop_eq_nil_of_le (List.length_take_le n cs)
  rw [locate, hnil, ← Position.advance_eq_moved, Position.advance_nil]

/-! ## New positions -/

/-- The new positions move on with the text that the lexer has still to read. -/
def KeepsPace (f : Nat → Position) (l : Lexer) : Prop :=
  ∀ xs ys, l.rest = xs ++ ys →
    f (l.position.advance xs).offset = (f l.position.offset).advance xs

/-- **New positions do not change what is read.** -/
theorem next_relocate (h : KeepsPace f l) :
    (l.relocate f).next = (l.next.1.map (·.relocate f), l.next.2.relocate f) := by
  obtain ⟨p, rest⟩ := l
  have hsplit := List.takeWhile_append_dropWhile (p := Text.isBlank) (l := rest)
  simp only [next, relocate]
  generalize rest.takeWhile Text.isBlank = bs at hsplit ⊢
  generalize rest.dropWhile Text.isBlank = after at hsplit ⊢
  subst hsplit
  have hfirst : f (p.advance bs).offset = (f p.offset).advance bs := h bs after rfl
  cases after with
  | nil => simp [hfirst]
  | cons c cs =>
    cases hc : Instruction.ofChar? c with
    | some i =>
      have hstep := h (bs ++ [c]) cs (by simp)
      simp only [Position.advance_append, Position.advance_cons, Position.advance_nil] at hstep
      simp only [hc, Option.map_some, Located.relocate, hfirst, hstep]
    | none =>
      have hsplit := List.takeWhile_append_dropWhile (p := (!isInstructionChar ·)) (l := cs)
      have hbody := h (bs ++ c :: cs.takeWhile (!isInstructionChar ·))
        (cs.dropWhile (!isInstructionChar ·)) (by rw [List.append_assoc, List.cons_append, hsplit])
      simp only [Position.advance_append] at hbody
      simp only [hc, Option.map_some, Located.relocate, hfirst, hbody]

theorem KeepsPace.next (h : KeepsPace f l) : KeepsPace f l.next.2 := by
  obtain ⟨read, hrest, hpos, -⟩ := l.next_spec.exists_consumed
  intro xs ys hxs
  have hread := h read l.next.2.rest hrest
  have hboth := h (read ++ xs) ys (by rw [hrest, hxs, List.append_assoc])
  rw [hpos, hread, ← Position.advance_append, ← Position.advance_append, hboth]

theorem tokens_relocate (h : KeepsPace f l) :
    (l.relocate f).tokens = l.tokens.map (·.relocate f) := by
  induction l using tokensInduction with
  | stop l l' hl =>
    have hnext := next_relocate h
    rw [hl] at hnext
    rw [tokens_of_next_none hl, tokens_of_next_none hnext, List.map_nil]
  | token l t l' hl ih =>
    have hnext := next_relocate h
    have htail := h.next
    rw [hl] at hnext htail
    rw [tokens_of_next_some hl, tokens_of_next_some hnext, ih htail, List.map_cons]

theorem after_relocate (h : KeepsPace f l) (n : Nat) :
    (l.relocate f).after n = (l.after n).relocate f := by
  induction n generalizing l with
  | zero => rfl
  | succ n ih => rw [after_succ, after_succ, next_relocate h, ih h.next]

theorem Command.reply_relocate (c : Command) (p : Position) (left : List Located) :
    c.reply (f p.offset) (left.map (·.relocate f)) = (c.reply p left).relocate f := by
  have htoken : (fun t : Located => (t.relocate f).token) = (·.token) := rfl
  have hins : (fun t : Located => (t.relocate f).instruction?) = Located.instruction? := rfl
  cases c <;>
    simp [Command.reply, Reply.relocate, Function.comp_def, htoken, hins, ← List.map_take]

/-! ## Places -/

theorem IsIn.next (h : IsIn cs l) : IsIn cs l.next.2 := by
  obtain ⟨read, hrest, hpos, -⟩ := l.next_spec.exists_consumed
  have hsplit := h.rest_eq.symm.trans hrest
  have hlen := congrArg List.length hsplit
  rw [List.length_drop, List.length_append] at hlen
  have hle := h.offset_le
  constructor
  · rw [hpos, Position.offset_advance, ← List.drop_drop, hsplit, List.drop_left]
  · rw [hpos, Position.offset_advance]
    omega

theorem IsIn.after (h : IsIn cs l) (n : Nat) : IsIn cs (l.after n) := by
  induction n generalizing l with
  | zero => exact h
  | succ n ih => exact ih h.next

theorem offset_le_after (l : Lexer) (n : Nat) :
    l.position.offset ≤ (l.after n).position.offset := by
  induction n generalizing l with
  | zero => exact Nat.le_refl _
  | succ n ih =>
    obtain ⟨read, -, hpos, -⟩ := l.next_spec.exists_consumed
    refine Nat.le_trans ?_ (ih l.next.2)
    rw [hpos, Position.offset_advance]
    exact Nat.le_add_right _ _

/-- A lexer with a mark, beside one at the same place that was told nothing. -/
structure Told (cs : List Char) (m : Mark) (plain l : Lexer) : Prop where
  isIn : IsIn cs plain
  suffix : plain.tokens <:+ tokens ⟨.start, cs⟩
  place_le : m.place ≤ plain.position.offset
  eq : l = plain.relocate (m.locate cs)

namespace Told

variable {plain : Lexer}

theorem start (text : String) : Told text.toList ⟨.start, 0⟩ (ofText text) (ofText text) where
  isIn := ⟨rfl, Nat.zero_le _⟩
  suffix := List.suffix_refl _
  place_le := Nat.le_refl _
  eq := by
    rw [relocate, ofText]
    dsimp only [Position.start]
    rw [Mark.locate_place]

theorem keepsPace (h : Told cs m plain l) : KeepsPace (m.locate cs) plain := by
  intro xs ys hxs
  rw [Position.offset_advance]
  exact m.locate_add h.place_le h.isIn.offset_le (h.isIn.rest_eq.symm.trans hxs)

theorem tokens_eq (h : Told cs m plain l) :
    l.tokens = plain.tokens.map (·.relocate (m.locate cs)) := by
  rw [h.eq, tokens_relocate h.keepsPace]

theorem after (h : Told cs m plain l) (n : Nat) : Told cs m (plain.after n) (l.after n) where
  isIn := h.isIn.after n
  suffix := by
    rw [tokens_after]
    exact (List.drop_suffix n _).trans h.suffix
  place_le := Nat.le_trans h.place_le (plain.offset_le_after n)
  eq := by rw [h.eq, after_relocate h.keepsPace]

theorem tell (h : Told cs m plain l) (p : Position) :
    Told cs ⟨p, plain.position.offset⟩ plain { l with position := p } where
  isIn := h.isIn
  suffix := h.suffix
  place_le := Nat.le_refl _
  eq := by rw [h.eq, relocate, relocate, Mark.locate_place]

end Told

/-! ## Sessions -/

namespace Session

/-- A session with marks, beside one at the same places that was told nothing. -/
structure Told (cs : List Char) (m : Marks) (plain s : Session) : Prop where
  current : Lexer.Told cs m.current plain.current s.current
  saved : Lexer.Told cs m.saved plain.saved s.saved

variable {m : Marks} {plain s : Session}

namespace Told

theorem reply_eq (h : Told cs m plain s) (c : Command) :
    (s.step c).1 = (plain.step c).1.relocate (m.current.locate cs) := by
  rw [step_fst, step_fst, h.current.tokens_eq, ← Command.reply_relocate, h.current.eq]
  rfl

/-- **One command.** The other session passes it over if it says where the lexer is. -/
theorem step (h : Told cs m plain s) (c : Command) :
    Told cs (m.step plain.current.position.offset c) (plain.untold c) (s.step c).2 := by
  have hmove : c.consumes = true → Told cs m (plain.step c).2 (s.step c).2 := by
    intro hc
    rw [step_snd_of_consumes plain hc, step_snd_of_consumes s hc, h.current.tokens_eq,
      List.length_map]
    exact ⟨h.current.after _, h.saved⟩
  cases c with
  | next | nextLocated | nth _ | take _ => exact hmove rfl
  | position | rest | instructions | count | last => exact h
  | save => exact ⟨h.current, h.current⟩
  | restore => exact ⟨h.saved, h.saved⟩
  | swap => exact ⟨h.saved, h.current⟩
  | place p => exact ⟨h.current.tell p, h.saved⟩

end Told

theorem after_filter_cons (s : Session) (c : Command) (commands : List Command) :
    s.after ((c :: commands).filter (·.keepsPlace)) =
      (s.untold c).after (commands.filter (·.keepsPlace)) := by
  unfold untold
  by_cases hc : c.keepsPlace = true
  · rw [List.filter_cons_of_pos hc, if_pos hc]
    rfl
  · rw [List.filter_cons_of_neg hc, if_neg hc]

/-- **Any number of commands.** -/
theorem Told.after (h : Told cs m plain s) (commands : List Command) :
    Told cs (plain.marks m commands) (plain.after (commands.filter (·.keepsPlace)))
      (s.after commands) := by
  induction commands generalizing m plain s with
  | nil => exact h
  | cons c commands ih =>
    rw [after_filter_cons]
    exact ih (h.step c)

end Session

/-! ## Fresh lexers -/

theorem exists_advance_of_mem_tokens {t : Located} (ht : t ∈ l.tokens) :
    ∃ xs ys, l.rest = xs ++ ys ∧ t.position = l.position.advance xs := by
  induction l using tokensInduction with
  | stop l l' h =>
    rw [tokens_of_next_none h] at ht
    cases ht
  | token l u l' h ih =>
    obtain ⟨read, hrest, hpos, hhead⟩ := l.next_spec.exists_consumed
    rw [h] at hrest hpos hhead
    rw [tokens_of_next_some h] at ht
    rcases List.mem_cons.1 ht with rfl | ht
    · obtain ⟨bs, c, more, rfl, htpos⟩ := hhead t rfl
      exact ⟨bs, c :: more ++ l'.rest, by rw [hrest, List.append_assoc], htpos⟩
    · obtain ⟨xs, ys, hxs, htpos⟩ := ih ht
      refine ⟨read ++ xs, ys, by rw [hrest, hxs, List.append_assoc], ?_⟩
      rw [htpos, hpos, Position.advance_append]

/-- Tokens stand one after the other. -/
theorem pairwise_tokens (l : Lexer) :
    l.tokens.Pairwise fun t u => t.position.IsBefore u.position := by
  induction l using tokensInduction with
  | stop l l' h =>
    rw [tokens_of_next_none h]
    exact .nil
  | token l t l' h ih =>
    rw [tokens_of_next_some h]
    refine List.pairwise_cons.2 ⟨fun u hu => ?_, ih⟩
    obtain ⟨read, -, hpos, hhead⟩ := l.next_spec.exists_consumed
    rw [h] at hpos hhead
    obtain ⟨bs, c, more, rfl, htpos⟩ := hhead t rfl
    obtain ⟨xs, -, -, hupos⟩ := exists_advance_of_mem_tokens hu
    rw [hupos, hpos, htpos, Position.advance_append, ← Position.advance_append]
    exact Position.isBefore_advance_cons _ c (more ++ xs)

theorem position_eq_moved_start {text : String} {t : Located} (ht : t ∈ (ofText text).tokens) :
    t.position = Position.start.moved (text.toList.take t.position.offset) := by
  obtain ⟨xs, ys, hxs, hpos⟩ := exists_advance_of_mem_tokens ht
  have htext : text.toList = xs ++ ys := hxs
  have hoffset : t.position.offset = xs.length := by
    rw [hpos, Position.offset_advance]
    exact Nat.zero_add _
  rw [hoffset, htext, List.take_left, ← Position.advance_eq_moved]
  exact hpos

/-- **Positions are exact and change nothing else.** Whatever is asked of a session of a text, and
whatever its lexer is told. -/
theorem relocates_after (text : String) (commands : List Command) :
    Session.Relocates text ((Session.ofText text).marks .start commands)
        ((Session.ofText text).after (commands.filter (·.keepsPlace)))
        ((Session.ofText text).after commands) ∧
      (∀ t ∈ (ofText text).tokens,
        (text.toList.drop t.position.offset).take t.token.text.length = t.token.text.toList ∧
          t.position.line = 1 + (text.toList.take t.position.offset).count '\n' ∧
          t.position.col = 1 +
            ((text.toList.take t.position.offset).reverse.takeWhile (· ≠ '\n')).length) ∧
      (ofText text).tokens.Pairwise fun t u => t.position.IsBefore u.position := by
  have htold := (⟨.start text, .start text⟩ :
    Session.Told text.toList .start (.ofText text) (.ofText text)).after commands
  refine ⟨⟨htold.current.isIn, htold.saved.isIn, htold.current.suffix, htold.saved.suffix,
    htold.current.eq, htold.saved.eq, htold.reply_eq⟩, fun t ht => ⟨?_, ?_⟩, pairwise_tokens _⟩
  · have htokens := (Token.isTokenization_iff_tokens (l := ofText text) rfl).2 rfl
    exact htokens.slice t.placed (List.mem_map_of_mem ht)
  · have hpos := position_eq_moved_start ht
    rw [Position.moved_start] at hpos
    exact ⟨congrArg Position.line hpos, congrArg Position.col hpos⟩

end Lexer

end TapeC
