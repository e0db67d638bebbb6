import Mathlib.Data.List.Basic
import Mathlib.Data.List.TakeWhile
import TapeC.Lexer

/-!
# What the lexer reads in one step

`Lexer.Next` lists the three things that a call of `next` can come to: nothing but blanks are left;
an instruction follows the blanks; a comment follows them, which goes on to the next instruction or
the end of the text. `next_spec` says that these are all, `Next.next_eq` that each of them is what
`next` does, and `Lexer.tokensInduction` that a list of tokens is read by such steps. Nothing else
about `next` is used in proofs about token lists.

`instructions_eq_filterMap` is the first use: the instructions among the tokens are those among the
characters.
-/

namespace TapeC

/-! ## Characters -/

theorem Instruction.isBlank_toChar (i : Instruction) : Text.isBlank i.toChar = false := by
  rcases i with (_ | _ | _ | _) | _ | _ | _ | _ <;> decide

theorem isInstructionChar_toChar (i : Instruction) : isInstructionChar i.toChar = true := by
  simp [isInstructionChar]

theorem exists_eq_toChar {c : Char} (h : isInstructionChar c = true) :
    ∃ i : Instruction, c = i.toChar := by
  obtain ⟨i, hi⟩ := Option.isSome_iff_exists.1 h
  exact ⟨i, Instruction.ofChar?_eq_some_iff.1 hi⟩

theorem isInstructionChar_of_isBlank {c : Char} (h : Text.isBlank c = true) :
    isInstructionChar c = false := by
  by_contra hc
  obtain ⟨i, rfl⟩ := exists_eq_toChar (by simpa using hc)
  rw [Instruction.isBlank_toChar] at h
  cases h

theorem ofChar?_eq_none {c : Char} (h : isInstructionChar c = false) :
    Instruction.ofChar? c = none := by
  simpa [isInstructionChar] using h

theorem filterMap_ofChar?_eq_nil {cs : List Char} (h : ∀ c ∈ cs, isInstructionChar c = false) :
    cs.filterMap Instruction.ofChar? = [] :=
  List.filterMap_eq_nil_iff.2 fun c hc => ofChar?_eq_none (h c hc)

/-! ## Steps -/

namespace Lexer

/-- What a lexer reads in one step, and the lexer after it. -/
inductive Next : Lexer → Option Located × Lexer → Prop where
  | stop {p : Position} {bs : List Char} (blank : ∀ b ∈ bs, Text.isBlank b = true) :
      Next ⟨p, bs⟩ (none, ⟨p.advance bs, []⟩)
  | instruction {p : Position} {bs : List Char} (blank : ∀ b ∈ bs, Text.isBlank b = true)
      (i : Instruction) (cs : List Char) :
      Next ⟨p, bs ++ i.toChar :: cs⟩
        (some ⟨p.advance bs, .instruction i⟩, ⟨(p.advance bs).step i.toChar, cs⟩)
  | comment {p : Position} {bs : List Char} (blank : ∀ b ∈ bs, Text.isBlank b = true)
      {c : Char} {body cs : List Char} (head : Text.isBlank c = false)
      (text : ∀ d ∈ c :: body, isInstructionChar d = false)
      (stop : ∀ d, cs.head? = some d → isInstructionChar d = true) :
      Next ⟨p, bs ++ (c :: body ++ cs)⟩
        (some ⟨p.advance bs, .comment (String.ofList (Text.trimEnd (c :: body)))⟩,
          ⟨(p.advance bs).advance (c :: body), cs⟩)

theorem head?_dropWhile {α : Type} {q : α → Bool} {xs : List α} {x : α}
    (h : (xs.dropWhile q).head? = some x) : q x = false := by
  have := List.head?_dropWhile_not q xs
  rw [h] at this
  simpa using this

theorem next_spec (l : Lexer) : Next l l.next := by
  obtain ⟨p, rest⟩ := l
  have hblank : ∀ b ∈ rest.takeWhile Text.isBlank, Text.isBlank b = true :=
    fun b hb => List.all_eq_true.1 List.all_takeWhile b hb
  have hsplit := List.takeWhile_append_dropWhile (p := Text.isBlank) (l := rest)
  have hhead : ∀ c, (rest.dropWhile Text.isBlank).head? = some c → Text.isBlank c = false :=
    fun c hc => head?_dropWhile hc
  simp only [next]
  generalize rest.takeWhile Text.isBlank = bs at hblank hsplit ⊢
  generalize rest.dropWhile Text.isBlank = after at hsplit hhead ⊢
  subst hsplit
  cases after with
  | nil => simpa using Next.stop (p := p) hblank
  | cons c cs =>
    cases hc : Instruction.ofChar? c with
    | some i =>
      simp only [hc]
      obtain rfl := Instruction.ofChar?_eq_some_iff.1 hc
      exact .instruction hblank i cs
    | none =>
      simp only [hc]
      have hcut := List.takeWhile_append_dropWhile (p := (!isInstructionChar ·)) (l := cs)
      have hstop : ∀ d, (cs.dropWhile (!isInstructionChar ·)).head? = some d →
          isInstructionChar d = true := fun d hd => by simpa using head?_dropWhile hd
      have htext : ∀ d ∈ c :: cs.takeWhile (!isInstructionChar ·),
          isInstructionChar d = false := by
        intro d hd
        rcases List.mem_cons.1 hd with rfl | hd
        · simp [isInstructionChar, hc]
        · simpa using List.all_eq_true.1 List.all_takeWhile d hd
      have := Next.comment (p := p) hblank (hhead c rfl) htext hstop
      rwa [List.cons_append, hcut] at this

theorem takeWhile_append_of_stop {α : Type} {q : α → Bool} {xs ys : List α}
    (hxs : ∀ x ∈ xs, q x = true) (hys : ∀ y, ys.head? = some y → q y = false) :
    (xs ++ ys).takeWhile q = xs := by
  rw [List.takeWhile_append_of_pos hxs]
  cases ys with
  | nil => rw [List.takeWhile_nil, List.append_nil]
  | cons y ys => rw [List.takeWhile_cons_of_neg (by simp [hys y rfl]), List.append_nil]

theorem dropWhile_append_of_stop {α : Type} {q : α → Bool} {xs ys : List α}
    (hxs : ∀ x ∈ xs, q x = true) (hys : ∀ y, ys.head? = some y → q y = false) :
    (xs ++ ys).dropWhile q = ys := by
  rw [List.dropWhile_append_of_pos hxs]
  cases ys with
  | nil => rfl
  | cons y ys => exact List.dropWhile_cons_of_neg (by simp [hys y rfl])

/-- What a case describes is what `next` does. -/
theorem Next.next_eq {l : Lexer} {r : Option Located × Lexer} (h : Next l r) : l.next = r := by
  cases h with
  | @stop p bs blank =>
    have htake : bs.takeWhile Text.isBlank = bs := List.takeWhile_eq_self_iff.2 blank
    have hdrop : bs.dropWhile Text.isBlank = [] := List.dropWhile_eq_nil_iff.2 blank
    simp only [next, htake, hdrop]
  | @instruction p bs blank i cs =>
    have hstop : ∀ c, (i.toChar :: cs).head? = some c → Text.isBlank c = false := by
      rintro c ⟨⟩
      exact i.isBlank_toChar
    simp only [next, takeWhile_append_of_stop blank hstop, dropWhile_append_of_stop blank hstop,
      Instruction.ofChar?_toChar]
  | @comment p bs blank c body cs head text stop =>
    have hstart : ∀ d, (c :: body ++ cs).head? = some d → Text.isBlank d = false := by
      rintro d ⟨⟩
      exact head
    obtain ⟨hc, hbody⟩ := List.forall_mem_cons.1 text
    have hplain : ∀ d ∈ body, (!isInstructionChar d) = true := fun d hd => by simp [hbody d hd]
    have hstop : ∀ d, cs.head? = some d → (!isInstructionChar d) = false :=
      fun d hd => by simp [stop d hd]
    simp only [next, takeWhile_append_of_stop blank hstart, dropWhile_append_of_stop blank hstart]
    simp only [List.cons_append, ofChar?_eq_none hc, takeWhile_append_of_stop hplain hstop,
      dropWhile_append_of_stop hplain hstop]

/-- A step consumes the beginning of what is left, and its token stands behind a part of that. -/
theorem Next.exists_consumed {l : Lexer} {r : Option Located × Lexer} (h : Next l r) :
    ∃ xs, l.rest = xs ++ r.2.rest ∧ r.2.position = l.position.advance xs ∧
      ∀ t ∈ r.1, ∃ bs c ys, xs = bs ++ c :: ys ∧ t.position = l.position.advance bs := by
  cases h with
  | @stop p bs blank => exact ⟨bs, by simp, rfl, by simp⟩
  | @instruction p bs blank i cs =>
    refine ⟨bs ++ [i.toChar], by simp, by simp [Position.advance_append], ?_⟩
    rintro t ⟨⟩
    exact ⟨bs, i.toChar, [], rfl, rfl⟩
  | @comment p bs blank c body cs head text stop =>
    refine ⟨bs ++ c :: body, by simp, by simp [Position.advance_append], ?_⟩
    rintro t ⟨⟩
    exact ⟨bs, c, body, rfl, rfl⟩

/-- Induction over the tokens that are still to be read. -/
theorem tokensInduction {motive : Lexer → Prop}
    (stop : ∀ l l', l.next = (none, l') → motive l)
    (token : ∀ l t l', l.next = (some t, l') → motive l' → motive l) (l : Lexer) : motive l := by
  induction hn : l.rest.length using Nat.strongRecOn generalizing l with
  | ind n ih =>
    cases h : l.next with
    | mk t? l' =>
      cases t? with
      | none => exact stop l l' h
      | some t => exact token l t l' h (ih _ (hn ▸ length_rest_next_lt h) l' rfl)

theorem tokens_of_next_none {l l' : Lexer} (h : l.next = (none, l')) : l.tokens = [] := by
  rw [tokens_eq, h]

theorem tokens_of_next_some {l l' : Lexer} {t : Located} (h : l.next = (some t, l')) :
    l.tokens = t :: l'.tokens := by
  rw [tokens_eq, h]

theorem rest_of_next_none {l l' : Lexer} (h : l.next = (none, l')) : l'.rest = [] := by
  have hstep := next_spec l
  rw [h] at hstep
  cases hstep
  rfl

/-! ## Instructions -/

/-- One step reads as many instructions as there are among the characters that it consumes. -/
theorem Next.filterMap_eq {l : Lexer} {r : Option Located × Lexer} (h : Next l r) :
    l.rest.filterMap Instruction.ofChar? =
      (r.1.bind Located.instruction?).toList ++ r.2.rest.filterMap Instruction.ofChar? := by
  cases h with
  | stop blank =>
    exact filterMap_ofChar?_eq_nil fun b hb => isInstructionChar_of_isBlank (blank b hb)
  | instruction blank i cs =>
    have hbs := filterMap_ofChar?_eq_nil fun b hb => isInstructionChar_of_isBlank (blank b hb)
    simp [hbs, Located.instruction?, Token.instruction?]
  | comment blank head text stop =>
    have hbs := filterMap_ofChar?_eq_nil fun b hb => isInstructionChar_of_isBlank (blank b hb)
    have hbody := filterMap_ofChar?_eq_nil text
    simp only [List.filterMap_append, hbs, hbody]
    rfl

/-- The instructions are those among the characters, whatever comments they stand in. -/
theorem instructions_eq_filterMap (l : Lexer) :
    l.instructions = l.rest.filterMap Instruction.ofChar? := by
  induction l using tokensInduction with
  | stop l l' h =>
    have hstep := (next_spec l).filterMap_eq
    rw [h, rest_of_next_none h] at hstep
    rw [instructions_eq, tokens_of_next_none h, hstep]
    rfl
  | token l t l' h ih =>
    have hstep := (next_spec l).filterMap_eq
    rw [h, ← ih] at hstep
    rw [instructions_eq, tokens_of_next_some h, hstep, instructions_eq]
    cases ht : t.instruction? <;> simp [ht]

end Lexer

/-- The instructions of a text are those among its characters. -/
theorem instructionsOf_eq (text : String) :
    instructionsOf text = text.toList.filterMap Instruction.ofChar? :=
  Lexer.instructions_eq_filterMap _

/-- The instructions of two texts put together are those of the one and then those of the other,
wherever the cut is. -/
theorem instructionsOf_append (t u : String) :
    instructionsOf (t ++ u) = instructionsOf t ++ instructionsOf u := by
  rw [instructionsOf_eq, String.toList_append, List.filterMap_append, instructionsOf_eq,
    instructionsOf_eq]

end TapeC
