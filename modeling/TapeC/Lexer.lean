import TapeC.Token
import TapeC.Text.Blank

/-!
# The lexer

A lexer is a position and the text that is still to be read. `next` skips blanks and reads one
token: an instruction character is a token by itself; any other character starts a comment, which
runs to the next instruction character or the end of the text and is then cut of the blanks at
its end (they are consumed all the same).

A lexer is a value: keeping one and going back to it is keeping the value. `tokens_eq` unfolds the
list of all tokens by one `next`, and `length_rest_next_lt` is why there is such a list: a token
consumes at least its first character. The instructions are read in a pass of their own, which
meets the same tokens (`instructions_eq`).
-/

namespace TapeC

structure Lexer where
  position : Position
  rest : List Char
deriving DecidableEq, Inhabited

namespace Lexer

def ofText (text : String) : Lexer := ⟨.start, text.toList⟩

/-- Reads a token off the text. At the end of the text there is none, and the blanks before the
end are consumed. -/
def next (l : Lexer) : Option Located × Lexer :=
  let first := l.position.advance (l.rest.takeWhile Text.isBlank)
  match l.rest.dropWhile Text.isBlank with
  | [] => (none, ⟨first, []⟩)
  | c :: cs =>
    match Instruction.ofChar? c with
    | some i => (some ⟨first, .instruction i⟩, ⟨first.step c, cs⟩)
    | none =>
      let body := c :: cs.takeWhile (!isInstructionChar ·)
      (some ⟨first, .comment (String.ofList (Text.trimEnd body))⟩,
        ⟨first.advance body, cs.dropWhile (!isInstructionChar ·)⟩)

theorem length_dropWhile_le {α : Type} (p : α → Bool) (xs : List α) :
    (xs.dropWhile p).length ≤ xs.length := (List.dropWhile_sublist p).length_le

/-- A token consumes part of the text. -/
theorem length_rest_next_lt {l l' : Lexer} {t : Located} (h : l.next = (some t, l')) :
    l'.rest.length < l.rest.length := by
  have hle := length_dropWhile_le Text.isBlank l.rest
  simp only [next] at h
  split at h
  · simp at h
  · rename_i c cs hd
    rw [hd, List.length_cons] at hle
    split at h <;> obtain ⟨-, rfl⟩ := Prod.mk.inj h
    · exact hle
    · exact Nat.lt_of_le_of_lt (length_dropWhile_le _ cs) hle

/-! ## All tokens -/

/-- The tokens that are still to be read, after those of `done`, which stand in reverse. -/
def tokensOnto (done : List Located) (l : Lexer) : List Located :=
  match _h : l.next with
  | (none, _) => done.reverse
  | (some t, l') => tokensOnto (t :: done) l'
termination_by l.rest.length
decreasing_by exact length_rest_next_lt _h

/-- The tokens that are still to be read, with their positions. -/
def tokens (l : Lexer) : List Located := tokensOnto [] l

theorem tokensOnto_eq (done : List Located) (l : Lexer) :
    tokensOnto done l = done.reverse ++ tokens l := by
  have key : ∀ n (done : List Located) (l : Lexer), l.rest.length < n →
      tokensOnto done l = done.reverse ++ tokens l := by
    intro n
    induction n with
    | zero => intro _ _ h; exact absurd h (Nat.not_lt_zero _)
    | succ n ih =>
      intro done l hn
      rw [tokens, tokensOnto, tokensOnto]
      split
      · simp
      · rename_i t l' h
        have hl := length_rest_next_lt h
        rw [ih (t :: done) l' (by omega), ih [t] l' (by omega)]
        simp
  exact key _ done l (Nat.lt_succ_self _)

theorem tokens_eq (l : Lexer) :
    l.tokens = match l.next with
      | (none, _) => []
      | (some t, l') => t :: l'.tokens := by
  rw [tokens, tokensOnto]
  split
  · rename_i h; rw [h]; rfl
  · rename_i t l' h; rw [h, tokensOnto_eq]; rfl

/-! ## Instructions only -/

/-- The instructions that are still to be read, after those of `done`, which stand in reverse.
Comments are read and dropped. -/
def instructionsOnto (done : List Instruction) (l : Lexer) : List Instruction :=
  match _h : l.next with
  | (none, _) => done.reverse
  | (some ⟨_, .instruction i⟩, l') => instructionsOnto (i :: done) l'
  | (some ⟨_, .comment _⟩, l') => instructionsOnto done l'
termination_by l.rest.length
decreasing_by all_goals exact length_rest_next_lt _h

/-- The instructions that are still to be read. -/
def instructions (l : Lexer) : List Instruction := instructionsOnto [] l

theorem instructionsOnto_eq (done : List Instruction) (l : Lexer) :
    instructionsOnto done l = done.reverse ++ l.tokens.filterMap Located.instruction? := by
  induction done, l using instructionsOnto.induct with
  | case1 done l l' h =>
    rw [instructionsOnto, tokens_eq, h]
    simp
  | case2 done l p i l' h ih =>
    rw [instructionsOnto, tokens_eq, h]
    simp [ih, Located.instruction?, Token.instruction?]
  | case3 done l p text l' h ih =>
    rw [instructionsOnto, tokens_eq, h]
    simp [ih, List.filterMap_cons, Located.instruction?, Token.instruction?]

/-- Reading the instructions is reading all tokens and keeping the instructions among them. -/
theorem instructions_eq (l : Lexer) :
    l.instructions = l.tokens.filterMap Located.instruction? := instructionsOnto_eq [] l

/-! ## Several tokens at once -/

/-- Skips `n` tokens and reads the one after them; stops at the end of the text. -/
def nth : Nat → Lexer → Option Located × Lexer
  | 0, l => l.next
  | n + 1, l =>
    match l.next with
    | (none, l') => (none, l')
    | (some _, l') => nth n l'

/-- Reads up to `n` tokens, after those of `done`, which stand in reverse. -/
def takeOnto (done : List Located) : Nat → Lexer → List Located × Lexer
  | 0, l => (done.reverse, l)
  | n + 1, l =>
    match l.next with
    | (none, l') => (done.reverse, l')
    | (some t, l') => takeOnto (t :: done) n l'

/-- Reads up to `n` tokens; fewer if the text ends before. Nothing is read for `n = 0`. -/
def take (n : Nat) (l : Lexer) : List Located × Lexer := takeOnto [] n l

theorem takeOnto_eq (done : List Located) (n : Nat) (l : Lexer) :
    takeOnto done n l = (done.reverse ++ (take n l).1, (take n l).2) := by
  induction n generalizing done l with
  | zero => simp [take, takeOnto]
  | succ n ih =>
    rw [take, takeOnto, takeOnto]
    split
    · simp
    · rename_i t l' _
      rw [ih (t :: done), ih [t]]
      simp

@[simp] theorem take_zero (l : Lexer) : take 0 l = ([], l) := rfl

theorem take_succ (n : Nat) (l : Lexer) :
    take (n + 1) l = match l.next with
      | (none, l') => ([], l')
      | (some t, l') => (t :: (take n l').1, (take n l').2) := by
  rw [take, takeOnto]
  split
  · rfl
  · rename_i t l' _
    rw [takeOnto_eq]
    rfl

end Lexer

/-- The instructions of a program text. -/
def instructionsOf (text : String) : List Instruction := (Lexer.ofText text).instructions

/-- The text stripped of all that is not an instruction. -/
def sanitize (text : String) : String := String.ofList ((instructionsOf text).map (·.toChar))

end TapeC
