/-!
# Positions in a text

A position counts the code points before it (`offset`) and says where a reader finds it: its line
and its column, both from 1. Only a line feed starts a new line; every other character, tabs
included, is one column wide.
-/

namespace TapeC

structure Position where
  line : Nat
  col : Nat
  offset : Nat
deriving DecidableEq, Inhabited

namespace Position

/-- The position of a text's first character. -/
def start : Position := ⟨1, 1, 0⟩

/-- The position after one character. -/
def step (p : Position) (c : Char) : Position :=
  if c = '\n' then ⟨p.line + 1, 1, p.offset + 1⟩ else ⟨p.line, p.col + 1, p.offset + 1⟩

/-- The position after a text. -/
def advance (p : Position) (cs : List Char) : Position := cs.foldl step p

/-- Line and column with a colon between them. -/
def render (p : Position) : String := toString p.line ++ ":" ++ toString p.col

@[simp] theorem advance_nil (p : Position) : p.advance [] = p := rfl

@[simp] theorem advance_cons (p : Position) (c : Char) (cs : List Char) :
    p.advance (c :: cs) = (p.step c).advance cs := rfl

theorem advance_append (p : Position) (xs ys : List Char) :
    p.advance (xs ++ ys) = (p.advance xs).advance ys := List.foldl_append

theorem offset_step (p : Position) (c : Char) : (p.step c).offset = p.offset + 1 := by
  unfold step
  split <;> rfl

theorem offset_advance (p : Position) (cs : List Char) :
    (p.advance cs).offset = p.offset + cs.length := by
  induction cs generalizing p with
  | nil => rfl
  | cons c cs ih => rw [advance_cons, ih, offset_step, List.length_cons]; omega

end Position

end TapeC
