import TapeC.Op

/-!
# Brackets

Which brackets of a sequence belong together: a closing bracket belongs to the last opening one
that is still open. One that finds none open belongs to nothing, and neither does an opening
bracket that is never closed. The sequence may hold anything else between its brackets, so the
same definition serves the characters of a text, instructions, ops and the braces of a program.
-/

namespace TapeC

/-- The two sides of a pair of brackets. -/
inductive Side where
  | opening
  | closing
deriving DecidableEq

def Instruction.side? : Instruction → Option Side
  | .loopStart => some .opening
  | .loopEnd => some .closing
  | _ => none

def Op.side? : Op → Option Side
  | .loopStart => some .opening
  | .loopEnd => some .closing
  | _ => none

/-- The square brackets of a text. -/
def bracketSide? (c : Char) : Option Side :=
  if c = '[' then some .opening else if c = ']' then some .closing else none

/-- The braces of a text. -/
def braceSide? (c : Char) : Option Side :=
  if c = '\x7b' then some .opening else if c = '\x7d' then some .closing else none

namespace Brackets

variable {α : Type} (side? : α → Option Side)

/-- The brackets of a sequence, without what is between them. -/
def sides (xs : List α) : List Side := xs.filterMap side?

/-! ## Matching -/

/-- The brackets of a sequence with their places, if its first item is at place `i`. -/
def placedFrom (i : Nat) : List α → List (Side × Nat)
  | [] => []
  | x :: xs =>
    match side? x with
    | some s => (s, i) :: placedFrom (i + 1) xs
    | none => placedFrom (i + 1) xs

/-- The pairs among further brackets, each as the place of its opening and the place of its
closing bracket. `still` holds the places of the brackets that are open, the last one first. -/
def pairsFrom (still : List Nat) : List (Side × Nat) → List (Nat × Nat)
  | [] => []
  | (.opening, i) :: bs => pairsFrom (i :: still) bs
  | (.closing, i) :: bs =>
    match still with
    | [] => pairsFrom [] bs
    | o :: still => (o, i) :: pairsFrom still bs

/-- The pairs of brackets, each as the place of its opening and the place of its closing bracket. -/
def pairs (xs : List α) : List (Nat × Nat) := pairsFrom [] (placedFrom side? 0 xs)

/-- The brackets at these places belong together, as an opening and a closing one. -/
def Matched (xs : List α) (i j : Nat) : Prop := (i, j) ∈ pairs side? xs

instance (xs : List α) (i j : Nat) : Decidable (Matched side? xs i j) :=
  inferInstanceAs (Decidable (_ ∈ _))

/-- At place `i` stands bracket number `n` of its side, counted from zero. -/
structure IsNth (s : Side) (n : Nat) (xs : List α) (i : Nat) : Prop where
  side_eq : xs[i]?.bind side? = some s
  count_eq : (sides side? (xs.take i)).count s = n

instance (s : Side) (n : Nat) (xs : List α) (i : Nat) : Decidable (IsNth side? s n xs i) :=
  decidable_of_iff (xs[i]?.bind side? = some s ∧ (sides side? (xs.take i)).count s = n)
    ⟨fun h => ⟨h.1, h.2⟩, fun h => ⟨h.1, h.2⟩⟩

/-! ## Balance -/

/-- How many more brackets open than close. -/
def excess (xs : List α) : Int :=
  ((sides side? xs).count .opening : Int) - (sides side? xs).count .closing

/-- As many brackets open as close, and no beginning of the sequence closes more than it opens. -/
def Balanced (xs : List α) : Prop :=
  excess side? xs = 0 ∧ ∀ n, 0 ≤ excess side? (xs.take n)

variable {side?}

@[simp] theorem sides_nil : sides side? [] = [] := rfl

@[simp] theorem sides_append (xs ys : List α) :
    sides side? (xs ++ ys) = sides side? xs ++ sides side? ys := List.filterMap_append

theorem sides_cons (x : α) (xs : List α) :
    sides side? (x :: xs) = (side? x).toList ++ sides side? xs := by
  cases h : side? x <;> simp [sides, h]

theorem excess_append (xs ys : List α) :
    excess side? (xs ++ ys) = excess side? xs + excess side? ys := by
  simp only [excess, sides_append, List.count_append]
  omega

end Brackets

end TapeC
