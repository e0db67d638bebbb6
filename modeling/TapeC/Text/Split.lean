/-!
# Splitting at separators

The stretches of a list between the occurrences of a separator, of which there is always one more
than there are separators. `join_split` says that nothing is lost.
-/

namespace TapeC.Text

variable {α : Type} [DecidableEq α]

/-- Puts an item in front of stretches: a separator opens a new one, any other item belongs to the
first. -/
def splitStep (separator a : α) (done : List (List α)) : List (List α) :=
  if a = separator then [] :: done
  else
    match done with
    | [] => [[a]]
    | s :: ss => (a :: s) :: ss

/-- The stretches between separators. -/
def split (separator : α) (xs : List α) : List (List α) :=
  xs.foldr (splitStep separator) [[]]

@[simp] theorem split_nil (separator : α) : split separator [] = [[]] := rfl

@[simp] theorem split_cons (separator a : α) (xs : List α) :
    split separator (a :: xs) = splitStep separator a (split separator xs) := rfl

theorem split_ne_nil (separator : α) (xs : List α) : split separator xs ≠ [] := by
  cases xs with
  | nil => simp
  | cons a xs =>
    rw [split_cons]
    unfold splitStep
    split
    · simp
    · split <;> simp

/-- The stretches with separators between them are the list that was split. -/
theorem join_split (separator : α) (xs : List α) :
    [separator].intercalate (split separator xs) = xs := by
  induction xs with
  | nil => rfl
  | cons a xs ih =>
    rw [split_cons]
    unfold splitStep
    obtain ⟨s, ss, hs⟩ := List.exists_cons_of_ne_nil (split_ne_nil separator xs)
    rw [hs] at ih ⊢
    split
    · rename_i h
      subst h
      rw [← ih]
      rfl
    · rw [← ih]
      cases ss <;> rfl

end TapeC.Text
