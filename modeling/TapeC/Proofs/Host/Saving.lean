import TapeC.Proofs.Host.Extension
import TapeC.Proofs.Host.Writing
import TapeC.Save.History

/-!
# The last save wins

**Theorem (`Tree.saveAll_lastWins`).** After saves that follow each other, a file holds the code of
the last one that succeeded at its place, and nothing of what was there before; a file that none of
them succeeded at is what it was. Each save replaces one file as a whole or, if it fails, none.

A save puts a file at one place, or leaves the tree alone (`node?_saved`). What it puts there
depends on the tree by a permission only, which no save changes (`written_saved`). So an earlier
save leaves no trace at the place of a later one, and the induction over the saves
(`node?_afterSaves`) can begin with the first of them.
-/

namespace TapeC.Tree

variable {t : Tree} {p : Path} {place : Place} {code : String} {steps : List (Path × String)}

/-! ## One save -/

theorem saved_of_target_ok (h : t.target p.withCExtension = .ok place) :
    t.saved p code =
      (.ok p.withCExtension, t.put place (t.written place (Utf8.encode code))) := by
  simp [saved, save, write, h, bind, Except.bind]

theorem saved_of_target_error {e : HostError} (h : t.target p.withCExtension = .error e) :
    t.saved p code = (.error e, t) := by
  simp [saved, save, write, h, bind, Except.bind]

theorem saveOutcome_saved (t : Tree) (p : Path) (code : String) :
    SaveOutcome t p code (t.saved p code) := by
  cases h : t.target p.withCExtension with
  | error e =>
    rw [saved_of_target_error h]
    exact .refused h
  | ok place =>
    have hfree := not_directory_of_target h
    obtain ⟨executable, hwritten⟩ := exists_written_eq t place (Utf8.encode code)
    have hput := node?_put (t := t) (ne_nil_of_not_directory hfree)
      (t.written place (Utf8.encode code))
    have hplace : (t.put place (t.written place (Utf8.encode code))).node? place =
        some (.file (Utf8.encode code) executable) := by
      rw [hput, if_pos rfl, hwritten]
    rw [saved_of_target_ok h]
    refine .saved h rfl (resolve_put hfree _ (resolve_of_target h)) hplace fun other hother => ?_
    rw [hput, if_neg hother]

theorem savedPlace?_eq (t : Tree) (p : Path) (code : String) :
    t.savedPlace? p code = (t.target p.withCExtension).toOption := by
  unfold savedPlace?
  cases h : t.target p.withCExtension with
  | error e =>
    rw [saved_of_target_error h]
    rfl
  | ok place =>
    rw [saved_of_target_ok h]
    dsimp only
    rw [resolve_of_target h]

/-- **A save changes one place.** -/
theorem node?_saved (t : Tree) (p : Path) (code : String) (place : Place) :
    (t.saved p code).2.node? place =
      if t.savedPlace? p code = some place then some (t.written place (Utf8.encode code))
      else t.node? place := by
  rw [savedPlace?_eq]
  cases h : t.target p.withCExtension with
  | error e =>
    rw [saved_of_target_error h]
    rfl
  | ok target =>
    rw [saved_of_target_ok h, node?_put (ne_nil_of_not_directory (not_directory_of_target h))]
    have htarget : (Except.ok target : Except HostError Place).toOption = some target := rfl
    by_cases heq : place = target
    · rw [if_pos heq, heq, htarget, if_pos rfl]
    · rw [if_neg heq, htarget, if_neg fun hsome => heq (Option.some.inj hsome).symm]

theorem written_of_node?_eq {t' : Tree} {content : Bytes}
    (h : t'.node? place = some (t.written place content)) (content' : Bytes) :
    t'.written place content' = t.written place content' := by
  unfold written at h ⊢
  rw [h]
  cases t.node? place with
  | none => rfl
  | some node => cases node <;> rfl

/-- What a save would leave at a place is the same after another save. -/
theorem written_saved (t : Tree) (p : Path) (code : String) (place : Place) (content : Bytes) :
    (t.saved p code).2.written place content = t.written place content := by
  have hnode := node?_saved t p code place
  split at hnode
  · exact written_of_node?_eq hnode content
  · rw [written, written, hnode]

theorem resolve_saved {path : Path} (h : t.resolve path = .ok place) (p : Path) (code : String) :
    (t.saved p code).2.resolve path = .ok place := by
  cases htarget : t.target p.withCExtension with
  | error e =>
    rw [saved_of_target_error htarget]
    exact h
  | ok target =>
    rw [saved_of_target_ok htarget]
    exact resolve_put (not_directory_of_target htarget) _ h

/-! ## Saves that follow each other -/

/-- **Any number of saves.** Of all that succeed at a place, only the last one counts. -/
theorem node?_afterSaves (t : Tree) (place : Place) (steps : List (Path × String)) :
    (t.afterSaves steps).node? place =
      match t.lastSaved? place steps with
      | some code => some (t.written place (Utf8.encode code))
      | none => t.node? place := by
  induction steps generalizing t with
  | nil => rfl
  | cons step steps ih =>
    obtain ⟨p, code⟩ := step
    rw [afterSaves, List.foldl_cons, ← afterSaves, ih, lastSaved?]
    cases (t.saved p code).2.lastSaved? place steps with
    | some last => exact congrArg some (written_saved t p code place _)
    | none =>
      dsimp only
      rw [node?_saved, Option.none_or]
      split <;> rfl

theorem resolve_afterSaves {path : Path} (h : t.resolve path = .ok place)
    (steps : List (Path × String)) : (t.afterSaves steps).resolve path = .ok place := by
  induction steps generalizing t with
  | nil => exact h
  | cons step steps ih => exact ih (resolve_saved h step.1 step.2)

theorem length_saveAll (t : Tree) (steps : List (Path × String)) :
    (t.saveAll steps).length = steps.length := by
  induction steps generalizing t with
  | nil => rfl
  | cons step steps ih =>
    rw [saveAll, List.length_cons, ih, List.length_cons]

theorem getElem?_saveAll (t : Tree) (steps : List (Path × String)) (n : Nat) :
    (t.saveAll steps)[n]? =
      steps[n]?.map fun step => (t.afterSaves (steps.take n)).saved step.1 step.2 := by
  induction steps generalizing t n with
  | nil => rfl
  | cons step steps ih =>
    cases n with
    | zero => rfl
    | succ n => exact ih _ n

theorem afterSaves_take_succ {n : Nat} (h : steps[n]? = some (p, code)) :
    t.afterSaves (steps.take (n + 1)) = ((t.afterSaves (steps.take n)).saved p code).2 := by
  rw [afterSaves, List.take_add_one, h, List.foldl_append]
  rfl

/-- **The last save wins.** -/
theorem saveAll_lastWins (t : Tree) (steps : List (Path × String)) : LastWins t steps where
  length_eq := length_saveAll t steps
  outcome n p code h := by
    refine ⟨(t.afterSaves (steps.take n)).saved p code, ?_, (afterSaves_take_succ h).symm,
      saveOutcome_saved _ p code⟩
    rw [getElem?_saveAll, h, Option.map_some]
  saved place code h := by
    obtain ⟨executable, hwritten⟩ := exists_written_eq t place (Utf8.encode code)
    exact ⟨executable, by rw [node?_afterSaves, h, ← hwritten]⟩
  unsaved place h := by rw [node?_afterSaves, h]
  resolve_eq path place h := resolve_afterSaves h steps
  extension p h code := by
    rw [saved, save, Path.withCExtension_append h, ← save, ← saved]

/-- All three paths name one file, but the last goes through a directory that is missing. -/
example : (⟨[], []⟩ : Tree).lastSaved? [Utf8.encode "a.c"]
    [(.ofText "a", "1"), (.ofText ".//a.c", "2"), (.ofText "b/../a", "3")] = some "2" := by
  decide +kernel

end TapeC.Tree
