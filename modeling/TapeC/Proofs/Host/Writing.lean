import Mathlib.Tactic.SplitIfs
import TapeC.Host.Tree

/-!
# What a write changes

**Theorem (`Tree.replaces_of_write`).** After a write, what its path leads to is a file with what
was written and nothing of what was there before, and every other place of the tree holds what it
held. (A write that fails gives no tree at all.)

A write puts a file where no directory is. So directories stay what they are, and a path that led
somewhere still leads there (`resolve_put`), the path of the write among them.
-/

namespace TapeC.Tree

/-- The second tree is the first one but for the file that a path leads to, whose whole content is
given. -/
structure Replaces (t t' : Tree) (p : Path) (content : Bytes) : Prop where
  base_eq : t'.base = t.base
  read_eq : t'.read p = .ok content
  node?_eq : ∀ place, t.resolve p ≠ .ok place → t'.node? place = t.node? place

variable {t t' : Tree} {p : Path} {place : Place} {content : Bytes}

/-! ## The place of a write -/

theorem resolve_of_target (h : t.target p = .ok place) : t.resolve p = .ok place := by
  cases hr : t.resolve p with
  | error e => simp [target, hr, bind, Except.bind] at h
  | ok q =>
    simp only [target, hr, bind, Except.bind] at h
    split at h
    · cases h
    · exact h

theorem not_directory_of_target (h : t.target p = .ok place) :
    t.node? place ≠ some .directory := by
  have hr := resolve_of_target h
  intro hd
  simp [target, hr, hd, bind, Except.bind] at h

theorem ne_nil_of_not_directory (h : t.node? place ≠ some .directory) : place ≠ [] := by
  rintro rfl
  exact h rfl

theorem exists_put_of_write (h : t.write p content = .ok t') :
    ∃ place, t.target p = .ok place ∧ t' = t.put place (t.written place content) := by
  cases htarget : t.target p with
  | error e => simp [write, htarget, bind, Except.bind] at h
  | ok place =>
    simp only [write, htarget, bind, Except.bind, Except.ok.injEq] at h
    exact ⟨place, rfl, h.symm⟩

/-- What a write leaves is a file, whatever was there. -/
theorem exists_written_eq (t : Tree) (place : Place) (content : Bytes) :
    ∃ executable, t.written place content = .file content executable := by
  unfold written
  split
  · exact ⟨_, rfl⟩
  · exact ⟨_, rfl⟩

/-! ## Paths after a write -/

/-- A name that led somewhere led there from a directory, which is none of the places that a write
changes. -/
theorem enter_put (h : t.node? place ≠ some .directory) (node : Node) {start q : Place}
    {name : Bytes} (he : t.enter start name = .ok q) :
    (t.put place node).enter start name = .ok q := by
  -- `start` holds a directory, or else the name would have led nowhere.
  have hstart : start ≠ place := by
    rintro rfl
    rw [enter] at he
    split at he
    · cases he
    · rename_i hd
      exact h hd
    · cases he
  rw [enter, node?_put (ne_nil_of_not_directory h), if_neg hstart]
  exact he

theorem foldlM_enter_put (h : t.node? place ≠ some .directory) (node : Node) {names : List Bytes}
    {start q : Place} (hf : names.foldlM t.enter start = .ok q) :
    names.foldlM (t.put place node).enter start = .ok q := by
  induction names generalizing start with
  | nil => exact hf
  | cons name names ih =>
    rw [List.foldlM_cons] at hf ⊢
    cases he : t.enter start name with
    | error e =>
      rw [he] at hf
      cases hf
    | ok next =>
      rw [he] at hf
      rw [enter_put h node he]
      exact ih hf

theorem resolve_put (h : t.node? place ≠ some .directory) (node : Node) {q : Place}
    (hr : t.resolve p = .ok q) : (t.put place node).resolve p = .ok q := by
  unfold resolve at hr ⊢
  split_ifs at hr ⊢ with hzero hlong hempty habsolute
  · exact foldlM_enter_put h node hr
  · exact foldlM_enter_put h node hr

/-- **A write changes one file, as a whole.** -/
theorem replaces_of_write (h : t.write p content = .ok t') : Replaces t t' p content := by
  obtain ⟨place, htarget, rfl⟩ := exists_put_of_write h
  have hresolve := resolve_of_target htarget
  have hfree := not_directory_of_target htarget
  obtain ⟨executable, hwritten⟩ := exists_written_eq t place content
  refine ⟨rfl, ?_, fun other hother => ?_⟩
  · simp only [read, resolve_put hfree _ hresolve, bind, Except.bind,
      node?_put (ne_nil_of_not_directory hfree), if_pos, hwritten]
  · rw [node?_put (ne_nil_of_not_directory hfree), if_neg]
    rintro rfl
    exact hother hresolve

end TapeC.Tree
