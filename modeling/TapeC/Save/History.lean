import TapeC.Save

/-!
# What saves leave

Two ways to say what saves that follow each other leave of a tree. `afterSaves` carries them out.
`lastSaved?` looks at one place, and asks which of them is the last to write a file there: the
others do not matter to it.
-/

namespace TapeC.Tree

/-- The tree after saves that follow each other. -/
def afterSaves (t : Tree) (steps : List (Path × String)) : Tree :=
  steps.foldl (fun t step => (t.saved step.1 step.2).2) t

/-- The place of the file that a save writes. There is none if the save fails. -/
def savedPlace? (t : Tree) (p : Path) (code : String) : Option Place :=
  match (t.saved p code).1 with
  | .ok path => (t.resolve path).toOption
  | .error _ => none

/-- The code of the last save that writes the file at a place, if one of them does. -/
def lastSaved? (t : Tree) (place : Place) : List (Path × String) → Option String
  | [] => none
  | (p, code) :: steps =>
    ((t.saved p code).2.lastSaved? place steps).or
      (if t.savedPlace? p code = some place then some code else none)

/-- What a save comes to, and the tree after it. -/
inductive SaveOutcome (t : Tree) (p : Path) (code : String) :
    Except HostError Path × Tree → Prop where
  /-- The path with the extension leads to a file or to a free place. The file at the place is
  replaced, or made, and holds the code and nothing else. -/
  | saved {place : Place} {executable : Bool} {t' : Tree}
      (target_eq : t.target p.withCExtension = .ok place)
      (base_eq : t'.base = t.base)
      (resolve_eq : t'.resolve p.withCExtension = .ok place)
      (node?_eq : t'.node? place = some (.file (Utf8.encode code) executable))
      (node?_other : ∀ other, other ≠ place → t'.node? other = t.node? other) :
      SaveOutcome t p code (.ok p.withCExtension, t')
  /-- The path with the extension cannot be written to. -/
  | refused {e : HostError} (target_eq : t.target p.withCExtension = .error e) :
      SaveOutcome t p code (.error e, t)

/-- Of saves that follow each other, the last one at a place wins. -/
structure LastWins (t : Tree) (steps : List (Path × String)) : Prop where
  length_eq : (t.saveAll steps).length = steps.length
  /-- A save finds the tree that the saves before it have left. -/
  outcome : ∀ n p code, steps[n]? = some (p, code) →
    ∃ o, (t.saveAll steps)[n]? = some o ∧ o.2 = t.afterSaves (steps.take (n + 1)) ∧
      SaveOutcome (t.afterSaves (steps.take n)) p code o
  /-- What is read in the end is what was saved last, -/
  saved : ∀ place code, t.lastSaved? place steps = some code →
    ∃ executable, (t.afterSaves steps).node? place = some (.file (Utf8.encode code) executable)
  /-- or what there was, if nothing was saved. -/
  unsaved : ∀ place, t.lastSaved? place steps = none →
    (t.afterSaves steps).node? place = t.node? place
  /-- No save changes where a path leads. -/
  resolve_eq : ∀ path place, t.resolve path = .ok place →
    (t.afterSaves steps).resolve path = .ok place
  /-- Paths with and without the extension are the same to a save. -/
  extension : ∀ p : Path, ¬Utf8.encode Path.cExtension <:+ p.bytes → ∀ code,
    t.saved ⟨p.bytes ++ Utf8.encode Path.cExtension⟩ code = t.saved p code

end TapeC.Tree
