import TapeC.Host.Tree

/-!
# Saving the generated program

The program is saved under its path with the extension `.c`, as a whole or not at all. A save that
fails leaves every file as it was, and says nothing about the saves after it.
-/

namespace TapeC

/-- Saves a program: the path that it was saved at, and the tree with it. -/
def Tree.save (t : Tree) (p : Path) (code : String) : Except HostError (Path × Tree) := do
  let t' ← t.write p.withCExtension (Utf8.encode code)
  .ok (p.withCExtension, t')

/-- The outcome of a save: the path or the reason of the failure, and the tree after it. -/
def Tree.saved (t : Tree) (p : Path) (code : String) : Except HostError Path × Tree :=
  match t.save p code with
  | .ok (path, t') => (.ok path, t')
  | .error e => (.error e, t)

/-- The outcomes of saves that follow each other. -/
def Tree.saveAll (t : Tree) : List (Path × String) → List (Except HostError Path × Tree)
  | [] => []
  | (p, code) :: steps => t.saved p code :: (t.saved p code).2.saveAll steps

end TapeC
