import TapeC.Host.Script.Runner

/-!
# Option letters

Commands that are built into the shell take options that are letters after a dash. They may be
joined, and come before all operands; a lone `--` ends them.
-/

namespace TapeC.Script

/-- A command that is built in: its name, its arguments, and the manner in which it is run. -/
abbrev BuiltinRun := Runner → List Char → List (List Char) → Manner → Work Nat

/-- The option letters at the beginning of arguments, with their values, and the operands. -/
structure Letters where
  chosen : List (Char × List Char)
  operands : List (List Char)

namespace Letters

/-- The option with the letter was given. -/
def has (l : Letters) (letter : Char) : Bool := l.chosen.any (·.1 = letter)

/-- Reads the letters of one argument. `allowed` tells for each letter whether it has a value. -/
def readOne (allowed : List (Char × Bool)) (rest : List (List Char))
    (done : List (Char × List Char)) :
    List Char → Work (List (Char × List Char) × List (List Char))
  | [] => return (done, rest)
  | c :: cs => do
    match allowed.lookup c, cs, rest with
    | none, _, _ => Work.fail ("Illegal option -".toList ++ [c])
    | some false, cs, rest => readOne allowed rest ((c, []) :: done) cs
    | some true, [], [] => Work.fail ("No arg for -".toList ++ c :: " option".toList)
    | some true, [], value :: rest => return ((c, value) :: done, rest)
    | some true, cs, rest => return ((c, cs) :: done, rest)

/-- Reads the letters of no more than `n` arguments. -/
def readUpTo (allowed : List (Char × Bool)) :
    Nat → List (Char × List Char) → List (List Char) → Work Letters
  | 0, done, args => return ⟨done.reverse, args⟩
  | n + 1, done, args => do
    match args with
    | ['-', '-'] :: rest => return ⟨done.reverse, rest⟩
    | ('-' :: c :: cs) :: rest =>
      let (done, rest) ← readOne allowed rest done (c :: cs)
      readUpTo allowed n done rest
    | args => return ⟨done.reverse, args⟩

/-- Reads the letters at the beginning of arguments. -/
def read (allowed : List (Char × Bool)) (args : List (List Char)) : Work Letters :=
  readUpTo allowed (args.length + 1) [] args

/-- The operands of a command that has no options. -/
def none (args : List (List Char)) : Work (List (List Char)) := do
  return (← read [] args).operands

end Letters

end TapeC.Script
