import TapeC.Machine.Tape

/-!
# The jump machine

The machine that tape programs are written for: it does one character a step, at a program counter.
It reads the eight characters by itself, in `step`, and knows nothing of the compiler's
instructions:

* `>` and `<` move the index to the next cell and to the one before, which must be there;
* `+` and `-` change the cell in use by one, modulo 256;
* `.` writes the cell, and `,` reads a byte into it;
* `[` on a zero cell jumps past its closing bracket, and `]` on any other cell jumps back to the
  place after its opening one.

Any other character is passed over. The machine halts where the program ends.
-/

namespace TapeC

structure JumpState where
  counter : Nat
  config : Config

namespace JumpMachine

/-! ## Where jumps lead -/

/-- The place after the bracket that closes what is open, `depth` pairs further in, among the
characters from place `i` on. -/
def placeAfterClosing? (depth i : Nat) : List Char → Option Nat
  | [] => none
  | '[' :: cs => placeAfterClosing? (depth + 1) (i + 1) cs
  | ']' :: cs =>
    match depth with
    | 0 => some (i + 1)
    | d + 1 => placeAfterClosing? d (i + 1) cs
  | _ :: cs => placeAfterClosing? depth (i + 1) cs

/-- The place after the bracket that opens what is closed, `depth` pairs further in, among the
characters before place `i`, the last one first. -/
def placeAfterOpening? (depth i : Nat) : List Char → Option Nat
  | [] => none
  | ']' :: cs => placeAfterOpening? (depth + 1) (i - 1) cs
  | '[' :: cs =>
    match depth with
    | 0 => some i
    | d + 1 => placeAfterOpening? d (i - 1) cs
  | _ :: cs => placeAfterOpening? depth (i - 1) cs

/-! ## Steps -/

variable (e : Extent) (program : List Char)

/-- Moves the index to a cell, if it is there, and the counter to a place. -/
def moveTo (c : Config) (index : Int) (place : Nat) : StepResult JumpState :=
  if e.holds index then .next none ⟨place, { c with index := index }⟩ else .fault

/-- Goes to the place that a jump leads to. A bracket that belongs to nothing leads nowhere. -/
def jump (c : Config) : Option Nat → StepResult JumpState
  | some place => .next none ⟨place, c⟩
  | none => .fault

def step (s : JumpState) : StepResult JumpState :=
  let c := s.config
  let i := s.counter
  match program[i]? with
  | none => .halted
  | some '>' => moveTo e c (c.index + 1) (i + 1)
  | some '<' => moveTo e c (c.index - 1) (i + 1)
  | some '+' => .next none ⟨i + 1, c.setCell (c.cell + 1)⟩
  | some '-' => .next none ⟨i + 1, c.setCell (c.cell - 1)⟩
  | some '.' => .next (some (.wrote c.cell)) ⟨i + 1, c⟩
  | some ',' => .next (some (.got c.readByte.1)) ⟨i + 1, c.readByte.2⟩
  | some '[' =>
    if c.cell = 0 then jump c (placeAfterClosing? 0 (i + 1) (program.drop (i + 1)))
    else .next none ⟨i + 1, c⟩
  | some ']' =>
    if c.cell = 0 then .next none ⟨i + 1, c⟩
    else jump c (placeAfterOpening? 0 i (program.take i).reverse)
  | some _ => .next none ⟨i + 1, c⟩

/-- The machine that runs a program on a tape. -/
def machine : Machine JumpState := ⟨step e program⟩

/-- The machine before its first step. -/
def start (c : Config) : JumpState := ⟨0, c⟩

end JumpMachine

end TapeC
