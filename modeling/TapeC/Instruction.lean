/-!
# Instructions

A tape program is a sequence of eight instructions over a row of byte cells and a pointer to one
of them. Four of them, the *arithmetic* ones, can be repeated in one stroke: moving the pointer
by `n` cells and changing the cell by `n` are meaningful for every `n`. The other four read,
write, and open or close a loop, and have no such amount.

Each instruction is written as one character of the alphabet `><+-.,[]`; `ofChar?_eq_some_iff`
says that reading a character and writing an instruction are inverse to each other.
-/

namespace TapeC

/-- The instructions that an amount can be given to: pointer moves and cell changes. -/
inductive Arith where
  | right
  | left
  | inc
  | dec
deriving DecidableEq, Inhabited

/-- One instruction of a tape program. -/
inductive Instruction where
  | arith (a : Arith)
  | write
  | read
  | loopStart
  | loopEnd
deriving DecidableEq, Inhabited

namespace Arith

def all : List Arith := [.right, .left, .inc, .dec]

def toChar : Arith → Char
  | .right => '>'
  | .left => '<'
  | .inc => '+'
  | .dec => '-'

end Arith

namespace Instruction

/-- Every instruction, in the order of the alphabet. -/
def all : List Instruction :=
  Arith.all.map .arith ++ [.write, .read, .loopStart, .loopEnd]

/-- The character that stands for the instruction. -/
def toChar : Instruction → Char
  | .arith a => a.toChar
  | .write => '.'
  | .read => ','
  | .loopStart => '['
  | .loopEnd => ']'

/-- The eight characters that are instructions; all others are commentary. -/
def alphabet : String := String.ofList (all.map toChar)

/-- The instruction that a character stands for. -/
def ofChar? : Char → Option Instruction
  | '>' => some (.arith .right)
  | '<' => some (.arith .left)
  | '+' => some (.arith .inc)
  | '-' => some (.arith .dec)
  | '.' => some .write
  | ',' => some .read
  | '[' => some .loopStart
  | ']' => some .loopEnd
  | _ => none

def isArithmetic : Instruction → Bool
  | .arith _ => true
  | _ => false

@[simp] theorem ofChar?_toChar (i : Instruction) : ofChar? i.toChar = some i := by
  rcases i with (_ | _ | _ | _) | _ | _ | _ | _ <;> rfl

theorem ofChar?_eq_some_iff {c : Char} {i : Instruction} : ofChar? c = some i ↔ c = i.toChar := by
  constructor
  · intro h
    unfold ofChar? at h
    split at h <;> cases h <;> rfl
  · rintro rfl
    exact ofChar?_toChar i

theorem toChar_injective {i j : Instruction} (h : i.toChar = j.toChar) : i = j :=
  Option.some.inj (by rw [← ofChar?_toChar i, ← ofChar?_toChar j, h])

theorem toChar_inj {i j : Instruction} : i.toChar = j.toChar ↔ i = j :=
  ⟨toChar_injective, congrArg toChar⟩

end Instruction

/-- A character that stands for an instruction. -/
def isInstructionChar (c : Char) : Bool := (Instruction.ofChar? c).isSome

end TapeC
