/-!
# UTF-8

Byte texts are read as pieces: the scalar values that are well encoded, and between them the
malformed stretches. A malformed stretch is a *maximal subpart*: the bytes of a sequence up to the
first one that cannot continue it, or a single byte that cannot begin one. The byte that breaks a
sequence is looked at again, as the possible start of the next piece.

A strict reading fails with the first malformed stretch; a lossy reading puts U+FFFD in place of
each.
-/

namespace TapeC

abbrev Bytes := List UInt8

namespace Utf8

/-- A sequence that has begun: how many of its bytes were read, the bits they gave, how many bytes
are owed, and the range that the next of them has to lie in. -/
structure Partial where
  seen : Nat
  bits : Nat
  owed : Nat
  low : UInt8
  high : UInt8
deriving DecidableEq

inductive Piece where
  /-- a scalar value -/
  | scalar (c : Char)
  /-- malformed bytes, broken off by another byte -/
  | malformed (size : Nat)
  /-- a sequence that the text ends in the middle of -/
  | cut (size : Nat)
deriving DecidableEq

/-- The state between two bytes: inside a sequence, or between two of them. -/
abbrev State := Option Partial

/-- Reads a byte between two sequences. -/
def start (b : UInt8) : List Piece × State :=
  if b < 0x80 then ([.scalar (Char.ofNat b.toNat)], none)
  else if b < 0xC2 then ([.malformed 1], none)
  else if b < 0xE0 then ([], some ⟨1, b.toNat - 0xC0, 1, 0x80, 0xBF⟩)
  else if b = 0xE0 then ([], some ⟨1, 0, 2, 0xA0, 0xBF⟩)
  else if b = 0xED then ([], some ⟨1, 0xD, 2, 0x80, 0x9F⟩)
  else if b < 0xF0 then ([], some ⟨1, b.toNat - 0xE0, 2, 0x80, 0xBF⟩)
  else if b = 0xF0 then ([], some ⟨1, 0, 3, 0x90, 0xBF⟩)
  else if b < 0xF4 then ([], some ⟨1, b.toNat - 0xF0, 3, 0x80, 0xBF⟩)
  else if b = 0xF4 then ([], some ⟨1, 4, 3, 0x80, 0x8F⟩)
  else ([.malformed 1], none)

/-- Reads a byte: the pieces that it completes, and the state after it. -/
def feed (s : State) (b : UInt8) : List Piece × State :=
  match s with
  | none => start b
  | some p =>
    if p.low ≤ b && b ≤ p.high then
      let bits := p.bits * 64 + (b.toNat - 0x80)
      if p.owed ≤ 1 then ([.scalar (Char.ofNat bits)], none)
      else ([], some ⟨p.seen + 1, bits, p.owed - 1, 0x80, 0xBF⟩)
    else
      let (ps, s') := start b
      (.malformed p.seen :: ps, s')

/-- The piece that is left at the end of the text. -/
def finish : State → List Piece
  | none => []
  | some p => [.cut p.seen]

/-- The pieces of a text that is read from state `s`, after those of `done`, which stand in
reverse. -/
def piecesOnto (done : List Piece) (s : State) : Bytes → List Piece
  | [] => (finish s ++ done).reverse
  | b :: bs => piecesOnto ((feed s b).1.reverse ++ done) (feed s b).2 bs

/-- The pieces of a text that is read from state `s`. -/
def piecesFrom (s : State) (bs : Bytes) : List Piece := piecesOnto [] s bs

/-- The pieces of a text. -/
def pieces (bs : Bytes) : List Piece := piecesFrom none bs

theorem piecesOnto_eq (done : List Piece) (s : State) (bs : Bytes) :
    piecesOnto done s bs = done.reverse ++ piecesFrom s bs := by
  induction bs generalizing done s with
  | nil => cases s <;> simp [piecesFrom, piecesOnto, finish]
  | cons b bs ih =>
    rw [piecesFrom, piecesOnto, piecesOnto, ih, ih]
    simp

@[simp] theorem piecesFrom_nil (s : State) : piecesFrom s [] = finish s := by
  cases s <;> rfl

theorem piecesFrom_cons (s : State) (b : UInt8) (bs : Bytes) :
    piecesFrom s (b :: bs) = (feed s b).1 ++ piecesFrom (feed s b).2 bs := by
  rw [piecesFrom, piecesOnto, piecesOnto_eq]
  simp

/-! ## Readings -/

/-- The character that stands for a piece in a lossy reading. -/
def Piece.toChar : Piece → Char
  | .scalar c => c
  | .malformed _ => '\uFFFD'
  | .cut _ => '\uFFFD'

/-- Reads every text, with U+FFFD for each malformed stretch. -/
def decodeLossy (bs : Bytes) : String := String.ofList ((pieces bs).map Piece.toChar)

/-- Why a text has no strict reading: the number of bytes before the first malformed stretch, and
its size, unless the text ends in the middle of a sequence there. -/
structure Fault where
  index : Nat
  size : Option Nat
deriving DecidableEq

def Fault.message (f : Fault) : String :=
  match f.size with
  | some n =>
    "invalid utf-8 sequence of " ++ toString n ++ " bytes from index " ++ toString f.index
  | none => "incomplete utf-8 byte sequence from index " ++ toString f.index

/-- The first fault among pieces that stand at a byte offset. -/
def firstFault (offset : Nat) : List Piece → Option Fault
  | [] => none
  | .scalar c :: ps => firstFault (offset + c.utf8Size) ps
  | .malformed n :: _ => some ⟨offset, some n⟩
  | .cut _ :: _ => some ⟨offset, none⟩

/-- Reads a text in which every byte belongs to a well encoded scalar value. -/
def decode (bs : Bytes) : Except Fault String :=
  match firstFault 0 (pieces bs) with
  | none => .ok (String.ofList ((pieces bs).map Piece.toChar))
  | some f => .error f

/-- The bytes of a text. -/
def encode (s : String) : Bytes := s.toList.flatMap String.utf8EncodeChar

/-- The text of bytes that are well encoded. -/
def decode? (bs : Bytes) : Option String := (decode bs).toOption

end Utf8

end TapeC
