/-!
# Text for terminals

Text for a terminal is mixed with escape sequences: a terminal obeys them and shows only what is
between them. `styled` writes the sequences that switch styles on and off again, and `strip` takes
all sequences and controls out of a text, for a reader that is no terminal.

A sequence that is broken into by a blank, such as a line feed, does not end there. The blank and
what follows it are shown up to the next control, and there the sequence goes on.
-/

namespace TapeC.Terminal

/-! ## Styles -/

inductive Style where
  | bold
  | underlined
  | red
  | green
  | yellow
  | blue
deriving DecidableEq

/-- The number that terminals know a style by. -/
def Style.number : Style → Nat
  | .bold => 1
  | .underlined => 4
  | .red => 31
  | .green => 32
  | .yellow => 33
  | .blue => 34

/-- The sequence that sets the style with a number. Number zero is no style at all. -/
def setting (number : Nat) : String := "\x1b[" ++ toString number ++ "m"

/-- A text in styles. -/
def styled (styles : List Style) (text : String) : String :=
  String.join (styles.map fun s => setting s.number) ++ text ++ setting 0

/-! ## Sequences -/

/-- A place inside an escape sequence. -/
inductive Sequence where
  /-- right after the escape character -/
  | start
  | intermediate
  /-- a control sequence, such as one that sets a style -/
  | control
  /-- the first character of a device control -/
  | deviceStart
  | deviceParameters
  | deviceIntermediates
  /-- a text for the device, which goes on up to a string terminator -/
  | string
  /-- a command to the system, which goes on up to a bell -/
  | command
deriving DecidableEq

/-- A character with a code point from `low` to `high`. -/
def isFrom (low high : Nat) (c : Char) : Bool := low ≤ c.toNat && c.toNat ≤ high

def bell : Char := '\x07'

/-- The octet that ends a string. It does so inside of a character too. -/
def stringTerminator : UInt8 := 0x9C

/-- Goes on with a sequence; `none` if the character is its last one. -/
def Sequence.next (s : Sequence) (c : Char) : Option Sequence :=
  match s with
  | .start =>
    if isFrom 0x20 0x2F c then some .intermediate
    else if c = '[' then some .control
    else if c = ']' then some .command
    else if c = 'P' then some .deviceStart
    else if c = 'X' || c = '^' || c = '_' then some .string
    else if isFrom 0x30 0x7E c then none
    else some .start
  | .intermediate => if isFrom 0x30 0x7E c then none else some .intermediate
  | .control => if isFrom 0x40 0x7E c then none else some .control
  | .deviceStart =>
    if isFrom 0x20 0x2F c then some .deviceIntermediates
    else if isFrom 0x30 0x3F c then some .deviceParameters
    else if isFrom 0x40 0x7E c then some .string
    else some .deviceStart
  | .deviceParameters =>
    if isFrom 0x20 0x2F c then some .deviceIntermediates
    else if isFrom 0x3C 0x7E c then some .string
    else some .deviceParameters
  | .deviceIntermediates =>
    if isFrom 0x30 0x7E c then some .string else some .deviceIntermediates
  | .string => if stringTerminator ∈ String.utf8EncodeChar c then none else some .string
  | .command => if c = bell then none else some .command

/-- Whether blanks break into a sequence. They are part of the others. -/
def Sequence.isBroken : Sequence → Bool
  | .start | .intermediate | .control => true
  | _ => false

/-! ## Stripping -/

/-- A reader of a text for terminals. -/
inductive State where
  | text
  | inside (s : Sequence)
  /-- after a blank that broke into a sequence -/
  | broken (s : Sequence)
deriving DecidableEq

def escape : Char := '\x1b'

/-- A character that ends any sequence without effect. -/
def isCancel (c : Char) : Bool := c = '\x18' || c = '\x1a'

/-- A control that is shown, as the blank that it is. -/
def isBlankControl (c : Char) : Bool := c = '\t' || c = '\n' || c = '\x0c' || c = '\r'

/-- A character that is shown outside of sequences. -/
def isShown (c : Char) : Bool := isBlankControl c || (0x20 ≤ c.toNat && c.toNat ≠ 0x7F)

/-- Reads one character: the state after it, and whether it is shown. -/
def State.step (st : State) (c : Char) : State × Bool :=
  if c = escape then (.inside .start, false)
  else if isCancel c then (.text, false)
  else
    match st with
    | .text => (.text, isShown c)
    | .inside s =>
      if isBlankControl c && s.isBroken then (.broken s, true)
      else ((s.next c).elim .text .inside, false)
    | .broken s =>
      if 0x7F < c.toNat then (.text, true)
      else if isShown c then (.broken s, true)
      else (.inside s, false)

/-- The characters that are shown, after those of `done`, which stand in reverse. -/
def shownOnto (done : List Char) (st : State) : List Char → List Char
  | [] => done.reverse
  | c :: cs => shownOnto (if (st.step c).2 then c :: done else done) (st.step c).1 cs

/-- The characters that are shown of a text that is read from state `st`. -/
def shown (st : State) (cs : List Char) : List Char := shownOnto [] st cs

theorem shownOnto_eq (done : List Char) (st : State) (cs : List Char) :
    shownOnto done st cs = done.reverse ++ shown st cs := by
  induction cs generalizing done st with
  | nil => simp [shown, shownOnto]
  | cons c cs ih =>
    rw [shown, shownOnto, shownOnto, ih, ih]
    split <;> simp

@[simp] theorem shown_nil (st : State) : shown st [] = [] := rfl

theorem shown_cons (st : State) (c : Char) (cs : List Char) :
    shown st (c :: cs) =
      if (st.step c).2 then c :: shown (st.step c).1 cs else shown (st.step c).1 cs := by
  rw [shown, shownOnto, shownOnto_eq]
  split <;> rfl

/-- The text without its sequences and controls. -/
def strip (s : String) : String := String.ofList (shown .text s.toList)

/-- A character that is shown outside of sequences does not start one. -/
theorem step_text {c : Char} (h : isShown c) : State.step .text c = (.text, true) := by
  have he : c ≠ escape := by rintro rfl; exact absurd h (by decide)
  have hx : ¬isCancel c := by
    intro hx
    rcases (by simpa [isCancel] using hx : c = '\x18' ∨ c = '\x1a') with rfl | rfl
    · exact absurd h (by decide)
    · exact absurd h (by decide)
  simp [State.step, he, hx, h]

/-- A text of such characters stays as it is. -/
theorem shown_eq_self {cs : List Char} (h : ∀ c ∈ cs, isShown c) : shown .text cs = cs := by
  induction cs with
  | nil => rfl
  | cons c cs ih =>
    obtain ⟨hc, hcs⟩ := List.forall_mem_cons.1 h
    rw [shown_cons, step_text hc, ih hcs]
    rfl

end TapeC.Terminal
