import TapeC.Host.Utility.Session

/-!
# Joining files

`cat` copies files to its output, one after the other. It can number the lines, join empty lines
that follow each other, and show what cannot be seen.
-/

namespace TapeC.Cat

/-- What is done to the bytes. -/
structure Style where
  numbers : Bool
  /-- empty lines have no number -/
  skipsEmpty : Bool
  squeezes : Bool
  showsEnds : Bool
  showsTabs : Bool
  showsOthers : Bool

namespace Style

def plain : Style := ⟨false, false, false, false, false, false⟩

/-- The style with one more option. -/
def choose (s : Style) : Char → Style
  | 'b' => { s with numbers := true, skipsEmpty := true }
  | 'e' => { s with showsEnds := true, showsOthers := true }
  | 'n' => { s with numbers := true }
  | 's' => { s with squeezes := true }
  | 't' => { s with showsTabs := true, showsOthers := true }
  | 'v' => { s with showsOthers := true }
  | 'A' => { s with showsEnds := true, showsTabs := true, showsOthers := true }
  | 'E' => { s with showsEnds := true }
  | 'T' => { s with showsTabs := true }
  | _ => s

end Style

/-- Where the copying is: whether it is in a line, how many line ends it has just passed if not,
how many lines have a number, and whether a carriage return still has to be written. -/
structure State where
  inLine : Bool
  ends : Nat
  line : Nat
  pendingReturn : Bool

def State.start : State := ⟨false, 0, 0, false⟩

/-- A byte below 128, with control characters as letters after a caret. -/
def visible (n : Nat) : Bytes :=
  if n < 32 then [0x5E, (n + 64).toUInt8]
  else if n = 127 then [0x5E, 0x3F]
  else [n.toUInt8]

/-- A byte of a line as it is shown. -/
def display (s : Style) (b : UInt8) : Bytes :=
  if b = 0x09 then if s.showsTabs then [0x5E, 0x49] else [b]
  else if s.showsOthers then
    if b < 128 then visible b.toNat else [0x4D, 0x2D] ++ visible (b.toNat - 128)
  else [b]

/-- The number of a line, in its column. -/
def numberColumn (n : Nat) : Bytes :=
  let digits := Nat.toDigits 10 n
  Octets.ofChars (List.replicate (6 - digits.length) ' ' ++ digits ++ ['\t'])

/-- Copies the end of a line. -/
def copyEnd (s : Style) (st : State) : Bytes × State :=
  let ends := if st.inLine then 0 else min 2 (st.ends + 1)
  let next : State := { st with inLine := false, ends }
  if ends = 2 && s.squeezes then ([], next)
  else
    let numbered := ends > 0 && s.numbers && !s.skipsEmpty
    let line := if numbered then st.line + 1 else st.line
    let number := if numbered then numberColumn line else []
    let pending := if st.pendingReturn then [0x5E, 0x4D] else []
    let dollar := if s.showsEnds then pending ++ [0x24] else []
    (number ++ dollar ++ [0x0A], { next with line, pendingReturn := false })

/-- Copies one byte. -/
def copy (s : Style) (st : State) (b : UInt8) : Bytes × State :=
  if b = 0x0A then copyEnd s st
  else
    let pending := if st.pendingReturn then [0x0D] else []
    let numbered := !st.inLine && s.numbers
    let line := if numbered then st.line + 1 else st.line
    let number := if numbered then numberColumn line else []
    let waits := b = 0x0D && s.showsEnds && !s.showsOthers
    (pending ++ number ++ if waits then [] else display s b, ⟨true, 0, line, waits⟩)

/-- Copies bytes. -/
def copyAll (s : Style) (st : State) (bs : Bytes) : Bytes × State :=
  if !(s.numbers || s.squeezes || s.showsEnds || s.showsTabs || s.showsOthers) then (bs, st)
  else
    let (out, st) := bs.foldl (fun (out, st) b =>
      let (text, st) := copy s st b
      (text :: out, st)) ([], st)
    (out.reverse.flatten, st)

def options : OptionTable where
  letters := "benstuvAET".toList.map fun c => (c, .absent)
  words := [("number-nonblank", .absent, 'b'), ("number", .absent, 'n'),
    ("squeeze-blank", .absent, 's'), ("show-nonprinting", .absent, 'v'),
    ("show-ends", .absent, 'E'), ("show-tabs", .absent, 'T'), ("show-all", .absent, 'A'),
    ("help", .absent, 'h'), ("version", .absent, 'V')]
  mixes := true

/-- The input is a file that the output goes to, and the output would be read as input. -/
def feedsItself (k : Kernel) (input output : Nat) : Bool :=
  match k.files[input]?, k.files[output]? with
  | some ⟨.file p, _, _, _, read⟩, some ⟨.file q, _, _, appends, written⟩ =>
    p = q && read < if appends then (k.fileContent q).length else written
  | _, _ => false

/-- Copies from an open file, in parts of some sizes: where the copying is. -/
def copyParts (s : Style) (file : Nat) : List Nat → State → Running (Except HostError State)
  | [], st => return .ok st
  | n :: ns, st => do
    match ← Running.withKernel (·.read file n) with
    | .error e => return .error e
    | .ok bs =>
      let (out, st) := copyAll s st bs
      Running.put out
      copyParts s file ns st

/-- Copies a file: the exit code, and where the copying is. -/
def copyFile (s : Style) (code : Nat) (st : State) (name : List Char) : Running (Nat × State) := do
  let isInput := name = ['-']
  let opened ← if isInput then Except.ok <$> Running.fileOf Descriptor.input
    else Running.openFile name
  let fail (e : HostError) : Running (Nat × State) := do
    Running.complain (Quote.beforeColon name ++ ": ".toList ++ e.reason.toList)
    return (1, st)
  match opened with
  | .error e => fail e
  | .ok file =>
    if feedsItself (← Running.kernel) file (← Running.fileOf Descriptor.output) then
      Running.complain (Quote.beforeColon name ++ ": input file is output file".toList)
      return (1, st)
    let sizes := Kernel.partSizes ((← Running.kernel).remaining file)
    match ← copyParts s file sizes st with
    | .error e => fail e
    | .ok st => return (code, st)

def copyFiles (s : Style) (code : Nat) (st : State) : List (List Char) → Running (Nat × State)
  | [] => return (code, st)
  | name :: names => do
    let (code, st) ← copyFile s code st name
    copyFiles s code st names

def run : Running Nat := do
  let chosen := options.read (← Running.arguments)
  match chosen.fault with
  | some fault => Running.refuse fault
  | none =>
    if chosen.choices.any fun c => c.option = 'h' || c.option = 'V' then return 0
    let process ← read
    if (process.descriptors.lookup Descriptor.output).isNone then
      Running.complain ("standard output: " ++ HostError.badDescriptor.reason).toList
      return 1
    let style := chosen.choices.foldl (fun s c => s.choose c.option) .plain
    let names := if chosen.operands.isEmpty then [['-']] else chosen.operands
    let (code, st) ← copyFiles style 0 .start names
    if st.pendingReturn then Running.put [0x0D]
    if names.contains ['-'] && (process.descriptors.lookup Descriptor.input).isNone then
      Running.complain ("closing standard input: " ++ HostError.badDescriptor.reason).toList
      return 1
    return code

end TapeC.Cat
