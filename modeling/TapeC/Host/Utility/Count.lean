import TapeC.Host.Utility.Session

/-!
# Counting

`wc` counts the lines, words, characters and bytes of files, and measures their longest line. The
counts stand in columns, which are as wide as the sizes of the files make it necessary.
-/

namespace TapeC.Count

/-- What is counted. -/
structure Counts where
  lines : Nat
  words : Nat
  bytes : Nat
  longest : Nat

namespace Counts

def zero : Counts := ⟨0, 0, 0, 0⟩

/-- The counts of several files: sums, and the longest of all lines. -/
def add (a b : Counts) : Counts :=
  ⟨a.lines + b.lines, a.words + b.words, a.bytes + b.bytes, max a.longest b.longest⟩

end Counts

/-- Counts on their way, with the column in the line and whether a word is being read. -/
structure State where
  counts : Counts
  column : Nat
  inWord : Bool

namespace State

def endWord (s : State) : State :=
  if s.inWord then
    { s with counts.words := s.counts.words + 1, inWord := false }
  else s

def endLine (s : State) : State :=
  { s with counts.longest := max s.counts.longest s.column, column := 0 }

def countLine (s : State) : State := { s with counts.lines := s.counts.lines + 1 }

/-- Counts one byte. What cannot be printed neither begins a word nor ends one. -/
def step (s : State) (b : UInt8) : State :=
  let s := { s with counts.bytes := s.counts.bytes + 1 }
  if b = 0x0A then s.countLine.endLine.endWord
  else if b = 0x0C || b = 0x0D then s.endLine.endWord
  else if b = 0x09 then { s with column := s.column + 8 - s.column % 8 }.endWord
  else if b = 0x20 then { s with column := s.column + 1 }.endWord
  else if b = 0x0B then s.endWord
  else if 0x20 < b && b < 0x7F then { s with column := s.column + 1, inWord := true }
  else s

end State

/-- The counts of a text. -/
def count (bs : Bytes) : Counts :=
  (bs.foldl State.step ⟨.zero, 0, false⟩).endLine.endWord.counts

def options : OptionTable where
  letters := "clLmw".toList.map fun c => (c, .absent)
  words := [("bytes", .absent, 'c'), ("chars", .absent, 'm'), ("lines", .absent, 'l'),
    ("words", .absent, 'w'), ("debug", .absent, 'd'), ("files0-from", .required, 'f'),
    ("max-line-length", .absent, 'L'), ("total", .required, 't'), ("help", .absent, 'h'),
    ("version", .absent, 'V')]
  mixes := true

/-- When the sums of all counts are given. -/
inductive Total where
  | ofSeveral
  | always
  | only
  | never
deriving DecidableEq

/-- The words for when sums are given. -/
def totalWords : List (String × Total) :=
  [("auto", .ofSeveral), ("always", .always), ("only", .only), ("never", .never)]

/-- Reads a word for when sums are given, which may be cut short. -/
def total? (word : List Char) : Except (List Char) Total :=
  let found := totalWords.filter fun w => word.isPrefixOf w.1.toList
  match totalWords.find? (·.1.toList = word), found with
  | some w, _ => .ok w.2
  | none, [w] => .ok w.2
  | none, ws =>
    .error ((if ws.isEmpty then "invalid" else "ambiguous").toList ++ " argument ".toList
      ++ Quote.cited word ++ " for '--total'".toList)

/-- The counts that are asked for, in the order in which they are given. -/
def asked (letters : List Char) (c : Counts) : List Nat :=
  [('l', c.lines), ('w', c.words), ('m', c.bytes), ('c', c.bytes), ('L', c.longest)].filterMap
    fun (letter, n) => if letters.contains letter then some n else none

/-- Counts in columns, with a name if there is one. -/
def line (width : Nat) (numbers : List Nat) (name : Option (List Char)) : List Char :=
  let column (n : Nat) : List Char :=
    let digits := Nat.toDigits 10 n
    List.replicate (width - digits.length) ' ' ++ digits
  let shown := match name with
    | none => []
    | some name => ' ' :: if name.contains '\n' then Quote.ifNeeded name else name
  [' '].intercalate (numbers.map column) ++ shown ++ ['\n']

/-- The file that a name stands for: its open file, if it can be opened. -/
def openNamed (name : Option (List Char)) : Running (Except HostError Nat) := do
  match name with
  | none | some ['-'] => return .ok (← Running.fileOf Descriptor.input)
  | some name => Running.openFile name

/-- The size of a file of the tree; `none` stands for what has no size, and an error for what is
not there. -/
def size (name : Option (List Char)) : Running (Except HostError (Option Nat)) := do
  let before ← Running.kernel
  match ← openNamed name with
  | .error e => return .error e
  | .ok file =>
    let known := file < (← Running.kernel).files.size
    let size := (← Running.kernel).fileSize? file
    modify fun s => { s with kernel := before }
    return if known then .ok size else .error .badDescriptor

/-- The width of the columns for files of these sizes. A file without a size may become long. -/
def width (sizes : List (Except HostError (Option Nat))) : Nat :=
  let known := sizes.filterMap fun s => s.toOption
  let sum := (known.filterMap id).foldl (· + ·) 0
  max (Nat.toDigits 10 sum).length (if known.contains none then 7 else 1)

/-- Counts a file and gives its counts: the exit code, and the counts. -/
def countFile (letters : List Char) (width : Nat) (shows : Bool) (name : Option (List Char)) :
    Running (Nat × Counts) := do
  let complain (e : HostError) : Running Unit := do
    Running.complain
      (Quote.beforeColon (name.getD "standard input".toList) ++ ": ".toList ++ e.reason.toList)
  match ← openNamed name with
  | .error e =>
    complain e
    return (1, .zero)
  | .ok file =>
    let (code, bs) ← do
      match ← Running.withKernel (·.readAll file) with
      | .ok bs => pure (0, bs)
      | .error e =>
        complain e
        pure (1, [])
    let counts := count bs
    if shows then Running.putText (line width (asked letters counts) name)
    return (code, counts)

def countFiles (letters : List Char) (width : Nat) (shows : Bool) (code : Nat) (sum : Counts) :
    List (Option (List Char)) → Running (Nat × Counts)
  | [] => return (code, sum)
  | name :: names => do
    let (result, counts) ← countFile letters width shows name
    countFiles letters width shows (max code result) (sum.add counts) names

def run : Running Nat := do
  let chosen := options.read (← Running.arguments)
  let total := chosen.choices.foldlM (fun t c =>
    if c.option = 't' then total? (c.value.getD []) else .ok t) Total.ofSeveral
  match total, chosen.fault with
  | .error fault, _ =>
    Running.complain fault
    Running.tell ("Valid arguments are:".toList
      ++ (totalWords.map fun w => "\n  - '".toList ++ w.1.toList ++ ['\'']).flatten)
    Running.tell ("Try '".toList ++ Octets.toChars (← read).name
      ++ " --help' for more information.".toList)
    return 1
  | .ok _, some fault => Running.refuse fault
  | .ok total, none =>
    let asked := chosen.choices.map (·.option)
    if asked.any fun c => c = 'h' || c = 'V' then return 0
    let letters := asked.filter fun c => "clLmw".toList.contains c
    let letters := if letters.isEmpty then ['l', 'w', 'c'] else letters
    let names := if chosen.operands.isEmpty then [none] else chosen.operands.map some
    let columns := ("lwmcL".toList.filter (letters.contains ·)).length
    let width ← if names.length = 1 && columns = 1 then pure 1
      else do pure (width (← names.mapM size))
    let width := if total = .only then 1 else width
    let (code, sum) ← countFiles letters width (total ≠ .only) 0 .zero names
    if total = .always || total = .only || total = .ofSeveral && names.length > 1 then
      let name := if total = .only then none else some "total".toList
      Running.putText (line width (Count.asked letters sum) name)
    return code

end TapeC.Count
