import TapeC.Host.Utility.Amount
import TapeC.Host.Utility.Session

/-!
# The first part of files

`head` copies the first lines or bytes of files, or all but the last ones. Input that comes through
a pipe is read in blocks, so more of it is gone than was copied; a file is left at the end of what
was copied.
-/

namespace TapeC.Head

/-- How much is copied. -/
structure Extent where
  lines : Bool
  /-- the amount is that of what is left out at the end -/
  leavesOut : Bool
  amount : Nat

/-- When the name of a file stands before what is copied of it. -/
inductive Titles where
  | ofSeveral
  | always
  | never
deriving DecidableEq

structure Plan where
  extent : Extent
  titles : Titles
  /-- the byte that ends a line -/
  lineEnd : UInt8

def Plan.default : Plan := ⟨⟨true, false, 10⟩, .ofSeveral, 0x0A⟩

/-- The size of the blocks in which input is read. -/
def blockSize : Nat := 8192

/-- The number of bytes in the first `n` lines, the last one with or without its end. -/
def linesLength (lineEnd : UInt8) (count : Nat) : Nat → Bytes → Nat
  | 0, _ | _, [] => count
  | n + 1, b :: bs => linesLength lineEnd (count + 1) (if b = lineEnd then n else n + 1) bs

/-- The number of lines; the last one need not have an end. -/
def lineCount (lineEnd : UInt8) (bs : Bytes) : Nat :=
  bs.count lineEnd + if bs.isEmpty || bs.getLast? = some lineEnd then 0 else 1

/-- The number of bytes that are copied. -/
def Plan.length (p : Plan) (bs : Bytes) : Nat :=
  match p.extent.lines, p.extent.leavesOut with
  | true, false => linesLength p.lineEnd 0 p.extent.amount bs
  | true, true => linesLength p.lineEnd 0 (lineCount p.lineEnd bs - p.extent.amount) bs
  | false, false => min p.extent.amount bs.length
  | false, true => bs.length - p.extent.amount

/-- The number of bytes that are read of a pipe. -/
def Plan.readLength (p : Plan) (bs : Bytes) : Nat :=
  if p.extent.leavesOut then bs.length
  else if p.extent.lines then
    if lineCount p.lineEnd bs < p.extent.amount then bs.length
    else (p.length bs + blockSize - 1) / blockSize * blockSize
  else p.length bs

/-- What a choice of the options makes of a plan, or the complaint about it. -/
def Plan.choose (p : Plan) (c : Choice) : Except (List Char) Plan :=
  let extent (lines : Bool) : Except (List Char) Plan :=
    let value := c.value.getD []
    let leavesOut := value.head? = some '-'
    let digits := if leavesOut then value.tail else value
    match Amount.read digits with
    | .error f => .error (Amount.complaint (if lines then "lines" else "bytes") f digits)
    | .ok amount => .ok { p with extent := ⟨lines, leavesOut, amount⟩ }
  match c.option with
  | 'c' => extent false
  | 'n' => extent true
  | 'q' => .ok { p with titles := .never }
  | 'v' => .ok { p with titles := .always }
  | 'z' => .ok { p with lineEnd := 0 }
  | _ => .ok p

def options : OptionTable where
  letters := [('c', .required), ('n', .required), ('q', .absent), ('v', .absent), ('z', .absent)]
    ++ "0123456789".toList.map fun c => (c, .absent)
  words := [("bytes", .required, 'c'), ("lines", .required, 'n'),
    ("-presume-input-pipe", .absent, 'p'), ("quiet", .absent, 'q'), ("silent", .absent, 'q'),
    ("verbose", .absent, 'v'), ("zero-terminated", .absent, 'z'), ("help", .absent, 'h'),
    ("version", .absent, 'V')]
  mixes := true

/-- A plan as the letters after a number in the first argument change it, with the unit of the
number. -/
def Plan.chooseLetter (plan : Plan × List Char) (c : Char) : Except Char (Plan × List Char) :=
  let p := plan.1
  match c with
  | 'c' => .ok ({ p with extent.lines := false }, [])
  | 'b' | 'k' | 'm' => .ok ({ p with extent.lines := false }, [c])
  | 'l' => .ok ({ p with extent.lines := true }, plan.2)
  | 'q' => .ok ({ p with titles := .never }, plan.2)
  | 'v' => .ok ({ p with titles := .always }, plan.2)
  | 'z' => .ok ({ p with lineEnd := 0 }, plan.2)
  | c => .error c

/-- Copies from an open file that is shown under a name. -/
def copy (p : Plan) (file : Nat) (title : List Char) (titled first : Bool) : Running Nat := do
  if titled then
    Running.putText ((if first then [] else ['\n']) ++ "==> ".toList ++ title ++ " <==\n".toList)
  let k ← Running.kernel
  let (content, _) := k.read file (if p.extent.lines || p.extent.leavesOut then
    max (k.remaining file) 1 else p.extent.amount)
  match content with
  | .error e =>
    if p.extent.amount = 0 && !p.extent.leavesOut then return 0
    Running.complain ("error reading ".toList ++ Quote.always title ++ ": ".toList
      ++ e.reason.toList)
    return 1
  | .ok bs =>
    let length := p.length bs
    let taken := if (k.fileSize? file).isSome then length else p.readLength bs
    discard (Running.withKernel (·.read file taken))
    Running.put (bs.take length)
    return 0

/-- Copies a file: the exit code, and whether the file could be opened. -/
def copyFile (p : Plan) (titled first : Bool) (name : List Char) : Running (Nat × Bool) := do
  if name = ['-'] then
    let file ← Running.fileOf Descriptor.input
    return (← copy p file "standard input".toList titled first, true)
  else
    match ← Running.openFile name with
    | .error e =>
      Running.complain ("cannot open ".toList ++ Quote.always name ++ " for reading: ".toList
        ++ e.reason.toList)
      return (1, false)
    | .ok file => return (← copy p file name titled first, true)

/-- Copies files. The first title has no empty line before it. -/
def copyFiles (p : Plan) (titled first : Bool) (code : Nat) : List (List Char) → Running Nat
  | [] => return code
  | name :: names => do
    let (result, opened) ← copyFile p titled first name
    copyFiles p titled (first && !opened) (max code result) names

/-- Goes on with a plan after a number in the first argument. -/
def runWith (p : Plan) (args : List (List Char)) : Running Nat := do
  let chosen := options.read args
  let plan := chosen.choices.foldlM (fun p c =>
    if c.option.isDigit then Except.error (Except.ok c.option)
    else (Plan.choose p c).mapError Except.error) p
  match plan, chosen.fault with
  | .error (.ok digit), _ =>
    Running.refuse ("invalid trailing option -- ".toList ++ [digit])
  | .error (.error fault), _ =>
    Running.complain fault
    return 1
  | .ok _, some fault => Running.refuse fault
  | .ok plan, none =>
    if chosen.choices.any fun c => c.option = 'h' || c.option = 'V' then return 0
    let names := if chosen.operands.isEmpty then [['-']] else chosen.operands
    if !plan.extent.lines && plan.extent.leavesOut && Nat.pow 2 63 ≤ plan.extent.amount then
      Running.complain (Amount.complaint "bytes" .tooLarge (Nat.toDigits 10 plan.extent.amount))
      return 1
    let titled := plan.titles = .always || plan.titles = .ofSeveral && names.length > 1
    copyFiles plan titled true 0 names

def run : Running Nat := do
  match ← Running.arguments with
  | ('-' :: d :: cs) :: args =>
    if d.isDigit then
      let digits := d :: cs.takeWhile Char.isDigit
      match (cs.dropWhile Char.isDigit).foldlM Plan.chooseLetter (.default, []) with
      | .error c => Running.refuse ("invalid trailing option -- ".toList ++ [c])
      | .ok (plan, unit) =>
        match Amount.read (digits ++ unit) with
        | .error f =>
          Running.complain (Amount.complaint (if plan.extent.lines then "lines" else "bytes") f
            (digits ++ unit))
          return 1
        | .ok amount => runWith { plan with extent.amount := amount } args
    else runWith .default (('-' :: d :: cs) :: args)
  | args => runWith .default args

end TapeC.Head
