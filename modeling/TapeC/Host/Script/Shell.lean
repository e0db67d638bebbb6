import TapeC.Host.Process
import TapeC.Host.Script.Grammar
import TapeC.Host.Signal
import TapeC.Text.Directive
import TapeC.Text.Octets

/-!
# Shells

A shell is a process that runs a script. `Shell` is its state: the variables, the functions, the
arguments, where control is about to go, and the process with all that is open in it. `Work` is a
piece of its work, which may be cut short by an error, by the end of the script, or by the end of
the process.
-/

namespace TapeC.Script

structure Variable where
  value : Option (List Char)
  exported : Bool
  readOnly : Bool

/-- The commands between here and there are passed over. -/
inductive Skip where
  /-- out of loops, of which the last one goes on with its next round or not -/
  | loops (count : Nat) (again : Bool)
  /-- out of a function or a file, with a status that was given or not -/
  | text (given : Bool)
deriving DecidableEq

/-- Why work is cut short. -/
inductive Stop where
  /-- an error was told of -/
  | failed
  /-- the script asked for its end -/
  | left
  /-- the process has nothing more to do -/
  | ended
  /-- the process is over -/
  | over (status : WaitStatus)

structure Shell where
  kernel : Kernel
  process : Process
  /-- the number of the process that the script was started as -/
  root : Nat
  /-- the name that the script goes by -/
  name : List Char
  arguments : List (List Char)
  vars : List (List Char × Variable)
  functions : List (List Char × Command)
  aliases : List (List Char × List Char)
  /-- the letters of the options that are on -/
  options : List Char
  /-- the texts in the script, by their numbers -/
  documents : List (Nat × Word)
  nextDocument : Nat
  /-- the status of the last command -/
  status : Nat
  /-- the status of the last command whose output was put into a word -/
  innerStatus : Nat
  /-- the status that the script goes back to when an action for a signal is done -/
  kept : Option Nat
  /-- the line of the command that is being run, and the name of the command if it is built in -/
  line : Nat
  command : Option (List Char)
  /-- the line that the text has been read up to -/
  lineRead : Nat
  /-- how many loops are being run -/
  loops : Nat
  skip : Option Skip
  /-- the actions for signals; an empty one ignores the signal -/
  traps : List (Nat × List Char)
  /-- signals that wait for their actions -/
  caught : List Nat
  /-- the variables that were made local, with what they were before, for each command that may
  have such variables -/
  locals : List (List (List Char × Option Variable))
  /-- the last process that was not waited for, those that have not come to run yet, and how the
  others ended -/
  background : Option Nat
  later : List (Nat × (Kernel → WaitStatus × Kernel))
  jobs : List (Nat × WaitStatus)
  /-- programs that were found in the search path -/
  located : List (List Char)
  /-- where options are read from: the number of the next argument, and how much of the one before
  it was read, if it is not done -/
  optionPlace : Nat × Option Nat
  /-- the permissions that new files do not get -/
  mask : Nat
  /-- a command is being traced -/
  tracing : Bool
  /-- output that was not written yet, the latest first -/
  unwritten : List (List Char)

/-- A piece of a shell's work. -/
abbrev Work := ExceptT Stop (StateM Shell)

namespace Shell

/-- The option with the letter is on. -/
def hasOption (s : Shell) (letter : Char) : Bool := s.options.contains letter

/-- The variable with a name, which may come with the environment. -/
def binding? (s : Shell) (name : List Char) : Option Variable :=
  match s.vars.lookup name with
  | some v => some v
  | none =>
    if isName name then
      (s.process.environment (String.ofList name)).map fun bs =>
        ⟨some (Octets.toChars bs), true, false⟩
    else none

def value? (s : Shell) (name : List Char) : Option (List Char) :=
  (s.binding? name).bind Variable.value

/-- The environment that the shell gives to programs. -/
def environment (s : Shell) : Environment := fun name =>
  match s.vars.lookup name.toList with
  | none => s.process.environment name
  | some v => if v.exported then v.value.map Octets.ofChars else none

def withVariable (s : Shell) (name : List Char) (v : Variable) : Shell :=
  { s with vars := (name, v) :: s.vars.filter (·.1 != name) }

/-- The signals that do nothing to the programs that the shell starts. -/
def ignored (s : Shell) : List Nat :=
  s.process.ignored ++ (s.traps.filter (·.2.isEmpty)).map (·.1)

/-- There are actions for signals. -/
def hasTraps (s : Shell) : Bool := s.traps.any (!·.2.isEmpty)

/-- The open file behind a descriptor. -/
def file (s : Shell) (descriptor : Nat) : Nat := s.process.file s.kernel descriptor

def searchPath (s : Shell) : List Char := (s.value? searchPathVariable.toList).getD []

/-- The characters that separate fields. -/
def separators (s : Shell) : List Char := (s.value? "IFS".toList).getD [' ', '\t', '\n']

/-- A number in decimal digits. -/
def numeral (n : Nat) : List Char := Nat.toDigits 10 n

/-- The path of a place. -/
def pathOf (place : Place) : List Char :=
  if place.isEmpty then ['/'] else Octets.toChars (place.flatMap fun name => Path.slash :: name)

/-- A shell in a process, at the beginning of a script. -/
def start (k : Kernel) (p : Process) (name : List Char) (arguments : List (List Char))
    (options : List Char) : Shell where
  kernel := k
  process := p
  root := p.number
  name := name
  arguments := arguments
  vars :=
    let plain (name value : String) : List Char × Variable :=
      (name.toList, ⟨some value.toList, false, false⟩)
    let path : List (List Char × Variable) :=
      if (p.environment searchPathVariable).isSome then []
      else [(searchPathVariable.toList, ⟨some usualSearchPath.toList, false, false⟩)]
    path ++ [plain "IFS" " \t\n", plain "OPTIND" "1", plain "PS1" "# ", plain "PS2" "> ",
      plain "PS4" "+ ", ("PPID".toList, ⟨some (numeral p.parent), false, false⟩),
      ("PWD".toList, ⟨some (pathOf p.directory), true, false⟩)]
  functions := []
  aliases := []
  options := options
  documents := []
  nextDocument := 0
  status := 0
  innerStatus := 0
  kept := none
  line := 0
  command := none
  lineRead := 0
  loops := 0
  skip := none
  traps := []
  caught := []
  locals := []
  background := none
  later := []
  jobs := []
  located := []
  optionPlace := (1, none)
  mask := 0o22
  tracing := false
  unwritten := []

end Shell

namespace Work

/-- Does some work, and then something after it, however the work ends. -/
def ensuring {α : Type} (work : Work α) (after : Work Unit) : Work α := do
  let a ← tryCatch work fun stop => do
    after
    throw stop
  after
  return a

/-- Does something with the kernel. -/
def withKernel {α : Type} (f : Kernel → α × Kernel) : Work α :=
  modifyGet fun s => let (a, k) := f s.kernel; (a, { s with kernel := k })

/-- Writes to an open file. -/
def writeTo (file : Nat) (cs : List Char) : Work (Except HostError Unit) :=
  withKernel (·.write file (Octets.ofChars cs))

/-- Writes to the complaints. -/
def tell (cs : List Char) : Work Unit := do
  let _ ← writeTo ((← get).file Descriptor.complaints) cs

/-- Writes to the output when the command that is being run is done. -/
def print (cs : List Char) : Work Unit :=
  modify fun s => { s with unwritten := cs :: s.unwritten }

/-- Tells of something in the script: where it is, and what. -/
def warn (text : List Char) : Work Unit := do
  let s ← get
  let command := match s.command with
    | none => []
    | some name => name ++ [':', ' ']
  tell (s.name ++ [':', ' '] ++ Shell.numeral s.line ++ [':', ' '] ++ command ++ text ++ ['\n'])

/-- Writes what was printed. -/
def flush : Work (Except HostError Unit) := do
  let s ← get
  if s.unwritten.isEmpty then return .ok ()
  set { s with unwritten := [] }
  let text := s.unwritten.reverse.flatten
  if text.isEmpty then return .ok () else writeTo (s.file Descriptor.output) text

/-- Tells of an error, which cuts the work short. -/
def fail {α : Type} (text : List Char) : Work α := do
  warn text
  let _ ← flush
  modify fun s => { s with status := 2 }
  throw .failed

/-- The error of an argument that is no number. -/
def illegalNumber {α : Type} (cs : List Char) : Work α := fail ("Illegal number: ".toList ++ cs)

/-- A whole number in decimal digits, with blanks around it. -/
def wholeNumber (cs : List Char) : Work Int := do
  let isBlank (c : Char) : Bool := c = ' ' || '\t' ≤ c && c ≤ '\r'
  let signed := cs.dropWhile isBlank
  let negative := signed.head? = some '-'
  let unsigned := if negative || signed.head? = some '+' then signed.tail else signed
  let digits := unsigned.takeWhile Char.isDigit
  let magnitude : Int := Text.Binary.numberOf 10 digits
  let n := if negative then -magnitude else magnitude
  if digits.isEmpty || !((unsigned.drop digits.length).dropWhile isBlank).isEmpty
      || n < -Nat.pow 2 63 || Nat.pow 2 63 ≤ n then illegalNumber cs
  else return n

/-- A number that is not negative and fits in 31 bits. -/
def number (cs : List Char) : Work Nat := do
  let n ← wholeNumber cs
  if n < 0 || Nat.pow 2 31 ≤ n then illegalNumber cs else return n.toNat

/-! ## Variables -/

/-- Puts a variable, unless it may not change. -/
def put (name : List Char) (v : Variable) : Work Unit := do
  let s ← get
  let old := s.binding? name
  if old.any (·.readOnly) then fail (name ++ ": is read only".toList)
  else
    let exported := v.exported || old.any (·.exported) || s.hasOption 'a'
    set (s.withVariable name { v with exported })
    if name = "OPTIND".toList then
      let next ← number (v.value.getD [])
      modify fun s => { s with optionPlace := (if next = 0 then 1 else next, none) }
    if name = searchPathVariable.toList then modify fun s => { s with located := [] }

/-- Gives a value to the variable with a name, if it can be one. -/
def assign (name value : List Char) (exported readOnly : Bool) : Work Unit := do
  if isName name then put name ⟨some value, exported, readOnly⟩
  else fail (name ++ ": bad variable name".toList)

/-- Takes its value from a variable, and its export with it. -/
def unset (name : List Char) : Work Unit := do
  if !isName name then fail (name ++ ": bad variable name".toList)
  if ((← get).binding? name).any (·.readOnly) then fail (name ++ ": is read only".toList)
  modify (·.withVariable name ⟨none, false, false⟩)

/-- Makes a variable local to the command that is being run, and gives it a value or not. -/
def makeLocal (name : List Char) (value : Option (List Char)) (exported : Bool) : Work Unit := do
  if !isName name then fail (name ++ ": bad variable name".toList)
  let before := (← get).binding? name
  match value with
  | some value => put name ⟨some value, exported, false⟩
  | none => if before.isNone then modify (·.withVariable name ⟨none, exported, false⟩)
  modify fun s => match s.locals with
    | [] => s
    | frame :: frames => { s with locals := ((name, before) :: frame) :: frames }

/-- Begins a command that may have local variables. -/
def pushLocals : Work Unit := modify fun s => { s with locals := [] :: s.locals }

/-- Ends a command that may have local variables. -/
def popLocals : Work Unit := modify fun s =>
  match s.locals with
  | [] => s
  | frame :: frames =>
    frame.foldl (fun s (name, before) =>
      s.withVariable name (before.getD ⟨none, false, false⟩)) { s with locals := frames }

/-! ## Signals -/

/-- Takes a signal. -/
def receive (signal : Nat) : Work Unit := do
  let s ← get
  let deadly := Signal.isDeadly signal && !s.process.ignored.contains signal
  match if Signal.isAbsolute signal then none else s.traps.lookup signal with
  | some [] => return
  | some _ =>
    if !s.caught.contains signal then set { s with caught := signal :: s.caught }
  | none => if deadly then throw (.over (.signaled signal))

/-- Takes the signals that others have sent. -/
def receiveAll : Work Unit := do
  let s ← get
  if s.kernel.signals.isEmpty then return
  let (own, others) := s.kernel.signals.partition (·.1 = s.process.number)
  set { s with kernel.signals := others }
  own.reverse.forM fun (_, signal) => receive signal

/-- Sends a signal to a process, which is there if its number was given to one. -/
def send (process signal : Nat) : Work (Except HostError Unit) := do
  let s ← get
  if process = 0 || s.kernel.lastProcess < process then return .error .noProcess
  if signal ≠ 0 then
    set { s with kernel.signals := (process, signal) :: s.kernel.signals }
    receiveAll
  return .ok ()

end Work

end TapeC.Script
