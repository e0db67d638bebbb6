import TapeC.Host.Script.Builtin.Lookup
import TapeC.Host.Script.Builtin.Print

/-!
# Control from the shell

The commands that leave loops, functions and the script, and those that run texts and files as
parts of it.
-/

namespace TapeC.Script.Flow

/-- Leaves loops, of which there are as many as are being run, or goes on with the next round of the
last one that is left. -/
def leaveLoops (again : Bool) : BuiltinRun := fun _ _ args _ => do
  let n ← match args with
    | [] => pure 1
    | arg :: _ => do
      let n ← Work.number arg
      if n = 0 then Work.illegalNumber arg else pure n
  modify fun s =>
    let n := min n s.loops
    if n = 0 then s else { s with skip := some (.loops n again) }
  return 0

/-- Leaves the function or the file that is being run. -/
def leaveText : BuiltinRun := fun _ _ args _ => do
  match args with
  | [] =>
    modify fun s => { s with skip := some (.text false) }
    return (← get).status
  | arg :: _ =>
    let status ← Work.number arg
    modify fun s => { s with skip := some (.text true) }
    return status

/-- Ends the script. -/
def exit : BuiltinRun := fun _ _ args _ => do
  if let arg :: _ := args then
    let status ← Work.number arg
    modify fun s => { s with kept := some status }
  throw .left

/-- Runs the arguments as a text. -/
def eval : BuiltinRun := fun r _ args m => do
  if args.isEmpty then return 0
  else r.runText m.inside ([' '].intercalate args)

/-- The path of a file that is run by its name. -/
def filePath (name : List Char) : Work (List Char) := do
  if name.contains '/' then return name
  let s ← get
  let isFile (path : List Char) : Bool :=
    let t := s.kernel.treeFrom s.process.directory
    match t.resolve ⟨Octets.ofChars path⟩ with
    | .error _ => false
    | .ok place =>
      match t.node? place with
      | some (.file _ _) | some (.utility _) => true
      | _ => false
  match (Lookup.candidates s.searchPath name).find? isFile with
  | some path => return path
  | none => Work.fail (name ++ ": not found".toList)

/-- The text of a file that is opened for the shell. What cannot be read has no text. -/
def readFile (path : List Char) : Work (Except HostError (List Char)) := do
  let s ← get
  let opened ← Work.withKernel fun k =>
    k.openPath s.process.descriptors s.process.directory ⟨Octets.ofChars path⟩ .read
  match opened with
  | .error e => return .error e
  | .ok file =>
    let content ← Work.withKernel (·.readAll file)
    return .ok (Octets.toChars (content.toOption.getD []))

/-- What is said of a file that cannot be opened for reading. -/
def openReason (e : HostError) : List Char :=
  match e with
  | .notFound | .notADirectory => "No such file".toList
  | e => e.reason.toList

/-- Runs a file as a part of the script. -/
def source : BuiltinRun := fun r _ args _ => do
  match ← Letters.none args with
  | [] => return 0
  | name :: _ =>
    let path ← filePath name
    match ← readFile path with
    | .error e => Work.fail ("cannot open ".toList ++ path ++ ':' :: ' ' :: openReason e)
    | .ok text =>
      modify fun s => { s with command := some path }
      r.runFile text

/-! ## Places -/

/-- Makes another directory the one that relative paths start from. -/
def changeDirectory : BuiltinRun := fun _ _ args _ => do
  let l ← Letters.read [('L', false), ('P', false)] args
  let s ← get
  let wanted := match l.operands with
    | [] => s.value? "HOME".toList
    | ['-'] :: _ => s.value? "OLDPWD".toList
    | path :: _ => some path
  let path := wanted.getD []
  let t := s.kernel.treeFrom s.process.directory
  match t.resolve ⟨Octets.ofChars (if path.isEmpty then ['.'] else path)⟩ with
  | .error _ => Work.fail ("can't cd to ".toList ++ path)
  | .ok place =>
    if t.node? place ≠ some .directory then Work.fail ("can't cd to ".toList ++ path)
    Work.put "OLDPWD".toList ⟨some (Shell.pathOf s.process.directory), true, false⟩
    Work.put "PWD".toList ⟨some (Shell.pathOf place), true, false⟩
    modify fun s => { s with process.directory := place }
    if l.operands.head? = some ['-'] then Work.print (Shell.pathOf place ++ ['\n'])
    return 0

def showDirectory : BuiltinRun := fun _ _ args _ => do
  discard (Letters.read [('L', false), ('P', false)] args)
  Work.print (Shell.pathOf (← get).process.directory ++ ['\n'])
  return 0

/-- The permissions that three bits leave. -/
def permissions (bits : Nat) : List Char :=
  (if bits / 4 % 2 = 0 then ['r'] else []) ++ (if bits / 2 % 2 = 0 then ['w'] else [])
    ++ if bits % 2 = 0 then ['x'] else []

/-- Shows or sets the permissions that new files do not get. -/
def mask : BuiltinRun := fun _ _ args _ => do
  let l ← Letters.read [('S', false)] args
  let mask := (← get).mask
  match l.operands with
  | [] =>
    if l.has 'S' then
      Work.print ("u=".toList ++ permissions (mask / 64) ++ ",g=".toList ++ permissions (mask / 8)
        ++ ",o=".toList ++ permissions mask ++ ['\n'])
    else
      let digits := Nat.toDigits 8 mask
      Work.print (List.replicate (4 - digits.length) '0' ++ digits ++ ['\n'])
  | arg :: _ =>
    if arg.head?.any Char.isDigit then
      if arg.all Printing.isOctalDigit then
        modify fun s => { s with mask := Text.Binary.numberOf 8 arg % 512 }
      else Work.illegalNumber arg
  return 0

/-- The time that the script has taken. -/
def showTimes : BuiltinRun := fun _ _ _ _ => do
  let line := "0m0.000000s 0m0.000000s\n".toList
  Work.print (line ++ line)
  return 0

/-- The limits of the script, of which there are none. -/
def showLimits : BuiltinRun := fun _ _ args _ => do
  let letters := "HSatfdscmlpnvwr".toList.map fun c => (c, false)
  let l ← Letters.read letters args
  if l.operands.isEmpty then Work.print "unlimited\n".toList
  return 0

/-- The jobs that are going on, of which there are none. -/
def showJobs : BuiltinRun := fun _ _ _ _ => return 0

/-- Goes on with a job. -/
def resume : BuiltinRun := fun _ _ args _ => do
  match args with
  | [] => Work.fail "No current job".toList
  | job :: _ => Work.fail ("No such job: ".toList ++ job)

/-- Does nothing, and is done with a status. -/
def answer (status : Nat) : BuiltinRun := fun _ _ _ _ => return status

end TapeC.Script.Flow
