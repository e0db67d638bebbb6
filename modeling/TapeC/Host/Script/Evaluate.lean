import TapeC.Host.Script.Builtin
import TapeC.Host.Script.Redirect

/-!
# Running commands

A simple command is expanded, redirected and called: a function and a command that is built in run
in the shell, a program in a process of its own. Other commands run their parts in the shell or in
new processes. Processes are run one after another: each writes all its output before the next one
reads it.
-/

namespace TapeC.Script

/-! ## Simple commands -/

/-- The words of a simple command while it is found out what they call. -/
structure Call where
  /-- the fields so far, and the words that are not expanded yet -/
  fields : List (List Char)
  rest : List Word
  /-- the fields that were passed over -/
  passed : List (List Char)
  functions : Bool
  searchPath : Option (List Char)
  /-- an error of the command ends the script, if this is known -/
  special : Option Bool
  /-- assignments are in force for the command alone -/
  assignsLocally : Bool

namespace Call

/-- Expands words until there is a field after the first `n`, if there is one. -/
def fill (r : Runner) (n : Nat) : List Word → List (List Char) → Work (List (List Char) × List Word)
  | [], fields => return (fields, [])
  | w :: ws, fields =>
    if n < fields.length then return (fields, w :: ws)
    else do
      let more ← Work.fieldsOf r w
      fill r n ws (fields ++ more)

/-- Passes over `command` and its options, of which there are no more than `k`: how many fields
they are, or none if there are options for something else. -/
def skipOptions (r : Runner) (c : Call) : Nat → Nat → Work (Option Nat × Call)
  | 0, _ => return (none, c)
  | k + 1, n => do
    let (fields, rest) ← fill r n c.rest c.fields
    let c := { c with fields, rest }
    match fields[n]? with
    | none => return (none, c)
    | some ['-', '-'] =>
      let (fields, rest) ← fill r (n + 1) rest fields
      let c := { c with fields, rest }
      return (if n + 1 < fields.length then some (n + 1) else none, c)
    | some ('-' :: l :: ls) =>
      if (l :: ls).all (· = 'p') then
        skipOptions r { c with searchPath := some usualSearchPath.toList } k (n + 1)
      else return (none, c)
    | some _ => return (some n, c)

/-- Finds out what is called, passing over `command` no more than `k` times. -/
def settle (r : Runner) : Nat → Call → Work Call
  | 0, c => return c
  | k + 1, c => do
    let s ← get
    match c.fields with
    | [] => return c
    | name :: _ =>
      match Lookup.find s c.functions s.searchPath name with
      | .builtin =>
        let special := c.special.getD (Lookup.isSpecial name)
        let c := { c with special := some special, assignsLocally := !special }
        if name ≠ "command".toList then return c
        match ← skipOptions r c (c.fields.length + c.rest.length + 1) 1 with
        | (none, c) => return c
        | (some n, c) =>
          settle r k { c with
            functions := false
            passed := c.passed ++ c.fields.take n
            fields := c.fields.drop n }
      | _ => return { c with assignsLocally := true }

/-- Expands the words of a command. The arguments of some commands may be assignments. -/
def expand (r : Runner) (words : List Word) : Work Call := do
  let (fields, rest) ← fill r 0 words []
  let c ← settle r (words.length + 1) ⟨fields, rest, [], true, none, none, false⟩
  let name := c.fields.head?.getD []
  let assigns := c.special.isSome && Lookup.assigns name
  let more ← c.rest.mapM fun w =>
    if assigns && w.isAssignment then do return [← Work.textOf r .assignment w]
    else Work.fieldsOf r w
  return { c with fields := c.fields ++ more.flatten, rest := [] }

end Call

/-- Prints a command that is about to be run, if commands are traced. -/
def traceCommand (file : Nat) (texts : List (List Char)) : Work Unit := do
  let s ← get
  if s.hasOption 'x' && !s.tracing then
    let mark := (s.value? "PS4".toList).getD []
    discard (Work.writeTo file (mark ++ [' '].intercalate texts ++ ['\n']))

/-- Gives a variable its value, in the shell or for a command alone. -/
def assignWord (r : Runner) (locally exported : Bool) (w : Word) : Work (List Char) := do
  let text ← Work.textOf r .assignment w
  let (name, value) := Variables.splitValue text
  if locally then Work.makeLocal name (some (value.getD [])) true
  else Work.assign name (value.getD []) exported false
  return text

/-- Calls a function. -/
def callFunction (r : Runner) (body : Command) (args : List (List Char)) (m : Manner) :
    Work Unit := do
  let s ← get
  set { s with arguments := args, optionPlace := (1, none), loops := 0 }
  Work.ensuring (discard (r.run (some body) m.inside)) do
    modify fun t => { t with
      arguments := s.arguments
      optionPlace := s.optionPlace
      loops := s.loops
      skip := match t.skip with
        | some (.text _) => none
        | skip => skip }

/-- Starts a program, in a process of its own unless the one of the shell has nothing more to
do. -/
def callProgram (r : Runner) (searchPath name : List Char) (args : List (List Char)) (m : Manner) :
    Work Nat := do
  let start := Lookup.execute r searchPath name args
  if m.last && !(← get).hasTraps then start
  else
    let (_, status) ← r.inChild id start
    Runner.tellEnd status
    return status.scriptCode

/-- Calls what the fields of a command call. -/
def callFields (r : Runner) (c : Call) (m : Manner) : Work Nat := do
  match c.fields with
  | [] => return (← get).innerStatus
  | name :: args =>
    let searchPath := c.searchPath.getD (← get).searchPath
    match Lookup.find (← get) c.functions searchPath name with
    | .function body =>
      callFunction r body args m
      return (← get).status
    | .builtin =>
      tryCatch (Builtin.call r name args m) fun stop =>
        match stop with
        | .failed => if c.special = some true then throw stop else do return (← get).status
        | stop => throw stop
    | .program =>
      Lookup.remember name
      callProgram r searchPath name args m
    | .unknown e =>
      Work.warn (name ++ ':' :: ' ' :: Lookup.reason e)
      modify fun s => { s with status := 127 }
      if c.special = some true then throw .failed else return 127

/-- Runs a simple command after its words were expanded. -/
def runCall (r : Runner) (c : Call) (assignments : List Word) (redirections : List Redirection)
    (m : Manner) : Work Nat := do
  let traceFile := (← get).file Descriptor.complaints
  let becomes := c.special.isSome && c.fields.head? = some "exec".toList
  let redirects ← redirections.mapM (Redirect.ofRedirection r)
  let before := Redirect.changed (← get) redirects
  let restore : Work Unit := if becomes then return else Redirect.restore before
  let work : Work Nat := do
    if !(← Redirect.applyAll r redirects) then
      modify fun s => { s with status := 2 }
      Redirect.restore before
      if c.special = some true then throw .failed else return 2
    let texts ← assignments.mapM
      (assignWord r c.assignsLocally (becomes && 1 < c.fields.length))
    traceCommand traceFile (texts ++ c.passed ++ c.fields)
    callFields r c m
  Work.ensuring work restore

/-- Runs a simple command. -/
def runSimple (r : Runner) (line : Nat) (assignments words : List Word)
    (redirections : List Redirection) (m : Manner) : Work Nat := do
  modify fun s => { s with line, innerStatus := 0 }
  let c ← Call.expand r words
  if c.assignsLocally then
    Work.pushLocals
    Work.ensuring (runCall r c assignments redirections m) Work.popLocals
  else runCall r c assignments redirections m

/-! ## Loops -/

/-- Looks at where control goes at the end of a round: whether the loop is left, and whether a
function or a file is left with a status. -/
def endRound : Work (Bool × Bool) := do
  let s ← get
  match s.skip with
  | none => return (false, false)
  | some (.text given) => return (true, given)
  | some (.loops n again) =>
    if n ≤ 1 then
      set { s with skip := none }
      return (!again, false)
    else
      set { s with skip := some (.loops (n - 1) again) }
      return (true, false)

/-- The greatest number of rounds of a loop. -/
def maxRounds : Nat := Nat.pow 2 40

/-- Runs a loop as long as its condition asks for, but no more than `n` rounds. -/
def runRounds (condition body : Work Nat) (untilTrue : Bool) : Nat → Nat → Work Nat
  | 0, status => return status
  | n + 1, status => do
    let test ← condition
    let skipping := (← get).skip
    if skipping.isSome then
      let (leaves, given) ← endRound
      let status := if given then test else status
      if leaves then return status else runRounds condition body untilTrue n status
    else if (test = 0) = untilTrue then return status
    else
      let status ← body
      let (leaves, _) ← endRound
      if leaves then return status else runRounds condition body untilTrue n status

/-- Runs a loop's body for each of some values. -/
def runEach (name : List Char) (body : Work Nat) : List (List Char) → Nat → Work Nat
  | [], status => return status
  | value :: values, _ => do
    Work.assign name value false false
    let status ← body
    let (leaves, _) ← endRound
    if leaves then return status else runEach name body values status

/-- Runs a loop, which `break` and `continue` know of. -/
def inLoop (loop : Work Nat) : Work Nat := do
  modify fun s => { s with loops := s.loops + 1 }
  let status ← loop
  modify fun s => { s with loops := s.loops - 1 }
  return status

/-! ## Selections -/

/-- A text fits one of some patterns. -/
def fitsOne (r : Runner) (text : List Char) : List Word → Work Bool
  | [] => return false
  | w :: ws => do
    if Pattern.fits (← Work.patternOf r w) text then return true else fitsOne r text ws

/-- Runs the first branch that has a pattern for a text. -/
def runBranches (r : Runner) (text : List Char) (m : Manner) :
    List (List Word × Option Command) → Work Nat
  | [] => return 0
  | (patterns, body) :: branches => do
    if (← get).skip.isSome then return 0
    if ← fitsOne r text patterns then
      match body with
      | some c => if (← get).skip.isSome then return 0 else r.run (some c) m
      | none => return 0
    else runBranches r text m branches

/-! ## Processes -/

/-- The input of a process that is not waited for. -/
def withoutInput (s : Shell) : Shell :=
  let (file, k) := s.kernel.add ⟨.nothing, true, false, false, 0⟩
  { s with
    kernel := k
    process.descriptors := s.process.descriptors.set Descriptor.input file }

/-- Opens redirections, runs a command, and ends. -/
def runInside (r : Runner) (redirects : List Redirect) (body : Option Command) (m : Manner) :
    Work Nat := do
  redirects.forM (Redirect.apply r)
  r.run body m.atEnd

/-- Runs a command in a process of its own. -/
def runSubshell (r : Runner) (line : Nat) (body : Option Command)
    (redirections : List Redirection) (m : Manner) : Work Nat := do
  modify fun s => { s with line }
  let redirects ← redirections.mapM (Redirect.ofRedirection r)
  if m.last && !(← get).hasTraps then runInside r redirects body m
  else
    let (_, status) ← r.inChild id (runInside r redirects body m)
    Runner.tellEnd status
    return status.scriptCode

/-- Runs a command in a process that is not waited for. -/
def runBackground (r : Runner) (line : Nat) (body : Command) (redirections : List Redirection) :
    Work Nat := do
  modify fun s => { s with line }
  let redirects ← redirections.mapM (Redirect.ofRedirection r)
  r.inLaterChild withoutInput (runInside r redirects (some body) .plain)
  return 0

/-- Starts the commands of a pipeline, each with the output of the one before as its input, and
gives the ends of those that have ended. `apart` says that the pipeline has no input. -/
def startStages (start : (Shell → Shell) → Command → Work (List WaitStatus)) (apart : Bool) :
    Option Nat → List Command → Work (List WaitStatus)
  | _, [] => return []
  | input, c :: cs => do
    let pipe ← if cs.isEmpty then pure none else
      Work.withKernel fun k =>
        let (reading, writing, k) := k.addPipe []
        (some (reading, writing), k)
    let connect (s : Shell) : Shell :=
      let s := if apart && input.isNone then withoutInput s else s
      let ds := s.process.descriptors
      let ds := match input with
        | some file => ds.set Descriptor.input file
        | none => ds
      let ds := match pipe with
        | some (_, writing) => ds.set Descriptor.output writing
        | none => ds
      { s with process.descriptors := ds }
    let ended ← start connect c
    return ended ++ (← startStages start apart (pipe.map (·.1)) cs)

/-- Runs a pipeline. Its status is that of its last command. -/
def runPipeline (r : Runner) (background : Bool) (cs : List Command) (m : Manner) :
    Work Nat := do
  let start (connect : Shell → Shell) (c : Command) : Work (List WaitStatus) := do
    let work := r.run (some c) m.atEnd
    if background then
      r.inLaterChild connect work
      return []
    else return [(← r.inChild connect work).2]
  let ended ← startStages start background none cs
  ended.forM Runner.tellEnd
  return (ended.getLast?.map WaitStatus.scriptCode).getD 0

/-! ## Commands -/

/-- What a command comes to: its status, and whether a failure may end the script. -/
structure Done where
  status : Nat
  counts : Bool

/-- Runs commands one after another. -/
def runSequence (r : Runner) (m : Manner) : List Command → Work Nat
  | [] => return 0
  | [c] => r.run (some c) m
  | c :: cs => do
    let status ← r.run (some c) m.inside
    if (← get).skip.isSome then return status else runSequence r m cs

/-- Runs a command with redirections. -/
def runRedirected (r : Runner) (line : Nat) (body : Command) (redirections : List Redirection)
    (m : Manner) : Work Nat := do
  modify fun s => { s with line }
  let redirects ← redirections.mapM (Redirect.ofRedirection r)
  let before := Redirect.changed (← get) redirects
  let work : Work Nat := do
    if ← Redirect.applyAll r redirects then r.run (some body) m.inside else return 2
  Work.ensuring work (Redirect.restore before)

/-- Runs a choice. -/
def runChoice (r : Runner) (test body otherwise : Option Command) (m : Manner) : Work Nat := do
  let status ← r.run test .asTest
  if (← get).skip.isSome then return status
  else if status = 0 then r.run body m
  else if otherwise.isSome then r.run otherwise m
  else return 0

/-- Runs a command. -/
def runParts (r : Runner) (c : Command) (m : Manner) : Work Done := do
  match c with
  | .simple line assignments words redirections =>
    return ⟨← runSimple r line assignments words redirections m, true⟩
  | .pipeline background cs => return ⟨← runPipeline r background cs m, true⟩
  | .redirected line body redirections =>
    return ⟨← runRedirected r line body redirections m, false⟩
  | .background line body redirections =>
    return ⟨← runBackground r line body redirections, true⟩
  | .subshell line body redirections =>
    return ⟨← runSubshell r line body redirections m, true⟩
  | .andThen first second =>
    let status ← r.run (some first) .asTest
    if status ≠ 0 || (← get).skip.isSome then return ⟨status, false⟩
    return ⟨← r.run (some second) m, false⟩
  | .orElse first second =>
    let status ← r.run (some first) .asTest
    if status = 0 || (← get).skip.isSome then return ⟨status, false⟩
    return ⟨← r.run (some second) m, false⟩
  | .sequence cs => return ⟨← runSequence r m cs, false⟩
  | .choice test body otherwise => return ⟨← runChoice r test body otherwise m, false⟩
  | .loop untilTrue test body =>
    return ⟨← inLoop (runRounds (r.run test .asTest) (r.run body m.inside) untilTrue maxRounds 0),
      false⟩
  | .each line name words body =>
    modify fun s => { s with line }
    let fields ← words.mapM (Work.fieldsOf r)
    return ⟨← inLoop (runEach name (r.run body m.inside) fields.flatten 0), false⟩
  | .select line subject branches =>
    modify fun s => { s with line }
    let text ← Work.textOf r .withTilde subject
    return ⟨← runBranches r text m branches, false⟩
  | .function name _ body =>
    modify fun s => { s with
      functions := (name, body) :: s.functions.filter (·.1 ≠ name) }
    return ⟨0, false⟩
  | .negation body =>
    let status ← r.run (some body) .asTest
    return ⟨if status = 0 then 1 else 0, false⟩

/-- Runs a command, and ends the process if there is a reason to: nothing comes after it, or it has
failed where the script is to end with that. -/
def runCommand (r : Runner) (c : Option Command) (m : Manner) : Work Nat := do
  let done ← match c with
    | none => pure ⟨0, false⟩
    | some c =>
      if (← get).hasOption 'n' then pure ⟨0, false⟩
      else do
        r.takeAllActions
        let done ← runParts r c m
        modify fun s => { s with status := done.status }
        pure done
  if c.isSome then r.takeAllActions
  if done.counts && done.status ≠ 0 && !m.tested && (← get).hasOption 'e' then throw .ended
  if m.last then throw .ended
  return done.status

/-- How deep commands may call each other. The stack of the process has no more room. -/
def maxCalls : Nat := 3000

/-- The runner of commands that call each other no deeper than `n`. -/
def Runner.ofDepth (start : Starter) : Nat → Runner
  | 0 => ⟨fun _ _ => throw (.over (.signaled Signal.segmentation)), start⟩
  | n + 1 => ⟨fun c m => runCommand (Runner.ofDepth start n) c m, start⟩

/-! ## Scripts -/

/-- The script that arguments of the shell ask for: its text, and in what way it is run. -/
def openScript (args : List (List Char)) : Work (List Char × Bool) := do
  let rest ← Variables.readOptions true args.length ⟨args, false, false⟩
  let ofInput : Work (List Char × Bool) := do
    let s ← get
    let content ← Work.withKernel (·.readAll (s.file Descriptor.input))
    return (Octets.toChars (content.toOption.getD []), false)
  match rest.operands with
  | [] =>
    if rest.isText then Work.fail "-c requires an argument".toList
    modify fun s => { s with options := 's' :: s.options }
    ofInput
  | operand :: operands =>
    if rest.isText then
      modify fun s => { s with name := operands.head?.getD s.name, arguments := operands.tail }
      return (operand, true)
    else if (← get).hasOption 's' then
      Variables.setArguments rest.operands
      ofInput
    else
      match ← Flow.readFile operand with
      | .error e => Work.fail ("cannot open ".toList ++ operand ++ ':' :: ' ' :: Flow.openReason e)
      | .ok text =>
        modify fun s => { s with name := operand, arguments := operands }
        return (text, false)

/-- Runs the script that a process of the shell is started with. -/
def run (start : Starter) (p : Process) (k : Kernel) : WaitStatus × Kernel :=
  let r := Runner.ofDepth start maxCalls
  let args := p.arguments.map Octets.toChars
  let work : Work Nat := do
    let (text, isArgument) ← openScript args
    if isArgument then r.runText ⟨false, true⟩ text else r.runFile text
  let (status, s) := (r.finish work).run (.start k p (Octets.toChars p.name) [] [])
  (status, s.kernel)

end TapeC.Script
