import TapeC.CommandLine.Args
import TapeC.Compile
import TapeC.Formatter
import TapeC.Save

/-!
# A run of the command line

A run reads the file, compiles it, formats the outcome and prints it, and saves it if asked to.
The first of these that fails ends the run; what was printed before stays printed. A verbose run
traces every stage, and its trace shows the formatted program, which is then not printed again.

`Host` is what a run needs of the machine. `run` is the same for every host, whether it is a file
tree in memory or the machine itself.
-/

namespace TapeC.CommandLine

/-- Why a run fails. -/
inductive RunError where
  | read (p : Path) (cause : HostError)
  | write (p : Path) (cause : HostError)
  | format (e : FormatError)
deriving DecidableEq

namespace RunError

def message : RunError → String
  | .read p _ => "Can't read " ++ p.display
  | .write p _ => "Can't write " ++ p.display
  | .format e => e.message

def causes : RunError → List String
  | .read _ cause => [cause.message]
  | .write _ cause => [cause.message]
  | .format e => e.causes

/-- The error and each of its causes in a line of their own. -/
def render (p : Palette) (e : RunError) : String :=
  Listing.text ((p.red "Error" ++ ": " ++ e.message)
    :: e.causes.map fun c => "  " ++ p.red "caused by:" ++ " " ++ c)

end RunError

/-- What a run leaves besides the files: what it printed, what it complained of, and its exit
code. -/
structure Outcome where
  output : String
  complaints : String
  code : Nat
deriving DecidableEq

namespace Outcome

def success (output : String) : Outcome := ⟨output, "", 0⟩

def failure (p : Palette) (output : String) (e : RunError) : Outcome := ⟨output, e.render p, 1⟩

end Outcome

/-- What a run needs of the machine. -/
structure Host (m : Type → Type) where
  read : Path → m (Except HostError Bytes)
  write : Path → Bytes → m (Except HostError Unit)
  /-- formats with an external tool -/
  format : Tool → String → m (Except FormatError String)
  /-- a clock, in nanoseconds -/
  now : m Nat

/-- A text file's content. -/
def textOf (content : Except HostError Bytes) : Except HostError String :=
  content.bind fun bs => (Utf8.decode bs).mapError fun _ => .notText

/-- The lines of a stage, if they are to be seen. -/
def Args.trace (args : Args) (lines : List String) : String :=
  if args.verbose then Listing.text lines else ""

/-- Sorts tokens into instructions and comments, after those that were met before, which stand in
reverse. -/
def sortTokens (is : List Instruction) (comments : List LocatedComment) :
    List Located → List Instruction × List LocatedComment
  | [] => (is.reverse, comments.reverse)
  | ⟨_, .instruction i⟩ :: ts => sortTokens (i :: is) comments ts
  | ⟨position, .comment text⟩ :: ts => sortTokens is (⟨position, text⟩ :: comments) ts

section

variable {m : Type → Type} [Monad m]

namespace Host

/-- The lines of a stage that began at a time, if they are to be seen. The clock is looked at for
them only. -/
def traceSince (host : Host m) (args : Args) (start : Nat) (lines : Duration → List String) :
    m String :=
  if args.verbose then do return Listing.text (lines ⟨(← host.now) - start⟩) else return ""

/-- Formats a program, with the external tool unless that is to be skipped. -/
def formatFor (host : Host m) (args : Args) (source : String) : m (Except FormatError String) :=
  if args.noFormat then return passthrough source
  else host.format ⟨args.clangFormat, args.style⟩ source

/-- Saves a program: the path that it was saved at. -/
def save (host : Host m) (p : Path) (code : String) : m (Except HostError Path) := do
  match ← host.write p.withCExtension (Utf8.encode code) with
  | .error cause => return .error cause
  | .ok () => return .ok p.withCExtension

end Host

/-- Saves the formatted program if asked to. `shown` is what was printed before. -/
def finish (host : Host m) (p : Palette) (args : Args) (shown code : String) : m Outcome :=
  match args.output with
  | none => return .success shown
  | some path => do
    match ← host.save path code with
    | .error cause => return .failure p shown (.write path.withCExtension cause)
    | .ok path => return .success (shown ++ args.trace (Trace.written p path))

/-- Formats a program, prints it, and goes on to saving it. -/
def present (host : Host m) (p : Palette) (args : Args) (shown source : String) : m Outcome := do
  let shown := shown ++ args.trace (Trace.formatting p)
  let start ← host.now
  match ← host.formatFor args source with
  | .error e => return .failure p shown (.format e)
  | .ok code =>
    let trace ← host.traceSince args start (Trace.formatted p code)
    finish host p args (shown ++ trace ++ if args.verbose then "" else code) code

/-- Folds the instructions of a program, and goes on to formatting. -/
def foldProgram (host : Host m) (p : Palette) (args : Args) (shown : String)
    (is : List Instruction) : m Outcome := do
  let optimizations : Optimizations := if args.noOptimize then .none else .all
  let shown := shown ++ args.trace (Trace.optimizing p optimizations)
  let start ← host.now
  let ops := optimize optimizations is
  let trace ← host.traceSince args start (Trace.optimized p ops)
  present host p args (shown ++ trace) (Listing.program ops)

/-- Reads the tokens of a text, and goes on to folding. -/
def compileText (host : Host m) (p : Palette) (args : Args) (shown text : String) : m Outcome := do
  let shown := shown ++ args.trace (Trace.read p text)
  let start ← host.now
  let sorted := sortTokens [] [] (Lexer.ofText text).tokens
  let trace ← host.traceSince args start (Trace.lexed p sorted.1 sorted.2)
  foldProgram host p args (shown ++ trace) sorted.1

/-- Runs the command line with arguments that were read. -/
def run (host : Host m) (p : Palette) (args : Args) : m Outcome := do
  let shown := args.trace (Trace.running args.file)
  match textOf (← host.read args.file) with
  | .error cause => return .failure p shown (.read args.file cause)
  | .ok text => compileText host p args shown text

end

/-! ## File trees as hosts -/

/-- The files that a run works on, and the times that its clock is going to show: one for each time
that it is looked at. -/
structure World where
  tree : Tree
  times : Nat → Nat

/-- The clock was looked at once. -/
def World.later (w : World) : World := { w with times := fun n => w.times (n + 1) }

/-- An external formatter in a file tree, in which it may write files. -/
abbrev TreeFormatter (m : Type → Type) : Type :=
  Tool → String → Tree → m (Except FormatError String × Tree)

/-- A file tree as a host, with a clock. -/
def treeHostWith {m : Type → Type} [Monad m] (format : TreeFormatter m) :
    Host (StateT World m) where
  read p w := return (w.tree.read p, w)
  write p content w :=
    match w.tree.write p content with
    | .ok t => return (.ok (), { w with tree := t })
    | .error e => return (.error e, w)
  format tool source w := do
    let (formatted, t) ← format tool source w.tree
    return (formatted, { w with tree := t })
  now w := return (w.times 0, w.later)

/-- Runs the command line in a file tree with arguments that were read: the outcome, and the tree
after it. -/
def runIn {m : Type → Type} [Monad m] (format : TreeFormatter m) (p : Palette) (args : Args)
    (w : World) : m (Outcome × Tree) := do
  let (o, w') ← (run (treeHostWith format) p args).run w
  return (o, w'.tree)

end TapeC.CommandLine
