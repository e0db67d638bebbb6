import TapeC.Host.Launch
import TapeC.Text.Blank

/-!
# Formatters

A formatter lays out the generated program. `Tool` is an external one: the program is written to
its input, its input is closed, and then it is waited for (`formatWith`). `judge` says what comes
of it. The exit status decides first, since it explains why a tool may have stopped reading; then
whether the tool took the whole program; then whether its output is text.
-/

namespace TapeC

inductive FormatError where
  /-- the tool could not be started -/
  | spawn (program : String) (cause : HostError)
  /-- the tool did not take the program -/
  | io (cause : HostError)
  /-- the tool ended without success, with these complaints -/
  | failed (status : WaitStatus) (complaints : String)
  /-- the tool's output is not UTF-8 -/
  | notText (fault : Utf8.Fault)
deriving DecidableEq

namespace FormatError

def message : FormatError → String
  | .spawn program _ => "Couldn't start formatter \x60" ++ program ++ "\x60"
  | .io _ => "IO Error while talking to the formatter"
  | .failed status complaints => "Formatter exited with " ++ status.render ++ ": " ++ complaints
  | .notText _ => "Formatter produced invalid UTF-8"

/-- What lies behind the error, outermost first. -/
def causes : FormatError → List String
  | .spawn _ cause => [cause.message]
  | .io cause => [cause.message]
  | .failed _ _ => []
  | .notText fault => [fault.message]

end FormatError

/-- Turns a program text into its final layout. -/
abbrev Formatter := String → Except FormatError String

/-- Leaves the program as it is. -/
def passthrough : Formatter := .ok

/-! ## External tools -/

/-- An external formatter and the style that it is asked for. -/
structure Tool where
  program : String
  style : String
deriving DecidableEq

/-- What a tool leaves when it ends. -/
structure ToolEnd where
  output : Bytes
  complaints : Bytes
  status : WaitStatus

/-- What a tool that was started did: whether it took all that was written to it, and what it left
when it ended. -/
structure ToolRun where
  written : Except HostError Unit
  output : Bytes
  complaints : Bytes
  status : WaitStatus

def ToolRun.ended (r : ToolRun) : ToolEnd := ⟨r.output, r.complaints, r.status⟩

/-- What can be done to a tool. -/
structure ToolHost (m : Type → Type) where
  /-- starts the tool, with pipes for its input, its output and its complaints -/
  start : Tool → m (Except HostError Unit)
  /-- writes the whole text to the tool's input, unless the tool stops taking it -/
  write : Bytes → m (Except HostError Unit)
  closeInput : m Unit
  /-- reads what the tool leaves, and waits for it to end -/
  wait : m (Except HostError ToolEnd)

namespace Tool

def defaultProgram : String := "clang-format"

def defaultStyle : String := "\x7bIndentWidth: 4\x7d"

def default : Tool := ⟨defaultProgram, defaultStyle⟩

/-- The tool's arguments. The program comes over its input, so the tool is told its language by a
file name. -/
def arguments (tool : Tool) : List String :=
  ["--style=" ++ tool.style, "--assume-filename=main.c"]

/-- Complaints as they are told: read lossily, without the blanks at either end. -/
def told (complaints : Bytes) : String :=
  String.ofList (Text.trim (Utf8.decodeLossy complaints).toList)

/-- What comes of a tool that was started. -/
def judge (r : ToolRun) : Except FormatError String :=
  if !r.status.isSuccess then .error (.failed r.status (told r.complaints))
  else
    match r.written with
    | .error cause => .error (.io cause)
    | .ok () => (Utf8.decode r.output).mapError .notText

/-- Formats a program with a tool. Whether the program could be written is kept aside until the tool
has ended. -/
def formatWith {m : Type → Type} [Monad m] (tool : Tool) (host : ToolHost m) (source : String) :
    m (Except FormatError String) := do
  match ← host.start tool with
  | .error cause => return .error (.spawn tool.program cause)
  | .ok () =>
    let written ← host.write (Utf8.encode source)
    host.closeInput
    match ← host.wait with
    | .error cause => return .error (.io cause)
    | .ok ended => return judge ⟨written, ended.output, ended.complaints, ended.status⟩

/-! ## Tools of a file tree -/

/-- The size of the parts of a pipe. A part is free again when it is read to its end. -/
def pipePart : Nat := 4096

/-- Whether a text can be written to a program that ends after reading `read` bytes of it. -/
def accepted (size read : Nat) : Except HostError Unit :=
  if size ≤ Pipe.capacity + read / pipePart * pipePart then .ok () else .error .brokenPipe

/-- How a program of the tree behaves on what is written to it. -/
def behaviour (t : Tree) (env : Environment) (p : Program) (source : Bytes) : ToolRun :=
  let f := Launch.run t env p source
  ⟨accepted source.length (source.length - f.unread.length), f.output, f.complaints, f.status⟩

/-- A tool that behaves in some way on what is written to it, or cannot be started. The state is
what it did, once it was written to. -/
def behaving (start : Except HostError (Bytes → ToolRun)) : ToolHost (StateM (Option ToolRun)) where
  start _ := return start.map fun _ => ()
  write bs := do
    match start with
    | .error cause => return .error cause
    | .ok behave =>
      let r := behave bs
      set (some r)
      return r.written
  closeInput := return
  wait := do
    match ← get with
    | some r => return .ok r.ended
    | none => return start.map fun behave => (behave []).ended

/-- The program of the tree that the tool is. -/
def program? (tool : Tool) (t : Tree) (env : Environment) : Except HostError Program :=
  Launch.find t (env searchPathVariable) (Utf8.encode tool.program)
    (tool.arguments.map Utf8.encode)

/-- Formats a program with the tool as it is found in a file tree. -/
def format (tool : Tool) (t : Tree) (env : Environment) : Formatter := fun source =>
  ((tool.formatWith (behaving ((tool.program? t env).map (behaviour t env))) source).run none).1

/-- The tool and its caller come to wait for each other: the tool writes more than the pipe holds,
and the caller, who still has to write a part of the program, does not read. -/
def stalls (tool : Tool) (t : Tree) (env : Environment) (source : String) : Bool :=
  match tool.program? t env with
  | .error _ => false
  | .ok p => (Launch.run t env p (Utf8.encode source)).stalled

/-- The file tree after the tool has formatted a program. A tool may write files of its own. -/
def treeAfter (tool : Tool) (t : Tree) (env : Environment) (source : String) : Tree :=
  match tool.program? t env with
  | .error _ => t
  | .ok p => (Launch.run t env p (Utf8.encode source)).tree

end Tool

end TapeC
