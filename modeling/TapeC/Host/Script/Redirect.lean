import TapeC.Host.Script.Builtin.Flow
import TapeC.Host.Script.Expansion

/-!
# Redirections

The words of redirections are expanded first; then they are opened one by one, and each changes
what a descriptor of the shell stands for. What was changed for a command is changed back after
it.
-/

namespace TapeC.Script

/-- A redirection whose word was expanded. -/
inductive Redirect where
  | file (stream : Nat) (kind : FileUse) (path : List Char)
  /-- the stream is what another one is, or it is closed -/
  | copy (stream : Nat) (source : Option Nat)
  | document (stream number : Nat)

namespace Redirect

def stream : Redirect → Nat
  | file stream _ _ | copy stream _ | document stream _ => stream

/-- Complains of a word that stands for no stream. -/
def complainOfStream {α : Type} : Work α := do
  modify fun s => { s with line := s.lineRead }
  Work.fail "Syntax error: Bad fd number".toList

/-- Expands the word of a redirection. -/
def ofRedirection (r : Runner) : Redirection → Work Redirect
  | .file stream kind w => return .file stream kind (← Work.textOf r .withTilde w)
  | .copy stream w => do
    match ← Work.fieldsOf r w with
    | [] => Work.fail "redir error".toList
    | ['-'] :: _ => return .copy stream none
    | [c] :: _ =>
      if c.isDigit then return .copy stream (some (c.toNat - '0'.toNat)) else complainOfStream
    | _ => complainOfStream
  | .document stream number => return .document stream number

/-- What is said of a file that cannot be opened. -/
def refusal (kind : FileUse) (path : List Char) (e : HostError) : List Char :=
  if kind = .read then "cannot open ".toList ++ path ++ ':' :: ' ' :: Flow.openReason e
  else
    let reason := match e with
      | .notFound | .notADirectory => "Directory nonexistent".toList
      | e => e.reason.toList
    "cannot create ".toList ++ path ++ ':' :: ' ' :: reason

/-- How a file is opened. Files that are there may be kept from being replaced. -/
def mode (s : Shell) : FileUse → OpenMode
  | .read => .read
  | .write => if s.hasOption 'C' then .create else .replace
  | .overwrite => .replace
  | .append => .append
  | .update => .update

def setDescriptor (descriptor f : Nat) : Work Unit := modify fun s =>
  { s with process.descriptors := s.process.descriptors.set descriptor f }

def closeDescriptor (descriptor : Nat) : Work Unit := modify fun s =>
  { s with process.descriptors := s.process.descriptors.close descriptor }

/-- Opens a redirection. -/
def apply (r : Runner) : Redirect → Work Unit
  | .file stream kind path => do
    let s ← get
    let opened ← Work.withKernel fun k =>
      k.openPath s.process.descriptors s.process.directory ⟨Octets.ofChars path⟩ (mode s kind)
    match opened with
    | .ok f => setDescriptor stream f
    | .error e =>
      let mustBeFree := mode s kind = .create && e = .isADirectory
      Work.fail (refusal (if mustBeFree then .read else kind) path e)
  | .copy stream none => closeDescriptor stream
  | .copy stream (some source) => do
    if source ≠ stream then
      match (← get).process.descriptors.lookup source with
      | some f => setDescriptor stream f
      | none => Work.fail (Shell.numeral source ++ ": Bad file descriptor".toList)
  | .document stream number => do
    let w := ((← get).documents.lookup number).getD []
    let text ← Work.textOf r .document w
    let reading ← Work.withKernel fun k =>
      let (reading, _, k) := k.addPipe (Octets.ofChars text)
      (reading, k)
    setDescriptor stream reading

/-- The streams that redirections change, with what they stood for. -/
def changed (s : Shell) (rs : List Redirect) : List (Nat × Option Nat) :=
  (rs.map stream).eraseDups.map fun d => (d, s.process.descriptors.lookup d)

/-- Changes streams back to what they stood for. -/
def restore (before : List (Nat × Option Nat)) : Work Unit :=
  before.forM fun (d, was) =>
    match was with
    | some f => setDescriptor d f
    | none => closeDescriptor d

/-- Opens redirections; whether all could be opened. -/
def applyAll (r : Runner) (rs : List Redirect) : Work Bool := do
  let work : Work Bool := do
    rs.forM (apply r)
    return true
  tryCatch work fun stop =>
    match stop with
    | .failed => return false
    | stop => throw stop

end Redirect

end TapeC.Script
