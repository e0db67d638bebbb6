import TapeC.CommandLine.Run

/-!
# The program

Runs the command line on the machine itself. Formatters are scripts, which the library runs; a
file that is no script cannot be started.
-/

namespace TapeC

/-- The reason behind an error of the machine. Its number may come with a minus sign. -/
def HostError.ofMachine : IO.Error → HostError
  | .noFileOrDirectory .. => .notFound
  | .permissionDenied .. => .permissionDenied
  | .inappropriateType _ code details =>
    if code = 20 || code = 0 - 20 then .notADirectory
    else if code = 21 || code = 0 - 21 then .isADirectory
    else .other details
  | e => .other (toString e)

def attempt {α : Type} (action : IO α) : IO (Except HostError α) := do
  match ← action.toBaseIO with
  | .ok a => return .ok a
  | .error e => return .error (.ofMachine e)

def readFile (p : Path) : IO (Except HostError Bytes) :=
  attempt do return (← IO.FS.readBinFile p.display).toList

def writeFile (p : Path) (content : Bytes) : IO (Except HostError Unit) :=
  attempt (IO.FS.writeBinFile p.display ⟨content.toArray⟩)

/-- The paths where a program of that name may lie. -/
def candidates (searchPath : Option Bytes) (name : Bytes) : List Path :=
  if Path.slash ∈ name then [⟨name⟩]
  else
    (Launch.directories (searchPath.getD Launch.defaultSearchPath)).map (Launch.pathIn name)

/-- A bare machine with the files of the real one that may be the formatter. -/
def treeWith (paths : List Path) : IO Tree :=
  paths.foldlM (fun t p => do
    match ← readFile p with
    | .ok content =>
      let base := if p.isAbsolute then [] else t.base
      return { { t with base }.plant p.names (.file content true) with base := t.base }
    | .error _ => return t) .bare

/-- The files that a formatter wrote below the place that relative paths start from. -/
def keepChanges (before after : Tree) : IO Unit :=
  (before.changes after).forM fun (p, content) => discard (writeFile p content)

/-- Waits without end. -/
def waitForever : IO Unit := do
  repeat IO.sleep 1000

def machine (env : Environment) : CommandLine.Host IO where
  read := readFile
  write := writeFile
  format tool source := do
    let t ← treeWith (candidates (env searchPathVariable) (Utf8.encode tool.program))
    if tool.stalls t env source then waitForever
    keepChanges t (tool.treeAfter t env source)
    return tool.format t env source
  now := IO.monoNanosNow

/-- The variables that a run looks at. -/
def variableNames : List String :=
  [CommandLine.formatterVariable, CommandLine.colourVariable, CommandLine.plainVariable,
    searchPathVariable]

/-- Runs the command line on the machine and prints what comes of it. -/
def runProgram (args : List String) : IO UInt32 := do
  let known ← variableNames.mapM fun name => do return (name, ← IO.getEnv name)
  let env : Environment := fun name => (known.lookup name).join.map Utf8.encode
  let outcome ← CommandLine.execute (machine env) env (args.map Utf8.encode)
  IO.print outcome.output
  IO.eprint outcome.complaints
  return outcome.code.toUInt32

end TapeC

def main (args : List String) : IO UInt32 := TapeC.runProgram args
