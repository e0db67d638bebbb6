import TapeC.CommandLine.Pipeline
import TapeC.CommandLine.Reader

/-!
# The command line

The whole program: the arguments are read, and a run does what they ask for, unless they are refused
or ask for help or for the version.
-/

namespace TapeC.CommandLine

/-- The name of the variable that asks for texts without styles. -/
def plainVariable : String := "NO_COLOR"

def isSet (env : Environment) (name : String) : Bool := !((env name).getD []).isEmpty

/-- A text for terminals as it is printed. What is said about the arguments keeps its styles only
if the variable for colours is set, to whatever, and the one for plain texts is not. -/
def printed (env : Environment) (text : String) : String :=
  if isSet env colourVariable && !isSet env plainVariable then text else Terminal.strip text

/-- Reads the arguments and does what they ask for. -/
def execute {m : Type → Type} [Monad m] (host : Host m) (env : Environment) (args : List Bytes) :
    m Outcome :=
  match readArgs (env formatterVariable) args with
  | .error .help =>
    return .success (printed env (helpText (Utf8.decodeLossy ((env formatterVariable).getD []))))
  | .error .version => return .success versionText
  | .error (.refused e) => return ⟨"", printed env e.message, 2⟩
  | .ok args => run host (paletteOf env) args

/-- Formatters as programs of the tree, in which they may write files. A formatter that stalls is
waited for without end. -/
def programFormatter (env : Environment) : TreeFormatter Option := fun tool source t =>
  if tool.stalls t env source then none
  else some (tool.format t env source, tool.treeAfter t env source)

/-- Runs the command line in a file tree: the outcome, and the tree after it, if the run ends. Its
clock goes on by a nanosecond each time that it is looked at. -/
def executeIn (t : Tree) (env : Environment) (args : List Bytes) : Option (Outcome × Tree) := do
  let (o, w) ← (execute (treeHostWith (programFormatter env)) env args).run ⟨t, id⟩
  return (o, w.tree)

end TapeC.CommandLine
