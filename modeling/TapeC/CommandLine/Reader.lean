import TapeC.CommandLine.Args
import TapeC.CommandLine.Flag
import TapeC.CommandLine.Similarity

/-!
# Reading arguments

The rules of the library that reads the arguments, so that the program can be run. A run goes by
what was read (`Args`), and nothing that is said of runs depends on how.

The arguments are read in one pass. A flag takes effect when it is met; a value and the file name
are *pending* until the next argument that is no value, and are checked then. So an argument that
is not understood is told before a pending one is checked, while a flag that is understood comes
after the check.

Arguments are byte texts. Paths may hold any bytes; the values of the other flags are text.
-/

namespace TapeC.CommandLine

/-! ## Errors -/

/-- Advice that comes with an argument that is not understood. -/
inductive Tip where
  /-- there is a flag with a similar name -/
  | similar (f : Flag)
  /-- how to give the argument as a value -/
  | asValue (arg : String)
deriving DecidableEq

/-- Why arguments are refused. Some reasons come with what the usage line is to show. -/
inductive ArgError where
  | missingFile (shown : List Flag)
  | unexpected (arg : String) (tip : Option Tip) (usage : Usage)
  | missingValue (arg : String)
  | repeated (f : Flag)
  | unneededValue (f : Flag) (value : String) (usage : Usage)
  | notText
deriving DecidableEq

namespace ArgError

/-- What is wrong. -/
def wrong (s : String) : String := Terminal.styled [.yellow] s

/-- What would be right. -/
def right (s : String) : String := Terminal.styled [.green] s

/-- A text between apostrophes. -/
def inQuotes (s : String) : String := "'" ++ s ++ "'"

def text : ArgError → String
  | .missingFile _ =>
    "the following required arguments were not provided:\n  " ++ right fileDisplay
  | .unexpected arg _ _ => "unexpected argument " ++ inQuotes (wrong arg) ++ " found"
  | .missingValue arg =>
    "a value is required for " ++ inQuotes (wrong arg) ++ " but none was supplied"
  | .repeated f =>
    "the argument " ++ inQuotes (wrong f.display) ++ " cannot be used multiple times"
  | .unneededValue f value _ =>
    "unexpected value " ++ inQuotes (wrong value) ++ " for " ++ inQuotes f.styled
      ++ " found; no more were expected"
  | .notText => "invalid UTF-8 was detected in one or more arguments"

def tip? : ArgError → Option String
  | .unexpected _ (some (.similar f)) _ =>
    some ("a similar argument exists: " ++ inQuotes (right f.written))
  | .unexpected _ (some (.asValue arg)) _ =>
    some ("to pass " ++ inQuotes (wrong arg) ++ " as a value, use "
      ++ inQuotes (right ("-- " ++ arg)))
  | _ => none

def usage? : ArgError → Option Usage
  | .missingFile shown => some (.flags shown)
  | .unexpected _ _ usage => some usage
  | .missingValue _ => none
  | .repeated _ => some .general
  | .unneededValue _ _ usage => some usage
  | .notText => some .general

/-- The whole complaint: the error, advice if there is any, the usage line, and a hint. -/
def message (e : ArgError) : String :=
  Terminal.styled [.bold, .red] "error:" ++ " " ++ e.text ++ "\n\n"
    ++ (match e.tip? with
      | some tip => "  " ++ right "tip:" ++ " " ++ tip ++ "\n\n"
      | none => "")
    ++ (match e.usage? with
      | some usage => usage.line ++ "\n\n"
      | none => "")
    ++ "For more information, try " ++ inQuotes (literal Flag.help.written) ++ ".\n"

end ArgError

/-! ## Reading -/

/-- What the arguments so far ask for. `flags` are the flags that took effect, in order. -/
structure Given where
  flags : List Flag
  file : Option Path
  output : Option Path
  clangFormat : Option String
  style : Option String

/-- An argument that is not checked yet. -/
inductive Pending where
  /-- a flag that takes a value, and its value if it was met -/
  | value (f : Flag) (v : Option Bytes)
  | file (name : Bytes)

/-- A reader between two arguments. -/
structure Reader where
  given : Given
  pending : Option Pending
  /-- a file name was met -/
  hasFile : Bool
  /-- all further arguments are file names -/
  trailing : Bool

/-- Why the reading of arguments ends early. -/
inductive Stop where
  | help
  | version
  | refused (e : ArgError)

namespace Given

def nothing : Given := ⟨[], none, none, none, none⟩

def addFlag (g : Given) (f : Flag) : Given := { g with flags := g.flags ++ [f] }

/-- The flag takes effect with a value. A repeated flag loses its effect and is refused. -/
def setValue (g : Given) (f : Flag) (v : Bytes) : Given × Option ArgError :=
  if f ∈ g.flags then ({ g with flags := g.flags.erase f }, some (.repeated f))
  else
    let g := g.addFlag f
    match f with
    | .output =>
      if v.isEmpty then (g, some (.missingValue f.display))
      else ({ g with output := some ⟨v⟩ }, none)
    | .clangFormat =>
      match Utf8.decode? v with
      | some s => ({ g with clangFormat := some s }, none)
      | none => (g, some .notText)
    | .style =>
      match Utf8.decode? v with
      | some s => ({ g with style := some s }, none)
      | none => (g, some .notText)
    | _ => (g, none)

/-- Checks a pending argument, which takes effect if it may. -/
def commit (g : Given) : Pending → Given × Option ArgError
  | .value f none => (g, some (.missingValue f.display))
  | .value f (some v) => g.setValue f v
  | .file name =>
    if name.isEmpty then (g, some (.missingValue fileDisplay))
    else ({ g with file := some ⟨name⟩ }, none)

end Given

namespace Reader

def start : Reader := ⟨.nothing, none, false, false⟩

/-- Checks the pending argument and puts its error, if any, aside. -/
def settled (r : Reader) : Reader × Option ArgError :=
  match r.pending with
  | none => (r, none)
  | some p => ({ r with given := (r.given.commit p).1, pending := none }, (r.given.commit p).2)

/-- Checks the pending argument. -/
def settle (r : Reader) : Except Stop Reader :=
  match r.settled with
  | (r, none) => .ok r
  | (_, some e) => .error (.refused e)

/-- A flag without a value takes effect. -/
def meet (r : Reader) (f : Flag) : Except Stop Reader := do
  let r ← r.settle
  match f with
  | .help => .error .help
  | .version => .error .version
  | f =>
    if f ∈ r.given.flags then .error (.refused (.repeated f))
    else .ok { r with given := r.given.addFlag f }

/-- A flag that takes a value, which is written together with it or is the next argument. -/
def meetValue (r : Reader) (f : Flag) (attached : Option Bytes) : Except Stop Reader := do
  let r ← r.settle
  match attached with
  | none => .ok { r with pending := some (.value f none) }
  | some v =>
    match r.given.setValue f v with
    | (g, none) => .ok { r with given := g }
    | (_, some e) => .error (.refused e)

/-- The flags in effect and one more. -/
def shownWith (g : Given) (f : Flag) : List Flag :=
  if f ∈ g.flags then g.flags else g.flags ++ [f]

/-- A long flag that there is not. The usage line shows the flags in effect, unless there is no
other argument at all. -/
def unknownLong (r : Reader) (name : String) : Stop :=
  let g := r.settled.1.given
  let arg := "--" ++ name
  match mostSimilar name (Flag.all.map fun f => (f.long, f)) with
  | some f => .refused (.unexpected arg (some (.similar f)) (.flags (shownWith g f)))
  | none =>
    let isFirst := g.flags.isEmpty && !r.hasFile
    .refused (.unexpected arg (some (.asValue arg)) (if isFirst then .general else .flags g.flags))

/-- A value for a flag that takes none. The usage line shows the flag, but after an argument that
is in effect it leaves the choice between all that say something about the run. -/
def unneeded (r : Reader) (f : Flag) (value : String) : Stop :=
  let isFirst := r.given.flags.isEmpty && r.given.file.isNone
  .refused (.unneededValue f value
    (if isFirst then .flags [f] else .choice (if f.isSetting then [] else [f])))

def equalsSign : UInt8 := 0x3D

def dash : UInt8 := 0x2D

/-- Reads a long flag, of which the dashes are taken off. -/
def long (r : Reader) (body : Bytes) : Except Stop Reader :=
  let name := body.takeWhile (· != equalsSign)
  let value := (body.dropWhile (· != equalsSign)).tail
  let attached := if equalsSign ∈ body then some value else none
  match (Utf8.decode? name).bind Flag.ofLong? with
  | none => .error (r.unknownLong (Utf8.decodeLossy name))
  | some f =>
    if f.takesValue then r.meetValue f attached
    else
      match attached with
      | none => r.meet f
      | some v => .error (r.unneeded f (Utf8.decodeLossy v))

/-- A letter that is no flag. -/
def unknownLetter (rest : Bytes) : Stop :=
  let arg := "-" ++ Utf8.decodeLossy rest
  .refused (.unexpected arg (some (.asValue arg)) .general)

/-- Reads flags that are joined by their letters; `rest` are the bytes of the argument from the
first of the pieces on. A flag that takes a value gets the bytes after it, less an equals sign. -/
def letters (r : Reader) (rest : Bytes) : List Utf8.Piece → Except Stop Reader
  | [] => .ok r
  | .scalar c :: ps =>
    match Flag.ofLetter? c with
    | none => .error (unknownLetter (rest.take c.utf8Size))
    | some f =>
      let after := rest.drop c.utf8Size
      if f.takesValue then
        r.meetValue f (if after.isEmpty then none
          else some (if after.head? = some equalsSign then after.tail else after))
      else do
        let r ← r.meet f
        r.letters after ps
  | _ :: _ => .error (unknownLetter rest)

/-- Reads a file name. There is one only. -/
def positional (r : Reader) (arg : Bytes) : Except Stop Reader :=
  if r.hasFile then .error (.refused (.unexpected (Utf8.decodeLossy arg) none .general))
  else do
    let r ← r.settle
    .ok { r with pending := some (.file arg), hasFile := true }

/-- Reads one argument. -/
def step (r : Reader) (arg : Bytes) : Except Stop Reader :=
  if r.trailing then r.positional arg
  else if arg = [dash, dash] then .ok { r with trailing := true }
  else if [dash, dash].isPrefixOf arg then r.long (arg.drop 2)
  else if arg.head? = some dash && arg ≠ [dash] then r.letters arg.tail (Utf8.pieces arg.tail)
  else
    match r.pending with
    | some (.value f none) => .ok { r with pending := some (.value f (some arg)) }
    | _ => r.positional arg

/-- What is asked for when all arguments are read. The environment says which formatter to run if
no flag does. -/
def finish (r : Reader) (preset : Option Bytes) : Except Stop Args := do
  let r ← r.settle
  let g ←
    if .clangFormat ∈ r.given.flags then .ok r.given
    else
      match preset with
      | none => .ok r.given
      | some v =>
        match r.given.setValue .clangFormat v with
        | (g, none) => .ok g
        | (_, some e) => .error (.refused e)
  match g.file with
  | none => .error (.refused (.missingFile g.flags))
  | some file =>
    .ok {
      file
      output := g.output
      verbose := .verbose ∈ g.flags
      noOptimize := .noOptimize ∈ g.flags
      noFormat := .noFormat ∈ g.flags
      clangFormat := g.clangFormat.getD Tool.defaultProgram
      style := g.style.getD Tool.defaultStyle }

end Reader

/-- Reads the arguments; `preset` is what the environment says about the formatter. -/
def readArgs (preset : Option Bytes) (args : List Bytes) : Except Stop Args := do
  (← args.foldlM Reader.step Reader.start).finish preset

end TapeC.CommandLine
