import TapeC.Host.Script.Builtin.Variables

/-!
# Finding commands

The name of a command stands for a function, for a command that is built in, or for a program,
which is looked up in the search path unless the name is a path itself.
-/

namespace TapeC.Script.Lookup

/-! ## Names -/

/-- The commands that are built in, besides those whose names are reserved. -/
def usualNames : List String :=
  ["[", "alias", "bg", "cd", "chdir", "command", "echo", "false", "fg", "getopts", "hash", "jobs",
    "kill", "printf", "pwd", "read", "test", "true", "type", "ulimit", "umask", "unalias", "wait"]

/-- The command is built in, and its errors end the script. -/
def isSpecial (name : List Char) : Bool := Reading.reservedNames.contains (String.ofList name)

def isBuiltin (name : List Char) : Bool :=
  isSpecial name || usualNames.contains (String.ofList name)

/-- The arguments of the command may be assignments. -/
def assigns (name : List Char) : Bool :=
  ["export", "local", "readonly"].contains (String.ofList name)

/-! ## Programs -/

/-- The reason as it is told of a program that cannot be started. -/
def reason (e : HostError) : List Char :=
  match e with
  | .notFound | .notADirectory => "not found".toList
  | e => e.reason.toList

/-- The paths where a program of that name may lie. -/
def candidates (searchPath name : List Char) : List (List Char) :=
  (Text.split ':' searchPath).map fun d => if d.isEmpty then name else d ++ '/' :: name

/-- Why the file at a path is no program, if it is none. -/
def refusal? (s : Shell) (path : List Char) : Option HostError :=
  let t := s.kernel.treeFrom s.process.directory
  match t.resolve ⟨Octets.ofChars path⟩ with
  | .error e => some e
  | .ok place =>
    match t.node? place with
    | none => some .notFound
    | some .directory | some (.file _ false) => some .permissionDenied
    | some _ => none

/-- The reason that is told of if there is no program, after one more path was looked at. -/
def worse (before e : HostError) : HostError :=
  match e with
  | .notFound | .notADirectory => before
  | e => e

/-- The first path of a list that is one of a program. -/
def locateIn (s : Shell) (told : HostError) : List (List Char) → Except HostError (List Char)
  | [] => .error told
  | path :: paths =>
    match refusal? s path with
    | none => .ok path
    | some e => locateIn s (worse told e) paths

/-- What the name of a command stands for. -/
inductive Target where
  | function (body : Command)
  | builtin
  | program
  | unknown (cause : HostError)

/-- What a name stands for. Functions may be left out. -/
def find (s : Shell) (functions : Bool) (searchPath name : List Char) : Target :=
  if name.contains '/' then .program
  else
    match if functions then s.functions.lookup name else none with
    | some body => .function body
    | none =>
      if isBuiltin name then .builtin
      else
        match locateIn s .notFound (candidates searchPath name) with
        | .ok _ => .program
        | .error e => .unknown e

/-- Remembers that a program was found. -/
def remember (name : List Char) : Work Unit := modify fun s =>
  if name.contains '/' || s.located.contains name then s
  else { s with located := name :: s.located }

/-! ## Starting -/

/-- The path of the program that runs texts. -/
def shellPath : List Char := "/bin/sh".toList

/-- Makes the process the program at a path. A file of another form is a script. -/
def becomeAt (r : Runner) (path name : List Char) (args : List (List Char)) :
    Work (Except HostError WaitStatus) := do
  match ← r.become path name args with
  | .error .notStartable => r.become shellPath shellPath (path :: args)
  | result => return result

/-- Makes the process the program at the first of some paths that there is one at. -/
def becomeFirst (r : Runner) (name : List Char) (args : List (List Char)) (told : HostError) :
    List (List Char) → Work (Except HostError WaitStatus)
  | [] => return .error told
  | path :: paths => do
    match ← becomeAt r path name args with
    | .ok status => return .ok status
    | .error e => becomeFirst r name args (worse told e) paths

/-- Makes the process a program, or ends it with a complaint. -/
def execute (r : Runner) (searchPath name : List Char) (args : List (List Char)) : Work Nat := do
  let paths := if name.contains '/' then [name] else candidates searchPath name
  match ← becomeFirst r name args .notFound paths with
  | .ok status => throw (.over status)
  | .error e =>
    let status := if [.notFound, .notADirectory, .nameTooLong, .tooManyLevels].contains e then 127
      else 126
    modify fun s => { s with status }
    Work.warn (name ++ ':' :: ' ' :: reason e)
    throw .ended

/-- Makes the process a program for good. -/
def exec : BuiltinRun := fun r _ args _ => do
  match args with
  | [] => return 0
  | name :: args => execute r (← get).searchPath name args

/-! ## Telling -/

/-- The alias as it is written. -/
def aliasText (name value : List Char) : List Char := name ++ '=' :: Variables.quoted value

/-- Tells what a name stands for, in a sentence or so that it can be used. The search path is the
usual one unless it is given. -/
def describe (verbose : Bool) (searchPath : Option (List Char)) (name : List Char) :
    Work Nat := do
  let s ← get
  let say (sentence text : List Char) : Work Nat := do
    Work.print ((if verbose then name ++ sentence else text) ++ ['\n'])
    return 0
  let unknown : Work Nat := do
    if verbose then Work.print (name ++ ": not found\n".toList)
    return 127
  if (Token.ofKeyword? name).isSome then say " is a shell keyword".toList name
  else
    match s.aliases.lookup name with
    | some value =>
      say (" is an alias for ".toList ++ value) ("alias ".toList ++ aliasText name value)
    | none =>
      match find s true (searchPath.getD s.searchPath) name with
      | .function _ => say " is a shell function".toList name
      | .builtin =>
        say (if isSpecial name then " is a special shell builtin" else " is a shell builtin").toList
          name
      | .unknown _ => unknown
      | .program =>
        if name.contains '/' then
          if refusal? s name = some .notFound || refusal? s name = some .notADirectory then unknown
          else say (" is ".toList ++ name) name
        else
          let path := (locateIn s .notFound
            (candidates (searchPath.getD s.searchPath) name)).toOption.getD []
          let tracked := searchPath.isNone && s.located.contains name
          if searchPath.isNone then remember name
          say ((if tracked then " is a tracked alias for " else " is ").toList ++ path) path

def type : BuiltinRun := fun _ _ args _ => do
  let statuses ← args.mapM (describe true none)
  return if statuses.any (· ≠ 0) then 127 else 0

/-- Tells of a command, if that is what the options ask for. -/
def command : BuiltinRun := fun _ _ args _ => do
  let l ← Letters.read [('p', false), ('v', false), ('V', false)] args
  match l.operands with
  | name :: _ =>
    if l.has 'v' || l.has 'V' then
      describe (l.has 'V') (if l.has 'p' then some usualSearchPath.toList else none) name
    else return 0
  | [] => return 0

/-- Finds programs, or forgets those that were found. -/
def hash : BuiltinRun := fun _ _ args _ => do
  let l ← Letters.read [('r', false)] args
  if l.has 'r' then
    modify fun s => { s with located := [] }
    return 0
  let s ← get
  if l.operands.isEmpty then
    s.located.reverse.forM fun name =>
      match locateIn s .notFound (candidates s.searchPath name) with
      | .ok path => Work.print (path ++ ['\n'])
      | .error _ => pure ()
    return 0
  let missing ← l.operands.filterM fun name => do
    match find s true s.searchPath name with
    | .unknown e =>
      Work.warn (name ++ ':' :: ' ' :: reason e)
      return true
    | .program =>
      remember name
      return false
    | _ => return false
  return if missing.isEmpty then 0 else 1

/-! ## Aliases -/

def nameAlias : BuiltinRun := fun _ _ args _ => do
  let s ← get
  if args.isEmpty then
    s.aliases.forM fun (name, value) => Work.print (aliasText name value ++ ['\n'])
    return 0
  let missing ← args.filterM fun arg => do
    match arg.head?, Variables.splitValue arg.tail with
    | some c, (name, some value) =>
      modify fun s => { s with
        aliases := (c :: name, value) :: s.aliases.filter (·.1 ≠ c :: name) }
      return false
    | _, _ =>
      match (← get).aliases.lookup arg with
      | some value =>
        Work.print (aliasText arg value ++ ['\n'])
        return false
      | none =>
        Work.tell ("alias: ".toList ++ arg ++ " not found\n".toList)
        return true
  return if missing.isEmpty then 0 else 1

def unalias : BuiltinRun := fun _ _ args _ => do
  let l ← Letters.read [('a', false)] args
  if l.has 'a' then
    modify fun s => { s with aliases := [] }
    return 0
  let missing ← l.operands.filterM fun name => do
    let known := ((← get).aliases.lookup name).isSome
    if known then modify fun s => { s with aliases := s.aliases.filter (·.1 ≠ name) }
    else Work.tell ("unalias: ".toList ++ name ++ " not found\n".toList)
    return !known
  return if missing.isEmpty then 0 else 1

end TapeC.Script.Lookup
