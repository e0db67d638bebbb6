import TapeC.Host.Script.Builtin.Letters
import TapeC.Host.Script.Fields

/-!
# Variables, arguments and options from the shell

The commands that change what a script knows: its variables, its arguments and its options.
-/

namespace TapeC.Script.Variables

/-- A text in quotes, so that it can be given to a shell again. Single quotes stand in double
ones. -/
def quoted (cs : List Char) : List Char :=
  let parts := cs.splitBy fun a b => (a = '\'') = (b = '\'')
  match parts with
  | [] => ['\'', '\'']
  | parts =>
    let start : List Char := if cs.head? = some '\'' then ['\'', '\''] else []
    start ++ parts.flatMap fun part =>
      if part.head? = some '\'' then '"' :: part ++ ['"'] else '\'' :: part ++ ['\'']

/-- Prints variables in the order of their names. -/
def list (start : List Char) (wanted : Variable → Bool) : Work Unit := do
  let shown := (← get).vars.filter (wanted ·.2)
  (shown.mergeSort fun a b => Pattern.textLe a.1 b.1).forM fun (name, v) =>
    Work.print (start ++ name
      ++ (match v.value with
        | some value => '=' :: quoted value
        | none => [])
      ++ ['\n'])

/-- A name and, after an equals sign, a value. -/
def splitValue (cs : List Char) : List Char × Option (List Char) :=
  let name := cs.takeWhile (· ≠ '=')
  (name, if name.length < cs.length then some (cs.drop (name.length + 1)) else none)

/-- Exports variables, or makes them ones that may not change. -/
def mark (readOnly : Bool) : BuiltinRun := fun _ name args _ => do
  let l ← Letters.read [('p', false)] args
  if l.has 'p' || l.operands.isEmpty then
    list (name ++ [' ']) fun v => if readOnly then v.readOnly else v.exported
  else
    l.operands.forM fun arg => do
      match splitValue arg with
      | (name, some value) => Work.assign name value (!readOnly) readOnly
      | (name, none) =>
        match (← get).binding? name with
        | some v =>
          modify (·.withVariable name
            { v with exported := v.exported || !readOnly, readOnly := v.readOnly || readOnly })
        | none =>
          if !isName name then Work.fail (name ++ ": bad variable name".toList)
          modify (·.withVariable name ⟨none, !readOnly, readOnly⟩)
  return 0

/-- Makes variables local to the function that is being run. -/
def makeLocal : BuiltinRun := fun _ _ args _ => do
  if (← get).locals.isEmpty then Work.fail "not in a function".toList
  args.forM fun arg =>
    let (name, value) := splitValue arg
    Work.makeLocal name value false
  return 0

/-- Takes variables or functions away. -/
def unset : BuiltinRun := fun _ _ args _ => do
  let l ← Letters.read [('v', false), ('f', false)] args
  let ofFunctions := l.chosen.getLast?.any (·.1 = 'f')
  l.operands.forM fun name =>
    if ofFunctions then
      modify fun s => { s with functions := s.functions.filter (·.1 ≠ name) }
    else Work.unset name
  return 0

/-! ## Arguments -/

/-- Gives the script new arguments. -/
def setArguments (arguments : List (List Char)) : Work Unit :=
  modify fun s => { s with arguments, optionPlace := (1, none) }

def shift : BuiltinRun := fun _ _ args _ => do
  let n ← match args with
    | [] => pure 1
    | arg :: _ => Work.number arg
  let arguments := (← get).arguments
  if arguments.length < n then Work.fail "can't shift that many".toList
  setArguments (arguments.drop n)
  return 0

/-! ## Options -/

/-- The options of the shell by their names; not all of them have letters. -/
def optionNames : List (String × Option Char) :=
  [("errexit", some 'e'), ("noglob", some 'f'), ("ignoreeof", some 'I'), ("interactive", some 'i'),
    ("monitor", some 'm'), ("noexec", some 'n'), ("stdin", some 's'), ("xtrace", some 'x'),
    ("verbose", some 'v'), ("vi", some 'V'), ("emacs", some 'E'), ("noclobber", some 'C'),
    ("allexport", some 'a'), ("notify", some 'b'), ("nounset", some 'u'), ("privileged", some 'p'),
    ("nolog", none), ("debug", none)]

/-- Turns an option on or off. Of two ways to edit lines, one is on. -/
def setOption (letter : Char) (on : Bool) : Work Unit := do
  if !optionNames.any (·.2 = some letter) then Work.fail ("Illegal option -".toList ++ [letter])
  modify fun s =>
    let others := s.options.filter fun l =>
      l ≠ letter && !(on && (letter = 'V' && l = 'E' || letter = 'E' && l = 'V'))
    { s with options := if on then letter :: others else others }

/-- Turns an option on or off by its name, or prints all options. -/
def setNamed (name : Option (List Char)) (on : Bool) : Work Unit := do
  match name with
  | some name =>
    match optionNames.lookup (String.ofList name) with
    | some (some letter) => setOption letter on
    | some none => return
    | none =>
      Work.fail ("Illegal option ".toList ++ (if on then '-' else '+') :: 'o' :: ' ' :: name)
  | none =>
    let s ← get
    let isOn (letter : Option Char) : Bool := letter.any s.hasOption
    if on then Work.print "Current option settings\n".toList
    optionNames.forM fun (name, letter) =>
      let cs := name.toList
      Work.print (if on then
          cs ++ List.replicate (16 - cs.length) ' ' ++ (if isOn letter then "on" else "off").toList
            ++ ['\n']
        else (if isOn letter then "set -o " else "set +o ").toList ++ cs ++ ['\n'])

/-- What options of the shell leave. -/
structure Rest where
  operands : List (List Char)
  /-- the options ended with two dashes -/
  afterDashes : Bool
  /-- the first operand is a script itself -/
  isText : Bool

/-- Reads the letters of an argument; with the last one, the name of an option may be asked for.
`starting` says that the shell itself is being started. -/
def readLetters (starting on : Bool) (rest : Rest) : List Char → Work Rest
  | [] => return rest
  | c :: cs => do
    if c = 'c' && starting then readLetters starting on { rest with isText := true } cs
    else if c = 'l' && starting then readLetters starting on rest cs
    else if c = 'o' then
      setNamed rest.operands.head? on
      readLetters starting on { rest with operands := rest.operands.tail } cs
    else
      setOption c on
      readLetters starting on rest cs

/-- Reads options from no more than `n` arguments. -/
def readOptions (starting : Bool) : Nat → Rest → Work Rest
  | 0, rest => return rest
  | n + 1, rest => do
    match rest.operands with
    | ['-'] :: after =>
      if !starting then
        setOption 'x' false
        setOption 'v' false
      return { rest with operands := after }
    | ['-', '-'] :: after => return { rest with operands := after, afterDashes := true }
    | ('-' :: cs) :: after =>
      readOptions starting n (← readLetters starting true { rest with operands := after } cs)
    | ('+' :: cs) :: after =>
      readOptions starting n (← readLetters starting false { rest with operands := after } cs)
    | _ => return rest

/-- Sets options and arguments, or prints all variables. -/
def setAll : BuiltinRun := fun _ _ args _ => do
  if args.isEmpty then list [] fun v => v.value.isSome
  else
    let rest ← readOptions false args.length ⟨args, false, false⟩
    if rest.afterDashes || !rest.operands.isEmpty then setArguments rest.operands
  return 0

/-! ## Reading options of the script -/

/-- What reading one option comes to. -/
structure OptionRead where
  /-- the letter, or what stands for it -/
  letter : Char
  /-- the value that goes with it, if any -/
  value : Option (List Char)
  complaint : Option (List Char)
  next : Nat × Option Nat
  done : Bool

/-- Reads the next option of arguments by the letters that are allowed, from a place on. -/
def readOption (allowed : List Char) (arguments : List (List Char)) (place : Nat × Option Nat) :
    OptionRead :=
  let (index, read) := place
  let before : List Char := if index ≤ 1 then [] else arguments[index - 2]?.getD []
  let left : List Char :=
    match read with
    | some n => before.drop n
    | none => []
  let silent := allowed.head? = some ':'
  let choose (index : Nat) (argument : List Char) : List Char → OptionRead
    | [] => ⟨'?', none, none, (index, none), true⟩
    | c :: cs =>
      let again : Nat × Option Nat :=
        (index, if cs.isEmpty then none else some (argument.length - cs.length))
      if c = ':' || !allowed.contains c then
        if silent then ⟨'?', some [c], none, again, false⟩
        else ⟨'?', none, some ("Illegal option -".toList ++ [c]), again, false⟩
      else if (allowed.dropWhile (· ≠ c)).tail.head? = some ':' then
        match cs, arguments[index - 1]? with
        | [], none =>
          if silent then ⟨':', some [c], none, (index, none), false⟩
          else ⟨'?', none, some ("No arg for -".toList ++ c :: " option".toList), (index, none),
            false⟩
        | [], some value => ⟨c, some value, none, (index + 1, none), false⟩
        | cs, _ => ⟨c, some cs, none, (index, none), false⟩
      else ⟨c, some [], none, again, false⟩
  if !left.isEmpty then choose index before left
  else
    match arguments[index - 1]? with
    | some ['-', '-'] => ⟨'?', none, none, (index + 1, none), true⟩
    | some ('-' :: c :: cs) => choose (index + 1) ('-' :: c :: cs) (c :: cs)
    | _ => ⟨'?', none, none, (index, none), true⟩

def getOptions : BuiltinRun := fun _ _ args _ => do
  match args with
  | allowed :: name :: rest => do
    let s ← get
    let arguments := if rest.isEmpty then s.arguments else rest
    let place := if arguments.length + 1 < s.optionPlace.1 then (1, none) else s.optionPlace
    let o := readOption allowed arguments place
    if let some text := o.complaint then Work.tell (text ++ ['\n'])
    match o.value with
    | some value => Work.assign "OPTARG".toList value false false
    | none => if o.complaint.isSome then Work.unset "OPTARG".toList
    Work.assign "OPTIND".toList (Shell.numeral o.next.1) false false
    Work.assign name [o.letter] false false
    modify fun s => { s with optionPlace := o.next }
    return if o.done then 1 else 0
  | _ => Work.fail "Usage: getopts optstring var [arg...]".toList

/-! ## Reading lines -/

/-- A line that is being read: what it is so far, and how many characters it takes. -/
structure LineRead where
  line : Expansion
  /-- where the text begins that may be split -/
  start : Nat
  escaping : Bool
  taken : Nat

namespace LineRead

/-- Text up to here may be split. -/
def close (l : LineRead) : LineRead :=
  let size := l.line.glyphs.size
  { l with
    line := { l.line with regions := ⟨l.start, size, false⟩ :: l.line.regions }
    start := size }

def add (l : LineRead) (c : Char) (quoted : Bool) : LineRead :=
  { l with line := { l.line with glyphs := l.line.glyphs.push (.char c quoted) } }

/-- Reads characters up to the end of the line; whether it was found. -/
def scan (raw : Bool) (l : LineRead) : List Char → LineRead × Bool
  | [] => (l.close, false)
  | c :: cs =>
    let l := { l with taken := l.taken + 1 }
    if c = '\x00' then scan raw l cs
    else if l.escaping then
      let l := { l.close with escaping := false }
      if c = '\n' then scan raw l cs
      else
        let l := l.add c true
        scan raw { l with start := l.line.glyphs.size } cs
    else if c = '\\' && !raw then scan raw { l with escaping := true } cs
    else if c = '\n' then (l.close, true)
    else scan raw (l.add c false) cs

end LineRead

/-- Reads a line from an open file, looking at more and more of it, no more than `n` times; whether
its end was found. -/
def readLine (raw : Bool) (file : Nat) : Nat → Nat → Work (Expansion × Bool)
  | 0, _ => return (.empty, false)
  | n + 1, size => do
    let (bytes, _) := (← get).kernel.read file size
    let cs := Octets.toChars (bytes.toOption.getD [])
    let (l, found) := LineRead.scan raw ⟨.empty, 0, false, 0⟩ cs
    if !found && cs.length = size then readLine raw file n (4 * size)
    else
      discard (Work.withKernel (·.read file l.taken))
      return (l.line, found)

/-- Gives fields to variables. -/
def assignFields : List (List Char) → List (List Char) → Work Unit
  | [], _ => return
  | name :: names, fields => do
    Work.assign name (fields.head?.getD []) false false
    assignFields names fields.tail

def read : BuiltinRun := fun _ _ args _ => do
  let l ← Letters.read [('p', true), ('r', false)] args
  if l.operands.isEmpty then Work.fail "arg count".toList
  let s ← get
  let (line, found) ← readLine (l.has 'r') (s.file Descriptor.input) 12 256
  let fields := line.fields s.separators (some l.operands.length)
  assignFields l.operands (fields.map Glyph.text)
  return if found then 0 else 1

end TapeC.Script.Variables
