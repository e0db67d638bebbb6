import TapeC.Host.Script.Arithmetic
import TapeC.Host.Script.Fields
import TapeC.Host.Script.Runner

/-!
# Expanding words

What a word stands for: its marks are gone through in order, values are put in for parameters, the
output of commands and the values of expressions. Where fields are asked for, the outcome is split,
and a field that is a pattern gives way to the paths that it fits.
-/

namespace TapeC.Script

/-- How a word is expanded. -/
structure Mode where
  /-- the word is split into fields -/
  fields : Bool
  /-- a tilde at the beginning stands for a directory -/
  tilde : Bool
  /-- the word assigns a value, which may have tildes after its colons and its equals sign -/
  assigns : Bool
  /-- the equals sign was met -/
  named : Bool
  /-- the word is the one that belongs to a parameter -/
  ofParameter : Bool
  quoted : Bool
  /-- the word is passed over -/
  discards : Bool

namespace Mode

def plain : Mode := ⟨false, false, false, false, false, false, false⟩

/-- The words of a command. -/
def fieldsWithTilde : Mode := { plain with fields := true, tilde := true }

def withTilde : Mode := { plain with tilde := true }

def assignment : Mode := { plain with assigns := true }

def document : Mode := { plain with quoted := true }

end Mode

namespace Expansion

def add (e : Expansion) (c : Char) (quoted : Bool) : Expansion :=
  { e with glyphs := e.glyphs.push (.char c quoted) }

def addAll (e : Expansion) (cs : List Char) (quoted : Bool) : Expansion :=
  { e with glyphs := cs.foldl (fun gs c => gs.push (.char c quoted)) e.glyphs }

/-- Splits what was added from a place on. -/
def mark (e : Expansion) (start : Nat) (argumentsOnly : Bool) : Expansion :=
  { e with regions := ⟨start, e.glyphs.size, argumentsOnly⟩ :: e.regions }

/-- Takes back what was added from a place on. -/
def truncate (e : Expansion) (size : Nat) : Expansion :=
  ⟨e.glyphs.take size, (e.regions.filter (·.start < size)).map fun r =>
    { r with stop := min r.stop size }⟩

/-- The glyphs from a place on. -/
def since (e : Expansion) (start : Nat) : List Glyph := slice e.glyphs start e.glyphs.size

end Expansion

abbrev Expanding := StateT Expansion Work

namespace Expanding

def shell : Expanding Shell := fun e => do return (← get, e)

def work {α : Type} (w : Work α) : Expanding α := fun e => do return (← w, e)

/-! ## Tildes -/

/-- The directory that a name after a tilde stands for. -/
def home? (s : Shell) (name : List Char) : Option (List Char) :=
  if name.isEmpty then s.value? "HOME".toList
  else if name = "root".toList then some "/root".toList
  else none

/-- The name after a tilde, and what comes after the name, unless there is more than characters in
it. -/
def tildeName? (assigns : Bool) : Word → List Char → Option (List Char × Word)
  | [], name => some (name.reverse, [])
  | .parameterEnd :: w, name => some (name.reverse, .parameterEnd :: w)
  | .char c :: w, name =>
    if c = '/' || c = ':' && assigns then some (name.reverse, .char c :: w)
    else tildeName? assigns w (c :: name)
  | _, _ => none

/-- Puts in a directory for a tilde, if the word goes on with one. -/
def expandTilde (m : Mode) (w : Word) : Expanding Word := do
  match w with
  | .char '~' :: rest =>
    match tildeName? m.assigns rest [] with
    | none => return w
    | some (name, after) =>
      if m.discards then return after
      match home? (← shell) name with
      | none => return w
      | some home =>
        modify (·.addAll home true)
        return after
  | w => return w

/-! ## Values -/

/-- The letters of the options that are on. -/
def optionText (s : Shell) : List Char :=
  "pubaCEVvxsnmiIfe".toList.filter s.hasOption

/-- The arguments as one text. Where fields are asked for, they stay apart. -/
def argumentText (s : Shell) (each fields quoted : Bool) : List Char :=
  let separator : List Char :=
    if each && quoted && fields then [Expansion.boundary]
    else
      match s.value? "IFS".toList with
      | none => [' ']
      | some separators =>
        if fields && !quoted then [Expansion.boundary] else separators.take 1
  separator.intercalate s.arguments

/-- The value of a parameter, if it has one. -/
def valueText? (s : Shell) (name : List Char) (fields quoted : Bool) : Option (List Char) :=
  match name with
  | ['$'] => some (Shell.numeral s.root)
  | ['?'] => some (Shell.numeral s.status)
  | ['#'] => some (Shell.numeral s.arguments.length)
  | ['!'] => s.background.map Shell.numeral
  | ['-'] => some (optionText s)
  | ['@'] => some (argumentText s true fields quoted)
  | ['*'] => some (argumentText s false fields quoted)
  | name =>
    if name.all Char.isDigit then
      match Text.Binary.numberOf 10 name with
      | 0 => some s.name
      | n + 1 => s.arguments[n]?
    else s.value? name

/-- Complains of a parameter without a value. -/
def complainUnset {α : Type} (name : List Char) (message : Option (List Char)) : Expanding α :=
  work (Work.fail (name ++ ':' :: ' ' :: message.getD "parameter not set".toList))

/-- The value is not put into the word. -/
def hidesValue (form : Form) : Bool := form = .ifSet || form = .length

/-- Puts in the value of a parameter. Gives its length, or nothing if it has no value. -/
def putValue (m : Mode) (name : List Char) (form : Form) : Expanding (Option Nat) := do
  if form = .bad then
    if m.discards then return none
    work (Work.fail "Bad substitution".toList)
  let hides := hidesValue form || m.discards
  match valueText? (← shell) name (m.fields && !hides) m.quoted with
  | none => return none
  | some text =>
    if !hides then modify (·.addAll text m.quoted)
    return some text.length

/-- Cuts what was put in from a place on by a pattern that was put in after it. -/
def cut (form : Form) (start patternStart : Nat) : Expanding Unit := do
  let e ← get
  let pattern := Glyph.pattern (e.since patternStart)
  let value := slice e.glyphs start patternStart
  let text := Glyph.text value
  let kept := match form with
    | .cutStart longest =>
      match Pattern.startLength? pattern longest text with
      | some n => value.drop n
      | none => value
    | .cutEnd longest =>
      match Pattern.endLength? pattern longest text with
      | some n => value.take (value.length - n)
      | none => value
    | _ => value
  let e := e.truncate start
  set { e with glyphs := e.glyphs ++ kept.toArray }
where
  slice := Expansion.slice

/-- Marks a parameter that was put in from a place on for splitting. -/
def markValue (m : Mode) (name : List Char) (start : Nat) : Expanding Unit := do
  if m.discards then return
  if m.quoted then
    if name = ['@'] && !(← shell).arguments.isEmpty then modify (·.mark start true)
  else modify (·.mark start false)

/-- Expands the word that belongs to a parameter, not as a part of the word around it. -/
def expandApart (recur : Mode → Word → Expanding Word) (tilde : Bool) (w : Word) :
    Expanding (List Char × Word) := do
  let start := (← get).glyphs.size
  let rest ← recur { Mode.plain with tilde } w
  let text := Glyph.text ((← get).since start)
  modify (·.truncate start)
  return (text, rest)

/-- What a complaint of a missing value says. -/
def missingText (orEmpty : Bool) (w : Word) (text : List Char) : List Char :=
  match w with
  | .parameterEnd :: _ =>
    ("parameter not set" ++ if orEmpty then " or null" else "").toList
  | _ => text

/-- Puts in a parameter: the value, what stands for it, or what is left of it. `w` is what comes
after the mark of the parameter. -/
def expandParameter (recur : Mode → Word → Expanding Word) (m : Mode) (name : List Char)
    (form : Form) (orEmpty : Bool) (w : Word) : Expanding Word := do
  let start := (← get).glyphs.size
  let length ← putValue m name form
  let missing : Bool := match length with
    | none => true
    | some n => orEmpty && n = 0
  let alternative := { m with tilde := true, ofParameter := true }
  match form with
  | .ifSet =>
    let rest ← recur { alternative with discards := m.discards || missing } w
    if missing then markValue m name start
    return rest
  | .orElse | .bad =>
    let rest ← recur { alternative with discards := m.discards || !missing } w
    if !missing then markValue m name start
    return rest
  | .orAssign | .orFail =>
    if m.discards || !missing then
      let rest ← recur { Mode.withTilde with discards := true } w
      markValue m name start
      return rest
    modify (·.truncate start)
    let (text, rest) ← expandApart recur (!m.quoted) w
    if form = .orFail then complainUnset name (some (missingText orEmpty w text))
    work (Work.assign name text false false)
    discard (putValue m name .value)
    markValue m name start
    return rest
  | form =>
    if missing && !m.discards && (← shell).hasOption 'u' then complainUnset name none
    match form with
    | .length =>
      if !m.discards then
        modify (·.addAll (Shell.numeral (length.getD 0)) m.quoted)
        if !missing then markValue m name start
      return w.tail
    | .value =>
      if !missing then markValue m name start
      return w
    | form =>
      let discards := m.discards || missing
      let patternStart := (← get).glyphs.size
      let rest ← recur { Mode.withTilde with discards } w
      if !discards then
        cut form start patternStart
        markValue m name start
      return rest

/-! ## Commands and expressions -/

/-- The output of a command, without the line ends at its end. -/
def commandOutput (r : Runner) (body : Option Command) : Work (List Char) := do
  match body with
  | none => return []
  | some c =>
    let (reading, writing) ← Work.withKernel fun k =>
      let (reading, writing, k) := k.addPipe []
      ((reading, writing), k)
    let open1 (s : Shell) : Shell :=
      { s with process.descriptors := s.process.descriptors.set Descriptor.output writing }
    let (_, status) ← r.inChild open1 (r.run (some c) ⟨false, true⟩)
    Runner.tellEnd status
    modify fun s => { s with innerStatus := status.scriptCode }
    let content ← Work.withKernel (·.readAll reading)
    let text := Octets.toChars (content.toOption.getD [])
    return ((text.filter (· ≠ '\x00')).reverse.dropWhile (· = '\n')).reverse

/-- Puts in the output of a command. -/
def expandCommand (r : Runner) (m : Mode) (body : Option Command) : Expanding Unit := do
  if m.discards then return
  let start := (← get).glyphs.size
  let text ← work (commandOutput r body)
  modify (·.addAll text m.quoted)
  if !m.quoted then modify (·.mark start false)

/-- The value of an expression. Variables may change with it. -/
def evaluate (text : List Char) : Work Int := do
  let s ← get
  match Arithmetic.value (fun name => (s.value? name).getD []) text with
  | .ok (n, assigned) =>
    assigned.forM fun (name, value) =>
      Work.assign name (toString value).toList false false
    return n
  | .error (.noNumber text) => Work.illegalNumber text
  | .error (.malformed reason) =>
    Work.fail ("arithmetic expression: ".toList ++ reason.toList ++ [':', ' ', '"'] ++ text
      ++ ['"'])

/-- Puts in the value of an expression, which the word goes on with. -/
def expandExpression (recur : Mode → Word → Expanding Word) (m : Mode) (w : Word) :
    Expanding Word := do
  let start := (← get).glyphs.size
  let rest ← recur { Mode.plain with discards := m.discards } w
  if m.discards then return rest
  let text := Glyph.text ((← get).since start)
  modify (·.truncate start)
  let n ← work (evaluate text)
  modify (·.addAll (toString n).toList m.quoted)
  if !m.quoted then modify (·.mark start false)
  return rest

/-! ## Words -/

/-- The characters that a word goes on with, up to one after which a tilde may stand. -/
def plainRun (mayEnd : Char → Bool) : Word → List Char → List Char × Word
  | .char c :: w, run => if mayEnd c then ((c :: run).reverse, w) else plainRun mayEnd w (c :: run)
  | w, run => (run.reverse, w)

/-- Expands a word, or passes over it, as a part of another one. -/
def expandPart (recur : Mode → Word → Expanding Word) (m : Mode) (w : Word) : Expanding Word := do
  let w ← if m.tilde && !m.quoted then expandTilde m w else pure w
  recur { m with tilde := false } w

/-- Expands a word from some place on, with no more than `n` marks up to its end or the end of what
it belongs to. `inQuotes` says that quotes are open. -/
def expandFrom (r : Runner) : Nat → Mode → Bool → Word → Expanding Word
  | 0, _, _, w => return w
  | _, _, _, [] => return []
  | n + 1, m, inQuotes, mark :: w => do
    let inner := { m with quoted := m.quoted || inQuotes }
    let recur := expandPart fun m w => expandFrom r n m false w
    match mark with
    | .parameterEnd | .expressionEnd => return w
    | .char c =>
      let start := (← get).glyphs.size
      let mayEnd (c : Char) : Bool :=
        m.assigns && !inner.quoted && (c = ':' || c = '=' && !m.named)
      let (run, rest) := plainRun mayEnd (.char c :: w) []
      if !m.discards then
        modify (·.addAll run inner.quoted)
        if m.ofParameter && !inner.quoted then modify (·.mark start false)
      let last := run.getLast?.getD c
      let rest ← if mayEnd last then expandTilde m rest else pure rest
      expandFrom r n { m with named := m.named || mayEnd last && last = '=' } inQuotes rest
    | .escaped c =>
      if !m.discards then modify (·.add c true)
      expandFrom r n m inQuotes w
    | .quote =>
      match inQuotes, w with
      | false, .parameter ['@'] .value false :: .quote :: rest =>
        discard (expandParameter recur { inner with quoted := true } ['@'] .value false rest)
        expandFrom r n m inQuotes rest
      | _, w =>
        if !m.discards then modify fun e => { e with glyphs := e.glyphs.push .quote }
        expandFrom r n m (!inQuotes) w
    | .parameter name form orEmpty =>
      let rest ← expandParameter recur inner name form orEmpty w
      expandFrom r n m inQuotes rest
    | .command body =>
      expandCommand r inner body
      expandFrom r n m inQuotes w
    | .expression =>
      let rest ← expandExpression recur inner w
      expandFrom r n m inQuotes rest

/-- Expands a word. -/
def expand (r : Runner) (m : Mode) (w : Word) : Work Expansion := do
  let whole : Expanding Unit := do
    discard (expandPart (fun m w => expandFrom r (w.length + 1) m false w) m w)
  let ((), e) ← whole.run .empty
  return e

end Expanding

/-! ## Fields -/

namespace Work

/-- The names in the directory at a path. -/
def namesAt (s : Shell) (path : List Char) : List (List Char) :=
  let t := s.kernel.treeFrom s.process.directory
  match t.resolve ⟨Octets.ofChars (if path.isEmpty then ['.'] else path)⟩ with
  | .error _ => []
  | .ok place =>
    if t.node? place ≠ some .directory then []
    else
      let names := t.nodes.filterMap fun (p, _) =>
        if p.length = place.length + 1 && place.isPrefixOf p then p.getLast? else none
      ['.'] :: ['.', '.'] :: names.map Octets.toChars

/-- There is something at a path. -/
def leads (s : Shell) (path : List Char) : Bool :=
  let t := s.kernel.treeFrom s.process.directory
  match t.resolve ⟨Octets.ofChars path⟩ with
  | .error _ => false
  | .ok place => (t.node? place).isSome

/-- The paths that a field stands for, or its text if there are none. -/
def pathsOf (s : Shell) (field : List Glyph) : List (List Char) :=
  let found := if s.hasOption 'f' then []
    else Pattern.paths ⟨namesAt s, leads s⟩ (Glyph.pattern field)
  if found.isEmpty then [Glyph.text field] else found

/-- The fields of a word of a command. -/
def fieldsOf (r : Runner) (w : Word) : Work (List (List Char)) := do
  let e ← Expanding.expand r .fieldsWithTilde w
  let s ← get
  return (e.fields s.separators none).flatMap (pathsOf s)

/-- The text of a word that is not split. -/
def textOf (r : Runner) (m : Mode) (w : Word) : Work (List Char) := do
  return Glyph.text (← Expanding.expand r m w).glyphs.toList

/-- The pattern that a word is. -/
def patternOf (r : Runner) (w : Word) : Work PatternText := do
  return Glyph.pattern (← Expanding.expand r .withTilde w).glyphs.toList

end Work

end TapeC.Script
