import TapeC.Host.Script.Builtin.Letters

/-!
# Printing from the shell

The shell's own `echo` and `printf`. `echo` takes escapes in its arguments, and `printf` in its
format and in the arguments for `%b`.
-/

namespace TapeC.Script.Printing

/-! ## Escapes -/

def isOctalDigit (c : Char) : Bool := '0' ≤ c && c ≤ '7'

def letterOf? : Char → Option Char
  | '\\' => some '\\'
  | 'a' => some '\x07'
  | 'b' => some '\x08'
  | 'e' => some '\x1B'
  | 'f' => some '\x0C'
  | 'n' => some '\n'
  | 'r' => some '\r'
  | 't' => some '\t'
  | 'v' => some '\x0B'
  | _ => none

/-- Reads what comes after a backslash: the character that it stands for, and the rest. A backslash
that begins no escape stands for itself. -/
def readEscape : List Char → Char × List Char
  | [] => ('\\', [])
  | c :: cs =>
    if isOctalDigit c then
      let digits := ((c :: cs).take 3).takeWhile isOctalDigit
      (Char.ofNat (Text.Binary.numberOf 8 digits % 256), (c :: cs).drop digits.length)
    else
      match letterOf? c with
      | some e => (e, cs)
      | none => ('\\', c :: cs)

/-- The text of an argument with escapes, of no more than `n` characters, and whether it ends all
output. -/
def spoken : Nat → List Char → List Char → List Char × Bool
  | 0, done, _ | _, done, [] => (done.reverse, false)
  | n + 1, done, '\\' :: cs =>
    match cs with
    | 'c' :: _ => (done.reverse, true)
    | '0' :: d :: rest =>
      let (e, rest) := readEscape (if isOctalDigit d then d :: rest else '0' :: d :: rest)
      spoken n (e :: done) rest
    | cs =>
      let (e, rest) := readEscape cs
      spoken n (e :: done) rest
  | n + 1, done, c :: cs => spoken n (c :: done) cs

/-! ## Arguments as they are -/

/-- Prints arguments with blanks between them. -/
def printAll (newline : Bool) : List (List Char) → Work Unit
  | [] => if newline then Work.print ['\n'] else return
  | arg :: args => do
    let (text, stops) := spoken arg.length [] arg
    Work.print text
    if stops then return
    if !args.isEmpty then Work.print [' ']
    printAll newline args

def echo : BuiltinRun := fun _ _ args _ => do
  match args with
  | ['-', 'n'] :: args => printAll false args
  | args => printAll true args
  return 0

/-! ## Formats -/

/-- What is left to print: the arguments, and the status so far. -/
structure State where
  arguments : List (List Char)
  status : Nat

/-- Tells of a number that was read with a rest. -/
def checkNumber (s : State) (arg rest : List Char) (outOfRange : Bool) : Work State := do
  if !rest.isEmpty then
    Work.warn (arg ++ (if rest = arg then ": expected numeric value"
      else ": not completely converted").toList)
    return { s with status := 1 }
  else if outOfRange then
    Work.warn (arg ++ ": Numerical result out of range".toList)
    return { s with status := 1 }
  else return s

/-- The number of the character after a quotation mark, if the argument begins with one. -/
def characterNumber? : List Char → Option Nat
  | q :: cs => if q = '"' || q = '\'' then some ((cs.head?.getD '\x00').toNat) else none
  | [] => none

/-- Takes the next argument, which is a number with a sign. -/
def takeSigned (s : State) : Work (Int × State) := do
  match s.arguments with
  | [] => return (0, s)
  | arg :: rest =>
    let s := { s with arguments := rest }
    match characterNumber? arg with
    | some n => return (n, s)
    | none =>
      let w := Text.WholeNumber.read arg
      return (w.signed.1, ← checkNumber s arg w.rest w.signed.2)

/-- Takes the next argument, which is a number without a sign. -/
def takeUnsigned (s : State) : Work (Nat × State) := do
  match s.arguments with
  | [] => return (0, s)
  | arg :: rest =>
    let s := { s with arguments := rest }
    match characterNumber? arg with
    | some n => return (n, s)
    | none =>
      let w := Text.WholeNumber.read arg
      return (w.unsigned.1, ← checkNumber s arg w.rest w.unsigned.2)

/-- Takes the next argument, which is a floating point number. -/
def takeFloating (s : State) : Work (Text.Binary × State) := do
  match s.arguments with
  | [] => return (.finite false 0 0, s)
  | arg :: rest =>
    let s := { s with arguments := rest }
    match characterNumber? arg with
    | some n => return (.finite false n 0, s)
    | none =>
      let (b, out, rest) := Text.Binary.read .double arg
      return (b, ← checkNumber s arg rest out)

/-- A directive of a format, without its conversion. -/
structure Slot where
  flags : List Char
  /-- digits, or a star for the next argument -/
  width : List Char
  precision : Option (List Char)

/-- Reads digits or a star. -/
def readNumber (cs : List Char) : List Char × List Char :=
  match cs with
  | '*' :: rest => (['*'], rest)
  | cs =>
    let ds := cs.takeWhile Char.isDigit
    (ds, cs.drop ds.length)

/-- Reads a directive after its percent sign up to its conversion. -/
def readSlot (cs : List Char) : Slot × List Char :=
  let flags := cs.takeWhile "#-+ 0".toList.contains
  let (width, rest) := readNumber (cs.drop flags.length)
  match rest with
  | '.' :: rest =>
    let (precision, rest) := readNumber rest
    (⟨flags, width, some precision⟩, rest)
  | rest => (⟨flags, width, none⟩, rest)

/-- The number that digits or a star stand for. -/
def takeParameter (s : State) (digits : List Char) : Work (Int × State) := do
  if digits = ['*'] then takeSigned s
  else return (Text.Binary.numberOf 10 digits, s)

/-- The column that a directive prints into. -/
def takeDirective (slot : Slot) (s : State) : Work (Text.Directive × State) := do
  let (width, s) ← takeParameter s slot.width
  let (precision, s) ← takeParameter s (slot.precision.getD [])
  let d := (Text.Directive.ofFlags slot.flags).withWidth (Int.bmod width (Nat.pow 2 32))
  let precision := if slot.precision.isNone || precision < 0 then none else some precision.toNat
  return ({ d with precision }, s)

/-- Prints by a directive; whether it ends all output. -/
def printSlot (source : List Char) (d : Text.Directive) (conversion : Char) (s : State) :
    Work (State × Bool) := do
  let text := s.arguments.head?.getD []
  let after := { s with arguments := s.arguments.tail }
  match conversion with
  | 'b' =>
    let (text, stops) := spoken text.length [] text
    Work.print (d.text text)
    return (after, stops)
  | 'c' =>
    Work.print (d.pad [text.head?.getD '\x00'])
    return (after, false)
  | 's' =>
    Work.print (d.text text)
    return (after, false)
  | 'd' | 'i' =>
    let (n, s) ← takeSigned s
    Work.print (d.integer n)
    return (s, false)
  | c =>
    if "ouxX".toList.contains c then
      let (n, s) ← takeUnsigned s
      Work.print (d.natural c n)
      return (s, false)
    else if "aAeEfFgG".toList.contains c then
      let (b, s) ← takeFloating s
      Work.print (d.floating .double 1 c b)
      return (s, false)
    else Work.fail (source ++ ": invalid directive".toList)

/-- Prints by a format of no more than `n` characters; whether all output ends. -/
def printFormat : Nat → List Char → State → Work (State × Bool)
  | 0, _, s | _, [], s => return (s, false)
  | n + 1, '\\' :: cs, s => do
    let (c, rest) := readEscape cs
    Work.print [c]
    printFormat n rest s
  | n + 1, '%' :: '%' :: cs, s => do
    Work.print ['%']
    printFormat n cs s
  | n + 1, '%' :: cs, s => do
    let (slot, rest) := readSlot cs
    let (d, s) ← takeDirective slot s
    match rest with
    | [] => Work.fail "missing format character".toList
    | c :: rest =>
      let source := '%' :: cs.take (cs.length - rest.length)
      let (s, stops) ← printSlot source d c s
      if stops then return (s, true) else printFormat n rest s
  | n + 1, c :: cs, s => do
    Work.print [c]
    printFormat n cs s

/-- Prints by a format as long as it takes arguments, but no more than `rounds` times. -/
def printRounds (format : List Char) : Nat → State → Work Nat
  | 0, s => return s.status
  | rounds + 1, s => do
    let (after, stops) ← printFormat format.length format s
    if stops || after.arguments.isEmpty || after.arguments.length = s.arguments.length then
      return after.status
    else printRounds format rounds after

def printf : BuiltinRun := fun _ _ args _ => do
  match ← Letters.none args with
  | [] => Work.fail "usage: printf format [arg ...]".toList
  | format :: args => printRounds format (args.length + 1) ⟨args, 0⟩

end TapeC.Script.Printing
