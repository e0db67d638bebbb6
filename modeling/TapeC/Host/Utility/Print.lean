import TapeC.Host.Utility.Session
import TapeC.Text.Directive

/-!
# Printing arguments

`printf` prints its arguments by a format, which is used again as long as arguments are left, and
`echo` prints them as they are.
-/

namespace TapeC.Print

/-! ## Escapes -/

/-- What an escape stands for: characters, the end of all output, or a fault. -/
inductive Escape where
  | text (cs : List Char)
  | stop
  | fault (message : List Char)

def isOctalDigit (c : Char) : Bool := '0' ≤ c && c ≤ '7'

def escapeLetter? : Char → Option Char
  | 'a' => some '\x07'
  | 'b' => some '\x08'
  | 'e' => some '\x1B'
  | 'f' => some '\x0C'
  | 'n' => some '\n'
  | 'r' => some '\r'
  | 't' => some '\t'
  | 'v' => some '\x0B'
  | '"' => some '"'
  | '\\' => some '\\'
  | _ => none

/-- A character by its number, cut to a byte. -/
def byteChar (n : Nat) : Char := Char.ofNat (n % 256)

/-- A character by its number in the universal set. Where it is no ASCII character, its escape is
printed. -/
def universal (letter : Char) (digits : List Char) : Escape :=
  let width := if letter = 'u' then 4 else 8
  let n := Text.Binary.numberOf 16 digits
  let shown (cs : List Char) : List Char :=
    '\\' :: letter :: List.replicate (width - cs.length) '0' ++ cs
  if digits.length < width then .fault "missing hexadecimal number in escape".toList
  else if 0xD800 ≤ n && n ≤ 0xDFFF then
    .fault ("invalid universal character name ".toList ++ shown (Nat.toDigits 16 n))
  else if n < 0x80 then .text [Char.ofNat n]
  else
    let ds := (Nat.toDigits 16 n).map Char.toUpper
    .text (if n < 0x10000 then ['\\', 'u'] ++ List.replicate (4 - ds.length) '0' ++ ds
      else ['\\', 'U'] ++ List.replicate (8 - ds.length) '0' ++ ds)

/-- Reads an escape after its backslash, with what comes after it. In some texts, a zero may stand
before the octal digits. -/
def readEscape (leadingZero : Bool) : List Char → Escape × List Char
  | [] => (.text ['\\'], [])
  | 'x' :: cs =>
    let ds := (cs.take 2).takeWhile Text.Binary.isHexDigit
    if ds.isEmpty then (.fault "missing hexadecimal number in escape".toList, [])
    else (.text [byteChar (Text.Binary.numberOf 16 ds)], cs.drop ds.length)
  | 'c' :: _ => (.stop, [])
  | c :: cs =>
    if isOctalDigit c then
      let cs := if leadingZero && c = '0' then cs else c :: cs
      let ds := (cs.take 3).takeWhile isOctalDigit
      (.text [byteChar (Text.Binary.numberOf 8 ds)], cs.drop ds.length)
    else
      match escapeLetter? c with
      | some e => (.text [e], cs)
      | none =>
        if c = 'u' || c = 'U' then
          let ds := (cs.take (if c = 'u' then 4 else 8)).takeWhile Text.Binary.isHexDigit
          (universal c ds, cs.drop ds.length)
        else (.text ['\\', c], cs)

/-! ## Formats -/

/-- A place for an argument in a format. Its width and precision may be arguments, too. -/
structure Slot where
  /-- the directive as it is written -/
  source : List Char
  flags : List Char
  width : Option (List Char)
  precision : Option (Option (List Char))
  conversion : Char

/-- The flags forbid the conversion. -/
def Slot.isInvalid (s : Slot) : Bool :=
  let allowed :=
    if s.conversion = 'c' then
      !(s.flags.any "I'#0".toList.contains) && s.precision.isNone
    else if s.conversion = 's' then !(s.flags.any "I'#0".toList.contains)
    else if "aAeEoxX".toList.contains s.conversion then !(s.flags.any "I'".toList.contains)
    else if "diu".toList.contains s.conversion then !(s.flags.contains '#')
    else "fFgG".toList.contains s.conversion
  !allowed

/-- A number of a directive: digits, or a star. -/
def readNumber (cs : List Char) : List Char × List Char :=
  match cs with
  | '*' :: rest => (['*'], rest)
  | cs =>
    let ds := cs.takeWhile Char.isDigit
    (ds, cs.drop ds.length)

/-- Reads a directive after its percent sign; without a conversion, the rest is empty. -/
def readSlot (cs : List Char) : Slot × List Char :=
  let flags := cs.takeWhile "I'-+ #0".toList.contains
  let (width, rest) := readNumber (cs.drop flags.length)
  let (precision, rest) := match rest with
    | '.' :: rest =>
      let (n, rest) := readNumber rest
      (some (some n), rest)
    | rest => (none, rest)
  let rest := rest.dropWhile "lLhjtz".toList.contains
  let source := '%' :: cs.take (cs.length - rest.length + 1)
  match rest with
  | c :: rest => (⟨source, flags, if width.isEmpty then none else some width, precision, c⟩, rest)
  | [] => (⟨source, flags, none, none, '\x00'⟩, [])

/-- The state of printing: the arguments that are left, and whether all is well so far. -/
structure State where
  arguments : List (List Char)
  code : Nat

/-- A step of printing goes on with a state, or the program ends with a code. -/
abbrev Step := Except Nat State

def fail (text : List Char) : Running Step := do
  Running.complain text
  return .error 1

/-- What is said of a number that was read with a rest. -/
def checkNumber (s : State) (arg rest : List Char) (outOfRange : Bool) : Running State := do
  if outOfRange then
    Running.complain (Quote.cited arg ++ ": Numerical result out of range".toList)
    return { s with code := 1 }
  else if rest.isEmpty then return s
  else if rest = arg then
    Running.complain (Quote.cited arg ++ ": expected a numeric value".toList)
    return { s with code := 1 }
  else
    Running.complain (Quote.cited arg ++ ": value not completely converted".toList)
    return { s with code := 1 }

/-- The number of a character after a quotation mark, if the argument is one. -/
def characterNumber? (arg : List Char) : Option (Nat × List Char) :=
  match arg with
  | q :: c :: rest => if q = '"' || q = '\'' then some (c.toNat, rest) else none
  | _ => none

/-- Warns of what stands after a character that stands for its number. -/
def warnRest (rest : List Char) : Running Unit := do
  if !rest.isEmpty then
    Running.complain ("warning: ".toList ++ rest
      ++ ": character(s) following character constant have been ignored".toList)

def readSigned (s : State) (arg : List Char) : Running (Int × State) := do
  match characterNumber? arg with
  | some (n, rest) =>
    warnRest rest
    return (n, s)
  | none =>
    let w := Text.WholeNumber.read arg
    return (w.signed.1, ← checkNumber s arg w.rest w.signed.2)

def readUnsigned (s : State) (arg : List Char) : Running (Nat × State) := do
  match characterNumber? arg with
  | some (n, rest) =>
    warnRest rest
    return (n, s)
  | none =>
    let w := Text.WholeNumber.read arg
    return (w.unsigned.1, ← checkNumber s arg w.rest w.unsigned.2)

def readFloating (s : State) (arg : List Char) : Running (Text.Binary × State) := do
  match characterNumber? arg with
  | some (n, rest) =>
    warnRest rest
    return (.finite false n 0, s)
  | none =>
    let (b, out, rest) := Text.Binary.read .extended arg
    return (b, ← checkNumber s arg rest out)

/-- A width or precision: written digits, or the next argument. -/
def parameter (s : State) (n : List Char) (name : String) :
    Running (Except Nat (Int × State)) := do
  if n ≠ ['*'] then return .ok (Text.Binary.numberOf 10 n, s)
  else
    match s.arguments with
    | [] => return .ok (0, s)
    | arg :: rest =>
      let (w, s) ← readSigned { s with arguments := rest } arg
      if Nat.pow 2 31 ≤ w || w < -Nat.pow 2 31 && name = "field width" then
        Running.complain (("invalid " ++ name ++ ": ").toList ++ Quote.cited arg)
        return .error 1
      else return .ok (w, s)

/-- Prints text with escapes; whether all output ends with it. -/
def putEscaped : Nat → List Char → Running (Except Nat Unit)
  | 0, _ | _, [] => return .ok ()
  | n + 1, c :: cs => do
    if c ≠ '\\' then
      Running.putText [c]
      putEscaped n cs
    else
      match readEscape true cs with
      | (.text t, rest) =>
        Running.putText t
        putEscaped n rest
      | (.stop, _) => return .error 0
      | (.fault e, _) =>
        Running.complain e
        return .error 1

/-- Prints the next argument as a directive asks for. -/
def putArgument (slot : Slot) (d : Text.Directive) (s : State) : Running State := do
  let arg := s.arguments.head?.getD []
  let s := { s with arguments := s.arguments.tail }
  let c := slot.conversion
  if c = 's' then
    Running.putText (d.text arg)
    return s
  else if c = 'c' then
    Running.putText (d.pad [arg.head?.getD '\x00'])
    return s
  else if c = 'd' || c = 'i' then
    let (n, s) ← readSigned s arg
    Running.putText (d.integer n)
    return s
  else if "ouxX".toList.contains c then
    let (n, s) ← readUnsigned s arg
    Running.putText (d.natural c n)
    return s
  else
    let (b, s) ← readFloating s arg
    Running.putText (d.floating .extended 4 c b)
    return s

/-- Prints by a directive. -/
def putSlot (slot : Slot) (s : State) : Running Step := do
  match ← parameter s (slot.width.getD []) "field width" with
  | .error code => return .error code
  | .ok (w, s) =>
    match ← parameter s ((slot.precision.join).getD []) "precision" with
    | .error code => return .error code
    | .ok (p, s) =>
      if slot.isInvalid then
        fail (slot.source ++ ": invalid conversion specification".toList)
      else
        let d := (Text.Directive.ofFlags slot.flags).withWidth w
        let precision := if slot.precision.isNone || p < 0 then none else some p.toNat
        return .ok (← putArgument slot { d with precision } s)

/-- Prints by a format, which has no more than `n` characters. -/
def putFormat : Nat → List Char → State → Running Step
  | 0, _, s | _, [], s => return .ok s
  | n + 1, '%' :: cs, s => do
    match cs with
    | '%' :: cs =>
      Running.putText ['%']
      putFormat n cs s
    | 'b' :: cs =>
      match ← putEscaped (s.arguments.head?.getD []).length (s.arguments.head?.getD []) with
      | .error code => return .error (max code s.code)
      | .ok () => putFormat n cs { s with arguments := s.arguments.tail }
    | 'q' :: cs =>
      if let some arg := s.arguments.head? then Running.putText (Quote.ifNeeded arg)
      putFormat n cs { s with arguments := s.arguments.tail }
    | cs =>
      let (slot, rest) := readSlot cs
      match ← putSlot slot s with
      | .error code => return .error code
      | .ok s => putFormat n rest s
  | n + 1, c :: cs, s => do
    if c = '\\' then
      match readEscape false cs with
      | (.text t, rest) =>
        Running.putText t
        putFormat n rest s
      | (.stop, _) => return .error s.code
      | (.fault e, _) => fail e
    else
      Running.putText [c]
      putFormat n cs s

/-- Prints by a format as long as it takes arguments, but no more than `rounds` times. -/
def putRounds (format : List Char) : Nat → State → Running Nat
  | 0, s => return s.code
  | rounds + 1, s => do
    match ← putFormat format.length format s with
    | .error code => return code
    | .ok after =>
      if after.arguments.isEmpty then return after.code
      else if after.arguments.length < s.arguments.length then putRounds format rounds after
      else
        Running.complain ("warning: ignoring excess arguments, starting with ".toList
          ++ Quote.cited (after.arguments.head?.getD []))
        return after.code

def runFormat : Running Nat := do
  let args ← Running.arguments
  let args := if args.head? = some ['-', '-'] then args.tail else args
  match args with
  | [] => Running.refuse "missing operand".toList
  | format :: args => putRounds format (args.length + 1) ⟨args, 0⟩

/-! ## Plain arguments -/

/-- An argument of `echo` that is made of option letters. -/
def isEchoOption : List Char → Bool
  | '-' :: c :: cs => (c :: cs).all "neE".toList.contains
  | _ => false

/-- The text of an argument with escapes, of which there are no more than `n`, and whether all
output ends with it. -/
def spoken : Nat → List Char → List Char × Bool
  | 0, _ | _, [] => ([], false)
  | n + 1, c :: cs =>
    if c ≠ '\\' then
      let (text, stops) := spoken n cs
      (c :: text, stops)
    else
      match cs with
      | 'c' :: _ => ([], true)
      | 'x' :: h :: _ =>
        if Text.Binary.isHexDigit h then
          let ds := (cs.tail.take 2).takeWhile Text.Binary.isHexDigit
          let (text, stops) := spoken n (cs.tail.drop ds.length)
          (byteChar (Text.Binary.numberOf 16 ds) :: text, stops)
        else
          let (text, stops) := spoken n cs
          ('\\' :: text, stops)
      | '0' :: cs =>
        let ds := (cs.take 3).takeWhile isOctalDigit
        let (text, stops) := spoken n (cs.drop ds.length)
        (byteChar (Text.Binary.numberOf 8 ds) :: text, stops)
      | d :: cs =>
        if isOctalDigit d then
          let ds := ((d :: cs).take 3).takeWhile isOctalDigit
          let (text, stops) := spoken n ((d :: cs).drop ds.length)
          (byteChar (Text.Binary.numberOf 8 ds) :: text, stops)
        else
          let (text, stops) := spoken n cs
          match if d = '"' then none else escapeLetter? d with
          | some e => (e :: text, stops)
          | none => ('\\' :: d :: text, stops)
      | [] => (['\\'], false)

/-- Arguments with blanks between them. -/
def joined (escapes : Bool) : List (List Char) → List Char × Bool
  | [] => ([], false)
  | [arg] => if escapes then spoken arg.length arg else (arg, false)
  | arg :: args =>
    let (text, stops) := if escapes then spoken arg.length arg else (arg, false)
    if stops then (text, true)
    else
      let (rest, stops) := joined escapes args
      (text ++ ' ' :: rest, stops)

def runEcho : Running Nat := do
  let args ← Running.arguments
  let options := args.takeWhile isEchoOption
  let letters := options.flatten
  let escapes := (letters.filter fun c => c = 'e' || c = 'E').getLast? = some 'e'
  let (text, stops) := joined escapes (args.drop options.length)
  Running.putText (text ++ if stops || letters.contains 'n' then [] else ['\n'])
  return 0

end TapeC.Print
