import TapeC.Host.Utility.Session

/-!
# Exchanging characters

`tr` exchanges, deletes or squeezes single bytes. Its sets are written as texts with escapes,
ranges, named classes and repetitions. The second set is as long as the first one: a repetition
without a number fills it up, or else its last character does.
-/

namespace TapeC.Exchange

/-! ## Sets -/

/-- A character of a set's text, and whether it stands after a backslash. -/
structure Mark where
  char : Char
  escaped : Bool
deriving DecidableEq

namespace Mark

def isPlain (m : Mark) (c : Char) : Bool := m.char = c && !m.escaped

end Mark

/-- The named classes. -/
inductive CharClass where
  | alnum | alpha | blank | cntrl | digit | graph | lower | print | punct | space | upper | xdigit
deriving DecidableEq

namespace CharClass

def names : List (String × CharClass) :=
  [("alnum", alnum), ("alpha", alpha), ("blank", blank), ("cntrl", cntrl), ("digit", digit),
    ("graph", graph), ("lower", lower), ("print", print), ("punct", punct), ("space", space),
    ("upper", upper), ("xdigit", xdigit)]

def ofName? (name : List Char) : Option CharClass :=
  (names.find? (·.1.toList = name)).map (·.2)

/-- The class has an ASCII character. No other character is in any class. -/
def contains : CharClass → Char → Bool
  | alnum, c => c.isAlphanum
  | alpha, c => c.isAlpha
  | blank, c => c = ' ' || c = '\t'
  | cntrl, c => c < ' ' || c = '\x7F'
  | digit, c => c.isDigit
  | graph, c => ' ' < c && c < '\x7F'
  | lower, c => c.isLower
  | print, c => ' ' ≤ c && c < '\x7F'
  | punct, c => ' ' < c && c < '\x7F' && !c.isAlphanum
  | space, c => c = ' ' || ('\t' ≤ c && c ≤ '\r')
  | upper, c => c.isUpper
  | xdigit, c => c.isDigit || ('a' ≤ c && c ≤ 'f') || ('A' ≤ c && c ≤ 'F')

end CharClass

/-- All characters that a byte can be. -/
def alphabet : List Char := (List.range 256).map Char.ofNat

/-- A part of a set. -/
inductive Element where
  | char (c : Char)
  | range (first last : Char)
  | named (k : CharClass)
  /-- the characters that count as equal to one, which is that one -/
  | equal (c : Char)
  /-- a character a number of times, or as often as it takes if that is zero -/
  | repeated (c : Char) (n : Nat)
deriving DecidableEq

namespace Element

def span (first last : Char) : List Char :=
  (List.range' first.toNat (last.toNat + 1 - first.toNat)).map Char.ofNat

/-- No more repetitions than these have an effect. -/
def maxRepetitions : Nat := 65536

def chars : Element → List Char
  | .char c | .equal c => [c]
  | .range a b => span a b
  | .named k => alphabet.filter k.contains
  | .repeated c n => List.replicate (min n maxRepetitions) c

/-- The number of characters. -/
def length : Element → Nat
  | .repeated _ n => n
  | e => e.chars.length

/-- The case of the letters of a class, in which one class takes the place of the other. -/
def letterCase? : Element → Option CharClass
  | .named .upper => some .upper
  | .named .lower => some .lower
  | _ => none

def isOpen : Element → Bool
  | .repeated _ 0 => true
  | _ => false

/-- The class is none of those that have a counterpart. -/
def isRestricted : Element → Bool
  | .named k => k ≠ .upper && k ≠ .lower
  | _ => false

def isNamed : Element → Bool
  | .named _ => true
  | _ => false

def isEqual : Element → Bool
  | .equal _ => true
  | _ => false

/-- The character that a set goes on with after the element, if it can. -/
def last? : Element → Option Char
  | .char c | .equal c | .range _ c | .repeated c _ => some c
  | .named _ => none

end Element

/-! ## Reading sets -/

def octalValue? (c : Char) : Option Nat :=
  if '0' ≤ c && c ≤ '7' then some (c.toNat - '0'.toNat) else none

def escapeLetter? : Char → Option Char
  | 'a' => some '\x07'
  | 'b' => some '\x08'
  | 'f' => some '\x0C'
  | 'n' => some '\n'
  | 'r' => some '\r'
  | 't' => some '\t'
  | 'v' => some '\x0B'
  | _ => none

/-- What is said of three octal digits that make no byte. -/
def ambiguous (a b c : Char) : List Char :=
  "warning: the ambiguous octal escape \\".toList ++ [a, b, c]
    ++ " is being\n\tinterpreted as the 2-byte sequence \\0".toList ++ [a, b] ++ [',', ' ', c]

/-- Reads the octal number after a backslash: the number, the rest, and a warning. -/
def readOctal (a : Char) (value : Nat) (cs : List Char) : Char × List Char × List (List Char) :=
  match cs with
  | b :: c :: cs =>
    match octalValue? b, octalValue? c with
    | some v, some w =>
      let two := 8 * value + v
      if 8 * two + w < 256 then (Char.ofNat (8 * two + w), cs, [])
      else (Char.ofNat two, c :: cs, [ambiguous a b c])
    | some v, none => (Char.ofNat (8 * value + v), c :: cs, [])
    | none, _ => (Char.ofNat value, b :: c :: cs, [])
  | [b] =>
    match octalValue? b with
    | some v => (Char.ofNat (8 * value + v), [], [])
    | none => (Char.ofNat value, [b], [])
  | [] => (Char.ofNat value, [], [])

/-- The characters of a set's text, of which there are no more than `n`, and warnings. -/
def marksUpTo : Nat → List Char → List Mark × List (List Char)
  | 0, _ | _, [] => ([], [])
  | n + 1, c :: cs =>
    if c ≠ '\\' then
      let (ms, ws) := marksUpTo n cs
      (⟨c, false⟩ :: ms, ws)
    else
      match cs with
      | [] =>
        ([⟨'\\', false⟩],
          ["warning: an unescaped backslash at end of string is not portable".toList])
      | d :: ds =>
        let (e, rest, warnings) :=
          match octalValue? d with
          | some v => readOctal d v ds
          | none => ((escapeLetter? d).getD d, ds, [])
        let (ms, ws) := marksUpTo n rest
        (⟨e, true⟩ :: ms, warnings ++ ws)

def marks (cs : List Char) : List Mark × List (List Char) := marksUpTo cs.length cs

/-- A character as complaints show it. -/
def shown (c : Char) : List Char := if Quote.isPrintable c then [c] else Quote.octal c

/-- A text as complaints show it. -/
def shownText (cs : List Char) : List Char :=
  cs.flatMap fun c => if Quote.isPrintable c then [c] else Quote.escape c

/-- Splits at the two marks that close a class. -/
def untilClosing (c : Char) (inside : List Mark) : List Mark → Option (List Mark × List Mark)
  | a :: b :: ms =>
    if a.isPlain c && b.isPlain ']' then some (inside.reverse, ms)
    else untilClosing c (a :: inside) (b :: ms)
  | _ => none

/-- The marks are a star and digits before a closing bracket. -/
def isCount (ms : List Mark) : Bool :=
  match ms with
  | star :: ms =>
    star.isPlain '*' && ((ms.dropWhile (·.char.isDigit)).head?.any (·.isPlain ']'))
  | [] => false

/-- The number of a repetition, octal if it starts with a zero. -/
def readCount? (cs : List Char) : Option Nat :=
  let base := if cs.head? = some '0' then 8 else 10
  let digits := cs.dropWhile fun c => c = ' ' || ('\t' ≤ c && c ≤ '\r')
  let digits := if digits.head? = some '+' then digits.tail else digits
  let n := digits.foldl (fun n c => base * n + (c.toNat - '0'.toNat)) 0
  if cs.isEmpty then some 0
  else if digits.isEmpty || !digits.all (fun c => c.isDigit && c.toNat - '0'.toNat < base) then none
  else if Nat.pow 2 64 - 1 ≤ n then none
  else some n

/-- Reads a repetition after its opening bracket, if it is one. -/
def readRepetition (ms : List Mark) : Except (List Char) (Option (Element × List Mark)) :=
  match ms with
  | c :: star :: ms =>
    if !star.isPlain '*' then .ok none
    else
      let inside := ms.takeWhile fun m => !m.escaped && m.char ≠ ']'
      match ms.drop inside.length with
      | close :: rest =>
        if close.escaped then .ok none
        else
          match readCount? (inside.map (·.char)) with
          | some n => .ok (some (.repeated c.char n, rest))
          | none =>
            .error ("invalid repeat count ".toList
              ++ Quote.cited (shownText (inside.map (·.char))) ++ " in [c*n] construct".toList)
      | [] => .ok none
  | _ => .ok none

/-- Reads a class after its opening bracket, if it is one. -/
def readClass (ms : List Mark) : Except (List Char) (Option (Element × List Mark)) :=
  match ms with
  | m :: rest =>
    if !(m.isPlain ':' || m.isPlain '=') then .ok none
    else
      match untilClosing m.char [] rest with
      | none => .ok none
      | some (inside, after) =>
        let name := inside.map (·.char)
        match m.char, name with
        | ':', [] => .error "missing character class name '[::]'".toList
        | _, [] => .error "missing equivalence class character '[==]'".toList
        | ':', name =>
          match CharClass.ofName? name with
          | some k => .ok (some (.named k, after))
          | none =>
            if isCount rest then .ok none
            else .error ("invalid character class ".toList ++ Quote.cited (shownText name))
        | _, [c] => .ok (some (.equal c, after))
        | _, name =>
          if isCount rest then .ok none
          else
            .error (shownText name
              ++ ": equivalence class operand must be a single character".toList)
  | [] => .ok none

/-- Reads one element where at least three characters are left. -/
def readElement (a b c : Mark) (rest : List Mark) : Except (List Char) (Element × List Mark) := do
  let bracketed ← if !a.isPlain '[' then .ok none
    else
      match ← readClass (b :: c :: rest) with
      | some found => .ok (some found)
      | none => readRepetition (b :: c :: rest)
  match bracketed with
  | some found => .ok found
  | none =>
    if b.isPlain '-' then
      if c.char < a.char then
        .error ("range-endpoints of '".toList ++ shown a.char ++ ['-'] ++ shown c.char
          ++ "' are in reverse collating sequence order".toList)
      else .ok (.range a.char c.char, rest)
    else .ok (.char a.char, b :: c :: rest)

/-- The elements of a set's characters, of which there are no more than `n`. -/
def elementsUpTo : Nat → List Mark → Except (List Char) (List Element)
  | n + 1, a :: b :: c :: rest => do
    let (e, rest) ← readElement a b c rest
    return e :: (← elementsUpTo n rest)
  | _, ms => .ok (ms.map (.char ·.char))

def elements (ms : List Mark) : Except (List Char) (List Element) := elementsUpTo ms.length ms

/-! ## Rules -/

/-- What is done with the sets. -/
structure Task where
  complement : Bool
  deletes : Bool
  squeezes : Bool
  /-- the first set is cut to the length of the second -/
  truncates : Bool

def chars (es : List Element) : List Char := es.flatMap (·.chars)

def length (es : List Element) : Nat := es.foldl (fun n e => n + e.length) 0

/-- The characters outside a set, in order. -/
def outside (es : List Element) : List Char :=
  let inside := chars es
  alphabet.filter (!inside.contains ·)

/-- The number of characters that are exchanged by the first set. -/
def domainLength (t : Task) (es : List Element) : Nat :=
  if t.complement then (outside es).length else length es

/-- The second set with its open repetition filled up to a length. -/
def fill (n : Nat) (es : List Element) : List Element :=
  if (es.filter (·.isOpen)).length = 1 && length es ≤ n then
    es.map fun e =>
      match e with
      | .repeated c 0 => .repeated c (n - length es)
      | e => e
  else es

/-- A place of the second set: a character, or all letters of a class. -/
inductive Slot where
  | char (c : Char)
  | letters (k : CharClass)

/-- The characters of the first set, where each class of letters is marked at its first one. -/
def sources (es : List Element) : List (Char × Option CharClass) :=
  es.flatMap fun e =>
    match e.letterCase?, e.chars with
    | some k, c :: cs => (c, some k) :: cs.map fun c => (c, none)
    | _, cs => cs.map fun c => (c, none)

/-- The places of the second set. -/
def slots (es : List Element) : List Slot :=
  es.flatMap fun e =>
    match e.letterCase? with
    | some k => [.letters k]
    | none => e.chars.map .char

/-- The number of letters after the first one in a class of letters. -/
def moreLetters : Nat := 25

/-- Classes of letters in the second set stand across from classes of letters in the first one. -/
def aligned : List (Char × Option CharClass) → List Slot → Bool
  | (_, some _) :: cs, .letters _ :: slots => aligned (cs.drop moreLetters) slots
  | _, .letters _ :: _ => false
  | _ :: cs, .char _ :: slots => aligned cs slots
  | [], .char _ :: _ | _, [] => true

/-- The second set as long as the first one. -/
def extend (missing : Nat) (es : List Element) : Except (List Char) (List Element) :=
  match es.getLast?.bind (·.last?) with
  | some c => .ok (if missing = 0 then es else es ++ [.repeated c missing])
  | none =>
    .error ("when translating with string1 longer than string2,\nthe latter string must not end "
      ++ "with a character class").toList

/-- All characters of a set are the same. -/
def isUniform (es : List Element) : Bool :=
  match chars es with
  | [] => false
  | c :: cs => cs.all (· = c)

/-- Checks the sets of an exchange, and makes the second one long enough. -/
def checkExchange (t : Task) (first second : List Element) :
    Except (List Char) (List Element) := do
  let check (bad : Bool) (text : String) : Except (List Char) Unit :=
    if bad then .error text.toList else .ok ()
  check (second.any (·.isEqual)) "[=c=] expressions may not appear in string2 when translating"
  check (second.any (·.isRestricted))
    "when translating, the only character classes that may appear in\nstring2 are 'upper' and 'lower'"
  let folds := !t.complement && second.any (·.isNamed)
  check (folds && !aligned (sources first) (slots second))
    "misaligned [:upper:] and/or [:lower:] construct"
  let cases := if folds then (second.filter (·.letterCase?.isSome)).length else 0
  let here := domainLength t first - moreLetters * cases
  let there := length second - moreLetters * cases
  let second ←
    if there < here && !t.truncates then do
      check (there = 0) "when not truncating set1, string2 must be non-empty"
      extend (here - there) second
    else .ok second
  check (t.complement && first.any (·.isNamed)
      && !(length second = domainLength t first && isUniform second))
    ("when translating with complemented character classes,\nstring2 must map all characters in "
      ++ "the domain to one")
  return second

/-- Checks the sets, and makes the second one long enough. -/
def check (t : Task) (first : List Element) (second : Option (List Element)) :
    Except (List Char) (Option (List Element)) := do
  if first.any (·.isOpen) then
    .error "the [c*] repeat construct may not appear in string1".toList
  else
    match second with
    | none => .ok none
    | some second =>
      let filled := fill (domainLength t first) second
      if (second.filter (·.isOpen)).length > 1 then
        .error "only one [c*] repeat construct may appear in string2".toList
      else if !t.deletes then some <$> checkExchange t first filled
      else if second.any (·.isOpen) then
        .error "the [c*] construct may appear in string2 only when translating".toList
      else .ok (some filled)

/-! ## Tables -/

/-- What stands for each byte. -/
abbrev Table := Array Char

def Table.identity : Table := alphabet.toArray

def Table.set (t : Table) (c d : Char) : Table := t.setIfInBounds c.toNat d

/-- The counterpart of a letter in the other case. -/
def turn (here there : CharClass) (c : Char) : Char :=
  match here, there with
  | .lower, .upper => c.toUpper
  | .upper, .lower => c.toLower
  | _, _ => c

/-- Exchanges along two sets as far as both go. -/
def tabulate (t : Table) : List (Char × Option CharClass) → List Slot → Table
  | (_, case_) :: cs, .letters there :: slots =>
    let here := case_.getD there
    let letters := alphabet.filter here.contains
    tabulate (letters.foldl (fun t c => t.set c (turn here there c)) t) (cs.drop moreLetters) slots
  | (c, _) :: cs, .char d :: slots => tabulate (t.set c d) cs slots
  | [], _ | _, [] => t

/-- The exchange that the sets ask for. -/
def table (t : Task) (first second : List Element) : Table :=
  if t.complement then
    ((outside first).zip (chars second)).foldl (fun t (c, d) => t.set c d) .identity
  else tabulate .identity (sources first) (slots second)

/-- The bytes in a set, each with whether it is in it. -/
def members (complement : Bool) (es : List Element) : Array Bool :=
  (chars es).foldl (fun t c => t.setIfInBounds c.toNat (!complement))
    (Array.replicate 256 complement)

def Members.has (t : Array Bool) (b : UInt8) : Bool := t[b.toNat]?.getD false

/-- Leaves one of several equal bytes in a row that are in a set. -/
def squeeze (set : Array Bool) (bs : Bytes) : Bytes :=
  (bs.foldl (fun done b =>
    if done.head? = some b && Members.has set b then done else b :: done) []).reverse

/-- What becomes of the input. -/
def transform (t : Task) (first : List Element) (second : Option (List Element)) (bs : Bytes) :
    Bytes :=
  match second with
  | none =>
    let set := members t.complement first
    if t.squeezes then squeeze set bs else bs.filter (!Members.has set ·)
  | some second =>
    let set := members false second
    if t.deletes then
      let deleted := members t.complement first
      squeeze set (bs.filter (!Members.has deleted ·))
    else
      let exchange := table t first second
      let out := bs.map fun b => ((exchange[b.toNat]?.getD 'x').toNat).toUInt8
      if t.squeezes then squeeze set out else out

/-! ## The program -/

def options : OptionTable where
  letters := "AcCdst".toList.map fun c => (c, .absent)
  words := [("complement", .absent, 'c'), ("delete", .absent, 'd'),
    ("squeeze-repeats", .absent, 's'), ("truncate-set1", .absent, 't'), ("help", .absent, 'h'),
    ("version", .absent, 'V')]
  mixes := false

/-- Reads a set, with its warnings. -/
def readSet (cs : List Char) : Running (Except (List Char) (List Element)) := do
  let (ms, warnings) := marks cs
  warnings.forM Running.complain
  return elements ms

/-- Reads a set that may be missing. -/
def readSecond (cs : Option (List Char)) :
    Running (Except (List Char) (Option (List Element))) := do
  match cs with
  | none => return .ok none
  | some cs => return (← readSet cs).map some

def fail (text : List Char) : Running Nat := do
  Running.complain text
  return 1

def runWith (t : Task) (first : List Char) (second : Option (List Char)) : Running Nat := do
  match ← readSet first with
  | .error e => fail e
  | .ok first =>
    let second ← readSecond second
    match second.bind (check t first) with
    | .error e => fail e
    | .ok second =>
      let input ← Running.fileOf Descriptor.input
      match ← Running.withKernel (·.readAll input) with
      | .error e => fail ("read error: " ++ e.reason).toList
      | .ok bs =>
        Running.put (transform t first second bs)
        return 0

def run : Running Nat := do
  let chosen := options.read (← Running.arguments)
  match chosen.fault with
  | some fault => Running.refuse fault
  | none =>
    let has (c : Char) : Bool := chosen.choices.any (·.option = c)
    if has 'h' || has 'V' then return 0
    let t : Task := ⟨has 'c' || has 'C', has 'd', has 's', has 't'⟩
    let name := Octets.toChars (← read).name
    let refuse (texts : List (List Char)) : Running Nat := do
      match texts with
      | [] => return 1
      | text :: more =>
        Running.complain text
        more.forM Running.tell
        Running.tell ("Try '".toList ++ name ++ " --help' for more information.".toList)
        return 1
    match chosen.operands with
    | [] => refuse ["missing operand".toList]
    | [first] =>
      if t.deletes = t.squeezes then
        refuse ["missing operand after ".toList ++ Quote.cited first,
          (if t.squeezes then "Two strings must be given when both deleting and squeezing repeats."
            else "Two strings must be given when translating.").toList]
      else runWith t first none
    | first :: second :: more =>
      if t.deletes && !t.squeezes then
        refuse (("extra operand ".toList ++ Quote.cited second) ::
          if more.isEmpty then
            ["Only one string may be given when deleting without squeezing repeats.".toList]
          else [])
      else
        match more with
        | third :: _ => refuse ["extra operand ".toList ++ Quote.cited third]
        | [] => runWith t first (some second)

end TapeC.Exchange
