import TapeC.Text.Octets

/-!
# Names in complaints

Programs quote the names of files that they complain of, so that the names can be given to a shell
again. A name of harmless characters stands as it is; any other one stands in quotes, and what
cannot be printed is written in octal digits between quotes of its own.
-/

namespace TapeC.Quote

/-- Printable in the plainest alphabet, which has no characters but those of ASCII. -/
def isPrintable (c : Char) : Bool := ' ' ≤ c && c ≤ '~'

def octalDigit (n : Nat) : Char := Char.ofNat ('0'.toNat + n % 8)

/-- A backslash and three octal digits. -/
def octal (c : Char) : List Char :=
  ['\\', octalDigit (c.toNat / 64), octalDigit (c.toNat / 8), octalDigit c.toNat]

/-- The letter of a character that has an escape of its own. -/
def escapeLetter? : Char → Option Char
  | '\x07' => some 'a'
  | '\x08' => some 'b'
  | '\x0C' => some 'f'
  | '\n' => some 'n'
  | '\r' => some 'r'
  | '\t' => some 't'
  | '\x0B' => some 'v'
  | _ => none

/-- What stands for a character that is not printable. -/
def escape (c : Char) : List Char :=
  match escapeLetter? c with
  | some l => ['\\', l]
  | none => octal c

/-- Characters that mean something to a shell wherever they stand. -/
def isSpecial (c : Char) : Bool :=
  " !\"$&()*;<=>[^\x60|\\'?".toList.contains c || !isPrintable c

/-- Characters that mean something to a shell at the beginning. -/
def isSpecialAtStart (c : Char) : Bool := c = '#' || c = '~'

/-- The name has to be quoted for a shell. `more` are characters that are not to stand alone
either. -/
def needsQuotes (more : List Char) : List Char → Bool
  | [] => true
  | ['\x7b'] | ['\x7d'] => true
  | c :: cs => isSpecialAtStart c || (c :: cs).any fun c => isSpecial c || more.contains c

/-- Characters that stand for themselves in double quotes, too. -/
def isCommon (c : Char) : Bool :=
  c.isAlphanum || " '%+,-./:]_".toList.contains c

/-- The name can stand in double quotes. -/
def fitsDoubleQuotes : List Char → Bool
  | [] => true
  | ['\x7b'] | ['\x7d'] => true
  | c :: cs => (isCommon c || isSpecialAtStart c) && cs.all isCommon

/-- Whether the quotes for escapes are open, and what was written. -/
structure Writer where
  escaping : Bool
  done : List Char

/-- Writes a character in single quotes. -/
def Writer.add (w : Writer) (c : Char) : Writer :=
  if isPrintable c then
    let before := if w.escaping then ['\'', '\''] else []
    let text := if c = '\'' then ['\'', '\\', '\''] ++ ['\''] else [c]
    ⟨false, w.done ++ before ++ text⟩
  else
    let before := if w.escaping then [] else ['\'', '$', '\'']
    ⟨true, w.done ++ before ++ escape c⟩

/-- A name in single quotes. -/
def inSingleQuotes (cs : List Char) : List Char :=
  '\'' :: (cs.foldl Writer.add ⟨false, []⟩).done ++ ['\'']

/-- A name in the quotes that suit it. -/
def always (cs : List Char) : List Char :=
  if cs.contains '\'' && fitsDoubleQuotes cs then '"' :: cs ++ ['"'] else inSingleQuotes cs

/-- A name, in quotes if it needs them. -/
def ifNeeded (cs : List Char) : List Char := if needsQuotes [] cs then always cs else cs

/-- A name before a colon, in quotes if it needs them. -/
def beforeColon (cs : List Char) : List Char := if needsQuotes [':'] cs then always cs else cs

/-- A text as a complaint cites it. -/
def cited (cs : List Char) : List Char :=
  '\'' :: cs.flatMap (fun c =>
    if c = '\'' || c = '\\' then ['\\', c] else if isPrintable c then [c] else escape c) ++ ['\'']

end TapeC.Quote
