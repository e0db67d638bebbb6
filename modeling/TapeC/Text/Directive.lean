import TapeC.Text.Binary

/-!
# Print directives

How numbers and texts are printed in a column: with a width, a precision and flags, as the letter
of the directive asks for. Numbers are read from text as the letters of their base tell: decimal,
octal after a zero, and hexadecimal after `0x`.
-/

namespace TapeC.Text

/-- Flags, width and precision of a directive. -/
structure Directive where
  left : Bool
  plus : Bool
  blank : Bool
  alternate : Bool
  zeros : Bool
  width : Nat
  precision : Option Nat

namespace Directive

def plain : Directive := ⟨false, false, false, false, false, 0, none⟩

def withFlag (d : Directive) : Char → Directive
  | '-' => { d with left := true }
  | '+' => { d with plus := true }
  | ' ' => { d with blank := true }
  | '#' => { d with alternate := true }
  | '0' => { d with zeros := true }
  | _ => d

def ofFlags (flags : List Char) : Directive := flags.foldl withFlag plain

/-- A negative width asks for the left side of the column. -/
def withWidth (d : Directive) (w : Int) : Directive :=
  { d with width := w.natAbs, left := d.left || w < 0 }

/-- Pads a text to the width with blanks. -/
def pad (d : Directive) (cs : List Char) : List Char :=
  let blanks := List.replicate (d.width - cs.length) ' '
  if d.left then cs ++ blanks else blanks ++ cs

/-- Pads a number, whose sign or mark of its base comes first, with blanks or zeros. -/
def padNumber (d : Directive) (zeros : Bool) (mark cs : List Char) : List Char :=
  if zeros && d.zeros && !d.left then
    mark ++ List.replicate (d.width - mark.length - cs.length) '0' ++ cs
  else d.pad (mark ++ cs)

def text (d : Directive) (cs : List Char) : List Char :=
  d.pad (match d.precision with
    | some n => cs.take n
    | none => cs)

/-- Digits of a whole number, of which the precision gives the least number. -/
def digits (d : Directive) (base n : Nat) : List Char :=
  let ds := if n = 0 && d.precision = some 0 then [] else Nat.toDigits base n
  List.replicate (d.precision.getD 0 - ds.length) '0' ++ ds

def sign (d : Directive) (negative : Bool) : List Char :=
  if negative then ['-'] else if d.plus then ['+'] else if d.blank then [' '] else []

def integer (d : Directive) (n : Int) : List Char :=
  d.padNumber d.precision.isNone (d.sign (n < 0)) (d.digits 10 n.natAbs)

/-- A number without a sign, in the base that a letter stands for. -/
def natural (d : Directive) (letter : Char) (n : Nat) : List Char :=
  match letter with
  | 'o' =>
    let ds := d.digits 8 n
    d.padNumber d.precision.isNone []
      (if d.alternate && ds.head? ≠ some '0' then '0' :: ds else ds)
  | 'x' =>
    d.padNumber d.precision.isNone (if d.alternate && n ≠ 0 then ['0', 'x'] else [])
      (d.digits 16 n)
  | 'X' =>
    d.padNumber d.precision.isNone (if d.alternate && n ≠ 0 then ['0', 'X'] else [])
      ((d.digits 16 n).map Char.toUpper)
  | _ => d.padNumber d.precision.isNone [] (d.digits 10 n)

/-- A floating point number as a letter asks for. -/
def floating (k : BinaryKind) (lead : Nat) (d : Directive) (letter : Char) (b : Binary) :
    List Char :=
  let sign := d.sign b.isNegative
  let upper (cs : List Char) : List Char := if letter.isUpper then cs.map Char.toUpper else cs
  match b with
  | .infinite _ => d.padNumber false sign (upper "inf".toList)
  | .noNumber _ => d.padNumber false sign (upper "nan".toList)
  | .finite _ m e =>
    match letter.toLower with
    | 'f' => d.padNumber true sign (Binary.fixed (d.precision.getD 6) d.alternate m e)
    | 'e' => d.padNumber true sign (Binary.scientific letter (d.precision.getD 6) d.alternate m e)
    | 'g' =>
      d.padNumber true sign (Binary.general (if letter = 'G' then 'E' else 'e')
        (d.precision.getD 6) d.alternate m e)
    | _ =>
      let cs := upper (Binary.hexadecimal k lead d.precision d.alternate m e)
      d.padNumber true (sign ++ cs.take 2) (cs.drop 2)

end Directive

/-! ## Reading whole numbers -/

/-- The magnitude of a number and the rest of its text. -/
structure WholeNumber where
  negative : Bool
  magnitude : Nat
  rest : List Char

/-- Reads a whole number at the beginning of a text. If there is none, the rest is the whole
text. -/
def WholeNumber.read (cs : List Char) : WholeNumber :=
  let signed := cs.dropWhile Binary.isBlank
  let negative := signed.head? = some '-'
  let unsigned := if negative || signed.head? = some '+' then signed.tail else signed
  let digitsOf (base : Nat) (cs : List Char) : List Char :=
    cs.takeWhile fun c => Binary.digitValue c < base
  let number (base : Nat) (cs : List Char) : WholeNumber :=
    let ds := digitsOf base cs
    ⟨negative, Binary.numberOf base ds, cs.drop ds.length⟩
  match unsigned with
  | '0' :: x :: c :: rest =>
    if (x = 'x' || x = 'X') && Binary.isHexDigit c then number 16 (c :: rest)
    else number 8 unsigned
  | '0' :: _ => number 8 unsigned
  | c :: _ => if c.isDigit then number 10 unsigned else ⟨false, 0, cs⟩
  | [] => ⟨false, 0, cs⟩

namespace WholeNumber

/-- The number in 64 bits with a sign, and whether it is out of range. -/
def signed (n : WholeNumber) : Int × Bool :=
  if n.negative then
    if Nat.pow 2 63 < n.magnitude then (-Nat.pow 2 63, true) else (-(n.magnitude : Int), false)
  else if Nat.pow 2 63 ≤ n.magnitude then (Nat.pow 2 63 - 1, true)
  else (n.magnitude, false)

/-- The number in 64 bits without a sign, and whether it is out of range. A negative number counts
from the end. -/
def unsigned (n : WholeNumber) : Nat × Bool :=
  if Nat.pow 2 64 ≤ n.magnitude then (Nat.pow 2 64 - 1, true)
  else if n.negative then ((Nat.pow 2 64 - n.magnitude) % Nat.pow 2 64, false)
  else (n.magnitude, false)

end WholeNumber

end TapeC.Text
