/-!
# Binary floating point

Numbers `m * 2 ^ e` with a mantissa of so many bits, as they are read from decimal or hexadecimal
text and written again. All arithmetic is on whole numbers, so every text is exactly the one that
the rules of rounding ask for: to nearest, and to even where two are equally near.
-/

namespace TapeC.Text

/-- A kind of floating point number: the bits of its mantissa, and the exponents of the last bit of
its smallest and greatest numbers. -/
structure BinaryKind where
  bits : Nat
  minExponent : Int
  maxExponent : Int

namespace BinaryKind

def double : BinaryKind := ⟨53, -1074, 971⟩

def extended : BinaryKind := ⟨64, -16445, 16320⟩

end BinaryKind

inductive Binary where
  | finite (negative : Bool) (mantissa : Nat) (exponent : Int)
  | infinite (negative : Bool)
  | noNumber (negative : Bool)
deriving DecidableEq

/-- A quotient rounded to the nearest whole number, and to the even one of two. -/
def roundQuotient (a b : Nat) : Nat :=
  let q := a / b
  let twice := 2 * (a % b)
  if b < twice || twice = b && q % 2 = 1 then q + 1 else q

/-- The number of binary digits. -/
def bitLength (n : Nat) : Nat := if n = 0 then 0 else n.log2 + 1

namespace Binary

def isNegative : Binary → Bool
  | .finite n _ _ | .infinite n | .noNumber n => n

/-- The number of a kind that is nearest to `a / b * 2 ^ e`, and whether it had to be infinite or
lost digits for being too small. -/
def nearest (k : BinaryKind) (negative : Bool) (a b : Nat) (e : Int) : Binary × Bool :=
  if a = 0 then (.finite negative 0 0, false)
  else
    let guess : Int := (bitLength a : Int) - bitLength b - k.bits
    let scaled (shift : Int) : Nat :=
      if 0 ≤ shift then roundQuotient a (b * Nat.pow 2 shift.toNat)
      else roundQuotient (a * Nat.pow 2 (-shift).toNat) b
    let exact (shift : Int) : Bool :=
      if 0 ≤ shift then a % (b * Nat.pow 2 shift.toNat) = 0
      else a * Nat.pow 2 (-shift).toNat % b = 0
    let shift := if bitLength (scaled guess) ≤ k.bits then guess else guess + 1
    let shift := if bitLength (scaled (shift - 1)) ≤ k.bits then shift - 1 else shift
    let low := shift + e < k.minExponent
    let shift := if low then k.minExponent - e else shift
    let m := scaled shift
    if k.maxExponent < shift + e then (.infinite negative, true)
    else (.finite negative m (shift + e), low && !exact shift)

/-! ## Reading -/

def digitValue (c : Char) : Nat :=
  if c.isDigit then c.toNat - '0'.toNat
  else if 'a' ≤ c && c ≤ 'f' then c.toNat - 'a'.toNat + 10
  else if 'A' ≤ c && c ≤ 'F' then c.toNat - 'A'.toNat + 10
  else 16

def isHexDigit (c : Char) : Bool := digitValue c < 16

def numberOf (base : Nat) (cs : List Char) : Nat :=
  cs.foldl (fun n c => base * n + digitValue c) 0

/-- Reads digits with a point among them: the digits before it and after it, and the rest. -/
def readDigits (isDigit : Char → Bool) (cs : List Char) : List Char × List Char × List Char :=
  let whole := cs.takeWhile isDigit
  match cs.drop whole.length with
  | '.' :: rest =>
    let part := rest.takeWhile isDigit
    if whole.isEmpty && part.isEmpty then ([], [], cs) else (whole, part, rest.drop part.length)
  | rest => (whole, [], rest)

/-- Reads an exponent after one of two letters, if there is one. -/
def readExponent (small big : Char) (cs : List Char) : Int × List Char :=
  match cs with
  | c :: cs' =>
    if c = small || c = big then
      let negative := cs'.head? = some '-'
      let unsigned := if negative || cs'.head? = some '+' then cs'.tail else cs'
      let digits := unsigned.takeWhile Char.isDigit
      if digits.isEmpty then (0, cs)
      else
        let n : Int := min (numberOf 10 digits) 100000
        (if negative then -n else n, unsigned.drop digits.length)
    else (0, cs)
  | [] => (0, [])

def lower (cs : List Char) : List Char := cs.map Char.toLower

/-- Reads a number without its sign: the number, whether it is out of range, and the rest. -/
def readUnsigned? (k : BinaryKind) (negative : Bool) (cs : List Char) :
    Option (Binary × Bool × List Char) :=
  let starts (w : String) : Bool := w.toList.isPrefixOf (lower cs)
  if starts "infinity" then some (.infinite negative, false, cs.drop 8)
  else if starts "inf" then some (.infinite negative, false, cs.drop 3)
  else if starts "nan" then some (.noNumber negative, false, cs.drop 3)
  else
    let hex := readDigits isHexDigit (cs.drop 2)
    if starts "0x" && !(hex.1.isEmpty && hex.2.1.isEmpty) then
      let (e, rest) := readExponent 'p' 'P' hex.2.2
      let (b, out) := nearest k negative (numberOf 16 (hex.1 ++ hex.2.1)) 1
        (e - 4 * hex.2.1.length)
      some (b, out, rest)
    else
      let (whole, part, rest) := readDigits Char.isDigit cs
      if whole.isEmpty && part.isEmpty then none
      else
        let (e, rest) := readExponent 'e' 'E' rest
        let n := numberOf 10 (whole ++ part)
        let e := e - part.length
        let (b, out) := if 0 ≤ e then nearest k negative (n * Nat.pow 10 e.toNat) 1 0
          else nearest k negative n (Nat.pow 10 (-e).toNat) 0
        some (b, out, rest)

def isBlank (c : Char) : Bool := c = ' ' || ('\t' ≤ c && c ≤ '\r')

/-- Reads a number at the beginning of a text: the number, whether it is out of range, and the
rest, which is the whole text if no number is there. -/
def read (k : BinaryKind) (cs : List Char) : Binary × Bool × List Char :=
  let signed := cs.dropWhile isBlank
  let negative := signed.head? = some '-'
  let unsigned := if negative || signed.head? = some '+' then signed.tail else signed
  (readUnsigned? k negative unsigned).getD (.finite false 0 0, false, cs)

/-! ## Writing -/

/-- The number times a power of ten, rounded. -/
def scale (m : Nat) (e power : Int) : Nat :=
  let a := m * (if 0 ≤ e then Nat.pow 2 e.toNat else 1)
    * (if 0 ≤ power then Nat.pow 10 power.toNat else 1)
  let b := (if 0 ≤ e then 1 else Nat.pow 2 (-e).toNat)
    * (if 0 ≤ power then 1 else Nat.pow 10 (-power).toNat)
  roundQuotient a b

def digits (n : Nat) : List Char := Nat.toDigits 10 n

/-- Digits with a point before the last `places`. -/
def pointed (places : Nat) (keepsPoint : Bool) (n : Nat) : List Char :=
  let ds := digits n
  let ds := List.replicate (places + 1 - ds.length) '0' ++ ds
  let whole := ds.take (ds.length - places)
  whole ++ (if 0 < places || keepsPoint then ['.'] else []) ++ ds.drop (ds.length - places)

/-- With so many places after the point. -/
def fixed (places : Nat) (keepsPoint : Bool) (m : Nat) (e : Int) : List Char :=
  pointed places keepsPoint (scale m e places)

/-- The power of ten of the first digit, when the number is written with so many places after its
first digit, and the digits. -/
def leading (places : Nat) (m : Nat) (e : Int) : Int × Nat :=
  if m = 0 then (0, 0)
  else
    let guess : Int := ((bitLength m : Int) + e - 1) * 30103 / 100000
    let size (x : Int) : Nat := (digits (scale m e (places - x))).length
    let wanted := places + 1
    let x := if size guess < wanted then guess - 1
      else if wanted < size guess then guess + 1 else guess
    let x := if size x < wanted then x - 1 else if wanted < size x then x + 1 else x
    (x, scale m e (places - x))

def exponentText (letter : Char) (x : Int) : List Char :=
  let ds := digits x.natAbs
  letter :: (if x < 0 then '-' else '+') :: (List.replicate (2 - ds.length) '0' ++ ds)

/-- With one digit before the point and a power of ten. -/
def scientific (letter : Char) (places : Nat) (keepsPoint : Bool) (m : Nat) (e : Int) : List Char :=
  let (x, n) := leading places m e
  pointed places keepsPoint n ++ exponentText letter x

/-- Without zeros at the end of the places. -/
def trimmed (cs : List Char) : List Char :=
  let tail := cs.dropWhile (fun c => c ≠ 'e' && c ≠ 'E')
  let number := cs.take (cs.length - tail.length)
  if number.contains '.' then
    let short := (number.reverse.dropWhile (· = '0'))
    (if short.head? = some '.' then short.tail else short).reverse ++ tail
  else cs

/-- With so many significant digits, in the shorter form. -/
def general (letter : Char) (significant : Nat) (keepsZeros : Bool) (m : Nat) (e : Int) :
    List Char :=
  let p := max significant 1
  let (x, _) := leading (p - 1) m e
  let text :=
    if x < -4 || (p : Int) ≤ x then scientific letter (p - 1) keepsZeros m e
    else fixed ((p : Int) - 1 - x).toNat keepsZeros m e
  if keepsZeros then text else trimmed text

def hexDigits (n width : Nat) : List Char :=
  let ds := if n = 0 then [] else Nat.toDigits 16 n
  List.replicate (width - ds.length) '0' ++ ds

/-- In hexadecimal digits with a power of two; `lead` bits stand before the point. -/
def hexadecimal (k : BinaryKind) (lead : Nat) (places : Option Nat) (keepsPoint : Bool) (m : Nat)
    (e : Int) : List Char :=
  let partBits := k.bits - lead
  let shift := k.bits - bitLength m
  let mantissa := m * Nat.pow 2 shift
  let power := e - shift + partBits
  let width := (partBits + 3) / 4
  let aligned := mantissa * Nat.pow 2 (4 * width - partBits)
  let (whole, part) : Nat × List Char :=
    match places with
    | some p =>
      let n := if p < width then roundQuotient aligned (Nat.pow 16 (width - p))
        else aligned * Nat.pow 16 (p - width)
      (n / Nat.pow 16 p, hexDigits (n % Nat.pow 16 p) p)
    | none =>
      let n := aligned % Nat.pow 16 width
      (aligned / Nat.pow 16 width, ((hexDigits n width).reverse.dropWhile (· = '0')).reverse)
  let power := if m = 0 then 0 else power
  "0x".toList ++ Nat.toDigits 16 whole ++ (if part.isEmpty && !keepsPoint then [] else ['.'])
    ++ part ++ 'p' :: (if power < 0 then '-' else '+') :: digits power.natAbs

end Binary

end TapeC.Text
