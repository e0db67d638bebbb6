import TapeC.Text.GraphemeExtend
import TapeC.Text.Unprintable

/-!
# Quoted text

A text between double quotes, in one line of visible characters. Five characters have an escape of
one letter, the quote and the backslash are put after a backslash, and every other character that
is unprintable or would be drawn onto the one before it is written as its code point in
hexadecimal. All else stands for itself; an apostrophe does too.

`unquote?` reads such a text back.
-/

namespace TapeC.Text

/-- A character as its code point, in lower-case hexadecimal digits between braces. -/
def codePointEscape (c : Char) : List Char :=
  ['\\', 'u', '\x7b'] ++ Nat.toDigits 16 c.toNat ++ ['\x7d']

/-- A character inside quotes. -/
def quoteChar (c : Char) : List Char :=
  if c = '\x00' then ['\\', '0']
  else if c = '\t' then ['\\', 't']
  else if c = '\n' then ['\\', 'n']
  else if c = '\r' then ['\\', 'r']
  else if c = '"' then ['\\', '"']
  else if c = '\\' then ['\\', '\\']
  else if isGraphemeExtend c || isUnprintable c then codePointEscape c
  else [c]

/-- The text between quotes. -/
def quote (s : String) : String := String.ofList ('"' :: s.toList.flatMap quoteChar ++ ['"'])

/-! ## Reading quoted text -/

/-- The character of a one-letter escape. -/
def escapedChar? : Char → Option Char
  | '0' => some '\x00'
  | 't' => some '\t'
  | 'n' => some '\n'
  | 'r' => some '\r'
  | '"' => some '"'
  | '\\' => some '\\'
  | _ => none

/-- The value of a lower-case hexadecimal digit. -/
def hexValue? (c : Char) : Option Nat :=
  if '0' ≤ c && c ≤ '9' then some (c.toNat - '0'.toNat)
  else if 'a' ≤ c && c ≤ 'f' then some (c.toNat - 'a'.toNat + 10)
  else none

/-- Reads hexadecimal digits up to a closing brace: the character with that code point, and the
rest. -/
def readCodePoint? (value : Nat) : List Char → Option (Char × List Char)
  | [] => none
  | c :: cs =>
    if c = '\x7d' then some (Char.ofNat value, cs)
    else (hexValue? c).bind fun d => readCodePoint? (16 * value + d) cs

theorem length_of_readCodePoint? {value : Nat} {cs rest : List Char} {c : Char}
    (h : readCodePoint? value cs = some (c, rest)) : rest.length < cs.length := by
  induction cs generalizing value with
  | nil => simp [readCodePoint?] at h
  | cons d cs ih =>
    rw [readCodePoint?] at h
    split at h
    · obtain ⟨-, rfl⟩ := Prod.mk.inj (Option.some.inj h)
      exact Nat.lt_succ_self _
    · obtain ⟨v, -, hv⟩ := Option.bind_eq_some_iff.1 h
      exact Nat.lt_succ_of_lt (ih hv)

/-- Reads the inside of quotes and the closing quote, which has to be the end. -/
def unquoteInside? : List Char → Option (List Char)
  | [] => none
  | ['"'] => some []
  | '\\' :: 'u' :: '\x7b' :: cs =>
    match _h : readCodePoint? 0 cs with
    | none => none
    | some (c, rest) => (unquoteInside? rest).map (c :: ·)
  | '\\' :: c :: cs =>
    match escapedChar? c with
    | none => none
    | some e => (unquoteInside? cs).map (e :: ·)
  | c :: cs => if c = '"' || c = '\\' then none else (unquoteInside? cs).map (c :: ·)
termination_by cs => cs.length
decreasing_by
  · have := length_of_readCodePoint? _h
    simp only [List.length_cons]
    omega
  · simp only [List.length_cons]
    omega
  · exact Nat.lt_succ_self _

/-- The text that was quoted. -/
def unquote? (s : String) : Option String :=
  match s.toList with
  | '"' :: cs => (unquoteInside? cs).map String.ofList
  | _ => none

end TapeC.Text
