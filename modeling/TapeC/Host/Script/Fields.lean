import TapeC.Host.Script.Pattern

/-!
# Splitting into fields

What parameters, commands and expressions put into a word is split into fields at the separators
of the script, a blank one of which counts once with its neighbours. Text that was in the word
itself, and all that is quoted, stays together.
-/

namespace TapeC.Script

/-- A piece of an expanded word. -/
inductive Glyph where
  | char (c : Char) (quoted : Bool)
  /-- quotes begin or end, so that a field is there even if it is empty -/
  | quote
deriving DecidableEq, Inhabited

namespace Glyph

def char? : Glyph → Option Char
  | .char c _ => some c
  | .quote => none

/-- The text of glyphs. -/
def text (gs : List Glyph) : List Char := gs.filterMap char?

/-- The pattern that glyphs are. -/
def pattern (gs : List Glyph) : PatternText :=
  gs.filterMap fun
    | .char c quoted => some (c, quoted)
    | .quote => none

end Glyph

/-- A part of an expanded word in which it is split: at all separators, or only between
arguments. -/
structure Region where
  start : Nat
  stop : Nat
  argumentsOnly : Bool

/-- A word while it is being expanded, with its regions in reverse. -/
structure Expansion where
  glyphs : Array Glyph
  regions : List Region

namespace Expansion

def empty : Expansion := ⟨#[], []⟩

/-- The character that stands between arguments. -/
def boundary : Char := '\x00'

def isBlankSeparator (c : Char) : Bool := c = ' ' || c = '\t' || c = '\n' || c = boundary

/-- Fields on their way: those that are done, in reverse, and where the next one starts. -/
structure Splitting where
  done : List (List Glyph)
  start : Nat
  /-- the last separator was a blank one, and may have more with it -/
  afterBlank : Bool
  /-- how many more fields are wanted, if there is a limit -/
  wanted : Option Nat
  /-- where what is cut off at the end begins -/
  cut : Option Nat

def slice (gs : Array Glyph) (start stop : Nat) : List Glyph := (gs.extract start stop).toList

/-- Looks at one place. `afterArguments` says that the place is in or after arguments. -/
def Splitting.step (gs : Array Glyph) (separators : List Char) (afterArguments : Bool)
    (s : Splitting) (i : Nat) : Splitting :=
  let c? := (gs[i]?.bind Glyph.char?)
  let separates := c?.any fun c => separators.contains c || c = boundary
  let blank := separates && c?.any isBlankSeparator
  if s.wanted = some 0 then
    if blank then { s with cut := some (s.cut.getD i) }
    else { s with cut := if separates && s.afterBlank then s.cut else none, afterBlank := false }
  else if s.afterBlank && blank then { s with start := i + 1 }
  else
    let start := if s.afterBlank then (if separates then i + 1 else i) else s.start
    if s.afterBlank || !separates then { s with start, afterBlank := false }
    else
      let afterBlank := if afterArguments then s.afterBlank else blank
      if i = start && afterBlank then { s with start := i + 1, afterBlank := false }
      else
        match s.wanted with
        | some 1 => { s with wanted := some 0, cut := some i, afterBlank }
        | wanted =>
          { s with
            done := slice gs start i :: s.done
            start := i + 1
            afterBlank
            wanted := wanted.map (· - 1) }

/-- Splits in one region after another. -/
def Splitting.regions (gs : Array Glyph) (separators : List Char) (afterArguments : Bool)
    (s : Splitting) : List Region → Splitting × Bool
  | [] => (s, afterArguments)
  | r :: rs =>
    let seps := if r.argumentsOnly then [] else separators
    let s := (List.range' r.start (r.stop - r.start)).foldl
      (Splitting.step gs seps (afterArguments || r.argumentsOnly)) { s with afterBlank := false }
    Splitting.regions gs separators r.argumentsOnly s rs

/-- The fields of an expanded word, of which there may be a greatest number. -/
def fields (e : Expansion) (separators : List Char) (limit : Option Nat) : List (List Glyph) :=
  let (s, arguments) := Splitting.regions e.glyphs separators false ⟨[], 0, false, limit, none⟩
    e.regions.reverse
  let last := slice e.glyphs s.start (s.cut.getD e.glyphs.size)
  (if last.isEmpty && !arguments then s.done else last :: s.done).reverse

end Expansion

end TapeC.Script
