import TapeC.Text.Split

/-!
# Patterns

Texts with characters that stand for others: `?` for any one, `*` for any number, and a set in
brackets for one of its members. Quoted characters stand for themselves, and so does one after a
backslash. Patterns are matched with texts, cut from their ends, and replaced by the paths that
they fit.
-/

namespace TapeC.Script

/-- A pattern as it is written: its characters, and whether each stands for itself alone. -/
abbrev PatternText := List (Char × Bool)

namespace Pattern

/-- A character that takes the place of several. -/
inductive Item where
  | literal (c : Char)
  | any
  | many
  /-- one of the characters in ranges and classes, or none of them -/
  | oneOf (inverted : Bool) (ranges : List (Char × Char)) (classes : List String)

/-- Backslashes make the characters after them stand for themselves. -/
def unbackslash : PatternText → PatternText
  | [] => []
  | ('\\', false) :: (c, _) :: cs => (c, true) :: unbackslash cs
  | ('\\', false) :: [] => [('\\', true)]
  | c :: cs => c :: unbackslash cs

/-! ## Sets -/

def classNames : List String :=
  ["alnum", "cntrl", "lower", "space", "alpha", "digit", "print", "upper", "blank", "graph", "punct",
    "xdigit"]

/-- The class with the name has the character. No class has characters outside ASCII. -/
def classHas (name : String) (c : Char) : Bool :=
  match name with
  | "alnum" => c.isAlphanum
  | "alpha" => c.isAlpha
  | "blank" => c = ' ' || c = '\t'
  | "cntrl" => c < ' ' || c = '\x7F'
  | "digit" => c.isDigit
  | "graph" => ' ' < c && c < '\x7F'
  | "lower" => c.isLower
  | "print" => ' ' ≤ c && c < '\x7F'
  | "punct" => ' ' < c && c < '\x7F' && !c.isAlphanum
  | "space" => c = ' ' || '\t' ≤ c && c ≤ '\r'
  | "upper" => c.isUpper
  | "xdigit" => c.isDigit || 'a' ≤ c && c ≤ 'f' || 'A' ≤ c && c ≤ 'F'
  | _ => false

/-- The name of a class after the bracket that opens it, and what comes after the class. -/
def class? (cs : PatternText) : Option (String × PatternText) :=
  classNames.findSome? fun name =>
    let text := (":" ++ name ++ ":]").toList.map fun c => (c, false)
    if text.isPrefixOf cs then some (name, cs.drop text.length) else none

/-- Reads the members of a set, of no more than `n` characters; `first` says that none was read.
Without a closing bracket, there is no set. -/
def readSet (inverted : Bool) : Nat → Bool → List (Char × Char) → List String → PatternText →
    Option (Item × PatternText)
  | 0, _, _, _, _ | _, _, _, _, [] => none
  | n + 1, first, ranges, classes, (c, escaped) :: cs =>
    if c = ']' && !escaped && !first then some (.oneOf inverted ranges classes, cs)
    else
      match if c = '[' && !escaped then class? cs else none with
      | some (name, rest) => readSet inverted n false ranges (name :: classes) rest
      | none =>
        match cs with
        | ('-', false) :: (d, dEscaped) :: rest =>
          if d = ']' && !dEscaped then readSet inverted n false ((c, c) :: ranges) classes cs
          else readSet inverted n false ((c, d) :: ranges) classes rest
        | cs => readSet inverted n false ((c, c) :: ranges) classes cs

/-- The items of a pattern of no more than `n` characters. -/
def itemsUpTo : Nat → PatternText → List Item
  | 0, _ | _, [] => []
  | n + 1, (c, true) :: cs => .literal c :: itemsUpTo n cs
  | n + 1, (c, false) :: cs =>
    match c with
    | '?' => .any :: itemsUpTo n cs
    | '*' => .many :: itemsUpTo n cs
    | '[' =>
      let inverted := cs.head? = some ('!', false)
      match readSet inverted n true [] [] (if inverted then cs.tail else cs) with
      | some (item, rest) => item :: itemsUpTo n rest
      | none => .literal '[' :: itemsUpTo n cs
    | c => .literal c :: itemsUpTo n cs

def items (p : PatternText) : List Item :=
  let p := unbackslash p
  itemsUpTo p.length p

/-! ## Matching -/

/-- The item takes the place of the character. -/
def Item.fits : Item → Char → Bool
  | .literal c, d => c = d
  | .any, _ | .many, _ => true
  | .oneOf inverted ranges classes, d =>
    let found := ranges.any (fun r => r.1 ≤ d && d ≤ r.2) || classes.any (classHas · d)
    found != inverted

/-- A text and its ends, the empty one included. -/
def ends : List Char → List (List Char)
  | [] => [[]]
  | c :: cs => (c :: cs) :: ends cs

/-- The items take the place of the whole text. -/
def fitsAll : List Item → List Char → Bool
  | [], cs => cs.isEmpty
  | [.many], _ => true
  | .many :: is, cs => (ends cs).any (fitsAll is)
  | _ :: _, [] => false
  | i :: is, c :: cs => i.fits c && fitsAll is cs

/-- The pattern takes the place of the whole text. -/
def fits (p : PatternText) (cs : List Char) : Bool := fitsAll (items p) cs

/-! ## Cutting -/

/-- The length of the beginning of a text that a pattern fits: the shortest or the longest. -/
def startLength? (p : PatternText) (longest : Bool) (cs : List Char) : Option Nat :=
  let is := items p
  let lengths := List.range (cs.length + 1)
  (if longest then lengths.reverse else lengths).find? fun n => fitsAll is (cs.take n)

/-- The length of the end of a text that a pattern fits: the shortest or the longest. -/
def endLength? (p : PatternText) (longest : Bool) (cs : List Char) : Option Nat :=
  let is := items p
  let lengths := List.range (cs.length + 1)
  (if longest then lengths.reverse else lengths).find? fun n =>
    fitsAll is (cs.drop (cs.length - n))

/-! ## Paths -/

/-- A set has a closing bracket in the text after its opening one. -/
def closes (cs : PatternText) : Bool :=
  let cs := if cs.head? = some ('!', false) then cs.tail else cs
  cs.tail.contains (']', false)

/-- The text has a character that stands for others. -/
def isActive : PatternText → Bool
  | [] => false
  | (c, escaped) :: cs =>
    !escaped && (c = '*' || c = '?' || c = '[' && closes cs) || isActive cs

/-- What paths are looked up in: the names in a directory, and whether a path leads anywhere. -/
structure Directories where
  names : List Char → List (List Char)
  leads : List Char → Bool

/-- The names in a directory that a pattern fits. Names that begin with a dot are hidden from
patterns that do not. -/
def namesIn (ds : Directories) (directory : List Char) (p : PatternText) : List (List Char) :=
  let is := items p
  let shown := p.head?.any (·.1 = '.')
  (ds.names directory).filter fun name => (shown || name.head? ≠ some '.') && fitsAll is name

/-- The paths that patterns fit, one for each part between slashes, below a beginning of a path.
`found` says that something was looked up already. -/
def pathsBelow (ds : Directories) : Bool → List Char → List PatternText → List (List Char)
  | found, path, [] => if found && ds.leads path then [path] else []
  | found, path, [p] =>
    if isActive p then (namesIn ds path p).map (path ++ ·)
    else
      let path := path ++ p.map (·.1)
      if found && ds.leads path then [path] else []
  | found, path, p :: q :: ps =>
    if isActive p then
      (namesIn ds path p).flatMap fun name => pathsBelow ds true (path ++ name ++ ['/']) (q :: ps)
    else pathsBelow ds found (path ++ p.map (·.1) ++ ['/']) (q :: ps)

/-- The parts of a pattern between slashes. -/
def parts (p : PatternText) : List PatternText :=
  p.foldr (fun c done =>
    if c.1 = '/' then [] :: done
    else
      match done with
      | [] => [[c]]
      | q :: qs => (c :: q) :: qs) [[]]

/-- Texts in the order of their first different character; a beginning comes before the whole. -/
def textLe : List Char → List Char → Bool
  | [], _ => true
  | _ :: _, [] => false
  | a :: as, b :: bs => if a = b then textLe as bs else a.toNat < b.toNat

/-- The paths that a pattern fits, in order. -/
def paths (ds : Directories) (p : PatternText) : List (List Char) :=
  let found := pathsBelow ds false [] (parts (unbackslash p))
  found.mergeSort textLe

end Pattern

end TapeC.Script
