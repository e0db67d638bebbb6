import TapeC.Text.Octets

/-!
# The syntax of scripts

A word of a script is a text with marks in it: where quotes stand, where a parameter, a command or
an expression is put in, and where what belongs to it ends. A command is simple, or it is made of
others.
-/

namespace TapeC.Script

/-- What is put in for a parameter, or done with its value. -/
inductive Form where
  | value
  /-- the length of the value -/
  | length
  /-- the value or else a word -/
  | orElse
  /-- a word, if there is a value -/
  | ifSet
  /-- the value, or a complaint -/
  | orFail
  /-- the value, which is a word if there is none -/
  | orAssign
  /-- the value without the shortest end, or the longest one, that fits a pattern -/
  | cutEnd (longest : Bool)
  /-- the value without the shortest beginning, or the longest one, that fits a pattern -/
  | cutStart (longest : Bool)
  /-- a form that does not exist -/
  | bad
deriving DecidableEq

/-- What a file is opened for. -/
inductive FileUse where
  | read
  | write
  | overwrite
  | append
  | update
deriving DecidableEq

mutual

/-- A piece of a word. -/
inductive Mark where
  | char (c : Char)
  /-- a character that stands for itself alone -/
  | escaped (c : Char)
  /-- quotes begin or end -/
  | quote
  /-- a parameter is put in; unless its value is asked for, what follows belongs to it up to its
  end. `orEmpty` says that an empty value counts as none. -/
  | parameter (name : List Char) (form : Form) (orEmpty : Bool)
  | parameterEnd
  /-- the output of a command is put in -/
  | command (body : Option Command)
  /-- the value of an expression is put in, which goes up to its end -/
  | expression
  | expressionEnd

/-- Where a stream of a command comes from or goes to. -/
inductive Redirection where
  | file (stream : Nat) (kind : FileUse) (path : List Mark)
  /-- the stream is what another one is, whose number is given by a word; a dash closes it -/
  | copy (stream : Nat) (source : List Mark)
  /-- the stream is a text in the script, by its number -/
  | document (stream : Nat) (number : Nat)

inductive Command where
  | simple (line : Nat) (assignments words : List (List Mark)) (redirections : List Redirection)
  /-- commands of which each reads what the one before it writes -/
  | pipeline (background : Bool) (commands : List Command)
  | redirected (line : Nat) (body : Command) (redirections : List Redirection)
  | background (line : Nat) (body : Command) (redirections : List Redirection)
  | subshell (line : Nat) (body : Option Command) (redirections : List Redirection)
  | andThen (first second : Command)
  | orElse (first second : Command)
  | sequence (commands : List Command)
  | choice (test : Option Command) (body : Option Command) (otherwise : Option Command)
  | loop (untilTrue : Bool) (test body : Option Command)
  | each (line : Nat) (name : List Char) (words : List (List Mark)) (body : Option Command)
  | select (line : Nat) (subject : List Mark)
      (branches : List (List (List Mark) × Option Command))
  | function (name : List Char) (line : Nat) (body : Command)
  | negation (body : Command)

end

/-- A word: its pieces. -/
abbrev Word := List Mark

/-- All arguments, each a word of its own. -/
def allArguments : Word := [.quote, .parameter ['@'] .value false, .quote]

namespace Mark

/-- The character, if it stands in the text without quotes. -/
def plain? : Mark → Option Char
  | .char c => some c
  | _ => none

end Mark

namespace Word

/-- The text of a word that has no marks but characters. -/
def text? (w : Word) : Option (List Char) := w.mapM Mark.plain?

/-- The characters of a word, with or without quotes. -/
def bareText (w : Word) : List Char :=
  w.filterMap fun
    | .char c | .escaped c => some c
    | _ => none

end Word

/-! ## Names -/

def isNameStart (c : Char) : Bool := c.isAlpha || c = '_'

def isNamePart (c : Char) : Bool := isNameStart c || c.isDigit

/-- The text is the name of a variable. -/
def isName (cs : List Char) : Bool := cs.head?.any isNameStart && cs.all isNamePart

/-- The name that a text assigns to, and the value. -/
def assignment? (cs : List Char) : Option (List Char × List Char) :=
  let name := cs.takeWhile isNamePart
  match cs.drop name.length with
  | '=' :: value => if isName name then some (name, value) else none
  | _ => none

/-- The word assigns a value to a variable. -/
def Word.isAssignment (w : Word) : Bool :=
  (assignment? (w.filterMap fun m => some (m.plain?.getD '\x00'))).isSome

end TapeC.Script
