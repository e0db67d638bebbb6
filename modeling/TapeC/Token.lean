import TapeC.Instruction
import TapeC.Position

/-!
# Tokens

A program text is read as a sequence of tokens: instructions, one character each, and comments,
the stretches of other text between them.
-/

namespace TapeC

inductive Token where
  | instruction (i : Instruction)
  | comment (text : String)
deriving DecidableEq, Inhabited

namespace Token

/-- The text that the token was read from. -/
def text : Token → String
  | .instruction i => String.singleton i.toChar
  | .comment t => t

def instruction? : Token → Option Instruction
  | .instruction i => some i
  | .comment _ => none

end Token

/-- A token and the position of its first character. -/
structure Located where
  position : Position
  token : Token
deriving DecidableEq, Inhabited

/-- A comment with the position of its first character. -/
structure LocatedComment where
  position : Position
  text : String
deriving DecidableEq, Inhabited

def Located.instruction? (t : Located) : Option Instruction := t.token.instruction?

end TapeC
