import Mathlib.Data.List.Chain
import TapeC.Lexer
import TapeC.Text.Blank
import TapeC.Token

/-!
# Canonical token lists

The token lists that can be written out and read back: every comment has a text that a lexer would
give it, and no two comments are neighbours, since they would be read as one.
-/

namespace TapeC.Token

/-- A text that a comment can have: it is not empty, holds no instruction, and neither begins nor
ends with a blank. -/
structure IsCommentText (cs : List Char) : Prop where
  ne_nil : cs ≠ []
  no_instruction : ∀ c ∈ cs, isInstructionChar c = false
  head_not_blank : ∀ c, cs.head? = some c → Text.isBlank c = false
  last_not_blank : ∀ c, cs.getLast? = some c → Text.isBlank c = false

def isComment : Token → Bool
  | .instruction _ => false
  | .comment _ => true

structure IsCanonical (ts : List Token) : Prop where
  comments : ∀ text, .comment text ∈ ts → IsCommentText text.toList
  isChain : ts.IsChain fun t u => ¬(t.isComment ∧ u.isComment)

/-- The text of a token list, with nothing between the tokens. -/
def print (ts : List Token) : String := String.join (ts.map Token.text)

/-- The tokens of a text, without their positions. -/
def ofText (text : String) : List Token := (Lexer.ofText text).tokens.map (·.token)

/-- The text without the blanks between its tokens. -/
def normalize (text : String) : String := print (ofText text)

end TapeC.Token
