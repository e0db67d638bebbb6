import TapeC.Lexer
import TapeC.Listing.Program

/-!
# Compilation

The whole way from the text of a tape program to the text of a program that does the same: its
instructions, their ops, the listing of the ops.
-/

namespace TapeC

/-- The program that a text is compiled to. -/
def compile (o : Optimizations) (text : String) : String :=
  Listing.program (optimize o (instructionsOf text))

end TapeC
