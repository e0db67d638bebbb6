import TapeC.Op

/-!
# Statements

The text of one op in the generated program: a statement on `ptr`, the pointer to the cell in
use, or the first or the last line of a loop.
-/

namespace TapeC

/-- The pointer, or the cell that it points to. -/
def Arith.target : Arith → String
  | .right | .left => "ptr"
  | .inc | .dec => "*ptr"

def Arith.assignment : Arith → String
  | .right | .inc => "+="
  | .left | .dec => "-="

/-- The statement of an op. Amounts are written in decimal. -/
def Op.statement : Op → String
  | .arith a n => a.target ++ " " ++ a.assignment ++ " " ++ toString n ++ ";"
  | .write => "putchar(*ptr);"
  | .read => "*ptr = getchar();"
  | .loopStart => "while (*ptr) \x7b"
  | .loopEnd => "\x7d"

end TapeC
