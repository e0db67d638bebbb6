import TapeC.Listing.Reader
import TapeC.Machine.Structured

/-!
# Running a program text

What the text of a generated program does: its statements are read off it, its loops are found, and
the code is run from a zeroed tape.
-/

namespace TapeC.Code

/-- The code of a program text. -/
def ofText? (program : String) : Option (List Code) := (Listing.read? program).bind ofOps?

end TapeC.Code
