import TapeC.Op
import TapeC.Text.Decimal
import TapeC.Text.Split

/-!
# Reading a program text

`read?` takes the text of a program for what it says, without regard to where it comes from. The
frame must be there line by line: a tape of 30000 zeroed cells and a pointer to the first one. A
statement stands on a line of its own, after any number of blanks.
-/

namespace TapeC

/-- The rest of a text after its beginning, if it begins so. -/
def afterBeginning? (beginning : String) (cs : List Char) : Option (List Char) :=
  if beginning.toList.isPrefixOf cs then some (cs.drop beginning.length) else none

/-- Reads the amount and the end of an assignment. -/
def readAmount? (cs : List Char) : Option Nat :=
  if cs.getLast? = some ';' then Text.readDecimal? cs.dropLast else none

/-- How an assignment begins. -/
def Arith.beginning : Arith → String
  | .right => "ptr += "
  | .left => "ptr -= "
  | .inc => "*ptr += "
  | .dec => "*ptr -= "

/-- Reads an assignment of one kind. -/
def Arith.readAssignment? (a : Arith) (cs : List Char) : Option Op :=
  ((afterBeginning? a.beginning cs).bind readAmount?).map (.arith a)

/-- Reads a statement, or the first or the last line of a loop. -/
def Op.readStatement? (cs : List Char) : Option Op :=
  if cs = "putchar(*ptr);".toList then some .write
  else if cs = "*ptr = getchar();".toList then some .read
  else if cs = "while (*ptr) \x7b".toList then some .loopStart
  else if cs = "\x7d".toList then some .loopEnd
  else Arith.all.findSome? (·.readAssignment? cs)

namespace Listing

/-- The lines of a text in which each line has its line feed. -/
def linesOf? (cs : List Char) : Option (List (List Char)) :=
  let ls := Text.split '\n' cs
  if ls.getLast? = some [] then some ls.dropLast else none

/-- The lines before the statements. -/
def top : List (List Char) :=
  ["#include <stdio.h>".toList,
    "int main() \x7b".toList,
    "    unsigned char memory[30000] = \x7b0\x7d;".toList,
    "    unsigned char *ptr = memory;".toList]

/-- The lines after the statements. -/
def bottom : List (List Char) := ["    return 0;".toList, "\x7d".toList]

/-- The lines between those of the frame. -/
def body? (ls : List (List Char)) : Option (List (List Char)) :=
  if top.isPrefixOf ls && bottom.isSuffixOf (ls.drop top.length) then
    some ((ls.drop top.length).take (ls.length - top.length - bottom.length))
  else none

/-- Reads the op of a line, whatever its indentation. -/
def readLine? (line : List Char) : Option Op := Op.readStatement? (line.dropWhile (· == ' '))

/-- The ops that a program text consists of. -/
def read? (program : String) : Option (List Op) := do
  let ls ← linesOf? program.toList
  (← body? ls).mapM readLine?

end Listing

end TapeC
