import TapeC.Host.Path
import TapeC.Lexer
import TapeC.Listing.Program
import TapeC.Text.Quoted
import TapeC.Text.Terminal

/-!
# The trace

What a verbose run says on its way, in blocks of whole lines, one for each stage that begins or
ends. Headings are coloured by a palette: blue where something begins or follows, green where
something is done. A comment is listed in one line, whatever is in it, with its position.
-/

namespace TapeC.CommandLine

/-- How words are coloured. -/
structure Palette where
  blue : String → String
  green : String → String
  red : String → String

namespace Palette

/-- Words as they are. -/
def plain : Palette := ⟨id, id, id⟩

def coloured : Palette :=
  ⟨Terminal.styled [.blue], Terminal.styled [.green], Terminal.styled [.red]⟩

end Palette

/-- The time that a stage took, in nanoseconds. -/
structure Duration where
  nanoseconds : Nat

namespace Duration

/-- A number of hundredths, with two places after the point. -/
def hundredths (n : Nat) : String :=
  toString (n / 100) ++ "." ++ toString (n / 10 % 10) ++ toString (n % 10)

/-- The duration in the greatest unit that it holds once, rounded to hundredths. -/
def render (d : Duration) : String :=
  let inUnits (size : Nat) (name : String) : String :=
    hundredths ((d.nanoseconds * 100 + size / 2) / size) ++ name
  if d.nanoseconds < 1000 then inUnits 1 "ns"
  else if d.nanoseconds < 1000000 then inUnits 1000 "µs"
  else if d.nanoseconds < 1000000000 then inUnits 1000000 "ms"
  else inUnits 1000000000 "s"

end Duration

namespace Trace

/-- The line of a comment. -/
def commentLine (c : LocatedComment) : String :=
  "  " ++ c.position.render ++ " " ++ Text.quote c.text

def running (file : Path) : List String := ["Running " ++ file.display]

def read (p : Palette) (text : String) : List String :=
  [p.blue "Raw input:", text, p.blue "Starting lexing"]

def lexed (p : Palette) (is : List Instruction) (comments : List LocatedComment)
    (took : Duration) : List String :=
  [p.green "Finished lexing with" ++ " " ++ toString is.length ++ " instructions in "
      ++ took.render,
    p.blue "Comments:" ++ " " ++ toString comments.length]
    ++ comments.map commentLine
    ++ [p.blue "Sanitized input:", String.ofList (is.map (·.toChar))]

def optimizing (p : Palette) (o : Optimizations) : List String :=
  [p.blue "Starting optimizations" ++ " " ++ o.render]

def optimized (p : Palette) (ops : List Op) (took : Duration) : List String :=
  [p.green "Finished optimizations with" ++ " " ++ toString ops.length ++ " ops in "
    ++ took.render]

def formatting (p : Palette) : List String := [p.blue "Starting formatting"]

def formatted (p : Palette) (code : String) (took : Duration) : List String :=
  [p.green "Finished formatting in" ++ " " ++ took.render, p.blue "Formatted output:", code]

def written (p : Palette) (path : Path) : List String :=
  [p.green "Output written to" ++ " " ++ path.display]

end Trace

end TapeC.CommandLine
