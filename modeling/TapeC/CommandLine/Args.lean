import TapeC.CommandLine.Trace
import TapeC.Host.Process

/-!
# What a run goes by

The arguments, after they were read, and the colours of what a run says, which the environment
decides about.
-/

namespace TapeC.CommandLine

/-- What the arguments ask for. -/
structure Args where
  /-- the file to operate on -/
  file : Path
  /-- where to save the program besides, if anywhere -/
  output : Option Path
  verbose : Bool
  noOptimize : Bool
  noFormat : Bool
  /-- the external formatter -/
  clangFormat : String
  /-- the style that it is handed -/
  style : String

/-- The name of the variable that asks for colours. -/
def colourVariable : String := "CLICOLOR_FORCE"

/-- Colours are asked for by a variable that is text and not `0`; there are none otherwise, since
nothing is printed on a terminal. -/
def paletteOf (env : Environment) : Palette :=
  match (env colourVariable).bind Utf8.decode? with
  | none | some "0" => .plain
  | some _ => .coloured

end TapeC.CommandLine
