import TapeC.Formatter
import TapeC.Text.Terminal

/-!
# Flags

The flags of the command line and how they are written: each has a long name, some have a letter,
and some take a value. What is said about them is text for terminals, in which headings and the
names of flags stand out.
-/

namespace TapeC.CommandLine

inductive Flag where
  | output
  | verbose
  | noOptimize
  | noFormat
  | clangFormat
  | style
  | help
  | version
deriving DecidableEq

/-- The name of the program on its command line. -/
def programName : String := "bf2c"

def programVersion : String := "0.1.0"

/-- The name of the environment variable with the formatter to run. -/
def formatterVariable : String := "CLANG_FORMAT"

namespace Flag

/-- Every flag, in the order of the help text. -/
def all : List Flag :=
  [.output, .verbose, .noOptimize, .noFormat, .clangFormat, .style, .help, .version]

def long : Flag → String
  | .output => "output"
  | .verbose => "verbose"
  | .noOptimize => "no-optimize"
  | .noFormat => "no-format"
  | .clangFormat => "clang-format"
  | .style => "style"
  | .help => "help"
  | .version => "version"

def letter? : Flag → Option Char
  | .output => some 'o'
  | .verbose => some 'v'
  | .help => some 'h'
  | .version => some 'V'
  | _ => none

/-- The name of the value that the flag takes. -/
def value? : Flag → Option String
  | .output => some "OUTPUT"
  | .clangFormat => some "CLANG_FORMAT"
  | .style => some "STYLE"
  | _ => none

def takesValue (f : Flag) : Bool := f.value?.isSome

/-- Whether the flag says something about the run. The others ask for a text instead of a run. -/
def isSetting : Flag → Bool
  | .help | .version => false
  | _ => true

/-- The flag as it is written. -/
def written (f : Flag) : String := "--" ++ f.long

/-- The name of the value, if any, as it follows the flag in usage lines and errors. -/
def valueSuffix (f : Flag) : String :=
  match f.value? with
  | some v => " <" ++ v ++ ">"
  | none => ""

/-- The flag with the name of its value. -/
def display (f : Flag) : String := f.written ++ f.valueSuffix

def ofLong? (name : String) : Option Flag := all.find? (·.long == name)

def ofLetter? (c : Char) : Option Flag := all.find? (·.letter? == some c)

end Flag

/-- The name of the positional argument. -/
def fileName : String := "FILE"

/-- The positional argument, as usage lines and errors show it. -/
def fileDisplay : String := "<" ++ fileName ++ ">"

/-! ## Styles -/

/-- What is typed as it stands. -/
def literal (s : String) : String := Terminal.styled [.bold] s

def heading (s : String) : String := Terminal.styled [.bold, .underlined] s

/-- The flag with the name of its value, as usage lines and the help text show it. -/
def Flag.styled (f : Flag) : String := literal f.written ++ f.valueSuffix

/-! ## Usage -/

/-- What a usage line shows. -/
inductive Usage where
  /-- that there are flags -/
  | general
  /-- some flags -/
  | flags (shown : List Flag)
  /-- some flags, and all that says something about the run to choose from -/
  | choice (shown : List Flag)
deriving DecidableEq

namespace Usage

/-- All arguments that say something about the run, as alternatives. -/
def alternatives : String :=
  "<" ++ "|".intercalate (fileName :: (Flag.all.filter (·.isSetting)).map (·.display)) ++ ">"

def words : Usage → List String
  | .general => ["[OPTIONS]", fileDisplay]
  | .flags shown => shown.map (·.styled) ++ [fileDisplay]
  | .choice shown => shown.map (·.styled) ++ [alternatives]

def line (u : Usage) : String :=
  heading "Usage:" ++ " " ++ " ".intercalate (literal programName :: u.words)

end Usage

/-! ## Help -/

/-- What a flag does. The help text shows the value that the environment gives. -/
def Flag.about (preset : String) : Flag → String
  | .output => "Also save the C code here (\x60.c\x60 is appended if missing)"
  | .verbose => "Trace every stage of the pipeline"
  | .noOptimize => "Emit one statement per instruction instead of folding runs"
  | .noFormat => "Skip the external formatter"
  | .clangFormat =>
    "The clang-format binary to run [env: " ++ formatterVariable ++ "=" ++ preset
      ++ "] [default: " ++ Tool.defaultProgram ++ "]"
  | .style => "Style handed to clang-format [default: \"" ++ Tool.defaultStyle ++ "\"]"
  | .help => "Print help"
  | .version => "Print version"

/-- A flag's letter and name in their columns, with what is typed dressed in some way. -/
def Flag.columns (dress : String → String) (f : Flag) : String :=
  (match f.letter? with
    | some c => dress ("-" ++ String.singleton c) ++ ", "
    | none => "    ") ++ dress f.written ++ f.valueSuffix

def spaces (n : Nat) : String := String.ofList (List.replicate n ' ')

/-- The number of characters that a flag's letter and name take. -/
def Flag.width (f : Flag) : Nat := (f.columns id).length

/-- The column that what the flags do stands in. -/
def aboutColumn : Nat := 2 + (Flag.all.map (·.width)).foldl max 0 + 2

/-- A text whose lines after the first one begin in a column. -/
def hanging (column : Nat) (s : String) : String :=
  String.ofList (s.toList.flatMap fun c =>
    if c = '\n' then '\n' :: (spaces column).toList else [c])

/-- A flag's line in the help text. What the flags do stands in one column. -/
def Flag.helpLine (preset : String) (f : Flag) : String :=
  spaces 2 ++ f.columns literal ++ spaces (aboutColumn - 2 - f.width)
    ++ hanging aboutColumn (f.about preset) ++ "\n"

/-- The help text; `preset` is what the environment says about the formatter. -/
def helpText (preset : String) : String :=
  "Brainf**k to C compiler\n\n" ++ Usage.general.line ++ "\n\n" ++ heading "Arguments:" ++ "\n  "
    ++ fileDisplay ++ "  The file to operate on\n\n" ++ heading "Options:" ++ "\n"
    ++ String.join (Flag.all.map (·.helpLine preset))

def versionText : String := programName ++ " " ++ programVersion ++ "\n"

end TapeC.CommandLine
