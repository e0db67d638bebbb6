import TapeC.CommandLine.Trace.Reader

/-!
# What a trace tells of a text

The lines that a verbose run prints before it formats the program of a text, put together from what
the text is: how many instructions it has and which, its comments, and the ops of its instructions.
The durations are those that a clock shows, whatever they are.
-/

namespace TapeC.CommandLine.Trace

variable (p : Palette) (file : Path) (o : Optimizations) (text : String)

/-- The lines until the tokens of the text are read. -/
def untilLexed (lexing : Duration) : List String :=
  ["Running " ++ file.display,
    p.blue "Raw input:", text,
    p.blue "Starting lexing",
    p.green "Finished lexing with" ++ " " ++ toString (sanitize text).length ++ " instructions in "
      ++ lexing.render]

/-- The comments of the text, under their number. -/
def listing : List String :=
  let comments := ListedComment.among (Lexer.ofText text).tokens
  (p.blue "Comments:" ++ " " ++ toString comments.length) :: comments.map (·.written)

/-- The lines from the sanitized text on. -/
def fromSanitized (folding : Duration) : List String :=
  [p.blue "Sanitized input:", sanitize text,
    p.blue "Starting optimizations" ++ " " ++ o.render,
    p.green "Finished optimizations with" ++ " "
      ++ toString (optimize o (instructionsOf text)).length ++ " ops in " ++ folding.render]

/-- All lines before the program is formatted. -/
def announcement (lexing folding : Duration) : List String :=
  untilLexed p file text lexing ++ listing p text ++ fromSanitized p o text folding

end TapeC.CommandLine.Trace
