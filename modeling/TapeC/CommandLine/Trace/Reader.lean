import TapeC.CommandLine.Trace
import TapeC.Text.Decimal

/-!
# Reading the comments of a trace

A line of the comment listing, written and read back: two blanks, the line and the column of the
comment with a colon between them, a blank, and the quoted text. What there is to list is said by
the tokens of a text (`ListedComment.among`).
-/

namespace TapeC.CommandLine

/-- A comment as its line in the trace tells of it. -/
structure ListedComment where
  line : Nat
  col : Nat
  text : String
deriving DecidableEq

namespace ListedComment

/-- The comments among tokens, in their order. -/
def among (ts : List Located) : List ListedComment :=
  ts.filterMap fun t =>
    match t.token with
    | .instruction _ => none
    | .comment text => some ⟨t.position.line, t.position.col, text⟩

/-- The line that lists the comment. -/
def written (c : ListedComment) : String :=
  "  " ++ toString c.line ++ ":" ++ toString c.col ++ " " ++ Text.quote c.text

/-- The comment that a line lists. -/
def ofLine? (line : String) : Option ListedComment :=
  match line.toList with
  | ' ' :: ' ' :: cs =>
    let row := cs.takeWhile (· != ':')
    let afterRow := (cs.dropWhile (· != ':')).tail
    let column := afterRow.takeWhile (· != ' ')
    let quoted := (afterRow.dropWhile (· != ' ')).tail
    do
      let l ← Text.readDecimal? row
      let c ← Text.readDecimal? column
      let text ← Text.unquote? (String.ofList quoted)
      some ⟨l, c, text⟩
  | _ => none

end ListedComment

end TapeC.CommandLine
