import TapeC.Lexer.Counts

/-!
# Sessions by marks

A lexer can be told to count from another position, and goes on from there. A *mark* keeps what it
was told last, and where in the text it was told so. Between the mark and a place in the text lies a
stretch of characters, and the place's position is the told one moved over this stretch.

So a session is told apart from one that nobody tells anything by its positions only, and these
follow from the marks: `relocate` gives the other session's replies and lexers new positions, one
for each place.
-/

namespace TapeC

/-- The position after a text, by counting: each line feed is a line, and the column is counted from
the last one. -/
def Position.moved (p : Position) (cs : List Char) : Position :=
  ⟨p.line + cs.count '\n',
    if '\n' ∈ cs then 1 + (cs.reverse.takeWhile (· ≠ '\n')).length else p.col + cs.length,
    p.offset + cs.length⟩

/-- The token at the position that its place has by another count. -/
def Located.relocate (locate : Nat → Position) (t : Located) : Located :=
  ⟨locate t.position.offset, t.token⟩

namespace Lexer

def relocate (locate : Nat → Position) (l : Lexer) : Lexer :=
  ⟨locate l.position.offset, l.rest⟩

/-- The lexer's offset is the number of characters of a text that it has consumed. -/
structure IsIn (cs : List Char) (l : Lexer) : Prop where
  rest_eq : l.rest = cs.drop l.position.offset
  offset_le : l.position.offset ≤ cs.length

/-- The reply with other positions. The tokens stay what they are. -/
def Reply.relocate (locate : Nat → Position) : Reply → Reply
  | .located t => .located (t.map (·.relocate locate))
  | .locatedTokens ts => .locatedTokens (ts.map (·.relocate locate))
  | .position p => .position (locate p.offset)
  | r => r

/-- What a lexer was told last, and the number of characters that it had consumed by then. -/
structure Mark where
  told : Position
  place : Nat

/-- The position of a place in a text, counted from the mark. -/
def Mark.locate (cs : List Char) (m : Mark) (place : Nat) : Position :=
  m.told.moved ((cs.take place).drop m.place)

/-- The marks of a session's lexers. -/
structure Marks where
  current : Mark
  saved : Mark

namespace Marks

/-- Nobody has told a new lexer anything but where a text starts. -/
def start : Marks := ⟨⟨.start, 0⟩, ⟨.start, 0⟩⟩

/-- The marks after a command that finds the lexer at a place. A lexer keeps its mark until it is
told something else, and a copy has the mark of what it was copied from. -/
def step (place : Nat) (m : Marks) : Command → Marks
  | .place p => { m with current := ⟨p, place⟩ }
  | .save => ⟨m.current, m.current⟩
  | .restore => ⟨m.saved, m.saved⟩
  | .swap => ⟨m.saved, m.current⟩
  | _ => m

end Marks

namespace Session

/-- The session after a command that does not say where the lexer is; one that does is passed
over. -/
def untold (s : Session) (c : Command) : Session := if c.keepsPlace then (s.step c).2 else s

/-- The marks after a list of commands, by the session that is told nothing. -/
def marks (s : Session) (m : Marks) : List Command → Marks
  | [] => m
  | c :: cs => (s.untold c).marks (m.step s.current.position.offset c) cs

/-- The session is where another one is that was told nothing, but for the positions, which are
counted from the marks. This is also the one difference between their replies. The other one stands
in the text, with tokens of the text still to be read. -/
structure Relocates (text : String) (m : Marks) (plain s : Session) : Prop where
  current_in : plain.current.IsIn text.toList
  saved_in : plain.saved.IsIn text.toList
  current_tokens : plain.current.tokens <:+ (Lexer.ofText text).tokens
  saved_tokens : plain.saved.tokens <:+ (Lexer.ofText text).tokens
  current_eq : s.current = plain.current.relocate (m.current.locate text.toList)
  saved_eq : s.saved = plain.saved.relocate (m.saved.locate text.toList)
  reply_eq : ∀ c : Command,
    (s.step c).1 = (plain.step c).1.relocate (m.current.locate text.toList)

end Session

end Lexer

end TapeC
