import TapeC.Lexer

/-!
# Lexer sessions

A session steps a lexer one command at a time and keeps one saved lexer beside it, so that a
reader can look ahead and come back. Commands that list what is left work on a copy: the lexer
stays where it is.
-/

namespace TapeC.Lexer

/-- What a session can be asked for. -/
inductive Command where
  /-- the next token -/
  | next
  /-- the next token and its position -/
  | nextLocated
  /-- the token after `n` skipped ones -/
  | nth (n : Nat)
  /-- up to `n` tokens -/
  | take (n : Nat)
  /-- where the lexer stands -/
  | position
  /-- all tokens that are left, without reading them -/
  | rest
  /-- all instructions that are left, without reading them -/
  | instructions
  /-- the number of tokens that are left, without reading them -/
  | count
  /-- the last of the tokens that are left, without reading them -/
  | last
  /-- keep the lexer -/
  | save
  /-- go on from the kept lexer -/
  | restore
  /-- exchange the lexer and the kept one -/
  | swap
  /-- count from another position; the text that is left stays the same -/
  | place (p : Position)

inductive Reply where
  | token (t : Option Token)
  | located (t : Option Located)
  | tokens (ts : List Token)
  | locatedTokens (ts : List Located)
  | position (p : Position)
  | instructions (is : List Instruction)
  | count (n : Nat)
  | done

structure Session where
  current : Lexer
  saved : Lexer

namespace Session

def ofText (text : String) : Session := ⟨.ofText text, .ofText text⟩

/-- Carries out one command. -/
def step (s : Session) : Command → Reply × Session
  | .next =>
    let (t, l) := s.current.next
    (.token (t.map (·.token)), { s with current := l })
  | .nextLocated =>
    let (t, l) := s.current.next
    (.located t, { s with current := l })
  | .nth n =>
    let (t, l) := s.current.nth n
    (.token (t.map (·.token)), { s with current := l })
  | .take n =>
    let (ts, l) := s.current.take n
    (.tokens (ts.map (·.token)), { s with current := l })
  | .position => (.position s.current.position, s)
  | .rest => (.locatedTokens s.current.tokens, s)
  | .instructions => (.instructions s.current.instructions, s)
  | .count => (.count s.current.tokens.length, s)
  | .last => (.token (s.current.tokens.getLast?.map (·.token)), s)
  | .save => (.done, { s with saved := s.current })
  | .restore => (.done, { s with current := s.saved })
  | .swap => (.done, ⟨s.saved, s.current⟩)
  | .place p => (.done, { s with current := { s.current with position := p } })

/-- Carries out a list of commands: each reply, with the position of the lexer after it. -/
def replay (s : Session) : List Command → List (Reply × Position)
  | [] => []
  | c :: cs =>
    let (r, s') := s.step c
    (r, s'.current.position) :: s'.replay cs

end Session

end TapeC.Lexer
