import TapeC.Lexer.Session

/-!
# Sessions by numbers

A second way to say what a session does, which knows no lexer: the tokens of the text, and for the
lexer and the kept one how many calls of `next` lie behind each of them. A command's reply depends
on the tokens that are left, and a command adds its own calls to the number of the lexer.

A call at the end of the text counts like any other, so that a number may be greater than that of
the tokens.
-/

namespace TapeC.Lexer

/-- The lexer after a number of calls of `next`. -/
def after (l : Lexer) : Nat → Lexer
  | 0 => l
  | n + 1 => l.next.2.after n

namespace Command

/-- The command leaves it to the lexer where it counts from. -/
def keepsPlace : Command → Bool
  | .place _ => false
  | _ => true

/-- The command asks the lexer for tokens. -/
def consumes : Command → Bool
  | .next | .nextLocated | .nth _ | .take _ => true
  | _ => false

/-- The command looks at what is left, on a copy. -/
def drains : Command → Bool
  | .rest | .instructions | .count | .last => true
  | _ => false

/-- The number of calls of `next` that a command makes if `left` tokens are left. The call that
meets the end of the text is its last one. -/
def calls (left : Nat) : Command → Nat
  | .next | .nextLocated => 1
  | .nth n => min n left + 1
  | .take n => min n (left + 1)
  | _ => 0

/-- The reply to a command at a position, if these tokens are left. -/
def reply (p : Position) (left : List Located) : Command → Reply
  | .next => .token (left.head?.map (·.token))
  | .nextLocated => .located left.head?
  | .nth n => .token (left[n]?.map (·.token))
  | .take n => .tokens ((left.take n).map (·.token))
  | .position => .position p
  | .rest => .locatedTokens left
  | .instructions => .instructions (left.filterMap Located.instruction?)
  | .count => .count left.length
  | .last => .token (left.getLast?.map (·.token))
  | .save | .restore | .swap | .place _ => .done

/-- The reply says that the text has ended: a token was asked for, and there was none. -/
def endsBy : Command → Reply → Bool
  | .next, .token t | .nth _, .token t => t.isNone
  | .nextLocated, .located t => t.isNone
  | .take n, .tokens ts => ts.length < n
  | _, _ => false

end Command

/-- The calls of `next` that lie behind the lexer of a session and behind the kept one. -/
structure Counts where
  current : Nat
  saved : Nat

namespace Counts

def start : Counts := ⟨0, 0⟩

/-- The numbers after a command, in a text of `total` tokens. -/
def step (total : Nat) (n : Counts) : Command → Counts
  | .save => ⟨n.current, n.current⟩
  | .restore => ⟨n.saved, n.saved⟩
  | .swap => ⟨n.saved, n.current⟩
  | c => ⟨n.current + c.calls (total - n.current), n.saved⟩

def after (total : Nat) (n : Counts) (cs : List Command) : Counts := cs.foldl (step total) n

end Counts

namespace Session

/-- The session after a list of commands. -/
def after (s : Session) (cs : List Command) : Session := cs.foldl (fun s c => (s.step c).2) s

/-- The session is where the numbers say. -/
structure At (text : String) (n : Counts) (s : Session) : Prop where
  current_eq : s.current = (Lexer.ofText text).after n.current
  saved_eq : s.saved = (Lexer.ofText text).after n.saved

/-- The session cannot be told from the numbers: neither by what is left for its lexers, nor by
what it replies to a command. A reply that says that the text has ended is true, and remains so. -/
structure Follows (text : String) (n : Counts) (s : Session) : Prop extends At text n s where
  tokens_current : s.current.tokens = (Lexer.ofText text).tokens.drop n.current
  tokens_saved : s.saved.tokens = (Lexer.ofText text).tokens.drop n.saved
  reply_eq : ∀ c : Command,
    (s.step c).1 = c.reply s.current.position ((Lexer.ofText text).tokens.drop n.current)
  drain_eq : ∀ c : Command, c.drains = true → (s.step c).2 = s
  offset_eq : ∀ c : Command, c.endsBy (s.step c).1 = true →
    (s.step c).2.current.position.offset = text.length
  ended : ∀ c : Command, c.endsBy (s.step c).1 = true → ∀ d : Command, d.consumes = true →
    (s.step c).2.step d = (d.reply (s.step c).2.current.position [], (s.step c).2)

end Session

end TapeC.Lexer
