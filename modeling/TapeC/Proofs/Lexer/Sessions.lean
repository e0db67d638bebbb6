import TapeC.Lexer.Counts
import TapeC.Proofs.Lexer.Steps

/-!
# A session knows no more than its numbers

**Theorem (`Session.follows_after`).** In a session of any length, the lexer and the kept one are
lexers of the whole text after some number of calls, and the numbers follow from the commands
alone. Every reply is the one to the tokens that are left. A lexer that met the end stands behind
the last character, and stays there.

All of this is about calls of `next`: the commands that ask for several tokens make some number of
them (`nth_eq`, `take_eq`), and a call hands out the first of the tokens that are left, or meets
the end and leaves nothing to be read (`tokens_after`, `rest_after_eq_nil`). `Session.step_at` is
the step, and `Session.after_at` the run.
-/

namespace TapeC

namespace Lexer

/-! ## Calls -/

@[simp] theorem after_zero (l : Lexer) : l.after 0 = l := rfl

theorem after_succ (l : Lexer) (n : Nat) : l.after (n + 1) = l.next.2.after n := rfl

theorem after_add (l : Lexer) (m n : Nat) : l.after (m + n) = (l.after m).after n := by
  induction m generalizing l with
  | zero => rw [Nat.zero_add, after_zero]
  | succ m ih => rw [Nat.succ_add, after_succ, after_succ, ih]

/-- A call hands out the first of the tokens that are left. -/
theorem next_fst (l : Lexer) : l.next.1 = l.tokens.head? := by
  rw [tokens_eq]
  cases h : l.next with
  | mk t l' => cases t <;> rfl

theorem next_of_rest_eq_nil {l : Lexer} (h : l.rest = []) : l.next = (none, l) := by
  obtain ⟨p, cs⟩ := l
  obtain rfl : cs = [] := h
  rfl

theorem tokens_of_rest_eq_nil {l : Lexer} (h : l.rest = []) : l.tokens = [] :=
  tokens_of_next_none (next_of_rest_eq_nil h)

/-- A call leaves all tokens but the first. -/
theorem tokens_next (l : Lexer) : l.next.2.tokens = l.tokens.tail := by
  cases h : l.next with
  | mk t l' =>
    cases t with
    | none => rw [tokens_of_next_none h, tokens_of_rest_eq_nil (rest_of_next_none h), List.tail_nil]
    | some t => rw [tokens_of_next_some h, List.tail_cons]

theorem tokens_after (l : Lexer) (n : Nat) : (l.after n).tokens = l.tokens.drop n := by
  induction n generalizing l with
  | zero => rfl
  | succ n ih => rw [after_succ, ih, tokens_next, List.drop_tail]

/-! ## The end of the text -/

theorem after_of_rest_eq_nil {l : Lexer} (h : l.rest = []) (n : Nat) : l.after n = l := by
  induction n with
  | zero => rfl
  | succ n ih => rw [after_succ, next_of_rest_eq_nil h, ih]

/-- More calls than there are tokens leave nothing to be read. -/
theorem rest_after_eq_nil {l : Lexer} {n : Nat} (h : l.tokens.length < n) :
    (l.after n).rest = [] := by
  induction n generalizing l with
  | zero => exact absurd h (Nat.not_lt_zero _)
  | succ n ih =>
    rw [after_succ]
    cases hnext : l.next with
    | mk t l' =>
      cases t with
      | none =>
        have hrest := rest_of_next_none hnext
        rw [after_of_rest_eq_nil hrest, hrest]
      | some t =>
        rw [tokens_of_next_some hnext, List.length_cons] at h
        exact ih (Nat.lt_of_succ_lt_succ h)

/-- What a call consumes, it counts. -/
theorem Next.offset_add_length {l : Lexer} {r : Option Located × Lexer} (h : Next l r) :
    r.2.position.offset + r.2.rest.length = l.position.offset + l.rest.length := by
  cases h with
  | stop blank => rw [Position.offset_advance, List.length_nil, Nat.add_zero]
  | instruction blank i cs =>
    simp only [Position.offset_step, Position.offset_advance, List.length_append, List.length_cons]
    omega
  | comment blank head text stop =>
    simp only [Position.offset_advance, List.length_append]
    omega

theorem offset_add_length_after (l : Lexer) (n : Nat) :
    (l.after n).position.offset + (l.after n).rest.length = l.position.offset + l.rest.length := by
  induction n generalizing l with
  | zero => rfl
  | succ n ih => rw [after_succ, ih, l.next_spec.offset_add_length]

/-- A lexer of a text that has nothing to read stands behind the last character. -/
theorem offset_after_of_rest_eq_nil {text : String} {n : Nat}
    (h : ((ofText text).after n).rest = []) :
    ((ofText text).after n).position.offset = text.length := by
  have hsum := offset_add_length_after (ofText text) n
  rw [h, List.length_nil, Nat.add_zero] at hsum
  rw [hsum, ← String.length_toList]
  exact Nat.zero_add _

/-! ## Several tokens at once -/

theorem nth_eq (l : Lexer) (n : Nat) :
    l.nth n = (l.tokens[n]?, l.after (min n l.tokens.length + 1)) := by
  induction n generalizing l with
  | zero =>
    rw [nth, Nat.zero_min, after_succ, after_zero, ← List.head?_eq_getElem?, ← next_fst]
  | succ n ih =>
    rw [nth]
    cases h : l.next with
    | mk t l' =>
      cases t with
      | none =>
        rw [tokens_of_next_none h, List.length_nil, Nat.min_zero, after_succ, h]
        rfl
      | some t =>
        rw [tokens_of_next_some h, List.length_cons, List.getElem?_cons_succ, after_succ, h,
          Nat.succ_min_succ]
        exact ih l'

theorem take_eq (l : Lexer) (n : Nat) :
    l.take n = (l.tokens.take n, l.after (min n (l.tokens.length + 1))) := by
  induction n generalizing l with
  | zero => rw [take_zero, List.take_zero, Nat.zero_min, after_zero]
  | succ n ih =>
    rw [take_succ, Nat.succ_min_succ, after_succ]
    cases h : l.next with
    | mk t l' =>
      cases t with
      | none => rw [tokens_of_next_none h, List.take_nil, List.length_nil, Nat.min_zero, after_zero]
      | some t =>
        rw [tokens_of_next_some h, List.length_cons, List.take_succ_cons]
        dsimp only
        rw [ih l']

/-! ## Commands -/

namespace Command

/-- The reply says that the text has ended if and only if a call met the end. -/
theorem endsBy_reply (c : Command) (p : Position) (left : List Located) :
    c.endsBy (c.reply p left) = true ↔ left.length < c.calls left.length := by
  cases c with
  | next | nextLocated => cases left <;> simp [reply, endsBy, calls]
  | nth n =>
    simp only [reply, endsBy, calls, Option.isNone_map, Option.isNone_iff_eq_none,
      List.getElem?_eq_none_iff]
    omega
  | take n =>
    simp only [reply, endsBy, calls, List.length_map, List.length_take, decide_eq_true_eq]
    omega
  | _ => simp [endsBy, calls]

end Command

namespace Session

theorem step_fst (s : Session) (c : Command) :
    (s.step c).1 = c.reply s.current.position s.current.tokens := by
  cases c with
  | next | nextLocated => simp only [step, Command.reply, next_fst]
  | nth n => simp only [step, Command.reply, nth_eq]
  | take n => simp only [step, Command.reply, take_eq]
  | instructions => simp only [step, Command.reply, instructions_eq]
  | _ => rfl

/-- A command that asks for tokens makes its calls, and leaves the kept lexer alone. -/
theorem step_snd_of_consumes (s : Session) {c : Command} (h : c.consumes = true) :
    (s.step c).2 = ⟨s.current.after (c.calls s.current.tokens.length), s.saved⟩ := by
  cases c with
  | next | nextLocated => rfl
  | nth n => simp only [step, Command.calls, nth_eq]
  | take n => simp only [step, Command.calls, take_eq]
  | _ => cases h

variable {text : String} {n : Counts} {s : Session}

/-- **One command.** The numbers tell where the session stands after it. -/
theorem step_at (h : At text n s) {c : Command} (hc : c.keepsPlace = true) :
    At text (n.step (Lexer.ofText text).tokens.length c) (s.step c).2 := by
  have hleft : s.current.tokens.length = (Lexer.ofText text).tokens.length - n.current := by
    rw [h.current_eq, tokens_after, List.length_drop]
  have hmove : c.consumes = true → At text
      ⟨n.current + c.calls ((Lexer.ofText text).tokens.length - n.current), n.saved⟩
      (s.step c).2 := by
    intro hcons
    rw [step_snd_of_consumes s hcons, hleft, h.current_eq, ← after_add]
    exact ⟨rfl, h.saved_eq⟩
  cases c with
  | next | nextLocated | nth _ | take _ => exact hmove rfl
  | position | rest | instructions | count | last => exact h
  | save => exact ⟨h.current_eq, h.current_eq⟩
  | restore => exact ⟨h.saved_eq, h.saved_eq⟩
  | swap => exact ⟨h.saved_eq, h.current_eq⟩
  | place p => cases hc

/-- **Any number of commands.** -/
theorem after_at (h : At text n s) {cs : List Command} (hcs : ∀ c ∈ cs, c.keepsPlace = true) :
    At text (n.after (Lexer.ofText text).tokens.length cs) (s.after cs) := by
  induction cs generalizing n s with
  | nil => exact h
  | cons c cs ih =>
    obtain ⟨hc, hcs⟩ := List.forall_mem_cons.1 hcs
    exact ih (step_at h hc) hcs

/-- A lexer that met the end of the text stands behind its last character, and stays there. -/
theorem At.ended (h : At text n s) {c : Command} (hend : c.endsBy (s.step c).1 = true) :
    (s.step c).2.current.position.offset = text.length ∧
      ∀ d : Command, d.consumes = true →
        (s.step c).2.step d = (d.reply (s.step c).2.current.position [], (s.step c).2) := by
  rw [step_fst, Command.endsBy_reply] at hend
  have hcons : c.consumes = true := by
    cases c <;> first | rfl | exact absurd hend (Nat.not_lt_zero _)
  -- It made more calls than there were tokens, so it cannot have left anything to be read.
  have hrest : (s.step c).2.current.rest = [] := by
    rw [step_snd_of_consumes s hcons]
    exact rest_after_eq_nil hend
  constructor
  · rw [step_snd_of_consumes s hcons] at hrest ⊢
    rw [h.current_eq, ← after_add] at hrest ⊢
    exact offset_after_of_rest_eq_nil hrest
  · intro d hd
    refine Prod.ext ?_ ?_
    · rw [step_fst, tokens_of_rest_eq_nil hrest]
    · rw [step_snd_of_consumes _ hd, after_of_rest_eq_nil hrest]

/-- **A session follows its numbers.** Whatever is asked of a session of a text, as long as nobody
tells the lexer where it is. -/
theorem follows_after (text : String) (cs : List Command)
    (h : ∀ c ∈ cs, c.keepsPlace = true) :
    Follows text (Counts.start.after (Lexer.ofText text).tokens.length cs)
      ((Session.ofText text).after cs) := by
  have hat : At text (Counts.start.after (Lexer.ofText text).tokens.length cs)
      ((Session.ofText text).after cs) := after_at ⟨rfl, rfl⟩ h
  have hcurrent := tokens_after (Lexer.ofText text)
    (Counts.start.after (Lexer.ofText text).tokens.length cs).current
  rw [← hat.current_eq] at hcurrent
  exact {
    hat with
    tokens_current := hcurrent
    tokens_saved := by rw [hat.saved_eq, tokens_after]
    reply_eq := fun c => by rw [step_fst, hcurrent]
    drain_eq := fun c hc => by cases c <;> first | rfl | cases hc
    offset_eq := fun c hc => (hat.ended hc).1
    ended := fun c hc => (hat.ended hc).2 }

/-- A session that looks ahead to the end, behind trailing blanks, and comes back. -/
theorem follows_after_look_ahead :
    let text := "go + on . \n"
    let cs : List Command := [.next, .save, .take 9, .count, .swap, .nth 1, .restore]
    (∀ c ∈ cs, c.keepsPlace = true) ∧
      Follows text (Counts.start.after (Lexer.ofText text).tokens.length cs)
        ((Session.ofText text).after cs) :=
  ⟨by decide, follows_after _ _ (by decide)⟩

end Session

end Lexer

end TapeC
