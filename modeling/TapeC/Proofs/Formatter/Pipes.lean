import Mathlib.Data.List.Induction
import Mathlib.Logic.Relation
import TapeC.Formatter.Pipes

/-!
# When a conversation comes to its end

**Theorem (`Pipes.deadlockFree_iff`).** A conversation with a copying tool cannot get stuck exactly
if the source is no longer than the two pipes hold, and one byte more. So a caller that is to come
back with what the tool writes can count on it for these sources only.

Until all is written, every byte that the caller has written is in a pipe or held by the tool
(`Sound`). If the caller waits for room then, the pipe to the tool is full; if the tool waits as
well, it holds a byte, and the pipe from it is full. A source that short has no byte left to write
then. A longer one may come to such a state: the tool reads and writes byte by byte until its pipe
is full (`reachable_copied`), reads one more byte, and the caller fills the pipe to it.

A longer source may also come through, if the tool happens to hold more. Beyond what it can hold at
most there is no way to the end (`not_complete`). Where nobody gets stuck, every conversation comes
to its end (`exists_complete`), and the caller has the source back (`received_of_complete`).
-/

namespace TapeC.Pipes

variable {c : Sizes} {source : Bytes} {s t : State}

/-! ## What holds all along -/

/-- What holds wherever a conversation about `source` comes to. -/
structure Sound (c : Sizes) (source : Bytes) (s : State) : Prop where
  /-- no byte is lost, and all of them stay in order -/
  bytes : s.received ++ s.output ++ s.held ++ s.input ++ s.unsent = source
  input_le : s.input.length ≤ c.input
  output_le : s.output.length ≤ c.output
  held_le : s.held.length ≤ min c.buffer c.input
  /-- the caller reads nothing before all is written -/
  received : s.inputOpen = true → s.received = []
  unsent : s.inputOpen = false → s.unsent = []
  /-- the tool closes its output when there is nothing more to copy -/
  copied : s.outputOpen = false → s.held = [] ∧ s.input = [] ∧ s.inputOpen = false
  ended : s.running = false → s.outputOpen = false
  complaints : s.complaints = []
  complete : s.complete = true → s.running = false ∧ s.output = []

/-- There is something where there is a part of it. -/
theorem ne_nil_of_part {whole now later : Bytes} (h : whole = now ++ later) (hn : now ≠ []) :
    whole ≠ [] := h ▸ List.append_ne_nil_of_left_ne_nil hn later

theorem sound_start : Sound c source (start source) where
  bytes := rfl
  input_le := Nat.zero_le _
  output_le := Nat.zero_le _
  held_le := Nat.zero_le _
  received _ := rfl
  unsent h := nomatch h
  copied h := nomatch h
  ended h := nomatch h
  complaints := rfl
  complete h := nomatch h

theorem Sound.step (hs : Sound c source s) (h : Step c s t) : Sound c source t := by
  cases h with
  | @send now later h some_left room =>
    have left := ne_nil_of_part h some_left
    exact { hs with
      bytes := by simpa [h] using hs.bytes
      input_le := by simpa using room
      unsent := fun hc => absurd (hs.unsent hc) left
      copied := fun hc => absurd (hs.unsent (hs.copied hc).2.2) left }
  | closeInput opened h =>
    exact { hs with
      received := fun hc => nomatch hc
      unsent := fun _ => h
      copied := fun hc => ⟨(hs.copied hc).1, (hs.copied hc).2.1, rfl⟩ }
  | @take now later idle h some_there fits =>
    have there := ne_nil_of_part h some_there
    have sizes : s.input.length = now.length + later.length := by rw [h, List.length_append]
    have inputs := hs.input_le
    exact { hs with
      bytes := by simpa [h, idle] using hs.bytes
      input_le := by dsimp only; omega
      held_le := by dsimp only; omega
      copied := fun hc => absurd (hs.copied hc).2.1 there }
  | @copy now later h some_left room =>
    have left := ne_nil_of_part h some_left
    have sizes : s.held.length = now.length + later.length := by rw [h, List.length_append]
    have holds := hs.held_le
    exact { hs with
      bytes := by simpa [h] using hs.bytes
      output_le := by simpa using room
      held_le := by dsimp only; omega
      copied := fun hc => absurd (hs.copied hc).1 left
      complete := fun hc => absurd (hs.copied (hs.ended (hs.complete hc).1)).1 left }
  | closeOutput opened idle h closed =>
    exact { hs with
      copied := fun _ => ⟨idle, h, closed⟩
      ended := fun _ => rfl }
  | exit runs closed =>
    exact { hs with
      ended := fun _ => closed
      complete := fun hc => ⟨rfl, (hs.complete hc).2⟩ }
  | @receive now later closed h some_there =>
    have there := ne_nil_of_part h some_there
    have outputs := hs.output_le
    have sizes : s.output.length = now.length + later.length := by rw [h, List.length_append]
    exact { hs with
      bytes := by simpa [h] using hs.bytes
      output_le := by dsimp only; omega
      received := fun hc => absurd (closed.symm.trans hc) Bool.false_ne_true
      complete := fun hc => absurd (hs.complete hc).2 there }
  | hear closed h some_there => exact absurd hs.complaints (ne_nil_of_part h some_there)
  | finish written closed h silent ended waits =>
    exact { hs with complete := fun _ => ⟨ended, h⟩ }

theorem Reachable.sound (h : Reachable c source s) : Sound c source s := by
  induction h with
  | start => exact sound_start
  | step _ hs ih => exact ih.step hs

/-- The bytes of the source are those on their way and those that came back. -/
theorem Sound.length_eq (hs : Sound c source s) :
    s.received.length + s.output.length + s.held.length + s.input.length + s.unsent.length
      = source.length := by
  rw [← hs.bytes]
  simp only [List.length_append]

/-- At the end, the caller has the source back. -/
theorem received_of_complete (h : Reachable c source s) (hc : s.complete = true) :
    s.received = source := by
  have hs := h.sound
  obtain ⟨ended, output⟩ := hs.complete hc
  obtain ⟨held, input, written⟩ := hs.copied (hs.ended ended)
  simpa [output, held, input, hs.unsent written] using hs.bytes

/-- What comes of the tool then is the source, as far as it is text. -/
theorem judge_of_complete (h : Reachable c source s) (hc : s.complete = true) :
    Tool.judge s.toolRun = (Utf8.decode source).mapError FormatError.notText := by
  have success : s.toolRun.status.isSuccess = true := rfl
  rw [Tool.judge, success, Bool.not_true, if_neg Bool.false_ne_true]
  change (Utf8.decode s.received).mapError FormatError.notText = _
  rw [received_of_complete h hc]

/-! ## Byte by byte -/

theorem Step.send_byte {b : UInt8} {later : Bytes} (h : s.unsent = b :: later)
    (room : s.input.length < c.input) :
    Step c s { s with unsent := later, input := s.input ++ [b] } :=
  .send h (List.cons_ne_nil b []) room

theorem Step.take_byte {b : UInt8} {later : Bytes} (idle : s.held = [])
    (h : s.input = b :: later) : Step c s { s with input := later, held := [b] } :=
  .take idle h (List.cons_ne_nil b []) c.buffer_pos

theorem Step.copy_byte {b : UInt8} {later : Bytes} (h : s.held = b :: later)
    (room : s.output.length < c.output) :
    Step c s { s with held := later, output := s.output ++ [b] } :=
  .copy h (List.cons_ne_nil b []) room

theorem Step.receive_byte {b : UInt8} {later : Bytes} (closed : s.inputOpen = false)
    (h : s.output = b :: later) :
    Step c s { s with output := later, received := s.received ++ [b] } :=
  .receive closed h (List.cons_ne_nil b [])

/-! ## Going on -/

/-- While the caller writes, somebody can do something if the source is short. -/
theorem Sound.exists_step_of_open (hs : Sound c source s)
    (short : source.length ≤ c.input + c.output + 1) (opened : s.inputOpen = true) :
    ∃ t, Step c s t := by
  by_cases left : s.unsent = []
  · exact ⟨_, .closeInput opened left⟩
  by_cases room : s.input.length < c.input
  · obtain ⟨b, later, h⟩ := List.exists_cons_of_ne_nil left
    exact ⟨_, .send_byte h room⟩
  have there : s.input ≠ [] := by
    have := c.input_pos
    exact List.ne_nil_of_length_pos (by omega)
  cases h : s.held with
  | nil =>
    obtain ⟨b, later, hi⟩ := List.exists_cons_of_ne_nil there
    exact ⟨_, .take_byte h hi⟩
  | cons b later =>
    -- If the tool waited as well, there would be one byte more than the source has.
    have full : s.output.length < c.output := by
      have bytes := hs.length_eq
      have unsent := List.length_pos_iff.mpr left
      rw [h, List.length_cons] at bytes
      omega
    exact ⟨_, .copy_byte h full⟩

/-- When all is written, the caller makes room, and nobody waits for long. -/
theorem Sound.exists_step_of_closed (hs : Sound c source s) (incomplete : s.complete = false)
    (closed : s.inputOpen = false) : ∃ t, Step c s t := by
  cases output : s.output with
  | cons => exact ⟨_, .receive_byte closed output⟩
  | nil =>
  cases held : s.held with
  | cons => exact ⟨_, .copy_byte held (output ▸ c.output_pos)⟩
  | nil =>
  cases input : s.input with
  | cons => exact ⟨_, .take_byte held input⟩
  | nil =>
  cases opened : s.outputOpen with
  | true => exact ⟨_, .closeOutput opened held input closed⟩
  | false =>
  cases runs : s.running with
  | true => exact ⟨_, .exit runs opened⟩
  | false => exact ⟨_, .finish closed opened output hs.complaints runs incomplete⟩

/-! ## Getting stuck -/

/-- The tool can read and write byte by byte, while there is room for what it writes. -/
theorem reachable_copied (copied rest : Bytes) (room : copied.length ≤ c.output) :
    Reachable c (copied ++ rest)
      { start (copied ++ rest) with unsent := rest, output := copied } := by
  induction copied using List.reverseRecOn generalizing rest with
  | nil => exact .start
  | append_singleton copied b ih =>
    rw [List.length_append, List.length_singleton] at room
    have before := ih (b :: rest) (Nat.le_of_succ_le room)
    rw [List.append_assoc, List.singleton_append]
    -- The last byte goes through both pipes after all the others.
    have sent := before.step (.send_byte rfl c.input_pos)
    have taken := sent.step (.take_byte rfl rfl)
    exact taken.step (.copy_byte rfl room)

/-- What stands still: a byte held, both pipes full, and something left to write. -/
theorem stuck_of_full (incomplete : s.complete = false) (opened : s.inputOpen = true)
    (unsent : s.unsent ≠ []) (input : s.input.length = c.input) (held : s.held ≠ [])
    (output : s.output.length = c.output) (outputOpen : s.outputOpen = true) : Stuck c s := by
  refine ⟨incomplete, fun t h => ?_⟩
  cases h with
  | send h some_left room => exact some_left (List.eq_nil_of_length_eq_zero (by omega))
  | closeInput _ h => exact unsent h
  | take idle => exact held idle
  | copy h some_left room => exact some_left (List.eq_nil_of_length_eq_zero (by omega))
  | closeOutput _ idle => exact held idle
  | exit _ closed => exact absurd (closed.symm.trans outputOpen) Bool.false_ne_true
  | receive closed => exact absurd (closed.symm.trans opened) Bool.false_ne_true
  | hear closed => exact absurd (closed.symm.trans opened) Bool.false_ne_true
  | finish closed => exact absurd (closed.symm.trans opened) Bool.false_ne_true

/-- A text can be cut anywhere. -/
theorem exists_cut (n : Nat) (bs : Bytes) (h : n ≤ bs.length) :
    ∃ front rest, bs = front ++ rest ∧ front.length = n :=
  ⟨bs.take n, bs.drop n, (List.take_append_drop n bs).symm, List.length_take_of_le h⟩

/-- With a longer source, caller and tool can both come to wait for room. -/
theorem exists_stuck (long : c.input + c.output + 1 < source.length) :
    ∃ s, Reachable c source s ∧ Stuck c s := by
  obtain ⟨copied, rest, rfl, hcopied⟩ := exists_cut c.output source (by omega)
  rw [List.length_append] at long
  cases rest with
  | nil => exact absurd long (by rw [List.length_nil]; omega)
  | cons b rest =>
    rw [List.length_cons] at long
    obtain ⟨filling, left, rfl, hfilling⟩ := exists_cut c.input rest (by omega)
    rw [List.length_append] at long
    have hleft : left ≠ [] := List.ne_nil_of_length_pos (by omega)
    have hfill : filling ≠ [] := List.ne_nil_of_length_pos (hfilling ▸ c.input_pos)
    have room : ([] : Bytes).length + filling.length ≤ c.input := by
      rw [List.length_nil, Nat.zero_add]
      exact Nat.le_of_eq hfilling
    -- The tool holds `b`, `filling` fills the pipe to it, and `left` is not written.
    have before := reachable_copied copied (b :: (filling ++ left)) (Nat.le_of_eq hcopied)
    have sent := before.step (.send_byte rfl c.input_pos)
    have taken := sent.step (.take_byte rfl rfl)
    have filled := taken.step (.send rfl hfill room)
    exact ⟨_, filled, stuck_of_full rfl rfl hleft hfilling (List.cons_ne_nil b []) hcopied rfl⟩

theorem not_deadlockFree_of_long (long : c.input + c.output + 1 < source.length) :
    ¬DeadlockFree c source := by
  intro free
  obtain ⟨s, hs, incomplete, stuck⟩ := exists_stuck long
  obtain ⟨t, ht⟩ := free s hs incomplete
  exact stuck t ht

/-! ## When nobody gets stuck -/

/-- **Deadlock freedom.** -/
theorem deadlockFree_iff (c : Sizes) (source : Bytes) :
    DeadlockFree c source ↔ source.length ≤ c.input + c.output + 1 := by
  constructor
  · intro free
    exact Nat.le_of_not_lt fun long => not_deadlockFree_of_long long free
  · intro short s h incomplete
    cases opened : s.inputOpen with
    | true => exact h.sound.exists_step_of_open short opened
    | false => exact h.sound.exists_step_of_closed incomplete opened

/-- Not every source comes through the pipes of a usual machine. -/
theorem not_deadlockFree_usual : ¬DeadlockFree .usual (List.replicate 400000 0x2B) := by
  apply not_deadlockFree_of_long
  rw [List.length_replicate]
  decide

/-! ## Coming to the end -/

/-- With a source beyond what the pipes and the tool can hold, the caller is never done with
writing. -/
theorem Reachable.inputOpen
    (long : c.input + c.output + min c.buffer c.input < source.length)
    (h : Reachable c source s) : s.inputOpen = true := by
  induction h with
  | start => rfl
  | @step s t h hs ih =>
    cases hs with
    | closeInput opened hu =>
      have sound := h.sound
      have bytes := sound.length_eq
      have := sound.input_le
      have := sound.output_le
      have := sound.held_le
      rw [sound.received opened, hu, List.length_nil] at bytes
      omega
    | send | take | copy | closeOutput | exit | receive | hear | finish => exact ih

/-- Such a conversation never comes to its end. -/
theorem not_complete (long : c.input + c.output + min c.buffer c.input < source.length)
    (h : Reachable c source s) : s.complete = false := by
  cases complete : s.complete with
  | false => rfl
  | true =>
    have hs := h.sound
    have closed := (hs.copied (hs.ended (hs.complete complete).1)).2.2
    exact absurd (closed.symm.trans (h.inputOpen long)) Bool.false_ne_true

/-- What there is still to do, each byte once for every hand that it has to go through. -/
def State.work (s : State) : Nat :=
  4 * s.unsent.length + 3 * s.input.length + 2 * s.held.length + s.output.length
    + s.complaints.length + s.inputOpen.toNat + s.outputOpen.toNat + s.running.toNat
    + (!s.complete).toNat

/-- Every step does some of it. -/
theorem Step.work_lt (h : Step c s t) : t.work < s.work := by
  cases h with
  | send h some_left =>
    have := List.length_pos_iff.mpr some_left
    simp only [State.work, h, List.length_append]
    omega
  | closeInput opened => simp [State.work, opened]
  | take idle h some_there =>
    have := List.length_pos_iff.mpr some_there
    simp only [State.work, h, idle, List.length_append, List.length_nil]
    omega
  | copy h some_left =>
    have := List.length_pos_iff.mpr some_left
    simp only [State.work, h, List.length_append]
    omega
  | closeOutput opened => simp [State.work, opened]
  | exit runs => simp [State.work, runs]
  | receive closed h some_there =>
    have := List.length_pos_iff.mpr some_there
    simp only [State.work, h, List.length_append]
    omega
  | hear closed h some_there =>
    have := List.length_pos_iff.mpr some_there
    simp only [State.work, h, List.length_append]
    omega
  | finish _ _ _ _ _ waits => simp [State.work, waits]

/-- Where nobody gets stuck, a conversation comes to its end, whatever was done before. -/
theorem exists_complete (free : DeadlockFree c source) (h : Reachable c source s) :
    ∃ t, Relation.ReflTransGen (Step c) s t ∧ t.complete = true := by
  induction hw : s.work using Nat.strongRecOn generalizing s with
  | _ w ih =>
    cases complete : s.complete with
    | true => exact ⟨s, .refl, complete⟩
    | false =>
      obtain ⟨t, ht⟩ := free s h complete
      obtain ⟨u, hu, done⟩ := ih t.work (hw ▸ ht.work_lt) (h.step ht) rfl
      exact ⟨u, .head ht hu, done⟩

end TapeC.Pipes
