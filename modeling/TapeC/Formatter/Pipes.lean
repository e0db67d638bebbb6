import TapeC.Formatter

/-!
# Talking to a tool through pipes

A caller and a tool that copies what it reads, joined by three pipes that hold only so much: one to
the tool's input, one from its output, and one from its complaints. The caller writes the whole
source, closes the tool's input, and only then reads what the tool writes, from both pipes in
whatever order there is something, and waits for the tool to end. A write waits while its pipe is
full; a read waits while its pipe is empty and still has a writer. `Step` says what either of them
can do, in whatever order they come to it.

The tool reads at most a buffer at a time and writes all of that before it reads on. It writes no
complaints, so it does not matter how much the pipe for them holds.
-/

namespace TapeC.Pipes

/-- How much the pipes hold, and how much the tool reads at once. -/
structure Sizes where
  /-- the pipe to the tool -/
  input : Nat
  /-- the pipe from the tool -/
  output : Nat
  buffer : Nat
  input_pos : 0 < input
  output_pos : 0 < output
  buffer_pos : 0 < buffer

/-- Pipes of the usual size, and a tool that asks for more than they hold. -/
def Sizes.usual : Sizes :=
  ⟨Pipe.capacity, Pipe.capacity, 2 * Pipe.capacity, by decide, by decide, by decide⟩

/-- A conversation on its way. -/
structure State where
  /-- what the caller still has to write -/
  unsent : Bytes
  /-- what is in the pipe to the tool -/
  input : Bytes
  /-- the caller can still write to the tool -/
  inputOpen : Bool
  /-- what the tool has read and not yet written -/
  held : Bytes
  /-- what is in the pipe from the tool -/
  output : Bytes
  /-- the tool can still write to the caller -/
  outputOpen : Bool
  /-- what is in the pipe for complaints, which the tool can write to until it ends -/
  complaints : Bytes
  /-- the tool has not ended -/
  running : Bool
  /-- what the caller has read of the output -/
  received : Bytes
  /-- what the caller has read of the complaints -/
  heard : Bytes
  /-- the caller has waited for the tool's end -/
  complete : Bool
deriving DecidableEq

/-- What the caller knows of the tool at the end. -/
def State.toolRun (s : State) : ToolRun := ⟨.ok (), s.received, s.heard, .exited 0⟩

/-- The conversation before its first step. -/
def start (source : Bytes) : State where
  unsent := source
  input := []
  inputOpen := true
  held := []
  output := []
  outputOpen := true
  complaints := []
  running := true
  received := []
  heard := []
  complete := false

/-- What the caller or the tool can do. -/
inductive Step (c : Sizes) : State → State → Prop where
  /-- the caller writes a part of what is left, as far as there is room -/
  | send {s : State} {now later : Bytes} (h : s.unsent = now ++ later) (some_left : now ≠ [])
      (room : s.input.length + now.length ≤ c.input) :
      Step c s { s with unsent := later, input := s.input ++ now }
  /-- the caller closes the tool's input when all is written -/
  | closeInput {s : State} (opened : s.inputOpen = true) (h : s.unsent = []) :
      Step c s { s with inputOpen := false }
  /-- the tool, who has written all it read, reads what is there, or a part of it -/
  | take {s : State} {now later : Bytes} (idle : s.held = []) (h : s.input = now ++ later)
      (some_there : now ≠ []) (fits : now.length ≤ c.buffer) :
      Step c s { s with input := later, held := now }
  /-- the tool writes a part of what it holds, as far as there is room -/
  | copy {s : State} {now later : Bytes} (h : s.held = now ++ later) (some_left : now ≠ [])
      (room : s.output.length + now.length ≤ c.output) :
      Step c s { s with held := later, output := s.output ++ now }
  /-- the tool closes its output at the end of its input -/
  | closeOutput {s : State} (opened : s.outputOpen = true) (idle : s.held = []) (h : s.input = [])
      (closed : s.inputOpen = false) : Step c s { s with outputOpen := false }
  /-- the tool ends -/
  | exit {s : State} (runs : s.running = true) (closed : s.outputOpen = false) :
      Step c s { s with running := false }
  /-- the caller, who is done with writing, reads what is there of the output, or a part of it -/
  | receive {s : State} {now later : Bytes} (closed : s.inputOpen = false)
      (h : s.output = now ++ later) (some_there : now ≠ []) :
      Step c s { s with output := later, received := s.received ++ now }
  /-- the caller, who is done with writing, reads what is there of the complaints, or a part -/
  | hear {s : State} {now later : Bytes} (closed : s.inputOpen = false)
      (h : s.complaints = now ++ later) (some_there : now ≠ []) :
      Step c s { s with complaints := later, heard := s.heard ++ now }
  /-- the caller has read both pipes to their ends, and waits for the tool -/
  | finish {s : State} (written : s.inputOpen = false) (closed : s.outputOpen = false)
      (h : s.output = []) (silent : s.complaints = []) (ended : s.running = false)
      (waits : s.complete = false) : Step c s { s with complete := true }

/-- The states that a conversation about `source` can come to. -/
inductive Reachable (c : Sizes) (source : Bytes) : State → Prop where
  | start : Reachable c source (start source)
  | step {s t : State} (h : Reachable c source s) (hs : Step c s t) : Reachable c source t

/-- Nobody can do anything, and the conversation is not complete. -/
def Stuck (c : Sizes) (s : State) : Prop := s.complete = false ∧ ∀ t, ¬Step c s t

/-- Wherever a conversation comes to, it is complete or somebody can do something. -/
def DeadlockFree (c : Sizes) (source : Bytes) : Prop :=
  ∀ s, Reachable c source s → s.complete = false → ∃ t, Step c s t

end TapeC.Pipes
