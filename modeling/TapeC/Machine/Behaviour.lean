/-!
# Machines and what can be seen of them

A machine goes from state to state, and on the way it writes and reads bytes. A step leads to
another state, or the machine halts, or it faults. What can be seen of a run are its events and,
when it halts, a view of its last state. `Agree` compares two machines by just that.
-/

namespace TapeC

inductive Event where
  | wrote (b : UInt8)
  /-- a byte that was read, or stands for the end of the input -/
  | got (b : UInt8)
deriving DecidableEq

/-- What a step comes to. -/
inductive StepResult (σ : Type) where
  | next (event : Option Event) (s : σ)
  | halted
  | fault
deriving DecidableEq

/-- A machine is its step. -/
structure Machine (σ : Type) where
  step : σ → StepResult σ

namespace Machine

variable {σ τ β : Type}

/-- The machine gets from one state to another with these events. -/
inductive Reaches (m : Machine σ) : σ → List Event → σ → Prop where
  | refl (s : σ) : Reaches m s [] s
  | step {s s' t : σ} {event : Option Event} {es : List Event} (h : m.step s = .next event s')
      (rest : Reaches m s' es t) : Reaches m s (event.toList ++ es) t

/-- The events are a beginning of what the machine does. -/
def Does (m : Machine σ) (s : σ) (es : List Event) : Prop := ∃ t, m.Reaches s es t

/-- The machine halts after the events, with a last state that looks like `b`. -/
def Halts (m : Machine σ) (view : σ → β) (s : σ) (es : List Event) (b : β) : Prop :=
  ∃ t, m.Reaches s es t ∧ m.step t = .halted ∧ view t = b

/-- The machine faults after the events. -/
def Faults (m : Machine σ) (s : σ) (es : List Event) : Prop :=
  ∃ t, m.Reaches s es t ∧ m.step t = .fault

/-- Two machines cannot be told apart: they do the same, halt alike with last states that look
alike, and fault alike. -/
structure Agree (m : Machine σ) (view : σ → β) (s : σ) (m' : Machine τ) (view' : τ → β) (s' : τ) :
    Prop where
  does : ∀ es, m.Does s es ↔ m'.Does s' es
  halts : ∀ es b, m.Halts view s es b ↔ m'.Halts view' s' es b
  faults : ∀ es, m.Faults s es ↔ m'.Faults s' es

theorem Reaches.trans {m : Machine σ} {s t u : σ} {es fs : List Event} (h : m.Reaches s es t)
    (h' : m.Reaches t fs u) : m.Reaches s (es ++ fs) u := by
  induction h with
  | refl => exact h'
  | step hs _ ih =>
    rw [List.append_assoc]
    exact .step hs (ih h')

end Machine

end TapeC
