import Mathlib.Data.List.Basic
import TapeC.Machine.Behaviour

/-!
# Simulation

One machine follows another through a relation of their states. The second may take several steps
for one of the first; it may take none too, but only while a rank of the first one's state falls.

**Theorem (`agree_of_simulates`).** Machines in related states cannot be told apart.

One half is an induction over the steps of the first machine. The other half needs that the second
machine has one run only (`ReachesIn.linear`): by `Simulates.back`, whatever state it has reached,
it is on its way to a state that is related to one of the first machine's. The induction is on the
number of its steps, and `Simulates.progress` passes over the steps of the first machine that it has
no step for.
-/

namespace TapeC.Machine

variable {σ τ υ β : Type} {m : Machine σ} {m' : Machine τ} {view : σ → β} {view' : τ → β}

/-! ## Counted runs -/

/-- The machine gets from one state to another with these events, in `n` steps. -/
inductive ReachesIn (m : Machine σ) : Nat → σ → List Event → σ → Prop where
  | refl (s : σ) : ReachesIn m 0 s [] s
  | step {n : Nat} {s s' t : σ} {event : Option Event} {es : List Event}
      (h : m.step s = .next event s') (rest : ReachesIn m n s' es t) :
      ReachesIn m (n + 1) s (event.toList ++ es) t

theorem ReachesIn.reaches {n : Nat} {s t : σ} {es : List Event} (h : m.ReachesIn n s es t) :
    m.Reaches s es t := by
  induction h with
  | refl s => exact .refl s
  | step hs _ ih => exact .step hs ih

theorem Reaches.exists_reachesIn {s t : σ} {es : List Event} (h : m.Reaches s es t) :
    ∃ n, m.ReachesIn n s es t := by
  induction h with
  | refl s => exact ⟨0, .refl s⟩
  | step hs _ ih =>
    obtain ⟨n, hn⟩ := ih
    exact ⟨n + 1, .step hs hn⟩

theorem ReachesIn.one {s s' : σ} {event : Option Event} (h : m.step s = .next event s') :
    m.ReachesIn 1 s event.toList s' := by
  have := ReachesIn.step h (.refl s')
  rwa [List.append_nil] at this

/-- A machine has one run: the shorter of two is the beginning of the longer. -/
theorem ReachesIn.linear {a b : Nat} {s t u : σ} {es fs : List Event}
    (h : m.ReachesIn a s es t) (h' : m.ReachesIn b s fs u) (hab : a ≤ b) :
    ∃ gs, fs = es ++ gs ∧ m.ReachesIn (b - a) t gs u := by
  induction h generalizing b fs with
  | refl => exact ⟨fs, rfl, h'⟩
  | step hs _ ih =>
    cases h' with
    | refl => exact absurd hab (by omega)
    | step hs' rest =>
      obtain ⟨rfl, rfl⟩ := StepResult.next.inj (hs.symm.trans hs')
      obtain ⟨gs, rfl, hgs⟩ := ih rest (by omega)
      exact ⟨gs, by rw [List.append_assoc], by rwa [Nat.add_sub_add_right]⟩

/-- No step leads on from the state. -/
def Final (m : Machine σ) (s : σ) : Prop := ∀ event s', m.step s ≠ .next event s'

theorem final_of_halted {s : σ} (h : m.step s = .halted) : m.Final s := by
  intro event s' h'
  cases h.symm.trans h'

theorem final_of_fault {s : σ} (h : m.step s = .fault) : m.Final s := by
  intro event s' h'
  cases h.symm.trans h'

theorem Final.eq_of_reachesIn {n : Nat} {s t : σ} {es : List Event} (hs : m.Final s)
    (h : m.ReachesIn n s es t) : n = 0 ∧ es = [] ∧ t = s := by
  cases h with
  | refl => exact ⟨rfl, rfl, rfl⟩
  | step hst _ => exact absurd hst (hs _ _)

/-- What leads to a final state passes through all that is reached on the way. -/
theorem ReachesIn.to_final {a b : Nat} {s t u : σ} {es fs : List Event} (hu : m.Final u)
    (h : m.ReachesIn a s es t) (h' : m.ReachesIn b s fs u) :
    a ≤ b ∧ ∃ gs, fs = es ++ gs ∧ m.ReachesIn (b - a) t gs u := by
  rcases Nat.le_total a b with hab | hba
  · exact ⟨hab, h.linear h' hab⟩
  · obtain ⟨gs, rfl, hgs⟩ := h'.linear h hba
    obtain ⟨hn, rfl, rfl⟩ := hu.eq_of_reachesIn hgs
    exact ⟨by omega, [], by simp, by rw [show b - a = 0 by omega]; exact .refl t⟩

theorem halts_self {s : σ} (h : m.step s = .halted) : m.Halts view s [] (view s) :=
  ⟨s, .refl s, h, rfl⟩

theorem faults_self {s : σ} (h : m.step s = .fault) : m.Faults s [] := ⟨s, .refl s, h⟩

theorem Does.of_append {s : σ} {es fs : List Event} (h : m.Does s (es ++ fs)) : m.Does s es := by
  obtain ⟨t, h⟩ := h
  generalize hgs : es ++ fs = gs at h
  induction h generalizing es with
  | refl s =>
    obtain ⟨rfl, -⟩ := List.append_eq_nil_iff.1 hgs
    exact ⟨s, .refl s⟩
  | @step s s' t event es' hs _ ih =>
    cases event with
    | none =>
      obtain ⟨u, hu⟩ := ih hgs
      exact ⟨u, .step hs hu⟩
    | some ev =>
      cases es with
      | nil => exact ⟨s, .refl s⟩
      | cons ev' es =>
        obtain ⟨rfl, hrest⟩ := List.cons.inj hgs
        obtain ⟨u, hu⟩ := ih hrest
        exact ⟨u, .step hs hu⟩

/-! ## Simulation -/

/-- What the second machine, in state `t`, has to do when a step of the first from `s` comes to
this. -/
def Follows (m' : Machine τ) (view : σ → β) (view' : τ → β) (R : σ → τ → Prop) (rank : σ → Nat)
    (s : σ) (t : τ) : StepResult σ → Prop
  | .next event s' =>
    ∃ n t', m'.ReachesIn n t event.toList t' ∧ R s' t' ∧ (n = 0 → rank s' < rank s)
  | .halted => m'.Halts view' t [] (view s)
  | .fault => m'.Faults t []

/-- The second machine follows the first through the relation `R`. -/
def Simulates (m : Machine σ) (view : σ → β) (m' : Machine τ) (view' : τ → β) (R : σ → τ → Prop)
    (rank : σ → Nat) : Prop :=
  ∀ s t, R s t → Follows m' view view' R rank s t (m.step s)

variable {R : σ → τ → Prop} {rank : σ → Nat}

theorem Simulates.next (h : Simulates m view m' view' R rank) {s s' : σ} {t : τ}
    {event : Option Event} (hr : R s t) (hs : m.step s = .next event s') :
    ∃ n t', m'.ReachesIn n t event.toList t' ∧ R s' t' ∧ (n = 0 → rank s' < rank s) := by
  have := h s t hr
  rwa [hs] at this

theorem Simulates.halted (h : Simulates m view m' view' R rank) {s : σ} {t : τ} (hr : R s t)
    (hs : m.step s = .halted) : m'.Halts view' t [] (view s) := by
  have := h s t hr
  rwa [hs] at this

theorem Simulates.fault (h : Simulates m view m' view' R rank) {s : σ} {t : τ} (hr : R s t)
    (hs : m.step s = .fault) : m'.Faults t [] := by
  have := h s t hr
  rwa [hs] at this

/-- A step of the first machine is matched by one step of the second. -/
theorem follows_one {s s' : σ} {t t' : τ} {event : Option Event} (h : m'.step t = .next event t')
    (hr : R s' t') : Follows m' view view' R rank s t (.next event s') :=
  ⟨1, t', .one h, hr, fun h => absurd h Nat.one_ne_zero⟩

theorem Simulates.reaches (h : Simulates m view m' view' R rank) {s s' : σ} {t : τ}
    {es : List Event} (hr : R s t) (hs : m.Reaches s es s') :
    ∃ t', m'.Reaches t es t' ∧ R s' t' := by
  induction hs generalizing t with
  | refl => exact ⟨t, .refl t, hr⟩
  | step hst _ ih =>
    obtain ⟨n, t', ht', hr', -⟩ := h.next hr hst
    obtain ⟨u, hu, hru⟩ := ih hr'
    exact ⟨u, ht'.reaches.trans hu, hru⟩

theorem Simulates.final (h : Simulates m view m' view' R rank) {s : σ} {t : τ} (hr : R s t)
    (hs : m.Final s) : ∃ u, m'.Reaches t [] u ∧ m'.Final u := by
  cases hst : m.step s with
  | next event s' => exact absurd hst (hs event s')
  | halted =>
    obtain ⟨u, hu, hstop, -⟩ := h.halted hr hst
    exact ⟨u, hu, final_of_halted hstop⟩
  | fault =>
    obtain ⟨u, hu, hstop⟩ := h.fault hr hst
    exact ⟨u, hu, final_of_fault hstop⟩

/-- After some steps without events that the second machine has no step for, the first one either
stops or takes a step that the second one has a step for. -/
theorem Simulates.progress (h : Simulates m view m' view' R rank) {s : σ} {t : τ} (hr : R s t) :
    ∃ s₁, m.Reaches s [] s₁ ∧ R s₁ t ∧ (m.Final s₁ ∨ ∃ event s' n t',
      m.step s₁ = .next event s' ∧ m'.ReachesIn (n + 1) t event.toList t' ∧ R s' t') := by
  induction hk : rank s using Nat.strongRecOn generalizing s with
  | ind k ih =>
    by_cases hs : m.Final s
    · exact ⟨s, .refl s, hr, Or.inl hs⟩
    · obtain ⟨event, s', hst⟩ : ∃ event s', m.step s = .next event s' := by
        simpa only [Final, ne_eq, not_forall, not_not] using hs
      obtain ⟨n, t', ht', hr', hn⟩ := h.next hr hst
      cases n with
      | succ n => exact ⟨s, .refl s, hr, Or.inr ⟨event, s', n, t', hst, ht', hr'⟩⟩
      | zero =>
        -- No step of the second machine: no event either, and the rank has fallen.
        generalize hes : event.toList = es at ht'
        cases ht'
        obtain ⟨s₁, hs₁, hr₁, hcase⟩ := ih (rank s') (hk ▸ hn rfl) hr' rfl
        have := Reaches.step hst hs₁
        rw [hes] at this
        exact ⟨s₁, this, hr₁, hcase⟩

/-- The second machine is always on its way to a state related to one of the first, or on from one
that is related to a final state of the first. -/
theorem Simulates.back (h : Simulates m view m' view' R rank) {n : Nat} {s : σ} {t u : τ}
    {es : List Event} (hr : R s t) (hu : m'.ReachesIn n t es u) :
    ∃ fs s₁ t₁, m.Reaches s (es ++ fs) s₁ ∧ R s₁ t₁ ∧
      (m'.Reaches u fs t₁ ∨ fs = [] ∧ m.Final s₁ ∧ m'.Reaches t₁ [] u) := by
  induction n using Nat.strongRecOn generalizing s t es with
  | ind n ih =>
    obtain ⟨s₁, hs₁, hr₁, hfinal | ⟨event, s', k, t', hst, ht', hr'⟩⟩ := h.progress hr
    · -- All of what the second machine does from here on is silent.
      obtain ⟨v, hv, hvf⟩ := h.final hr₁ hfinal
      obtain ⟨k, hk⟩ := hv.exists_reachesIn
      obtain ⟨-, gs, hgs, -⟩ := hu.to_final hvf hk
      obtain ⟨rfl, rfl⟩ := List.append_eq_nil_iff.1 hgs.symm
      exact ⟨[], s₁, t, hs₁, hr₁, Or.inr ⟨rfl, hfinal, hu.reaches⟩⟩
    · rcases Nat.le_total (k + 1) n with hk | hk
      · obtain ⟨gs, rfl, hgs⟩ := ht'.linear hu hk
        obtain ⟨fs, s₂, t₂, hs₂, hr₂, hcase⟩ := ih (n - (k + 1)) (by omega) hr' hgs
        refine ⟨fs, s₂, t₂, ?_, hr₂, hcase⟩
        rw [List.append_assoc]
        exact hs₁.trans (.step hst hs₂)
      · obtain ⟨fs, hfs, hrest⟩ := hu.linear ht' hk
        refine ⟨fs, s', t', ?_, hr', Or.inl hrest.reaches⟩
        rw [← hfs, ← List.append_nil event.toList]
        exact hs₁.trans (.step hst (.refl s'))

/-- When the second machine stops, the first has stopped too, in a state that it follows. -/
theorem Simulates.back_final (h : Simulates m view m' view' R rank) {s : σ} {t u : τ}
    {es : List Event} (hr : R s t) (hu : m'.Reaches t es u) (hfinal : m'.Final u) :
    ∃ s₁ t₁, m.Reaches s es s₁ ∧ R s₁ t₁ ∧ m.Final s₁ ∧ m'.Reaches t₁ [] u := by
  obtain ⟨n, hn⟩ := hu.exists_reachesIn
  obtain ⟨fs, s₁, t₁, hs₁, hr₁, hrest | ⟨rfl, hs₁f, ht₁⟩⟩ := h.back hr hn
  · obtain ⟨k, hk⟩ := hrest.exists_reachesIn
    obtain ⟨-, rfl, rfl⟩ := hfinal.eq_of_reachesIn hk
    obtain ⟨s₂, hs₂, hr₂, hs₂f | ⟨event, s', n, t', -, ht', -⟩⟩ := h.progress hr₁
    · refine ⟨s₂, t₁, ?_, hr₂, hs₂f, .refl t₁⟩
      simpa using hs₁.trans hs₂
    · obtain ⟨hn, -⟩ := hfinal.eq_of_reachesIn ht'
      cases hn
  · rw [List.append_nil] at hs₁
    exact ⟨s₁, t₁, hs₁, hr₁, hs₁f, ht₁⟩

/-- Two final states that a state leads to without events are one. -/
theorem eq_of_reaches_final {t u v : τ} {es fs : List Event} (hu : m'.Reaches t es u)
    (huf : m'.Final u) (hv : m'.Reaches t fs v) (hvf : m'.Final v) : v = u := by
  obtain ⟨a, ha⟩ := hu.exists_reachesIn
  obtain ⟨b, hb⟩ := hv.exists_reachesIn
  obtain ⟨-, gs, -, hgs⟩ := ha.to_final hvf hb
  exact (huf.eq_of_reachesIn hgs).2.2

/-- A final state and the final state that its followers get to stop alike. -/
theorem Simulates.stop (h : Simulates m view m' view' R rank) {s : σ} {t u : τ} (hr : R s t)
    (hs : m.Final s) (hu : m'.Reaches t [] u) (huf : m'.Final u) :
    (m.step s = .halted ∧ m'.step u = .halted ∧ view' u = view s) ∨
      (m.step s = .fault ∧ m'.step u = .fault) := by
  cases hst : m.step s with
  | next event s' => exact absurd hst (hs event s')
  | halted =>
    obtain ⟨v, hv, hvstop, hview⟩ := h.halted hr hst
    obtain rfl := eq_of_reaches_final hu huf hv (final_of_halted hvstop)
    exact Or.inl ⟨rfl, hvstop, hview⟩
  | fault =>
    obtain ⟨v, hv, hvstop⟩ := h.fault hr hst
    obtain rfl := eq_of_reaches_final hu huf hv (final_of_fault hvstop)
    exact Or.inr ⟨rfl, hvstop⟩

/-- **Machines in related states cannot be told apart.** -/
theorem agree_of_simulates (h : Simulates m view m' view' R rank) {s : σ} {t : τ} (hr : R s t) :
    Agree m view s m' view' t where
  does es := by
    constructor
    · rintro ⟨s', hs'⟩
      obtain ⟨t', ht', -⟩ := h.reaches hr hs'
      exact ⟨t', ht'⟩
    · rintro ⟨u, hu⟩
      obtain ⟨n, hn⟩ := hu.exists_reachesIn
      obtain ⟨fs, s₁, -, hs₁, -⟩ := h.back hr hn
      exact Does.of_append ⟨s₁, hs₁⟩
  halts es b := by
    constructor
    · rintro ⟨s', hs', hstop, rfl⟩
      obtain ⟨t', ht', hr'⟩ := h.reaches hr hs'
      obtain ⟨u, hu, hustop, hview⟩ := h.halted hr' hstop
      exact ⟨u, by simpa using ht'.trans hu, hustop, hview⟩
    · rintro ⟨u, hu, hstop, rfl⟩
      have huf := final_of_halted hstop
      obtain ⟨s₁, t₁, hs₁, hr₁, hs₁f, ht₁⟩ := h.back_final hr hu huf
      obtain ⟨hst, -, hview⟩ | ⟨-, hfault⟩ := h.stop hr₁ hs₁f ht₁ huf
      · exact ⟨s₁, hs₁, hst, hview.symm⟩
      · cases hstop.symm.trans hfault
  faults es := by
    constructor
    · rintro ⟨s', hs', hstop⟩
      obtain ⟨t', ht', hr'⟩ := h.reaches hr hs'
      obtain ⟨u, hu, hustop⟩ := h.fault hr' hstop
      exact ⟨u, by simpa using ht'.trans hu, hustop⟩
    · rintro ⟨u, hu, hstop⟩
      have huf := final_of_fault hstop
      obtain ⟨s₁, t₁, hs₁, hr₁, hs₁f, ht₁⟩ := h.back_final hr hu huf
      obtain ⟨-, hhalted, -⟩ | ⟨hst, -⟩ := h.stop hr₁ hs₁f ht₁ huf
      · cases hstop.symm.trans hhalted
      · exact ⟨s₁, hs₁, hst⟩

theorem Agree.trans {m'' : Machine υ} {view'' : υ → β} {s : σ} {t : τ} {u : υ}
    (h : Agree m view s m' view' t) (h' : Agree m' view' t m'' view'' u) :
    Agree m view s m'' view'' u :=
  ⟨fun es => (h.does es).trans (h'.does es), fun es b => (h.halts es b).trans (h'.halts es b),
    fun es => (h.faults es).trans (h'.faults es)⟩

end TapeC.Machine
