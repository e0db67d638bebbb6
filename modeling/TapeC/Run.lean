import TapeC.Instruction

/-!
# Runs

A run is an instruction with the number of its consecutive occurrences. `Run.group` reads the
maximal runs off an instruction sequence and `Run.expand` writes a run out as text.

Grouping scans the sequence once, from its beginning, and counts the occurrences of the run that it
is in. What it gives can also be built from the end of the sequence, by pushing one occurrence after
the other (`group_eq_foldr`); that is the form that facts about it are proved in.

A run list may hold empty runs and equal neighbours; `Run.unroll` says which instruction sequence
it stands for, and `unroll_group` that grouping loses nothing.
-/

namespace TapeC

structure Run where
  instruction : Instruction
  count : Nat
deriving DecidableEq, Inhabited

namespace Run

/-- Goes on with a scan. The runs of `done`, which stand in reverse, are complete, and the run that
the scan is in has `n` occurrences of `i` so far. -/
def scan (done : List Run) (i : Instruction) (n : Nat) : List Instruction → List Run
  | [] => (⟨i, n⟩ :: done).reverse
  | j :: is => if j = i then scan done i (n + 1) is else scan (⟨i, n⟩ :: done) j 1 is

/-- The maximal runs of an instruction sequence, in order. -/
def group : List Instruction → List Run
  | [] => []
  | i :: is => scan [] i 1 is

/-- The run as program text: its character, once per occurrence. -/
def expand (r : Run) : String := String.ofList (List.replicate r.count r.instruction.toChar)

/-- The instruction sequence that a run list stands for. -/
def unroll (rs : List Run) : List Instruction :=
  rs.flatMap fun r => List.replicate r.count r.instruction

/-! ## Runs from the end -/

/-- Puts one more occurrence in front of a run list. -/
def push (i : Instruction) : List Run → List Run
  | [] => [⟨i, 1⟩]
  | r :: rs => if i = r.instruction then ⟨i, r.count + 1⟩ :: rs else ⟨i, 1⟩ :: r :: rs

theorem head?_push (i : Instruction) (rs : List Run) :
    (push i rs).head?.map (·.instruction) = some i := by
  cases rs with
  | nil => rfl
  | cons r rs =>
    rw [push]
    split <;> rfl

/-- An occurrence that joins nothing is a run by itself. -/
theorem push_of_ne {i : Instruction} {rs : List Run}
    (h : rs.head?.map (·.instruction) ≠ some i) : push i rs = ⟨i, 1⟩ :: rs := by
  cases rs with
  | nil => rfl
  | cons r rs => exact if_neg fun hi => h (congrArg some hi.symm)

/-- Occurrences in front of a sequence that goes on with another instruction are one run. -/
theorem foldr_push_replicate_append {i : Instruction} {is : List Instruction}
    (h : is.head? ≠ some i) (n : Nat) :
    (List.replicate (n + 1) i ++ is).foldr push [] = ⟨i, n + 1⟩ :: is.foldr push [] := by
  induction n with
  | zero =>
    rw [List.replicate_one, List.singleton_append, List.foldr_cons]
    refine push_of_ne fun hi => h ?_
    cases is with
    | nil => cases hi
    | cons j is => rwa [List.foldr_cons, head?_push] at hi
  | succ n ih => rw [List.replicate_succ, List.cons_append, List.foldr_cons, ih, push, if_pos rfl]

/-- The scan stands before the rest of the sequence with the run that it is in behind it. -/
theorem scan_eq (done : List Run) (i : Instruction) (n : Nat) (is : List Instruction) :
    scan done i (n + 1) is =
      done.reverse ++ (List.replicate (n + 1) i ++ is).foldr push [] := by
  induction is generalizing done i n with
  | nil =>
    rw [foldr_push_replicate_append (by simp)]
    simp [scan]
  | cons j is ih =>
    rw [scan]
    by_cases hj : j = i
    -- The run goes on, or it is complete and the next one begins.
    · subst hj
      rw [if_pos rfl, ih, List.replicate_succ' (n := n + 1), List.append_assoc]
      rfl
    · have hhead : (j :: is).head? ≠ some i := fun h => hj (Option.some.inj h)
      rw [if_neg hj, ih, foldr_push_replicate_append hhead]
      simp

/-- **Scanning is pushing** each occurrence onto the runs of what follows it. -/
theorem group_eq_foldr (is : List Instruction) : group is = is.foldr push [] := by
  cases is with
  | nil => rfl
  | cons i is => exact scan_eq [] i 0 is

@[simp] theorem group_nil : group [] = [] := rfl

@[simp] theorem group_cons (i : Instruction) (is : List Instruction) :
    group (i :: is) = push i (group is) := by
  rw [group_eq_foldr, group_eq_foldr, List.foldr_cons]

/-! ## Runs as sequences -/

theorem unroll_push (i : Instruction) (rs : List Run) :
    unroll (push i rs) = i :: unroll rs := by
  cases rs with
  | nil => simp [push, unroll]
  | cons r rs =>
    by_cases h : i = r.instruction
    · simp [push, unroll, h, List.replicate_succ]
    · simp [push, unroll, h]

/-- Grouping keeps the sequence. -/
theorem unroll_group (is : List Instruction) : unroll (group is) = is := by
  induction is with
  | nil => rfl
  | cons i is ih => rw [group_cons, unroll_push, ih]

end Run

end TapeC
