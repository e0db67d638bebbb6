import Mathlib.Data.List.Basic
import TapeC.Brackets

/-!
# Balance and matching of brackets

Both notions look only at the sides of the brackets in a sequence.

* `closes d ss`: reading `ss` with `d` brackets open ends with none open, and never closes more
  than are open.
* `balanced_iff_closes`: a sequence is balanced if and only if its sides close from depth zero. The
  counts over all beginnings become a recursion over the sides.
* `matched_iff`: two brackets belong together if and only if what stands between them closes from
  depth zero. The stack of the definition disappears: `mem_pairsFrom_iff` says of each bracket on it
  which part of the sequence closes it.
* `IsAfter.matched_iff`: the same through the sides before the two places, so that sequences with
  the same sides have the same pairs.
-/

namespace TapeC.Brackets

variable {α : Type} {side? : α → Option Side}

/-! ## Closing -/

/-- The brackets close `depth` open ones and all that they open themselves. -/
def closes : Nat → List Side → Bool
  | depth, [] => depth == 0
  | depth, .opening :: ss => closes (depth + 1) ss
  | 0, .closing :: _ => false
  | depth + 1, .closing :: ss => closes depth ss

@[simp] theorem closes_nil {d : Nat} : closes d [] = true ↔ d = 0 := by
  simp [closes]

@[simp] theorem closes_opening (d : Nat) (ss : List Side) :
    closes d (.opening :: ss) = closes (d + 1) ss := rfl

@[simp] theorem closes_zero_closing (ss : List Side) : closes 0 (.closing :: ss) = false := rfl

@[simp] theorem closes_succ_closing (d : Nat) (ss : List Side) :
    closes (d + 1) (.closing :: ss) = closes d ss := rfl

/-- How much one item changes the excess. -/
def weight : Option Side → Int
  | none => 0
  | some .opening => 1
  | some .closing => -1

theorem excess_cons (x : α) (xs : List α) :
    excess side? (x :: xs) = weight (side? x) + excess side? xs := by
  unfold excess weight
  rw [sides_cons]
  rcases side? x with _ | _ | _ <;> simp <;> omega

/-- The empty beginning counts for itself; the others are those of `xs` after `x`. -/
theorem forall_excess_take_cons (d : Nat) (x : α) (xs : List α) :
    (∀ n, 0 ≤ (d : Int) + excess side? ((x :: xs).take n)) ↔
      ∀ n, 0 ≤ (d : Int) + weight (side? x) + excess side? (xs.take n) := by
  constructor
  · intro h n
    have hn := h (n + 1)
    rw [List.take_succ_cons, excess_cons] at hn
    omega
  · intro h n
    cases n with
    | zero => simp [excess]
    | succ n =>
      have hn := h n
      rw [List.take_succ_cons, excess_cons]
      omega

/-- Balance at depth `d`, in terms of the excess of the beginnings. -/
theorem closes_iff (xs : List α) (d : Nat) :
    closes d (sides side? xs) = true ↔
      d + excess side? xs = 0 ∧ ∀ n, 0 ≤ d + excess side? (xs.take n) := by
  induction xs generalizing d with
  | nil => simp [excess]
  | cons x xs ih =>
    rw [forall_excess_take_cons, excess_cons, sides_cons]
    rcases hx : side? x with _ | _ | _
    · simpa [weight] using ih d
    · have hdepth : (d : Int) + weight (some .opening) = ((d + 1 : Nat) : Int) := rfl
      rw [← Int.add_assoc, hdepth]
      exact ih (d + 1)
    · cases d with
      | zero =>
        -- A closing bracket at depth zero is a beginning that closes too much.
        simp only [weight, Option.toList_some, List.singleton_append, closes_zero_closing]
        refine ⟨fun h => absurd h (by simp), fun h => ?_⟩
        have hzero := h.2 0
        simp [excess] at hzero
      | succ d =>
        have hdepth : ((d + 1 : Nat) : Int) + weight (some .closing) = (d : Int) := by
          rw [weight]
          omega
        rw [← Int.add_assoc, hdepth]
        exact ih d

theorem balanced_iff_closes (xs : List α) :
    Balanced side? xs ↔ closes 0 (sides side? xs) = true := by
  simp [closes_iff, Balanced]

instance (xs : List α) : Decidable (Balanced side? xs) :=
  decidable_of_iff _ (balanced_iff_closes xs).symm

/-- Balance depends on the sides alone. -/
theorem balanced_congr {β : Type} {side?' : β → Option Side} {xs : List α} {ys : List β}
    (h : sides side? xs = sides side?' ys) : Balanced side? xs ↔ Balanced side?' ys := by
  rw [balanced_iff_closes, balanced_iff_closes, h]

/-! ## Matching -/

theorem placedFrom_cons_none {x : α} (hx : side? x = none) (i : Nat) (xs : List α) :
    placedFrom side? i (x :: xs) = placedFrom side? (i + 1) xs := by
  rw [placedFrom, hx]

theorem placedFrom_cons_some {x : α} {s : Side} (hx : side? x = some s) (i : Nat) (xs : List α) :
    placedFrom side? i (x :: xs) = (s, i) :: placedFrom side? (i + 1) xs := by
  rw [placedFrom, hx]

/-- The sequence, whose first item is at place `i`, closes `d` open brackets and all its own before
place `k`, and closes one more there. -/
def ClosesAt (side? : α → Option Side) (d i k : Nat) (xs : List α) : Prop :=
  ∃ bs y cs, xs = bs ++ y :: cs ∧ k = i + bs.length ∧ side? y = some .closing ∧
    closes d (sides side? bs) = true

/-- The sequence, whose first item is at place `i`, opens a bracket at place `j` that it closes at
place `k`. -/
def PairedAt (side? : α → Option Side) (i j k : Nat) (xs : List α) : Prop :=
  ∃ as x bs, xs = as ++ x :: bs ∧ j = i + as.length ∧ side? x = some .opening ∧
    ClosesAt side? 0 (j + 1) k bs

/-- The first item is the place itself, or changes the depth for what follows. -/
theorem closesAt_cons (d i k : Nat) (x : α) (xs : List α) :
    ClosesAt side? d i k (x :: xs) ↔ (d = 0 ∧ k = i ∧ side? x = some .closing) ∨
      ∃ bs y cs, xs = bs ++ y :: cs ∧ k = i + 1 + bs.length ∧ side? y = some .closing ∧
        closes d ((side? x).toList ++ sides side? bs) = true := by
  constructor
  · rintro ⟨bs, y, cs, hxs, rfl, hy, hb⟩
    cases bs with
    | nil =>
      obtain ⟨rfl, rfl⟩ := List.cons.inj hxs
      exact Or.inl ⟨closes_nil.1 hb, rfl, hy⟩
    | cons z bs =>
      obtain ⟨rfl, rfl⟩ := List.cons.inj hxs
      refine Or.inr ⟨bs, y, cs, rfl, ?_, hy, by rwa [sides_cons] at hb⟩
      rw [List.length_cons]
      omega
  · rintro (⟨rfl, rfl, hx⟩ | ⟨bs, y, cs, rfl, rfl, hy, hb⟩)
    · exact ⟨[], x, xs, rfl, rfl, hx, rfl⟩
    · refine ⟨x :: bs, y, cs, rfl, ?_, hy, by rwa [sides_cons]⟩
      rw [List.length_cons]
      omega

theorem closesAt_cons_none {x : α} (hx : side? x = none) (d i k : Nat) (xs : List α) :
    ClosesAt side? d i k (x :: xs) ↔ ClosesAt side? d (i + 1) k xs := by
  rw [closesAt_cons, ClosesAt]
  simp [hx]

theorem closesAt_cons_opening {x : α} (hx : side? x = some .opening) (d i k : Nat)
    (xs : List α) : ClosesAt side? d i k (x :: xs) ↔ ClosesAt side? (d + 1) (i + 1) k xs := by
  rw [closesAt_cons, ClosesAt]
  simp [hx]

theorem closesAt_zero_cons_closing {x : α} (hx : side? x = some .closing) (i k : Nat)
    (xs : List α) : ClosesAt side? 0 i k (x :: xs) ↔ k = i := by
  simp [closesAt_cons, hx]

theorem closesAt_succ_cons_closing {x : α} (hx : side? x = some .closing) (d i k : Nat)
    (xs : List α) : ClosesAt side? (d + 1) i k (x :: xs) ↔ ClosesAt side? d (i + 1) k xs := by
  rw [closesAt_cons, ClosesAt]
  simp [hx]

theorem pairedAt_cons (i j k : Nat) (x : α) (xs : List α) :
    PairedAt side? i j k (x :: xs) ↔
      (j = i ∧ side? x = some .opening ∧ ClosesAt side? 0 (i + 1) k xs) ∨
        PairedAt side? (i + 1) j k xs := by
  constructor
  · rintro ⟨as, y, bs, hxs, rfl, hy, hb⟩
    cases as with
    | nil =>
      obtain ⟨rfl, rfl⟩ := List.cons.inj hxs
      exact Or.inl ⟨rfl, hy, hb⟩
    | cons z as =>
      obtain ⟨rfl, rfl⟩ := List.cons.inj hxs
      refine Or.inr ⟨as, y, bs, rfl, ?_, hy, hb⟩
      rw [List.length_cons]
      omega
  · rintro (⟨rfl, hx, hb⟩ | ⟨as, y, bs, rfl, rfl, hy, hb⟩)
    · exact ⟨[], x, xs, rfl, rfl, hx, hb⟩
    · refine ⟨x :: as, y, bs, rfl, ?_, hy, hb⟩
      rw [List.length_cons]
      omega

/-- The pairs that a sequence makes: it closes a bracket that is open before it, the one that lies
as deep on the stack as it closes brackets before; or it has both brackets. -/
theorem mem_pairsFrom_iff (xs : List α) (still : List Nat) (i j k : Nat) :
    (j, k) ∈ pairsFrom still (placedFrom side? i xs) ↔
      (∃ d, still[d]? = some j ∧ ClosesAt side? d i k xs) ∨ PairedAt side? i j k xs := by
  induction xs generalizing still i with
  | nil => simp [placedFrom, pairsFrom, ClosesAt, PairedAt]
  | cons x xs ih =>
    rw [pairedAt_cons]
    rcases hx : side? x with _ | _ | _
    · rw [placedFrom_cons_none hx, ih]
      simp only [closesAt_cons_none hx, reduceCtorEq, false_and, and_false, false_or]
    · -- The stack grows: its new top is paired within what follows.
      rw [placedFrom_cons_some hx, pairsFrom, ih, ← Nat.or_exists_add_one]
      simp only [closesAt_cons_opening hx, List.getElem?_cons_zero, List.getElem?_cons_succ,
        Option.some.injEq, true_and, eq_comm (a := i), or_assoc]
      exact or_left_comm
    · rw [placedFrom_cons_some hx]
      simp only [Option.some.injEq, reduceCtorEq, false_and, and_false, false_or]
      cases still with
      | nil => simp [pairsFrom, ih]
      | cons o still =>
        -- The stack shrinks: its top is paired with `x`.
        rw [pairsFrom, List.mem_cons, ih,
          ← Nat.or_exists_add_one (p := fun d => (o :: still)[d]? = some j ∧ _)]
        simp only [closesAt_zero_cons_closing hx, closesAt_succ_cons_closing hx,
          List.getElem?_cons_zero, List.getElem?_cons_succ, Option.some.injEq, Prod.mk.injEq,
          eq_comm (a := o), or_assoc]

/-- **Matching by balance.** Two brackets belong together if and only if what stands between them
is balanced. -/
theorem matched_iff (xs : List α) (j k : Nat) :
    Matched side? xs j k ↔ ∃ as x bs y cs, xs = as ++ x :: (bs ++ y :: cs) ∧ j = as.length ∧
      k = j + 1 + bs.length ∧ side? x = some .opening ∧ side? y = some .closing ∧
      closes 0 (sides side? bs) = true := by
  rw [Matched, pairs, mem_pairsFrom_iff]
  constructor
  · rintro (⟨d, hd, -⟩ | ⟨as, x, zs, rfl, rfl, hx, bs, y, cs, rfl, rfl, hy, hb⟩)
    · cases hd
    · exact ⟨as, x, bs, y, cs, rfl, by omega, rfl, hx, hy, hb⟩
  · rintro ⟨as, x, bs, y, cs, rfl, rfl, rfl, hx, hy, hb⟩
    exact Or.inr ⟨as, x, bs ++ y :: cs, rfl, by omega, hx, bs, y, cs, rfl, rfl, hy, hb⟩

example : pairs bracketSide? "][ [+]".toList = [(3, 5)] := by decide

/-! ## Places -/

theorem drop_eq_cons {xs : List α} {i : Nat} {x : α} (h : xs[i]? = some x) :
    xs.drop i = x :: xs.drop (i + 1) := by
  obtain ⟨hi, rfl⟩ := List.getElem?_eq_some_iff.1 h
  exact List.drop_eq_getElem_cons hi

theorem eq_take_append {xs : List α} {i : Nat} {x : α} (h : xs[i]? = some x) :
    xs = xs.take i ++ x :: xs.drop (i + 1) := by
  rw [← drop_eq_cons h, List.take_append_drop]

/-- At place `i` stands a bracket with `ss` before it. -/
structure IsAfter (side? : α → Option Side) (s : Side) (ss : List Side) (xs : List α) (i : Nat) :
    Prop where
  side_eq : xs[i]?.bind side? = some s
  sides_eq : sides side? (xs.take i) = ss

theorem IsNth.isAfter {s : Side} {n i : Nat} {xs : List α} (h : IsNth side? s n xs i) :
    IsAfter side? s (sides side? (xs.take i)) xs i := ⟨h.side_eq, rfl⟩

theorem IsAfter.isNth {s : Side} {ss : List Side} {i : Nat} {xs : List α}
    (h : IsAfter side? s ss xs i) : IsNth side? s (ss.count s) xs i :=
  ⟨h.side_eq, by rw [h.sides_eq]⟩

theorem isAfter_append {s : Side} {x : α} (hx : side? x = some s) (xs ys : List α) :
    IsAfter side? s (sides side? xs) (xs ++ x :: ys) xs.length where
  side_eq := by rw [List.getElem?_append_right (Nat.le_refl _), Nat.sub_self]; exact hx
  sides_eq := by rw [List.take_left]

/-- A sequence with the same sides has the bracket too, after the same sides. -/
theorem IsAfter.exists_of_sides_eq {β : Type} {side?' : β → Option Side} {s : Side}
    {ss : List Side} {i : Nat} {xs : List α} {ys : List β} (h : IsAfter side? s ss xs i)
    (hs : sides side? xs = sides side?' ys) : ∃ k, IsAfter side?' s ss ys k := by
  obtain ⟨x, hx, hxs⟩ := Option.bind_eq_some_iff.1 h.side_eq
  have hsplit : sides side?' ys = ss ++ s :: sides side? (xs.drop (i + 1)) := by
    rw [← hs, ← h.sides_eq]
    conv_lhs => rw [eq_take_append hx, sides_append, sides_cons, hxs]
    rfl
  obtain ⟨as, zs, rfl, has, hzs⟩ := List.filterMap_eq_append_iff.1 hsplit
  obtain ⟨bs, y, cs, rfl, hbs, hy, -⟩ := List.filterMap_eq_cons_iff.1 hzs
  have hbefore : sides side?' (as ++ bs) = ss := by
    have hnone : sides side?' bs = [] := List.filterMap_eq_nil_iff.2 hbs
    rw [sides_append, hnone, List.append_nil]
    exact has
  refine ⟨(as ++ bs).length, ?_⟩
  rw [← List.append_assoc, ← hbefore]
  exact isAfter_append hy _ _

theorem IsAfter.eq_length {s : Side} {ss : List Side} {i : Nat} {xs : List α}
    (h : IsAfter side? s ss xs i) : i = (xs.take i).length := by
  obtain ⟨x, hx, -⟩ := Option.bind_eq_some_iff.1 h.side_eq
  have hi := (List.getElem?_eq_some_iff.1 hx).1
  rw [List.length_take]
  omega

/-- Fewer brackets stand before an earlier place. -/
theorem IsAfter.lt {s s' : Side} {ss ts : List Side} {i j : Nat} {xs : List α}
    (hi : IsAfter side? s ss xs i) (hj : IsAfter side? s' (ss ++ ts) xs j) (hts : ts ≠ []) :
    i < j := by
  by_contra hle
  obtain ⟨zs, hzs⟩ := List.take_prefix_take_left (l := xs) (Nat.le_of_not_lt hle)
  have hlen := congrArg (fun xs => (sides side? xs).length) hzs
  simp only [sides_append, hi.sides_eq, hj.sides_eq, List.length_append] at hlen
  have hpos := List.length_pos_iff.2 hts
  omega

/-- Two brackets belong together if and only if, after the sides before the first one and its own,
those before the second one close from depth zero. -/
theorem IsAfter.matched_iff {ss ts : List Side} {xs : List α} {i j : Nat}
    (hi : IsAfter side? .opening ss xs i) (hj : IsAfter side? .closing ts xs j) :
    Matched side? xs i j ↔ ∃ us, closes 0 us = true ∧ ts = ss ++ .opening :: us := by
  rw [Brackets.matched_iff]
  constructor
  · rintro ⟨as, x, bs, y, cs, rfl, rfl, rfl, hx, hy, hb⟩
    have hss := (isAfter_append hx as (bs ++ y :: cs)).sides_eq
    have hts := (isAfter_append hy (as ++ x :: bs) cs).sides_eq
    rw [show (as ++ x :: bs).length = as.length + 1 + bs.length by simp; omega,
      List.append_assoc, List.cons_append] at hts
    refine ⟨sides side? bs, hb, ?_⟩
    rw [← hj.sides_eq, ← hi.sides_eq, hss, hts, sides_append, sides_cons, hx]
    rfl
  · rintro ⟨us, hus, rfl⟩
    have hij : i < j := hi.lt hj (List.cons_ne_nil _ _)
    obtain ⟨x, hxi, hx⟩ := Option.bind_eq_some_iff.1 hi.side_eq
    obtain ⟨y, hyj, hy⟩ := Option.bind_eq_some_iff.1 hj.side_eq
    -- The second bracket cuts what comes after the first one.
    have hjx : (xs.take j)[i]? = some x := by rw [List.getElem?_take_of_lt hij, hxi]
    have htake := eq_take_append hjx
    rw [List.take_take, Nat.min_eq_left (Nat.le_of_lt hij)] at htake
    generalize (xs.take j).drop (i + 1) = bs at htake
    have hbs : sides side? bs = us := by
      have hts := hj.sides_eq
      rw [htake, sides_append, sides_cons, hx, hi.sides_eq] at hts
      simpa using hts
    refine ⟨xs.take i, x, bs, y, xs.drop (j + 1), ?_, hi.eq_length, ?_, hx, hy, by rw [hbs, hus]⟩
    · rw [← List.cons_append, ← List.append_assoc, ← htake]
      exact eq_take_append hyj
    · have hlen := hj.eq_length
      rw [htake, List.length_append, List.length_cons, ← hi.eq_length] at hlen
      omega

/-! ## Texts, instructions and ops -/

theorem bracketSide?_eq_bind (c : Char) :
    bracketSide? c = (Instruction.ofChar? c).bind Instruction.side? := by
  cases h : Instruction.ofChar? c with
  | some i =>
    obtain rfl := Instruction.ofChar?_eq_some_iff.1 h
    rcases i with (_ | _ | _ | _) | _ | _ | _ | _ <;> rfl
  | none =>
    have hne : ∀ i : Instruction, c ≠ i.toChar := by
      rintro i rfl
      rw [Instruction.ofChar?_toChar] at h
      cases h
    have hopen : c ≠ '[' := hne .loopStart
    have hclose : c ≠ ']' := hne .loopEnd
    rw [bracketSide?, if_neg hopen, if_neg hclose]
    rfl

/-- The brackets of a text are those of its instructions. -/
theorem sides_filterMap_ofChar? (cs : List Char) :
    sides Instruction.side? (cs.filterMap Instruction.ofChar?) = sides bracketSide? cs := by
  rw [sides, List.filterMap_filterMap]
  exact congrArg (cs.filterMap ·) (funext fun c => (bracketSide?_eq_bind c).symm)

/-- The loops of ops open and close as the instructions that they stand for do. -/
theorem sides_flatMap_unfold (ops : List Op) :
    sides Instruction.side? (ops.flatMap Op.unfold) = sides Op.side? ops := by
  induction ops with
  | nil => rfl
  | cons op ops ih =>
    have hop : sides Instruction.side? op.unfold = op.side?.toList := by
      cases op with
      | arith a n =>
        refine List.filterMap_eq_nil_iff.2 fun i hi => ?_
        rw [List.eq_of_mem_replicate hi]
        rfl
      | _ => rfl
    rw [List.flatMap_cons, sides_append, ih, hop, sides_cons]

end TapeC.Brackets
