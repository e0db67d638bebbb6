import Mathlib.Data.List.SplitBy
import Mathlib.Data.Set.Function
import TapeC.Proofs.Lexer.Steps
import TapeC.Proofs.Run.Grouping

/-!
# Grouping and expansion

**Theorem (`group_bijOn_isNormal`).** Grouping the text of any run list gives the list's normal
form. Grouping an instruction sequence gives a normal list, and the text of this list is that of the
sequence. So grouping is a bijection between instruction sequences and normal run lists, and its
inverse reads the text of a list.

Three facts carry the proof. A text is read as the sequence that its run list stands for
(`instructionsOf_text`). A normal list is determined by the sequence that it stands for, since
grouping gives it back (`IsNormal.group_unroll`). And the normal form of a list is normal and stands
for the same sequence as the list (`isNormal_normalize`, `unroll_normalize`); for this each stretch
is looked at by itself.
-/

namespace TapeC.Run

/-! ## Run lists and their sequences -/

theorem unroll_cons (r : Run) (rs : List Run) :
    unroll (r :: rs) = List.replicate r.count r.instruction ++ unroll rs := List.flatMap_cons

theorem unroll_append (rs ss : List Run) : unroll (rs ++ ss) = unroll rs ++ unroll ss :=
  List.flatMap_append

/-- Empty runs stand for nothing. -/
theorem unroll_filter (rs : List Run) : unroll (rs.filter (0 < ·.count)) = unroll rs := by
  induction rs with
  | nil => rfl
  | cons r rs ih =>
    by_cases h : 0 < r.count
    · rw [List.filter_cons_of_pos (by simpa using h), unroll_cons, unroll_cons, ih]
    · have h0 : r.count = 0 := Nat.eq_zero_of_not_pos h
      rw [List.filter_cons_of_neg (by simpa using h), ih, unroll_cons, h0]
      rfl

/-- Runs of one instruction stand for as many occurrences as all of them have together. -/
theorem unroll_of_forall_eq {i : Instruction} {rs : List Run} (h : ∀ r ∈ rs, r.instruction = i) :
    unroll rs = List.replicate (rs.map (·.count)).sum i := by
  induction rs with
  | nil => rfl
  | cons r rs ih =>
    obtain ⟨hr, hrs⟩ := List.forall_mem_cons.1 h
    rw [unroll_cons, hr, ih hrs, List.map_cons, List.sum_cons, List.replicate_add]

/-! ## Texts -/

theorem toList_text (rs : List Run) : (text rs).toList = (unroll rs).map (·.toChar) := by
  induction rs with
  | nil => rfl
  | cons r rs ih =>
    rw [text, List.map_cons, String.join_cons, ← text, String.toList_append, ih, unroll_cons,
      expand, String.toList_ofList, List.map_append, List.map_replicate]

/-- The text of a run list is read as the sequence that the list stands for. -/
theorem instructionsOf_text (rs : List Run) : instructionsOf (text rs) = unroll rs := by
  have hread : (Instruction.ofChar? ∘ fun i : Instruction => i.toChar) = some :=
    funext Instruction.ofChar?_toChar
  rw [instructionsOf_eq, toList_text, List.filterMap_map, hread, List.filterMap_some]

/-! ## Normal lists -/

/-- Occurrences in front of a sequence that goes on with another instruction are one run. -/
theorem group_replicate_append {i : Instruction} {is : List Instruction} (h : is.head? ≠ some i)
    (n : Nat) : group (List.replicate (n + 1) i ++ is) = ⟨i, n + 1⟩ :: group is := by
  rw [group_eq_foldr, group_eq_foldr, foldr_push_replicate_append h]

namespace IsNormal

variable {r : Run} {rs : List Run}

theorem nil : IsNormal [] := ⟨by simp, .nil⟩

theorem cons (h : IsNormal rs) (hpos : 0 < r.count)
    (hne : ∀ s ∈ rs.head?, r.instruction ≠ s.instruction) : IsNormal (r :: rs) :=
  ⟨List.forall_mem_cons.2 ⟨hpos, h.count_pos⟩, List.isChain_cons.2 ⟨hne, h.isChain⟩⟩

theorem tail (h : IsNormal (r :: rs)) : IsNormal rs :=
  ⟨(List.forall_mem_cons.1 h.count_pos).2, h.isChain.tail⟩

/-- The sequence begins with the instruction of the first run. -/
theorem head?_unroll (h : IsNormal rs) : (unroll rs).head? = rs.head?.map (·.instruction) := by
  cases rs with
  | nil => rfl
  | cons r rs =>
    have hpos := h.count_pos r List.mem_cons_self
    obtain ⟨n, hn⟩ := Nat.exists_eq_succ_of_ne_zero (Nat.ne_of_gt hpos)
    rw [unroll_cons, hn]
    rfl

/-- Grouping gives a normal list back. -/
theorem group_unroll (h : IsNormal rs) : group (unroll rs) = rs := by
  induction rs with
  | nil => rfl
  | cons r rs ih =>
    have hpos := h.count_pos r List.mem_cons_self
    have hhead : (unroll rs).head? ≠ some r.instruction := by
      rw [h.tail.head?_unroll]
      intro hr
      obtain ⟨s, hs, hi⟩ := Option.map_eq_some_iff.1 hr
      exact (List.isChain_cons.1 h.isChain).1 s hs hi.symm
    obtain ⟨i, n⟩ := r
    obtain ⟨n, rfl⟩ := Nat.exists_eq_succ_of_ne_zero (Nat.ne_of_gt hpos)
    rw [unroll_cons, group_replicate_append hhead, ih h.tail]

end IsNormal

/-! ## Stretches -/

/-- Runs of one instruction, at least one and none of them empty. -/
structure IsStretch (i : Instruction) (rs : List Run) : Prop where
  ne_nil : rs ≠ []
  instruction_eq : ∀ r ∈ rs, r.instruction = i
  count_pos : ∀ r ∈ rs, 0 < r.count

namespace IsStretch

variable {i : Instruction} {rs : List Run}

theorem merge?_eq (h : IsStretch i rs) : merge? rs = some ⟨i, (rs.map (·.count)).sum⟩ := by
  obtain ⟨r, rs, rfl⟩ := List.exists_cons_of_ne_nil h.ne_nil
  rw [merge?, List.head?_cons, Option.map_some, h.instruction_eq r List.mem_cons_self]

theorem sum_pos (h : IsStretch i rs) : 0 < (rs.map (·.count)).sum := by
  obtain ⟨r, rs, rfl⟩ := List.exists_cons_of_ne_nil h.ne_nil
  have hr := h.count_pos r List.mem_cons_self
  rw [List.map_cons, List.sum_cons]
  omega

end IsStretch

theorem exists_isStretch {rs g : List Run} (hg : g ∈ stretches rs) : ∃ i, IsStretch i g := by
  have hne : g ≠ [] := List.ne_nil_of_mem_splitBy hg
  have hchain := List.isChain_of_mem_splitBy hg
  simp only [decide_eq_true_eq] at hchain
  have : IsTrans Run fun r s => r.instruction = s.instruction := ⟨fun _ _ _ => Eq.trans⟩
  obtain ⟨r, g, rfl⟩ := List.exists_cons_of_ne_nil hne
  refine ⟨r.instruction, hne, fun s hs => ?_, fun s hs => ?_⟩
  · rcases List.mem_cons.1 hs with rfl | hs
    · rfl
    · exact (List.rel_of_pairwise_cons hchain.pairwise hs).symm
  · have hmem := List.mem_flatten_of_mem hg hs
    rw [stretches, List.flatten_splitBy] at hmem
    simpa using (List.mem_filter.1 hmem).2

/-- Where one stretch ends and the next begins, the instruction changes. -/
theorem isChain_stretches (rs : List Run) :
    (stretches rs).IsChain fun g h => ∀ r ∈ g.getLast?, ∀ s ∈ h.head?,
      r.instruction ≠ s.instruction := by
  refine (List.isChain_getLast_head_splitBy _ _).imp ?_
  rintro g h ⟨hg, hh, hne⟩ r hr s hs
  rw [List.getLast?_eq_some_getLast hg] at hr
  rw [List.head?_eq_some_head hh] at hs
  cases hr
  cases hs
  simpa using hne

/-! ## The normal form -/

section

variable {gs : List (List Run)}

theorem unroll_filterMap_merge? (hgs : ∀ g ∈ gs, ∃ i, IsStretch i g) :
    unroll (gs.filterMap merge?) = unroll gs.flatten := by
  induction gs with
  | nil => rfl
  | cons g gs ih =>
    obtain ⟨⟨i, hg⟩, hgs⟩ := List.forall_mem_cons.1 hgs
    rw [List.filterMap_cons_some hg.merge?_eq, unroll_cons, ih hgs, List.flatten_cons,
      unroll_append, unroll_of_forall_eq hg.instruction_eq]

theorem isNormal_filterMap_merge? (hgs : ∀ g ∈ gs, ∃ i, IsStretch i g)
    (hc : gs.IsChain fun g h => ∀ r ∈ g.getLast?, ∀ s ∈ h.head?,
      r.instruction ≠ s.instruction) : IsNormal (gs.filterMap merge?) := by
  induction gs with
  | nil => exact .nil
  | cons g gs ih =>
    obtain ⟨⟨i, hg⟩, hgs⟩ := List.forall_mem_cons.1 hgs
    rw [List.isChain_cons] at hc
    rw [List.filterMap_cons_some hg.merge?_eq]
    refine (ih hgs hc.2).cons hg.sum_pos fun s hs => ?_
    cases gs with
    | nil => cases hs
    | cons h gs =>
      obtain ⟨j, hh⟩ := hgs h List.mem_cons_self
      rw [List.filterMap_cons_some hh.merge?_eq] at hs
      cases hs
      -- The runs on both sides of the border tell the instructions of their stretches.
      have hborder := hc.1 h rfl _ (List.getLast?_eq_some_getLast hg.ne_nil) _
        (List.head?_eq_some_head hh.ne_nil)
      rwa [hg.instruction_eq _ (List.getLast_mem _),
        hh.instruction_eq _ (List.head_mem _)] at hborder

end

theorem isNormal_normalize (rs : List Run) : IsNormal (normalize rs) :=
  isNormal_filterMap_merge? (fun _ hg => exists_isStretch hg) (isChain_stretches rs)

/-- A run list and its normal form stand for the same sequence. -/
theorem unroll_normalize (rs : List Run) : unroll (normalize rs) = unroll rs := by
  rw [normalize, unroll_filterMap_merge? fun _ hg => exists_isStretch hg, stretches,
    List.flatten_splitBy, unroll_filter]

-- Two runs come together when the empty one between them is dropped.
example : normalize [⟨.write, 1⟩, ⟨.read, 0⟩, ⟨.write, 2⟩, ⟨.read, 1⟩] =
    [⟨.write, 3⟩, ⟨.read, 1⟩] := by decide

/-- **Grouping and expansion are inverse up to normal form.** -/
theorem group_bijOn_isNormal :
    (∀ rs : List Run, group (instructionsOf (text rs)) = normalize rs) ∧
      (∀ is : List Instruction,
        IsNormal (group is) ∧ text (group is) = String.ofList (is.map (·.toChar))) ∧
      Set.InvOn (fun rs => instructionsOf (text rs)) group Set.univ {rs | IsNormal rs} ∧
      Set.BijOn group Set.univ {rs | IsNormal rs} := by
  have hinv : Set.InvOn (fun rs => instructionsOf (text rs)) group Set.univ
      {rs | IsNormal rs} := by
    constructor
    · intro is _
      change instructionsOf (text (group is)) = is
      rw [instructionsOf_text, unroll_group]
    · intro rs hrs
      change group (instructionsOf (text rs)) = rs
      rw [instructionsOf_text, IsNormal.group_unroll hrs]
  refine ⟨fun rs => ?_, fun is => ⟨isNormal_group is, ?_⟩, hinv,
    hinv.bijOn (fun is _ => isNormal_group is) (fun _ _ => trivial)⟩
  · rw [instructionsOf_text, ← unroll_normalize, (isNormal_normalize rs).group_unroll]
  · rw [← String.ofList_toList (s := text (group is)), toList_text, unroll_group]

end TapeC.Run
