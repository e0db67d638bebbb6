import Mathlib.Data.Nat.Find
import TapeC.Proofs.Text.Utf8

/-!
# What a lossy reading is

**Theorem (`Utf8.isLossyReading_iff`).** Every byte text has one lossy reading, and it is the one
that the reader gives.

A lossy reading goes from sequence to sequence. Where none begins, it puts U+FFFD for a *maximal
subpart*: the longest bytes from there on that some sequence begins with, or a single byte if no
sequence begins with it (`IsMaximalSubpart`). This says nothing of states. The reader goes byte by
byte and does not look ahead, so what has to be seen is that its state always knows how a sequence
can go on: a byte is in the range that the state allows only if there is a sequence with it
(`Awaits`). Hence the reader breaks off where a longest beginning ends, and not before.
-/

namespace TapeC.Utf8

/-- Some sequence begins with the bytes. -/
def Begins (bs : Bytes) : Prop := ∃ n more, Sequence n (bs ++ more)

/-- The malformed bytes that a text begins with, and the rest of the text. -/
structure IsMaximalSubpart (bad rest : Bytes) : Prop where
  not_sequence : ∀ n seq, Sequence n seq → ¬seq <+: bad ++ rest
  begins_or_single : (bad ≠ [] ∧ Begins bad) ∨ bad.length = 1
  longest : ∀ bs, bs <+: bad ++ rest → Begins bs → bs.length ≤ bad.length

/-- The characters are a lossy reading of the bytes. -/
inductive IsLossyReading : Bytes → List Char → Prop where
  | nil : IsLossyReading [] []
  | scalar {n : Nat} {seq rest : Bytes} {cs : List Char} (h : Sequence n seq)
      (hrest : IsLossyReading rest cs) : IsLossyReading (seq ++ rest) (Char.ofNat n :: cs)
  | replaced {bad rest : Bytes} {cs : List Char} (h : IsMaximalSubpart bad rest)
      (hrest : IsLossyReading rest cs) : IsLossyReading (bad ++ rest) ('\uFFFD' :: cs)

/-! ## States and beginnings -/

/-- The reader is in a state after the bytes, and in it waits only for bytes that they can go on
with. -/
structure Awaits (bs : Bytes) (p : Partial) : Prop where
  pieces_append : ∀ rest, pieces (bs ++ rest) = piecesFrom (some p) rest
  begins_concat : ∀ b : UInt8, p.low.toNat ≤ b.toNat → b.toNat ≤ p.high.toNat → Begins (bs ++ [b])

variable {b low high : UInt8} {n i seen bits owed : Nat} {bs bad rest : Bytes}

/-- The state after one more byte, if any further byte of a sequence may follow it. -/
theorem Awaits.concat (h : Awaits bs ⟨seen, bits, owed + 2, low, high⟩) (hb : b.toNat = 0x80 + i)
    (hmem : low.toNat ≤ b.toNat ∧ b.toNat ≤ high.toNat)
    (hbegins : ∀ (b' : UInt8) (j : Nat), b'.toNat = 0x80 + j → j < 64 →
      Begins (bs ++ [b] ++ [b'])) :
    Awaits (bs ++ [b]) ⟨seen + 1, bits * 64 + i, owed + 1, 0x80, 0xBF⟩ where
  pieces_append rest := by
    rw [List.append_assoc, h.pieces_append]
    exact piecesFrom_more hb hmem.1 hmem.2 rest
  begins_concat b' hlow hhigh := by
    simp only [UInt8.reduceToNat] at hlow hhigh
    exact hbegins b' (b'.toNat - 0x80) (by omega) (by omega)

theorem awaits_two (hb : b.toNat = 0xC0 + n) (hn : 2 ≤ n ∧ n < 32) :
    Awaits [b] ⟨1, n, 1, 0x80, 0xBF⟩ where
  pieces_append rest := by
    rw [List.singleton_append, pieces_cons, start_two hb hn.1 hn.2]
    rfl
  begins_concat b₁ hlow hhigh := by
    simp only [UInt8.reduceToNat] at hlow hhigh
    have h₁ : b₁.toNat = 0x80 + (b₁.toNat - 0x80) := by omega
    exact ⟨_, [], .two hb hn h₁ (by omega)⟩

theorem awaits_three (hb : b.toNat = 0xE0 + n) (hn : n < 16) :
    Awaits [b] ⟨1, n, 2, if n = 0 then 0xA0 else 0x80, if n = 0xD then 0x9F else 0xBF⟩ where
  pieces_append rest := by
    rw [List.singleton_append, pieces_cons, start_three hb hn]
    rfl
  begins_concat b₁ hlow hhigh := by
    obtain ⟨i, h₁, hi, hi0, hi13⟩ := exists_second_of_three hlow hhigh
    exact ⟨_, [0x80], .three hb hn h₁ hi hi0 hi13 (j := 0) rfl (by omega)⟩

theorem awaits_four (hb : b.toNat = 0xF0 + n) (hn : n ≤ 4) :
    Awaits [b] ⟨1, n, 3, if n = 0 then 0x90 else 0x80, if n = 4 then 0x8F else 0xBF⟩ where
  pieces_append rest := by
    rw [List.singleton_append, pieces_cons, start_four hb hn]
    rfl
  begins_concat b₁ hlow hhigh := by
    obtain ⟨i, h₁, hi, hi0, hi4⟩ := exists_second_of_four hlow hhigh
    exact ⟨_, [0x80, 0x80], .four hb hn h₁ hi hi0 hi4 (j := 0) rfl (by omega) (k := 0) rfl
      (by omega)⟩

/-- The reader is in a state after any part of a sequence. -/
theorem Sequence.exists_awaits {seq more : Bytes} (h : Sequence n seq) (hseq : bs ++ more = seq)
    (hbs : bs ≠ []) (hmore : more ≠ []) : ∃ p, Awaits bs p := by
  cases h with
  | one hb =>
    rcases List.append_eq_singleton_iff.1 hseq with ⟨rfl, -⟩ | ⟨-, rfl⟩
    · exact absurd rfl hbs
    · exact absurd rfl hmore
  | two hb hn h₁ hi =>
    rcases bs with _ | ⟨_, _ | ⟨_, bs⟩⟩
    · exact absurd rfl hbs
    · obtain ⟨rfl, -⟩ := List.cons.inj hseq
      exact ⟨_, awaits_two hb hn⟩
    · simp [hmore] at hseq
  | three hb hn h₁ hi hlow hhigh h₂ hj =>
    rcases bs with _ | ⟨_, _ | ⟨_, _ | ⟨_, bs⟩⟩⟩
    · exact absurd rfl hbs
    · obtain ⟨rfl, -⟩ := List.cons.inj hseq
      exact ⟨_, awaits_three hb hn⟩
    · obtain ⟨rfl, hseq₁⟩ := List.cons.inj hseq
      obtain ⟨rfl, -⟩ := List.cons.inj hseq₁
      exact ⟨_, (awaits_three hb hn).concat h₁ (second_of_three_mem h₁ hi hlow hhigh)
        fun _ _ h₂ hj => ⟨_, [], .three hb hn h₁ hi hlow hhigh h₂ hj⟩⟩
    · simp [hmore] at hseq
  | four hb hn h₁ hi hlow hhigh h₂ hj h₃ hk =>
    have hawaits := (awaits_four hb hn).concat h₁ (second_of_four_mem h₁ hi hlow hhigh)
      fun _ _ h₂ hj => ⟨_, [0x80], .four hb hn h₁ hi hlow hhigh h₂ hj (k := 0) rfl (by omega)⟩
    rcases bs with _ | ⟨_, _ | ⟨_, _ | ⟨_, _ | ⟨_, bs⟩⟩⟩⟩
    · exact absurd rfl hbs
    · obtain ⟨rfl, -⟩ := List.cons.inj hseq
      exact ⟨_, awaits_four hb hn⟩
    · obtain ⟨rfl, hseq₁⟩ := List.cons.inj hseq
      obtain ⟨rfl, -⟩ := List.cons.inj hseq₁
      exact ⟨_, hawaits⟩
    · obtain ⟨rfl, hseq₁⟩ := List.cons.inj hseq
      obtain ⟨rfl, hseq₂⟩ := List.cons.inj hseq₁
      obtain ⟨rfl, -⟩ := List.cons.inj hseq₂
      exact ⟨_, hawaits.concat h₂ (tail_mem h₂ hj)
        fun _ _ h₃ hk => ⟨_, [], .four hb hn h₁ hi hlow hhigh h₂ hj h₃ hk⟩⟩
    · simp [hmore] at hseq

theorem second_of_three_le (n : Nat) :
    (if n = 0 then 0xA0 else 0x80 : UInt8).toNat ≤
      (if n = 0xD then 0x9F else 0xBF : UInt8).toNat := by
  split_ifs with h0 h13 <;> simp only [UInt8.reduceToNat] <;> omega

theorem second_of_four_le (n : Nat) :
    (if n = 0 then 0x90 else 0x80 : UInt8).toNat ≤
      (if n = 4 then 0x8F else 0xBF : UInt8).toNat := by
  split_ifs with h0 h4 <;> simp only [UInt8.reduceToNat] <;> omega

theorem Begins.of_append {cs : Bytes} (h : Begins (bs ++ cs)) : Begins bs := by
  obtain ⟨n, more, hseq⟩ := h
  exact ⟨n, cs ++ more, by rwa [← List.append_assoc]⟩

/-- A byte that no sequence begins with. -/
theorem start_of_not_begins (h : ¬Begins [b]) : start b = ([.malformed 1], none) := by
  rcases start_cases b with hb | ⟨n, hb, hlow, hhigh⟩ | ⟨n, hb, hn⟩ | ⟨n, hb, hn⟩ | hb
  · exact absurd ⟨_, [], .one hb⟩ h
  · have hnext := (awaits_two hb ⟨hlow, hhigh⟩).begins_concat 0x80 (by simp) (by simp)
    exact absurd hnext.of_append h
  · have hnext := (awaits_three hb hn).begins_concat _ (Nat.le_refl _) (second_of_three_le n)
    exact absurd hnext.of_append h
  · have hnext := (awaits_four hb hn).begins_concat _ (Nat.le_refl _) (second_of_four_le n)
    exact absurd hnext.of_append h
  · exact hb

/-! ## Malformed bytes -/

/-- The reader breaks off where no sequence goes on. -/
theorem Awaits.pieces_eq {p : Partial} (h : Awaits bs p)
    (hrest : ∀ b ∈ rest.head?, ¬Begins (bs ++ [b])) :
    ∃ q : Piece, q.toChar = '\uFFFD' ∧ pieces (bs ++ rest) = q :: pieces rest := by
  rw [h.pieces_append]
  cases rest with
  | nil => exact ⟨.cut p.seen, rfl, piecesFrom_nil _⟩
  | cons b rest =>
    have hout : ¬(p.low.toNat ≤ b.toNat ∧ b.toNat ≤ p.high.toNat) := fun hin =>
      hrest b rfl (h.begins_concat b hin.1 hin.2)
    refine ⟨.malformed p.seen, rfl, ?_⟩
    rw [piecesFrom_cons, feed_some_of_not_mem hout, pieces_cons, List.cons_append]

theorem IsMaximalSubpart.not_begins_concat (h : IsMaximalSubpart bad rest) :
    ∀ b ∈ rest.head?, ¬Begins (bad ++ [b]) := by
  intro b hb hbegins
  obtain ⟨rest, rfl⟩ := List.head?_eq_some_iff.1 hb
  have hle := h.longest (bad ++ [b]) ⟨rest, by simp⟩ hbegins
  simp only [List.length_append, List.length_singleton] at hle
  omega

/-- A maximal subpart is read as one piece. -/
theorem IsMaximalSubpart.exists_pieces_append (h : IsMaximalSubpart bad rest) :
    ∃ q : Piece, q.toChar = '\uFFFD' ∧ pieces (bad ++ rest) = q :: pieces rest := by
  by_cases hbegins : bad ≠ [] ∧ Begins bad
  · obtain ⟨hne, n, more, hseq⟩ := hbegins
    have hmore : more ≠ [] := by
      rintro rfl
      rw [List.append_nil] at hseq
      exact h.not_sequence n bad hseq (List.prefix_append _ _)
    obtain ⟨p, hawaits⟩ := hseq.exists_awaits rfl hne hmore
    exact hawaits.pieces_eq h.not_begins_concat
  · obtain ⟨b, rfl⟩ := List.length_eq_one_iff.1 (h.begins_or_single.resolve_left hbegins)
    have hstart : start b = ([.malformed 1], none) :=
      start_of_not_begins fun hb => hbegins ⟨List.cons_ne_nil _ _, hb⟩
    refine ⟨.malformed 1, rfl, ?_⟩
    rw [List.singleton_append, pieces_cons, hstart]
    rfl

/-- Where no sequence is, there is a maximal subpart. -/
theorem exists_isMaximalSubpart (hbs : bs ≠ []) (h : ∀ n seq, Sequence n seq → ¬seq <+: bs) :
    ∃ bad rest, bad ≠ [] ∧ bs = bad ++ rest ∧ IsMaximalSubpart bad rest := by
  classical
  -- The size of the longest beginning; it is zero if no sequence begins with the first byte.
  let size := Nat.findGreatest (fun k => Begins (bs.take k)) bs.length
  have hpos : 0 < bs.length := List.length_pos_iff.2 hbs
  have hsize : size ≤ bs.length := Nat.findGreatest_le _
  have hlength : (bs.take (max size 1)).length = max size 1 := by
    rw [List.length_take]
    omega
  have happend : bs.take (max size 1) ++ bs.drop (max size 1) = bs := List.take_append_drop _ _
  refine ⟨bs.take (max size 1), bs.drop (max size 1), ?_, happend.symm, ?_, ?_, ?_⟩
  · exact List.length_pos_iff.1 (by omega)
  · rwa [happend]
  · by_cases hzero : size = 0
    · exact .inr (by omega)
    · have hbegins : Begins (bs.take size) := Nat.findGreatest_of_ne_zero rfl hzero
      have hmax : max size 1 = size := by omega
      exact .inl ⟨List.length_pos_iff.1 (by omega), by rwa [hmax]⟩
  · intro cs hprefix hbegins
    rw [happend] at hprefix
    have hle : cs.length ≤ size := by
      rw [List.prefix_iff_eq_take.1 hprefix] at hbegins
      exact Nat.le_findGreatest hprefix.length_le hbegins
    omega

/-! ## Readings -/

theorem Sequence.length_pos (h : Sequence n bs) : 0 < bs.length := by
  cases h <;> exact Nat.succ_pos _

theorem exists_isLossyReading (bs : Bytes) : ∃ cs, IsLossyReading bs cs := by
  induction hlength : bs.length using Nat.strong_induction_on generalizing bs with
  | h length ih =>
    by_cases hbs : bs = []
    · exact ⟨[], hbs ▸ .nil⟩
    by_cases hseq : ∃ n seq, Sequence n seq ∧ seq <+: bs
    · obtain ⟨n, seq, hseq, rest, rfl⟩ := hseq
      have hpos := hseq.length_pos
      rw [List.length_append] at hlength
      obtain ⟨cs, hcs⟩ := ih rest.length (by omega) rest rfl
      exact ⟨_, .scalar hseq hcs⟩
    · obtain ⟨bad, rest, hbad, rfl, hmax⟩ :=
        exists_isMaximalSubpart hbs fun n seq h hprefix => hseq ⟨n, seq, h, hprefix⟩
      have hpos := List.length_pos_iff.2 hbad
      rw [List.length_append] at hlength
      obtain ⟨cs, hcs⟩ := ih rest.length (by omega) rest rfl
      exact ⟨_, .replaced hmax hcs⟩

theorem IsLossyReading.map_toChar_pieces {cs : List Char} (h : IsLossyReading bs cs) :
    (pieces bs).map Piece.toChar = cs := by
  induction h with
  | nil => rfl
  | scalar hseq hrest ih => rw [hseq.pieces_append, List.map_cons, ih]; rfl
  | replaced hmax hrest ih =>
    obtain ⟨q, hq, hpieces⟩ := hmax.exists_pieces_append
    rw [hpieces, List.map_cons, hq, ih]

/-- **There is one lossy reading.** -/
theorem isLossyReading_iff {cs : List Char} :
    IsLossyReading bs cs ↔ (decodeLossy bs).toList = cs := by
  have heq {cs : List Char} (h : IsLossyReading bs cs) : (decodeLossy bs).toList = cs := by
    rw [decodeLossy, String.toList_ofList, h.map_toChar_pieces]
  constructor
  · exact heq
  · rintro rfl
    obtain ⟨cs, hcs⟩ := exists_isLossyReading bs
    rwa [heq hcs]

end TapeC.Utf8
