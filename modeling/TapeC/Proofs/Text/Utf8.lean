import Mathlib.Tactic.SplitIfs
import TapeC.Text.Utf8

/-!
# Reading what was written

**Theorem (`Utf8.decode_eq_ok_iff`).** Bytes are read as a text if and only if they are the bytes
that the text is written with. So every text has one encoding, and there is no other that is read
as it.

The reader of `Text.Utf8` goes byte by byte and keeps what it has seen of a sequence. `Sequence`
says what it waits for: the one way to write a scalar value, by its number. Two lemmas tie the two
together, `Sequence.pieces_append`, by which a sequence is read as one piece, and `exists_sequence`,
by which nothing else is. The encoder writes such sequences (`Sequence.utf8EncodeChar_eq`), and
there is one for every scalar value (`exists_sequence_of_isValidChar`).
-/

namespace TapeC.Utf8

/-! ## Sequences -/

/-- The bytes of a scalar value by its number. The first one says how many there are, and each of
the others carries six bits. A value is not written with more bytes than it needs, and there are no
surrogates and nothing behind U+10FFFF. -/
inductive Sequence : Nat → Bytes → Prop where
  | one {b : UInt8} (hb : b.toNat < 0x80) : Sequence b.toNat [b]
  | two {b b₁ : UInt8} {n i : Nat} (hb : b.toNat = 0xC0 + n) (hn : 2 ≤ n ∧ n < 32)
      (h₁ : b₁.toNat = 0x80 + i) (hi : i < 64) : Sequence (n * 64 + i) [b, b₁]
  | three {b b₁ b₂ : UInt8} {n i j : Nat} (hb : b.toNat = 0xE0 + n) (hn : n < 16)
      (h₁ : b₁.toNat = 0x80 + i) (hi : i < 64) (hlow : n = 0 → 0x20 ≤ i)
      (hhigh : n = 0xD → i < 0x20) (h₂ : b₂.toNat = 0x80 + j) (hj : j < 64) :
      Sequence ((n * 64 + i) * 64 + j) [b, b₁, b₂]
  | four {b b₁ b₂ b₃ : UInt8} {n i j k : Nat} (hb : b.toNat = 0xF0 + n) (hn : n ≤ 4)
      (h₁ : b₁.toNat = 0x80 + i) (hi : i < 64) (hlow : n = 0 → 0x10 ≤ i)
      (hhigh : n = 4 → i < 0x10) (h₂ : b₂.toNat = 0x80 + j) (hj : j < 64)
      (h₃ : b₃.toNat = 0x80 + k) (hk : k < 64) :
      Sequence (((n * 64 + i) * 64 + j) * 64 + k) [b, b₁, b₂, b₃]

/-! ## Bytes as numbers -/

theorem start_eq (b : UInt8) :
    start b =
      if b.toNat < 0x80 then ([.scalar (Char.ofNat b.toNat)], none)
      else if b.toNat < 0xC2 then ([.malformed 1], none)
      else if b.toNat < 0xE0 then ([], some ⟨1, b.toNat - 0xC0, 1, 0x80, 0xBF⟩)
      else if b.toNat = 0xE0 then ([], some ⟨1, 0, 2, 0xA0, 0xBF⟩)
      else if b.toNat = 0xED then ([], some ⟨1, 0xD, 2, 0x80, 0x9F⟩)
      else if b.toNat < 0xF0 then ([], some ⟨1, b.toNat - 0xE0, 2, 0x80, 0xBF⟩)
      else if b.toNat = 0xF0 then ([], some ⟨1, 0, 3, 0x90, 0xBF⟩)
      else if b.toNat < 0xF4 then ([], some ⟨1, b.toNat - 0xF0, 3, 0x80, 0xBF⟩)
      else if b.toNat = 0xF4 then ([], some ⟨1, 4, 3, 0x80, 0x8F⟩)
      else ([.malformed 1], none) := by
  simp only [start, UInt8.lt_iff_toNat_lt, ← UInt8.toNat_inj, UInt8.reduceToNat]

theorem feed_some {p : Partial} {b : UInt8} (hlow : p.low.toNat ≤ b.toNat)
    (hhigh : b.toNat ≤ p.high.toNat) :
    feed (some p) b =
      if p.owed ≤ 1 then ([.scalar (Char.ofNat (p.bits * 64 + (b.toNat - 0x80)))], none)
      else ([], some ⟨p.seen + 1, p.bits * 64 + (b.toNat - 0x80), p.owed - 1, 0x80, 0xBF⟩) := by
  have hin : (p.low ≤ b && b ≤ p.high) = true := by
    simp [UInt8.le_iff_toNat_le, hlow, hhigh]
  simp only [feed, hin, if_true]

/-- A byte that cannot go on with a sequence breaks it off. -/
theorem feed_some_of_not_mem {p : Partial} {b : UInt8}
    (h : ¬(p.low.toNat ≤ b.toNat ∧ b.toNat ≤ p.high.toNat)) :
    feed (some p) b = (.malformed p.seen :: (start b).1, (start b).2) := by
  have hout : (p.low ≤ b && b ≤ p.high) = false := by
    simpa [UInt8.le_iff_toNat_le] using h
  simp only [feed, hout, Bool.false_eq_true, if_false]

/-- The last byte of a sequence. -/
theorem piecesFrom_last {seen bits i : Nat} {low high b : UInt8} (hb : b.toNat = 0x80 + i)
    (hlow : low.toNat ≤ b.toNat) (hhigh : b.toNat ≤ high.toNat) (bs : Bytes) :
    piecesFrom (some ⟨seen, bits, 1, low, high⟩) (b :: bs) =
      .scalar (Char.ofNat (bits * 64 + i)) :: pieces bs := by
  rw [piecesFrom_cons, feed_some hlow hhigh, if_pos (Nat.le_refl 1), hb, Nat.add_sub_cancel_left]
  rfl

/-- A byte that others of its sequence follow. -/
theorem piecesFrom_more {seen bits owed i : Nat} {low high b : UInt8} (hb : b.toNat = 0x80 + i)
    (hlow : low.toNat ≤ b.toNat) (hhigh : b.toNat ≤ high.toNat) (bs : Bytes) :
    piecesFrom (some ⟨seen, bits, owed + 2, low, high⟩) (b :: bs) =
      piecesFrom (some ⟨seen + 1, bits * 64 + i, owed + 1, 0x80, 0xBF⟩) bs := by
  have howed : ¬owed + 2 ≤ 1 := by omega
  rw [piecesFrom_cons, feed_some hlow hhigh, if_neg howed, hb, Nat.add_sub_cancel_left]
  rfl

/-- A sequence that does not break off goes on with a byte in its range. -/
theorem exists_cons_of_piecesFrom_some {seen bits owed : Nat} {low high : UInt8} {bs : Bytes}
    {c : Char} {ps : List Piece}
    (h : piecesFrom (some ⟨seen, bits, owed, low, high⟩) bs = .scalar c :: ps) :
    ∃ b rest, bs = b :: rest ∧ low.toNat ≤ b.toNat ∧ b.toNat ≤ high.toNat := by
  cases bs with
  | nil => simp [finish] at h
  | cons b rest =>
    by_cases hin : (low ≤ b && b ≤ high) = true
    · simp only [Bool.and_eq_true, decide_eq_true_eq, UInt8.le_iff_toNat_le] at hin
      exact ⟨b, rest, rfl, hin⟩
    · rw [piecesFrom_cons] at h
      simp [feed, hin] at h

/-- After the second byte of a sequence, the range is always the same. -/
theorem exists_tail_of_piecesFrom_some {seen bits owed : Nat} {bs : Bytes} {c : Char}
    {ps : List Piece}
    (h : piecesFrom (some ⟨seen, bits, owed, 0x80, 0xBF⟩) bs = .scalar c :: ps) :
    ∃ b rest i, bs = b :: rest ∧ b.toNat = 0x80 + i ∧ i < 64 := by
  obtain ⟨b, rest, rfl, hlow, hhigh⟩ := exists_cons_of_piecesFrom_some h
  simp only [UInt8.reduceToNat] at hlow hhigh
  exact ⟨b, rest, b.toNat - 0x80, rfl, by omega, by omega⟩

/-! ## The first byte of a sequence -/

variable {b b₁ b₂ b₃ : UInt8} {n i j k : Nat} {bs rest : Bytes} {c : Char} {ps : List Piece}

theorem start_one (hb : b.toNat < 0x80) : start b = ([.scalar (Char.ofNat b.toNat)], none) := by
  rw [start_eq, if_pos hb]

theorem start_two (hb : b.toNat = 0xC0 + n) (hlow : 2 ≤ n) (hhigh : n < 32) :
    start b = ([], some ⟨1, n, 1, 0x80, 0xBF⟩) := by
  rw [start_eq, hb, if_neg (by omega), if_neg (by omega), if_pos (by omega),
    Nat.add_sub_cancel_left]

theorem start_three (hb : b.toNat = 0xE0 + n) (hn : n < 16) :
    start b =
      ([], some ⟨1, n, 2, if n = 0 then 0xA0 else 0x80, if n = 0xD then 0x9F else 0xBF⟩) := by
  rw [start_eq, hb, if_neg (by omega), if_neg (by omega), if_neg (by omega),
    Nat.add_sub_cancel_left]
  by_cases h0 : n = 0
  · rw [if_pos (by omega), if_pos h0, if_neg (by omega), h0]
  by_cases h13 : n = 13
  · rw [if_neg (by omega), if_pos (by omega), if_neg h0, if_pos h13, h13]
  · rw [if_neg (by omega), if_neg (by omega), if_pos (by omega), if_neg h0, if_neg h13]

theorem start_four (hb : b.toNat = 0xF0 + n) (hn : n ≤ 4) :
    start b =
      ([], some ⟨1, n, 3, if n = 0 then 0x90 else 0x80, if n = 4 then 0x8F else 0xBF⟩) := by
  rw [start_eq, hb, if_neg (by omega), if_neg (by omega), if_neg (by omega), if_neg (by omega),
    if_neg (by omega), if_neg (by omega), Nat.add_sub_cancel_left]
  by_cases h0 : n = 0
  · rw [if_pos (by omega), if_pos h0, if_neg (by omega), h0]
  by_cases h4 : n = 4
  · rw [if_neg (by omega), if_neg (by omega), if_pos (by omega), if_neg h0, if_pos h4, h4]
  · rw [if_neg (by omega), if_pos (by omega), if_neg h0, if_neg h4]

/-! ## The ranges of the other bytes -/

theorem tail_mem (hb : b.toNat = 0x80 + i) (hi : i < 64) :
    (0x80 : UInt8).toNat ≤ b.toNat ∧ b.toNat ≤ (0xBF : UInt8).toNat := by
  simp only [UInt8.reduceToNat]
  omega

theorem second_of_three_mem (hb : b.toNat = 0x80 + i) (hi : i < 64) (hlow : n = 0 → 0x20 ≤ i)
    (hhigh : n = 0xD → i < 0x20) :
    (if n = 0 then 0xA0 else 0x80 : UInt8).toNat ≤ b.toNat ∧
      b.toNat ≤ (if n = 0xD then 0x9F else 0xBF : UInt8).toNat := by
  split_ifs <;> simp only [UInt8.reduceToNat] <;> omega

theorem second_of_four_mem (hb : b.toNat = 0x80 + i) (hi : i < 64) (hlow : n = 0 → 0x10 ≤ i)
    (hhigh : n = 4 → i < 0x10) :
    (if n = 0 then 0x90 else 0x80 : UInt8).toNat ≤ b.toNat ∧
      b.toNat ≤ (if n = 4 then 0x8F else 0xBF : UInt8).toNat := by
  split_ifs <;> simp only [UInt8.reduceToNat] <;> omega

/-- The second byte of three is in the range that the first one leaves for it. -/
theorem exists_second_of_three
    (hlow : (if n = 0 then 0xA0 else 0x80 : UInt8).toNat ≤ b.toNat)
    (hhigh : b.toNat ≤ (if n = 0xD then 0x9F else 0xBF : UInt8).toNat) :
    ∃ i, b.toNat = 0x80 + i ∧ i < 64 ∧ (n = 0 → 0x20 ≤ i) ∧ (n = 0xD → i < 0x20) := by
  refine ⟨b.toNat - 0x80, ?_⟩
  split_ifs at hlow hhigh <;> simp only [UInt8.reduceToNat] at hlow hhigh <;> omega

/-- The second byte of four is in the range that the first one leaves for it. -/
theorem exists_second_of_four
    (hlow : (if n = 0 then 0x90 else 0x80 : UInt8).toNat ≤ b.toNat)
    (hhigh : b.toNat ≤ (if n = 4 then 0x8F else 0xBF : UInt8).toNat) :
    ∃ i, b.toNat = 0x80 + i ∧ i < 64 ∧ (n = 0 → 0x10 ≤ i) ∧ (n = 4 → i < 0x10) := by
  refine ⟨b.toNat - 0x80, ?_⟩
  split_ifs at hlow hhigh <;> simp only [UInt8.reduceToNat] at hlow hhigh <;> omega

/-! ## Any first byte -/

theorem start_cases (b : UInt8) :
    b.toNat < 0x80 ∨ (∃ n, b.toNat = 0xC0 + n ∧ 2 ≤ n ∧ n < 32) ∨
      (∃ n, b.toNat = 0xE0 + n ∧ n < 16) ∨ (∃ n, b.toNat = 0xF0 + n ∧ n ≤ 4) ∨
        start b = ([.malformed 1], none) := by
  rw [start_eq]
  have hlt := b.toNat_lt
  split_ifs with h1 h2 h3 h4 h5 h6 h7 h8 h9
  · exact .inl h1
  · exact .inr (.inr (.inr (.inr rfl)))
  · exact .inr (.inl ⟨b.toNat - 0xC0, by omega⟩)
  · exact .inr (.inr (.inl ⟨b.toNat - 0xE0, by omega⟩))
  · exact .inr (.inr (.inl ⟨b.toNat - 0xE0, by omega⟩))
  · exact .inr (.inr (.inl ⟨b.toNat - 0xE0, by omega⟩))
  · exact .inr (.inr (.inr (.inl ⟨b.toNat - 0xF0, by omega⟩)))
  · exact .inr (.inr (.inr (.inl ⟨b.toNat - 0xF0, by omega⟩)))
  · exact .inr (.inr (.inr (.inl ⟨b.toNat - 0xF0, by omega⟩)))
  · exact .inr (.inr (.inr (.inr rfl)))

theorem pieces_cons (b : UInt8) (bs : Bytes) :
    pieces (b :: bs) = (start b).1 ++ piecesFrom (start b).2 bs := piecesFrom_cons none b bs

/-! ## Characters -/

theorem val_ofNat (h : n.isValidChar) : (Char.ofNat n).val.toNat = n := by
  unfold Char.ofNat
  rw [dif_pos h]
  rfl

theorem utf8EncodeChar_ofNat (h : n.isValidChar) :
    String.utf8EncodeChar (Char.ofNat n) =
      if n ≤ 127 then [UInt8.ofNat n]
      else if n ≤ 2047 then [UInt8.ofNat (n / 64 % 32 + 192), UInt8.ofNat (n % 64 + 128)]
      else if n ≤ 65535 then
        [UInt8.ofNat (n / 4096 % 16 + 224), UInt8.ofNat (n / 64 % 64 + 128),
          UInt8.ofNat (n % 64 + 128)]
      else
        [UInt8.ofNat (n / 262144 % 8 + 240), UInt8.ofNat (n / 4096 % 64 + 128),
          UInt8.ofNat (n / 64 % 64 + 128), UInt8.ofNat (n % 64 + 128)] := by
  rw [String.utf8EncodeChar, val_ofNat h]

namespace Sequence

theorem isValidChar (h : Sequence n bs) : n.isValidChar := by
  unfold Nat.isValidChar
  cases h <;> omega

theorem utf8EncodeChar_eq (h : Sequence n bs) : String.utf8EncodeChar (Char.ofNat n) = bs := by
  rw [utf8EncodeChar_ofNat h.isValidChar]
  cases h with
  | one hb =>
    rw [if_pos (by omega), UInt8.ofNat_toNat]
  | two hb hn h₁ hi =>
    rw [if_neg (by omega), if_pos (by omega)]
    simp only [List.cons.injEq, ← UInt8.toNat_inj, UInt8.toNat_ofNat', and_true]
    omega
  | three hb hn h₁ hi hlow hhigh h₂ hj =>
    rw [if_neg (by omega), if_neg (by omega), if_pos (by omega)]
    simp only [List.cons.injEq, ← UInt8.toNat_inj, UInt8.toNat_ofNat', and_true]
    omega
  | four hb hn h₁ hi hlow hhigh h₂ hj h₃ hk =>
    rw [if_neg (by omega), if_neg (by omega), if_neg (by omega)]
    simp only [List.cons.injEq, ← UInt8.toNat_inj, UInt8.toNat_ofNat', and_true]
    omega

theorem pieces_append (h : Sequence n bs) (rest : Bytes) :
    pieces (bs ++ rest) = .scalar (Char.ofNat n) :: pieces rest := by
  cases h with
  | one hb =>
    rw [List.singleton_append, pieces_cons, start_one hb]
    rfl
  | two hb hn h₁ hi =>
    rw [List.cons_append, List.singleton_append, pieces_cons, start_two hb hn.1 hn.2]
    exact piecesFrom_last h₁ (tail_mem h₁ hi).1 (tail_mem h₁ hi).2 rest
  | three hb hn h₁ hi hlow hhigh h₂ hj =>
    rw [List.cons_append, List.cons_append, List.singleton_append, pieces_cons, start_three hb hn]
    have hsecond := second_of_three_mem h₁ hi hlow hhigh
    exact (piecesFrom_more h₁ hsecond.1 hsecond.2 _).trans
      (piecesFrom_last h₂ (tail_mem h₂ hj).1 (tail_mem h₂ hj).2 rest)
  | four hb hn h₁ hi hlow hhigh h₂ hj h₃ hk =>
    rw [List.cons_append, List.cons_append, List.cons_append, List.singleton_append, pieces_cons,
      start_four hb hn]
    have hsecond := second_of_four_mem h₁ hi hlow hhigh
    exact (piecesFrom_more h₁ hsecond.1 hsecond.2 _).trans
      ((piecesFrom_more h₂ (tail_mem h₂ hj).1 (tail_mem h₂ hj).2 _).trans
        (piecesFrom_last h₃ (tail_mem h₃ hk).1 (tail_mem h₃ hk).2 rest))

end Sequence

theorem exists_sequence_of_isValidChar (h : n.isValidChar) : ∃ bs, Sequence n bs := by
  have htoNat {m : Nat} (hm : m < 256) : (UInt8.ofNat m).toNat = m := by
    rw [UInt8.toNat_ofNat', Nat.mod_eq_of_lt hm]
  unfold Nat.isValidChar at h
  by_cases h1 : n < 0x80
  · have hseq := Sequence.one (b := UInt8.ofNat n) (by rw [htoNat (by omega)]; exact h1)
    rw [htoNat (by omega)] at hseq
    exact ⟨_, hseq⟩
  by_cases h2 : n < 0x800
  · have hseq := Sequence.two (htoNat (m := 0xC0 + n / 64) (by omega)) (by omega)
      (htoNat (m := 0x80 + n % 64) (by omega)) (by omega)
    exact ⟨_, (show n / 64 * 64 + n % 64 = n by omega) ▸ hseq⟩
  by_cases h3 : n < 0x10000
  · have hseq := Sequence.three (htoNat (m := 0xE0 + n / 4096) (by omega)) (by omega)
      (htoNat (m := 0x80 + n / 64 % 64) (by omega)) (by omega) (by omega) (by omega)
      (htoNat (m := 0x80 + n % 64) (by omega)) (by omega)
    exact ⟨_, (show (n / 4096 * 64 + n / 64 % 64) * 64 + n % 64 = n by omega) ▸ hseq⟩
  · have hseq := Sequence.four (htoNat (m := 0xF0 + n / 262144) (by omega)) (by omega)
      (htoNat (m := 0x80 + n / 4096 % 64) (by omega)) (by omega) (by omega) (by omega)
      (htoNat (m := 0x80 + n / 64 % 64) (by omega)) (by omega)
      (htoNat (m := 0x80 + n % 64) (by omega)) (by omega)
    exact ⟨_, (show ((n / 262144 * 64 + n / 4096 % 64) * 64 + n / 64 % 64) * 64 + n % 64 = n
      by omega) ▸ hseq⟩

/-- A character is read off its bytes. -/
theorem pieces_utf8EncodeChar_append (c : Char) (rest : Bytes) :
    pieces (String.utf8EncodeChar c ++ rest) = .scalar c :: pieces rest := by
  obtain ⟨bs, hseq⟩ := exists_sequence_of_isValidChar c.valid
  have hc : Char.ofNat c.val.toNat = c := Char.ofNat_toNat c
  have hpieces := hseq.pieces_append rest
  rwa [← hseq.utf8EncodeChar_eq, hc] at hpieces

/-- Where a scalar value is read, there is a sequence. -/
theorem exists_sequence (h : pieces bs = .scalar c :: ps) :
    ∃ n seq rest, Sequence n seq ∧ bs = seq ++ rest := by
  cases bs with
  | nil => cases h
  | cons b bs =>
    rw [pieces_cons] at h
    rcases start_cases b with hb | ⟨n, hb, hn⟩ | ⟨n, hb, hn⟩ | ⟨n, hb, hn⟩ | hb
    · exact ⟨_, [b], bs, .one hb, rfl⟩
    · rw [start_two hb hn.1 hn.2] at h
      obtain ⟨b₁, rest, i, rfl, h₁, hi⟩ := exists_tail_of_piecesFrom_some h
      exact ⟨_, [b, b₁], rest, .two hb hn h₁ hi, rfl⟩
    · rw [start_three hb hn] at h
      obtain ⟨b₁, rest, rfl, hlow, hhigh⟩ := exists_cons_of_piecesFrom_some h
      obtain ⟨i, h₁, hi, hi0, hi13⟩ := exists_second_of_three hlow hhigh
      have h := (piecesFrom_more h₁ hlow hhigh rest).symm.trans h
      obtain ⟨b₂, rest, j, rfl, h₂, hj⟩ := exists_tail_of_piecesFrom_some h
      exact ⟨_, [b, b₁, b₂], rest, .three hb hn h₁ hi hi0 hi13 h₂ hj, rfl⟩
    · rw [start_four hb hn] at h
      obtain ⟨b₁, rest, rfl, hlow, hhigh⟩ := exists_cons_of_piecesFrom_some h
      obtain ⟨i, h₁, hi, hi0, hi4⟩ := exists_second_of_four hlow hhigh
      have h := (piecesFrom_more h₁ hlow hhigh rest).symm.trans h
      obtain ⟨b₂, rest, j, rfl, h₂, hj⟩ := exists_tail_of_piecesFrom_some h
      have h := (piecesFrom_more h₂ (by simp [h₂]) (by simp [h₂]; omega) rest).symm.trans h
      obtain ⟨b₃, rest, k, rfl, h₃, hk⟩ := exists_tail_of_piecesFrom_some h
      exact ⟨_, [b, b₁, b₂, b₃], rest, .four hb hn h₁ hi hi0 hi4 h₂ hj h₃ hk, rfl⟩
    · rw [hb] at h
      cases h

/-! ## Texts -/

/-- A byte completes a piece or leaves a sequence begun. -/
theorem start_ne_nil_or (b : UInt8) : (start b).1 ≠ [] ∨ ∃ p, (start b).2 = some p := by
  rcases start_cases b with hb | ⟨n, hb, hn⟩ | ⟨n, hb, hn⟩ | ⟨n, hb, hn⟩ | hb
  · rw [start_one hb]
    exact .inl (List.cons_ne_nil _ _)
  · rw [start_two hb hn.1 hn.2]
    exact .inr ⟨_, rfl⟩
  · rw [start_three hb hn]
    exact .inr ⟨_, rfl⟩
  · rw [start_four hb hn]
    exact .inr ⟨_, rfl⟩
  · rw [hb]
    exact .inl (List.cons_ne_nil _ _)

theorem feed_ne_nil_or (s : State) (b : UInt8) :
    (feed s b).1 ≠ [] ∨ ∃ p, (feed s b).2 = some p := by
  cases s with
  | none => exact start_ne_nil_or b
  | some p =>
    unfold feed
    dsimp only
    split_ifs
    · exact .inl (List.cons_ne_nil _ _)
    · exact .inr ⟨_, rfl⟩
    · exact .inl (List.cons_ne_nil _ _)

/-- No byte is lost: a text that is not empty has a piece. -/
theorem piecesFrom_ne_nil {s : State} {bs : Bytes} (h : s.isSome ∨ bs ≠ []) :
    piecesFrom s bs ≠ [] := by
  induction bs generalizing s with
  | nil =>
    obtain ⟨p, rfl⟩ := Option.isSome_iff_exists.1 (h.resolve_right fun hbs => hbs rfl)
    simp [finish]
  | cons b bs ih =>
    rw [piecesFrom_cons]
    rcases feed_ne_nil_or s b with hps | ⟨p, hp⟩
    · simp [hps]
    · have hrest : piecesFrom (feed s b).2 bs ≠ [] := ih (.inl (by rw [hp]; rfl))
      simp [hrest]

/-- The pieces are scalar values alone if and only if the bytes are those of their characters. -/
theorem pieces_eq_map_scalar_iff {cs : List Char} :
    pieces bs = cs.map .scalar ↔ bs = cs.flatMap String.utf8EncodeChar := by
  induction cs generalizing bs with
  | nil =>
    constructor
    · intro h
      cases bs with
      | nil => rfl
      | cons b bs => exact absurd h (piecesFrom_ne_nil (.inr (List.cons_ne_nil b bs)))
    · rintro rfl
      rfl
  | cons c cs ih =>
    rw [List.map_cons, List.flatMap_cons]
    constructor
    · intro h
      obtain ⟨n, seq, rest, hseq, rfl⟩ := exists_sequence h
      rw [hseq.pieces_append] at h
      obtain ⟨hc, hrest⟩ := List.cons.inj h
      rw [← Piece.scalar.inj hc, hseq.utf8EncodeChar_eq, ih.1 hrest]
    · rintro rfl
      rw [pieces_utf8EncodeChar_append, ih.2 rfl]

theorem firstFault_eq_none_iff {offset : Nat} :
    firstFault offset ps = none ↔ ∃ cs : List Char, ps = cs.map .scalar := by
  constructor
  · intro h
    induction ps generalizing offset with
    | nil => exact ⟨[], rfl⟩
    | cons p ps ih =>
      cases p with
      | scalar c =>
        obtain ⟨cs, rfl⟩ := ih h
        exact ⟨c :: cs, rfl⟩
      | malformed k => cases h
      | cut k => cases h
  · rintro ⟨cs, rfl⟩
    induction cs generalizing offset with
    | nil => rfl
    | cons c cs ih => exact ih

/-- **Reading and writing are inverse to each other.** -/
theorem decode_eq_ok_iff {s : String} : decode bs = .ok s ↔ bs = encode s := by
  have hchars (cs : List Char) : (cs.map Piece.scalar).map Piece.toChar = cs := by
    rw [List.map_map]
    exact List.map_id cs
  rw [encode, ← pieces_eq_map_scalar_iff]
  constructor
  · intro h
    rw [decode] at h
    split at h
    · rename_i hfault
      obtain ⟨cs, hcs⟩ := firstFault_eq_none_iff.1 hfault
      rw [hcs, hchars] at h
      rw [← Except.ok.inj h, hcs, String.toList_ofList]
    · cases h
  · intro h
    have hfault : firstFault 0 (pieces bs) = none := firstFault_eq_none_iff.2 ⟨_, h⟩
    rw [decode, hfault]
    dsimp only
    rw [h, hchars, String.ofList_toList]

end TapeC.Utf8
