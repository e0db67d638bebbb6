import Mathlib.Data.List.Basic
import Mathlib.Data.List.Induction
import TapeC.Host.Path
import TapeC.Proofs.Text.Lossy

/-!
# The extension and the bytes of a path

A path is asked for its extension as it is shown, and that is a lossy reading of its bytes.

**Theorem (`Path.hasCExtension_iff`).** A path is shown with the extension if and only if its bytes
end with those of the extension, whatever stands before them.

**Theorem (`Path.withCExtension_exact`).** So the extension is appended to the bytes if and only
if they do not end with it, and nothing else happens to them. In particular malformed bytes stay
as they are, although they are shown as other characters.

More is true: a lossy reading ends with some ASCII characters if and only if the bytes end with
them (`suffix_decodeLossy_iff`). An ASCII byte never belongs to a longer sequence. If it comes in
the middle of one, it breaks it off, and is read as itself (`map_toChar_piecesFrom_append`). And
if the last byte is no ASCII byte, then what is read last is no ASCII character. For this one has
to know of a sequence that has begun that it will not come to a value as small as that (`IsLong`).
-/

namespace TapeC

namespace Utf8

variable {s : State} {p : Partial} {b : UInt8} {bs : Bytes} {c : Char}

/-! ## Sequences that have begun -/

/-- The bytes that go on with the sequence are no ASCII bytes, and the value that it comes to is no
ASCII character. -/
structure IsLong (p : Partial) : Prop where
  low_ge : 0x80 ≤ p.low.toNat
  bits_ge : 2 ≤ p.bits * 64 + (p.low.toNat - 0x80)
  value_ge : p.owed ≤ 1 → 0x80 ≤ p.bits * 64 + (p.low.toNat - 0x80)

theorem isLong_start (b : UInt8) : ∀ p ∈ (start b).2, IsLong p := by
  intro p hp
  rcases start_cases b with hb | ⟨n, hb, hlow, hhigh⟩ | ⟨n, hb, hn⟩ | ⟨n, hb, hn⟩ | hb
  · rw [start_one hb] at hp
    cases hp
  · rw [start_two hb hlow hhigh] at hp
    obtain rfl := Option.some.inj hp
    constructor <;> simp only [UInt8.reduceToNat] <;> omega
  · rw [start_three hb hn] at hp
    obtain rfl := Option.some.inj hp
    constructor <;> split_ifs <;> simp only [UInt8.reduceToNat] <;> omega
  · rw [start_four hb hn] at hp
    obtain rfl := Option.some.inj hp
    constructor <;> split_ifs <;> simp only [UInt8.reduceToNat] <;> omega
  · rw [hb] at hp
    cases hp

theorem isLong_feed (hs : ∀ p ∈ s, IsLong p) (b : UInt8) : ∀ p ∈ (feed s b).2, IsLong p := by
  cases s with
  | none => exact isLong_start b
  | some q =>
    have hq := hs q rfl
    by_cases hin : q.low.toNat ≤ b.toNat ∧ b.toNat ≤ q.high.toNat
    · have hbits := hq.bits_ge
      intro p hp
      rw [feed_some hin.1 hin.2] at hp
      split_ifs at hp
      · cases hp
      · obtain rfl := Option.some.inj hp
        constructor <;> simp only [UInt8.reduceToNat] <;> omega
    · rw [feed_some_of_not_mem hin]
      exact isLong_start b

/-! ## ASCII bytes -/

/-- An ASCII byte is read as itself. A sequence that it comes in the middle of is shown as it would
be at the end of the text. -/
theorem feed_ascii (hs : ∀ p ∈ s, IsLong p) (hb : b.toNat < 0x80) :
    (feed s b).1.map Piece.toChar = (finish s).map Piece.toChar ++ [Char.ofNat b.toNat] ∧
      (feed s b).2 = none := by
  cases s with
  | none =>
    rw [feed, start_one hb]
    exact ⟨rfl, rfl⟩
  | some p =>
    have hlow := (hs p rfl).low_ge
    rw [feed_some_of_not_mem (by omega), start_one hb]
    exact ⟨rfl, rfl⟩

theorem map_toChar_piecesFrom_append (hs : ∀ p ∈ s, IsLong p) (hb : b.toNat < 0x80)
    (bs rest : Bytes) :
    (piecesFrom s (bs ++ b :: rest)).map Piece.toChar =
      (piecesFrom s bs).map Piece.toChar ++
        Char.ofNat b.toNat :: (pieces rest).map Piece.toChar := by
  induction bs generalizing s with
  | nil =>
    obtain ⟨hchars, hstate⟩ := feed_ascii hs hb
    rw [List.nil_append, piecesFrom_cons, hstate, List.map_append, hchars, piecesFrom_nil,
      List.append_assoc]
    rfl
  | cons a bs ih =>
    rw [List.cons_append, piecesFrom_cons, List.map_append, ih (isLong_feed hs a),
      piecesFrom_cons, List.map_append, List.append_assoc]

theorem toList_decodeLossy_concat (hb : b.toNat < 0x80) (bs : Bytes) :
    (decodeLossy (bs ++ [b])).toList = (decodeLossy bs).toList ++ [Char.ofNat b.toNat] := by
  rw [decodeLossy, decodeLossy, String.toList_ofList, String.toList_ofList]
  exact map_toChar_piecesFrom_append (fun p hp => by cases hp) hb bs []

/-! ## Other bytes -/

/-- An ASCII character other than that of number zero, which no path has. -/
def IsAscii (c : Char) : Prop := 0 < c.toNat ∧ c.toNat < 0x80

theorem toNat_charOfNat (n : Nat) : (Char.ofNat n).toNat = if n.isValidChar then n else 0 := by
  split_ifs with h
  · exact val_ofNat h
  · rw [Char.ofNat, dif_neg h]
    rfl

theorem not_isAscii_ofNat {n : Nat} (h : 0x80 ≤ n) : ¬IsAscii (Char.ofNat n) := by
  unfold IsAscii
  rw [toNat_charOfNat]
  split_ifs <;> omega

theorem not_isAscii_replacement : ¬IsAscii '\uFFFD' := by
  unfold IsAscii
  decide

theorem not_isAscii_of_mem_start (hb : 0x80 ≤ b.toNat) :
    ∀ q ∈ (start b).1, ¬IsAscii q.toChar := by
  intro q hq
  rcases start_cases b with h | ⟨n, h, hlow, hhigh⟩ | ⟨n, h, hn⟩ | ⟨n, h, hn⟩ | h
  · omega
  · rw [start_two h hlow hhigh] at hq
    cases hq
  · rw [start_three h hn] at hq
    cases hq
  · rw [start_four h hn] at hq
    cases hq
  · rw [h] at hq
    obtain rfl := List.mem_singleton.1 hq
    exact not_isAscii_replacement

theorem not_isAscii_of_mem_feed (hs : ∀ p ∈ s, IsLong p) (hb : 0x80 ≤ b.toNat) :
    ∀ q ∈ (feed s b).1, ¬IsAscii q.toChar := by
  cases s with
  | none => exact not_isAscii_of_mem_start hb
  | some p =>
    have hp := hs p rfl
    intro q hq
    by_cases hin : p.low.toNat ≤ b.toNat ∧ b.toNat ≤ p.high.toNat
    · rw [feed_some hin.1 hin.2] at hq
      split_ifs at hq with howed
      · obtain rfl := List.mem_singleton.1 hq
        have hvalue := hp.value_ge howed
        exact not_isAscii_ofNat (by omega)
      · cases hq
    · rw [feed_some_of_not_mem hin] at hq
      rcases List.mem_cons.1 hq with rfl | hq
      · exact not_isAscii_replacement
      · exact not_isAscii_of_mem_start hb q hq

theorem not_isAscii_of_mem_finish : ∀ q ∈ finish s, ¬IsAscii q.toChar := by
  cases s with
  | none => simp [finish]
  | some p =>
    intro q hq
    obtain rfl := List.mem_singleton.1 hq
    exact not_isAscii_replacement

/-- After a byte that is no ASCII byte, the text does not end with an ASCII character. -/
theorem not_isAscii_of_getLast? (hs : ∀ p ∈ s, IsLong p) (hb : 0x80 ≤ b.toNat) (bs : Bytes) :
    ∀ q ∈ (piecesFrom s (bs ++ [b])).getLast?, ¬IsAscii q.toChar := by
  induction bs generalizing s with
  | nil =>
    intro q hq
    rw [List.nil_append, piecesFrom_cons, piecesFrom_nil] at hq
    rcases List.mem_append.1 (List.mem_of_getLast? hq) with hq | hq
    · exact not_isAscii_of_mem_feed hs hb q hq
    · exact not_isAscii_of_mem_finish q hq
  | cons a bs ih =>
    intro q hq
    have hne : piecesFrom (feed s a).2 (bs ++ [b]) ≠ [] := piecesFrom_ne_nil (.inr (by simp))
    rw [List.cons_append, piecesFrom_cons, List.getLast?_append, List.getLast?_eq_some_getLast hne,
      Option.some_or, ← List.getLast?_eq_some_getLast hne] at hq
    exact ih (isLong_feed hs a) q hq

/-! ## ASCII at the end -/

/-- A lossy reading ends with an ASCII character if and only if the last byte is that character. -/
theorem toList_decodeLossy_eq_concat_iff (hc : IsAscii c) {cs : List Char} :
    (decodeLossy bs).toList = cs ++ [c] ↔
      ∃ init, bs = init ++ [UInt8.ofNat c.toNat] ∧ (decodeLossy init).toList = cs := by
  have hbyte : (UInt8.ofNat c.toNat).toNat = c.toNat := by
    rw [UInt8.toNat_ofNat', Nat.mod_eq_of_lt (by have := hc.2; omega)]
  constructor
  · intro h
    rcases List.eq_nil_or_concat' bs with rfl | ⟨init, b, rfl⟩
    · simp [decodeLossy, pieces, finish] at h
    by_cases hb : b.toNat < 0x80
    · rw [toList_decodeLossy_concat hb] at h
      obtain ⟨hcs, hlast⟩ := List.append_inj' h rfl
      have hvalid : b.toNat.isValidChar := .inl (by omega)
      refine ⟨init, ?_, hcs⟩
      rw [← List.singleton_inj.1 hlast, toNat_charOfNat, if_pos hvalid, UInt8.ofNat_toNat]
    · -- The last piece would have to be the character.
      rw [decodeLossy, String.toList_ofList] at h
      have hlast : ((pieces (init ++ [b])).getLast?).map Piece.toChar = some c := by
        rw [← List.getLast?_map, h, List.getLast?_concat]
      obtain ⟨q, hq, rfl⟩ := Option.map_eq_some_iff.1 hlast
      exact absurd hc (not_isAscii_of_getLast? (fun p hp => by cases hp) (by omega) init q hq)
  · rintro ⟨init, rfl, rfl⟩
    have hlt : (UInt8.ofNat c.toNat).toNat < 0x80 := by rw [hbyte]; exact hc.2
    rw [toList_decodeLossy_concat hlt, hbyte, Char.ofNat_toNat]

/-- **ASCII at the end of a lossy reading.** -/
theorem suffix_decodeLossy_iff {cs : List Char} (hcs : ∀ c ∈ cs, IsAscii c) :
    cs <:+ (decodeLossy bs).toList ↔ cs.map (fun c => UInt8.ofNat c.toNat) <:+ bs := by
  induction cs using List.reverseRecOn generalizing bs with
  | nil => simp
  | append_singleton cs c ih =>
    have hc := hcs c (by simp)
    have hcs' : ∀ d ∈ cs, IsAscii d := fun d hd => hcs d (List.mem_append_left _ hd)
    rw [List.map_append, List.map_singleton]
    constructor
    · rintro ⟨init, hinit⟩
      rw [← List.append_assoc, eq_comm, toList_decodeLossy_eq_concat_iff hc] at hinit
      obtain ⟨before, rfl, hbefore⟩ := hinit
      obtain ⟨front, rfl⟩ := (ih hcs').1 ⟨init, hbefore.symm⟩
      exact ⟨front, by rw [List.append_assoc]⟩
    · rintro ⟨front, rfl⟩
      obtain ⟨init, hinit⟩ := (ih hcs').2
        (List.suffix_append front (cs.map fun c => UInt8.ofNat c.toNat))
      refine ⟨init, ?_⟩
      rw [← List.append_assoc, ← List.append_assoc, eq_comm, toList_decodeLossy_eq_concat_iff hc]
      exact ⟨_, rfl, hinit.symm⟩

end Utf8

namespace Path

/-! ## The extension -/

theorem encode_cExtension :
    Utf8.encode cExtension = cExtension.toList.map fun c => UInt8.ofNat c.toNat := by decide

/-- **The shown extension is that of the bytes.** -/
theorem hasCExtension_iff (p : Path) : p.hasCExtension ↔ Utf8.encode cExtension <:+ p.bytes := by
  rw [hasCExtension, List.isSuffixOf_iff_suffix, encode_cExtension, display]
  refine Utf8.suffix_decodeLossy_iff fun c hc => ?_
  have hchars : cExtension.toList = ['.', 'c'] := by decide
  rw [hchars] at hc
  unfold Utf8.IsAscii
  rcases List.mem_pair.1 hc with rfl | rfl <;> decide

/-- Appending the extension by hand makes no difference. -/
theorem withCExtension_append {p : Path} (h : ¬Utf8.encode cExtension <:+ p.bytes) :
    (⟨p.bytes ++ Utf8.encode cExtension⟩ : Path).withCExtension = p.withCExtension := by
  have hlong : (⟨p.bytes ++ Utf8.encode cExtension⟩ : Path).hasCExtension :=
    (hasCExtension_iff _).2 (List.suffix_append _ _)
  rw [← hasCExtension_iff] at h
  rw [withCExtension, if_pos hlong, withCExtension, if_neg h]

theorem encode_cExtension_eq : Utf8.encode cExtension = [0x2E, 0x63] := by decide

theorem bytes_withCExtension (p : Path) :
    p.withCExtension.bytes =
      if [0x2E, 0x63] <:+ p.bytes then p.bytes else p.bytes ++ [0x2E, 0x63] := by
  have hiff := p.hasCExtension_iff
  rw [encode_cExtension_eq] at hiff
  rw [withCExtension, encode_cExtension_eq]
  split_ifs with h h' h'
  · rfl
  · exact absurd (hiff.1 h) h'
  · exact absurd (hiff.2 h') h
  · rfl

theorem suffix_bytes_withCExtension (p : Path) : [0x2E, 0x63] <:+ p.withCExtension.bytes := by
  rw [bytes_withCExtension]
  split_ifs with h
  · exact h
  · exact List.suffix_append _ _

/-- **The extension is exact.** The path is shown by its one lossy reading, and only that is
asked. -/
theorem withCExtension_exact (p : Path) :
    (∀ cs, Utf8.IsLossyReading p.bytes cs ↔ cs = p.display.toList) ∧
      (['.', 'c'] <:+ p.display.toList ↔ [0x2E, 0x63] <:+ p.bytes) ∧
      p.withCExtension.bytes =
        (if [0x2E, 0x63] <:+ p.bytes then p.bytes else p.bytes ++ [0x2E, 0x63]) ∧
      [0x2E, 0x63] <:+ p.withCExtension.bytes ∧
      p.bytes <+: p.withCExtension.bytes ∧
      p.withCExtension.withCExtension = p.withCExtension := by
  refine ⟨fun cs => Utf8.isLossyReading_iff.trans eq_comm, ?_, p.bytes_withCExtension,
    p.suffix_bytes_withCExtension, ?_, ?_⟩
  · have hiff := p.hasCExtension_iff
    rwa [hasCExtension, List.isSuffixOf_iff_suffix, encode_cExtension_eq] at hiff
  · rw [bytes_withCExtension]
    split_ifs
    · exact List.prefix_rfl
    · exact List.prefix_append _ _
  · have hsuffix := p.suffix_bytes_withCExtension
    rw [← encode_cExtension_eq, ← hasCExtension_iff] at hsuffix
    rw [withCExtension, if_pos hsuffix]

/-- A sequence that the extension breaks off, and a byte that begins none. -/
example :
    (⟨[0xE2, 0x82, 0xFF, 0x2E, 0x63]⟩ : Path).display.toList = ['\uFFFD', '\uFFFD', '.', 'c'] := by
  decide

end Path

end TapeC
