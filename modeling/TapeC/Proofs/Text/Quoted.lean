import Mathlib.Data.List.Basic
import TapeC.Text.Quoted

/-!
# Reading quoted text back

**Theorem (`Text.unquote?_quote`).** A quoted text is read as the text, whatever its characters are.

A character is read off its quoted form, whatever follows (`unquoteInside?_quoteChar_append`), so
the inside of the quotes is read from its beginning on. A code point is read digit by digit
(`readCodePoint?_toDigits_append`): the value so far is that of the digits so far.

A quoted text stands in one line (`linefeed_not_mem_quote`).
-/

namespace TapeC.Text

/-! ## Hexadecimal digits -/

theorem hexValue?_digitChar {d : Nat} (h : d < 16) : hexValue? d.digitChar = some d := by
  revert d
  decide

theorem digitChar_ne_brace {d : Nat} (h : d < 16) : d.digitChar ≠ '\x7d' := by
  revert d
  decide

theorem digitChar_ne_linefeed {d : Nat} (h : d < 16) : d.digitChar ≠ '\n' := by
  revert d
  decide

theorem readCodePoint?_digitChar_cons {d : Nat} (h : d < 16) (value : Nat) (cs : List Char) :
    readCodePoint? value (d.digitChar :: cs) = readCodePoint? (16 * value + d) cs := by
  rw [readCodePoint?, if_neg (digitChar_ne_brace h), hexValue?_digitChar h, Option.bind_some]

/-- The digits of a number are read as the number. -/
theorem readCodePoint?_toDigits_append (n : Nat) (cs : List Char) :
    readCodePoint? 0 (Nat.toDigits 16 n ++ cs) = readCodePoint? n cs := by
  induction n using Nat.strongRecOn generalizing cs with
  | ind n ih =>
    by_cases h : n < 16
    · rw [Nat.toDigits_of_lt_base h, List.singleton_append, readCodePoint?_digitChar_cons h,
        Nat.mul_zero, Nat.zero_add]
    · have hdigit : n % 16 < 16 := Nat.mod_lt n (by decide)
      rw [Nat.toDigits_of_base_le (by decide) (Nat.le_of_not_lt h), List.append_assoc,
        ih (n / 16) (by omega), List.singleton_append, readCodePoint?_digitChar_cons hdigit,
        Nat.div_add_mod]

theorem exists_digitChar_of_mem_toDigits {n : Nat} {c : Char} (h : c ∈ Nat.toDigits 16 n) :
    ∃ d < 16, c = d.digitChar := by
  induction n using Nat.strongRecOn with
  | ind n ih =>
    by_cases hn : n < 16
    · rw [Nat.toDigits_of_lt_base hn, List.mem_singleton] at h
      exact ⟨n, hn, h⟩
    · rw [Nat.toDigits_of_base_le (by decide) (Nat.le_of_not_lt hn), List.mem_append,
        List.mem_singleton] at h
      rcases h with h | h
      · exact ih (n / 16) (by omega) h
      · exact ⟨n % 16, Nat.mod_lt n (by decide), h⟩

/-! ## Characters -/

theorem unquoteInside?_codePointEscape_append (c : Char) (cs : List Char) :
    unquoteInside? (codePointEscape c ++ cs) = (unquoteInside? cs).map (c :: ·) := by
  have hread : readCodePoint? 0 (Nat.toDigits 16 c.toNat ++ '\x7d' :: cs) = some (c, cs) := by
    rw [readCodePoint?_toDigits_append, readCodePoint?, if_pos rfl, Char.ofNat_toNat]
  have hlist : codePointEscape c ++ cs =
      '\\' :: 'u' :: '\x7b' :: (Nat.toDigits 16 c.toNat ++ '\x7d' :: cs) := by
    simp [codePointEscape]
  rw [hlist, unquoteInside?]
  split
  · rename_i hnone
    rw [hread] at hnone
    cases hnone
  · rename_i d rest hsome
    rw [hread] at hsome
    obtain ⟨rfl, rfl⟩ := Prod.mk.inj (Option.some.inj hsome)
    rfl

/-- A character with an escape of one letter. -/
theorem unquoteInside?_escape_cons {e c : Char} (h : escapedChar? e = some c) (cs : List Char) :
    unquoteInside? ('\\' :: e :: cs) = (unquoteInside? cs).map (c :: ·) := by
  have hu : e ≠ 'u' := by
    rintro rfl
    cases h
  rw [unquoteInside?]
  · rw [h]
  · intro rest he
    exact absurd he hu

theorem unquoteInside?_cons {c : Char} (hquote : c ≠ '"') (hbackslash : c ≠ '\\')
    (cs : List Char) : unquoteInside? (c :: cs) = (unquoteInside? cs).map (c :: ·) := by
  rw [unquoteInside?]
  · have hstop : (decide (c = '"') || decide (c = '\\')) = false := by
      simp [hquote, hbackslash]
    rw [hstop, if_neg Bool.false_ne_true]
  · exact fun h _ => hquote h
  · exact fun _ h _ => hbackslash h
  · exact fun _ _ h _ => hbackslash h

/-- **A character is read off its quoted form.** -/
theorem unquoteInside?_quoteChar_append (c : Char) (cs : List Char) :
    unquoteInside? (quoteChar c ++ cs) = (unquoteInside? cs).map (c :: ·) := by
  unfold quoteChar
  split_ifs with h0 ht hn hr hq hb hescape
  · exact unquoteInside?_escape_cons (by rw [h0]; rfl) cs
  · exact unquoteInside?_escape_cons (by rw [ht]; rfl) cs
  · exact unquoteInside?_escape_cons (by rw [hn]; rfl) cs
  · exact unquoteInside?_escape_cons (by rw [hr]; rfl) cs
  · exact unquoteInside?_escape_cons (by rw [hq]; rfl) cs
  · exact unquoteInside?_escape_cons (by rw [hb]; rfl) cs
  · exact unquoteInside?_codePointEscape_append c cs
  · exact unquoteInside?_cons hq hb cs

/-! ## Texts -/

theorem unquoteInside?_flatMap_quoteChar (cs : List Char) :
    unquoteInside? (cs.flatMap quoteChar ++ ['"']) = some cs := by
  induction cs with
  | nil => rw [List.flatMap_nil, List.nil_append, unquoteInside?]
  | cons c cs ih =>
    rw [List.flatMap_cons, List.append_assoc, unquoteInside?_quoteChar_append, ih, Option.map_some]

/-- **Reading and quoting are inverse to each other.** -/
theorem unquote?_quote (s : String) : unquote? (quote s) = some s := by
  have hquote : (quote s).toList = '"' :: (s.toList.flatMap quoteChar ++ ['"']) := by
    rw [quote, String.toList_ofList, List.cons_append]
  rw [unquote?, hquote]
  change (unquoteInside? (s.toList.flatMap quoteChar ++ ['"'])).map String.ofList = some s
  rw [unquoteInside?_flatMap_quoteChar, Option.map_some, String.ofList_toList]

theorem linefeed_not_mem_quoteChar (c : Char) : '\n' ∉ quoteChar c := by
  unfold quoteChar
  split_ifs with h0 ht hn hr hq hb hescape
  · decide
  · decide
  · decide
  · decide
  · decide
  · decide
  · intro h
    simp only [codePointEscape, List.mem_append, List.mem_cons, List.not_mem_nil, or_false] at h
    rcases h with (h | h) | h
    · revert h
      decide
    · obtain ⟨d, hd, heq⟩ := exists_digitChar_of_mem_toDigits h
      exact digitChar_ne_linefeed hd heq.symm
    · revert h
      decide
  · intro h
    exact hn (List.mem_singleton.1 h).symm

theorem linefeed_not_mem_quote (s : String) : '\n' ∉ (quote s).toList := by
  intro h
  simp only [quote, String.toList_ofList, List.mem_append, List.mem_cons, List.mem_flatMap,
    List.not_mem_nil, or_false] at h
  rcases h with (h | ⟨c, -, h⟩) | h
  · revert h
    decide
  · exact linefeed_not_mem_quoteChar c h
  · revert h
    decide

end TapeC.Text
