import TapeC.Proofs.Lexer.Steps
import TapeC.Token.Canonical

/-!
# Tokenizations

A *tokenization* of a text is a list of tokens with their places that leaves nothing of the text
out but blanks, and that says of each place no more than the text does. This says nothing about
how a text is read, and yet there is one tokenization only.

**Theorem (`isTokenization_iff`).** The tokenization of a text is the list of its tokens.

The conditions are stated from a place on (`IsTokenization cs n`), so that the text can stay the
same while the list gets shorter. Three lemmas follow the three steps of the lexer: blanks are
passed over (`isTokenization_skip`), an instruction is a token (`isTokenization_instruction`), and
so is what stands before the next instruction, without the blanks at its end
(`isTokenization_comment`): if it were cut short, the next token would have to be a comment too.
-/

namespace TapeC

/-- A token with the place of its first character in a text. -/
structure Placed where
  place : Nat
  token : Token
deriving DecidableEq

/-- The place after the token. -/
def Placed.stop (t : Placed) : Nat := t.place + t.token.text.length

/-- A token by its place alone. -/
def Located.placed (t : Located) : Placed := ⟨t.position.offset, t.token⟩

namespace Token

/-- The tokens are all that the text has to say from place `n` on. -/
structure IsTokenization (cs : List Char) (n : Nat) (ts : List Placed) : Prop where
  le_place : ∀ t ∈ ts, n ≤ t.place
  /-- A token's text is what stands at its place. -/
  slice : ∀ t ∈ ts, (cs.drop t.place).take t.token.text.length = t.token.text.toList
  /-- Tokens follow each other and do not overlap. -/
  apart : ts.Pairwise fun t u => t.stop ≤ u.place
  /-- What belongs to no token is blank. -/
  blank : ∀ i c, n ≤ i → cs[i]? = some c → (∀ t ∈ ts, ¬(t.place ≤ i ∧ i < t.stop)) →
    Text.isBlank c = true
  /-- An instruction character is a token of its own. -/
  instruction : ∀ (i : Nat) (k : Instruction), n ≤ i → cs[i]? = some k.toChar →
    ⟨i, .instruction k⟩ ∈ ts
  comments : ∀ t ∈ ts, ∀ text, t.token = .comment text → IsCommentText text.toList
  isChain : ts.IsChain fun t u => ¬(t.token.isComment ∧ u.token.isComment)

variable {cs xs rest : List Char} {n m : Nat} {t : Placed} {ts us : List Placed}

/-! ## Places -/

/-- What stands in a part of a text, by places of the text. -/
theorem mem_drop_iff (hcs : cs.drop n = xs ++ rest) (k : Nat) {d : Char} :
    d ∈ xs.drop k ↔ ∃ i, n + k ≤ i ∧ i < n + xs.length ∧ cs[i]? = some d := by
  have hget : ∀ j < xs.length, cs[n + j]? = xs[j]? := fun j hj => by
    rw [← List.getElem?_drop, hcs, List.getElem?_append_left hj]
  rw [List.mem_iff_getElem?]
  constructor
  · rintro ⟨j, hj⟩
    rw [List.getElem?_drop] at hj
    have hlt := (List.getElem?_eq_some_iff.1 hj).1
    exact ⟨n + (k + j), by omega, by omega, by rw [hget _ hlt, hj]⟩
  · rintro ⟨i, hi, him, hd⟩
    refine ⟨i - n - k, ?_⟩
    rw [List.getElem?_drop, ← hget _ (by omega), ← hd]
    congr 1
    omega

theorem drop_add_length (hcs : cs.drop n = xs ++ rest) : cs.drop (n + xs.length) = rest := by
  rw [← List.drop_drop, hcs, List.drop_left]

/-! ## Blank ends -/

theorem take_length_trimEnd (xs : List Char) :
    xs.take (Text.trimEnd xs).length = Text.trimEnd xs := by
  obtain ⟨bs, hbs, -⟩ := Text.exists_eq_trimEnd_append xs
  generalize Text.trimEnd xs = cut at hbs ⊢
  rw [hbs, List.take_left]

theorem isBlank_of_mem_drop_trimEnd {xs : List Char} {d : Char}
    (h : d ∈ xs.drop (Text.trimEnd xs).length) : Text.isBlank d = true := by
  obtain ⟨bs, hbs, hblank⟩ := Text.exists_eq_trimEnd_append xs
  generalize Text.trimEnd xs = cut at hbs h
  rw [hbs, List.drop_left] at h
  exact hblank d h

theorem length_trimEnd_le (xs : List Char) : (Text.trimEnd xs).length ≤ xs.length := by
  rw [← take_length_trimEnd xs]
  exact List.length_take_le' _ _

theorem isCommentText_trimEnd {c : Char} {body : List Char} (head : Text.isBlank c = false)
    (text : ∀ d ∈ c :: body, isInstructionChar d = false) :
    IsCommentText (Text.trimEnd (c :: body)) := by
  obtain ⟨bs, hbs, hblank⟩ := Text.exists_eq_trimEnd_append (c :: body)
  obtain ⟨d, rest, hcut⟩ : ∃ d rest, Text.trimEnd (c :: body) = d :: rest := by
    refine List.exists_cons_of_ne_nil fun hnil => ?_
    rw [hnil, List.nil_append] at hbs
    rw [hblank c (hbs ▸ List.mem_cons_self)] at head
    cases head
  obtain rfl : c = d := by
    rw [hcut] at hbs
    exact (List.cons.inj hbs).1
  refine ⟨by simp [hcut], fun d hd => text d ?_, fun d hd => ?_, fun d hd => ?_⟩
  · rw [hbs]
    exact List.mem_append_left _ hd
  · rw [hcut] at hd
    obtain rfl := Option.some.inj hd
    exact head
  · rw [Text.trimEnd, List.getLast?_reverse] at hd
    exact Lexer.head?_dropWhile hd

/-! ## Single tokens -/

namespace IsTokenization

theorem getElem?_eq (h : IsTokenization cs n ts) (ht : t ∈ ts) {j : Nat}
    (hj : j < t.token.text.length) : cs[t.place + j]? = t.token.text.toList[j]? := by
  rw [← h.slice t ht, List.getElem?_take_of_lt hj, List.getElem?_drop]

/-- A token begins with a character that is not blank, and that says which kind of token it is. -/
theorem exists_head (h : IsTokenization cs n ts) (ht : t ∈ ts) :
    ∃ c, cs[t.place]? = some c ∧ t.place < t.stop ∧ Text.isBlank c = false ∧
      t.token.isComment = !isInstructionChar c := by
  obtain ⟨place, token⟩ := t
  cases token with
  | instruction k =>
    have hc := h.getElem?_eq ht (j := 0) (by simp [text])
    refine ⟨k.toChar, by simpa [text] using hc, by simp [Placed.stop, text], k.isBlank_toChar, ?_⟩
    simp [isComment, isInstructionChar_toChar]
  | comment s =>
    have hs := h.comments _ ht s rfl
    obtain ⟨c, rest, hcut⟩ := List.exists_cons_of_ne_nil hs.ne_nil
    have hlen : 0 < s.length := by rw [← String.length_toList, hcut]; exact Nat.succ_pos _
    have hc := h.getElem?_eq ht (j := 0) hlen
    have hchar := hs.no_instruction c (by rw [hcut]; exact List.mem_cons_self)
    refine ⟨c, by simpa [text, hcut] using hc, by simpa [Placed.stop, text] using hlen,
      hs.head_not_blank c (by rw [hcut]; rfl), by simp [isComment, hchar]⟩

theorem place_lt_stop (h : IsTokenization cs n ts) (ht : t ∈ ts) : t.place < t.stop := by
  obtain ⟨-, -, hlt, -⟩ := h.exists_head ht
  exact hlt

/-- A token at the place itself is the first one. -/
theorem eq_cons (h : IsTokenization cs n ts) (ht : t ∈ ts) (hp : t.place = n) :
    ∃ us, ts = t :: us := by
  cases ts with
  | nil => cases ht
  | cons u us =>
    rcases List.mem_cons.1 ht with rfl | htu
    · exact ⟨us, rfl⟩
    · have hle := h.le_place u List.mem_cons_self
      have hlt := h.place_lt_stop List.mem_cons_self
      have hstop := List.rel_of_pairwise_cons h.apart htu
      omega

theorem tail (h : IsTokenization cs n (t :: us)) (hm : t.stop ≤ m)
    (hus : ∀ u ∈ us, m ≤ u.place) : IsTokenization cs m us where
  le_place := hus
  slice u hu := h.slice u (List.mem_cons_of_mem _ hu)
  apart := h.apart.of_cons
  blank i c hi hc hout := by
    have hle := h.le_place t List.mem_cons_self
    have hlt := h.place_lt_stop List.mem_cons_self
    refine h.blank i c (by omega) hc fun u hu => ?_
    rcases List.mem_cons.1 hu with rfl | hu
    · omega
    · exact hout u hu
  instruction i k hi hc := by
    have hle := h.le_place t List.mem_cons_self
    have hlt := h.place_lt_stop List.mem_cons_self
    rcases List.mem_cons.1 (h.instruction i k (by omega) hc) with heq | hu
    · have := congrArg Placed.place heq
      dsimp only at this
      omega
    · exact hu
  comments u hu := h.comments u (List.mem_cons_of_mem _ hu)
  isChain := h.isChain.tail

/-- A token goes in front of others if it accounts for all that stands before them. -/
theorem cons (h : IsTokenization cs m us) (hn : n ≤ t.place) (hm : t.stop ≤ m)
    (slice : (cs.drop t.place).take t.token.text.length = t.token.text.toList)
    (blank : ∀ i c, n ≤ i → i < m → cs[i]? = some c → ¬(t.place ≤ i ∧ i < t.stop) →
      Text.isBlank c = true)
    (instruction : ∀ (i : Nat) (k : Instruction), n ≤ i → i < m → cs[i]? = some k.toChar →
      (⟨i, .instruction k⟩ : Placed) = t)
    (comments : ∀ text, t.token = .comment text → IsCommentText text.toList)
    (hchain : ∀ u ∈ us.head?, ¬(t.token.isComment ∧ u.token.isComment)) :
    IsTokenization cs n (t :: us) where
  le_place := by
    have hle : t.place ≤ t.stop := Nat.le_add_right _ _
    intro u hu
    rcases List.mem_cons.1 hu with rfl | hu
    · exact hn
    · have := h.le_place u hu
      omega
  slice := List.forall_mem_cons.2 ⟨slice, h.slice⟩
  apart := List.pairwise_cons.2 ⟨fun u hu => hm.trans (h.le_place u hu), h.apart⟩
  blank i c hi hc hout := by
    obtain ⟨ht, hus⟩ := List.forall_mem_cons.1 hout
    rcases Nat.lt_or_ge i m with him | him
    · exact blank i c hi him hc ht
    · exact h.blank i c him hc hus
  instruction i k hi hc := by
    rcases Nat.lt_or_ge i m with him | him
    · rw [instruction i k hi him hc]
      exact List.mem_cons_self
    · exact List.mem_cons_of_mem _ (h.instruction i k him hc)
  comments := List.forall_mem_cons.2 ⟨comments, h.comments⟩
  isChain := List.isChain_cons.2 ⟨hchain, h.isChain⟩

end IsTokenization

/-! ## Steps -/

theorem isTokenization_nil (h : cs.length ≤ n) : IsTokenization cs n ts ↔ ts = [] := by
  constructor
  · intro hts
    cases ts with
    | nil => rfl
    | cons t ts =>
      obtain ⟨c, hc, -⟩ := hts.exists_head List.mem_cons_self
      have hlt := (List.getElem?_eq_some_iff.1 hc).1
      have hle := hts.le_place t List.mem_cons_self
      omega
  · rintro rfl
    have hnone : ∀ i c, n ≤ i → cs[i]? ≠ some c := fun i c hi hc => by
      have := (List.getElem?_eq_some_iff.1 hc).1
      omega
    exact {
      le_place := by simp
      slice := by simp
      apart := .nil
      blank := fun i c hi hc => absurd hc (hnone i c hi)
      instruction := fun i k hi hc => absurd hc (hnone i _ hi)
      comments := by simp
      isChain := .nil }

/-- Blanks belong to no token. -/
theorem isTokenization_skip (hcs : cs.drop n = xs ++ rest)
    (hxs : ∀ c ∈ xs, Text.isBlank c = true) :
    IsTokenization cs n ts ↔ IsTokenization cs (n + xs.length) ts := by
  have hblank : ∀ i c, n ≤ i → i < n + xs.length → cs[i]? = some c → Text.isBlank c = true :=
    fun i c hi him hc => hxs c ((mem_drop_iff hcs 0).2 ⟨i, hi, him, hc⟩)
  constructor
  · intro hts
    refine { hts with le_place := fun t ht => ?_, blank := fun i c hi => hts.blank i c (by omega),
                      instruction := fun i k hi => hts.instruction i k (by omega) }
    obtain ⟨c, hc, -, hhead, -⟩ := hts.exists_head ht
    by_contra hlt
    rw [hblank t.place c (hts.le_place t ht) (by omega) hc] at hhead
    cases hhead
  · intro hts
    refine { hts with le_place := fun t ht => (Nat.le_add_right _ _).trans (hts.le_place t ht),
                      blank := fun i c hi hc hout => ?_, instruction := fun i k hi hc => ?_ }
    · rcases Nat.lt_or_ge i (n + xs.length) with him | him
      · exact hblank i c hi him hc
      · exact hts.blank i c him hc hout
    · rcases Nat.lt_or_ge i (n + xs.length) with him | him
      · have hk := hblank i _ hi him hc
        rw [k.isBlank_toChar] at hk
        cases hk
      · exact hts.instruction i k him hc

theorem isTokenization_instruction {k : Instruction} (hk : cs[n]? = some k.toChar) :
    IsTokenization cs n ts ↔
      ∃ us, ts = ⟨n, .instruction k⟩ :: us ∧ IsTokenization cs (n + 1) us := by
  have hstop : (⟨n, .instruction k⟩ : Placed).stop = n + 1 := by simp [Placed.stop, text]
  constructor
  · intro h
    obtain ⟨us, rfl⟩ := h.eq_cons (h.instruction n k (Nat.le_refl n) hk) rfl
    refine ⟨us, rfl, h.tail (Nat.le_of_eq hstop) fun u hu => ?_⟩
    rw [← hstop]
    exact List.rel_of_pairwise_cons h.apart hu
  · rintro ⟨us, rfl, h⟩
    refine h.cons (Nat.le_refl n) (Nat.le_of_eq hstop) ?_ ?_ ?_ ?_ ?_
    · obtain ⟨hn, hget⟩ := List.getElem?_eq_some_iff.1 hk
      simp [text, List.drop_eq_getElem_cons hn, hget]
    · intro i c hi him hc hout
      exact absurd ⟨hi, by rwa [hstop]⟩ hout
    · intro i k' hi him hc
      obtain rfl : i = n := by omega
      rw [Instruction.toChar_injective (Option.some.inj (hc.symm.trans hk))]
    · intro text htext
      cases htext
    · intro u hu hboth
      cases hboth.1

/-! ## Comments -/

section Comment

variable {s : String}

namespace IsTokenization

/-- A character that is neither blank nor an instruction begins a comment. -/
theorem exists_comment (h : IsTokenization cs n ts) {c : Char} (hc : cs[n]? = some c)
    (head : Text.isBlank c = false) (text : isInstructionChar c = false) :
    ∃ s us, ts = ⟨n, .comment s⟩ :: us := by
  obtain ⟨t, ht, hle, -⟩ : ∃ t ∈ ts, t.place ≤ n ∧ n < t.stop := by
    by_contra hnone
    rw [h.blank n c (Nat.le_refl n) hc fun t ht hin => hnone ⟨t, ht, hin⟩] at head
    cases head
  have hplace : t.place = n := Nat.le_antisymm hle (h.le_place t ht)
  obtain ⟨us, rfl⟩ := h.eq_cons ht hplace
  obtain ⟨d, hd, -, -, hcomment⟩ := h.exists_head ht
  obtain rfl : c = d := by
    rw [hplace, hc] at hd
    exact Option.some.inj hd
  obtain ⟨place, token⟩ := t
  cases token with
  | instruction k => simp [isComment, text] at hcomment
  | comment s => exact ⟨s, us, by rw [← hplace]⟩

/-- A comment ends before the next instruction. -/
theorem length_comment_le (h : IsTokenization cs n (⟨n, .comment s⟩ :: us))
    (hcs : cs.drop n = xs ++ rest)
    (stop : ∀ d, rest.head? = some d → isInstructionChar d = true) : s.length ≤ xs.length := by
  have hs := h.comments _ List.mem_cons_self s rfl
  have hslice : (xs ++ rest).take s.length = s.toList := hcs ▸ h.slice _ List.mem_cons_self
  by_contra hlt
  obtain ⟨r, hr⟩ := Nat.exists_eq_add_of_lt (Nat.lt_of_not_le hlt)
  rw [hr, Nat.add_assoc, List.take_length_add_append] at hslice
  cases rest with
  | nil =>
    have hlen := congrArg List.length hslice
    simp only [List.take_nil, List.append_nil, String.length_toList] at hlen
    omega
  | cons d rest =>
    have hd : d ∈ s.toList := by simp [← hslice]
    have hchar := stop d rfl
    rw [hs.no_instruction d hd] at hchar
    cases hchar

/-- The token after a comment stands behind all text that is no instruction: it would be a comment
too otherwise. -/
theorem le_place_of_comment (h : IsTokenization cs n (⟨n, .comment s⟩ :: us))
    (hcs : cs.drop n = xs ++ rest) (text : ∀ d ∈ xs, isInstructionChar d = false) :
    ∀ u ∈ us, n + xs.length ≤ u.place := by
  cases us with
  | nil => simp
  | cons u us =>
    have hu : n + xs.length ≤ u.place := by
      by_contra hlt
      obtain ⟨d, hd, -, -, hcomment⟩ := h.exists_head (List.mem_cons_of_mem _ List.mem_cons_self)
      have hle : n + s.length ≤ u.place := List.rel_of_pairwise_cons h.apart List.mem_cons_self
      have hdx : d ∈ xs.drop s.length := (mem_drop_iff hcs _).2 ⟨u.place, hle, by omega, hd⟩
      rw [text d (List.mem_of_mem_drop hdx)] at hcomment
      exact (List.isChain_cons_cons.1 h.isChain).1 ⟨rfl, hcomment⟩
    refine List.forall_mem_cons.2 ⟨hu, fun v hv => ?_⟩
    have hstop := List.rel_of_pairwise_cons h.apart.of_cons hv
    have hlt : u.place ≤ u.stop := Nat.le_add_right _ _
    omega

/-- What a comment leaves of the text up to the next instruction is blank. -/
theorem comment_eq (h : IsTokenization cs n (⟨n, .comment s⟩ :: us))
    (hcs : cs.drop n = xs ++ rest) (text : ∀ d ∈ xs, isInstructionChar d = false)
    (stop : ∀ d, rest.head? = some d → isInstructionChar d = true) :
    s.toList = Text.trimEnd xs := by
  have hs := h.comments _ List.mem_cons_self s rfl
  have hslice : (xs ++ rest).take s.length = s.toList := hcs ▸ h.slice _ List.mem_cons_self
  rw [List.take_append_of_le_length (h.length_comment_le hcs stop)] at hslice
  have hblank : ∀ d ∈ xs.drop s.length, Text.isBlank d = true := by
    intro d hd
    obtain ⟨i, hi, him, hget⟩ := (mem_drop_iff hcs _).1 hd
    refine h.blank i d (by omega) hget (List.forall_mem_cons.2 ⟨fun hin => ?_, fun u hu hin => ?_⟩)
    · exact absurd hin.2 (Nat.not_lt.2 hi)
    · have hle := h.le_place_of_comment hcs text u hu
      omega
  calc s.toList = Text.trimEnd s.toList := (Text.trimEnd_eq_self hs.last_not_blank).symm
    _ = Text.trimEnd (s.toList ++ xs.drop s.length) := (Text.trimEnd_append_blanks hblank).symm
    _ = Text.trimEnd xs := by rw [← hslice, List.take_append_drop]

/-- Where an instruction or nothing follows, a list of tokens does not begin with a comment. -/
theorem head_not_isComment (h : IsTokenization cs n us)
    (stop : ∀ d, cs[n]? = some d → isInstructionChar d = true) :
    ∀ u ∈ us.head?, u.token.isComment = false := by
  cases us with
  | nil => simp
  | cons u us =>
    intro v hv
    obtain rfl : u = v := Option.some.inj hv
    obtain ⟨c, hc, -⟩ := h.exists_head List.mem_cons_self
    have hlt := (List.getElem?_eq_some_iff.1 hc).1
    have hle := h.le_place u List.mem_cons_self
    obtain ⟨d, hd⟩ : ∃ d, cs[n]? = some d := ⟨_, List.getElem?_eq_getElem (by omega)⟩
    obtain ⟨k, rfl⟩ := exists_eq_toChar (stop d hd)
    obtain ⟨vs, hvs⟩ := h.eq_cons (h.instruction n k (Nat.le_refl n) hd) rfl
    rw [(List.cons.inj hvs).1]
    rfl

/-- What stands before the next instruction is a comment, without the blanks at its end. -/
theorem cons_comment {c : Char} {body : List Char}
    (h : IsTokenization cs (n + (c :: body).length) us)
    (hcs : cs.drop n = (c :: body) ++ rest) (head : Text.isBlank c = false)
    (text : ∀ d ∈ c :: body, isInstructionChar d = false)
    (stop : ∀ d, rest.head? = some d → isInstructionChar d = true) :
    IsTokenization cs n (⟨n, .comment (String.ofList (Text.trimEnd (c :: body)))⟩ :: us) := by
  have hlen := length_trimEnd_le (c :: body)
  have hstop : (⟨n, .comment (String.ofList (Text.trimEnd (c :: body)))⟩ : Placed).stop =
      n + (Text.trimEnd (c :: body)).length := by
    rw [Placed.stop, Token.text, String.length_ofList]
  refine h.cons (Nat.le_refl n) (by omega) ?_ ?_ ?_ ?_ ?_
  · rw [Token.text, String.length_ofList, String.toList_ofList, hcs,
      List.take_append_of_le_length hlen, take_length_trimEnd]
  · intro i d hi him hd hout
    have hge : n + (Text.trimEnd (c :: body)).length ≤ i := by
      rw [hstop] at hout
      exact Nat.not_lt.1 fun hlt => hout ⟨hi, hlt⟩
    exact isBlank_of_mem_drop_trimEnd ((mem_drop_iff hcs _).2 ⟨i, hge, him, hd⟩)
  · intro i k hi him hd
    have hchar := text _ ((mem_drop_iff hcs 0).2 ⟨i, hi, him, hd⟩)
    rw [isInstructionChar_toChar] at hchar
    cases hchar
  · rintro _ ⟨⟩
    rw [String.toList_ofList]
    exact isCommentText_trimEnd head text
  · intro u hu hboth
    have hnext : ∀ d, cs[n + (c :: body).length]? = some d → isInstructionChar d = true := by
      intro d hd
      rw [← List.getElem?_drop, hcs, List.getElem?_append_right (Nat.le_refl _), Nat.sub_self,
        ← List.head?_eq_getElem?] at hd
      exact stop d hd
    rw [h.head_not_isComment hnext u hu] at hboth
    cases hboth.2

end IsTokenization

theorem isTokenization_comment {c : Char} {body : List Char}
    (hcs : cs.drop n = (c :: body) ++ rest) (head : Text.isBlank c = false)
    (text : ∀ d ∈ c :: body, isInstructionChar d = false)
    (stop : ∀ d, rest.head? = some d → isInstructionChar d = true) :
    IsTokenization cs n ts ↔
      ∃ us, ts = ⟨n, .comment (String.ofList (Text.trimEnd (c :: body)))⟩ :: us ∧
        IsTokenization cs (n + (c :: body).length) us := by
  constructor
  · intro h
    have hc : cs[n]? = some c := by
      rw [← Nat.add_zero n, ← List.getElem?_drop, hcs]
      rfl
    obtain ⟨s, us, rfl⟩ := h.exists_comment hc head (text c List.mem_cons_self)
    have hs := h.comment_eq hcs text stop
    have hle := h.length_comment_le hcs stop
    exact ⟨us, by rw [← hs, String.ofList_toList],
      h.tail (Nat.add_le_add_left hle n) (h.le_place_of_comment hcs text)⟩
  · rintro ⟨us, rfl, h⟩
    exact h.cons_comment hcs head text stop

end Comment

/-! ## The whole text -/

/-- What is still to be read has one tokenization. -/
theorem isTokenization_iff_tokens {cs : List Char} {l : Lexer} {ts : List Placed}
    (hl : cs.drop l.position.offset = l.rest) :
    IsTokenization cs l.position.offset ts ↔ ts = l.tokens.map Located.placed := by
  induction l using Lexer.tokensInduction generalizing ts with
  | stop l l' h =>
    have hstep := l.next_spec
    rw [Lexer.tokens_of_next_none h]
    rw [h] at hstep
    cases hstep with
    | @stop p bs blank =>
      dsimp only at hl ⊢
      have hlen : cs.length - p.offset = bs.length := by rw [← hl, List.length_drop]
      have hall : cs.drop p.offset = bs ++ [] := by rw [hl, List.append_nil]
      rw [isTokenization_skip hall blank]
      exact isTokenization_nil (by omega)
  | token l t l' h ih =>
    have hstep := l.next_spec
    rw [Lexer.tokens_of_next_some h]
    rw [h] at hstep
    cases hstep with
    | @instruction p bs blank k rest =>
      have hk : cs.drop (p.offset + bs.length) = k.toChar :: rest := drop_add_length hl
      rw [Position.offset_step, Position.offset_advance] at ih
      have hget : cs[p.offset + bs.length]? = some k.toChar := by
        rw [← Nat.add_zero (p.offset + bs.length), ← List.getElem?_drop, hk]
        rfl
      have hrest : cs.drop (p.offset + bs.length + 1) = rest := by
        rw [← List.drop_drop, hk, List.drop_one, List.tail_cons]
      rw [isTokenization_skip hl blank, isTokenization_instruction hget]
      simp only [ih hrest, exists_eq_right, List.map_cons, Located.placed,
        Position.offset_advance]
    | @comment p bs blank c body rest head text stop =>
      have hbody : cs.drop (p.offset + bs.length) = c :: body ++ rest := drop_add_length hl
      rw [Position.offset_advance, Position.offset_advance] at ih
      rw [isTokenization_skip hl blank, isTokenization_comment hbody head text stop]
      simp only [ih (drop_add_length hbody), exists_eq_right, List.map_cons, Located.placed,
        Position.offset_advance]

/-- **One tokenization.** The tokens that the lexer gives, with their offsets, are a tokenization
of the text, and there is no other. -/
theorem isTokenization_iff (text : String) (ts : List Placed) :
    IsTokenization text.toList 0 ts ↔ ts = (Lexer.ofText text).tokens.map Located.placed :=
  isTokenization_iff_tokens (l := .ofText text) rfl

end Token

end TapeC
