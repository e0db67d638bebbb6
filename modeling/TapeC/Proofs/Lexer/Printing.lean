import TapeC.Proofs.Lexer.Tokenization

/-!
# Printing and lexing token lists

**Theorem (`ofText_print_iff`).** A token list is read back from its printed text if and only if it
is canonical. The tokens of every text are canonical, so printing them changes nothing but the
blanks between them: the tokens stay, and a second time there is nothing left to change.

In a canonical list each token begins where the one before it ends, and a comment is followed by an
instruction or by nothing. That is how a lexer sees them (`IsCanonical.map_tokens`, one
`Lexer.Next` for each token). The other way round, a list that is read back is the tokens of a text,
and those are canonical because they are a tokenization of it (`isCanonical_ofText`).
-/

namespace TapeC.Token

variable {t : Token} {ts : List Token}

theorem toList_print_cons (t : Token) (ts : List Token) :
    (print (t :: ts)).toList = t.text.toList ++ (print ts).toList := by
  rw [print, List.map_cons, String.join_cons, String.toList_append, print]

namespace IsCanonical

theorem tail (h : IsCanonical (t :: ts)) : IsCanonical ts :=
  ⟨fun text hmem => h.comments text (List.mem_cons_of_mem t hmem), h.isChain.tail⟩

/-- The text after a comment begins with an instruction, if there is any. -/
theorem isInstructionChar_of_head? {s : String} (h : IsCanonical (.comment s :: ts)) {c : Char}
    (hc : (print ts).toList.head? = some c) : isInstructionChar c = true := by
  cases ts with
  | nil => cases hc
  | cons u us =>
    cases u with
    | instruction i =>
      have hhead : i.toChar = c := by
        rw [toList_print_cons, text, String.toList_singleton] at hc
        exact Option.some.inj hc
      rw [← hhead, isInstructionChar_toChar]
    | comment s' => exact absurd ⟨rfl, rfl⟩ (List.isChain_cons_cons.1 h.isChain).1

/-- A canonical list is read back from its text, wherever the text stands. -/
theorem map_tokens (h : IsCanonical ts) (p : Position) :
    (Lexer.tokens ⟨p, (print ts).toList⟩).map (·.token) = ts := by
  induction ts generalizing p with
  | nil =>
    have hnext : Lexer.next ⟨p, []⟩ = (none, ⟨p, []⟩) :=
      (Lexer.Next.stop (List.forall_mem_nil _)).next_eq
    have htext : (print []).toList = [] := rfl
    rw [htext, Lexer.tokens_of_next_none hnext, List.map_nil]
  | cons t ts ih =>
    rw [toList_print_cons]
    cases t with
    | instruction i =>
      have hnext : Lexer.next ⟨p, i.toChar :: (print ts).toList⟩ =
          (some ⟨p, .instruction i⟩, ⟨p.step i.toChar, (print ts).toList⟩) :=
        (Lexer.Next.instruction (List.forall_mem_nil _) i _).next_eq
      rw [text, String.toList_singleton, List.singleton_append, Lexer.tokens_of_next_some hnext,
        List.map_cons, ih h.tail]
    | comment s =>
      have hs := h.comments s List.mem_cons_self
      obtain ⟨c, body, hcut⟩ := List.exists_cons_of_ne_nil hs.ne_nil
      have hnext : Lexer.next ⟨p, c :: body ++ (print ts).toList⟩ =
          (some ⟨p, .comment (String.ofList (Text.trimEnd (c :: body)))⟩,
            ⟨p.advance (c :: body), (print ts).toList⟩) :=
        (Lexer.Next.comment (List.forall_mem_nil _) (hs.head_not_blank c (by rw [hcut]; rfl))
          (hcut ▸ hs.no_instruction) fun d hd => h.isInstructionChar_of_head? hd).next_eq
      rw [← hcut, Text.trimEnd_eq_self hs.last_not_blank, String.ofList_toList] at hnext
      rw [text, Lexer.tokens_of_next_some hnext, List.map_cons, ih h.tail]

end IsCanonical

theorem ofText_print (h : IsCanonical ts) : ofText (print ts) = ts := h.map_tokens .start

/-- The tokens of a text are canonical. -/
theorem isCanonical_ofText (text : String) : IsCanonical (ofText text) := by
  have htokens : IsTokenization text.toList 0 ((Lexer.ofText text).tokens.map Located.placed) :=
    (isTokenization_iff_tokens (l := .ofText text) rfl).2 rfl
  refine ⟨fun s hs => ?_, ?_⟩
  · obtain ⟨l, hl, hls⟩ := List.mem_map.1 hs
    exact htokens.comments l.placed (List.mem_map_of_mem hl) s hls
  · have hchain := htokens.isChain
    rw [List.isChain_map] at hchain
    rw [ofText, List.isChain_map]
    exact hchain

/-- **Printing and lexing are inverse on canonical lists.** -/
theorem ofText_print_iff :
    (∀ ts : List Token, ofText (print ts) = ts ↔ IsCanonical ts) ∧
      (∀ text : String, IsCanonical (ofText text)) ∧
      ∀ text : String, ofText (normalize text) = ofText text ∧
        normalize (normalize text) = normalize text := by
  have hkeep : ∀ text, ofText (normalize text) = ofText text :=
    fun text => ofText_print (isCanonical_ofText text)
  refine ⟨fun ts => ⟨fun h => ?_, ofText_print⟩, isCanonical_ofText, fun text => ⟨hkeep text, ?_⟩⟩
  · rw [← h]
    exact isCanonical_ofText (print ts)
  · rw [normalize, hkeep, normalize]

end TapeC.Token
