import TapeC.Listing.Program
import TapeC.Listing.Reader

/-!
# A generated program reads as its ops

The reader knows nothing of how programs are generated, so this ties the two together.

**Theorem (`Listing.read?_program`).** The program of an op list is read as that op list, whatever
its amounts are and whether its loops are balanced or not.

From the inside out: the digits of a number are read as the number (`readDecimal?_toDigits`), a
statement as its op (`Op.readStatement?_statement`), an indented line as its statement
(`readLine?_indented`), and the text of lines as the lines (`linesOf?_text`).
-/

namespace TapeC

/-! ## Numbers and statements -/

theorem Text.readDecimal?_toDigits (n : Nat) :
    Text.readDecimal? (Nat.toDigits 10 n) = some n := by
  have hall : (Nat.toDigits 10 n).all (·.isDigit) = true :=
    List.all_eq_true.2 fun c hc => Nat.isDigit_of_mem_toDigits (by omega) (by omega) hc
  have hne : (Nat.toDigits 10 n).isEmpty = false := by simp
  rw [readDecimal?, hall, hne]
  exact congrArg some Nat.ofDigitChars_ten_toDigits

theorem afterBeginning?_append (beginning : String) (cs : List Char) :
    afterBeginning? beginning (beginning.toList ++ cs) = some cs := by
  have h : beginning.toList.isPrefixOf (beginning.toList ++ cs) = true :=
    List.isPrefixOf_iff_prefix.2 (List.prefix_append _ _)
  rw [afterBeginning?, if_pos h, ← String.length_toList, List.drop_left]

theorem afterBeginning?_eq_none {beginning : String} {cs : List Char}
    (h : ¬ beginning.toList <+: cs) : afterBeginning? beginning cs = none := by
  rw [afterBeginning?, if_neg (mt List.isPrefixOf_iff_prefix.1 h)]

theorem readAmount?_toDigits (n : Nat) : readAmount? (Nat.toDigits 10 n ++ [';']) = some n := by
  rw [readAmount?, List.getLast?_concat, if_pos rfl, List.dropLast_concat,
    Text.readDecimal?_toDigits]

theorem Op.toList_statement_arith (a : Arith) (n : Nat) :
    (Op.arith a n).statement.toList = a.beginning.toList ++ (Nat.toDigits 10 n ++ [';']) := by
  cases a <;> simp [statement, Arith.target, Arith.assignment, Arith.beginning]

/-- No two kinds of assignment begin alike. -/
theorem Arith.readAssignment?_statement (a b : Arith) (n : Nat) :
    b.readAssignment? (Op.arith a n).statement.toList =
      if b = a then some (.arith a n) else none := by
  rw [Op.toList_statement_arith]
  split
  · rename_i h
    rw [h, readAssignment?, afterBeginning?_append, Option.bind_some, readAmount?_toDigits]
    rfl
  · rename_i h
    have hne : ¬ b.beginning.toList <+: a.beginning.toList ++ (Nat.toDigits 10 n ++ [';']) := by
      cases a <;> cases b <;> first | exact absurd rfl h | simp [beginning]
    rw [readAssignment?, afterBeginning?_eq_none hne]
    rfl

theorem Op.readStatement?_statement (op : Op) : readStatement? op.statement.toList = some op := by
  cases op with
  | arith a n =>
    have hwrite : (Op.arith a n).statement.toList ≠ "putchar(*ptr);".toList := by
      rw [toList_statement_arith]; cases a <;> simp [Arith.beginning]
    have hread : (Op.arith a n).statement.toList ≠ "*ptr = getchar();".toList := by
      rw [toList_statement_arith]; cases a <;> simp [Arith.beginning]
    have hstart : (Op.arith a n).statement.toList ≠ "while (*ptr) \x7b".toList := by
      rw [toList_statement_arith]; cases a <;> simp [Arith.beginning]
    have hend : (Op.arith a n).statement.toList ≠ "\x7d".toList := by
      rw [toList_statement_arith]; cases a <;> simp [Arith.beginning]
    rw [readStatement?, if_neg hwrite, if_neg hread, if_neg hstart, if_neg hend]
    cases a <;> simp [Arith.all, Arith.readAssignment?_statement]
  | write | read | loopStart | loopEnd => rfl

/-! ## Lines -/

namespace Listing

theorem toList_indented (depth : Nat) (line : String) :
    (indented depth line).toList = List.replicate (4 * depth) ' ' ++ line.toList := by
  simp [indented]

/-- No statement begins with a blank. -/
theorem exists_statement_eq_cons (op : Op) :
    ∃ c cs, op.statement.toList = c :: cs ∧ c ≠ ' ' := by
  cases op with
  | arith a n =>
    rw [Op.toList_statement_arith]
    cases a <;> exact ⟨_, _, rfl, by decide⟩
  | write | read | loopStart | loopEnd => exact ⟨_, _, rfl, by decide⟩

theorem dropWhile_indented (depth : Nat) (op : Op) :
    (indented depth op.statement).toList.dropWhile (· == ' ') = op.statement.toList := by
  obtain ⟨c, cs, hcs, hc⟩ := exists_statement_eq_cons op
  rw [toList_indented, List.dropWhile_append_of_pos (by simp), hcs]
  exact List.dropWhile_cons_of_neg (by simpa using hc)

theorem readLine?_indented (depth : Nat) (op : Op) :
    readLine? (indented depth op.statement).toList = some op := by
  rw [readLine?, dropWhile_indented, Op.readStatement?_statement]

theorem mapM_readLine?_lines (depth : Nat) (ops : List Op) :
    ((lines depth ops).map String.toList).mapM readLine? = some ops := by
  induction ops generalizing depth with
  | nil => rfl
  | cons op ops ih =>
    rw [lines_cons, List.map_cons, List.mapM_cons, readLine?_indented, ih]
    rfl

@[simp] theorem toList_text_nil : (text []).toList = [] := rfl

@[simp] theorem toList_text_cons (l : String) (ls : List String) :
    (text (l :: ls)).toList = l.toList ++ '\n' :: (text ls).toList := by
  simp [text]

theorem split_append {xs : List Char} (h : '\n' ∉ xs) (ys : List Char) :
    Text.split '\n' (xs ++ '\n' :: ys) = xs :: Text.split '\n' ys := by
  induction xs with
  | nil => rfl
  | cons x xs ih =>
    obtain ⟨hx, hxs⟩ := not_or.1 (mt List.mem_cons.2 h)
    rw [List.cons_append, Text.split_cons, ih hxs, Text.splitStep, if_neg (Ne.symm hx)]

theorem split_text_append {ls : List String} (h : ∀ l ∈ ls, '\n' ∉ l.toList) (rest : List Char) :
    Text.split '\n' ((text ls).toList ++ rest) = ls.map String.toList ++ Text.split '\n' rest := by
  induction ls with
  | nil => rfl
  | cons l ls ih =>
    rw [toList_text_cons, List.append_assoc, List.cons_append,
      split_append (h l List.mem_cons_self), ih fun l hl => h l (List.mem_cons_of_mem _ hl)]
    rfl

theorem split_text {ls : List String} (h : ∀ l ∈ ls, '\n' ∉ l.toList) :
    Text.split '\n' (text ls).toList = ls.map String.toList ++ [[]] := by
  have hsplit := split_text_append h []
  rwa [List.append_nil] at hsplit

theorem linesOf?_text {ls : List String} (h : ∀ l ∈ ls, '\n' ∉ l.toList) :
    linesOf? (text ls).toList = some (ls.map String.toList) := by
  simp only [linesOf?, split_text h, List.getLast?_concat, List.dropLast_concat, if_pos]

/-! ## Programs -/

theorem linefeed_not_mem_statement (op : Op) : '\n' ∉ op.statement.toList := by
  cases op with
  | arith a n =>
    have hdigits : '\n' ∉ Nat.toDigits 10 n := fun h => by
      have := Nat.isDigit_of_mem_toDigits (by omega) (by omega) h
      simp at this
    rw [Op.toList_statement_arith]
    cases a <;> simp [Arith.beginning, hdigits]
  | write | read | loopStart | loopEnd => decide

theorem linefeed_not_mem_lines {depth : Nat} {ops : List Op} :
    ∀ l ∈ lines depth ops, '\n' ∉ l.toList := by
  induction ops generalizing depth with
  | nil => simp
  | cons op ops ih =>
    intro l hl
    rw [lines_cons] at hl
    rcases List.mem_cons.1 hl with rfl | hl
    · rw [toList_indented]
      simp [linefeed_not_mem_statement]
    · exact ih l hl

theorem map_toList_header : header.map String.toList = top := by decide

theorem map_toList_footer : footer.map String.toList = bottom := by decide

theorem linefeed_not_mem_programLines (ops : List Op) :
    ∀ l ∈ programLines ops, '\n' ∉ l.toList := by
  intro l hl
  have hframe : ∀ l ∈ header ++ footer, '\n' ∉ l.toList := by decide
  simp only [programLines, List.mem_append] at hl
  rcases hl with (hl | hl) | hl
  · exact hframe l (List.mem_append_left _ hl)
  · exact linefeed_not_mem_lines l hl
  · exact hframe l (List.mem_append_right _ hl)

/-- What stands between the lines of the frame. -/
theorem body?_append (ls : List (List Char)) : body? (top ++ ls ++ bottom) = some ls := by
  have htop : top.isPrefixOf (top ++ (ls ++ bottom)) = true :=
    List.isPrefixOf_iff_prefix.2 (List.prefix_append _ _)
  have hbottom : bottom.isSuffixOf (ls ++ bottom) = true :=
    List.isSuffixOf_iff_suffix.2 (List.suffix_append _ _)
  have hlen : (top ++ (ls ++ bottom)).length - top.length - bottom.length = ls.length := by
    simp
  rw [body?, List.append_assoc, List.drop_left, htop, hbottom, hlen, List.take_left]
  rfl

theorem read?_program (ops : List Op) : read? (program ops) = some ops := by
  have hlines : (programLines ops).map String.toList =
      top ++ (lines 1 ops).map String.toList ++ bottom := by
    rw [programLines, List.map_append, List.map_append, map_toList_header, map_toList_footer]
  rw [read?, program, linesOf?_text (linefeed_not_mem_programLines ops), hlines]
  simp only [Option.bind_eq_bind, Option.bind_some, body?_append, mapM_readLine?_lines]

theorem program_injective {ops ops' : List Op} (h : program ops = program ops') : ops = ops' :=
  Option.some.inj (by rw [← read?_program ops, ← read?_program ops', h])

/-- **Programs can be read back.** The reader undoes the listing of every op list, and so no two op
lists have the same program. -/
theorem program_decodes :
    (∀ ops : List Op, read? (program ops) = some ops) ∧ Function.Injective program :=
  ⟨read?_program, fun _ _ => program_injective⟩

end Listing

end TapeC
