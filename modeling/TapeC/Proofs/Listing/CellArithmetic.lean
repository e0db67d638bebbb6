import TapeC.Compile
import TapeC.Listing.CellArithmetic
import TapeC.Proofs.Lexer.Steps
import TapeC.Proofs.Listing.Reading
import TapeC.Proofs.Op.Shortest

/-!
# When cell arithmetic has a meaning

**Theorem (`compile_assignCell?`).** An assignment to a cell in a compiled program leaves the sum
or the difference modulo 256 in it, unless it has no meaning. It has none if its amount has no
type, or if it is a sum that overflows. The amount is at most the number of characters of the
text, so all assignments in the program of a text with fewer than 2147483393 characters have a
meaning (`assignCell?_of_length_lt`).

The arithmetic is done in a signed type, which is that of the amount, and only the outcome is
taken modulo 256. A difference stays in the type, since neither of its terms is negative, but a
sum leaves it if the amount is just below the limit and the cell takes it over it
(`Arith.holds_onValue_iff`). There are such programs, since amounts are as great as the runs in a
text are long (`hasStatement_compile_replicate`).
-/

namespace TapeC

/-! ## Types -/

namespace SignedType

variable {n : Nat}

theorem holds_int_iff : int.Holds n ↔ n < 2147483648 := by
  simp only [Holds, limit]
  omega

theorem holds_long_iff : long.Holds n ↔ n < 9223372036854775808 := by
  simp only [Holds, limit]
  omega

/-- An amount has the first type that it fits in. -/
theorem ofLiteral?_cases (n : Nat) :
    (int.Holds n ∧ ofLiteral? n = some .int) ∨
      (¬int.Holds n ∧ long.Holds n ∧ ofLiteral? n = some .long) ∨
        (¬int.Holds n ∧ ¬long.Holds n ∧ ofLiteral? n = none) := by
  unfold ofLiteral?
  by_cases hint : int.Holds n
  · refine .inl ⟨hint, ?_⟩
    rw [List.find?_cons_of_pos]
    exact decide_eq_true hint
  by_cases hlong : long.Holds n
  · refine .inr (.inl ⟨hint, hlong, ?_⟩)
    rw [List.find?_cons_of_neg, List.find?_cons_of_pos]
    · exact decide_eq_true hlong
    · exact mt of_decide_eq_true hint
  · refine .inr (.inr ⟨hint, hlong, ?_⟩)
    rw [List.find?_cons_of_neg, List.find?_cons_of_neg, List.find?_nil]
    · exact mt of_decide_eq_true hlong
    · exact mt of_decide_eq_true hint

end SignedType

/-! ## Assignments -/

namespace Arith

/-- The sum or the difference as a whole number. -/
def onValue (a : Arith) (n : Nat) (c : UInt8) : Int :=
  if a = .inc then (c.toNat : Int) + n else (c.toNat : Int) - n

/-- The sum or the difference modulo 256. -/
def onCell (a : Arith) (n : Nat) (c : UInt8) : UInt8 :=
  if a = .inc then c + UInt8.ofNat n else c - UInt8.ofNat n

/-- An assignment has a meaning: its amount has a type, and if it adds, the sum is below the limit
of that type. -/
def IsDefinedOn (a : Arith) (n : Nat) (c : UInt8) : Prop :=
  n < 9223372036854775808 ∧
    (a = .inc → c.toNat + n < if n < 2147483648 then 2147483648 else 9223372036854775808)

instance (a : Arith) (n : Nat) (c : UInt8) : Decidable (a.IsDefinedOn n c) :=
  inferInstanceAs (Decidable (_ ∧ _))

variable {a : Arith} {n : Nat} {c : UInt8} {t : SignedType}

theorem ofNat_onValue (a : Arith) (n : Nat) (c : UInt8) :
    UInt8.ofNat (a.onValue n c % 256).toNat = a.onCell n c := by
  rw [← UInt8.toNat_inj, UInt8.toNat_ofNat', onValue, onCell]
  split_ifs with h
  · rw [UInt8.toNat_add, UInt8.toNat_ofNat']
    omega
  · rw [UInt8.toNat_sub, UInt8.toNat_ofNat']
    omega

/-- A difference stays in the type of its amount, so only a sum can be out of it. -/
theorem holds_onValue_iff (h : t.Holds n) :
    t.Holds (a.onValue n c) ↔ (a = .inc → t.Holds ((c.toNat + n : Nat) : Int)) := by
  have hc := c.toNat_lt
  have hlimit : 256 ≤ t.limit := by cases t <;> decide
  unfold SignedType.Holds at h ⊢
  unfold onValue
  split_ifs with ha
  · simp only [ha, true_implies]
    omega
  · simp only [ha, false_implies, iff_true]
    omega

theorem isDefinedOn_iff_of_int (h : SignedType.int.Holds n) :
    a.IsDefinedOn n c ↔ SignedType.int.Holds (a.onValue n c) := by
  have hn := SignedType.holds_int_iff.1 h
  have htype : n < 9223372036854775808 := by omega
  rw [holds_onValue_iff h, IsDefinedOn, if_pos hn, SignedType.holds_int_iff]
  exact and_iff_right htype

theorem isDefinedOn_iff_of_long (hint : ¬SignedType.int.Holds n) (h : SignedType.long.Holds n) :
    a.IsDefinedOn n c ↔ SignedType.long.Holds (a.onValue n c) := by
  have htype := SignedType.holds_long_iff.1 h
  rw [holds_onValue_iff h, IsDefinedOn, if_neg (mt SignedType.holds_int_iff.2 hint),
    SignedType.holds_long_iff]
  exact and_iff_right htype

theorem isDefinedOn_of_lt (h : n + 255 < 2147483648) : a.IsDefinedOn n c := by
  have hc := c.toNat_lt
  refine ⟨by omega, fun _ => ?_⟩
  rw [if_pos (by omega)]
  omega

end Arith

variable {a : Arith} {n : Nat} {c : UInt8}

/-- The outcome, when the type of the amount is known. -/
theorem assignCell?_of_ofLiteral? {t : SignedType} (h : SignedType.ofLiteral? n = some t) :
    assignCell? a n c = if t.Holds (a.onValue n c) then some (a.onCell n c) else none := by
  have hwithInt : t.withInt = t := by cases t <;> rfl
  rw [assignCell?, h, Option.bind_eq_bind, Option.bind_some, hwithInt]
  change (t.compute? (a.onValue n c)).bind _ = _
  unfold SignedType.compute?
  split_ifs
  · exact congrArg some (a.ofNat_onValue n c)
  · rfl

/-- An assignment leaves the sum or the difference modulo 256, if it has a meaning. -/
theorem assignCell?_eq (a : Arith) (n : Nat) (c : UInt8) :
    assignCell? a n c = if a.IsDefinedOn n c then some (a.onCell n c) else none := by
  rcases SignedType.ofLiteral?_cases n with ⟨h, htype⟩ | ⟨hint, h, htype⟩ | ⟨-, h, htype⟩
  · rw [assignCell?_of_ofLiteral? htype]
    exact if_congr (Arith.isDefinedOn_iff_of_int h).symm rfl rfl
  · rw [assignCell?_of_ofLiteral? htype]
    exact if_congr (Arith.isDefinedOn_iff_of_long hint h).symm rfl rfl
  · have hundefined : ¬a.IsDefinedOn n c := fun hdef => h (SignedType.holds_long_iff.2 hdef.1)
    rw [assignCell?, htype, if_neg hundefined]
    rfl

/-! ## The assignments of a program -/

namespace Listing

/-- A line of the program is the statement, with blanks in front of it. -/
def HasStatement (program statement : String) : Prop :=
  ∃ ls, linesOf? program.toList = some ls ∧ ∃ l ∈ ls, l.dropWhile (· == ' ') = statement.toList

theorem exists_of_mem_lines {depth : Nat} {ops : List Op} {l : String} (h : l ∈ lines depth ops) :
    ∃ d, ∃ op ∈ ops, l = indented d op.statement := by
  obtain ⟨i, hi⟩ := List.mem_iff_getElem?.1 h
  rw [getElem?_lines] at hi
  obtain ⟨op, hop, hl⟩ := Option.map_eq_some_iff.1 hi
  exact ⟨_, op, List.mem_of_getElem? hop, hl.symm⟩

theorem exists_mem_lines {ops : List Op} {op : Op} (depth : Nat) (h : op ∈ ops) :
    ∃ d, indented d op.statement ∈ lines depth ops := by
  obtain ⟨i, hi⟩ := List.mem_iff_getElem?.1 h
  exact ⟨_, List.mem_of_getElem? (by rw [getElem?_lines, hi]; rfl)⟩

/-- No line of the frame is an assignment. -/
theorem readLine?_ne_arith (a : Arith) (n : Nat) :
    ∀ l ∈ header ++ footer, readLine? l.toList ≠ some (.arith a n) := by
  have hframe : ∀ l ∈ header ++ footer,
      readLine? l.toList = none ∨ readLine? l.toList = some .loopEnd := by
    decide
  intro l hl h
  rcases hframe l hl with hnone | hend
  · rw [hnone] at h
    cases h
  · rw [hend] at h
    cases h

/-- The assignments among the lines of a program are the assignments among its ops. -/
theorem hasStatement_program_iff {ops : List Op} {a : Arith} {n : Nat} :
    HasStatement (program ops) (Op.arith a n).statement ↔ .arith a n ∈ ops := by
  have hlines : linesOf? (program ops).toList = some ((programLines ops).map String.toList) :=
    linesOf?_text (linefeed_not_mem_programLines ops)
  constructor
  · rintro ⟨ls, hls, cs, hcs, hdrop⟩
    obtain rfl := Option.some.inj (hlines.symm.trans hls)
    obtain ⟨l, hl, rfl⟩ := List.mem_map.1 hcs
    have hread : readLine? l.toList = some (.arith a n) := by
      rw [readLine?, hdrop, Op.readStatement?_statement]
    rw [programLines, List.mem_append, List.mem_append] at hl
    rcases hl with (hl | hl) | hl
    · exact absurd hread (readLine?_ne_arith a n l (List.mem_append_left _ hl))
    · obtain ⟨d, op, hop, rfl⟩ := exists_of_mem_lines hl
      rw [readLine?_indented] at hread
      exact Option.some.inj hread ▸ hop
    · exact absurd hread (readLine?_ne_arith a n l (List.mem_append_right _ hl))
  · intro hop
    obtain ⟨d, hl⟩ := exists_mem_lines 1 hop
    have hmem : indented d (Op.arith a n).statement ∈ programLines ops :=
      List.mem_append_left _ (List.mem_append_right _ hl)
    exact ⟨_, hlines, _, List.mem_map_of_mem hmem, dropWhile_indented d _⟩

end Listing

open Listing

/-- No amount is greater than the number of instructions. -/
theorem amount_le_of_mem_optimize {o : Optimizations} {is : List Instruction}
    (h : .arith a n ∈ optimize o is) : n ≤ is.length := by
  have hsub : ((Op.arith a n).unfold).Sublist ((optimize o is).flatMap Op.unfold) :=
    List.sublist_flatten_of_mem (List.mem_map_of_mem h)
  rw [unfold_optimize] at hsub
  simpa [Op.unfold] using hsub.length_le

theorem amount_le_of_hasStatement {o : Optimizations} {t : String}
    (h : HasStatement (compile o t) (Op.arith a n).statement) : n ≤ t.length := by
  have hop := amount_le_of_mem_optimize (hasStatement_program_iff.1 h)
  calc n ≤ (instructionsOf t).length := hop
    _ ≤ t.toList.length := by rw [instructionsOf_eq]; exact List.length_filterMap_le _ _
    _ = t.length := String.length_toList

/-- A text of `n` increments is an assignment of `n`. -/
theorem hasStatement_compile_replicate (hn : 0 < n) :
    HasStatement (compile .all (String.ofList (List.replicate n '+')))
      (Op.arith .inc n).statement := by
  have hins : instructionsOf (String.ofList (List.replicate n '+')) =
      [Op.arith .inc n].flatMap Op.unfold := by
    rw [instructionsOf_eq, String.toList_ofList, List.filterMap_replicate]
    simp [Op.unfold, Instruction.ofChar?]
  have hfolded : Op.IsFolded [.arith .inc n] := Op.IsFolded.nil.cons_arith hn (by simp)
  rw [compile, hins, hfolded.optimize_flatMap_unfold]
  exact hasStatement_program_iff.2 List.mem_cons_self

/-- The assignments of short texts all have a meaning. -/
theorem assignCell?_of_length_lt {o : Optimizations} {t : String} (ht : t.length < 2147483393)
    (h : HasStatement (compile o t) (Op.arith a n).statement) (c : UInt8) :
    assignCell? a n c = some (a.onCell n c) := by
  have hn := amount_le_of_hasStatement h
  rw [assignCell?_eq, if_pos (Arith.isDefinedOn_of_lt (by omega))]

/-- **When cell arithmetic has a meaning.** -/
theorem compile_assignCell? (o : Optimizations) (t : String) (n : Nat) (c : UInt8) :
    (HasStatement (compile o t) (Op.arith .inc n).statement →
      n ≤ t.length ∧ assignCell? .inc n c =
        if Arith.inc.IsDefinedOn n c then some (c + UInt8.ofNat n) else none) ∧
    (HasStatement (compile o t) (Op.arith .dec n).statement →
      n ≤ t.length ∧ assignCell? .dec n c =
        if Arith.dec.IsDefinedOn n c then some (c - UInt8.ofNat n) else none) :=
  ⟨fun h => ⟨amount_le_of_hasStatement h, assignCell?_eq .inc n c⟩,
    fun h => ⟨amount_le_of_hasStatement h, assignCell?_eq .dec n c⟩⟩

/-- A run whose length is taken modulo 256, in a cell near the end of its range. -/
theorem compile_assignCell?_long_run :
    let t := String.ofList (List.replicate 300 '+')
    HasStatement (compile .all t) (Op.arith .inc 300).statement ∧
      300 ≤ t.length ∧ assignCell? .inc 300 250 =
        if Arith.inc.IsDefinedOn 300 250 then some (250 + UInt8.ofNat 300) else none :=
  ⟨hasStatement_compile_replicate (by decide),
    (compile_assignCell? .all _ 300 250).1 (hasStatement_compile_replicate (by decide))⟩

/-- The sum overflows in a cell that holds 1, after the greatest amount of type `int`. -/
theorem not_forall_assignCell?_eq_some :
    ¬∀ (o : Optimizations) (t : String) (n : Nat) (c : UInt8),
      HasStatement (compile o t) (Op.arith .inc n).statement →
        assignCell? .inc n c = some (c + UInt8.ofNat n) := by
  intro h
  have hsome := h .all _ 2147483647 1 (hasStatement_compile_replicate (by omega))
  have hundefined : ¬Arith.inc.IsDefinedOn 2147483647 1 := by decide
  rw [assignCell?_eq, if_neg hundefined] at hsome
  cases hsome

end TapeC
