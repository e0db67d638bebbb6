import Mathlib.Data.List.Induction
import TapeC.Listing.Level
import TapeC.Proofs.Brackets
import TapeC.Proofs.Listing.Reading

/-!
# The indentation of a generated program

**Theorem (`program_levels`).** Between the lines of its frame, a program has one line for each op,
and the level of this line is one more than the number of loops that are open at it, counted from
the lowest point that this number ever had. So the lines of two loop ops that belong together are
indented alike, and what is between them is indented more, whatever stray loop ops there are.

The depth that is carried along is a walk that cannot go below one: a loop end at one leaves it
there. Such a walk is the free walk less its running minimum (`foldl_depthAfter`), by an induction
that takes the ops from the end.

The second part does not need the minimum. A stretch of ops that closes its own loops begins and
ends at the same depth and is never less deep in between: `depthAfter_step` for one op, then
`foldl_depthAfter_of_closes` and `le_lineDepth_of_closes` for the stretch. None of its loop ends
comes at depth one, so the walk is free there.
-/

namespace TapeC.Listing

open Brackets

variable {ops : List Op}

/-- The depth that the ops before a place lead to. -/
def depthBefore (ops : List Op) (i : Nat) : Nat := (ops.take i).foldl depthAfter 1

/-- The number of blanks that a line begins with. -/
def indentation (line : String) : Nat := (line.toList.takeWhile (· == ' ')).length

/-! ## Open loops -/

theorem openLoops_concat (ops : List Op) (op : Op) :
    openLoops (ops ++ [op]) = openLoops ops + weight op.side? := by
  unfold openLoops
  rw [excess_append, excess_cons]
  exact congrArg _ (Int.add_zero _)

/-- A longer op list has one more beginning: itself. -/
theorem lowest_concat (ops : List Op) (op : Op) :
    lowest (ops ++ [op]) = min (lowest ops) (openLoops (ops ++ [op])) := by
  have hbefore : (List.range (ops.length + 1)).foldl
      (fun low n => min low (openLoops ((ops ++ [op]).take n))) 0 = lowest ops := by
    refine List.foldl_ext _ _ _ fun low n hn => ?_
    rw [List.take_append_of_le_length (Nat.le_of_lt_succ (List.mem_range.1 hn))]
  have hwhole : (ops ++ [op]).take (ops.length + 1) = ops ++ [op] :=
    List.take_of_length_le (by simp)
  rw [lowest, List.length_append, List.length_singleton, List.range_succ, List.foldl_append,
    hbefore, List.foldl_cons, List.foldl_nil, hwhole]

theorem lowest_le (ops : List Op) : lowest ops ≤ openLoops ops := by
  induction ops using List.reverseRecOn with
  | nil => decide
  | append_singleton ops op _ =>
    rw [lowest_concat]
    exact Int.min_le_right _ _

/-! ## The depth as a walk -/

/-- **The depth is the number of open loops above its running minimum.** -/
theorem foldl_depthAfter (ops : List Op) :
    ((ops.foldl depthAfter 1 : Nat) : Int) = 1 + openLoops ops - lowest ops := by
  induction ops using List.reverseRecOn with
  | nil => rfl
  | append_singleton ops op ih =>
    have hle := lowest_le ops
    rw [List.foldl_append, List.foldl_cons, List.foldl_nil, lowest_concat, openLoops_concat]
    generalize ops.foldl depthAfter 1 = depth at ih ⊢
    cases op with
    | loopStart =>
      show ((depth + 1 : Nat) : Int) = 1 + (openLoops ops + 1) - min _ (openLoops ops + 1)
      omega
    | loopEnd =>
      show ((max (depth - 1) 1 : Nat) : Int) = 1 + (openLoops ops + -1) - min _ (openLoops ops + -1)
      omega
    | arith | write | read =>
      show (depth : Int) = 1 + (openLoops ops + 0) - min _ (openLoops ops + 0)
      omega

theorem one_le_foldl_depthAfter (ops : List Op) : 1 ≤ ops.foldl depthAfter 1 := by
  have hdepth := foldl_depthAfter ops
  have hle := lowest_le ops
  omega

/-- An op's own line is at the depth that the deciding ops lead to. -/
theorem lineDepth_depthBefore {i : Nat} {op : Op} (h : ops[i]? = some op) :
    lineDepth (depthBefore ops i) op = (deciding ops i).foldl depthAfter 1 := by
  unfold deciding depthBefore
  rw [h, List.take_add_one, h, Option.toList_some]
  cases op with
  | loopEnd =>
    rw [if_pos rfl, List.foldl_append]
    rfl
  | arith | write | read | loopStart => rfl

/-- The level of an op is the depth of its line. -/
theorem lineDepth_eq_level {i : Nat} {op : Op} (h : ops[i]? = some op) :
    (lineDepth (depthBefore ops i) op : Int) = level ops i := by
  rw [lineDepth_depthBefore h, foldl_depthAfter, level]

/-! ## Balanced stretches -/

/-- As long as it stays at `depth` or deeper, an op moves the depth as it moves the number of open
loops, and its line is at `depth` or deeper too. -/
theorem depthAfter_step {depth d : Nat} {op : Op} {ops : List Op} (hdepth : 1 ≤ depth)
    (h : closes d (sides Op.side? (op :: ops)) = true) :
    depth ≤ lineDepth (depth + d) op ∧
      ∃ d', depthAfter (depth + d) op = depth + d' ∧ closes d' (sides Op.side? ops) = true := by
  rw [sides_cons] at h
  cases op with
  | loopStart => exact ⟨Nat.le_add_right _ _, d + 1, rfl, h⟩
  | loopEnd =>
    cases d with
    | zero => cases h
    | succ d =>
      have hline : lineDepth (depth + (d + 1)) .loopEnd = depth + d := by
        show max (depth + (d + 1) - 1) 1 = depth + d
        omega
      exact ⟨hline ▸ Nat.le_add_right _ _, d, hline, h⟩
  | arith | write | read => exact ⟨Nat.le_add_right _ _, d, rfl, h⟩

/-- A stretch that closes its own loops and `d` open ones comes out `d` levels lower. -/
theorem foldl_depthAfter_of_closes {depth d : Nat} (hdepth : 1 ≤ depth)
    (h : closes d (sides Op.side? ops) = true) : ops.foldl depthAfter (depth + d) = depth := by
  induction ops generalizing d with
  | nil =>
    obtain rfl := closes_nil.1 h
    rfl
  | cons op ops ih =>
    obtain ⟨-, d', hd', hrest⟩ := depthAfter_step hdepth h
    rw [List.foldl_cons, hd', ih hrest]

/-- No line of such a stretch is less deep than where it comes out. -/
theorem le_lineDepth_of_closes {depth d : Nat} (hdepth : 1 ≤ depth) {before after : List Op}
    {op : Op} (h : closes d (sides Op.side? (before ++ op :: after)) = true) :
    depth ≤ lineDepth (before.foldl depthAfter (depth + d)) op := by
  induction before generalizing d with
  | nil => exact (depthAfter_step hdepth h).1
  | cons op' before ih =>
    obtain ⟨-, d', hd', hrest⟩ := depthAfter_step hdepth h
    rw [List.foldl_cons, hd']
    exact ih hrest

/-! ## Pairs of loop ops -/

/-- The depth after a loop start and some ops of its loop. -/
theorem depthBefore_in_loop (as us vs : List Op) :
    depthBefore (as ++ .loopStart :: (us ++ vs)) (as.length + 1 + us.length) =
      us.foldl depthAfter (as.foldl depthAfter 1 + 1) := by
  have hlist : as ++ .loopStart :: (us ++ vs) = (as ++ .loopStart :: us) ++ vs := by simp
  have hlength : as.length + 1 + us.length = (as ++ Op.loopStart :: us).length := by
    rw [List.length_append, List.length_cons]
    omega
  rw [depthBefore, hlist, hlength, List.take_left, List.foldl_append]
  rfl

theorem eq_loopStart {op : Op} (h : op.side? = some .opening) : op = .loopStart := by
  cases op with
  | loopStart => rfl
  | arith | write | read | loopEnd => cases h

theorem eq_loopEnd {op : Op} (h : op.side? = some .closing) : op = .loopEnd := by
  cases op with
  | loopEnd => rfl
  | arith | write | read | loopStart => cases h

/-- Two loop ops that belong together have lines of one depth, and what is between them is
deeper. -/
theorem lineDepth_of_matched {i j : Nat} (h : Matched Op.side? ops i j) :
    ops[i]? = some .loopStart ∧ ops[j]? = some .loopEnd ∧
      lineDepth (depthBefore ops j) .loopEnd = lineDepth (depthBefore ops i) .loopStart ∧
      ∀ k op, i < k → k < j → ops[k]? = some op →
        lineDepth (depthBefore ops i) .loopStart < lineDepth (depthBefore ops k) op := by
  obtain ⟨as, x, bs, y, cs, rfl, rfl, rfl, hx, hy, hb⟩ := (matched_iff ops i j).1 h
  obtain rfl := eq_loopStart hx
  obtain rfl := eq_loopEnd hy
  have hdepth : 1 ≤ as.foldl depthAfter 1 := one_le_foldl_depthAfter as
  have hstart : depthBefore (as ++ .loopStart :: (bs ++ .loopEnd :: cs)) as.length =
      as.foldl depthAfter 1 := by rw [depthBefore, List.take_left]
  have hget : ∀ m, (as ++ .loopStart :: (bs ++ .loopEnd :: cs))[as.length + 1 + m]? =
      (bs ++ .loopEnd :: cs)[m]? := by
    intro m
    rw [List.getElem?_append_right (by omega), Nat.add_assoc, Nat.add_sub_cancel_left,
      Nat.add_comm 1 m, List.getElem?_cons_succ]
  refine ⟨?_, ?_, ?_, ?_⟩
  · rw [List.getElem?_append_right (Nat.le_refl _), Nat.sub_self, List.getElem?_cons_zero]
  · rw [hget, List.getElem?_append_right (Nat.le_refl _), Nat.sub_self, List.getElem?_cons_zero]
  · rw [depthBefore_in_loop, foldl_depthAfter_of_closes (Nat.le_add_left 1 _) hb, hstart]
    show max (as.foldl depthAfter 1 + 1 - 1) 1 = as.foldl depthAfter 1
    omega
  · intro k op hik hkj hop
    obtain ⟨m, rfl⟩ : ∃ m, k = as.length + 1 + m := ⟨k - (as.length + 1), by omega⟩
    have hm : m < bs.length := by omega
    rw [hget, List.getElem?_append_left hm] at hop
    have hsplit := eq_take_append hop
    have hlen : (bs.take m).length = m := by rw [List.length_take]; omega
    generalize bs.take m = us at hsplit hlen
    generalize bs.drop (m + 1) = vs at hsplit
    subst hsplit hlen
    rw [hstart, List.append_assoc, depthBefore_in_loop]
    exact le_lineDepth_of_closes (Nat.le_add_left 1 _) hb

/-! ## Lines -/

theorem indentation_indented (depth : Nat) (op : Op) :
    indentation (indented depth op.statement) = 4 * depth := by
  have hstatement : op.statement.toList.takeWhile (· == ' ') = [] := by
    obtain ⟨c, cs, hcs, hc⟩ := exists_statement_eq_cons op
    rw [hcs]
    exact List.takeWhile_cons_of_neg (by simpa using hc)
  rw [indentation, toList_indented, List.takeWhile_append_of_pos (by simp), hstatement,
    List.append_nil, List.length_replicate]

/-- **Indentation follows the open loops.** -/
theorem program_levels (ops : List Op) :
    ∃ body : List String,
      linesOf? (program ops).toList = some ((header ++ body ++ footer).map String.toList) ∧
      header.length = 4 ∧ footer.length = 2 ∧ body.length = ops.length ∧
      (∀ i op, ops[i]? = some op →
        let depth := lineDepth (depthBefore ops i) op
        1 ≤ depthBefore ops i ∧ 1 ≤ depth ∧ (depth : Int) = level ops i ∧
          body[i]? = some (String.ofList (List.replicate (4 * depth) ' ') ++ op.statement)) ∧
      ∀ i j, Matched Op.side? ops i j →
        ∃ first last, body[i]? = some first ∧ body[j]? = some last ∧
          indentation last = indentation first ∧
          ∀ k line, i < k → k < j → body[k]? = some line →
            indentation first < indentation line := by
  have hline : ∀ i op, ops[i]? = some op → (lines 1 ops)[i]? =
      some (indented (lineDepth (depthBefore ops i) op) op.statement) := by
    intro i op hop
    rw [getElem?_lines, hop]
    rfl
  refine ⟨lines 1 ops, linesOf?_text (linefeed_not_mem_programLines ops), rfl, rfl,
    length_lines 1 ops, fun i op hop => ?_, fun i j hij => ?_⟩
  · have hbefore : 1 ≤ depthBefore ops i := one_le_foldl_depthAfter _
    have hdepth : 1 ≤ lineDepth (depthBefore ops i) op := by
      rw [lineDepth_depthBefore hop]
      exact one_le_foldl_depthAfter _
    exact ⟨hbefore, hdepth, lineDepth_eq_level hop, hline i op hop⟩
  · obtain ⟨hstart, hend, heq, hlt⟩ := lineDepth_of_matched hij
    refine ⟨_, _, hline i _ hstart, hline j _ hend, ?_, fun k line hik hkj hk => ?_⟩
    · rw [indentation_indented, indentation_indented, heq]
    · rw [getElem?_lines, Option.map_eq_some_iff] at hk
      obtain ⟨op, hop, rfl⟩ := hk
      rw [indentation_indented, indentation_indented]
      exact Nat.mul_lt_mul_of_pos_left (hlt k op hik hkj hop) (by omega)

/-- A loop within an open one, after two stray loop ends. -/
theorem program_levels_stray :
    let ops : List Op := [.loopEnd, .loopEnd, .loopStart, .loopStart, .write, .loopEnd]
    Matched Op.side? ops 3 5 ∧ ∃ body : List String,
      linesOf? (program ops).toList = some ((header ++ body ++ footer).map String.toList) ∧
        body[4]? = some (String.ofList (List.replicate 12 ' ') ++ "putchar(*ptr);") ∧
        ∃ first last, body[3]? = some first ∧ body[5]? = some last ∧
          indentation last = indentation first ∧
          ∀ k line, 3 < k → k < 5 → body[k]? = some line →
            indentation first < indentation line := by
  intro ops
  have hmatched : Matched Op.side? ops 3 5 := by decide
  obtain ⟨body, hbody, -, -, -, hlevels, hpairs⟩ := program_levels ops
  obtain ⟨-, -, -, hwrite⟩ := hlevels 4 .write rfl
  exact ⟨hmatched, body, hbody, hwrite, hpairs 3 5 hmatched⟩

end TapeC.Listing
