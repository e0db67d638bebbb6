import TapeC.Compile
import TapeC.Proofs.Brackets
import TapeC.Proofs.Lexer.Steps
import TapeC.Proofs.Listing.Reading

/-!
# The braces of a generated program

**Theorem (`compile_braces`).** The braces of a program are paired as the brackets of its text are.
The first loop end without a beginning closes the function body, and so the body's brace is paired
with the last one of the program if and only if the brackets are balanced; the braces of two
brackets are paired if and only if the brackets are, balanced or not.

Counting braces would not do: the program of a text such as `][` has as many braces of either side
as that of `[]`. The proof keeps all sides instead. The braces before that of an op are three of the
frame and then one for each loop op before it (`isAfter_loopBrace`), whatever the indentation; those
three leave one open that the loop ops see as one more level.
-/

namespace TapeC

open Brackets

namespace Listing

/-- The place of the brace that opens the function body. -/
def bodyBrace (ops : List Op) : Nat := lineEnd (programLines ops) 1

/-- The place of the brace of op number `k`, which begins or ends a loop. -/
def loopBrace (ops : List Op) (k : Nat) : Nat := lineEnd (programLines ops) (header.length + k)

/-- The place of the last brace. -/
def lastBrace (ops : List Op) : Nat := lineEnd (programLines ops) ((programLines ops).length - 1)

/-! ## Lines -/

theorem toList_text_append (ls ms : List String) :
    (text (ls ++ ms)).toList = (text ls).toList ++ (text ms).toList := by
  rw [text_append, String.toList_append]

/-- A brace at the end of a line comes after those of the lines before it. -/
theorem isAfter_lineEnd {ls : List String} {n : Nat} {l : String} {xs : List Char} {c : Char}
    {s : Side} (hn : ls[n]? = some l) (hl : l.toList = xs ++ [c]) (hc : braceSide? c = some s)
    (hxs : sides braceSide? xs = []) :
    IsAfter braceSide? s (sides braceSide? (text (ls.take n)).toList) (text ls).toList
      (lineEnd ls n) := by
  have htext : (text ls).toList =
      ((text (ls.take n)).toList ++ xs) ++ c :: '\n' :: (text (ls.drop (n + 1))).toList := by
    conv_lhs => rw [eq_take_append hn, toList_text_append, toList_text_cons, hl]
    simp only [List.append_assoc, List.singleton_append]
  have hplace : lineEnd ls n = ((text (ls.take n)).toList ++ xs).length := by
    rw [lineEnd, List.take_add_one, hn, ← String.length_toList, Option.toList_some,
      toList_text_append, toList_text_cons, hl]
    simp only [List.length_append, List.length_cons, List.length_nil, toList_text_nil]
    omega
  have hafter := isAfter_append hc ((text (ls.take n)).toList ++ xs)
    ('\n' :: (text (ls.drop (n + 1))).toList)
  rw [sides_append, hxs, List.append_nil] at hafter
  rw [htext, hplace]
  exact hafter

theorem take_lines (depth : Nat) (ops : List Op) (k : Nat) :
    (lines depth ops).take k = lines depth (ops.take k) := by
  induction ops generalizing depth k with
  | nil => simp
  | cons op ops ih =>
    cases k with
    | zero => rfl
    | succ k => rw [lines_cons, List.take_succ_cons, List.take_succ_cons, lines_cons, ih]

theorem exists_getElem?_lines {ops : List Op} {k : Nat} {op : Op} (h : ops[k]? = some op)
    (depth : Nat) : ∃ d, (lines depth ops)[k]? = some (indented d op.statement) := by
  rw [getElem?_lines, h]
  exact ⟨_, rfl⟩

/-! ## Sides -/

theorem sides_eq_nil {cs : List Char} (h : ∀ c ∈ cs, braceSide? c = none) :
    sides braceSide? cs = [] := List.filterMap_eq_nil_iff.2 h

theorem braceSide?_eq_none {c : Char} (h : c.isDigit = true) : braceSide? c = none := by
  rw [braceSide?, if_neg, if_neg] <;> rintro rfl <;> cases h

theorem sides_blanks (n : Nat) : sides braceSide? (List.replicate n ' ') = [] :=
  sides_eq_nil fun c hc => by rw [List.eq_of_mem_replicate hc]; rfl

theorem sides_indented (depth : Nat) (line : String) :
    sides braceSide? (indented depth line).toList = sides braceSide? line.toList := by
  rw [toList_indented, sides_append, sides_blanks, List.nil_append]

/-- Only the lines of loops have a brace, one each. -/
theorem sides_statement (op : Op) :
    sides braceSide? op.statement.toList = op.side?.toList := by
  cases op with
  | arith a n =>
    have hdigits : sides braceSide? (Nat.toDigits 10 n) = [] :=
      sides_eq_nil fun c hc =>
        braceSide?_eq_none (Nat.isDigit_of_mem_toDigits (by omega) (by omega) hc)
    rw [Op.toList_statement_arith, sides_append, sides_append, hdigits]
    cases a <;> rfl
  | write | read | loopStart | loopEnd => decide

theorem sides_text_cons (l : String) (ls : List String) :
    sides braceSide? (text (l :: ls)).toList =
      sides braceSide? l.toList ++ sides braceSide? (text ls).toList := by
  rw [toList_text_cons, sides_append]
  rfl

/-- The braces of the ops' lines are those of the ops, at whatever level they begin. -/
theorem sides_text_lines (depth : Nat) (ops : List Op) :
    sides braceSide? (text (lines depth ops)).toList = sides Op.side? ops := by
  induction ops generalizing depth with
  | nil => rfl
  | cons op ops ih =>
    rw [lines_cons, sides_text_cons, sides_indented, sides_statement, ih, sides_cons]

/-! ## Places -/

/-- The braces of the frame before the first op. -/
def frame : List Side := [.opening, .opening, .closing]

theorem sides_text_header : sides braceSide? (text header).toList = frame := by decide

/-- The lines of loops end with their brace. -/
theorem exists_statement_eq {op : Op} {s : Side} (h : op.side? = some s) :
    ∃ xs c, op.statement.toList = xs ++ [c] ∧ braceSide? c = some s ∧
      sides braceSide? xs = [] := by
  cases op with
  | loopStart => exact ⟨"while (*ptr) ".toList, '\x7b', rfl, h, rfl⟩
  | loopEnd => exact ⟨[], '\x7d', rfl, h, rfl⟩
  | arith a n => cases h
  | write | read => cases h

variable {ops : List Op}

theorem sides_program (ops : List Op) :
    sides braceSide? (program ops).toList = frame ++ sides Op.side? ops ++ [.closing] := by
  have hfooter : sides braceSide? (text footer).toList = [.closing] := by decide
  rw [program, programLines, toList_text_append, toList_text_append, sides_append, sides_append,
    sides_text_header, sides_text_lines, hfooter]

theorem isAfter_bodyBrace :
    IsAfter braceSide? .opening [] (program ops).toList (bodyBrace ops) := by
  have hline : (programLines ops)[1]? = some "int main() \x7b" := rfl
  have hend : "int main() \x7b".toList = "int main() ".toList ++ ['\x7b'] := rfl
  have htake : (programLines ops).take 1 = ["#include <stdio.h>"] := rfl
  have hfirst : sides braceSide? (text ["#include <stdio.h>"]).toList = [] := by decide
  have hafter := isAfter_lineEnd hline hend rfl rfl
  rw [htake, hfirst] at hafter
  exact hafter

/-- The brace of an op comes after those of the frame and of the ops before it. -/
theorem isAfter_loopBrace {k : Nat} {s : Side} {ss : List Side}
    (h : IsAfter Op.side? s ss ops k) :
    IsAfter braceSide? s (frame ++ ss) (program ops).toList (loopBrace ops k) := by
  obtain ⟨op, hop, hs⟩ := Option.bind_eq_some_iff.1 h.side_eq
  obtain ⟨xs, c, hstatement, hc, hxs⟩ := exists_statement_eq hs
  obtain ⟨d, hd⟩ := exists_getElem?_lines hop 1
  have hk : k < (lines 1 ops).length := (List.getElem?_eq_some_iff.1 hd).1
  have hline : (programLines ops)[header.length + k]? = some (indented d op.statement) := by
    rw [programLines, List.append_assoc, List.getElem?_append_right (Nat.le_add_right _ _),
      Nat.add_sub_cancel_left, List.getElem?_append_left hk, hd]
  have htake : (programLines ops).take (header.length + k) = header ++ lines 1 (ops.take k) := by
    rw [programLines, List.append_assoc, List.take_length_add_append,
      List.take_append_of_le_length (Nat.le_of_lt hk), take_lines]
  have hend : (indented d op.statement).toList = (List.replicate (4 * d) ' ' ++ xs) ++ [c] := by
    rw [toList_indented, hstatement, List.append_assoc]
  have hblanks : sides braceSide? (List.replicate (4 * d) ' ' ++ xs) = [] := by
    rw [sides_append, sides_blanks, hxs, List.append_nil]
  have hafter := isAfter_lineEnd hline hend hc hblanks
  rw [htake, toList_text_append, sides_append, sides_text_header, sides_text_lines, h.sides_eq]
    at hafter
  exact hafter

theorem isAfter_lastBrace :
    IsAfter braceSide? .closing (frame ++ sides Op.side? ops) (program ops).toList
      (lastBrace ops) := by
  have hlines : programLines ops = (header ++ lines 1 ops ++ ["    return 0;"]) ++ ["\x7d"] := by
    rw [List.append_assoc]
    rfl
  have hnumber : (programLines ops).length - 1 =
      (header ++ lines 1 ops ++ ["    return 0;"]).length := by
    rw [hlines, List.length_append, List.length_singleton, Nat.add_sub_cancel]
  have hline : (programLines ops)[(programLines ops).length - 1]? = some "\x7d" := by
    rw [hnumber, hlines, List.getElem?_append_right (Nat.le_refl _), Nat.sub_self]
    rfl
  have hend : "\x7d".toList = [] ++ ['\x7d'] := rfl
  have hafter := isAfter_lineEnd hline hend rfl rfl
  have hreturn : sides braceSide? (text ["    return 0;"]).toList = [] := by decide
  rw [hnumber, hlines, List.take_left, ← hlines, toList_text_append, toList_text_append,
    sides_append, sides_append, sides_text_header, sides_text_lines, hreturn, List.append_nil]
    at hafter
  rw [lastBrace, hnumber]
  exact hafter

/-! ## Pairs -/

theorem matched_bodyBrace_iff :
    Matched braceSide? (program ops).toList (bodyBrace ops) (lastBrace ops) ↔
      Balanced Op.side? ops := by
  rw [isAfter_bodyBrace.matched_iff isAfter_lastBrace, balanced_iff_closes]
  simp [frame]

theorem matched_loopBrace_iff {k l : Nat} {ss ts : List Side}
    (hk : IsAfter Op.side? .opening ss ops k) (hl : IsAfter Op.side? .closing ts ops l) :
    Matched braceSide? (program ops).toList (loopBrace ops k) (loopBrace ops l) ↔
      Matched Op.side? ops k l := by
  rw [(isAfter_loopBrace hk).matched_iff (isAfter_loopBrace hl), hk.matched_iff hl]
  simp

theorem isNth_loopBrace_opening {k i : Nat} (h : IsNth Op.side? .opening i ops k) :
    IsNth braceSide? .opening (i + 2) (program ops).toList (loopBrace ops k) := by
  have hbrace := (isAfter_loopBrace h.isAfter).isNth
  rw [List.count_append, h.count_eq, Nat.add_comm] at hbrace
  exact hbrace

theorem isNth_loopBrace_closing {k i : Nat} (h : IsNth Op.side? .closing i ops k) :
    IsNth braceSide? .closing (i + 1) (program ops).toList (loopBrace ops k) := by
  have hbrace := (isAfter_loopBrace h.isAfter).isNth
  rw [List.count_append, h.count_eq, Nat.add_comm] at hbrace
  exact hbrace

theorem isNth_lastBrace :
    IsNth braceSide? .closing ((sides braceSide? (program ops).toList).count .closing - 1)
      (program ops).toList (lastBrace ops) := by
  rw [sides_program, List.count_append, List.count_singleton_self, Nat.add_sub_cancel]
  exact isAfter_lastBrace.isNth

end Listing

/-! ## Texts -/

theorem sides_optimize (o : Optimizations) (text : String) :
    sides Op.side? (optimize o (instructionsOf text)) = sides bracketSide? text.toList := by
  rw [← sides_flatMap_unfold, unfold_optimize, instructionsOf_eq, sides_filterMap_ofChar?]

theorem sides_sanitize (text : String) :
    sides bracketSide? (sanitize text).toList = sides bracketSide? text.toList := by
  rw [sanitize, String.toList_ofList, ← sides_filterMap_ofChar?, ← sides_filterMap_ofChar?,
    instructionsOf_eq, List.filterMap_map]
  simp

/-- **Braces mirror brackets.** The brace of the function body is paired with the last one if and
only if the brackets are balanced; the braces of two brackets are paired if and only if the brackets
are. -/
theorem compile_braces (o : Optimizations) (text : String) :
    let ops := optimize o (instructionsOf text)
    let program := (compile o text).toList
    (IsNth braceSide? .opening 0 program (Listing.bodyBrace ops) ∧
      IsNth braceSide? .closing ((sides braceSide? program).count .closing - 1) program
        (Listing.lastBrace ops) ∧
      (Matched braceSide? program (Listing.bodyBrace ops) (Listing.lastBrace ops) ↔
        Balanced bracketSide? (sanitize text).toList)) ∧
    ∀ i j p q, IsNth bracketSide? .opening i text.toList p →
      IsNth bracketSide? .closing j text.toList q →
      ∃ k l, IsNth Op.side? .opening i ops k ∧ IsNth Op.side? .closing j ops l ∧
        IsNth braceSide? .opening (i + 2) program (Listing.loopBrace ops k) ∧
        IsNth braceSide? .closing (j + 1) program (Listing.loopBrace ops l) ∧
        (Matched braceSide? program (Listing.loopBrace ops k) (Listing.loopBrace ops l) ↔
          Matched bracketSide? text.toList p q) := by
  intro ops program
  have hops : sides bracketSide? text.toList = sides Op.side? ops := (sides_optimize o text).symm
  have hsanitize : sides Op.side? ops = sides bracketSide? (sanitize text).toList := by
    rw [sides_sanitize, hops]
  refine ⟨⟨Listing.isAfter_bodyBrace.isNth, Listing.isNth_lastBrace,
    Listing.matched_bodyBrace_iff.trans (balanced_congr hsanitize)⟩, fun i j p q hp hq => ?_⟩
  obtain ⟨k, hk⟩ := hp.isAfter.exists_of_sides_eq hops
  obtain ⟨l, hl⟩ := hq.isAfter.exists_of_sides_eq hops
  have hki : IsNth Op.side? .opening i ops k := hp.count_eq ▸ hk.isNth
  have hlj : IsNth Op.side? .closing j ops l := hq.count_eq ▸ hl.isNth
  refine ⟨k, l, hki, hlj, Listing.isNth_loopBrace_opening hki, Listing.isNth_loopBrace_closing hlj,
    (Listing.matched_loopBrace_iff hk hl).trans ?_⟩
  rw [hk.matched_iff hl, hp.isAfter.matched_iff hq.isAfter]

/-- A stray bracket closes the function body, and the loop after it is closed by the frame. -/
theorem compile_braces_stray :
    let text := "[+] ] stray [[-]"
    let ops := optimize .all (instructionsOf text)
    let program := (compile .all text).toList
    (Matched braceSide? program (Listing.bodyBrace ops) (Listing.lastBrace ops) ↔
      Balanced bracketSide? (sanitize text).toList) ∧
    IsNth bracketSide? .opening 2 text.toList 13 ∧ IsNth bracketSide? .closing 2 text.toList 15 ∧
    ∃ k l, IsNth Op.side? .opening 2 ops k ∧ IsNth Op.side? .closing 2 ops l ∧
      (Matched braceSide? program (Listing.loopBrace ops k) (Listing.loopBrace ops l) ↔
        Matched bracketSide? text.toList 13 15) := by
  intro text ops program
  have hp : IsNth bracketSide? .opening 2 text.toList 13 := by decide
  have hq : IsNth bracketSide? .closing 2 text.toList 15 := by decide
  obtain ⟨⟨-, -, hbody⟩, hloops⟩ := compile_braces .all text
  obtain ⟨k, l, hk, hl, -, -, hiff⟩ := hloops 2 2 13 15 hp hq
  exact ⟨hbody, hp, hq, k, l, hk, hl, hiff⟩

end TapeC
