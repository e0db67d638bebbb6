import TapeC.Listing.Statement

/-!
# The generated program

A fixed frame of four lines before and two lines after the statements, one statement a line. A
line is indented by four blanks for each loop around it and one more level for the function body;
the end of a loop stands at the level of its beginning. A loop end without a beginning stays at
the first level: no statement is indented less.
-/

namespace TapeC.Listing

/-- The number of cells on the tape of a generated program. -/
def tapeSize : Nat := 30000

def header : List String :=
  ["#include <stdio.h>",
    "int main() \x7b",
    "    unsigned char memory[" ++ toString tapeSize ++ "] = \x7b0\x7d;",
    "    unsigned char *ptr = memory;"]

def footer : List String := ["    return 0;", "\x7d"]

/-- A line that is indented by `depth` levels. -/
def indented (depth : Nat) (line : String) : String :=
  String.ofList (List.replicate (4 * depth) ' ') ++ line

/-- The level of an op's own line, when the level before it is `depth`. -/
def lineDepth (depth : Nat) : Op → Nat
  | .loopEnd => max (depth - 1) 1
  | _ => depth

/-- The level after an op, when the level before it is `depth`. -/
def depthAfter (depth : Nat) : Op → Nat
  | .loopStart => depth + 1
  | op => lineDepth depth op

/-- The lines of the ops from level `depth` on, after those of `done`, which stand in reverse. -/
def linesOnto (done : List String) (depth : Nat) : List Op → List String
  | [] => done.reverse
  | op :: ops =>
    linesOnto (indented (lineDepth depth op) op.statement :: done) (depthAfter depth op) ops

/-- The lines of the ops from level `depth` on. -/
def lines (depth : Nat) (ops : List Op) : List String := linesOnto [] depth ops

theorem linesOnto_eq (done : List String) (depth : Nat) (ops : List Op) :
    linesOnto done depth ops = done.reverse ++ lines depth ops := by
  induction ops generalizing done depth with
  | nil => simp [lines, linesOnto]
  | cons op ops ih =>
    rw [lines, linesOnto, linesOnto, ih, ih [_]]
    simp

@[simp] theorem lines_nil (depth : Nat) : lines depth [] = [] := rfl

theorem lines_cons (depth : Nat) (op : Op) (ops : List Op) :
    lines depth (op :: ops) =
      indented (lineDepth depth op) op.statement :: lines (depthAfter depth op) ops := by
  rw [lines, linesOnto, linesOnto_eq]
  rfl

/-- A program has a line for each op. -/
theorem length_lines (depth : Nat) (ops : List Op) : (lines depth ops).length = ops.length := by
  induction ops generalizing depth with
  | nil => rfl
  | cons op ops ih => rw [lines_cons, List.length_cons, ih, List.length_cons]

/-- The line of an op is at the depth that the ops before it lead to. -/
theorem getElem?_lines (depth : Nat) (ops : List Op) (i : Nat) :
    (lines depth ops)[i]? = ops[i]?.map fun op =>
      indented (lineDepth ((ops.take i).foldl depthAfter depth) op) op.statement := by
  induction ops generalizing depth i with
  | nil => rfl
  | cons op ops ih =>
    rw [lines_cons]
    cases i with
    | zero => rfl
    | succ i => exact ih _ i

/-- Lines as text, each with its line feed. -/
def text (ls : List String) : String := String.join (ls.map (· ++ "\n"))

theorem text_cons (l : String) (ls : List String) : text (l :: ls) = l ++ "\n" ++ text ls := by
  rw [text, List.map_cons, String.join_cons, text]

theorem text_singleton (l : String) : text [l] = l ++ "\n" := by
  rw [text_cons]
  exact String.append_empty

theorem text_append (ls ms : List String) : text (ls ++ ms) = text ls ++ text ms := by
  rw [text, List.map_append, String.join_append, text, text]

/-- The place of the last character of line number `n`, counted from zero, in the text of the
lines. -/
def lineEnd (ls : List String) (n : Nat) : Nat := (text (ls.take (n + 1))).length - 2

/-- The lines of the program that does the ops. -/
def programLines (ops : List Op) : List String := header ++ lines 1 ops ++ footer

/-- The program that does the ops. -/
def program (ops : List Op) : String := text (programLines ops)

end TapeC.Listing
