import TapeC.Proofs.CommandLine.Tracing
import TapeC.Proofs.Listing.Reading
import TapeC.Proofs.Text.Quoted

/-!
# The comments of a trace

**Theorem (`CommandLine.run_listsComments`).** A verbose run lists the comments of its text after
the lines about lexing, one line for each, under a heading with their number. The lines are
followed by the heading of the sanitized text, and each of them is read as the line, the column
and the text of its comment. So the trace says exactly which comments there are, whatever is in
them. The comments of a text are those among its tokens (`ListedComment.among`).

The host may be anything, with any clock, files and formatter: all that is used of it is that it
reads the file. A run prints at the end of what it printed before (`exists_output_present`,
`exists_output_foldProgram`), so the list stays where the lexing stage puts it
(`exists_output_run`).

Lines with no line feed in them are found again in a text (`Listing.split_text_append`), and the
line of a comment has none, since the comment is quoted.
-/

namespace TapeC.CommandLine

variable {σ : Type} {host : Host (StateT σ Option)} {p : Palette} {args : Args}
  {w w₁ w' : σ} {o : Outcome} {shown text source code : String}

/-! ## Lines of comments -/

namespace ListedComment

theorem toList_written (c : ListedComment) :
    c.written.toList = ' ' :: ' ' :: (Nat.toDigits 10 c.line ++ ':' ::
      (Nat.toDigits 10 c.col ++ ' ' :: (Text.quote c.text).toList)) := by
  simp [written]

theorem ne_of_mem_toDigits {n : Nat} {c d : Char} (hd : d.isDigit = false)
    (h : c ∈ Nat.toDigits 10 n) : c ≠ d := by
  rintro rfl
  rw [Nat.isDigit_of_mem_toDigits (by decide) (by decide) h] at hd
  cases hd

/-- A number goes on to what is no digit. -/
theorem span_toDigits {d : Char} (hd : d.isDigit = false) (n : Nat) (cs : List Char) :
    (Nat.toDigits 10 n ++ d :: cs).takeWhile (· != d) = Nat.toDigits 10 n ∧
      (Nat.toDigits 10 n ++ d :: cs).dropWhile (· != d) = d :: cs := by
  have hdigits : ∀ c ∈ Nat.toDigits 10 n, (c != d) = true :=
    fun c hc => bne_iff_ne.2 (ne_of_mem_toDigits hd hc)
  rw [List.takeWhile_append_of_pos hdigits, List.dropWhile_append_of_pos hdigits]
  simp

/-- **A comment is read off its line.** -/
theorem ofLine?_written (c : ListedComment) : ofLine? c.written = some c := by
  have hcolon : ':'.isDigit = false := by decide
  have hblank : ' '.isDigit = false := by decide
  unfold ofLine?
  rw [toList_written]
  simp only [span_toDigits hcolon, span_toDigits hblank, List.tail_cons,
    Text.readDecimal?_toDigits, String.ofList_toList, Text.unquote?_quote]
  rfl

theorem linefeed_not_mem_written (c : ListedComment) : '\n' ∉ c.written.toList := by
  have hdigits (n : Nat) : '\n' ∉ Nat.toDigits 10 n := fun h =>
    ne_of_mem_toDigits (by decide) h rfl
  rw [toList_written]
  simp [hdigits, Text.linefeed_not_mem_quote]

end ListedComment

/-! ## What is printed stays printed -/

/-- A run of two steps is a run of the first and one of the second. -/
theorem exists_of_run_bind {α β : Type} {x : StateT σ Option α}
    {f : α → StateT σ Option β} {r : β × σ} (h : (x >>= f).run w = some r) :
    ∃ a w₁, x.run w = some (a, w₁) ∧ (f a).run w₁ = some r := by
  rw [StateT.run_bind] at h
  obtain ⟨⟨a, w₁⟩, hx, hf⟩ := Option.bind_eq_some_iff.1 h
  exact ⟨a, w₁, hx, hf⟩

theorem exists_output_finish (h : (finish host p args shown code).run w = some (o, w')) :
    ∃ rest, o.output = shown ++ rest := by
  unfold finish at h
  cases hpath : args.output with
  | none =>
    rw [hpath] at h
    obtain ⟨rfl, -⟩ := Prod.mk.inj (Option.some.inj h)
    exact ⟨"", String.append_empty.symm⟩
  | some path =>
    rw [hpath] at h
    obtain ⟨saved, w₁, -, h⟩ := exists_of_run_bind h
    cases saved with
    | error cause =>
      obtain ⟨rfl, -⟩ := Prod.mk.inj (Option.some.inj h)
      exact ⟨"", String.append_empty.symm⟩
    | ok _ =>
      obtain ⟨rfl, -⟩ := Prod.mk.inj (Option.some.inj h)
      exact ⟨_, rfl⟩

theorem exists_output_present (h : (present host p args shown source).run w = some (o, w')) :
    ∃ rest, o.output = shown ++ rest := by
  unfold present at h
  obtain ⟨start, w₁, -, h⟩ := exists_of_run_bind h
  obtain ⟨formatted, w₂, -, h⟩ := exists_of_run_bind h
  cases formatted with
  | error e =>
    obtain ⟨rfl, -⟩ := Prod.mk.inj (Option.some.inj h)
    exact ⟨_, rfl⟩
  | ok code =>
    obtain ⟨trace, w₃, -, h⟩ := exists_of_run_bind h
    obtain ⟨rest, hrest⟩ := exists_output_finish h
    rw [hrest]
    simp only [String.append_assoc]
    exact ⟨_, rfl⟩

theorem exists_output_foldProgram {is : List Instruction}
    (h : (foldProgram host p args shown is).run w = some (o, w')) :
    ∃ rest, o.output = shown ++ rest := by
  unfold foldProgram at h
  obtain ⟨start, w₁, -, h⟩ := exists_of_run_bind h
  obtain ⟨trace, w₂, -, h⟩ := exists_of_run_bind h
  obtain ⟨rest, hrest⟩ := exists_output_present h
  rw [hrest]
  simp only [String.append_assoc]
  exact ⟨_, rfl⟩

/-- The lines of a timed stage are told with some duration. -/
theorem exists_traceSince (hverbose : args.verbose = true) {start : Nat}
    {lines : Duration → List String} {trace : String}
    (h : (host.traceSince args start lines).run w = some (trace, w')) :
    ∃ took, trace = Listing.text (lines took) := by
  rw [Host.traceSince, if_pos hverbose] at h
  obtain ⟨stop, w₁, -, h⟩ := exists_of_run_bind h
  obtain ⟨rfl, -⟩ := Prod.mk.inj (Option.some.inj h)
  exact ⟨_, rfl⟩

/-- **The list of comments stands after the lines about lexing.** -/
theorem exists_output_run (hverbose : args.verbose = true)
    (hread : (host.read args.file).run w = some (.ok (Utf8.encode text), w₁))
    (hrun : (run host p args).run w = some (o, w')) :
    ∃ lexing rest, o.output = Listing.text (Trace.untilLexed p args.file text lexing) ++
      (Listing.text (Trace.listing p text ++ [p.blue "Sanitized input:"]) ++ rest) := by
  unfold run at hrun
  obtain ⟨content, w₂, hcontent, hrun⟩ := exists_of_run_bind hrun
  rw [hread] at hcontent
  obtain ⟨rfl, rfl⟩ := Prod.mk.inj (Option.some.inj hcontent)
  rw [textOf_eq_ok_iff.2 rfl] at hrun
  unfold compileText at hrun
  obtain ⟨start, w₃, -, hrun⟩ := exists_of_run_bind hrun
  obtain ⟨trace, w₄, htrace, hrun⟩ := exists_of_run_bind hrun
  obtain ⟨lexing, rfl⟩ := exists_traceSince hverbose htrace
  obtain ⟨rest, hrest⟩ := exists_output_foldProgram hrun
  have hlines := Trace.running_append_lexed p args.file text lexing
  refine ⟨lexing, Listing.text [sanitize text] ++ rest, ?_⟩
  rw [hrest, trace_of_verbose hverbose, trace_of_verbose hverbose, ← Listing.text_append,
    ← Listing.text_append, hlines]
  simp only [← String.append_assoc, ← Listing.text_append, List.append_assoc, List.cons_append,
    List.nil_append]

/-! ## The list of comments -/

/-- Lines that list comments: one line for each, in their order, which reads as its comment. None of
them could be taken for the heading of the sanitized text. -/
structure Trace.IsCommentList (p : Palette) (comments : List ListedComment)
    (ls : List (List Char)) : Prop where
  length_eq : ls.length = comments.length
  read_eq : ls.mapM (fun l => ListedComment.ofLine? (String.ofList l)) = some comments
  heading_not_mem : (p.blue "Sanitized input:").toList ∉ ls

namespace Trace

theorem linefeed_not_mem_heading (hp : p = .plain ∨ p = .coloured) :
    ∀ words ∈ ["Comments:", "Sanitized input:"], '\n' ∉ (p.blue words).toList := by
  rcases hp with rfl | rfl <;> decide

theorem linefeed_not_mem_listing (hp : p = .plain ∨ p = .coloured) (text : String) :
    ∀ l ∈ listing p text ++ [p.blue "Sanitized input:"], '\n' ∉ l.toList := by
  intro l hl
  simp only [listing, List.cons_append, List.mem_cons, List.mem_append, List.mem_map,
    List.not_mem_nil, or_false] at hl
  rcases hl with rfl | ⟨c, -, rfl⟩ | rfl
  · have hnumber (n : Nat) : '\n' ∉ Nat.toDigits 10 n := fun h =>
      ListedComment.ne_of_mem_toDigits (by decide) h rfl
    have hwords := linefeed_not_mem_heading hp "Comments:" (by simp)
    simp [hwords, hnumber]
  · exact c.linefeed_not_mem_written
  · exact linefeed_not_mem_heading hp "Sanitized input:" (by simp)

theorem isCommentList (hp : p = .plain ∨ p = .coloured) (comments : List ListedComment) :
    IsCommentList p comments (comments.map fun c => c.written.toList) where
  length_eq := List.length_map _
  read_eq := by
    induction comments with
    | nil => rfl
    | cons c comments ih =>
      rw [List.map_cons, List.mapM_cons, String.ofList_toList, ListedComment.ofLine?_written, ih]
      rfl
  heading_not_mem := by
    intro h
    obtain ⟨c, -, hc⟩ := List.mem_map.1 h
    -- The line of a comment begins with a blank.
    have hhead : (p.blue "Sanitized input:").toList.head? ≠ some ' ' := by
      rcases hp with rfl | rfl <;> decide
    rw [← hc, ListedComment.toList_written] at hhead
    exact hhead rfl

end Trace

/-- **A trace lists the comments.** -/
theorem run_listsComments {σ : Type} (host : Host (StateT σ Option)) (env : Environment)
    (args : Args) {w w₁ w' : σ} {text : String} {o : Outcome} (hverbose : args.verbose = true)
    (hread : (host.read args.file).run w = some (.ok (Utf8.encode text), w₁))
    (hrun : (run host (paletteOf env) args).run w = some (o, w')) :
    let comments := ListedComment.among (Lexer.ofText text).tokens
    ∃ lexing after ls rest,
      o.output = Listing.text (Trace.untilLexed (paletteOf env) args.file text lexing) ++ after ∧
        Text.split '\n' after.toList =
          ((paletteOf env).blue "Comments:" ++ " " ++ toString comments.length).toList ::
            (ls ++ ((paletteOf env).blue "Sanitized input:").toList :: rest) ∧
        Trace.IsCommentList (paletteOf env) comments ls := by
  intro comments
  have hpalette := paletteOf_eq env
  obtain ⟨lexing, rest, houtput⟩ := exists_output_run hverbose hread hrun
  refine ⟨lexing, _, _, Text.split '\n' rest.toList, houtput, ?_, Trace.isCommentList hpalette _⟩
  rw [String.toList_append, Listing.split_text_append (Trace.linefeed_not_mem_listing hpalette _),
    Trace.listing]
  simp [comments]

/-- Comments with a line feed, with quotes, and with what looks like an escape or like a heading. -/
theorem run_listsComments_escapes :
    let file : Path := ⟨Utf8.encode "p.bf"⟩
    let text := "say \"a\nb\"+\\n+Sanitized input:\n"
    let w : World := ⟨⟨[], [([file.bytes], .file (Utf8.encode text) false)]⟩, fun n => n * n⟩
    let host : Host (StateT World Option) := treeHostWith fun _ source t => some (.ok source, t)
    let args : Args := ⟨file, none, true, false, false, "clang-format", "LLVM"⟩
    let comments := ListedComment.among (Lexer.ofText text).tokens
    (host.read file).run w = some (.ok (Utf8.encode text), w) ∧
      ∃ o w', (run host .plain args).run w = some (o, w') ∧
        ∃ lexing after ls rest, o.output =
            Listing.text (Trace.untilLexed .plain file text lexing) ++ after ∧
          Text.split '\n' after.toList =
            ("Comments:" ++ " " ++ toString comments.length).toList ::
              (ls ++ "Sanitized input:".toList :: rest) ∧
          Trace.IsCommentList .plain comments ls := by
  intro file text w host args comments
  have hread : (host.read file).run w = some (.ok (Utf8.encode text), w) := rfl
  have hfile : w.tree.read args.file = .ok (Utf8.encode text) := rfl
  obtain ⟨lexing, folding, formatting, hends⟩ :=
    runIn_of_read (fun _ source t => some (.ok source, t)) .plain args w hfile
  rw [runIn_eq, Option.map_eq_map] at hends
  obtain ⟨⟨o, w'⟩, hrun, -⟩ := Option.map_eq_some_iff.1 hends
  exact ⟨hread, o, w', hrun, run_listsComments host (fun _ => none) args rfl hread hrun⟩

end TapeC.CommandLine
