import TapeC.CommandLine.Pipeline
import TapeC.CommandLine.Trace.Announcement
import TapeC.Proofs.Text.Utf8

/-!
# The stages of a run

Each stage of a run in a file tree either ends it or hands it on to the next stage with the tree as
it is; only the formatter, which may do anything to the files, and the last stage change them. There
is one equation for each stage, and `runIn_of_read` puts them together: a run on a file with the
bytes of a text announces what the text is, hands the compiled program to the formatter, once, and
ends as `Args.presented` says.

The clock is looked at around every stage. What it shows goes nowhere but into the durations of the
trace, so the equations hold for some durations, and how often it was looked at does not matter.

The equations are about every monad that the formatter may run in, so they say as much of a
formatter that never ends as of one that keeps a record of its calls.
-/

namespace TapeC.CommandLine

/-! ## What is asked for -/

/-- The optimizations that the arguments leave in use. -/
def Args.optimizations (args : Args) : Optimizations :=
  if args.noOptimize then .none else .all

/-- Formatting in a file tree, as the arguments ask for it. -/
def Args.formatWith {m : Type → Type} [Monad m] (args : Args) (format : TreeFormatter m)
    (source : String) (t : Tree) : m (Except FormatError String × Tree) :=
  if args.noFormat then pure (.ok source, t) else format ⟨args.clangFormat, args.style⟩ source t

/-! ## Files with the bytes of a text -/

theorem textOf_eq_ok_iff {content : Except HostError Bytes} {text : String} :
    textOf content = .ok text ↔ content = .ok (Utf8.encode text) := by
  cases content with
  | error cause => simp [textOf, Except.bind]
  | ok bs =>
    rw [Except.ok.injEq, ← Utf8.decode_eq_ok_iff]
    change (Utf8.decode bs).mapError (fun _ => HostError.notText) = .ok text ↔ _
    cases Utf8.decode bs with
    | error e => simp [Except.mapError]
    | ok s => simp [Except.mapError]

theorem exists_textOf_eq_error {content : Except HostError Bytes}
    (h : ¬∃ text, content = .ok (Utf8.encode text)) : ∃ cause, textOf content = .error cause := by
  cases htext : textOf content with
  | error cause => exact ⟨cause, rfl⟩
  | ok text => exact absurd ⟨text, textOf_eq_ok_iff.1 htext⟩ h

/-! ## Sorted tokens -/

theorem fst_sortTokens (is : List Instruction) (comments : List LocatedComment)
    (ts : List Located) :
    (sortTokens is comments ts).1 = is.reverse ++ ts.filterMap Located.instruction? := by
  induction ts generalizing is comments with
  | nil => simp [sortTokens]
  | cons t ts ih =>
    obtain ⟨position, _ | _⟩ := t <;>
      simp [sortTokens, ih, List.filterMap_cons, Located.instruction?, Token.instruction?]

/-- The instructions that a loop over the tokens of a text sorts out are those that are read
without the comments. -/
theorem fst_sortTokens_ofText (text : String) :
    (sortTokens [] [] (Lexer.ofText text).tokens).1 = instructionsOf text := by
  rw [fst_sortTokens, instructionsOf, Lexer.instructions_eq, List.reverse_nil, List.nil_append]

/-- What a trace tells of a comment. -/
def Trace.listed (c : LocatedComment) : ListedComment :=
  ⟨c.position.line, c.position.col, c.text⟩

theorem map_listed_snd_sortTokens (is : List Instruction) (comments : List LocatedComment)
    (ts : List Located) :
    (sortTokens is comments ts).2.map Trace.listed =
      comments.reverse.map Trace.listed ++ ListedComment.among ts := by
  induction ts generalizing is comments with
  | nil => simp [sortTokens, ListedComment.among]
  | cons t ts ih =>
    obtain ⟨position, _ | _⟩ := t <;>
      simp [sortTokens, ih, ListedComment.among, Trace.listed]

/-- The comments that the loop sorts out are those among the tokens. -/
theorem map_listed_snd_sortTokens_ofText (text : String) :
    (sortTokens [] [] (Lexer.ofText text).tokens).2.map Trace.listed =
      ListedComment.among (Lexer.ofText text).tokens := by
  rw [map_listed_snd_sortTokens, List.reverse_nil, List.map_nil, List.nil_append]

theorem Trace.commentLine_eq (c : LocatedComment) : commentLine c = (listed c).written := by
  simp only [commentLine, Position.render, ListedComment.written, listed, String.append_assoc]

/-! ## What is printed -/

section

variable (p : Palette) (args : Args)

theorem trace_append (ls ms : List String) :
    args.trace ls ++ args.trace ms = args.trace (ls ++ ms) := by
  unfold Args.trace
  split
  · rw [Listing.text_append]
  · rfl

theorem trace_of_not_verbose {args : Args} (h : args.verbose = false) (lines : List String) :
    args.trace lines = "" := by
  rw [Args.trace, h, if_neg Bool.false_ne_true]

theorem trace_of_verbose {args : Args} (h : args.verbose = true) (lines : List String) :
    args.trace lines = Listing.text lines := by
  rw [Args.trace, h, if_pos rfl]

/-- What the lexing stage says. -/
theorem Trace.lexed_eq (text : String) (took : Duration) :
    let sorted := sortTokens [] [] (Lexer.ofText text).tokens
    Trace.lexed p sorted.1 sorted.2 took =
      [p.green "Finished lexing with" ++ " " ++ toString (sanitize text).length
          ++ " instructions in " ++ took.render]
        ++ Trace.listing p text ++ [p.blue "Sanitized input:", sanitize text] := by
  intro sorted
  have hlines : sorted.2.map Trace.commentLine =
      (ListedComment.among (Lexer.ofText text).tokens).map (·.written) := by
    rw [← map_listed_snd_sortTokens_ofText, List.map_map]
    exact List.map_congr_left fun c _ => Trace.commentLine_eq c
  have hcount : sorted.2.length = (ListedComment.among (Lexer.ofText text).tokens).length := by
    rw [← map_listed_snd_sortTokens_ofText, List.length_map]
  have hlength : sorted.1.length = (sanitize text).length := by
    rw [fst_sortTokens_ofText, sanitize, String.length_ofList, List.length_map]
  rw [Trace.lexed, hlines, hcount, hlength, fst_sortTokens_ofText, Trace.listing, sanitize]
  rfl

/-- What a run says until the tokens of a text are sorted. -/
theorem Trace.running_append_lexed (file : Path) (text : String) (took : Duration) :
    let sorted := sortTokens [] [] (Lexer.ofText text).tokens
    Trace.running file ++ Trace.read p text ++ Trace.lexed p sorted.1 sorted.2 took =
      Trace.untilLexed p file text took ++ Trace.listing p text
        ++ [p.blue "Sanitized input:", sanitize text] := by
  intro sorted
  rw [Trace.lexed_eq]
  simp only [Trace.untilLexed, Trace.running, Trace.read, List.cons_append, List.nil_append]

/-- What a run says of a text between reading it and formatting its program. -/
def Trace.compiled (o : Optimizations) (text : String) (lexing folding : Duration) : List String :=
  let sorted := sortTokens [] [] (Lexer.ofText text).tokens
  Trace.read p text ++ Trace.lexed p sorted.1 sorted.2 lexing ++ Trace.optimizing p o
    ++ Trace.optimized p (optimize o sorted.1) folding

theorem Trace.running_append_compiled (file : Path) (o : Optimizations) (text : String)
    (lexing folding : Duration) :
    Trace.running file ++ Trace.compiled p o text lexing folding =
      Trace.announcement p file o text lexing folding := by
  rw [Trace.compiled, ← List.append_assoc, ← List.append_assoc, ← List.append_assoc,
    Trace.running_append_lexed, fst_sortTokens_ofText]
  simp only [Trace.announcement, Trace.fromSanitized, Trace.optimizing, Trace.optimized,
    List.append_assoc, List.cons_append, List.nil_append]

/-! ## How a run ends -/

/-- How a run ends with a formatted program. `shown` is what was printed before. -/
def Args.finished (shown code : String) (t : Tree) : Outcome × Tree :=
  match args.output with
  | none => (.success shown, t)
  | some path =>
    match t.write path.withCExtension (Utf8.encode code) with
    | .error cause => (.failure p shown (.write path.withCExtension cause), t)
    | .ok t' => (.success (shown ++ args.trace (Trace.written p path.withCExtension)), t')

/-- What is printed of a formatted program: the trace shows it, or it is printed by itself. -/
def Args.shown (code : String) (took : Duration) : String :=
  args.trace (Trace.formatted p code took) ++ if args.verbose then "" else code

theorem shown_of_not_verbose {args : Args} (h : args.verbose = false) (code : String)
    (took : Duration) : args.shown p code took = code := by
  rw [Args.shown, trace_of_not_verbose h, h, if_neg Bool.false_ne_true, String.empty_append]

/-- How a run ends by what the formatter says and leaves of the files. -/
def Args.presented (shown : String) (took : Duration) :
    Except FormatError String × Tree → Outcome × Tree
  | (.error e, t) => (.failure p shown (.format e), t)
  | (.ok code, t) => args.finished p (shown ++ args.shown p code took) code t

/-- How a run on a text ends. -/
def Args.ending (text : String) (lexing folding formatting : Duration) :
    Except FormatError String × Tree → Outcome × Tree :=
  args.presented p
    (args.trace (Trace.announcement p args.file args.optimizations text lexing folding
      ++ Trace.formatting p)) formatting

end

/-! ## Stages -/

section

variable {m : Type → Type} [Monad m] (format : TreeFormatter m) (p : Palette) (args : Args)

/-- A run as it is seen: the clock is left out. -/
def seen (r : Outcome × World) : Outcome × Tree := (r.1, r.2.tree)

theorem now_eq (w : World) : (treeHostWith format).now.run w = pure (w.times 0, w.later) := rfl

theorem read_eq (path : Path) (w : World) :
    ((treeHostWith format).read path).run w = pure (w.tree.read path, w) := rfl

theorem write_eq (path : Path) (content : Bytes) (w : World) :
    ((treeHostWith format).write path content).run w =
      pure (match w.tree.write path content with
        | .error e => (.error e, w)
        | .ok t => (.ok (), { w with tree := t })) := by
  simp only [treeHostWith, StateT.run]
  cases w.tree.write path content <;> rfl

variable [LawfulMonad m]

theorem runIn_eq (w : World) :
    runIn format p args w = seen <$> (run (treeHostWith format) p args).run w := by
  rw [map_eq_pure_bind]
  rfl

/-- Looking at the clock leaves the files as they are. -/
theorem exists_traceSince_eq (start : Nat) (lines : Duration → List String) (w : World) :
    ∃ w', w'.tree = w.tree ∧
      ((treeHostWith format).traceSince args start lines).run w =
        pure (args.trace (lines ⟨w.times 0 - start⟩), w') := by
  unfold Host.traceSince
  -- A quiet run does not look at the clock at all.
  by_cases h : args.verbose = true
  · refine ⟨w.later, rfl, ?_⟩
    rw [if_pos h, trace_of_verbose h, StateT.run_bind, now_eq, pure_bind]
    rfl
  · refine ⟨w, rfl, ?_⟩
    rw [if_neg h, trace_of_not_verbose (Bool.not_eq_true _ ▸ h)]
    rfl

/-- **A stage that is timed** goes on with its lines, for some duration, and with the files as they
are. -/
theorem exists_timed_eq (lines : Duration → List String)
    (next : String → StateT World m Outcome) (w : World) :
    ∃ took w', w'.tree = w.tree ∧
      StateT.run (do
        let start ← (treeHostWith format).now
        let trace ← (treeHostWith format).traceSince args start lines
        next trace) w = (next (args.trace (lines took))).run w' := by
  obtain ⟨w', hw', htrace⟩ := exists_traceSince_eq format args (w.times 0) lines w.later
  refine ⟨⟨w.times 1 - w.times 0⟩, w', hw', ?_⟩
  simp only [StateT.run_bind, now_eq, pure_bind, htrace]
  rfl

/-- **Saving** in a file tree is what `Tree.saved` says. -/
theorem save_eq (path : Path) (code : String) (w : World) :
    ((treeHostWith format).save path code).run w =
      pure ((w.tree.saved path code).1, { w with tree := (w.tree.saved path code).2 }) := by
  simp only [Host.save, StateT.run_bind, write_eq, pure_bind, Tree.saved, Tree.save]
  cases w.tree.write path.withCExtension (Utf8.encode code) <;> rfl

theorem finish_eq (shown code : String) (w : World) :
    seen <$> (finish (treeHostWith format) p args shown code).run w =
      pure (args.finished p shown code w.tree) := by
  unfold finish Args.finished
  cases args.output with
  | none => simp [seen]
  | some path =>
    simp only [StateT.run_bind, save_eq, pure_bind, Tree.saved, Tree.save]
    cases w.tree.write path.withCExtension (Utf8.encode code) <;>
      simp [seen, bind, Except.bind]

theorem formatFor_eq (source : String) (w : World) :
    ((treeHostWith format).formatFor args source).run w =
      (fun r => (r.1, { w with tree := r.2 })) <$> args.formatWith format source w.tree := by
  unfold Host.formatFor Args.formatWith
  split
  · rw [map_pure]
    rfl
  · rw [map_eq_pure_bind]
    rfl

/-- Formatting may change the files. The clock is looked at again only if it succeeds. -/
theorem present_eq (shown source : String) (w : World) :
    ∃ took, seen <$> (present (treeHostWith format) p args shown source).run w =
      args.presented p (shown ++ args.trace (Trace.formatting p)) took <$>
        args.formatWith format source w.tree := by
  refine ⟨⟨w.times 1 - w.times 0⟩, ?_⟩
  unfold present
  simp only [StateT.run_bind, now_eq, pure_bind, formatFor_eq, map_bind, bind_map_left]
  rw [map_eq_pure_bind]
  refine bind_congr fun r => ?_
  obtain ⟨formatted, t⟩ := r
  cases formatted with
  | error e => simp [seen, Args.presented]
  | ok code =>
    obtain ⟨w', hw', htrace⟩ := exists_traceSince_eq format args (w.times 0)
      (Trace.formatted p code) { w.later with tree := t }
    dsimp only
    rw [StateT.run_bind, htrace, pure_bind, finish_eq, hw']
    simp only [Args.presented, Args.shown, String.append_assoc]
    rfl

theorem foldProgram_eq (shown : String) (is : List Instruction) (w : World) :
    ∃ folding formatting,
      seen <$> (foldProgram (treeHostWith format) p args shown is).run w =
        args.presented p (shown ++ args.trace (Trace.optimizing p args.optimizations)
            ++ args.trace (Trace.optimized p (optimize args.optimizations is) folding)
            ++ args.trace (Trace.formatting p)) formatting <$>
          args.formatWith format (Listing.program (optimize args.optimizations is)) w.tree := by
  obtain ⟨folding, w', hw', hstage⟩ := exists_timed_eq format args
    (Trace.optimized p (optimize args.optimizations is))
    (fun trace => present (treeHostWith format) p args
      (shown ++ args.trace (Trace.optimizing p args.optimizations) ++ trace)
      (Listing.program (optimize args.optimizations is))) w
  obtain ⟨formatting, hpresent⟩ := present_eq format p args
    (shown ++ args.trace (Trace.optimizing p args.optimizations)
      ++ args.trace (Trace.optimized p (optimize args.optimizations is) folding))
    (Listing.program (optimize args.optimizations is)) w'
  refine ⟨folding, formatting, ?_⟩
  rw [← hw', ← hpresent, ← hstage]
  rfl

theorem compileText_eq (shown text : String) (w : World) :
    ∃ lexing folding formatting,
      seen <$> (compileText (treeHostWith format) p args shown text).run w =
        args.presented p
            (shown ++ args.trace (Trace.compiled p args.optimizations text lexing folding)
              ++ args.trace (Trace.formatting p)) formatting <$>
          args.formatWith format (compile args.optimizations text) w.tree := by
  let sorted := sortTokens [] [] (Lexer.ofText text).tokens
  obtain ⟨lexing, w', hw', hstage⟩ := exists_timed_eq format args
    (Trace.lexed p sorted.1 sorted.2)
    (fun trace => foldProgram (treeHostWith format) p args
      (shown ++ args.trace (Trace.read p text) ++ trace) sorted.1) w
  obtain ⟨folding, formatting, hfold⟩ := foldProgram_eq format p args
    (shown ++ args.trace (Trace.read p text) ++ args.trace (Trace.lexed p sorted.1 sorted.2 lexing))
    sorted.1 w'
  have his : sorted.1 = instructionsOf text := fst_sortTokens_ofText text
  refine ⟨lexing, folding, formatting, ?_⟩
  calc seen <$> (compileText (treeHostWith format) p args shown text).run w
      = seen <$> (foldProgram (treeHostWith format) p args
          (shown ++ args.trace (Trace.read p text)
            ++ args.trace (Trace.lexed p sorted.1 sorted.2 lexing)) sorted.1).run w' :=
        congrArg (seen <$> ·) hstage
    _ = _ := by
      rw [hfold, hw', compile, ← his, Trace.compiled]
      simp only [← trace_append, String.append_assoc]
      rfl

/-! ## Whole runs -/

/-- **A run on a text** announces it, has its program formatted, and ends by what the formatter
says. -/
theorem runIn_of_read (w : World) {text : String}
    (h : w.tree.read args.file = .ok (Utf8.encode text)) :
    ∃ lexing folding formatting, runIn format p args w =
      args.ending p text lexing folding formatting <$>
        args.formatWith format (compile args.optimizations text) w.tree := by
  obtain ⟨lexing, folding, formatting, hcompile⟩ :=
    compileText_eq format p args (args.trace (Trace.running args.file)) text w
  refine ⟨lexing, folding, formatting, ?_⟩
  rw [Args.ending, ← Trace.running_append_compiled, ← trace_append, ← trace_append, ← hcompile,
    runIn_eq, run]
  simp only [StateT.run_bind, read_eq, pure_bind, textOf_eq_ok_iff.2 h]

/-- A run on a file without a text ends with the reason. -/
theorem runIn_of_unread (w : World) {cause : HostError}
    (h : textOf (w.tree.read args.file) = .error cause) :
    runIn format p args w =
      pure (.failure p (args.trace (Trace.running args.file)) (.read args.file cause), w.tree) := by
  rw [runIn_eq, run]
  simp only [StateT.run_bind, read_eq, pure_bind, h, StateT.run_pure, map_pure, seen]

end

end TapeC.CommandLine
