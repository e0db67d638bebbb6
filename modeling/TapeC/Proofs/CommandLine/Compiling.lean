import TapeC.Proofs.CommandLine.Tracing

/-!
# The command line compiles

**Theorem (`CommandLine.run_compiles`).** What a run hands to a formatter is the program that
`compile` gives for the text of the file, with optimizations unless they are switched off. An
external formatter is handed it once; without one it is printed as it is. What a verbose run
announces of it is true: the sanitized text and its length, the number of comments, and the number
of ops.

A formatter that keeps a record (`recorded`) says what formatters are handed, also if they never
end. The stages of a run are the same for it as for others (`runIn_of_read`). A run sorts the
instructions out of the tokens of a text, and `compile` reads them without the comments; that both
come to the same is `fst_sortTokens_ofText`.
-/

namespace TapeC.CommandLine

variable {p : Palette} {args : Args} {text : String}

/-! ## What is said of a run -/

/-- What external formatters are handed, in order. -/
abbrev Calls : Type := List (Tool × String)

/-- A formatter that keeps a record of what it is handed, whether it ends or not. -/
def recorded (format : TreeFormatter Option) : TreeFormatter (OptionT (StateM Calls)) :=
  fun tool source t => OptionT.mk fun calls => (format tool source t, calls ++ [(tool, source)])

/-- A run, if it ends, and what external formatters were handed in it. -/
def runRecorded (format : TreeFormatter Option) (p : Palette) (args : Args) (w : World) :
    Option (Outcome × Tree) × Calls :=
  ((runIn (recorded format) p args w).run.run []).run

/-- What a run that begins with tree `t` does with the text of its file. -/
structure Compiles (format : TreeFormatter Option) (p : Palette) (args : Args) (t : Tree)
    (text : String) (ran : Option (Outcome × Tree)) (calls : Calls) : Prop where
  /-- the run ends if formatting the program does -/
  ends_iff : ran.isSome ↔ (args.formatWith format (compile args.optimizations text) t).isSome
  /-- an external formatter is handed the program that the text is compiled to, and nothing else -/
  calls_eq : calls =
    if args.noFormat then []
    else [(⟨args.clangFormat, args.style⟩, compile args.optimizations text)]
  /-- without one, the program is printed as it is -/
  printed : args.noFormat = true → args.verbose = false →
    ran.map (·.1.output) = some (compile args.optimizations text)
  /-- or shown as it is by a trace -/
  shown : args.noFormat = true → args.verbose = true → ∃ before last, ran.map (·.1.output) =
    some (before ++ p.blue "Formatted output:" ++ "\n" ++ compile args.optimizations text ++ "\n"
      ++ last)
  /-- a verbose run begins with the announcement of the program -/
  announced : args.verbose = true → ∀ r ∈ ran, ∃ lexing folding rest, r.1.output =
    Listing.text (Trace.announcement p args.file args.optimizations text lexing folding) ++ rest

/-! ## Whole runs -/

theorem quiet_eq_self (h : args.verbose = false) : args.quiet = args := by
  rw [Args.quiet, ← h]

theorem loud_eq_self (h : args.verbose = true) : args.loud = args := by
  rw [Args.loud, ← h]

/-- Whatever the formatter says, the announcement was printed. -/
theorem exists_output_ending (h : args.verbose = true) (lexing folding formatting : Duration)
    (r : Except FormatError String × Tree) :
    ∃ rest, (args.ending p text lexing folding formatting r).1.output =
      Listing.text (Trace.announcement p args.file args.optimizations text lexing folding)
        ++ rest := by
  rw [← loud_eq_self h]
  obtain ⟨formatted, t⟩ := r
  cases formatted with
  | error e =>
    rw [output_ending_loud_error, String.append_assoc]
    exact ⟨_, rfl⟩
  | ok code =>
    obtain ⟨last, houtput, -⟩ := output_ending_loud_ok p args t text code lexing folding formatting
    rw [houtput]
    simp only [String.append_assoc]
    exact ⟨_, rfl⟩

/-- A run ends as the formatter says, which is handed the compiled program. -/
theorem exists_runRecorded_eq (format : TreeFormatter Option) (p : Palette) {w : World}
    (h : w.tree.read args.file = .ok (Utf8.encode text)) :
    ∃ lexing folding formatting, runRecorded format p args w =
      ((args.formatWith format (compile args.optimizations text) w.tree).map
          (args.ending p text lexing folding formatting),
        if args.noFormat then []
        else [(⟨args.clangFormat, args.style⟩, compile args.optimizations text)]) := by
  obtain ⟨lexing, folding, formatting, hrun⟩ := runIn_of_read (recorded format) p args w h
  refine ⟨lexing, folding, formatting, ?_⟩
  rw [runRecorded, hrun, Args.formatWith, Args.formatWith]
  split
  · rfl
  · rw [OptionT.run_map]
    rfl

/-- **The command line compiles.** -/
theorem run_compiles (format : TreeFormatter Option) (p : Palette) (args : Args) (w : World)
    {text : String} (h : w.tree.read args.file = .ok (Utf8.encode text)) :
    Compiles format p args w.tree text (runRecorded format p args w).1
      (runRecorded format p args w).2 := by
  obtain ⟨lexing, folding, formatting, hrun⟩ := exists_runRecorded_eq format p h
  have hplain (hf : args.noFormat = true) :
      args.formatWith format (compile args.optimizations text) w.tree =
        some (.ok (compile args.optimizations text), w.tree) := by
    rw [Args.formatWith, if_pos hf]
    rfl
  constructor
  case ends_iff => rw [hrun, Option.isSome_map]
  case calls_eq => rw [hrun]
  case printed =>
    intro hf hv
    rw [hrun, hplain hf, ← quiet_eq_self hv]
    exact congrArg some output_ending_quiet_ok
  case shown =>
    intro hf hv
    rw [hrun, hplain hf, ← loud_eq_self hv]
    obtain ⟨last, houtput, -⟩ := output_ending_loud_ok p args w.tree text
      (compile args.optimizations text) lexing folding formatting
    exact ⟨_, last, congrArg some houtput⟩
  case announced =>
    intro hv r hr
    rw [hrun, Option.mem_def, Option.map_eq_some_iff] at hr
    obtain ⟨formatted, -, rfl⟩ := hr
    obtain ⟨rest, hrest⟩ := exists_output_ending hv lexing folding formatting formatted
    exact ⟨lexing, folding, rest, hrest⟩

/-- Without optimizations and without a formatter, on a clock that goes on. -/
theorem run_compiles_plain :
    let program : Path := ⟨Utf8.encode "p.bf"⟩
    let t : Tree := ⟨[], [([program.bytes], .file (Utf8.encode "+[-] up") false)]⟩
    let args : Args := ⟨program, none, false, true, true, "clang-format", "LLVM"⟩
    let ran := runRecorded (fun _ _ _ => none) .plain args ⟨t, fun n => 7 * n⟩
    t.read program = .ok (Utf8.encode "+[-] up") ∧
      ran.1.map (·.1.output) = some (compile .none "+[-] up") ∧ ran.2 = [] := by
  intro program t args ran
  have hfile : t.read program = .ok (Utf8.encode "+[-] up") := rfl
  have hcompiles := run_compiles (fun _ _ _ => none) .plain args ⟨t, fun n => 7 * n⟩ hfile
  exact ⟨hfile, hcompiles.printed rfl rfl, hcompiles.calls_eq⟩

end TapeC.CommandLine
