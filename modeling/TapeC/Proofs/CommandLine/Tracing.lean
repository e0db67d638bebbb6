import TapeC.Proofs.CommandLine.Stages

/-!
# A trace only observes

**Theorem (`CommandLine.run_onlyObserves`).** A verbose run and a quiet one with the same arguments
end with the same exit code, the same complaints and the same files, or both do not end; the
formatter may be anything that depends on the files alone, and may write files itself. Each of the
two runs has a clock of its own. What the verbose run prints is a trace around what the quiet one
prints: nothing if there is no formatted program, and otherwise the formatted program, on lines of
its own after the line `Formatted output:`. One more line follows it if the program was saved, and
none if not.

Both runs read the same file and hand the same program to the formatter, so by `runIn_of_read` it is
enough to compare how they end on what the formatter says (`Args.ending`). What their clocks show is
in the durations of the trace and nowhere else.
-/

namespace TapeC.CommandLine

variable {p : Palette} {args : Args} {t t' after : Tree} {text code : String}
  {lexing folding formatting : Duration}

/-! ## The two runs -/

/-- The same arguments, without a trace. -/
def Args.quiet (args : Args) : Args := { args with verbose := false }

/-- The same arguments, with a trace. -/
def Args.loud (args : Args) : Args := { args with verbose := true }

/-- The formatted program is saved to a path, which makes the files `after` of `t`. -/
def Args.Saves (args : Args) (t : Tree) (code : String) (path : Path) (after : Tree) : Prop :=
  args.output = some path ∧ t.write path.withCExtension (Utf8.encode code) = .ok after

/-- The end of a trace, which names the path that the formatted program is saved to. It is empty if
the program is not saved. -/
structure Args.EndsTrace (args : Args) (p : Palette) (t : Tree) (code last : String) : Prop where
  saved : ∀ path after, args.Saves t code path after →
    last = p.green "Output written to" ++ " " ++ path.withCExtension.display ++ "\n"
  unsaved : (¬∃ path after, args.Saves t code path after) → last = ""

/-- How a run without a trace and one with a trace compare that begin with tree `t`. Neither has an
outcome if the formatter does not end. -/
structure OnlyObserves (format : TreeFormatter Option) (p : Palette) (args : Args) (t : Tree)
    (quiet loud : Option (Outcome × Tree)) : Prop where
  /-- the trace has colours or not -/
  palette : p = .plain ∨ p = .coloured
  /-- exit code, complaints and files are the same -/
  same : loud.map (fun r => (r.1.code, r.1.complaints, r.2)) =
    quiet.map fun r => (r.1.code, r.1.complaints, r.2)
  /-- what is printed if the file cannot be read or does not hold the bytes of a text -/
  unread : (¬∃ text, t.read args.file = .ok (Utf8.encode text)) →
    quiet.map (·.1.output) = some "" ∧
      loud.map (·.1.output) = some ("Running " ++ args.file.display ++ "\n")
  /-- what is printed if its program cannot be formatted -/
  unformatted : ∀ text e t', t.read args.file = .ok (Utf8.encode text) →
    args.formatWith format (compile args.optimizations text) t = some (.error e, t') →
    quiet.map (·.1.output) = some "" ∧
      ∃ lexing folding, loud.map (·.1.output) = some
        (Listing.text (Trace.announcement p args.file args.optimizations text lexing folding)
          ++ p.blue "Starting formatting" ++ "\n")
  /-- what is printed if it can -/
  formatted : ∀ text code t', t.read args.file = .ok (Utf8.encode text) →
    args.formatWith format (compile args.optimizations text) t = some (.ok code, t') →
    quiet.map (·.1.output) = some code ∧
      ∃ lexing folding formatting last, loud.map (·.1.output) = some
          (Listing.text (Trace.announcement p args.file args.optimizations text lexing folding)
            ++ p.blue "Starting formatting" ++ "\n"
            ++ p.green "Finished formatting in" ++ " " ++ Duration.render formatting ++ "\n"
            ++ p.blue "Formatted output:" ++ "\n" ++ code ++ "\n" ++ last) ∧
        args.EndsTrace p t' code last

/-! ## What is printed -/

theorem trace_quiet (lines : List String) : args.quiet.trace lines = "" :=
  trace_of_not_verbose rfl lines

theorem trace_loud (lines : List String) : args.loud.trace lines = Listing.text lines := rfl

theorem text_announcement_append (ls : List String) :
    Listing.text (ls ++ Trace.formatting p) =
      Listing.text ls ++ p.blue "Starting formatting" ++ "\n" := by
  rw [Listing.text_append, Trace.formatting, Listing.text_singleton, String.append_assoc]

theorem shown_quiet : args.quiet.shown p code formatting = code := shown_of_not_verbose p rfl _ _

theorem shown_loud :
    args.loud.shown p code formatting = Listing.text (Trace.formatted p code formatting) :=
  String.append_empty

/-! ## The last stage -/

theorem finished_loud_same (shown shown' : String) :
    let loud := args.loud.finished p shown code t
    let quiet := args.quiet.finished p shown' code t
    (loud.1.code, loud.1.complaints, loud.2) = (quiet.1.code, quiet.1.complaints, quiet.2) := by
  unfold Args.finished Args.loud Args.quiet
  cases args.output with
  | none => rfl
  | some path =>
    dsimp only
    cases t.write path.withCExtension (Utf8.encode code) <;> rfl

theorem output_finished_of_saves {path : Path} (h : args.Saves t code path after) (shown : String) :
    (args.finished p shown code t).1.output =
      shown ++ args.trace (Trace.written p path.withCExtension) := by
  rw [Args.finished, h.1]
  dsimp only
  rw [h.2]
  rfl

theorem output_finished_of_not_saves (h : ¬∃ path after, args.Saves t code path after)
    (shown : String) : (args.finished p shown code t).1.output = shown := by
  unfold Args.finished
  cases hpath : args.output with
  | none => rfl
  | some path =>
    dsimp only
    cases hwrite : t.write path.withCExtension (Utf8.encode code) with
    | error cause => rfl
    | ok after => exact absurd ⟨path, after, hpath, hwrite⟩ h

theorem output_finished_quiet (shown : String) :
    (args.quiet.finished p shown code t).1.output = shown := by
  by_cases h : ∃ path after, args.quiet.Saves t code path after
  · obtain ⟨path, after, hsaves⟩ := h
    rw [output_finished_of_saves hsaves, trace_quiet, String.append_empty]
  · exact output_finished_of_not_saves h shown

theorem output_finished_loud (shown : String) :
    ∃ last, (args.loud.finished p shown code t).1.output = shown ++ last ∧
      args.EndsTrace p t code last := by
  by_cases h : ∃ path after, args.loud.Saves t code path after
  · obtain ⟨path, after, hsaves⟩ := h
    refine ⟨_, output_finished_of_saves hsaves shown, fun path' after' hsaves' => ?_,
      fun hnone => absurd ⟨path, after, hsaves⟩ hnone⟩
    obtain rfl : path = path' := Option.some.inj (hsaves.1.symm.trans hsaves'.1)
    rw [trace_loud, Trace.written, Listing.text_singleton]
  · refine ⟨"", ?_, fun path after hsaves => absurd ⟨path, after, hsaves⟩ h, fun _ => rfl⟩
    rw [output_finished_of_not_saves h, String.append_empty]

/-! ## How the two runs end -/

/-- Whatever was printed before, and however long formatting took. -/
theorem presented_loud_same (shown shown' : String) (took took' : Duration)
    (r : Except FormatError String × Tree) :
    let loud := args.loud.presented p shown took r
    let quiet := args.quiet.presented p shown' took' r
    (loud.1.code, loud.1.complaints, loud.2) = (quiet.1.code, quiet.1.complaints, quiet.2) := by
  obtain ⟨formatted, t'⟩ := r
  cases formatted with
  | error e => rfl
  | ok code => exact finished_loud_same _ _

theorem output_ending_quiet_error (e : FormatError) :
    (args.quiet.ending p text lexing folding formatting (.error e, t)).1.output = "" := by
  rw [Args.ending, trace_quiet]
  rfl

theorem output_ending_loud_error (e : FormatError) :
    (args.loud.ending p text lexing folding formatting (.error e, t)).1.output =
      Listing.text (Trace.announcement p args.file args.optimizations text lexing folding)
        ++ p.blue "Starting formatting" ++ "\n" :=
  text_announcement_append _

theorem output_ending_quiet_ok :
    (args.quiet.ending p text lexing folding formatting (.ok code, t)).1.output = code := by
  rw [Args.ending, Args.presented, output_finished_quiet, trace_quiet, shown_quiet,
    String.empty_append]

theorem output_ending_loud_ok (p : Palette) (args : Args) (t : Tree) (text code : String)
    (lexing folding formatting : Duration) :
    ∃ last, (args.loud.ending p text lexing folding formatting (.ok code, t)).1.output =
        Listing.text (Trace.announcement p args.file args.optimizations text lexing folding)
          ++ p.blue "Starting formatting" ++ "\n"
          ++ p.green "Finished formatting in" ++ " " ++ Duration.render formatting ++ "\n"
          ++ p.blue "Formatted output:" ++ "\n" ++ code ++ "\n" ++ last ∧
      args.EndsTrace p t code last := by
  have hshown :
      args.loud.trace
          (Trace.announcement p args.file args.optimizations text lexing folding
            ++ Trace.formatting p) ++ args.loud.shown p code formatting =
      Listing.text (Trace.announcement p args.file args.optimizations text lexing folding)
        ++ p.blue "Starting formatting" ++ "\n"
        ++ p.green "Finished formatting in" ++ " " ++ Duration.render formatting ++ "\n"
        ++ p.blue "Formatted output:" ++ "\n" ++ code ++ "\n" := by
    rw [trace_loud, text_announcement_append, shown_loud, Trace.formatted, Listing.text_cons,
      Listing.text_cons, Listing.text_singleton]
    simp only [String.append_assoc]
  rw [← hshown]
  exact output_finished_loud _

/-! ## Whole runs -/

theorem paletteOf_eq (env : Environment) : paletteOf env = .plain ∨ paletteOf env = .coloured := by
  unfold paletteOf
  split
  · exact .inl rfl
  · exact .inl rfl
  · exact .inr rfl

/-- A run ends if the formatter does. -/
theorem exists_runIn_eq_some {format : TreeFormatter Option} {r : Except FormatError String × Tree}
    (p : Palette) (args : Args) (w : World)
    (h : w.tree.read args.file = .ok (Utf8.encode text))
    (hformat : args.formatWith format (compile args.optimizations text) w.tree = some r) :
    ∃ lexing folding formatting,
      runIn format p args w = some (args.ending p text lexing folding formatting r) := by
  obtain ⟨lexing, folding, formatting, hrun⟩ := runIn_of_read format p args w h
  rw [hformat] at hrun
  exact ⟨lexing, folding, formatting, hrun⟩

/-- Two runs whose clocks show what they like end alike. -/
theorem runIn_loud_same (format : TreeFormatter Option) (p : Palette) (args : Args) {w w' : World}
    (hw : w'.tree = w.tree) :
    (runIn format p args.loud w').map (fun r => (r.1.code, r.1.complaints, r.2)) =
      (runIn format p args.quiet w).map fun r => (r.1.code, r.1.complaints, r.2) := by
  by_cases h : ∃ text, w.tree.read args.file = .ok (Utf8.encode text)
  · obtain ⟨text, h⟩ := h
    obtain ⟨_, _, _, hquiet⟩ := runIn_of_read format p args.quiet w h
    obtain ⟨_, _, _, hloud⟩ := runIn_of_read format p args.loud w' (hw.symm ▸ h)
    rw [hquiet, hloud, hw, Option.map_eq_map, Option.map_eq_map, Option.map_map, Option.map_map]
    exact congrArg (Option.map · _) (funext fun r => presented_loud_same _ _ _ _ r)
  · obtain ⟨cause, hcause⟩ := exists_textOf_eq_error h
    rw [runIn_of_unread format p args.quiet w hcause,
      runIn_of_unread format p args.loud w' (hw.symm ▸ hcause), hw]
    rfl

/-- **A trace only observes.** -/
theorem run_onlyObserves (env : Environment) (format : TreeFormatter Option) (args : Args)
    (t : Tree) (quietTimes loudTimes : Nat → Nat) :
    OnlyObserves format (paletteOf env) args t
      (runIn format (paletteOf env) args.quiet ⟨t, quietTimes⟩)
      (runIn format (paletteOf env) args.loud ⟨t, loudTimes⟩) := by
  constructor
  case palette => exact paletteOf_eq env
  case same => exact runIn_loud_same format (paletteOf env) args rfl
  case unread =>
    intro h
    obtain ⟨cause, hcause⟩ := exists_textOf_eq_error h
    rw [runIn_of_unread format (paletteOf env) args.quiet ⟨t, quietTimes⟩ hcause,
      runIn_of_unread format (paletteOf env) args.loud ⟨t, loudTimes⟩ hcause]
    exact ⟨rfl, congrArg some (Listing.text_singleton _)⟩
  -- A trace changes nothing about which formatter is asked, and what.
  case unformatted =>
    intro text e t' h hformat
    obtain ⟨_, _, _, hquiet⟩ :=
      exists_runIn_eq_some (paletteOf env) args.quiet ⟨t, quietTimes⟩ h hformat
    obtain ⟨lexing, folding, _, hloud⟩ :=
      exists_runIn_eq_some (paletteOf env) args.loud ⟨t, loudTimes⟩ h hformat
    rw [hquiet, hloud]
    exact ⟨congrArg some (output_ending_quiet_error e), lexing, folding,
      congrArg some (output_ending_loud_error e)⟩
  case formatted =>
    intro text code t' h hformat
    obtain ⟨_, _, _, hquiet⟩ :=
      exists_runIn_eq_some (paletteOf env) args.quiet ⟨t, quietTimes⟩ h hformat
    obtain ⟨lexing, folding, formatting, hloud⟩ :=
      exists_runIn_eq_some (paletteOf env) args.loud ⟨t, loudTimes⟩ h hformat
    obtain ⟨last, houtput, hlast⟩ := output_ending_loud_ok (paletteOf env) args t' text code
      lexing folding formatting
    rw [hquiet, hloud]
    exact ⟨congrArg some output_ending_quiet_ok, lexing, folding, formatting, last,
      congrArg some houtput, hlast⟩

end TapeC.CommandLine
