import TapeC.Proofs.CommandLine.Stages
import TapeC.Proofs.Host.Writing

/-!
# All or nothing

**Theorem (`CommandLine.run_allOrNothing`).** A run in a file tree, on any clock and with any
formatter that leaves the files alone, ends in one of five ways, and what it was given decides
which. If its file does not hold the bytes of a text, or the program cannot be formatted, nothing
but a trace is printed and no file changes. If the formatted program cannot be saved, it is printed
all the same, and no file changes. Otherwise it is printed and, if asked for, saved: the file
changes as a whole, and no other file does.

A run on a text hands its program to the formatter and ends as `Args.presented` says
(`runIn_of_read`). With a formatter that leaves the files alone, that is by the formatter's word
(`run_of_read_error`, `run_of_read_ok`), and only a program that is saved changes a file.
-/

namespace TapeC.CommandLine

/-! ## What a run is about -/

/-- A formatter that always ends and leaves the files alone. -/
def ofPure (fmt : Tool → Formatter) : TreeFormatter Id := fun tool source t =>
  pure (fmt tool source, t)

/-- The formatter that the arguments ask for. -/
def Args.formatter (args : Args) (fmt : Tool → Formatter) (source : String) :
    Except FormatError String :=
  if args.noFormat then .ok source else fmt ⟨args.clangFormat, args.style⟩ source

/-- How a run ends that begins with tree `t`: with an outcome and a tree `t'`. -/
structure AllOrNothing (fmt : Tool → Formatter) (p : Palette) (args : Args) (t : Tree) (o : Outcome)
    (t' : Tree) : Prop where
  /-- on a file that cannot be read or does not hold the bytes of a text -/
  unread : (¬∃ text, t.read args.file = .ok (Utf8.encode text)) →
    o.code = 1 ∧ t' = t ∧ (args.verbose = false → o.output = "")
  /-- without a formatted program -/
  unformatted : ∀ text e, t.read args.file = .ok (Utf8.encode text) →
    args.formatter fmt (compile args.optimizations text) = .error e →
    o.code = 1 ∧ t' = t ∧ (args.verbose = false → o.output = "")
  /-- with one that cannot be saved -/
  unsaved : ∀ text code path cause, t.read args.file = .ok (Utf8.encode text) →
    args.formatter fmt (compile args.optimizations text) = .ok code → args.output = some path →
    t.write path.withCExtension (Utf8.encode code) = .error cause →
    o.code = 1 ∧ t' = t ∧ (args.verbose = false → o.output = code) ∧
      o.complaints = Listing.text
        [p.red "Error" ++ ": " ++ ("Can't write " ++ path.withCExtension.display),
          "  " ++ p.red "caused by:" ++ " " ++ cause.message]
  /-- with one that is not to be saved -/
  printed : ∀ text code, t.read args.file = .ok (Utf8.encode text) →
    args.formatter fmt (compile args.optimizations text) = .ok code → args.output = none →
    o.code = 0 ∧ t' = t ∧ (args.verbose = false → o.output = code)
  /-- with one that is saved -/
  saved : ∀ text code path after, t.read args.file = .ok (Utf8.encode text) →
    args.formatter fmt (compile args.optimizations text) = .ok code → args.output = some path →
    t.write path.withCExtension (Utf8.encode code) = .ok after →
    o.code = 0 ∧ t.Replaces t' path.withCExtension (Utf8.encode code) ∧
      (args.verbose = false → o.output = code)

/-! ## Whole runs -/

variable (fmt : Tool → Formatter) (p : Palette) {args : Args} {w : World} {text code : String}

theorem formatWith_ofPure (source : String) (t : Tree) :
    args.formatWith (ofPure fmt) source t = pure (args.formatter fmt source, t) := by
  unfold Args.formatWith Args.formatter
  split <;> rfl

theorem runIn_ofPure (h : w.tree.read args.file = .ok (Utf8.encode text)) :
    ∃ lexing folding formatting, (runIn (ofPure fmt) p args w).run =
      args.ending p text lexing folding formatting
        (args.formatter fmt (compile args.optimizations text), w.tree) := by
  obtain ⟨lexing, folding, formatting, hrun⟩ := runIn_of_read (ofPure fmt) p args w h
  rw [formatWith_ofPure] at hrun
  exact ⟨lexing, folding, formatting, congrArg Id.run hrun⟩

/-- Without a formatted program, a run ends with the reason, having printed no more than a trace. -/
theorem run_of_read_error {e : FormatError} (h : w.tree.read args.file = .ok (Utf8.encode text))
    (hformat : args.formatter fmt (compile args.optimizations text) = .error e) :
    ∃ shown, (args.verbose = false → shown = "") ∧
      (runIn (ofPure fmt) p args w).run = (.failure p shown (.format e), w.tree) := by
  obtain ⟨lexing, folding, formatting, hrun⟩ := runIn_ofPure fmt p h
  rw [hformat] at hrun
  exact ⟨_, fun hv => trace_of_not_verbose hv _, hrun⟩

/-- With a formatted program, a run comes to its last stage, having printed no more than a trace and
the program. -/
theorem run_of_read_ok (h : w.tree.read args.file = .ok (Utf8.encode text))
    (hformat : args.formatter fmt (compile args.optimizations text) = .ok code) :
    ∃ shown, (args.verbose = false → shown = code) ∧
      (runIn (ofPure fmt) p args w).run = args.finished p shown code w.tree := by
  obtain ⟨lexing, folding, formatting, hrun⟩ := runIn_ofPure fmt p h
  rw [hformat] at hrun
  refine ⟨_, fun hv => ?_, hrun⟩
  rw [trace_of_not_verbose hv, shown_of_not_verbose p hv, String.empty_append]

/-- **All or nothing.** -/
theorem run_allOrNothing (fmt : Tool → Formatter) (p : Palette) (args : Args) (w : World) :
    AllOrNothing fmt p args w.tree (runIn (ofPure fmt) p args w).run.1
      (runIn (ofPure fmt) p args w).run.2 where
  unread h := by
    obtain ⟨cause, hcause⟩ := exists_textOf_eq_error h
    rw [runIn_of_unread (ofPure fmt) p args w hcause]
    exact ⟨rfl, rfl, fun hv => trace_of_not_verbose hv _⟩
  unformatted text e h hformat := by
    obtain ⟨shown, hshown, hrun⟩ := run_of_read_error fmt p h hformat
    rw [hrun]
    exact ⟨rfl, rfl, hshown⟩
  unsaved text code path cause h hformat hpath hwrite := by
    obtain ⟨shown, hshown, hrun⟩ := run_of_read_ok fmt p h hformat
    rw [hrun, Args.finished, hpath]
    dsimp only
    rw [hwrite]
    exact ⟨rfl, rfl, hshown, rfl⟩
  printed text code h hformat hpath := by
    obtain ⟨shown, hshown, hrun⟩ := run_of_read_ok fmt p h hformat
    rw [hrun, Args.finished, hpath]
    exact ⟨rfl, rfl, hshown⟩
  saved text code path after h hformat hpath hwrite := by
    obtain ⟨shown, hshown, hrun⟩ := run_of_read_ok fmt p h hformat
    rw [hrun, Args.finished, hpath]
    dsimp only
    rw [hwrite]
    refine ⟨rfl, Tree.replaces_of_write hwrite, fun hv => ?_⟩
    change shown ++ args.trace _ = code
    rw [trace_of_not_verbose hv, String.append_empty, hshown hv]

end TapeC.CommandLine
