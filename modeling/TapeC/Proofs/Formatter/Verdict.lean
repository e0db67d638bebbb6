import Mathlib.Data.List.TakeWhile
import TapeC.Formatter
import TapeC.Proofs.Text.Lossy

/-!
# What comes of an external formatter

**Theorem (`Tool.formatWith_verdict`).** Whatever a tool does, formatting with it comes to what
the first of these conditions says: it could not be started; its end could not be waited for; it
ended without success; it did not take the whole program; its output is not UTF-8. If there is
none, its output is the result. And a tool that was started is written to, its input is closed,
and it is waited for, once each and in this order, whatever comes of the writing.

The tool and everything around it is a host with states of any kind, so what a call gives may depend
on all that was done before. `IsVerdict` gives one condition for each outcome, without any order
between them. The complaints are told by the lossy reading without its blank ends, and both are said
without the functions that compute them (`Utf8.IsLossyReading`, `Text.IsTrimOf`).
-/

namespace TapeC

/-! ## Blank ends -/

namespace Text

/-- The part is the whole without the blanks at either end. -/
structure IsTrimOf (part whole : List Char) : Prop where
  exists_blanks : ∃ before after, whole = before ++ part ++ after ∧
    (∀ c ∈ before, isBlank c = true) ∧ ∀ c ∈ after, isBlank c = true
  head_not_blank : ∀ c, part.head? = some c → isBlank c = false
  last_not_blank : ∀ c, part.getLast? = some c → isBlank c = false

theorem isBlank_of_head?_dropWhile {cs : List Char} {c : Char}
    (h : (cs.dropWhile isBlank).head? = some c) : isBlank c = false := by
  rw [← List.find?_not_eq_head?_dropWhile] at h
  simpa using List.find?_some h

theorem isTrimOf_iff {part whole : List Char} : IsTrimOf part whole ↔ trim whole = part := by
  constructor
  · rintro ⟨⟨before, after, rfl, hbefore, hafter⟩, hhead, hlast⟩
    rw [trim, List.append_assoc, List.dropWhile_append_of_pos hbefore]
    cases part with
    | nil =>
      rw [List.nil_append, List.dropWhile_eq_nil_iff.2 hafter, trimEnd_nil]
    | cons c cs =>
      have hc : isBlank c = false := hhead c rfl
      rw [List.cons_append, List.dropWhile_cons_of_neg (by simp [hc]), ← List.cons_append,
        trimEnd_append_blanks hafter, trimEnd_eq_self hlast]
  · rintro rfl
    obtain ⟨after, hafter, hblank⟩ := exists_eq_trimEnd_append (whole.dropWhile isBlank)
    have hwhole : whole = whole.takeWhile isBlank ++ trim whole ++ after := by
      rw [List.append_assoc, trim, ← hafter, List.takeWhile_append_dropWhile]
    refine ⟨⟨_, after, hwhole, fun c => List.mem_takeWhile_imp, hblank⟩, fun c hc => ?_,
      fun c hc => ?_⟩
    · apply @isBlank_of_head?_dropWhile whole
      rw [hafter, List.head?_append, ← trim, hc, Option.some_or]
    · rw [trim, trimEnd, List.getLast?_reverse] at hc
      exact isBlank_of_head?_dropWhile hc

end Text

/-! ## Recorded steps -/

/-- A call that is made to a tool. -/
inductive ToolStep where
  | start (tool : Tool)
  | write (bs : Bytes)
  | closeInput
  | wait
deriving DecidableEq

namespace ToolHost

variable {σ α β : Type}

/-- Makes a call and adds it to the record. -/
def record (step : ToolStep) (call : StateM σ α) : StateT (List ToolStep) (StateM σ) α :=
  fun steps => do return (← call, steps ++ [step])

/-- The host with a record of the calls that are made to it. -/
def recorded (host : ToolHost (StateM σ)) : ToolHost (StateT (List ToolStep) (StateM σ)) where
  start tool := record (.start tool) (host.start tool)
  write bs := record (.write bs) (host.write bs)
  closeInput := record .closeInput host.closeInput
  wait := record .wait host.wait

theorem run_bind (x : StateM σ α) (f : α → StateM σ β) (s : σ) :
    (x >>= f).run s = (f (x.run s).1).run (x.run s).2 := rfl

/-- A recorded call does what the call does. -/
theorem run_record_bind (step : ToolStep) (call : StateM σ α)
    (f : α → StateT (List ToolStep) (StateM σ) β) (steps : List ToolStep) (s : σ) :
    ((record step call >>= f).run steps).run s =
      ((f (call.run s).1).run (steps ++ [step])).run (call.run s).2 := rfl

variable (host : ToolHost (StateM σ)) (tool : Tool) (source : String) (s : σ)

/-! The answers to the calls that are made to format a program, with the states after them. -/

def started : Except HostError Unit × σ := (host.start tool).run s

def written : Except HostError Unit × σ :=
  (host.write (Utf8.encode source)).run (host.started tool s).2

def ended : Except HostError ToolEnd × σ :=
  host.wait.run (host.closeInput.run (host.written tool source s).2).2

end ToolHost

namespace Tool

variable {σ : Type} (host : ToolHost (StateM σ)) (tool : Tool) (source : String) (s : σ)

theorem run_formatWith_of_not_started {cause : HostError}
    (h : (host.started tool s).1 = .error cause) :
    ((tool.formatWith host source).run s).1 = .error (.spawn tool.program cause) ∧
      (((tool.formatWith host.recorded source).run []).run s).1 =
        (.error (.spawn tool.program cause), [.start tool]) := by
  rw [ToolHost.started] at h
  constructor
  · rw [formatWith, ToolHost.run_bind, h]
    rfl
  · rw [formatWith, ToolHost.recorded, ToolHost.run_record_bind, h]
    rfl

theorem run_formatWith_of_not_ended {cause : HostError} (h : (host.started tool s).1 = .ok ())
    (h' : (host.ended tool source s).1 = .error cause) :
    ((tool.formatWith host source).run s).1 = .error (.io cause) ∧
      (((tool.formatWith host.recorded source).run []).run s).1 =
        (.error (.io cause), [.start tool, .write (Utf8.encode source), .closeInput, .wait]) := by
  rw [ToolHost.ended, ToolHost.written, ToolHost.started] at h'
  rw [ToolHost.started] at h
  constructor
  · rw [formatWith, ToolHost.run_bind, h]
    simp only [ToolHost.run_bind, h']
    rfl
  · rw [formatWith, ToolHost.recorded, ToolHost.run_record_bind, h]
    simp only [ToolHost.run_record_bind, h']
    rfl

theorem run_formatWith_of_ended {e : ToolEnd} (h : (host.started tool s).1 = .ok ())
    (h' : (host.ended tool source s).1 = .ok e) :
    ((tool.formatWith host source).run s).1 =
        judge ⟨(host.written tool source s).1, e.output, e.complaints, e.status⟩ ∧
      (((tool.formatWith host.recorded source).run []).run s).1 =
        (judge ⟨(host.written tool source s).1, e.output, e.complaints, e.status⟩,
          [.start tool, .write (Utf8.encode source), .closeInput, .wait]) := by
  rw [ToolHost.ended, ToolHost.written, ToolHost.started] at h'
  rw [ToolHost.started] at h
  rw [ToolHost.written, ToolHost.started]
  constructor
  · rw [formatWith, ToolHost.run_bind, h]
    simp only [ToolHost.run_bind, h']
    rfl
  · rw [formatWith, ToolHost.recorded, ToolHost.run_record_bind, h]
    simp only [ToolHost.run_record_bind, h']
    rfl

/-! ## Verdicts -/

/-- When formatting has which outcome. -/
structure IsVerdict (started written : Except HostError Unit) (ended : Except HostError ToolEnd)
    (outcome : Except FormatError String) : Prop where
  ok_iff : ∀ text, outcome = .ok text ↔
    started = .ok () ∧ ∃ e, ended = .ok e ∧ e.status = .exited 0 ∧ written = .ok () ∧
      e.output = Utf8.encode text
  spawn_iff : ∀ program cause, outcome = .error (.spawn program cause) ↔
    tool.program = program ∧ started = .error cause
  failed_iff : ∀ status told, outcome = .error (.failed status told) ↔
    started = .ok () ∧ ∃ e, ended = .ok e ∧ e.status ≠ .exited 0 ∧ e.status = status ∧
      ∃ cs, Utf8.IsLossyReading e.complaints cs ∧ Text.IsTrimOf told.toList cs
  io_iff : ∀ cause, outcome = .error (.io cause) ↔
    started = .ok () ∧ (ended = .error cause ∨
      ∃ e, ended = .ok e ∧ e.status = .exited 0 ∧ written = .error cause)
  notText_iff : ∀ fault, outcome = .error (.notText fault) ↔
    started = .ok () ∧ ∃ e, ended = .ok e ∧ e.status = .exited 0 ∧ written = .ok () ∧
      Utf8.decode e.output = .error fault

theorem isSuccess_iff {status : WaitStatus} : status.isSuccess = true ↔ status = .exited 0 := by
  obtain ⟨raw⟩ := status
  simp [WaitStatus.isSuccess, WaitStatus.exited]

/-- Complaints are told by their lossy reading, without its blank ends. -/
theorem told_eq_iff {complaints : Bytes} {shown : String} :
    told complaints = shown ↔
      ∃ cs, Utf8.IsLossyReading complaints cs ∧ Text.IsTrimOf shown.toList cs := by
  simp only [Utf8.isLossyReading_iff, exists_eq_left', Text.isTrimOf_iff, told]
  rw [← String.toList_inj, String.toList_ofList]

theorem judge_of_failed {r : ToolRun} (h : r.status ≠ .exited 0) :
    judge r = .error (.failed r.status (told r.complaints)) := by
  have hfailure : r.status.isSuccess = false := by simpa using mt isSuccess_iff.1 h
  rw [judge, hfailure, Bool.not_false, if_pos rfl]

theorem judge_of_not_written {r : ToolRun} {cause : HostError} (h : r.status = .exited 0)
    (h' : r.written = .error cause) : judge r = .error (.io cause) := by
  rw [judge, isSuccess_iff.2 h, Bool.not_true, if_neg Bool.false_ne_true, h']

theorem judge_of_written {r : ToolRun} (h : r.status = .exited 0) (h' : r.written = .ok ()) :
    judge r = (Utf8.decode r.output).mapError .notText := by
  rw [judge, isSuccess_iff.2 h, Bool.not_true, if_neg Bool.false_ne_true, h']

theorem isVerdict_of_not_started (written : Except HostError Unit)
    (ended : Except HostError ToolEnd) (cause : HostError) :
    IsVerdict tool (.error cause) written ended (.error (.spawn tool.program cause)) := by
  constructor <;> simp

theorem isVerdict_of_not_ended (written : Except HostError Unit) (cause : HostError) :
    IsVerdict tool (.ok ()) written (.error cause) (.error (.io cause)) := by
  constructor <;> simp

theorem isVerdict_judge (written : Except HostError Unit) (e : ToolEnd) :
    IsVerdict tool (.ok ()) written (.ok e)
      (judge ⟨written, e.output, e.complaints, e.status⟩) := by
  by_cases hstatus : e.status = .exited 0
  · cases written with
    | error cause =>
      rw [judge_of_not_written hstatus rfl]
      constructor <;> simp [hstatus]
    | ok u =>
      rw [judge_of_written hstatus rfl]
      cases hdecode : Utf8.decode e.output with
      | error fault =>
        constructor <;> simp [hstatus, ← Utf8.decode_eq_ok_iff, hdecode, Except.mapError]
      | ok text =>
        constructor <;> simp [hstatus, ← Utf8.decode_eq_ok_iff, hdecode, Except.mapError]
  · rw [judge_of_failed hstatus]
    constructor <;> simp [hstatus, ← told_eq_iff]

/-- **The first thing that is wrong decides.** -/
theorem formatWith_verdict :
    let started := (host.started tool s).1
    let written := (host.written tool source s).1
    let ended := (host.ended tool source s).1
    let outcome := ((tool.formatWith host source).run s).1
    let recorded := (((tool.formatWith host.recorded source).run []).run s).1
    IsVerdict tool started written ended outcome ∧ recorded.1 = outcome ∧
      recorded.2 =
        match started with
        | .error _ => [.start tool]
        | .ok () => [.start tool, .write (Utf8.encode source), .closeInput, .wait] := by
  intro started written ended outcome recorded
  cases hstarted : (host.started tool s).1 with
  | error cause =>
    obtain ⟨houtcome, hrecorded⟩ := run_formatWith_of_not_started host tool source s hstarted
    simp only [started, outcome, recorded, hstarted, houtcome, hrecorded, and_self, and_true]
    exact isVerdict_of_not_started tool _ _ cause
  | ok u =>
    cases hended : (host.ended tool source s).1 with
    | error cause =>
      obtain ⟨houtcome, hrecorded⟩ := run_formatWith_of_not_ended host tool source s hstarted hended
      simp only [started, ended, outcome, recorded, hstarted, hended, houtcome, hrecorded,
        and_self, and_true]
      exact isVerdict_of_not_ended tool _ cause
    | ok e =>
      obtain ⟨houtcome, hrecorded⟩ := run_formatWith_of_ended host tool source s hstarted hended
      simp only [started, ended, outcome, recorded, hstarted, hended, houtcome, hrecorded,
        and_self, and_true]
      exact isVerdict_judge tool _ e

/-- The verdict on a tool of a file tree. -/
theorem isVerdict_format (t : Tree) (env : Environment) :
    let run := (tool.program? t env).map fun p => behaviour t env p (Utf8.encode source)
    IsVerdict tool (run.map fun _ => ()) (run.bind (·.written)) (run.map (·.ended))
      (tool.format t env source) := by
  rw [format]
  cases tool.program? t env with
  | error cause => exact isVerdict_of_not_started tool _ _ cause
  | ok p => exact isVerdict_judge tool _ (behaviour t env p (Utf8.encode source)).ended

end Tool

end TapeC
