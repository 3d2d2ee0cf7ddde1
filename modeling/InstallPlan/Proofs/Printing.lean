import InstallPlan.Program
import InstallPlan.Proofs.Agreement
import Mathlib

/-!
# Printing

What the program writes to its standard output in the two modes that run no command. A
rehearsal prints the plan, unless it is to be quiet (`Job.standardOutput_apply`); the other
mode prints the script, octet for octet what a memory without a limit would hold
(`Job.standardOutput_apply_script`). Log records go elsewhere, and neither mode fails once
there is a specification. So what is printed depends on the specification and the root
alone, and nothing is printed without a specification (`Program.prints_plan_or_script`).
-/

namespace InstallPlan

namespace Output

@[simp] theorem standardOutput_nil : standardOutput [] = [] := rfl

@[simp] theorem standardOutput_debug (target message : String) (outputs : List Output) :
    standardOutput (debug target message :: outputs) = standardOutput outputs := rfl

@[simp] theorem standardOutput_stdout (octets : Octets) (outputs : List Output) :
    standardOutput (.stdout octets :: outputs) = octets ++ standardOutput outputs := rfl

@[simp] theorem standardOutput_announcement (target : String) (s : Step)
    (outputs : List Output) :
    standardOutput (s.announcement target :: outputs) = standardOutput outputs := by
  cases s <;> rfl

end Output

/-! ## The printed plan -/

theorem Sink.standardOutput_deliver_record (events : List Event) (steps : List Step) :
    Output.standardOutput (Sink.record.deliver events steps).output = [] := by
  induction events generalizing steps with
  | nil => rfl
  | cons event rest ih =>
    obtain ⟨hfault, -⟩ := Sink.record_takes event steps
    simp only [deliver_cons]
    rw [Reaction.andThen_of_none hfault, Output.standardOutput_append, ih]
    rcases event with _ | ⟨name | text⟩ | _ <;> rfl

theorem Job.standardOutput_apply {η : Type} {job : Job} (hmode : job.mode = .dryrun)
    (machine : Machine η) (spec : Specification) (state : η) :
    Output.standardOutput (job.apply machine spec state).output =
      if job.quiet then []
      else Utf8.encode (Terminal.plan job.color job.root (spec.steps job.root)) := by
  obtain ⟨hfault, hsteps⟩ := spec.apply_record job.root
  have hlogged : Output.standardOutput (spec.apply job.root Sink.record []).output = [] := by
    rw [Specification.apply_eq_deliver]
    exact Sink.standardOutput_deliver_record (spec.events job.root) []
  simp only [apply, hmode, hfault, hsteps, Output.standardOutput_append, hlogged, told,
    List.nil_append]
  cases job.quiet with
  | true => rfl
  | false => exact List.append_nil _

/-! ## The printed script -/

/-- A memory that takes everything. -/
structure Sheet.Unlimited (sheet : Sheet) : Prop where
  room : sheet.room = none
  flushes : sheet.flushes = true

/-- A memory that takes everything takes it at once. -/
theorem Sheet.Unlimited.write {sheet : Sheet} (h : sheet.Unlimited) (octets : Octets) :
    Writer.sheet.write octets sheet =
      { state := { sheet with written := sheet.written ++ octets } } := by
  by_cases hne : octets = []
  · rw [hne, List.append_nil]
    exact Device.sheet.writeAll_nil sheet
  · have hoffer : Device.sheet.offer octets sheet =
        (.ok octets.length, { sheet with written := sheet.written ++ octets }) := by
      simp only [Device.sheet, h.room]
    have hwritten :=
      Device.sheet.writeAll_of_ok hne (List.length_pos_iff.2 hne) hoffer
    rw [List.drop_length, Device.writeAll_nil] at hwritten
    exact hwritten

/-- What goes to the standard output is what a memory that takes everything is given. -/
theorem Sheet.Unlimited.writeTexts {sheet : Sheet} (h : sheet.Unlimited) (texts : List String) :
    let printed := Writer.terminal.writeTexts texts ()
    let written := Writer.sheet.writeTexts texts sheet
    printed.fault = none ∧ written.fault = none ∧
      written.state =
        { sheet with written := sheet.written ++ Output.standardOutput printed.output } := by
  induction texts generalizing sheet with
  | nil => simp [Writer.writeTexts]
  | cons text rest ih =>
    intro printed written
    let octets := Utf8.encode text
    have hrest : Sheet.Unlimited { sheet with written := sheet.written ++ octets } :=
      ⟨h.room, h.flushes⟩
    have hprinted : printed = { Writer.terminal.writeTexts rest () with
        output := .stdout octets :: (Writer.terminal.writeTexts rest ()).output } := rfl
    have hwritten : written = Writer.sheet.writeTexts rest
        { sheet with written := sheet.written ++ octets } := by
      simp only [written, Writer.writeTexts, h.write, Reaction.mk_andThen, octets]
    obtain ⟨hfirst, hsecond, hsheet⟩ := ih hrest
    rw [hprinted, hwritten]
    refine ⟨hfirst, hsecond, hsheet.trans ?_⟩
    simp [octets]

namespace Sink

theorem react_script_terminal (event : Event) {sheet : Sheet} (h : sheet.Unlimited) :
    let printed := (Sink.script Writer.terminal).react event ()
    let written := (Sink.script Writer.sheet).react event sheet
    printed.fault = none ∧ written.fault = none ∧
      written.state =
        { sheet with written := sheet.written ++ Output.standardOutput printed.output } := by
  have hpieces := h.writeTexts (Script.pieces event)
  rcases event with _ | ⟨name | text⟩ | _
  · exact hpieces
  · exact hpieces
  · exact hpieces
  · refine ⟨rfl, ?_, ?_⟩
    · simp [react, script, Writer.sheet, Device.writer, Device.sheet, h.flushes]
    · change sheet = { sheet with written := sheet.written ++ [] }
      rw [List.append_nil]

theorem deliver_script_terminal (events : List Event) {sheet : Sheet} (h : sheet.Unlimited) :
    let printed := (Sink.script Writer.terminal).deliver events ()
    let written := (Sink.script Writer.sheet).deliver events sheet
    printed.fault = none ∧ written.fault = none ∧
      written.state =
        { sheet with written := sheet.written ++ Output.standardOutput printed.output } := by
  induction events generalizing sheet with
  | nil => simp
  | cons event rest ih =>
    intro printed written
    obtain ⟨hprinted, hwritten, hsheet⟩ := react_script_terminal event h
    have hunlimited : ((script Writer.sheet).react event sheet).state.Unlimited := by
      rw [hsheet]
      exact ⟨h.room, h.flushes⟩
    obtain ⟨hrestPrinted, hrestWritten, hrestSheet⟩ := ih hunlimited
    have hfirst : printed = _ := Reaction.andThen_of_none hprinted _
    have hsecond : written = _ := Reaction.andThen_of_none hwritten _
    rw [hfirst, hsecond]
    refine ⟨hrestPrinted, hrestWritten, hrestSheet.trans ?_⟩
    rw [hsheet, Output.standardOutput_append, List.append_assoc]

end Sink

namespace Job

variable {η : Type} {job : Job}

theorem standardOutput_apply_script (hmode : job.mode = .shell) (machine : Machine η)
    (spec : Specification) (state : η) :
    let written := spec.apply job.root (Sink.script Writer.sheet) {}
    written.fault = none ∧
      Output.standardOutput (job.apply machine spec state).output = written.state.written := by
  intro written
  have hunlimited : Sheet.Unlimited {} := ⟨rfl, rfl⟩
  obtain ⟨-, hwritten, hsheet⟩ :=
    Sink.deliver_script_terminal (spec.events job.root) hunlimited
  simp only [apply, hmode, written, Sink.boxed_eq, Specification.apply_eq_deliver,
    Output.standardOutput_debug]
  exact ⟨hwritten, by rw [hsheet]; rfl⟩

/-- Neither mode fails, and neither does anything to the machine. -/
theorem apply_of_ne_exec (hmode : job.mode ≠ .exec) (machine : Machine η)
    (spec : Specification) (state : η) :
    (job.apply machine spec state).failure = none ∧
      (job.apply machine spec state).state = state := by
  cases hm : job.mode with
  | exec => exact absurd hm hmode
  | dryrun => simp [apply, hm, (spec.apply_record job.root).1]
  | shell =>
    have hfault := (spec.apply_script job.root Writer.terminal_steady ()).1
    simp [apply, hm, hfault]

theorem run_of_ne_exec (hmode : job.mode ≠ .exec) (machine : Machine η) (state : η)
    {spec : Specification}
    (hload : Specification.ofOctets (Source.ofPath? job.source)
      (machine.read (Source.ofPath? job.source) state).1 = .ok spec) :
    let world := (machine.read (Source.ofPath? job.source) state).2
    let outcome := job.run machine state
    outcome.failure = none ∧ outcome.state = world ∧
      Output.standardOutput outcome.output =
        Output.standardOutput (job.apply machine spec world).output := by
  intro world outcome
  obtain ⟨hfailure, hunchanged⟩ := job.apply_of_ne_exec hmode machine spec world
  have hrun : outcome = _ := job.run_of_ok machine state hload
  rw [hrun]
  exact ⟨hfailure, hunchanged, rfl⟩

end Job

/-! ## The whole program -/

namespace Program

variable {η : Type}

/-- A run that is asked for neither the manual nor completions is that of a job. -/
theorem run_of_ok {arguments : List Octets} {environment : Environment} {options : Options}
    (hoptions : Options.ofArguments arguments environment.surroundings = .ok options)
    (hdoc : options.doc = false) (hcompletions : options.completions = none)
    (machine : Machine η) (state : η) :
    let ending := run arguments environment machine state
    let outcome := (jobOf options environment).run machine state
    ending.code = (if outcome.failure.isSome then 1 else 0) ∧
      ending.stdout = Output.standardOutput outcome.output ∧
      ending.state = outcome.state := by
  simp [run, hoptions, runOptions, hdoc, hcompletions]

/-- **Printing.** Where no command is to be run, nothing is printed without a specification,
and the run fails. With one it does not fail; it prints the script that a memory without a
limit would hold, or the plan that is recorded, unless it is to be quiet. -/
theorem prints_plan_or_script {arguments : List Octets} {environment : Environment}
    {options : Options}
    (hoptions : Options.ofArguments arguments environment.surroundings = .ok options)
    (hdoc : options.doc = false) (hcompletions : options.completions = none)
    (hmode : options.mode ≠ .exec) (machine : Machine η) (state : η) :
    let ending := run arguments environment machine state
    let source := Source.ofPath? options.specification
    let root := options.installRoot
    let color := environment.color
    ending.state = (machine.read source state).2 ∧
    match Specification.ofOctets source (machine.read source state).1 with
    | .error _ => ending.stdout = [] ∧ ending.code = 1
    | .ok spec =>
      ending.code = 0 ∧
      (options.mode = .shell →
        let written := spec.apply root (Sink.script Writer.sheet) {}
        written.fault = none ∧ ending.stdout = written.state.written) ∧
      (options.mode = .dryrun →
        let recorded := spec.apply root Sink.record []
        recorded.fault = none ∧
        ending.stdout =
          if options.quiet then []
          else Utf8.encode (Terminal.title color ("Plan for " ++ root.shown)
            ++ String.join (recorded.state.map fun
              | .heading name => Terminal.heading color name
              | .command text => Terminal.command color (redact text)))) := by
  intro ending source root color
  obtain ⟨hcode, hstdout, hstate⟩ := run_of_ok hoptions hdoc hcompletions machine state
  let job := jobOf options environment
  cases hload : Specification.ofOctets source (machine.read source state).1 with
  | error failure =>
    rw [job.run_of_error machine state hload] at hcode hstdout hstate
    exact ⟨hstate, hstdout, hcode⟩
  | ok spec =>
    let world := (machine.read source state).2
    obtain ⟨hfailure, hunchanged, hprinted⟩ := job.run_of_ne_exec hmode machine state hload
    refine ⟨hstate.trans hunchanged, hcode.trans (by rw [hfailure]; rfl), ?_, ?_⟩
    · intro hshell written
      obtain ⟨hfault, hscript⟩ := job.standardOutput_apply_script hshell machine spec world
      exact ⟨hfault, hstdout.trans (hprinted.trans hscript)⟩
    · intro hdryrun recorded
      obtain ⟨hfault, hsteps⟩ := spec.apply_record root
      have hplan :=
        hstdout.trans (hprinted.trans (job.standardOutput_apply hdryrun machine spec world))
      have hshown : recorded.state.map (fun
          | .heading name => Terminal.heading color name
          | .command text => Terminal.command color (redact text)) =
          (spec.steps root).map (Terminal.step color) := by
        rw [show recorded.state = _ from hsteps]
        exact List.map_congr_left fun s _ => by cases s <;> rfl
      rw [hshown]
      exact ⟨hfault, hplan⟩

/-- A script is printed although the program is to be quiet. -/
theorem prints_plan_or_script_quiet :
    let arguments := ["--quiet", "--install-root=/target", "-"].map Utf8.encode
    let environment : Environment := {}
    let text := "\x7b\"system\": [\"UTC\", \"C\", \"UTF-8\", \"us\", \"archie\"]\x7d"
    let machine : Machine Unit :=
      ⟨fun _ world => (.ok (Utf8.encode text), world),
        fun _ world => (.ended (.exited 0) [] [], world)⟩
    let spec : Specification := ⟨{}, ⟨"UTC", "C", "UTF-8", "us", "archie", none⟩, {}⟩
    let options : Options :=
      ⟨some (Path.ofText "-"), Path.ofText "/target", .shell, false, true, false, none⟩
    Options.ofArguments arguments environment.surroundings = .ok options ∧
    (run arguments environment machine ()).code = 0 ∧
    (run arguments environment machine ()).stdout =
      (spec.apply options.installRoot (Sink.script Writer.sheet) {}).state.written := by
  intro arguments environment text machine spec options
  have hoptions : Options.ofArguments arguments environment.surroundings = .ok options := by
    decide
  have hdecoded : Utf8.decode? (Utf8.encode text) = some text := by cbv
  have hread : Json.read text = .ok (.object [("system", .array
      [.text "UTC", .text "C", .text "UTF-8", .text "us", .text "archie"])]) := by cbv
  have hload : Specification.ofOctets .standardInput (.ok (Utf8.encode text)) = .ok spec := by
    simp only [Specification.ofOctets, hdecoded, Specification.parse, Source.format,
      Specification.readDocument, hread, Except.mapError]
    rfl
  obtain ⟨-, hprints⟩ := prints_plan_or_script hoptions rfl rfl (by decide) machine ()
  rw [show Source.ofPath? _ = Source.standardInput from rfl, hload] at hprints
  obtain ⟨hcode, hscript, -⟩ := hprints
  exact ⟨hoptions, hcode, (hscript rfl).2⟩

end Program

end InstallPlan
