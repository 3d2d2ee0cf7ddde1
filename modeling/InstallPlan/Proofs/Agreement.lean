import InstallPlan.Proofs.Announcement
import InstallPlan.Proofs.Encoding

/-!
# Agreement

The three sinks do the same thing with every plan. What is recorded is written
into the script and run by the shell, step by step, and all three announce it
with the same messages.

A sink is described by what one event adds to a list that is seen of its state
(`Sink.Takes`); what a whole specification adds follows for all sinks at once.
-/

namespace InstallPlan

/-! ## Sinks that take every event -/

/-- Whether a sink never fails, and adds `piece` with every event to the list that is seen of
its state. -/
def Sink.Takes {σ α : Type} (sink : Sink σ) (view : σ → List α) (piece : Event → List α) :
    Prop :=
  ∀ event state,
    (sink.react event state).fault = none ∧
      view (sink.react event state).state = view state ++ piece event

namespace Sink.Takes

variable {σ α : Type} {sink : Sink σ} {view : σ → List α} {piece : Event → List α}

theorem deliver (h : sink.Takes view piece) (events : List Event) (state : σ) :
    (sink.deliver events state).fault = none ∧
      view (sink.deliver events state).state = view state ++ events.flatMap piece := by
  induction events generalizing state with
  | nil => simp
  | cons event rest ih =>
    obtain ⟨hfault, hview⟩ := h event state
    obtain ⟨hrestFault, hrestView⟩ := ih (sink.react event state).state
    simp only [deliver_cons, List.flatMap_cons]
    rw [Reaction.andThen_of_none hfault]
    refine ⟨hrestFault, ?_⟩
    rw [hrestView, hview, List.append_assoc]

theorem apply (h : sink.Takes view piece) (spec : Specification) (root : Path) (state : σ) :
    (spec.apply root sink state).fault = none ∧
      view (spec.apply root sink state).state
        = view state ++ (spec.events root).flatMap piece := by
  rw [Specification.apply_eq_deliver]
  exact h.deliver (spec.events root) state

end Sink.Takes

/-! ## The three sinks -/

/-- What an event adds to a record. -/
def Event.recorded : Event → List Step
  | .step s => [s]
  | .start | .finish => []

theorem Sink.record_takes : Sink.record.Takes id Event.recorded := by
  rintro (_ | ⟨name | text⟩ | _) steps
  · exact ⟨rfl, (List.append_nil steps).symm⟩
  · exact ⟨rfl, rfl⟩
  · exact ⟨rfl, rfl⟩
  · exact ⟨rfl, (List.append_nil steps).symm⟩

/-- A writer that never fails, and logs nothing. -/
structure Writer.Steady {ω : Type} (writer : Writer ω) : Prop extends writer.Silent where
  write_fault : ∀ octets state, (writer.write octets state).fault = none
  flush_fault : ∀ state, (writer.flush state).fault = none

theorem Writer.terminal_steady : Writer.terminal.Steady where
  write_fault _ _ := rfl
  flush_fault _ := rfl
  write_records _ _ := rfl
  flush_records _ := rfl

theorem Writer.Steady.writeTexts_recorded {ω : Type} {writer : Writer ω} (h : writer.Steady)
    (texts : List String) (seen : ω × Octets) :
    (writer.recorded.writeTexts texts seen).fault = none ∧
      (writer.recorded.writeTexts texts seen).state.2 =
        seen.2 ++ Utf8.encode (String.join texts) := by
  induction texts generalizing seen with
  | nil => exact ⟨rfl, (List.append_nil seen.2).symm⟩
  | cons text rest ih =>
    have hfirst : (writer.recorded.write (Utf8.encode text) seen).fault = none :=
      h.write_fault _ _
    obtain ⟨hfault, hoctets⟩ := ih (writer.recorded.write (Utf8.encode text) seen).state
    rw [writeTexts, Reaction.andThen_of_none hfirst]
    refine ⟨hfault, hoctets.trans ?_⟩
    rw [String.join_cons, Utf8.encode_append, ← List.append_assoc]
    rfl

theorem Sink.script_takes {ω : Type} {writer : Writer ω} (h : writer.Steady) :
    (Sink.script writer.recorded).Takes Prod.snd
      fun event => Utf8.encode (Script.render event) := by
  intro event seen
  have hpieces := h.writeTexts_recorded (Script.pieces event) seen
  rw [Script.join_pieces] at hpieces
  rcases event with _ | ⟨name | text⟩ | _
  · exact hpieces
  · exact hpieces
  · exact hpieces
  · exact ⟨h.flush_fault _, (List.append_nil seen.2).symm⟩

/-- A host that starts every shell, and whose shells all end with the code zero. -/
def Host.Succeeds {η : Type} (host : Host η) : Prop :=
  ∀ request state, (host request state).1.succeeded

/-- What an event adds to the scripts that are run. -/
def Event.scripts : Event → List String
  | .step (.command text) => [Execute.scriptOf text]
  | .step (.heading _) | .start | .finish => []

theorem Sink.execute_takes {η : Type} {host : Host η} (h : host.Succeeds) (shell : String) :
    (Sink.execute host.recorded shell).Takes
      (fun session => session.host.2.map (·.request.script)) Event.scripts := by
  rintro (_ | ⟨name | command⟩ | _) session
  · exact ⟨rfl, (List.append_nil _).symm⟩
  · exact ⟨rfl, (List.append_nil _).symm⟩
  · rw [react_execute_command]
    constructor
    · exact Execute.faultAfter_eq_none_iff.2 (h (session.request shell command) session.host.1)
    · simp [Host.recorded, Event.scripts, Session.request]
  · exact ⟨rfl, (List.append_nil _).symm⟩

/-! ## The three modes -/

theorem Script.flatMap_render (spec : Specification) (root : Path) :
    (spec.events root).flatMap (fun event => Utf8.encode (render event)) =
      Utf8.encode (render .start ++ String.join ((spec.steps root).map renderStep)) := by
  rw [Specification.flatMap_events, Utf8.encode_append, Utf8.encode_join, List.flatMap_map]
  simp only [render, Utf8.encode, String.toList_empty, List.flatMap_nil, List.append_nil]

theorem Event.flatMap_scripts (steps : List Step) :
    steps.flatMap (fun s => Event.scripts (.step s)) =
      (steps.filterMap Step.command?).map Execute.scriptOf := by
  induction steps with
  | nil => rfl
  | cons s rest ih =>
    rw [List.flatMap_cons, ih]
    cases s <;> rfl

theorem Event.flatMap_recorded (steps : List Step) :
    steps.flatMap (fun s => Event.recorded (.step s)) = steps := by
  simp [Event.recorded]

namespace Specification

variable (spec : Specification) (root : Path)

theorem apply_record :
    (spec.apply root Sink.record []).fault = none ∧
      (spec.apply root Sink.record []).state = spec.steps root := by
  obtain ⟨hfault, hsteps⟩ := Sink.record_takes.apply spec root []
  rw [flatMap_events, Event.flatMap_recorded] at hsteps
  exact ⟨hfault, by simpa [Event.recorded] using hsteps⟩

theorem apply_script {ω : Type} {writer : Writer ω} (h : writer.Steady) (sheet : ω) :
    let reaction := spec.apply root (Sink.script writer) sheet
    reaction.fault = none ∧
      (spec.apply root (Sink.script writer.recorded) (sheet, [])).state =
        (reaction.state, Utf8.encode
          (Script.render .start ++ String.join ((spec.steps root).map Script.renderStep))) := by
  intro reaction
  obtain ⟨hfault, hoctets⟩ := (Sink.script_takes h).apply spec root (sheet, [])
  -- the run that keeps the octets is, without them, the run itself
  have hmap := (Sink.script_recorded_projects writer).apply spec root (sheet, [])
  have hreaction : reaction = Reaction.map Prod.fst _ := hmap.symm
  rw [Script.flatMap_render, List.nil_append] at hoctets
  rw [hreaction]
  exact ⟨hfault, Prod.ext rfl hoctets⟩

theorem apply_execute {η : Type} {host : Host η} (h : host.Succeeds) (shell : String)
    (world : η) :
    let reaction := spec.apply root (Sink.execute host shell) { host := world }
    reaction.fault = none ∧
      ∃ exchanges,
        (spec.apply root (Sink.execute host.recorded shell) { host := (world, []) }).state =
          { captures := reaction.state.captures, host := (reaction.state.host, exchanges) } ∧
        exchanges.map (·.request.script)
          = ((spec.steps root).filterMap Step.command?).map Execute.scriptOf := by
  intro reaction
  obtain ⟨hfault, hscripts⟩ :=
    (Sink.execute_takes h shell).apply spec root { host := (world, []) }
  -- the run that keeps the exchanges is, without them, the run itself
  have hmap := (Sink.execute_recorded_projects host shell).apply spec root
    { host := (world, []) }
  have hreaction : reaction = Reaction.map Session.unrecorded _ := hmap.symm
  rw [flatMap_events, Event.flatMap_scripts] at hscripts
  generalize spec.apply root (Sink.execute host.recorded shell) { host := (world, []) } = run
    at hfault hscripts hreaction ⊢
  rw [hreaction]
  refine ⟨hfault, run.state.host.2, rfl, ?_⟩
  simpa [Event.scripts] using hscripts

end Specification

/-- **Agreement.** No mode fails on any plan. The script holds the recorded steps, the
shell is given their commands, and the three runs say the same. -/
theorem modes_agree {ω η : Type} (spec : Specification) (root : Path)
    {writer : Writer ω} (hwriter : writer.Steady) (sheet : ω)
    {host : Host η} (hhost : host.Succeeds) (shell : String) (world : η) :
    let recorded := spec.apply root Sink.record []
    let written := spec.apply root (Sink.script writer) sheet
    let executed := spec.apply root (Sink.execute host shell) { host := world }
    let steps := recorded.state
    let messages := steps.map fun
      | .heading name => "SECTION " ++ name
      | .command text => "COMMAND " ++ redact text
    (recorded.fault = none ∧ written.fault = none ∧ executed.fault = none) ∧
    steps = spec.steps root ∧
    (spec.apply root (Sink.script writer.recorded) (sheet, [])).state =
      (written.state,
        Utf8.encode ("#!/usr/bin/bash\nset -xeuo pipefail\n" ++
          String.join (steps.map fun
            | .heading name => "\n# " ++ name ++ "\n"
            | .command text => text ++ "\n"))) ∧
    (∃ exchanges,
      (spec.apply root (Sink.execute host.recorded shell) { host := (world, []) }).state =
        { captures := executed.state.captures, host := (executed.state.host, exchanges) } ∧
      exchanges.map (·.request.script) = (steps.filterMap Step.command?).map fun command =>
        match Assignment.target? command with
        | none => command
        | some name => "set -e\n" ++ command ++ "\nprintf '%s' \"$" ++ name ++ "\"") ∧
    (Output.infoMessages recorded.output = messages ∧
      Output.infoMessages written.output = messages ∧
      Output.infoMessages executed.output = messages) := by
  intro recorded written executed steps messages
  obtain ⟨hrecorded, hsteps⟩ := spec.apply_record root
  obtain ⟨hwritten, hoctets⟩ := spec.apply_script root hwriter sheet
  obtain ⟨hexecuted, exchanges, hstate, hscripts⟩ :=
    spec.apply_execute root hhost shell world
  have hplan : steps = spec.steps root := hsteps
  have hmessages : messages = (spec.steps root).map Step.message := by
    simp only [messages, hplan]
    exact List.map_congr_left fun s _ => by cases s <;> rfl
  have hscript : (steps.map fun
      | .heading name => "\n# " ++ name ++ "\n"
      | .command text => text ++ "\n") = (spec.steps root).map Script.renderStep := by
    rw [hplan]
    exact List.map_congr_left fun s _ => by cases s <;> rfl
  refine ⟨⟨hrecorded, hwritten, hexecuted⟩, hplan, ?_, ⟨exchanges, hstate, ?_⟩, ?_, ?_, ?_⟩
  · rw [hscript]
    exact hoctets
  · rw [hscripts, hplan]
    exact List.map_congr_left fun command _ => by
      cases ht : Assignment.target? command <;>
        simp only [Execute.scriptOf, Execute.captureScript, ht]
  · rw [hmessages]
    exact Sink.record_announces.apply_messages hrecorded
  · rw [hmessages]
    exact (Sink.script_announces hwriter.toSilent).apply_messages hwritten
  · rw [hmessages]
    exact (Sink.execute_announces host shell).apply_messages hexecuted

/-- A password of two words, written to the standard output, and shells that print nothing. -/
theorem modes_agree_archie :
    let spec : Specification :=
      ⟨{}, ⟨"UTC", "en_US.UTF-8", "UTF-8", "us", "archie", some "hunter 2"⟩, {}⟩
    let root := Path.ofText "/mnt"
    let host : Host Unit := fun _ world => (.ended (.exited 0) [] [], world)
    Writer.terminal.Steady ∧ host.Succeeds ∧
      (spec.apply root (Sink.script Writer.terminal) ()).fault = none ∧
      Output.infoMessages (spec.apply root (Sink.script Writer.terminal) ()).output =
        Output.infoMessages (spec.apply root (Sink.execute host "sh") { host := () }).output := by
  intro spec root host
  have hhost : host.Succeeds := fun _ _ => rfl
  obtain ⟨⟨-, hwritten, -⟩, -, -, -, -, hscript, hexecuted⟩ :=
    modes_agree spec root Writer.terminal_steady () hhost "sh" ()
  exact ⟨Writer.terminal_steady, hhost, hwritten, hscript.trans hexecuted.symm⟩

end InstallPlan
