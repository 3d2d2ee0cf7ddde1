import InstallPlan.Proofs.Delivery
import InstallPlan.Sink.Record

/-!
# Announcement

The log records of level info that a run leaves behind. Each of the three sinks
announces a step as soon as it gets it, whatever comes of it
(`Sink.Announces`), so the records of a run are those of the events that were
handed over: all of the plan when nothing fails, the start of it otherwise.
-/

namespace InstallPlan

/-! ## Records of level info -/

namespace Output

/-- The log records of level info. -/
def infoRecords (outputs : List Output) : List Log.Record :=
  (records outputs).filter (·.level = .info)

/-- The messages of the log records of level info. -/
def infoMessages (outputs : List Output) : List String :=
  (infoRecords outputs).map (·.message)

@[simp] theorem infoRecords_nil : infoRecords [] = [] := rfl

@[simp] theorem infoRecords_append (first second : List Output) :
    infoRecords (first ++ second) = infoRecords first ++ infoRecords second := by
  simp [infoRecords]

@[simp] theorem infoRecords_debug (target message : String) (outputs : List Output) :
    infoRecords (debug target message :: outputs) = infoRecords outputs := rfl

theorem infoRecords_eq_nil_of_records {outputs : List Output} (h : records outputs = []) :
    infoRecords outputs = [] := by
  simp [infoRecords, h]

end Output

/-- The message that announces a step. -/
def Step.message : Step → String
  | .heading name => "SECTION " ++ name
  | .command text => "COMMAND " ++ redact text

/-- The record that announces a step. -/
def Step.record (target : String) (s : Step) : Log.Record := ⟨.info, target, s.message⟩

@[simp] theorem Step.infoRecords_announcement (target : String) (s : Step)
    (outputs : List Output) :
    Output.infoRecords (s.announcement target :: outputs)
      = s.record target :: Output.infoRecords outputs := by
  cases s <;> rfl

/-- The records that announce an event. -/
def Event.records (target : String) : Event → List Log.Record
  | .step s => [s.record target]
  | .start | .finish => []

namespace Specification

theorem flatMap_events {α : Type} (spec : Specification) (root : Path) (f : Event → List α) :
    (spec.events root).flatMap f =
      f .start ++ (spec.steps root).flatMap (fun s => f (.step s)) ++ f .finish := by
  simp [events, List.flatMap_map]

theorem flatMap_records (spec : Specification) (root : Path) (target : String) :
    (spec.events root).flatMap (Event.records target) =
      (spec.steps root).map (Step.record target) := by
  rw [flatMap_events, List.map_eq_flatMap]
  simp [Event.records]

end Specification

/-! ## Sinks that announce every step -/

/-- Whether a sink logs the record of every step that it gets, and nothing else of level
info. -/
def Sink.Announces {σ : Type} (sink : Sink σ) (target : String) : Prop :=
  ∀ event state, Output.infoRecords (sink.react event state).output = event.records target

namespace Sink.Announces

variable {σ : Type} {sink : Sink σ} {target : String}

theorem deliver (h : sink.Announces target) (events : List Event) (state : σ) :
    Output.infoRecords (sink.deliver events state).output =
      (sink.delivered events state).flatMap (Event.records target) := by
  induction events generalizing state with
  | nil => rfl
  | cons event rest ih =>
    simp only [deliver_cons]
    cases hf : (sink.react event state).fault with
    | some fault =>
      -- the event that fails is announced like any other
      rw [Reaction.andThen_of_isSome (by simp [hf]), h event state]
      simp [delivered, hf]
    | none =>
      rw [Reaction.andThen_of_none hf, Output.infoRecords_append, ih, h event state]
      simp [delivered, hf]

/-- A run without a fault announces the plan. -/
theorem apply (h : sink.Announces target) {spec : Specification} {root : Path} {state : σ}
    (hfault : (spec.apply root sink state).fault = none) :
    Output.infoRecords (spec.apply root sink state).output =
      (spec.steps root).map (Step.record target) := by
  rw [Specification.apply_eq_deliver] at hfault ⊢
  rw [Output.infoRecords_debug, h.deliver, delivered_of_fault_eq_none sink hfault,
    Specification.flatMap_records]

theorem apply_messages (h : sink.Announces target) {spec : Specification} {root : Path}
    {state : σ} (hfault : (spec.apply root sink state).fault = none) :
    Output.infoMessages (spec.apply root sink state).output =
      (spec.steps root).map Step.message := by
  rw [Output.infoMessages, h.apply hfault, List.map_map]
  rfl

end Sink.Announces

/-! ## The three sinks -/

theorem Sink.record_announces : Sink.record.Announces "provision::sink::record" := by
  rintro (_ | ⟨name | text⟩ | _) steps <;> rfl

/-- A writer that logs nothing. -/
structure Writer.Silent {ω : Type} (writer : Writer ω) : Prop where
  write_records : ∀ octets state, Output.records (writer.write octets state).output = []
  flush_records : ∀ state, Output.records (writer.flush state).output = []

theorem Writer.Silent.infoRecords_writeTexts {ω : Type} {writer : Writer ω} (h : writer.Silent)
    (texts : List String) (state : ω) :
    Output.infoRecords (writer.writeTexts texts state).output = [] := by
  induction texts generalizing state with
  | nil => rfl
  | cons text rest ih =>
    have hfirst := Output.infoRecords_eq_nil_of_records
      (h.write_records (Utf8.encode text) state)
    rw [writeTexts]
    cases hf : (writer.write (Utf8.encode text) state).fault with
    | some fault => rw [Reaction.andThen_of_isSome (by simp [hf]), hfirst]
    | none => rw [Reaction.andThen_of_none hf, Output.infoRecords_append, hfirst, ih,
        List.nil_append]

theorem Sink.script_announces {ω : Type} {writer : Writer ω} (h : writer.Silent) :
    (Sink.script writer).Announces "provision::sink::emit" := by
  have hstep (s : Step) (state : ω) :
      Output.infoRecords (Script.writeStep writer s state).output =
        [s.record "provision::sink::emit"] := by
    rw [Script.writeStep, Step.infoRecords_announcement, h.infoRecords_writeTexts]
  rintro (_ | ⟨name | text⟩ | _) state
  · exact h.infoRecords_writeTexts _ state
  · exact hstep _ state
  · exact hstep _ state
  · exact Output.infoRecords_eq_nil_of_records (h.flush_records _)

/-- The value of a variable is logged, too, but at level debug. -/
theorem Execute.infoRecords_outputAfter (command : String) (reply : Reply) :
    Output.infoRecords (outputAfter command reply) = [] := by
  cases reply with
  | refused reason => rfl
  | ended status stdout stderr =>
    rw [outputAfter]
    split
    · rfl
    · split <;> rfl

theorem Sink.execute_announces {η : Type} (host : Host η) (shell : String) :
    (Sink.execute host shell).Announces "provision::sink::execute" := by
  rintro (_ | ⟨name | command⟩ | _) session
  · rfl
  · rfl
  · rw [react_execute_command, Step.infoRecords_announcement, Execute.infoRecords_outputAfter]
    rfl
  · rfl

end InstallPlan
