import InstallPlan.Proofs.Execution
import InstallPlan.Sink.Script

/-!
# Observation

Sinks, writers and hosts that keep a list of all that reaches them: the events
(`Sink.traced`), the octets (`Writer.recorded`), the requests with their replies
(`Host.recorded`). To observe a run does not change it: the state without the
list is the state of the run that nobody observes (`Sink.Projects`).
-/

namespace InstallPlan

namespace Reaction

variable {σ τ : Type}

/-- A reaction whose state is seen through a function. -/
def map (f : σ → τ) (reaction : Reaction σ) : Reaction τ :=
  { state := f reaction.state, output := reaction.output, fault := reaction.fault }

theorem fault_map (f : σ → τ) (reaction : Reaction σ) : (reaction.map f).fault = reaction.fault :=
  rfl

theorem map_andThen {f : σ → τ} {next : σ → Reaction σ} {next' : τ → Reaction τ}
    (h : ∀ state, (next state).map f = next' (f state)) (first : Reaction σ) :
    (first.andThen next).map f = (first.map f).andThen next' := by
  cases hf : first.fault with
  | some fault => simp only [andThen, map, hf]
  | none => simp only [andThen, map, hf, ← h first.state]

end Reaction

namespace Sink

variable {σ τ : Type}

/-- Whether a sink does, seen through a function on states, what another one does. -/
def Projects (f : σ → τ) (outer : Sink σ) (inner : Sink τ) : Prop :=
  ∀ event state, (outer.react event state).map f = inner.react event (f state)

namespace Projects

variable {f : σ → τ} {outer : Sink σ} {inner : Sink τ}

theorem deliver (h : Projects f outer inner) (events : List Event) (state : σ) :
    (outer.deliver events state).map f = inner.deliver events (f state) := by
  induction events generalizing state with
  | nil => rfl
  | cons event rest ih =>
    simp only [deliver_cons]
    rw [Reaction.map_andThen ih, h event state]

theorem after (h : Projects f outer inner) (events : List Event) (state : σ) :
    f (outer.after events state) = inner.after events (f state) := by
  induction events generalizing state with
  | nil => rfl
  | cons event rest ih =>
    have hstate : f (outer.react event state).state = (inner.react event (f state)).state := by
      rw [← h event state, Reaction.map]
    rw [Sink.after, Sink.after, ih, hstate]

end Projects

/-! ## The events that reach a sink -/

/-- A sink that keeps the events that reach it. -/
def traced (sink : Sink σ) : Sink (σ × List Event) where
  start seen := (sink.start seen.1).map (·, seen.2 ++ [.start])
  heading name seen := (sink.heading name seen.1).map (·, seen.2 ++ [.step (.heading name)])
  command text seen := (sink.command text seen.1).map (·, seen.2 ++ [.step (.command text)])
  finish seen := (sink.finish seen.1).map (·, seen.2 ++ [.finish])

theorem react_traced (sink : Sink σ) (event : Event) (seen : σ × List Event) :
    sink.traced.react event seen = (sink.react event seen.1).map (·, seen.2 ++ [event]) := by
  cases event with
  | start => rfl
  | step s => cases s <;> rfl
  | finish => rfl

end Sink

/-! ## The octets that reach a writer -/

/-- A writer that keeps the octets that reach it. -/
def Writer.recorded {ω : Type} (writer : Writer ω) : Writer (ω × Octets) where
  write octets seen := (writer.write octets seen.1).map (·, seen.2 ++ octets)
  flush seen := (writer.flush seen.1).map (·, seen.2)

theorem Writer.map_writeTexts_recorded {ω : Type} (writer : Writer ω) (texts : List String)
    (seen : ω × Octets) :
    (writer.recorded.writeTexts texts seen).map Prod.fst = writer.writeTexts texts seen.1 := by
  induction texts generalizing seen with
  | nil => rfl
  | cons text rest ih =>
    rw [writeTexts, writeTexts, Reaction.map_andThen ih]
    rfl

theorem Script.map_writeStep_recorded {ω : Type} (writer : Writer ω) (s : Step)
    (seen : ω × Octets) :
    (writeStep writer.recorded s seen).map Prod.fst = writeStep writer s seen.1 := by
  rw [writeStep, writeStep, ← writer.map_writeTexts_recorded]
  rfl

theorem Sink.script_recorded_projects {ω : Type} (writer : Writer ω) :
    Projects Prod.fst (Sink.script writer.recorded) (Sink.script writer) := by
  intro event seen
  cases event with
  | start => exact writer.map_writeTexts_recorded _ seen
  | step s => cases s <;> exact Script.map_writeStep_recorded writer _ seen
  | finish => rfl

/-! ## The requests that reach a host -/

/-- A request and the reply to it. -/
structure Exchange where
  request : Request
  reply : Reply
  deriving DecidableEq, Repr

/-- A host that keeps the requests that reach it, and its replies. -/
def Host.recorded {η : Type} (host : Host η) : Host (η × List Exchange) :=
  fun request seen =>
    let (reply, after) := host request seen.1
    (reply, after, seen.2 ++ [⟨request, reply⟩])

/-- The session without the list of exchanges. -/
def Session.unrecorded {η : Type} (session : Session (η × List Exchange)) : Session η :=
  { captures := session.captures, host := session.host.1 }

theorem Sink.execute_recorded_projects {η : Type} (host : Host η) (shell : String) :
    Projects Session.unrecorded (Sink.execute host.recorded shell) (Sink.execute host shell) := by
  intro event session
  rcases event with _ | ⟨name | command⟩ | _
  · rfl
  · rfl
  · rw [react_execute_command, react_execute_command]
    rfl
  · rfl

end InstallPlan
