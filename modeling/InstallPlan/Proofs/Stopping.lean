import InstallPlan.Job
import InstallPlan.Proofs.Course

/-!
# Stopping

How a run in the mode that executes ends. With a specification it takes the course of
the plan's commands (`Job.run_exec_course`): it ends well if all of them succeed, and else
with the first that does not, whose fault is reported together with the root. Without one
no shell is started, and what the failure is put down to is another text, since it begins
with another letter (`Specification.head?_of_mem_contexts`).

The shells are those that a machine is asked for which keeps its exchanges
(`Machine.recorded`). To keep them changes nothing else (`Job.run_recorded`).
-/

namespace InstallPlan

/-! ## A machine that keeps its exchanges -/

section

variable {η : Type}

/-- A machine that keeps the requests for shells that reach it, and its replies. -/
def Machine.recorded (machine : Machine η) : Machine (η × List Exchange) where
  read source seen := ((machine.read source seen.1).1, (machine.read source seen.1).2, seen.2)
  host := machine.host.recorded

/-- The outcome without the list of exchanges. -/
def Outcome.unrecorded (outcome : Outcome (η × List Exchange)) : Outcome η :=
  { output := outcome.output, failure := outcome.failure, state := outcome.state.1 }

namespace Job

theorem apply_recorded (job : Job) (machine : Machine η) (spec : Specification)
    (state : η × List Exchange) :
    (job.apply machine.recorded spec state).unrecorded = job.apply machine spec state.1 := by
  cases hmode : job.mode with
  | exec =>
    have hprojects := (Sink.execute_recorded_projects machine.host Execute.defaultShell).apply
      spec job.root { host := state }
    simp only [apply, hmode, Sink.boxed_eq, Machine.recorded]
    simp only [Session.unrecorded] at hprojects
    rw [← hprojects]
    generalize spec.apply job.root (Sink.execute machine.host.recorded Execute.defaultShell)
      { host := state } = run
    cases hfault : run.fault <;>
      simp [Reaction.map, Outcome.unrecorded, Session.unrecorded, hfault]
  | dryrun =>
    simp only [apply, hmode]
    cases hfault : (spec.apply job.root Sink.record []).fault <;> rfl
  | shell => simp only [apply, hmode, Outcome.unrecorded]

/-- To keep the exchanges does not change the run. -/
theorem run_recorded (job : Job) (machine : Machine η) (state : η) :
    (job.run machine.recorded (state, [])).unrecorded = job.run machine state := by
  cases hload : Specification.ofOctets (Source.ofPath? job.source)
    (machine.read (Source.ofPath? job.source) state).1 with
  | error failure =>
    rw [run_of_error _ _ _ hload, run_of_error job machine.recorded (state, []) hload]
    rfl
  | ok spec =>
    rw [run_of_ok _ _ _ hload, run_of_ok job machine.recorded (state, []) hload,
      ← job.apply_recorded machine spec (_, [])]
    rfl

/-- In the mode that executes, the fault and the state of a run are those of its shells. -/
theorem apply_exec {job : Job} (hmode : job.mode = .exec) (machine : Machine η)
    (spec : Specification) (state : η) :
    let run := spec.apply job.root (Sink.execute machine.host Execute.defaultShell)
      { host := state }
    let outcome := job.apply machine spec state
    outcome.failure = run.fault.map job.failureOf ∧ outcome.state = run.state.host := by
  intro run outcome
  simp only [outcome, apply, hmode, Sink.boxed_eq]
  split
  · rename_i fault hfault
    exact ⟨by simp only [run, hfault, Option.map_some], rfl⟩
  · rename_i hfault
    exact ⟨by simp only [run, hfault, Option.map_none], rfl⟩

/-- A fault of a command is reported together with the root. -/
theorem failureOf_faultAfter {job : Job} (hmode : job.mode = .exec) {command : String}
    {reply : Reply} {fault : Fault} (h : Execute.faultAfter command reply = some fault) :
    job.failureOf fault = ⟨["Provisioning " ++ job.root.shown ++ " failed"], .fault fault⟩ := by
  have hexecution : fault.isExecution := by
    cases reply with
    | refused reason =>
      cases h
      rfl
    | ended status stdout stderr =>
      rw [Execute.faultAfter] at h
      split at h
      · cases h
      · cases h
        rfl
  rw [failureOf, if_pos ⟨hmode, hexecution⟩]

end Job

/-! ## A specification that does not load -/

theorem head?_append_eq_some {first : String} {c : Char} (h : first.toList.head? = some c)
    (rest : String) : (first ++ rest).toList.head? = some c := by
  rw [String.toList_append, List.head?_append, h]
  rfl

theorem Source.head?_unreadable (source : Source) :
    source.unreadable.toList.head? = some 'C' := by
  cases source with
  | standardInput => decide
  | file path => exact head?_append_eq_some (by decide) path.shown

theorem Source.head?_invalid (source : Source) : source.invalid.toList.head? = some 'I' := by
  cases source with
  | standardInput => decide
  | file path => exact head?_append_eq_some (by decide) path.shown

theorem Specification.contexts_parse {content : String} {format : Format} {failure : Failure}
    (h : parse content format = .error failure) :
    ∀ context ∈ failure.contexts, context.toList.head? = some 'I' := by
  have hdocument {reason : Failure} (hread : readDocument content format = .error reason) :
      ∀ context ∈ reason.contexts, context.toList.head? = some 'I' := by
    cases format with
    | json =>
      rw [readDocument] at hread
      cases hjson : Json.read content with
      | error e =>
        rw [hjson] at hread
        cases hread
        simp
      | ok document =>
        rw [hjson] at hread
        cases hread
    | toml =>
      rw [readDocument] at hread
      split at hread
      · cases hread
      · cases hread
        simp
  rw [parse] at h
  split at h
  · cases h
    exact hdocument ‹_›
  · rename_i document hread
    cases hshape : ofDocument document with
    | error reason =>
      rw [hshape] at h
      cases h
      simp
    | ok spec =>
      rw [hshape] at h
      cases h

/-- What a failure to load is put down to starts with another letter than the failure of a
command. -/
theorem Specification.head?_of_mem_contexts {source : Source}
    {octets : Except IoFault Octets} {failure : Failure}
    (h : Specification.ofOctets source octets = .error failure) {context : String}
    (hcontext : context ∈ failure.contexts) : context.toList.head? ≠ some 'P' := by
  cases octets with
  | error e =>
    cases h
    obtain rfl := List.mem_singleton.1 hcontext
    simp [source.head?_unreadable]
  | ok octets =>
    rw [ofOctets] at h
    split at h
    · cases h
      obtain rfl := List.mem_singleton.1 hcontext
      simp [source.head?_unreadable]
    · rename_i content hdecoded
      cases hparse : parse content source.format with
      | ok spec =>
        rw [hparse] at h
        cases h
      | error reason =>
        rw [hparse] at h
        cases h
        rcases List.mem_cons.1 hcontext with rfl | hinner
        · simp [source.head?_invalid]
        · simp [contexts_parse hparse context hinner]

/-! ## The whole run -/

/-- A run that executes a specification is a course of the plan's commands, and fails with
the fault of the course. -/
theorem Job.run_exec_course {job : Job} (hmode : job.mode = .exec) (machine : Machine η)
    (state : η) {spec : Specification}
    (hload : Specification.ofOctets (Source.ofPath? job.source)
      (machine.read (Source.ofPath? job.source) state).1 = .ok spec) :
    let outcome := job.run machine.recorded (state, [])
    ∃ after fault,
      Execute.Course Execute.defaultShell [] (spec.commands job.root) outcome.state.2 after fault ∧
      outcome.failure = fault.map job.failureOf := by
  intro outcome
  let world := (machine.read (Source.ofPath? job.source) state).2
  have hrun : outcome = _ :=
    run_of_ok job machine.recorded (state, []) hload
  obtain ⟨hfailure, hstate⟩ := apply_exec hmode machine.recorded spec (world, [])
  have hcourse := spec.apply_execute_course job.root machine.host Execute.defaultShell world
  have hexchanges : outcome.state = _ := (congrArg Outcome.state hrun).trans hstate
  rw [hexchanges]
  exact ⟨_, _, hcourse, (congrArg Outcome.failure hrun).trans hfailure⟩

/-- **Stopping.** Without a specification no shell is started, and the failure does not name
the root as what could not be provided for. With one, the run ends well exactly if the shells
of all commands succeed; else it ends with the first that does not, whose command and status
it reports together with the root. -/
theorem Job.exec_stops_at_first_failure (source : Option Path) (root : Path)
    (quiet color : Bool) (machine : Machine η) (state : η) :
    let job : Job := { source, root, mode := .exec, quiet, color }
    let outcome := job.run machine.recorded (state, [])
    let exchanges := outcome.state.2
    let context := "Provisioning " ++ root.shown ++ " failed"
    let source := Source.ofPath? source
    outcome.unrecorded = job.run machine state ∧
    match Specification.ofOctets source (machine.read source state).1 with
    | .error failure =>
      exchanges = [] ∧ outcome.failure = some failure ∧ context ∉ failure.contexts
    | .ok spec =>
      (outcome.failure = none ↔
        exchanges.map (·.request.script) = (spec.commands root).map Execute.scriptOf ∧
          ∀ exchange ∈ exchanges, exchange.reply.succeeded) ∧
      ∀ failure, outcome.failure = some failure →
        ∃ earlier command later passed last,
          spec.commands root = earlier ++ command :: later ∧
          exchanges = passed ++ [last] ∧
          passed.map (·.request.script) = earlier.map Execute.scriptOf ∧
          last.request.script = Execute.scriptOf command ∧
          (∀ exchange ∈ passed, exchange.reply.succeeded) ∧
          match last.reply with
          | .refused reason => failure = ⟨[context], .fault (.spawnFailed command reason)⟩
          | .ended status _ _ =>
            status ≠ .exited 0 ∧ failure = ⟨[context], .fault (.commandFailed command status)⟩ := by
  intro job outcome exchanges context source
  refine ⟨job.run_recorded machine state, ?_⟩
  cases hload : Specification.ofOctets source (machine.read source state).1 with
  | error failure =>
    have hrun : outcome = _ := run_of_error job machine.recorded (state, []) hload
    refine ⟨by simp only [exchanges, hrun]; rfl, by rw [hrun], ?_⟩
    intro hmem
    exact Specification.head?_of_mem_contexts hload hmem (head?_append_eq_some
      (head?_append_eq_some (by decide) root.shown) " failed")
  | ok spec =>
    obtain ⟨after, fault, hcourse, hfailure⟩ := job.run_exec_course rfl machine state hload
    have houtcome : outcome.failure = fault.map job.failureOf := hfailure
    cases fault with
    | none =>
      obtain ⟨hscripts, hsucceeded⟩ := hcourse.of_none
      refine ⟨iff_of_true houtcome ⟨hscripts, hsucceeded⟩, ?_⟩
      intro failure hfailed
      rw [houtcome] at hfailed
      cases hfailed
    | some fault =>
      obtain ⟨earlier, command, later, passed, last, hcommands, hexchanges, hscripts, hlast,
        hpassed, hfault⟩ := hcourse.stopped
      have hmem : last ∈ exchanges := by
        rw [show exchanges = passed ++ [last] from hexchanges]
        exact List.mem_append_right _ (List.mem_singleton.2 rfl)
      refine ⟨iff_of_false (by simp [houtcome]) ?_, ?_⟩
      · intro ⟨_, hall⟩
        have hsucceeded := hall last hmem
        rw [Execute.failed_of_faultAfter hfault] at hsucceeded
        cases hsucceeded
      · intro failure hfailed
        rw [houtcome, Option.map_some, job.failureOf_faultAfter rfl hfault] at hfailed
        refine ⟨earlier, command, later, passed, last, hcommands, hexchanges, hscripts, hlast,
          hpassed, ?_⟩
        cases hreply : last.reply with
        | refused reason =>
          rw [hreply] at hfault
          cases hfault
          exact (Option.some.inj hfailed).symm
        | ended status stdout stderr =>
          rw [hreply, Execute.faultAfter] at hfault
          split at hfault
          · cases hfault
          · rename_i hstatus
            cases hfault
            exact ⟨hstatus, (Option.some.inj hfailed).symm⟩

end

end InstallPlan
