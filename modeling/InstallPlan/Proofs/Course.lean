import InstallPlan.Proofs.Variables

/-!
# Course

The course that commands take when they are run one after another: each is given to
one shell, with the variables as they are by then, and the first that fails is the
last (`Execute.Course`). Every run of the sink takes such a course
(`Sink.deliver_execute_course`), and what is to be known of a run can be read off it.

* A course of commands in a row is cut where one of them ends
  (`Execute.Course.append_of_none`).
* Commands that assign nothing leave the variables alone, and all of their shells get
  the same ones (`Execute.Course.of_assigns_nothing`).
* A fault is that of the last command that was run, and all the others succeeded
  (`Execute.Course.stopped`).
-/

namespace InstallPlan

namespace Execute

theorem failed_of_faultAfter {command : String} {reply : Reply} {fault : Fault}
    (h : faultAfter command reply = some fault) : reply.succeeded = false := by
  rw [Bool.eq_false_iff]
  intro hreply
  rw [faultAfter_eq_none_iff.2 hreply] at h
  cases h

/-- The course of some commands: the exchanges with their shells, the variables behind
them, and the fault that ended them, if any. -/
inductive Course (shell : String) :
    List Variable → List String → List Exchange → List Variable → Option Fault → Prop
  | done {captures : List Variable} : Course shell captures [] [] captures none
  | next {captures after : List Variable} {command : String} {commands : List String}
      {reply : Reply} {exchanges : List Exchange} {fault : Option Fault}
      (hreply : reply.succeeded)
      (rest : Course shell (capturesAfter command reply captures) commands exchanges after fault) :
      Course shell captures (command :: commands)
        (⟨⟨shell, scriptOf command, captures⟩, reply⟩ :: exchanges) after fault
  | stop {captures : List Variable} {command : String} {commands : List String} {reply : Reply}
      {fault : Fault} (hfault : faultAfter command reply = some fault) :
      Course shell captures (command :: commands)
        [⟨⟨shell, scriptOf command, captures⟩, reply⟩] captures (some fault)

namespace Course

variable {shell : String} {captures after : List Variable} {commands : List String}
  {exchanges : List Exchange} {fault : Option Fault}

/-- Without a fault every command was run, and succeeded. -/
theorem of_none (h : Course shell captures commands exchanges after none) :
    exchanges.map (·.request.script) = commands.map scriptOf ∧
      ∀ exchange ∈ exchanges, exchange.reply.succeeded := by
  generalize hfault : (none : Option Fault) = fault at h
  induction h with
  | done => simp
  | next hreply rest ih =>
    obtain ⟨hscripts, hsucceeded⟩ := ih hfault
    exact ⟨by simp [hscripts], List.forall_mem_cons.2 ⟨hreply, hsucceeded⟩⟩
  | stop hstop => cases hfault

/-- A fault is that of the last command that was run; the ones before it succeeded, and
none behind it was run. -/
theorem stopped {fault : Fault}
    (h : Course shell captures commands exchanges after (some fault)) :
    ∃ earlier command later passed last,
      commands = earlier ++ command :: later ∧ exchanges = passed ++ [last] ∧
      passed.map (·.request.script) = earlier.map scriptOf ∧
      last.request.script = scriptOf command ∧
      (∀ exchange ∈ passed, exchange.reply.succeeded) ∧
      faultAfter command last.reply = some fault := by
  generalize hfault : some fault = outcome at h
  induction h with
  | done => cases hfault
  | @next _ _ command _ reply _ _ hreply rest ih =>
    obtain ⟨earlier, failing, later, passed, last, rfl, rfl, hscripts, hlast, hpassed, hend⟩ :=
      ih hfault
    refine ⟨command :: earlier, failing, later, _ :: passed, last, rfl, rfl, ?_, hlast, ?_, hend⟩
    · simp [hscripts]
    · exact List.forall_mem_cons.2 ⟨hreply, hpassed⟩
  | @stop _ command commands reply _ hstop =>
    cases hfault
    exact ⟨[], command, commands, [], _, rfl, rfl, rfl, rfl, by simp, hstop⟩

/-- A course without a fault is cut where one of its commands ends. -/
theorem append_of_none {first second : List String}
    (h : Course shell captures (first ++ second) exchanges after none) :
    ∃ earlier later between, exchanges = earlier ++ later ∧
      Course shell captures first earlier between none ∧
      Course shell between second later after none := by
  induction first generalizing captures exchanges with
  | nil => exact ⟨[], exchanges, captures, rfl, .done, h⟩
  | cons command first ih =>
    cases h with
    | next hreply rest =>
      obtain ⟨earlier, later, between, rfl, hfirst, hsecond⟩ := ih rest
      exact ⟨_ :: earlier, later, between, rfl, .next hreply hfirst, hsecond⟩

/-- Commands that assign nothing leave the variables alone, and all of their shells get the
same ones. -/
theorem of_assigns_nothing (h : Course shell captures commands exchanges after none)
    (hcommands : ∀ command ∈ commands, Assignment.target? command = none) :
    after = captures ∧
      exchanges.map (·.request) =
        commands.map fun command => ⟨shell, scriptOf command, captures⟩ := by
  generalize hfault : (none : Option Fault) = fault at h
  induction h with
  | done => exact ⟨rfl, rfl⟩
  | next hreply rest ih =>
    obtain ⟨hcommand, hrest⟩ := List.forall_mem_cons.1 hcommands
    rw [capturesAfter_eq_self (.inr hcommand)] at ih
    obtain ⟨hafter, hrequests⟩ := ih hrest hfault
    exact ⟨hafter, by rw [List.map_cons, hrequests, List.map_cons]⟩
  | stop hstop => cases hfault

end Course

end Execute

section

variable {η : Type}

/-- A run of the sink is a course of the commands that it gets. -/
theorem Sink.deliver_execute_course (host : Host η) (shell : String) (events : List Event)
    (session : Session (η × List Exchange)) :
    let run := (Sink.execute host.recorded shell).deliver events session
    ∃ exchanges, run.state.host.2 = session.host.2 ++ exchanges ∧
      Execute.Course shell session.captures (events.filterMap Event.command?) exchanges
        run.state.captures run.fault := by
  induction events generalizing session with
  | nil => exact ⟨[], (List.append_nil _).symm, .done⟩
  | cons event rest ih =>
    intro run
    let sink := Sink.execute host.recorded shell
    have hrun : run = (sink.react event session).andThen (sink.deliver rest) := rfl
    obtain ⟨exchanges, hexchanges, hcourse⟩ := ih (sink.react event session).state
    cases hc : event.command? with
    | none =>
      obtain ⟨hstate, hfault⟩ :=
        react_execute_of_command?_eq_none host.recorded shell hc session
      rw [hstate] at hexchanges hcourse
      rw [List.filterMap_cons_none hc, hrun, Reaction.state_andThen_of_none hfault,
        Reaction.fault_andThen_of_none hfault, hstate]
      exact ⟨exchanges, hexchanges, hcourse⟩
    | some command =>
      obtain rfl := Event.eq_of_command?_eq_some hc
      let request := session.request shell command
      let reply := (host request session.host.1).1
      obtain ⟨hcaptures, hlogged, -⟩ := react_execute_recorded host shell command session
      have hreact : (sink.react (.step (.command command)) session).fault =
          Execute.faultAfter command reply := by
        rw [react_execute_command]
        rfl
      rw [List.filterMap_cons_some hc, hrun]
      cases hfault : Execute.faultAfter command reply with
      | none =>
        rw [hfault] at hreact
        rw [hcaptures] at hcourse
        rw [Reaction.state_andThen_of_none hreact, Reaction.fault_andThen_of_none hreact]
        refine ⟨⟨request, reply⟩ :: exchanges, ?_, ?_⟩
        · rw [hexchanges, hlogged, List.append_assoc]
          rfl
        · exact .next (Execute.faultAfter_eq_none_iff.1 hfault) hcourse
      | some fault =>
        rw [hfault] at hreact
        rw [Reaction.andThen_of_isSome (by rw [hreact]; rfl), hreact, hcaptures,
          Execute.capturesAfter_eq_self (.inl (Execute.failed_of_faultAfter hfault))]
        exact ⟨[⟨request, reply⟩], hlogged, .stop hfault⟩

theorem Specification.filterMap_events (spec : Specification) (root : Path) :
    (spec.events root).filterMap Event.command? = spec.commands root := by
  have hfinish : [Event.finish].filterMap Event.command? = [] := rfl
  rw [events, List.cons_append, List.filterMap_cons_none rfl, List.filterMap_append,
    List.filterMap_map, hfinish, List.append_nil]
  rfl

/-- A run that carries out a specification is a course of the plan's commands. -/
theorem Specification.apply_execute_course (spec : Specification) (root : Path) (host : Host η)
    (shell : String) (world : η) :
    let run := spec.apply root (Sink.execute host.recorded shell) { host := (world, []) }
    Execute.Course shell [] (spec.commands root) run.state.host.2 run.state.captures run.fault := by
  intro run
  let delivery := (Sink.execute host.recorded shell).deliver (spec.events root)
    { host := (world, []) }
  obtain ⟨exchanges, hexchanges, hcourse⟩ := Sink.deliver_execute_course host shell
    (spec.events root) { host := (world, []) }
  rw [spec.filterMap_events, show exchanges = delivery.state.host.2 from hexchanges.symm] at hcourse
  have hrun : run.state = delivery.state ∧ run.fault = delivery.fault := by
    simp only [run, spec.apply_eq_deliver]
    exact ⟨rfl, rfl⟩
  rw [hrun.1, hrun.2]
  exact hcourse

end

end InstallPlan
