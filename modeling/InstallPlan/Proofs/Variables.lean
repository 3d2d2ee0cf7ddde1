import InstallPlan.Proofs.Agreement

/-!
# Variables

The variables of an execution over whole runs, also runs that go on after a
failure. What a command captures depends on the reply of its shell alone
(`Execute.captured?`); the variables are the captures so far, the last of each
name, in their order (`lastOfEach`); and every shell gets them as they are when
it starts.

The invariant is `Session.Follows`: it ties a session to the commands that it
was given. An event keeps it (`Session.Follows.react`), and so does a run.
-/

namespace InstallPlan

/-! ## The last of each name -/

/-- The variables that no later one replaces, in their order. -/
def lastOfEach : List Variable → List Variable
  | [] => []
  | v :: later =>
    if later.any (·.1 = v.1) then lastOfEach later else v :: lastOfEach later

theorem lastOfEach_sublist (entries : List Variable) :
    (lastOfEach entries).Sublist entries := by
  induction entries with
  | nil => exact List.Sublist.refl _
  | cons v later ih =>
    rw [lastOfEach]
    split
    · exact ih.cons v
    · exact ih.cons_cons v

theorem nodup_lastOfEach (entries : List Variable) :
    ((lastOfEach entries).map Prod.fst).Nodup := by
  induction entries with
  | nil => exact List.nodup_nil
  | cons v later ih =>
    rw [lastOfEach]
    split
    · exact ih
    · rename_i hlast
      rw [List.map_cons, List.nodup_cons]
      refine ⟨?_, ih⟩
      intro hmem
      obtain ⟨w, hw, hname⟩ := List.mem_map.1 hmem
      apply hlast
      rw [List.any_eq_true]
      exact ⟨w, (lastOfEach_sublist later).subset hw, by simpa using hname⟩

/-- A variable at the end replaces the one of its name. -/
theorem lastOfEach_append_singleton (entries : List Variable) (name value : String) :
    lastOfEach (entries ++ [(name, value)]) =
      Execute.assign name value (lastOfEach entries) := by
  rw [Execute.assign]
  induction entries with
  | nil => rfl
  | cons v later ih =>
    rw [List.cons_append, lastOfEach, lastOfEach, List.any_append, ih]
    -- `v` goes for a later entry of its name, or for the new one, or it stays
    by_cases hlater : later.any (·.1 = v.1)
    · simp [hlater]
    · by_cases hname : name = v.1
      · simp [hlater, hname]
      · simp [hlater, hname, Ne.symm hname]

example : lastOfEach [("a", "1"), ("b", "2"), ("a", "3")] = [("b", "2"), ("a", "3")] := by
  decide

/-! ## What a command captures -/

/-- The command of an event, if it is one. -/
def Event.command? : Event → Option String
  | .step s => s.command?
  | .start | .finish => none

theorem Event.eq_of_command?_eq_some {event : Event} {command : String}
    (h : event.command? = some command) : event = .step (.command command) := by
  rcases event with _ | ⟨name | text⟩ | _ <;> cases h
  rfl

namespace Assignment

theorem isName_of_target? {command name : String} (h : target? command = some name) :
    isName name.toList := by
  rw [target?] at h
  split at h
  · split at h
    · rename_i hgood
      cases h
      rw [String.toList_ofList]
      exact (Bool.and_eq_true_iff.1 hgood).1
    · cases h
  · cases h

end Assignment

namespace Execute

/-- The variables that a list of commands captured, given the exchanges with their shells. -/
def allCaptured (commands : List String) (exchanges : List Exchange) : List Variable :=
  (commands.zip exchanges).filterMap fun (command, exchange) => captured? command exchange.reply

theorem allCaptured_append_singleton {commands : List String} {exchanges : List Exchange}
    (h : commands.length = exchanges.length) (command : String) (exchange : Exchange) :
    allCaptured (commands ++ [command]) (exchanges ++ [exchange]) =
      allCaptured commands exchanges ++ (captured? command exchange.reply).toList := by
  rw [allCaptured, allCaptured, List.zip_append h, List.filterMap_append]
  cases hc : captured? command exchange.reply <;> simp [hc]

theorem isName_of_captured? {command : String} {reply : Reply} {v : Variable}
    (h : captured? command reply = some v) : isName v.1.toList := by
  cases reply with
  | refused reason => cases h
  | ended status stdout stderr =>
    rw [captured?] at h
    split at h
    · obtain ⟨name, htarget, rfl⟩ := Option.map_eq_some_iff.1 h
      exact Assignment.isName_of_target? htarget
    · cases h

theorem isName_of_mem_allCaptured {commands : List String} {exchanges : List Exchange}
    {v : Variable} (h : v ∈ allCaptured commands exchanges) : isName v.1.toList := by
  obtain ⟨⟨command, exchange⟩, -, hcaptured⟩ := List.mem_filterMap.1 h
  exact isName_of_captured? hcaptured

theorem lastOfEach_append_captured? (entries : List Variable) (command : String)
    (reply : Reply) :
    lastOfEach (entries ++ (captured? command reply).toList) =
      capturesAfter command reply (lastOfEach entries) := by
  rw [capturesAfter]
  cases captured? command reply with
  | none => simp
  | some v => exact lastOfEach_append_singleton entries v.1 v.2

end Execute

/-! ## One event -/

section

variable {η : Type}

/-- All that a command does to an execution that keeps its exchanges. -/
theorem Sink.react_execute_recorded (host : Host η) (shell command : String)
    (session : Session (η × List Exchange)) :
    let request := session.request shell command
    let reply := (host request session.host.1).1
    let reaction := (Sink.execute host.recorded shell).react (.step (.command command)) session
    reaction.state.captures = Execute.capturesAfter command reply session.captures ∧
      reaction.state.host.2 = session.host.2 ++ [⟨request, reply⟩] ∧
      (reaction.fault = none ↔ reply.succeeded) := by
  intro request reply reaction
  have hreaction : reaction = _ := react_execute_command host.recorded shell command session
  rw [hreaction]
  exact ⟨rfl, rfl, Execute.faultAfter_eq_none_iff⟩

/-- Any other event leaves the session alone, and does not fail. -/
theorem Sink.react_execute_of_command?_eq_none (host : Host η) (shell : String) {event : Event}
    (h : event.command? = none) (session : Session η) :
    ((Sink.execute host shell).react event session).state = session ∧
      ((Sink.execute host shell).react event session).fault = none := by
  rcases event with _ | ⟨name | text⟩ | _
  · exact ⟨rfl, rfl⟩
  · exact ⟨rfl, rfl⟩
  · cases h
  · exact ⟨rfl, rfl⟩

/-! ## A whole run -/

/-- The state of an execution follows some commands: they were run by one shell each, in
order, and what they captured is kept, the last of each name. -/
structure Session.Follows (session : Session (η × List Exchange)) (commands : List String) :
    Prop where
  scripts : session.host.2.map (·.request.script) = commands.map Execute.scriptOf
  captures : session.captures = lastOfEach (Execute.allCaptured commands session.host.2)

namespace Session.Follows

variable {session : Session (η × List Exchange)} {commands : List String}

theorem start (world : η) : ({ host := (world, []) } : Session (η × List Exchange)).Follows [] :=
  ⟨rfl, rfl⟩

theorem length_eq (h : session.Follows commands) :
    commands.length = session.host.2.length := by
  simpa using congrArg List.length h.scripts.symm

/-- An event keeps the invariant. -/
theorem react (h : session.Follows commands) (host : Host η) (shell : String) (event : Event) :
    ((Sink.execute host.recorded shell).react event session).state.Follows
      (commands ++ event.command?.toList) := by
  cases hc : event.command? with
  | none =>
    rw [(Sink.react_execute_of_command?_eq_none host.recorded shell hc session).1,
      Option.toList_none, List.append_nil]
    exact h
  | some command =>
    obtain rfl := Event.eq_of_command?_eq_some hc
    obtain ⟨hcaptures, hexchanges, -⟩ := Sink.react_execute_recorded host shell command session
    constructor
    · rw [hexchanges, List.map_append, h.scripts, Option.toList_some, List.map_append]
      rfl
    · rw [hcaptures, hexchanges, Option.toList_some,
        Execute.allCaptured_append_singleton h.length_eq, Execute.lastOfEach_append_captured?,
        ← h.captures]

theorem after (h : session.Follows commands) (host : Host η) (shell : String)
    (events : List Event) :
    ((Sink.execute host.recorded shell).after events session).Follows
      (commands ++ events.filterMap Event.command?) := by
  induction events generalizing session commands with
  | nil => simpa [Sink.after] using h
  | cons event rest ih =>
    have hrest := ih (h.react host shell event)
    cases hc : event.command? <;> simpa [Sink.after, hc, List.append_assoc] using hrest

theorem nodup (h : session.Follows commands) : (session.captures.map Prod.fst).Nodup := by
  rw [h.captures]
  exact nodup_lastOfEach _

theorem isName_of_mem (h : session.Follows commands) {v : Variable}
    (hv : v ∈ session.captures) : isName v.1.toList := by
  rw [h.captures] at hv
  exact Execute.isName_of_mem_allCaptured ((lastOfEach_sublist _).subset hv)

end Session.Follows

/-- **Variables.** After any events, also behind failures, the variables have names of their
own, and they are the captures of the shells that succeeded, the last of each name. The next
event runs one shell with these variables if it is a command and none otherwise; it leaves
them alone when it fails and when it is no assignment. -/
theorem Sink.execute_variables (host : Host η) (shell : String) (world : η)
    (events : List Event) :
    let sink := Sink.execute host.recorded shell
    let session := sink.after events { host := (world, []) }
    let commands := events.filterMap Event.command?
    session.unrecorded = (Sink.execute host shell).after events { host := world } ∧
    session.host.2.map (·.request.script) = commands.map Execute.scriptOf ∧
    session.captures = lastOfEach (Execute.allCaptured commands session.host.2) ∧
    (session.captures.map Prod.fst).Nodup ∧
    (∀ v ∈ session.captures, isName v.1.toList) ∧
    ∀ event : Event,
      let reaction := sink.react event session
      match event.command? with
      | none => reaction.state = session ∧ reaction.fault = none
      | some command =>
        let request : Request := ⟨shell, Execute.scriptOf command, session.captures⟩
        let reply := (host request session.host.1).1
        reaction.state.host.2 = session.host.2 ++ [⟨request, reply⟩] ∧
        (reaction.fault = none ↔ reply.succeeded) ∧
        (reply.succeeded = false ∨ Assignment.target? command = none →
          reaction.state.captures = session.captures) := by
  intro sink session commands
  have hfollows : session.Follows commands :=
    (Session.Follows.start world).after host shell events
  refine ⟨?_, hfollows.scripts, hfollows.captures, hfollows.nodup, ?_, ?_⟩
  · exact (Sink.execute_recorded_projects host shell).after events { host := (world, []) }
  · intro v hv
    exact hfollows.isName_of_mem hv
  · intro event reaction
    split
    · rename_i hc
      exact Sink.react_execute_of_command?_eq_none host.recorded shell hc session
    · rename_i command hc
      intro request reply
      obtain rfl := Event.eq_of_command?_eq_some hc
      obtain ⟨hcaptures, hexchanges, hfault⟩ :=
        Sink.react_execute_recorded host shell command session
      refine ⟨hexchanges, hfault, ?_⟩
      intro h
      rw [hcaptures]
      exact Execute.capturesAfter_eq_self h session.captures

end

end InstallPlan
