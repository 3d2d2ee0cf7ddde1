import InstallPlan.Proofs.Printing
import InstallPlan.Proofs.Stopping
import InstallPlan.Rehearsal.World

/-!
# Rehearsing

What a run does to the machine in memory. A run reads its source once and then asks for
shells one after the other, each where the one before has left things
(`Job.run_answers`); so whatever the reading and every shell keep, the run keeps
(`Program.run_maintains`).

A world keeps all of its process but the system around it (`World.host_keeps`,
`World.read_keeps`): the directory, the channels and the environment that a shell makes for
itself are gone with it. To read a source changes no file either, it only empties queues
(`Tree.Keeps`); so a run that is not to execute anything leaves all files as they were
(`Program.run_rehearsed`).
-/

namespace InstallPlan

/-! ## Runs in any machine -/

section

variable {η : Type} {P : η → Prop} {host : Host η} {machine : Machine η}

theorem Sink.deliver_keeps {σ : Type} {sink : Sink σ} {P : σ → Prop}
    (h : ∀ event state, P state → P (sink.react event state).state) (events : List Event)
    {state : σ} (hstate : P state) : P (sink.deliver events state).state := by
  induction events generalizing state with
  | nil => exact hstate
  | cons event rest ih =>
    have hnext := h event state hstate
    simp only [deliver_cons]
    cases hf : (sink.react event state).fault with
    | some fault =>
      rw [Reaction.andThen_of_isSome (by simp [hf])]
      exact hnext
    | none =>
      rw [Reaction.state_andThen_of_none hf]
      exact ih hnext

theorem Sink.react_execute_keeps (h : ∀ request state, P state → P (host request state).2)
    (shell : String) (event : Event) {session : Session η} (hstate : P session.host) :
    P ((Sink.execute host shell).react event session).state.host := by
  cases hc : event.command? with
  | none => rwa [(react_execute_of_command?_eq_none host shell hc session).1]
  | some command =>
    obtain rfl := Event.eq_of_command?_eq_some hc
    rw [react_execute_command]
    exact h _ _ hstate

/-- What every shell keeps is kept while a specification is carried out. -/
theorem Job.apply_keeps (h : ∀ request state, P state → P (machine.host request state).2)
    (job : Job) (spec : Specification) {state : η} (hstate : P state) :
    P (job.apply machine spec state).state := by
  cases hmode : job.mode with
  | exec =>
    rw [(apply_exec hmode machine spec state).2, Specification.apply_eq_deliver]
    exact Sink.deliver_keeps (P := fun session : Session η => P session.host)
      (fun event _ => Sink.react_execute_keeps h Execute.defaultShell event) _ hstate
  | dryrun =>
    simp only [apply, hmode]
    split <;> exact hstate
  | shell => simpa only [apply, hmode] using hstate

/-- Whether a machine keeps what holds of its state, whatever is asked of it. -/
structure Machine.Maintains (machine : Machine η) (P : η → Prop) : Prop where
  read : ∀ source state, P state → P (machine.read source state).2
  host : ∀ request state, P state → P (machine.host request state).2

theorem Job.run_maintains (h : machine.Maintains P) (job : Job) {state : η} (hstate : P state) :
    P (job.run machine state).state := by
  have hread := h.read (Source.ofPath? job.source) state hstate
  cases hload : Specification.ofOctets (Source.ofPath? job.source)
    (machine.read (Source.ofPath? job.source) state).1 with
  | error failure =>
    rw [run_of_error _ _ _ hload]
    exact hread
  | ok spec =>
    rw [run_of_ok _ _ _ hload]
    exact job.apply_keeps h.host spec hread

/-- What a machine maintains holds behind every run of the program. -/
theorem Program.run_maintains (h : machine.Maintains P) (arguments : List Octets)
    (environment : Environment) {state : η} (hstate : P state) :
    P (run arguments environment machine state).state := by
  cases hoptions : Options.ofArguments arguments environment.surroundings with
  | error interruption => rcases interruption with _ | _ | _ <;> simpa [run, hoptions] using hstate
  | ok options =>
    simp only [run, hoptions, runOptions]
    split
    · exact hstate
    · split
      · exact hstate
      · exact Job.run_maintains h _ hstate

/-- Without anything to execute the state is the one in which the source was read. -/
theorem Job.state_run_of_ne_exec (job : Job) (hmode : job.mode ≠ .exec) (machine : Machine η)
    (state : η) :
    (job.run machine state).state = (machine.read (Source.ofPath? job.source) state).2 := by
  cases hload : Specification.ofOctets (Source.ofPath? job.source)
    (machine.read (Source.ofPath? job.source) state).1 with
  | error failure => rw [run_of_error _ _ _ hload]
  | ok spec =>
    rw [run_of_ok _ _ _ hload]
    exact (job.apply_of_ne_exec hmode machine spec _).2

/-- Whether exchanges are the answers of a host, one after the other, from one state to
another. -/
inductive Host.Answers (host : Host η) (first : η) : List Exchange → η → Prop
  | none : Answers host first [] first
  | next {exchanges : List Exchange} {between : η} (earlier : Answers host first exchanges between)
      (request : Request) :
      Answers host first (exchanges ++ [⟨request, (host request between).1⟩])
        (host request between).2

/-- The shells of a run answer one after the other, from where the source was read. -/
theorem Job.run_answers (job : Job) (machine : Machine η) (state : η) :
    let outcome := job.run machine.recorded (state, [])
    machine.host.Answers (machine.read (Source.ofPath? job.source) state).2 outcome.state.2
      outcome.state.1 := by
  intro outcome
  let world := (machine.read (Source.ofPath? job.source) state).2
  cases hload : Specification.ofOctets (Source.ofPath? job.source)
    (machine.read (Source.ofPath? job.source) state).1 with
  | error failure =>
    have hrun : outcome = _ := run_of_error job machine.recorded (state, []) hload
    rw [hrun]
    exact .none
  | ok spec =>
    have hrun : outcome = _ := run_of_ok job machine.recorded (state, []) hload
    have hnone : machine.host.Answers world [] world := .none
    rw [hrun]
    -- what is kept is that everything recorded so far was answered in turn
    exact job.apply_keeps
      (P := fun seen : η × List Exchange => machine.host.Answers world seen.2 seen.1)
      (fun request _ hseen => hseen.next request) spec hnone

/-- What every shell keeps holds behind the answers, and wherever one of them was given. -/
theorem Host.Answers.keeps {first last : η} {exchanges : List Exchange}
    (h : host.Answers first exchanges last)
    (hhost : ∀ request state, P state → P (host request state).2) (hfirst : P first) :
    P last ∧ ∀ exchange ∈ exchanges,
      ∃ during, P during ∧ exchange.reply = (host exchange.request during).1 := by
  induction h with
  | none => exact ⟨hfirst, by simp⟩
  | @next exchanges between earlier request ih =>
    obtain ⟨hbetween, hall⟩ := ih
    refine ⟨hhost request between hbetween, ?_⟩
    intro exchange hmem
    rcases List.mem_append.1 hmem with hmem | hmem
    · exact hall exchange hmem
    · obtain rfl := List.mem_singleton.1 hmem
      exact ⟨between, hbetween, rfl⟩

end

namespace Rehearsal

/-! ## What a process keeps -/

/-- Whether nothing of a process has changed but the system around it. -/
def Process.Keeps (before after : Process) : Prop := after = before.after after

namespace Process.Keeps

variable {first second third : Process}

theorem refl (process : Process) : process.Keeps process := rfl

theorem after (outer inner : Process) : outer.Keeps (outer.after inner) := rfl

theorem trans (h : first.Keeps second) (h' : second.Keeps third) : first.Keeps third := by
  rw [Keeps, h', h]
  rfl

theorem here_eq (h : first.Keeps second) : second.here = first.here := by
  rw [h]
  rfl

theorem environment_eq (h : first.Keeps second) : second.environment = first.environment := by
  rw [h]
  rfl

theorem channels_eq (h : first.Keeps second) : second.channels = first.channels := by
  rw [h]
  rfl

end Process.Keeps

/-! ## Files that are read -/

/-- Whether a tree has the same nodes as before, but for what waits in its queues. -/
structure Tree.Keeps (before after : Tree) : Prop where
  size_eq : after.nodes.size = before.nodes.size
  node?_eq : ∀ {number : Nat} {node : Node}, before.node? number = some node →
    node.entry.isQueue = false → after.node? number = some node

theorem Tree.Keeps.refl (tree : Tree) : tree.Keeps tree := ⟨rfl, fun h _ => h⟩

theorem Tree.keeps_setEntry {tree : Tree} {number : Nat} {content : Raw}
    (h : tree.entry? number = some (.queue content)) (entry : Entry) :
    tree.Keeps (tree.setEntry number entry) := by
  refine ⟨Array.size_modify .., ?_⟩
  intro other node hnode hqueue
  -- the node that is set is a queue, so it is none of those that have to stay
  have hother : number ≠ other := by
    rintro rfl
    rw [Tree.entry?, hnode, Option.map_some, Option.some_inj] at h
    rw [h] at hqueue
    cases hqueue
  rw [node?, setEntry, update, Array.getElem?_modify, if_neg hother]
  exact hnode

/-- To take octets out of a stream changes nothing but queues. -/
theorem System.keeps_consume (system : System) (number count : Nat) :
    system.tree.Keeps (system.consume number count).tree := by
  unfold consume
  split
  · exact .refl _
  · split
    · exact .refl _
    · exact .refl _
    · split
      · exact .refl _
      · exact Tree.keeps_setEntry ‹_› _
      · exact .refl _
    · exact .refl _
    · exact .refl _

namespace Process

variable {process opened : Process} {path : Raw} {number stream : Nat}

/-- To open a node for reading opens a stream and does nothing else. -/
theorem keeps_of_openNode (h : process.openNode number .reading = .ok (stream, opened)) :
    process.Keeps opened ∧ opened.tree = process.tree := by
  unfold openNode at h
  simp only [Access.reading, Bool.false_eq_true, if_false] at h
  repeat' split at h
  all_goals
    cases h
    try exact ⟨rfl, rfl⟩

theorem keeps_of_openPath (h : process.openPath path .reading = .ok (stream, opened)) :
    process.Keeps opened ∧ opened.tree = process.tree := by
  unfold openPath at h
  split at h
  · cases h
  · exact keeps_of_openNode (by simpa [Access.reading] using h)
  · simp [Access.reading] at h

theorem keeps_contentAt (process : Process) (path : Raw) :
    process.Keeps (process.contentAt path).2 ∧
      process.tree.Keeps (process.contentAt path).2.tree := by
  unfold contentAt
  split
  · exact ⟨.refl _, .refl _⟩
  · rename_i stream opened hopened
    obtain ⟨hkeeps, htree⟩ := keeps_of_openPath hopened
    split
    · exact ⟨.refl _, .refl _⟩
    · refine ⟨hkeeps.trans rfl, ?_⟩
      rw [← htree]
      exact opened.system.keeps_consume stream _

theorem openPath_of_file {content : Raw}
    (hfind : process.tree.find process.here path = .ok number)
    (hentry : process.tree.entry? number = some (.file content)) :
    process.openPath path .reading =
      .ok (process.adding { origin := .file number, writes := false }) := by
  have hspot : ∃ directory name slash,
      process.tree.spot process.here path true = .ok ⟨directory, name, some number, slash⟩ := by
    unfold Tree.find at hfind
    split at hfind
    · cases hfind
    · rename_i directory name found slash hspot
      cases hfind
      exact ⟨directory, name, slash, hspot⟩
    · cases hfind
  obtain ⟨directory, name, slash, hspot⟩ := hspot
  simp only [openPath, openNode, Access.reading, Bool.not_false, hspot, hentry, Bool.false_eq_true,
    if_false]

/-- What a path leads to is read as it is. -/
theorem contentAt_of_file {content : Raw} (hfind : process.tree.find process.here path = .ok number)
    (hentry : process.tree.entry? number = some (.file content)) :
    (process.contentAt path).1 = .ok content := by
  have hwaiting : (process.adding { origin := .file number, writes := false }).2.system.waiting
      process.system.streams.size none = .ok content := by
    have hstream (stream : Stream) :
        (process.system.streams.push stream)[process.system.streams.size]? = some stream :=
      Array.getElem?_push_size
    have hfile : process.system.tree.entry? number = some (.file content) := hentry
    simp only [adding, System.add, System.waiting, hstream, hfile, Bool.not_true,
      Bool.false_eq_true, if_false, List.drop_zero]
  rw [contentAt, openPath_of_file hfind hentry]
  simp only [adding, System.add] at hwaiting ⊢
  rw [hwaiting]

end Process

/-! ## Shells -/

theorem Programs.carryOut_of_shell {program : String} {rich : Bool}
    (h : shells.lookup program = some rich) (words : List Raw) (process : Process) :
    carryOut program words process =
      Starting.shell (interpreter (maxLevels - 1)) rich words process := by
  show start (interpreter (maxLevels - 1)) program words process = _
  rw [start, h]

/-- A shell ends with a code of one octet, or by a signal. -/
theorem Starting.exitStatus_shell (interpreter : Interpreter) (rich : Bool) (words : List Raw)
    (process : Process) :
    let halt := (shell interpreter rich words process).1
    (∃ code < 256, halt.exitStatus = .exited code) ∨
      ∃ number, halt.exitStatus = .signalled number false := by
  intro halt
  simp only [halt, shell]
  split
  · exact .inl ⟨_, Nat.mod_lt _ (by decide), rfl⟩
  · exact .inr ⟨_, rfl⟩
  · exact .inl ⟨1, by decide, rfl⟩
  · exact .inl ⟨_, Nat.mod_lt _ (by decide), rfl⟩

/-! ## A world as a machine -/

namespace World

/-- A request is refused and nothing happens, or a program that stands for the shell is
carried out in a process of its own, which leaves the system. -/
theorem host_cases (request : Request) (world : World) :
    (∃ fault, host request world = (.refused fault, world)) ∨
    ∃ program words, callOf request (world.asking request) = .ok (program, words) ∧
      let opened := forShell (world.asking request)
      let ending := Programs.carryOut program words opened.1
      host request world =
        (.ended ending.1.exitStatus (written ending.2 opened.2.1) (written ending.2 opened.2.2),
          ⟨world.process.after ending.2⟩) := by
  cases hfault : (request.shell :: request.script :: request.environment.map (·.2)).findSome?
    argumentFault? with
  | some fault => exact .inl ⟨fault, by simp only [host, hfault]⟩
  | none =>
    cases hcall : callOf request (world.asking request) with
    | error fault => exact .inl ⟨fault, by simp only [host, hfault, hcall]⟩
    | ok call => exact .inr ⟨call.1, call.2, rfl, by simp only [host, hfault, hcall]⟩

/-- Where the program that is found is a shell, it is carried out as one, and the reply has a
status that a shell can end with. -/
theorem host_of_shell {request : Request} {world : World} {program : String} {words : List Raw}
    {rich : Bool} (hcall : callOf request (world.asking request) = .ok (program, words))
    (hshell : Programs.shells.lookup program = some rich) {status : ExitStatus}
    {stdout stderr : Octets} (hreply : (host request world).1 = .ended status stdout stderr) :
    let process := (forShell (world.asking request)).1
    let interpreter := Programs.interpreter (Programs.maxLevels - 1)
    status = (Starting.shell interpreter rich words process).1.exitStatus ∧
      ((∃ code < 256, status = .exited code) ∨ ∃ number, status = .signalled number false) := by
  intro process interpreter
  have hstatus : status = (Starting.shell interpreter rich words process).1.exitStatus := by
    rcases host_cases request world with ⟨fault, hhost⟩ | ⟨found, called, hfound, hhost⟩
    · rw [hhost] at hreply
      cases hreply
    · rw [hcall] at hfound
      cases hfound
      have hsame := hreply.symm.trans (congrArg Prod.fst hhost)
      injection hsame with hstatus
      rwa [Programs.carryOut_of_shell hshell] at hstatus
  refine ⟨hstatus, ?_⟩
  rw [hstatus]
  exact Starting.exitStatus_shell interpreter rich words process

/-- A shell leaves nothing of its own process but the system. -/
theorem host_keeps (request : Request) (world : World) :
    world.process.Keeps (host request world).2.process := by
  rcases host_cases request world with ⟨fault, hhost⟩ | ⟨program, words, -, hhost⟩
  · rw [hhost]
    exact .refl _
  · rw [hhost]
    exact .after _ _

theorem read_keeps (source : Source) (world : World) :
    world.process.Keeps (read source world).2.process ∧
      world.process.tree.Keeps (read source world).2.process.tree := by
  cases source with
  | standardInput =>
    cases hstream : world.process.stream? 0 with
    | none =>
      simp only [read, hstream]
      exact ⟨.refl _, .refl _⟩
    | some stream =>
      cases hwaiting : world.process.system.waiting stream none with
      | error fault =>
        simp only [read, hstream, hwaiting]
        exact ⟨.refl _, .refl _⟩
      | ok text =>
        simp only [read, hstream, hwaiting]
        exact ⟨rfl, System.keeps_consume _ _ _⟩
  | file path =>
    by_cases hzero : path.octets.contains 0
    · simp only [read, hzero, if_true]
      exact ⟨.refl _, .refl _⟩
    · simp only [read, hzero, Bool.false_eq_true, if_false]
      exact world.process.keeps_contentAt _

/-- A path that leads to a file is read as the octets of that file. -/
theorem read_of_file {world : World} {path : Path} {number : Nat} {octets : Octets}
    (hpath : 0 ∉ path.octets)
    (hfind : world.process.tree.find world.process.here (Raw.ofOctets path.octets) = .ok number)
    (hentry : world.process.tree.entry? number = some (.file (Raw.ofOctets octets))) :
    (read (.file path) world).1 = .ok octets := by
  have hcontent := Process.contentAt_of_file hfind hentry
  rw [read, if_neg (by simpa using hpath)]
  simp only [contentAt, hcontent, Except.map, Raw.toOctets_ofOctets]

/-- What is put into the standard input is read from it. -/
theorem read_withInput (world : World) (octets : Octets) :
    (read .standardInput (world.withInput (Raw.ofOctets octets))).1 = .ok octets := by
  simp [read, withInput, Process.adding, System.add, Process.lead, Process.stream?,
    System.waiting, Raw.toOctets_ofOctets]

/-- Whether a machine asks a world for its shells, and does nothing to a world when it reads
but empty queues. -/
structure Rehearses (machine : Machine World) : Prop where
  host_eq : machine.host = host
  read_keeps : ∀ (source : Source) (world : World),
    world.process.Keeps (machine.read source world).2.process ∧
      world.process.tree.Keeps (machine.read source world).2.process.tree

theorem rehearses_machine : Rehearses machine := ⟨rfl, read_keeps⟩

theorem rehearses_machineGiven (input : Except IoFault Octets) : Rehearses (machineGiven input) :=
  ⟨rfl, fun _ _ => ⟨.refl _, .refl _⟩⟩

theorem Rehearses.maintains {machine : Machine World} (h : Rehearses machine) (process : Process) :
    machine.Maintains fun during => process.Keeps during.process where
  read source during hduring := hduring.trans (h.read_keeps source during).1
  host request during hduring := by
    rw [h.host_eq]
    exact hduring.trans (host_keeps request during)

end World

end Rehearsal

/-! ## Rehearsed runs -/

open Rehearsal

/-- A path that leads to a file of the world is loaded as what is in the file. -/
theorem Specification.load_of_file {world : World} {path : Path} {number : Nat} {octets : Octets}
    (hdash : Source.isDash path = false) (hpath : 0 ∉ path.octets)
    (hfind : world.process.tree.find world.process.here (Raw.ofOctets path.octets) = .ok number)
    (hentry : world.process.tree.entry? number = some (.file (Raw.ofOctets octets))) :
    (load (some path) World.machine world).1 = ofOctets (.file path) (.ok octets) := by
  simp only [load, Source.ofPath?, hdash, Bool.false_eq_true, if_false, World.machine,
    World.read_of_file hpath hfind hentry]

/-- Without a path the standard input of the world is loaded. -/
theorem Specification.load_withInput (world : World) (octets : Octets) :
    (load none World.machine (world.withInput (Raw.ofOctets octets))).1 =
      ofOctets .standardInput (.ok octets) := by
  simp only [load, Source.ofPath?, World.machine, World.read_withInput]

section

variable {machine : Machine World}

/-- **Rehearsing.** A run in a world gives its shells one after the other what the shells
before have left, and each of them is answered where nothing of the program's own process has
changed but the system around it. Without anything to execute no shell is asked for, and no
file, directory or link changes. -/
theorem Job.run_rehearsed (h : World.Rehearses machine) (job : Job) (world : World) :
    let outcome := job.run machine.recorded (world, [])
    let process := world.process
    outcome.unrecorded = job.run machine world ∧
    process.Keeps outcome.state.1.process ∧
    World.host.Answers (machine.read (Source.ofPath? job.source) world).2 outcome.state.2
      outcome.state.1 ∧
    (∀ exchange ∈ outcome.state.2, ∃ during : World,
      process.Keeps during.process ∧ exchange.reply = (World.host exchange.request during).1) ∧
    (job.mode ≠ .exec →
      outcome.state.2 = [] ∧ process.tree.Keeps outcome.state.1.process.tree) := by
  intro outcome process
  have hanswers := job.run_answers machine world
  rw [h.host_eq] at hanswers
  obtain ⟨hread, htree⟩ := h.read_keeps (Source.ofPath? job.source) world
  obtain ⟨hlast, hduring⟩ := hanswers.keeps (P := fun during => process.Keeps during.process)
    (fun request during hkeeps => hkeeps.trans (World.host_keeps request during)) hread
  refine ⟨job.run_recorded machine world, hlast, hanswers, hduring, ?_⟩
  intro hmode
  have hstate : outcome.state = ((machine.read (Source.ofPath? job.source) world).2, []) :=
    job.state_run_of_ne_exec hmode machine.recorded (world, [])
  rw [hstate]
  exact ⟨rfl, htree⟩

/-- The same of the whole program, whatever its arguments: it keeps its process, and it keeps
its files unless its options ask for the mode that executes. -/
theorem Program.run_rehearsed (h : World.Rehearses machine) (arguments : List Octets)
    (environment : Environment) (world : World) :
    let ending := run arguments environment machine world
    world.process.Keeps ending.state.process ∧
    ((∀ options, Options.ofArguments arguments environment.surroundings = .ok options →
      options.mode ≠ .exec) → world.process.tree.Keeps ending.state.process.tree) := by
  intro ending
  refine ⟨run_maintains (h.maintains world.process) arguments environment (.refl _), ?_⟩
  intro hmode
  simp only [ending]
  cases hoptions : Options.ofArguments arguments environment.surroundings with
  | error interruption =>
    rcases interruption with _ | _ | _ <;> simpa only [run, hoptions] using Tree.Keeps.refl _
  | ok options =>
    simp only [run, hoptions, runOptions]
    split
    · exact .refl _
    · split
      · exact .refl _
      · have hstate := (jobOf options environment).state_run_of_ne_exec (hmode options hoptions)
          machine world
        rw [hstate]
        exact (h.read_keeps _ world).2

end

end InstallPlan
