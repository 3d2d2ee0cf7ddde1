import InstallPlan.Loading
import InstallPlan.Mode
import InstallPlan.Sink.Execute
import InstallPlan.Sink.Record
import InstallPlan.Sink.Script
import InstallPlan.Terminal.Message

/-!
# Job

Loads a specification and does with its plan what the mode says. The outcome
of a run is what it puts out, in order, and the failure that ended it, if any.

A failure to carry out a command is reported together with the root it was
meant for.
-/

namespace InstallPlan

/-- Where the program runs, with a state of type `η`: what it can read, and the
host of its commands. -/
structure Machine (η : Type) where
  read : Source → η → Except IoFault Octets × η
  host : Host η

/-- Reads the source that an optional path stands for as a specification. -/
def Specification.load {η : Type} (path? : Option Path) (machine : Machine η) (state : η) :
    Except Failure Specification × η :=
  let source := Source.ofPath? path?
  let (input, after) := machine.read source state
  (ofOctets source input, after)

/-- What to do with which specification. -/
structure Job where
  source : Option Path
  root : Path
  mode : Mode
  quiet : Bool
  color : Bool
  deriving DecidableEq, Repr

/-- The outcome of a run. -/
structure Outcome (η : Type) where
  output : List Output
  failure : Option Failure
  state : η

namespace Job

variable {η : Type}

/-- The failure of a fault while a specification is carried out. -/
def failureOf (job : Job) (fault : Fault) : Failure :=
  if job.mode = .exec ∧ fault.isExecution then
    ⟨["Provisioning " ++ job.root.shown ++ " failed"], .fault fault⟩
  else ⟨[], .fault fault⟩

/-- What a finished run tells, unless it is to be quiet. -/
def told (job : Job) (text : String) : List Output := if job.quiet then [] else [.print text]

/-- Carries out a specification. -/
def apply (job : Job) (machine : Machine η) (spec : Specification) (state : η) : Outcome η :=
  match job.mode with
  | .exec =>
    let sink := (Sink.execute machine.host Execute.defaultShell).boxed
    let reaction := spec.apply job.root sink { host := state }
    let message := Terminal.success job.color ("Provisioned " ++ job.root.shown)
    match reaction.fault with
    | some fault => ⟨reaction.output, some (job.failureOf fault), reaction.state.host⟩
    | none => ⟨reaction.output ++ job.told message, none, reaction.state.host⟩
  | .dryrun =>
    let reaction := spec.apply job.root Sink.record []
    let message := Terminal.plan job.color job.root reaction.state
    match reaction.fault with
    | some fault => ⟨reaction.output, some (job.failureOf fault), state⟩
    | none => ⟨reaction.output ++ job.told message, none, state⟩
  | .shell =>
    let reaction := spec.apply job.root (Sink.script Writer.terminal).boxed ()
    ⟨reaction.output, reaction.fault.map job.failureOf, state⟩

/-- Loads the specification and carries it out. -/
def run (job : Job) (machine : Machine η) (state : η) : Outcome η :=
  let source := Source.ofPath? job.source
  let (loaded, state) := Specification.load job.source machine state
  match loaded with
  | .error failure => ⟨[source.notice], some failure, state⟩
  | .ok spec =>
    let running :=
      Output.debug "archstrap::commands::apply" ("Running in " ++ job.mode.name ++ " mode")
    let outcome := job.apply machine spec state
    { outcome with output := source.notice :: running :: outcome.output }

section

variable (job : Job) (machine : Machine η) (state : η)

theorem run_of_error {failure : Failure}
    (h : Specification.ofOctets (Source.ofPath? job.source)
      (machine.read (Source.ofPath? job.source) state).1 = .error failure) :
    job.run machine state =
      ⟨[(Source.ofPath? job.source).notice], some failure,
        (machine.read (Source.ofPath? job.source) state).2⟩ := by
  simp only [run, Specification.load, h]

theorem run_of_ok {spec : Specification}
    (h : Specification.ofOctets (Source.ofPath? job.source)
      (machine.read (Source.ofPath? job.source) state).1 = .ok spec) :
    let outcome := job.apply machine spec (machine.read (Source.ofPath? job.source) state).2
    job.run machine state =
      { outcome with
        output := (Source.ofPath? job.source).notice
          :: .debug "archstrap::commands::apply" ("Running in " ++ job.mode.name ++ " mode")
          :: outcome.output } := by
  simp only [run, Specification.load, h]

end

end Job

end InstallPlan
