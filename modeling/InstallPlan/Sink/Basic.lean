import InstallPlan.Fault
import InstallPlan.Log
import InstallPlan.Plan
import InstallPlan.Redaction

/-!
# Sink

Where the events of a plan go. A sink is a state transformer for every kind of
event: its reaction is a new state, what it puts out meanwhile, and possibly a
fault.

* `Sink.deliver` hands a sink events up to and including the first that fails;
  `Sink.reactions` hands it all of them, whatever fails.
* `Specification.apply` hands a sink what carries out a specification, part by
  part; the first fault ends it.
* `Sink.boxed` is a sink that leaves every event to the one inside it.
-/

namespace InstallPlan

/-- The reaction to an event. -/
structure Reaction (σ : Type) where
  state : σ
  output : List Output := []
  fault : Option Fault := none

namespace Reaction

variable {σ : Type}

/-- A reaction and another one after it, which only takes place when the first does not fail. -/
def andThen (first : Reaction σ) (next : σ → Reaction σ) : Reaction σ :=
  match first.fault with
  | some _ => first
  | none =>
    let second := next first.state
    { second with output := first.output ++ second.output }

theorem andThen_of_isSome {first : Reaction σ} (h : first.fault.isSome)
    (next : σ → Reaction σ) : first.andThen next = first := by
  obtain ⟨fault, hf⟩ := Option.isSome_iff_exists.1 h
  simp only [andThen, hf]

theorem andThen_of_none {first : Reaction σ} (h : first.fault = none)
    (next : σ → Reaction σ) :
    first.andThen next =
      { next first.state with output := first.output ++ (next first.state).output } := by
  simp only [andThen, h]

theorem state_andThen_of_none {first : Reaction σ} (h : first.fault = none)
    (next : σ → Reaction σ) : (first.andThen next).state = (next first.state).state := by
  rw [andThen_of_none h]

theorem fault_andThen_of_none {first : Reaction σ} (h : first.fault = none)
    (next : σ → Reaction σ) : (first.andThen next).fault = (next first.state).fault := by
  rw [andThen_of_none h]

@[simp] theorem mk_andThen (state : σ) (next : σ → Reaction σ) :
    ({ state } : Reaction σ).andThen next = next state := rfl

@[simp] theorem andThen_mk (first : Reaction σ) :
    first.andThen (fun state => { state }) = first := by
  obtain ⟨state, output, fault⟩ := first
  cases fault <;> simp [andThen]

/-- Reactions in a row may be grouped either way. -/
theorem andThen_assoc (first : Reaction σ) (second third : σ → Reaction σ) :
    (first.andThen second).andThen third =
      first.andThen fun state => (second state).andThen third := by
  cases hf : first.fault with
  | some fault => simp only [andThen, hf]
  | none =>
    cases hs : (second first.state).fault with
    | some fault => simp only [andThen, hf, hs]
    | none => simp only [andThen, hf, hs, List.append_assoc]

end Reaction

/-- Something that events are handed to, with a state of type `σ`. -/
structure Sink (σ : Type) where
  start : σ → Reaction σ := fun state => { state }
  heading : String → σ → Reaction σ
  command : String → σ → Reaction σ
  finish : σ → Reaction σ := fun state => { state }

namespace Sink

variable {σ : Type}

/-- The reaction to an event of any kind. -/
def react (sink : Sink σ) : Event → σ → Reaction σ
  | .start, state => sink.start state
  | .step (.heading name), state => sink.heading name state
  | .step (.command text), state => sink.command text state
  | .finish, state => sink.finish state

/-- Hands over events up to and including the first that fails. -/
def deliver (sink : Sink σ) : List Event → σ → Reaction σ
  | [], state => { state }
  | event :: rest, state => (sink.react event state).andThen (sink.deliver rest)

@[simp] theorem deliver_nil (sink : Sink σ) : sink.deliver [] = fun state => { state } := rfl

theorem deliver_cons (sink : Sink σ) (event : Event) (rest : List Event) :
    sink.deliver (event :: rest) = fun state =>
      (sink.react event state).andThen (sink.deliver rest) := rfl

theorem deliver_append (sink : Sink σ) (events more : List Event) :
    sink.deliver (events ++ more) = fun state =>
      (sink.deliver events state).andThen (sink.deliver more) := by
  induction events with
  | nil => rfl
  | cons event rest ih =>
    funext state
    simp only [List.cons_append, deliver_cons, ih, Reaction.andThen_assoc]

/-- The reactions to events that are handed over one after another, whatever fails. -/
def reactions (sink : Sink σ) : List Event → σ → List (Reaction σ)
  | [], _ => []
  | event :: rest, state =>
    let reaction := sink.react event state
    reaction :: sink.reactions rest reaction.state

/-- The state after events are handed over one after another, whatever fails. -/
def after (sink : Sink σ) : List Event → σ → σ
  | [], state => state
  | event :: rest, state => sink.after rest (sink.react event state).state

/-- A sink that leaves every event to the one inside it. -/
def boxed (sink : Sink σ) : Sink σ where
  start state := sink.start state
  heading name state := sink.heading name state
  command text state := sink.command text state
  finish state := sink.finish state

/-- A sink inside a number of others that leave every event to it. -/
def nested (sink : Sink σ) : Nat → Sink σ
  | 0 => sink
  | depth + 1 => (sink.nested depth).boxed

@[simp] theorem boxed_eq (sink : Sink σ) : sink.boxed = sink := rfl

@[simp] theorem nested_eq (sink : Sink σ) (depth : Nat) : sink.nested depth = sink := by
  induction depth with
  | zero => rfl
  | succ depth ih => rw [nested, boxed_eq, ih]

end Sink

/-- The log record of a step. -/
def Step.announcement (target : String) : Step → Output
  | .heading name => .info target ("SECTION " ++ name)
  | .command text => .info target ("COMMAND " ++ redact text)

/-! ## Carrying out a specification -/

section

variable {σ : Type}

/-- Hands the installation of the packages to a sink. -/
def Packages.apply (packages : Packages) (root : Path) (sink : Sink σ) (state : σ) :
    Reaction σ :=
  sink.heading "Install Packages" state
    |>.andThen (sink.command (packages.installation root))

/-- Hands the configuration of the system to a sink. -/
def System.apply (system : System) (root : Path) (sink : Sink σ) (state : σ) : Reaction σ :=
  sink.heading "Configure System" state
    |>.andThen (fun state =>
      if system.password.isNone then sink.command (System.inside root "passwd") state
      else { state })
    |>.andThen (sink.command (system.identity root))
    |>.andThen (sink.command (System.inside root "hwclock --systohc"))
    |>.andThen (sink.command (system.localeEntry root))
    |>.andThen (sink.command (System.inside root "locale-gen"))
    |>.andThen (sink.command (hereDocument (root.join "etc/hosts") system.hosts))

/-- Hands the creation of the initial ramdisk to a sink. -/
def Initrd.apply (initrd : Initrd) (root : Path) (sink : Sink σ) (state : σ) : Reaction σ :=
  sink.heading "Create Initramfs" state
    |>.andThen
      (sink.command (hereDocument (root.join "etc/mkinitcpio.conf") initrd.configuration))
    |>.andThen (sink.command (Initrd.kernelLookup root))
    |>.andThen (sink.command (Initrd.generation root))

/-- Hands everything that carries out a specification to a sink. -/
def Specification.apply (spec : Specification) (root : Path) (sink : Sink σ) (state : σ) :
    Reaction σ :=
  let reaction :=
    sink.start state
      |>.andThen (spec.packages.apply root sink)
      |>.andThen (spec.system.apply root sink)
      |>.andThen (spec.initrd.apply root sink)
      |>.andThen sink.finish
  let notice := Output.debug "provision::specification" ("Applying specification to " ++ root.shown)
  { reaction with output := notice :: reaction.output }

end

end InstallPlan
