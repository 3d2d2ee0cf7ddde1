import InstallPlan.Proofs.Observation

/-!
# Delivery

Which events reach a sink while a specification is carried out. Each part hands
over its steps one by one and gives up at a fault; together they deliver one
list of events, which `Specification.schedule` spells out, up to and including
the first event that fails.

A sink may be any state transformer. What reaches it is seen by `Sink.traced`,
which keeps the events beside the state and otherwise leaves the sink alone.
-/

namespace InstallPlan

/-! ## What is handed over, as a list -/

section

variable {σ : Type} (sink : Sink σ) (root : Path) (state : σ)

theorem Packages.apply_eq_deliver (packages : Packages) :
    packages.apply root sink state = sink.deliver ((packages.steps root).map .step) state := by
  simp only [Packages.steps, List.map_cons, List.map_nil, Sink.deliver_cons,
    Sink.deliver_nil, Reaction.andThen_mk]
  rfl

theorem System.apply_eq_deliver (system : System) :
    system.apply root sink state = sink.deliver ((system.steps root).map .step) state := by
  cases hp : system.password with
  | none =>
    have hprompt : system.passwordPrompt root = [System.inside root "passwd"] := by
      simp [System.passwordPrompt, hp]
    simp only [System.steps, System.commands, hprompt, List.cons_append, List.nil_append,
      List.map_cons, List.map_nil, Sink.deliver_cons, Sink.deliver_nil,
      Reaction.andThen_mk]
    simp only [System.apply, hp, Option.isNone_none, if_true, Reaction.andThen_assoc]
    rfl
  | some password =>
    have hprompt : system.passwordPrompt root = [] := by simp [System.passwordPrompt, hp]
    simp only [System.steps, System.commands, hprompt, List.nil_append,
      List.map_cons, List.map_nil, Sink.deliver_cons, Sink.deliver_nil,
      Reaction.andThen_mk]
    simp only [System.apply, hp, Option.isNone_some, Bool.false_eq_true, if_false,
      Reaction.andThen_assoc, Reaction.mk_andThen]
    rfl

theorem Initrd.apply_eq_deliver (initrd : Initrd) :
    initrd.apply root sink state = sink.deliver ((initrd.steps root).map .step) state := by
  simp only [Initrd.steps, Initrd.commands, List.map_cons, List.map_nil, Sink.deliver_cons,
    Sink.deliver_nil, Reaction.andThen_mk]
  simp only [Initrd.apply, Reaction.andThen_assoc]
  rfl

theorem Specification.deliver_events (spec : Specification) :
    sink.deliver (spec.events root) state =
      ((((sink.start state).andThen (spec.packages.apply root sink)).andThen
        (spec.system.apply root sink)).andThen (spec.initrd.apply root sink)).andThen
          sink.finish := by
  have hpackages := funext (Packages.apply_eq_deliver sink root · spec.packages)
  have hsystem := funext (System.apply_eq_deliver sink root · spec.system)
  have hinitrd := funext (Initrd.apply_eq_deliver sink root · spec.initrd)
  simp only [Specification.events, Specification.steps, List.map_append, List.cons_append,
    Sink.deliver_cons, Sink.deliver_append, Sink.deliver_nil, Reaction.andThen_mk,
    Reaction.andThen_assoc]
  rw [hpackages, hsystem, hinitrd]
  rfl

/-- The parts together hand over the events of the specification. -/
theorem Specification.apply_eq_deliver (spec : Specification) :
    spec.apply root sink state =
      { sink.deliver (spec.events root) state with
        output := .debug "provision::specification"
          ("Applying specification to " ++ root.shown)
          :: (sink.deliver (spec.events root) state).output } := by
  rw [Specification.deliver_events]
  rfl

end

theorem Sink.Projects.apply {σ τ : Type} {f : σ → τ} {outer : Sink σ} {inner : Sink τ}
    (h : Projects f outer inner) (spec : Specification) (root : Path) (state : σ) :
    (spec.apply root outer state).map f = spec.apply root inner (f state) := by
  rw [Specification.apply_eq_deliver, Specification.apply_eq_deliver, ← h.deliver]
  rfl

/-! ## The events up to the first fault -/

namespace Sink

variable {σ : Type}

/-- The events that are handed over: all up to and including the first that fails. -/
def delivered (sink : Sink σ) : List Event → σ → List Event
  | [], _ => []
  | event :: rest, state =>
    let reaction := sink.react event state
    if reaction.fault.isSome then [event] else event :: sink.delivered rest reaction.state

theorem delivered_isPrefix (sink : Sink σ) (events : List Event) (state : σ) :
    sink.delivered events state <+: events := by
  induction events generalizing state with
  | nil => exact List.prefix_refl _
  | cons event rest ih =>
    rw [delivered]
    split
    · exact ⟨rest, rfl⟩
    · exact List.prefix_cons_inj event |>.2 (ih _)

theorem delivered_of_fault_eq_none (sink : Sink σ) {events : List Event} {state : σ}
    (h : (sink.deliver events state).fault = none) : sink.delivered events state = events := by
  induction events generalizing state with
  | nil => rfl
  | cons event rest ih =>
    simp only [deliver_cons] at h
    cases hf : (sink.react event state).fault with
    | some fault =>
      rw [Reaction.andThen_of_isSome (by simp [hf]), hf] at h
      cases h
    | none =>
      rw [Reaction.andThen_of_none hf] at h
      simp [delivered, hf, ih h]

/-- The trace of a run holds the events that were handed over, and no others. -/
theorem deliver_traced (sink : Sink σ) (events : List Event) (state : σ) (seen : List Event) :
    (sink.traced.deliver events (state, seen)).state =
      ((sink.deliver events state).state, seen ++ sink.delivered events state) := by
  induction events generalizing state seen with
  | nil => simp [delivered]
  | cons event rest ih =>
    have hreact := sink.react_traced event (state, seen)
    cases hf : (sink.react event state).fault with
    | some fault =>
      have hf' : (sink.traced.react event (state, seen)).fault.isSome := by
        simp [hreact, Reaction.map, hf]
      simp only [deliver_cons]
      rw [Reaction.andThen_of_isSome hf', Reaction.andThen_of_isSome (by simp [hf]), hreact]
      simp [Reaction.map, delivered, hf]
    | none =>
      have hf' : (sink.traced.react event (state, seen)).fault = none := by
        simp [hreact, Reaction.map, hf]
      simp only [deliver_cons]
      rw [Reaction.andThen_of_none hf', Reaction.andThen_of_none hf, hreact]
      simp only [Reaction.map, ih, delivered, hf, Option.isSome_none, Bool.false_eq_true, if_false,
        List.append_assoc, List.singleton_append]

/-- Of the events that are handed over only the last can fail, and when it does not, no
event is left. The last reaction decides the outcome. -/
theorem reactions_delivered (sink : Sink σ) {events : List Event} (hne : events ≠ [])
    (state : σ) :
    ∃ earlier last, sink.reactions (sink.delivered events state) state = earlier ++ [last] ∧
      (∀ reaction ∈ earlier, reaction.fault = none) ∧
      (last.fault = none → sink.delivered events state = events) ∧
      (sink.deliver events state).fault = last.fault ∧
      (sink.deliver events state).state = last.state := by
  induction events generalizing state with
  | nil => exact absurd rfl hne
  | cons event rest ih =>
    cases hf : (sink.react event state).fault with
    | some fault =>
      -- the first event fails, so that it is also the last one
      refine ⟨[], sink.react event state, ?_, ?_, ?_, ?_⟩
      · simp [delivered, hf, reactions]
      · simp
      · simp [hf]
      · simp only [deliver_cons]
        rw [Reaction.andThen_of_isSome (by simp [hf])]
        exact ⟨rfl, rfl⟩
    | none =>
      have hdelivered : sink.delivered (event :: rest) state =
          event :: sink.delivered rest (sink.react event state).state := by
        simp [delivered, hf]
      simp only [hdelivered, reactions, deliver_cons]
      rw [Reaction.andThen_of_none hf]
      by_cases hrest : rest = []
      -- the induction hypothesis says nothing about an empty rest
      · subst hrest
        exact ⟨[], sink.react event state, by simp [delivered, reactions], by simp,
          by simp [delivered], by simp [hf], rfl⟩
      · obtain ⟨earlier, last, hsplit, hearlier, hlast, hfault, hstate⟩ :=
          ih hrest (sink.react event state).state
        refine ⟨sink.react event state :: earlier, last, ?_, ?_, ?_, hfault, hstate⟩
        · rw [hsplit, List.cons_append]
        · intro reaction hmem
          rcases List.mem_cons.1 hmem with rfl | hmem
          · exact hf
          · exact hearlier reaction hmem
        · intro h
          rw [hlast h]

end Sink

/-! ## The events of a specification -/

namespace System

theorem password_eq_none_iff (system : System) :
    system.password = none ↔ system.rootPassword = none ∨ system.rootPassword = some "" := by
  cases h : system.rootPassword with
  | none => simp [password, present, h]
  | some text => simp [password, present, h]

theorem password_of_ne_empty {system : System} {text : String}
    (h : system.rootPassword = some text) (ht : text ≠ "") : system.password = some text := by
  simp [password, present, h, ht]

/-- The command that sets the identity, without the word for a password. -/
def identityWithoutPassword (system : System) (root : Path) : String :=
  " ".intercalate
    ["systemd-firstboot", "--setup-machine-id", "--timezone=" ++ system.timezone,
     "--locale=" ++ system.locale, "--keymap=" ++ system.keymap,
     "--hostname=" ++ system.hostname, "--root=" ++ root.shown]

theorem identity_of_none {system : System} (h : system.password = none) (root : Path) :
    system.identity root = system.identityWithoutPassword root := by
  rw [identity, identityWords, h]
  rfl

theorem identity_of_some {system : System} {password : String}
    (h : system.password = some password) (root : Path) :
    system.identity root =
      system.identityWithoutPassword root ++ " --root-password=" ++ password := by
  rw [identity, identityWords, h, Option.toList_some, List.map_singleton,
    String.intercalate_append_of_ne_nil (by simp) (by simp), String.intercalate_singleton,
    String.append_assoc, String.append_assoc]
  rfl

end System

theorem Step.filterMap_command? (texts : List String) :
    (texts.map Step.command).filterMap Step.command? = texts := by
  rw [List.filterMap_map]
  exact List.filterMap_some

theorem System.filterMap_steps (system : System) (root : Path) :
    (system.steps root).filterMap Step.command? = system.commands root := by
  rw [steps, List.filterMap_cons_none rfl, Step.filterMap_command?]

namespace Specification

/-- The commands of a plan are those of its parts. -/
theorem commands_eq (spec : Specification) (root : Path) :
    spec.commands root = spec.packages.installation root ::
      (spec.system.commands root ++ spec.initrd.commands root) := by
  rw [commands, steps, List.filterMap_append, List.filterMap_append, System.filterMap_steps,
    Initrd.steps, List.filterMap_cons_none rfl, Step.filterMap_command?]
  rfl

/-- Everything that happens while a specification is carried out, spelled out. -/
def schedule (spec : Specification) (root : Path) : List Event :=
  let system := spec.system
  let noPassword := system.rootPassword = none ∨ system.rootPassword = some ""
  [.start,
   .step (.heading "Install Packages"),
   .step (.command ("pacstrap " ++ root.shown ++ " " ++ " ".intercalate spec.packages.names)),
   .step (.heading "Configure System")]
  ++ (if noPassword then [.step (.command ("arch-chroot " ++ root.shown ++ " " ++ "passwd"))] else [])
  ++ [.step (.command (system.identityWithoutPassword root
        ++ if noPassword then "" else " --root-password=" ++ system.rootPassword.getD "")),
      .step (.command ("arch-chroot " ++ root.shown ++ " " ++ "hwclock --systohc")),
      .step (.command ("echo " ++ system.locale ++ " " ++ system.charset ++ " > "
        ++ (root.join "etc/locale.gen").shown)),
      .step (.command ("arch-chroot " ++ root.shown ++ " " ++ "locale-gen")),
      .step (.command ("cat > " ++ (root.join "etc/hosts").shown ++ " <<EOF\n"
        ++ "\n".intercalate ["127.0.0.1 localhost", "::1       localhost",
          "127.0.1.1 " ++ system.hostname ++ ".localdomain " ++ system.hostname] ++ "\nEOF")),
      .step (.heading "Create Initramfs"),
      .step (.command ("cat > " ++ (root.join "etc/mkinitcpio.conf").shown ++ " <<EOF\n"
        ++ spec.initrd.configuration ++ "\nEOF")),
      .step (.command ("kernel=\"$(find " ++ (root.join "lib/modules").shown
        ++ " -mindepth 1 -maxdepth 1 -type d | xargs basename)\"")),
      .step (.command ("arch-chroot " ++ root.shown
        ++ " mkinitcpio --allpresets --kernel=\"$kernel\" --generate "
        ++ "/boot/initramfs-linux-fallback.img")),
      .finish]

theorem events_eq_schedule (spec : Specification) (root : Path) :
    spec.events root = spec.schedule root := by
  cases hp : spec.system.password with
  | none =>
    have hn := (System.password_eq_none_iff spec.system).1 hp
    have hprompt : spec.system.passwordPrompt root = [System.inside root "passwd"] := by
      simp [System.passwordPrompt, hp]
    rw [events, steps, System.steps, System.commands, hprompt, System.identity_of_none hp,
      schedule, if_pos hn, if_pos hn, String.append_empty]
    rfl
  | some password =>
    have hn : ¬ (spec.system.rootPassword = none ∨ spec.system.rootPassword = some "") := by
      rw [← System.password_eq_none_iff, hp]
      simp
    have hgiven : spec.system.rootPassword = some password := by
      exact (Option.filter_eq_some_iff.1 hp).1
    have hprompt : spec.system.passwordPrompt root = [] := by simp [System.passwordPrompt, hp]
    rw [events, steps, System.steps, System.commands, hprompt, System.identity_of_some hp,
      schedule, if_neg hn, if_neg hn, hgiven, Option.getD_some, String.append_assoc]
    rfl

/-- **Delivery.** What reaches a sink, behind any number of boxes, is a start of the
schedule. It ends with the first event that fails, whose fault is the outcome and whose
state is the final one; when none fails, the whole schedule is delivered. -/
theorem apply_delivers_up_to_first_fault {σ : Type} (spec : Specification) (root : Path)
    (sink : Sink σ) (depth : Nat) (state : σ) :
    let reaction := spec.apply root (sink.nested depth) state
    ∃ delivered earlier last,
      (spec.apply root (sink.traced.nested depth) (state, [])).state
        = (reaction.state, delivered) ∧
      delivered <+: spec.schedule root ∧
      sink.reactions delivered state = earlier ++ [last] ∧
      (∀ r ∈ earlier, r.fault = none) ∧
      (last.fault = none → delivered = spec.schedule root) ∧
      reaction.fault = last.fault ∧ reaction.state = last.state := by
  intro reaction
  have hreaction : reaction = spec.apply root sink state := by
    rw [← sink.nested_eq depth]
  have hne : spec.events root ≠ [] := by simp [events]
  obtain ⟨earlier, last, hsplit, hearlier, hall, hfault, hstate⟩ :=
    sink.reactions_delivered hne state
  refine ⟨sink.delivered (spec.events root) state, earlier, last, ?_, ?_, hsplit, hearlier,
    ?_, ?_, ?_⟩
  · rw [hreaction, Sink.nested_eq, apply_eq_deliver, apply_eq_deliver]
    exact sink.deliver_traced (spec.events root) state []
  · rw [← events_eq_schedule]
    exact sink.delivered_isPrefix _ _
  · intro hlast
    rw [← events_eq_schedule, hall hlast]
  · rw [hreaction, apply_eq_deliver]
    exact hfault
  · rw [hreaction, apply_eq_deliver]
    exact hstate

end Specification

end InstallPlan
