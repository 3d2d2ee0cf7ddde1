import InstallPlan.Proofs.Course
import InstallPlan.Proofs.Decoding
import InstallPlan.Proofs.Recognition

/-!
# Capture

Which command of a plan is run for its value. Every command but one begins with a word
that something else than an equals sign follows (`Assignment.Deviates`), and whatever is
put behind that beginning, the command assigns nothing. The one that assigns the name of
the kernel quotes a text with the root in it, so it is an assignment unless the root has a
double quote (`Initrd.target?_kernelLookup`).

So an execution captures that name and nothing else: all shells but the last one start
with no variables, and the last one gets the name (`Specification.kernel_is_captured`).
-/

namespace InstallPlan

/-! ## Commands that assign nothing -/

namespace Assignment

/-- Whether something else than an equals sign follows the first word of a text. -/
def Deviates (text : String) : Prop :=
  ∃ c rest, text.toList.dropWhile isNamePart = c :: rest ∧ c ≠ '='

namespace Deviates

variable {text : String}

theorem append (h : Deviates text) (more : String) : Deviates (text ++ more) := by
  obtain ⟨c, rest, hrest, hc⟩ := h
  refine ⟨c, rest ++ more.toList, ?_, hc⟩
  rw [String.toList_append, List.dropWhile_append, hrest]
  rfl

theorem target?_eq_none (h : Deviates text) : target? text = none := by
  obtain ⟨c, rest, hrest, hc⟩ := h
  rw [target?, hrest]
  split
  · rename_i heq
    exact absurd (List.cons.inj heq).1 hc
  · rfl

end Deviates

/-! ## A command that assigns a quoted text -/

/-- A name, an equals sign and a quoted text with a blank in it. -/
theorem target?_quoted {name text : List Char} {command : String}
    (hcommand : command.toList = name ++ '=' :: '"' :: (text ++ ['"'])) (hname : isName name)
    (hblank : ∃ c ∈ text, isBlank c) :
    target? command = if '"' ∈ text then none else some (String.ofList name) := by
  obtain ⟨c, hc, hcblank⟩ := hblank
  have hall : ('"' :: (text ++ ['"'])).all (fun c => !isBlank c) = false :=
    List.all_eq_false.2 ⟨c, by simp [hc], by simp [hcblank]⟩
  rw [target?_of_isName hcommand hname]
  simp only [isValue, hall, Bool.or_false, isQuotedValue_iff, ite_not]

end Assignment

/-! ## The commands of a plan -/

theorem hereDocument_deviates (file : Path) (body : String) :
    Assignment.Deviates (hereDocument file body) := by
  have hstart : Assignment.Deviates "cat > " := ⟨' ', ['>', ' '], by decide, by decide⟩
  exact (((hstart.append _).append _).append _).append _

theorem Packages.installation_deviates (packages : Packages) (root : Path) :
    Assignment.Deviates (packages.installation root) := by
  have hstart : Assignment.Deviates "pacstrap " := ⟨' ', [], by decide, by decide⟩
  exact ((hstart.append _).append _).append _

theorem System.identity_deviates (system : System) (root : Path) :
    Assignment.Deviates (system.identity root) := by
  have hstart : Assignment.Deviates "systemd-firstboot" :=
    ⟨'-', "firstboot".toList, by decide, by decide⟩
  rw [identity, identityWords, List.cons_append, List.cons_append, String.intercalate_cons_cons]
  exact (hstart.append _).append _

theorem System.target?_eq_none (system : System) (root : Path) {command : String}
    (h : command ∈ system.commands root) : Assignment.target? command = none := by
  have hinside (inner : String) : Assignment.Deviates (inside root inner) := by
    have hstart : Assignment.Deviates "arch-chroot " :=
      ⟨'-', "chroot ".toList, by decide, by decide⟩
    exact ((hstart.append _).append _).append _
  have hentry : Assignment.Deviates (system.localeEntry root) := by
    have hstart : Assignment.Deviates "echo " := ⟨' ', [], by decide, by decide⟩
    exact ((((hstart.append _).append _).append _).append _).append _
  rw [commands, List.mem_append, passwordPrompt] at h
  rcases h with hprompt | h
  · split at hprompt
    · rw [List.mem_singleton.1 hprompt]
      exact (hinside _).target?_eq_none
    · cases hprompt
  · simp only [List.mem_cons, List.not_mem_nil, or_false] at h
    rcases h with rfl | rfl | rfl | rfl | rfl
    · exact (system.identity_deviates root).target?_eq_none
    · exact (hinside _).target?_eq_none
    · exact hentry.target?_eq_none
    · exact (hinside _).target?_eq_none
    · exact (hereDocument_deviates _ _).target?_eq_none

namespace Initrd

theorem target?_generation (root : Path) : Assignment.target? (generation root) = none := by
  have hstart : Assignment.Deviates "arch-chroot " :=
    ⟨'-', "chroot ".toList, by decide, by decide⟩
  exact (((hstart.append _).append _).append _).target?_eq_none

/-- The name of the kernel is assigned unless the root has a double quote in it. -/
theorem target?_kernelLookup (root : Path) :
    Assignment.target? (kernelLookup root) =
      if 0x22 ∈ root.octets then none else some "kernel" := by
  let modules := root.join "lib/modules"
  let before := "$(find ".toList
  let behind := " -mindepth 1 -maxdepth 1 -type d | xargs basename)".toList
  have hcommand : (kernelLookup root).toList =
      "kernel".toList ++ '=' :: '"' :: (before ++ modules.shown.toList ++ behind ++ ['"']) := by
    have hfirst : ("kernel=\"$(find " : String).toList =
        "kernel".toList ++ '=' :: '"' :: before := by decide
    have hlast : (" -mindepth 1 -maxdepth 1 -type d | xargs basename)\"" : String).toList =
        behind ++ ['"'] := by decide
    show ("kernel=\"$(find " ++ modules.shown
      ++ " -mindepth 1 -maxdepth 1 -type d | xargs basename)\"").toList = _
    rw [String.toList_append, String.toList_append, hfirst, hlast]
    simp only [List.append_assoc, List.cons_append]
  have hblank : ∃ c ∈ before ++ modules.shown.toList ++ behind, isBlank c :=
    ⟨' ', by simp [before], by decide⟩
  have hquote : '"' ∈ before ++ modules.shown.toList ++ behind ↔ 0x22 ∈ root.octets := by
    have hbefore : '"' ∉ before := by decide
    have hbehind : '"' ∉ behind := by decide
    have hshown : '"' ∈ modules.shown.toList ↔ 0x22 ∈ modules.octets :=
      Path.mem_shown_iff (show (0x22 : UInt8) < 0x80 by decide) (by decide) modules
    rw [List.mem_append, List.mem_append, or_iff_right hbefore, or_iff_left hbehind, hshown,
      Path.mem_join_iff root (by decide) (by decide)]
  rw [Assignment.target?_quoted hcommand (by decide) hblank, String.ofList_toList]
  simp only [hquote]

end Initrd

/-! ## An execution of a whole plan -/

namespace Execute

/-- The variable that a command captures has the name that the command assigns. -/
theorem map_fst_capturesAfter {command : String} {reply : Reply} (h : reply.succeeded) :
    (capturesAfter command reply []).map Prod.fst = (Assignment.target? command).toList := by
  cases reply with
  | refused reason => cases h
  | ended status stdout stderr =>
    have hstatus : status = .exited 0 := by simpa [Reply.succeeded] using h
    rw [capturesAfter, captured?, if_pos hstatus]
    cases Assignment.target? command with
    | none => rfl
    | some name => rfl

/-- A course of which only the last command but one assigns something. -/
theorem Course.of_one_assignment {shell : String} {after : List Variable}
    {earlier : List String} {assignment last : String} {exchanges : List Exchange}
    (h : Course shell [] (earlier ++ [assignment, last]) exchanges after none)
    (hearlier : ∀ command ∈ earlier, Assignment.target? command = none)
    (hlast : Assignment.target? last = none) :
    ∃ reply : Reply, reply.succeeded ∧ after = capturesAfter assignment reply [] ∧
      exchanges.map (·.request) =
        ((earlier ++ [assignment]).map fun command => ⟨shell, scriptOf command, []⟩)
          ++ [⟨shell, scriptOf last, after⟩] := by
  obtain ⟨first, second, between, rfl, hfirst, hsecond⟩ := h.append_of_none
  obtain ⟨rfl, hrequests⟩ := hfirst.of_assigns_nothing hearlier
  cases hsecond with
  | @next _ _ _ _ reply _ _ hreply hrest =>
    obtain ⟨hafter, hrequest⟩ := hrest.of_assigns_nothing (by simpa using hlast)
    refine ⟨reply, hreply, hafter, ?_⟩
    rw [List.map_append, List.map_cons, hrequests, hrequest, hafter]
    simp

end Execute

namespace Specification

/-- The commands in front of the assignment assign nothing. -/
theorem target?_eq_none_of_mem (spec : Specification) (root : Path) :
    ∀ command ∈ (spec.packages.steps root ++ spec.system.steps root).filterMap Step.command?
      ++ [hereDocument (root.join "etc/mkinitcpio.conf") spec.initrd.configuration],
      Assignment.target? command = none := by
  intro command hcommand
  have hpackages : (spec.packages.steps root).filterMap Step.command? =
      [spec.packages.installation root] := rfl
  rw [List.filterMap_append, hpackages, System.filterMap_steps, List.mem_append,
    List.mem_append] at hcommand
  rcases hcommand with (hpackages | hsystem) | hdocument
  · rw [List.mem_singleton.1 hpackages]
    exact (spec.packages.installation_deviates root).target?_eq_none
  · exact spec.system.target?_eq_none root hsystem
  · rw [List.mem_singleton.1 hdocument]
    exact (hereDocument_deviates _ _).target?_eq_none

/-- **Capture.** Of all the commands of a plan only the second one for the initial ramdisk
assigns something: the name of the kernel, unless the root has a double quote in it. So when
an execution of the plan succeeds, that name is the only variable behind it, if there is one
at all; the shells up to that of the assignment get no variables, and the last one gets what
there is. -/
theorem kernel_is_captured {η : Type} (spec : Specification) (root : Path) (host : Host η)
    (shell : String) (world : η) :
    ∃ before configuration kernel image,
      spec.steps root = before ++
        [.heading "Create Initramfs", .command configuration, .command kernel, .command image] ∧
      let earlier := before.filterMap Step.command? ++ [configuration]
      Assignment.target? kernel = (if 0x22 ∈ root.octets then none else some "kernel") ∧
      (∀ command ∈ earlier ++ [image], Assignment.target? command = none) ∧
      let run := spec.apply root (Sink.execute host.recorded shell) { host := (world, []) }
      run.map Session.unrecorded = spec.apply root (Sink.execute host shell) { host := world } ∧
      (run.fault = none →
        run.state.captures.map Prod.fst = (if 0x22 ∈ root.octets then [] else ["kernel"]) ∧
        run.state.host.2.map (·.request) =
          ((earlier ++ [kernel]).map fun command => ⟨shell, Execute.scriptOf command, []⟩)
            ++ [⟨shell, Execute.scriptOf image, run.state.captures⟩]) := by
  refine ⟨spec.packages.steps root ++ spec.system.steps root, _, Initrd.kernelLookup root,
    Initrd.generation root, rfl, ?_⟩
  intro earlier
  have hothers : ∀ command ∈ earlier, Assignment.target? command = none :=
    spec.target?_eq_none_of_mem root
  have himage := Initrd.target?_generation root
  refine ⟨Initrd.target?_kernelLookup root, ?_, ?_⟩
  · intro command hcommand
    rcases List.mem_append.1 hcommand with hcommand | hcommand
    · exact hothers command hcommand
    · rw [List.mem_singleton.1 hcommand]
      exact himage
  · intro run
    refine ⟨(Sink.execute_recorded_projects host shell).apply spec root _, ?_⟩
    intro hfault
    have hcommands : spec.commands root =
        earlier ++ [Initrd.kernelLookup root, Initrd.generation root] := by
      simp only [commands, steps, earlier, List.filterMap_append, List.append_assoc]
      rfl
    have hcourse : Execute.Course shell [] (earlier ++ [Initrd.kernelLookup root,
        Initrd.generation root]) run.state.host.2 run.state.captures none := by
      rw [← hcommands, ← hfault]
      exact spec.apply_execute_course root host shell world
    obtain ⟨reply, hreply, hafter, hrequests⟩ := hcourse.of_one_assignment hothers himage
    refine ⟨?_, hrequests⟩
    rw [hafter, Execute.map_fst_capturesAfter hreply, Initrd.target?_kernelLookup]
    split <;> rfl

/-- Shells that all succeed and print the name of a kernel. -/
theorem kernel_is_captured_mnt :
    let spec : Specification := ⟨{}, ⟨"UTC", "en_US.UTF-8", "UTF-8", "us", "archie", none⟩, {}⟩
    let root := Path.ofText "/mnt"
    let host : Host Unit := fun _ world => (.ended (.exited 0) (Utf8.encode "6.1") [], world)
    let run := spec.apply root (Sink.execute host.recorded "sh") { host := ((), []) }
    run.fault = none ∧ run.state.captures.map Prod.fst = ["kernel"] := by
  intro spec root host run
  have hhost : host.Succeeds := fun _ _ => rfl
  have hquote : 0x22 ∉ root.octets := by decide
  obtain ⟨_, _, _, _, -, -, -, hmap, hrun⟩ := spec.kernel_is_captured root host "sh" ()
  have hfault : run.fault = none := by
    rw [← run.fault_map Session.unrecorded, hmap]
    exact (spec.apply_execute root hhost "sh" ()).1
  have hname := (hrun hfault).1
  rw [if_neg hquote] at hname
  exact ⟨hfault, hname⟩

end Specification

end InstallPlan
