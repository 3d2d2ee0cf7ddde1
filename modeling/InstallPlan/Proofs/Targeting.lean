import InstallPlan.Proofs.Delivery
import InstallPlan.Proofs.Encoding

/-!
# Targeting

What the commands of a plan say about its root. A command is a text, a root is any octets,
and it enters the commands as the text that shows it. Where the root is written in UTF-8,
that text has its octets, and every command names the root: as an argument, or as the
beginning of the path of a file or directory below it. Where it is not, no command does
(`Specification.commands_name_root_iff`), and all roots that are shown alike have the same
plan.
-/

namespace InstallPlan

namespace Path

/-! ## Paths that are shown -/

@[simp] theorem shown_ofText (text : String) : (ofText text).shown = text :=
  Utf8.decodeLossy_encode text

theorem shown_eq_empty_iff {p : Path} : p.shown = "" ↔ p.octets = [] := by
  constructor
  · intro h
    by_contra hne
    have hscan := Utf8.scan_ne_nil hne
    rw [shown, Utf8.decodeLossy, String.ofList_eq_empty_iff, List.map_eq_nil_iff] at h
    exact hscan h
  · intro h
    rw [shown, h]
    exact Utf8.decodeLossy_encode ""

theorem getLast?_shown_iff {p : Path} :
    p.shown.toList.getLast? = some '/' ↔ p.octets.getLast? = some separator := by
  have hmark : Utf8.replacement ≠ '/' := by decide
  have hlast := Utf8.getLast?_scan_iff (show separator < 0x80 by decide) (by decide) p.octets
  rw [← hlast, shown, Utf8.decodeLossy, String.toList_ofList, List.getLast?_map,
    Option.map_eq_some_iff]
  constructor
  · rintro ⟨found, hfound, hchar⟩
    cases found with
    | none => exact absurd hchar hmark
    | some c =>
      cases hchar
      exact hfound
  · intro h
    exact ⟨_, h, rfl⟩

/-- What stands between a path and a name below it. -/
def joint (p : Path) : String :=
  if p.shown = "" ∨ p.shown.toList.getLast? = some '/' then "" else "/"

theorem octets_join (p : Path) (name : String) :
    (p.join name).octets = p.octets ++ Utf8.encode (p.joint ++ name) := by
  have hempty : p.shown = "" ↔ p.octets.getLast? = none := by
    rw [shown_eq_empty_iff, List.getLast?_eq_none_iff]
  have hslash : Utf8.encode "/" = [separator] := by decide
  rw [join, joint]
  simp only [hempty, getLast?_shown_iff]
  split
  · rename_i hlast
    rw [if_pos (.inl hlast), List.getLast?_eq_none_iff.1 hlast]
    simp [ofText]
  · rename_i b hlast
    by_cases hb : b = separator
    · simp [hlast, hb]
    · simp [hlast, hb, Utf8.encode_append, hslash]

/-- A name that begins with a character of ASCII is shown as it is, below any path. -/
theorem shown_join (p : Path) {name : String} {c : Char} (hc : c.toNat < 0x80)
    (h : name.toList.head? = some c) : (p.join name).shown = p.shown ++ (p.joint ++ name) := by
  rw [shown, octets_join]
  by_cases hjoint : p.joint = ""
  · rw [hjoint, String.empty_append]
    exact Utf8.decodeLossy_append_encode hc h p.octets
  · have hslash : p.joint = "/" := by
      rw [joint] at hjoint ⊢
      split at hjoint
      · exact absurd rfl hjoint
      · rename_i hneither
        exact if_neg hneither
    refine Utf8.decodeLossy_append_encode (c := '/') (by decide) ?_ p.octets
    simp [hslash]

/-! ## Paths in commands -/

/-- Whether a command names a path: as an argument, or as the beginning of the path of
something below it. A blank or an equals sign stands in front, and a blank or the end of
the command behind. -/
def IsNamedIn (p : Path) (command : String) : Prop :=
  ∃ before mark below after,
    Utf8.encode command = before ++ mark :: (p.octets ++ below ++ after) ∧
    (mark = 0x20 ∨ mark = 0x3D) ∧
    (below = [] ∨ ∃ name, (p.join name).octets = p.octets ++ below) ∧
    (after = [] ∨ after.head? = some 0x20)

/-- Whether the octets of a path are a text. -/
def IsText (p : Path) : Prop := ∃ text, p = ofText text

theorem isText_iff {p : Path} : p.IsText ↔ p = ofText p.shown := by
  constructor
  · rintro ⟨text, rfl⟩
    rw [shown_ofText]
  · intro h
    exact ⟨p.shown, h⟩

/-- Between octets of ASCII, or at the end, stands a text. -/
theorem IsNamedIn.isText {p : Path} {command : String} (h : p.IsNamedIn command) : p.IsText := by
  obtain ⟨before, mark, below, after, hcommand, hmark, hbelow, hafter⟩ := h
  have hascii : mark < 0x80 := by
    rcases hmark with rfl | rfl <;> decide
  obtain ⟨-, text, -, htext⟩ := Utf8.exists_of_encode_eq hascii hcommand
  -- an octet of ASCII behind the path cuts it off
  have hcut {a : UInt8} {more : Octets} (ha : a < 0x80)
      (hbehind : p.octets ++ below ++ after = p.octets ++ a :: more) : p.IsText := by
    obtain ⟨first, -, hfirst, -⟩ := Utf8.exists_of_encode_eq ha (htext.symm.trans hbehind)
    exact ⟨first, congrArg Path.mk hfirst⟩
  rcases hbelow with rfl | ⟨name, hname⟩
  · rw [List.append_nil] at htext hcut
    rcases hafter with rfl | hblank
    · rw [List.append_nil] at htext
      exact ⟨text, congrArg Path.mk htext⟩
    · obtain ⟨more, rfl⟩ := List.head?_eq_some_iff.1 hblank
      exact hcut (by decide) rfl
  · rw [join] at hname
    split at hname
    · rename_i hnone
      exact ⟨"", congrArg Path.mk (List.getLast?_eq_none_iff.1 hnone)⟩
    · rename_i b hlast
      split at hname
      · -- the path ends in a separator of its own
        rename_i hb
        obtain ⟨start, hstart⟩ := List.getLast?_eq_some_iff.1 hlast
        rw [hstart, hb, List.append_assoc, List.append_assoc, List.singleton_append] at htext
        obtain ⟨first, -, rfl, -⟩ := Utf8.exists_of_encode_eq (by decide) htext.symm
        refine ⟨first ++ "/", congrArg Path.mk ?_⟩
        rw [hstart, hb, Utf8.encode_append]
        rfl
      · obtain rfl := List.append_cancel_left hname
        exact hcut (show separator < 0x80 by decide)
          (by rw [List.append_assoc, List.cons_append])

/-- A text in a command, with a name below it or without. -/
theorem isNamedIn_ofText {text mark command : String} (before below after : String)
    (hcommand : command = before ++ mark ++ text ++ below ++ after)
    (hmark : mark = " " ∨ mark = "=")
    (hbelow : below = "" ∨ ∃ name, below = (ofText text).joint ++ name)
    (hafter : after = "" ∨ ∃ more, after = " " ++ more) : (ofText text).IsNamedIn command := by
  have hblank : Utf8.encode " " = [0x20] := by decide
  have hequals : Utf8.encode "=" = [0x3D] := by decide
  obtain ⟨b, hb, hoctet⟩ : ∃ b, Utf8.encode mark = [b] ∧ (b = 0x20 ∨ b = 0x3D) := by
    rcases hmark with rfl | rfl
    · exact ⟨0x20, hblank, .inl rfl⟩
    · exact ⟨0x3D, hequals, .inr rfl⟩
  refine ⟨Utf8.encode before, b, Utf8.encode below, Utf8.encode after, ?_, hoctet, ?_, ?_⟩
  · simp [hcommand, Utf8.encode_append, hb, ofText]
  · rcases hbelow with rfl | ⟨name, rfl⟩
    · exact .inl rfl
    · exact .inr ⟨name, octets_join _ name⟩
  · rcases hafter with rfl | ⟨more, rfl⟩
    · exact .inl rfl
    · exact .inr (by simp [Utf8.encode_append, hblank])

/-- The path of something below another one, at the end of a command or in front of a blank. -/
theorem isNamedIn_below {text command : String} (before name after : String) {c : Char}
    (hc : c.toNat < 0x80) (hname : name.toList.head? = some c)
    (hcommand : command = before ++ (" " ++ (((ofText text).join name).shown ++ after)))
    (hafter : after = "" ∨ ∃ more, after = " " ++ more) : (ofText text).IsNamedIn command := by
  refine isNamedIn_ofText before ((ofText text).joint ++ name) after ?_ (.inl rfl)
    (.inr ⟨name, rfl⟩) hafter
  rw [hcommand, shown_join _ hc hname, shown_ofText]
  simp only [String.append_assoc]

end Path

/-! ## The commands of a plan -/

theorem isNamedIn_hereDocument {text name : String} {c : Char} (hc : c.toNat < 0x80)
    (hname : name.toList.head? = some c) (body : String) :
    (Path.ofText text).IsNamedIn (hereDocument ((Path.ofText text).join name) body) := by
  have hopening : ("cat > " : String) = "cat >" ++ " " := by decide
  have hmark : (" <<EOF\n" : String) = " " ++ "<<EOF\n" := by decide
  refine Path.isNamedIn_below "cat >" name (" " ++ ("<<EOF\n" ++ (body ++ "\nEOF"))) hc hname ?_
    (.inr ⟨_, rfl⟩)
  simp only [hereDocument, hopening, hmark, String.append_assoc]

theorem Packages.isNamedIn_installation (packages : Packages) (text : String) :
    (Path.ofText text).IsNamedIn (packages.installation (.ofText text)) := by
  have hname : ("pacstrap " : String) = "pacstrap" ++ " " := by decide
  refine Path.isNamedIn_ofText "pacstrap" "" (" " ++ " ".intercalate packages.names) ?_ (.inl rfl)
    (.inl rfl) (.inr ⟨_, rfl⟩)
  simp only [installation, hname, Path.shown_ofText, String.append_assoc, String.append_empty]

namespace System

theorem isNamedIn_inside (text inner : String) :
    (Path.ofText text).IsNamedIn (inside (.ofText text) inner) := by
  have hname : ("arch-chroot " : String) = "arch-chroot" ++ " " := by decide
  refine Path.isNamedIn_ofText "arch-chroot" "" (" " ++ inner) ?_ (.inl rfl) (.inl rfl)
    (.inr ⟨_, rfl⟩)
  simp only [inside, hname, Path.shown_ofText, String.append_assoc, String.append_empty]

/-- The root is the last word but for the password. -/
theorem isNamedIn_identity (system : System) (text : String) :
    (Path.ofText text).IsNamedIn (system.identity (.ofText text)) := by
  have hword : ("--root=" : String) = "--root" ++ "=" := by decide
  have hoption : (" --root-password=" : String) = " " ++ "--root-password=" := by decide
  let before := " ".intercalate ["systemd-firstboot", "--setup-machine-id",
    "--timezone=" ++ system.timezone, "--locale=" ++ system.locale,
    "--keymap=" ++ system.keymap, "--hostname=" ++ system.hostname, "--root"]
  have hwithout : system.identityWithoutPassword (.ofText text) = before ++ "=" ++ text := by
    simp only [identityWithoutPassword, before, Path.shown_ofText, hword,
      String.intercalate_cons_cons, String.intercalate_singleton, String.append_assoc]
  cases hpassword : system.password with
  | none =>
    rw [identity_of_none hpassword, hwithout]
    refine Path.isNamedIn_ofText before "" "" ?_ (.inr rfl) (.inl rfl) (.inl rfl)
    simp only [String.append_empty]
  | some password =>
    rw [identity_of_some hpassword, hwithout, hoption]
    refine Path.isNamedIn_ofText before "" (" " ++ ("--root-password=" ++ password)) ?_ (.inr rfl)
      (.inl rfl) (.inr ⟨_, rfl⟩)
    simp only [String.append_assoc, String.append_empty]

theorem isNamedIn_localeEntry (system : System) (text : String) :
    (Path.ofText text).IsNamedIn (system.localeEntry (.ofText text)) := by
  have hmark : (" > " : String) = " >" ++ " " := by decide
  refine Path.isNamedIn_below ("echo " ++ system.locale ++ " " ++ system.charset ++ " >")
    "etc/locale.gen" "" (c := 'e') (by decide) (by decide) ?_ (.inl rfl)
  simp only [localeEntry, hmark, String.append_assoc, String.append_empty]

theorem isNamedIn_of_mem_commands (system : System) {text command : String}
    (h : command ∈ system.commands (.ofText text)) : (Path.ofText text).IsNamedIn command := by
  rw [commands, List.mem_append, passwordPrompt] at h
  rcases h with hprompt | h
  · split at hprompt
    · rw [List.mem_singleton.1 hprompt]
      exact isNamedIn_inside text _
    · cases hprompt
  · simp only [List.mem_cons, List.not_mem_nil, or_false] at h
    rcases h with rfl | rfl | rfl | rfl | rfl
    · exact system.isNamedIn_identity text
    · exact isNamedIn_inside text _
    · exact system.isNamedIn_localeEntry text
    · exact isNamedIn_inside text _
    · exact isNamedIn_hereDocument (c := 'e') (by decide) (by decide) _

end System

namespace Initrd

theorem isNamedIn_kernelLookup (text : String) :
    (Path.ofText text).IsNamedIn (kernelLookup (.ofText text)) := by
  have hbefore : ("kernel=\"$(find " : String) = "kernel=\"$(find" ++ " " := by decide
  have hafter : (" -mindepth 1 -maxdepth 1 -type d | xargs basename)\"" : String) =
    " " ++ "-mindepth 1 -maxdepth 1 -type d | xargs basename)\"" := by decide
  refine Path.isNamedIn_below "kernel=\"$(find" "lib/modules" _ (c := 'l') (by decide) (by decide)
    ?_ (.inr ⟨_, hafter⟩)
  simp only [kernelLookup, hbefore, String.append_assoc]

theorem isNamedIn_generation (text : String) :
    (Path.ofText text).IsNamedIn (generation (.ofText text)) := by
  have hinside : generation (.ofText text) = System.inside (.ofText text)
      ("mkinitcpio --allpresets --kernel=\"$kernel\" --generate " ++ fallbackImage) := by
    have hinner : (" mkinitcpio --allpresets --kernel=\"$kernel\" --generate " : String) =
      " " ++ "mkinitcpio --allpresets --kernel=\"$kernel\" --generate " := by decide
    simp only [generation, System.inside, hinner, String.append_assoc]
  rw [hinside]
  exact System.isNamedIn_inside text _

theorem isNamedIn_of_mem_commands (initrd : Initrd) {text command : String}
    (h : command ∈ initrd.commands (.ofText text)) : (Path.ofText text).IsNamedIn command := by
  simp only [commands, List.mem_cons, List.not_mem_nil, or_false] at h
  rcases h with rfl | rfl | rfl
  · exact isNamedIn_hereDocument (c := 'e') (by decide) (by decide) _
  · exact isNamedIn_kernelLookup text
  · exact isNamedIn_generation text

end Initrd

namespace Specification

theorem isNamedIn_of_mem_commands (spec : Specification) {root : Path} (hroot : root.IsText)
    {command : String} (h : command ∈ spec.commands root) : root.IsNamedIn command := by
  obtain ⟨text, rfl⟩ := hroot
  rw [commands_eq, List.mem_cons, List.mem_append] at h
  rcases h with rfl | hsystem | hinitrd
  · exact spec.packages.isNamedIn_installation text
  · exact spec.system.isNamedIn_of_mem_commands hsystem
  · exact spec.initrd.isNamedIn_of_mem_commands hinitrd

/-- A plan depends on what is shown of its root, and shows it. -/
theorem commands_eq_iff (spec : Specification) (root other : Path) :
    spec.commands root = spec.commands other ↔ root.shown = other.shown := by
  constructor
  · intro h
    rw [commands_eq, commands_eq] at h
    have hpacstrap := (List.cons.inj h).1
    rw [Packages.installation, Packages.installation, String.append_left_inj,
      String.append_left_inj, String.append_right_inj] at hpacstrap
    exact hpacstrap
  · intro h
    have hjoint : root.joint = other.joint := by rw [Path.joint, Path.joint, h]
    have hetc (name : String) (hname : name.toList.head? = some 'e') :
        (root.join name).shown = (other.join name).shown := by
      rw [Path.shown_join root (by decide) hname, Path.shown_join other (by decide) hname, h, hjoint]
    have hlib : (root.join "lib/modules").shown = (other.join "lib/modules").shown := by
      rw [Path.shown_join root (c := 'l') (by decide) (by decide),
        Path.shown_join other (c := 'l') (by decide) (by decide), h, hjoint]
    have hidentity : spec.system.identity root = spec.system.identity other := by
      rw [System.identity, System.identity, System.identityWords, System.identityWords, h]
    simp only [commands_eq, Packages.installation, System.commands, System.passwordPrompt,
      System.inside, System.localeEntry, Initrd.commands, Initrd.kernelLookup, Initrd.generation,
      hereDocument, hidentity, hlib, h, hetc "etc/locale.gen" (by decide),
      hetc "etc/hosts" (by decide), hetc "etc/mkinitcpio.conf" (by decide)]

theorem isNamedIn_shown (spec : Specification) (root : Path) {command : String}
    (h : command ∈ spec.commands root) : (Path.ofText root.shown).IsNamedIn command := by
  have hplan : spec.commands root = spec.commands (.ofText root.shown) :=
    (spec.commands_eq_iff root _).2 (Path.shown_ofText root.shown).symm
  rw [hplan] at h
  exact spec.isNamedIn_of_mem_commands ⟨root.shown, rfl⟩ h

/-- **Targeting.** Every command of a plan names the path that is shown of its root, and the
root itself exactly if that is written in UTF-8. Two roots have the same plan exactly if they
are shown alike, so each root in UTF-8 has a plan of its own among them. -/
theorem commands_name_root_iff (spec : Specification) (root : Path) :
    (∀ command ∈ spec.commands root,
      (Path.ofText root.shown).IsNamedIn command ∧ (root.IsNamedIn command ↔ root.IsText)) ∧
    (∀ other : Path, spec.commands root = spec.commands other ↔ root.shown = other.shown) ∧
    ∀ text other : String,
      spec.commands (.ofText text) = spec.commands (.ofText other) ↔
        Path.ofText text = Path.ofText other := by
  refine ⟨fun command hcommand => ⟨spec.isNamedIn_shown root hcommand, ?_⟩,
    spec.commands_eq_iff root, fun text other => ?_⟩
  · constructor
    · exact Path.IsNamedIn.isText
    · exact fun hroot => spec.isNamedIn_of_mem_commands hroot hcommand
  · rw [commands_eq_iff, Path.shown_ofText, Path.shown_ofText]
    constructor
    · exact congrArg Path.ofText
    · intro h
      exact Utf8.encode_inj.1 (congrArg Path.octets h)

/-- The plan for a mounted file system, and the one for a name that looks like it. -/
theorem commands_name_root_iff_mnt :
    let spec : Specification := ⟨{}, ⟨"UTC", "C", "UTF-8", "us", "archie", none⟩, {}⟩
    let root := Path.ofText "/mnt"
    "arch-chroot /mnt locale-gen" ∈ spec.commands root ∧
      root.IsNamedIn "arch-chroot /mnt locale-gen" ∧
      spec.commands root ≠ spec.commands (.ofText "/mnt/") := by
  intro spec root
  have hmem : "arch-chroot /mnt locale-gen" ∈ spec.commands root := by
    have hcommand : System.inside root "locale-gen" = "arch-chroot /mnt locale-gen" := by
      rw [System.inside, Path.shown_ofText]
      rfl
    rw [commands_eq, ← hcommand]
    simp [System.commands]
  obtain ⟨hnamed, -, hplans⟩ := spec.commands_name_root_iff root
  refine ⟨hmem, (hnamed _ hmem).2.2 ⟨"/mnt", rfl⟩, fun h => ?_⟩
  exact absurd ((hplans "/mnt" "/mnt/").1 h) (by decide)

/-- Two roots that are not written in UTF-8: their plans are the same, and name neither. -/
theorem roots_share_plan :
    let spec : Specification := ⟨{}, ⟨"UTC", "C", "UTF-8", "us", "archie", none⟩, {}⟩
    let root : Path := ⟨[0x2F, 0xFF]⟩
    let other : Path := ⟨[0x2F, 0xFE]⟩
    root ≠ other ∧ spec.commands root = spec.commands other ∧
      "arch-chroot /\uFFFD passwd" ∈ spec.commands root ∧
      ¬ root.IsNamedIn "arch-chroot /\uFFFD passwd" := by
  intro spec root other
  have hroot : root.shown = "/\uFFFD" := by cbv
  have hother : other.shown = "/\uFFFD" := by cbv
  refine ⟨by decide, ?_, ?_, fun h => ?_⟩
  · rw [commands_eq_iff, hroot, hother]
  · have hcommand : System.inside root "passwd" = "arch-chroot /\uFFFD passwd" := by
      rw [System.inside, hroot]
      rfl
    have hprompt : spec.system.passwordPrompt root = [System.inside root "passwd"] := rfl
    rw [commands_eq, ← hcommand, System.commands, hprompt]
    simp
  · have htext := Path.isText_iff.1 h.isText
    rw [hroot] at htext
    exact absurd (congrArg Path.octets htext) (by decide)

end Specification

end InstallPlan
