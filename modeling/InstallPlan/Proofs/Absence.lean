import InstallPlan.Proofs.Delivery

/-!
# Absence

A name that is empty counts for one that is absent. `Specification.normal` leaves out what is
empty; a specification and its normal form are different values, and equality tells them
apart, but everything that is made of a specification is made of its packages' names and of
its password, and those are the same (`Packages.names_normal`, `System.password_normal`). So
both have the same events, and no sink can tell one from the other.
-/

namespace InstallPlan

/-! ## One text -/

/-- A text, an empty one left out. -/
def dropEmpty (value : Option String) : Option String := if value = some "" then none else value

theorem dropEmpty_eq_self_iff {value : Option String} :
    dropEmpty value = value ↔ value ≠ some "" := by
  rw [dropEmpty]
  split
  · rename_i h
    simp [h]
  · rename_i h
    simp [h]

theorem dropEmpty_ne (value : Option String) : dropEmpty value ≠ some "" := by
  rw [dropEmpty]
  split
  · simp
  · assumption

theorem dropEmpty_dropEmpty (value : Option String) :
    dropEmpty (dropEmpty value) = dropEmpty value :=
  dropEmpty_eq_self_iff.2 (dropEmpty_ne value)

theorem present_dropEmpty (value : Option String) : present (dropEmpty value) = present value := by
  rw [dropEmpty]
  split
  · rename_i h
    rw [h]
    rfl
  · rfl

/-! ## Normal forms -/

namespace Packages

/-- The packages without empty names. -/
def normal (packages : Packages) : Packages where
  base := dropEmpty packages.base
  kernel := dropEmpty packages.kernel
  firmware := dropEmpty packages.firmware
  extra := packages.extra.filter (· ≠ "")

variable (packages : Packages)

theorem baseName_normal : packages.normal.baseName = packages.baseName :=
  present_dropEmpty packages.base

theorem kernelName_normal : packages.normal.kernelName = packages.kernelName :=
  present_dropEmpty packages.kernel

theorem headersName_normal : packages.normal.headersName = packages.headersName := by
  rw [headersName, headersName, kernelName_normal]

theorem firmwareName_normal : packages.normal.firmwareName = packages.firmwareName :=
  present_dropEmpty packages.firmware

theorem names_normal : packages.normal.names = packages.names := by
  have hextra : packages.normal.extra.filter (· ≠ "") = packages.extra.filter (· ≠ "") := by
    simp [normal]
  rw [names, names, baseName_normal, kernelName_normal, headersName_normal, firmwareName_normal,
    hextra]

theorem steps_normal (root : Path) : packages.normal.steps root = packages.steps root := by
  rw [steps, steps, installation, installation, names_normal]

theorem normal_normal : packages.normal.normal = packages.normal := by
  simp [normal, dropEmpty_dropEmpty]

theorem normal_eq_self_iff :
    packages.normal = packages ↔
      packages.base ≠ some "" ∧ packages.kernel ≠ some "" ∧ packages.firmware ≠ some "" ∧
        "" ∉ packages.extra := by
  obtain ⟨base, kernel, firmware, extra⟩ := packages
  have hextra : extra.filter (· ≠ "") = extra ↔ "" ∉ extra := by
    rw [List.filter_eq_self]
    exact ⟨fun h hempty => by simpa using h "" hempty,
      fun h text htext => by simpa using ne_of_mem_of_not_mem htext h⟩
  simp only [normal, mk.injEq, dropEmpty_eq_self_iff, hextra]

end Packages

namespace System

/-- The system without an empty password. -/
def normal (system : System) : System :=
  { system with rootPassword := dropEmpty system.rootPassword }

variable (system : System)

theorem password_normal : system.normal.password = system.password :=
  present_dropEmpty system.rootPassword

theorem commands_normal (root : Path) : system.normal.commands root = system.commands root := by
  have hidentity : system.normal.identity root = system.identity root := by
    rw [identity, identity, identityWords, identityWords, password_normal]
    rfl
  rw [commands, commands, passwordPrompt, passwordPrompt, password_normal, hidentity]
  rfl

theorem normal_normal : system.normal.normal = system.normal := by
  simp [normal, dropEmpty_dropEmpty]

theorem normal_eq_self_iff : system.normal = system ↔ system.rootPassword ≠ some "" := by
  obtain ⟨timezone, locale, charset, keymap, hostname, rootPassword⟩ := system
  simp only [normal, mk.injEq, dropEmpty_eq_self_iff, true_and]

end System

namespace Specification

/-- The specification without empty names and without an empty password. -/
def normal (spec : Specification) : Specification :=
  { spec with packages := spec.packages.normal, system := spec.system.normal }

theorem events_normal (spec : Specification) (root : Path) :
    spec.normal.events root = spec.events root := by
  have hsystem : spec.system.normal.steps root = spec.system.steps root := by
    rw [System.steps, System.steps, System.commands_normal]
  rw [events, events, steps, steps, normal, Packages.steps_normal, hsystem]

theorem apply_normal {σ : Type} (spec : Specification) (root : Path) (sink : Sink σ) (state : σ) :
    spec.normal.apply root sink state = spec.apply root sink state := by
  rw [apply_eq_deliver, apply_eq_deliver, events_normal]

/-- **Absence.** A specification and its normal form deliver the same events and have the same
outcome with every sink, and the same names of packages and the same password. Nothing is
left out of a normal form again, and a specification is equal to its normal form exactly if
it has no text that is left out. -/
theorem empty_means_absent (spec : Specification) :
    (∀ (root : Path) {σ : Type} (sink : Sink σ) (state : σ),
      spec.events root = spec.normal.events root ∧
      spec.apply root sink state = spec.normal.apply root sink state) ∧
    (spec.packages.baseName = spec.normal.packages.baseName ∧
      spec.packages.kernelName = spec.normal.packages.kernelName ∧
      spec.packages.headersName = spec.normal.packages.headersName ∧
      spec.packages.firmwareName = spec.normal.packages.firmwareName ∧
      spec.packages.names = spec.normal.packages.names ∧
      spec.system.password = spec.normal.system.password) ∧
    spec.normal.normal = spec.normal ∧
    (spec = spec.normal ↔
      spec.packages.base ≠ some "" ∧ spec.packages.kernel ≠ some "" ∧
        spec.packages.firmware ≠ some "" ∧ spec.system.rootPassword ≠ some "" ∧
        "" ∉ spec.packages.extra) := by
  refine ⟨?_, ?_, ?_, ?_⟩
  · intro root σ sink state
    exact ⟨(spec.events_normal root).symm, (spec.apply_normal root sink state).symm⟩
  · exact ⟨spec.packages.baseName_normal.symm, spec.packages.kernelName_normal.symm,
      spec.packages.headersName_normal.symm, spec.packages.firmwareName_normal.symm,
      spec.packages.names_normal.symm, spec.system.password_normal.symm⟩
  · rw [normal, normal, Packages.normal_normal, System.normal_normal]
  · have hparts : spec.normal = spec ↔
        spec.packages.normal = spec.packages ∧ spec.system.normal = spec.system := by
      obtain ⟨packages, system, initrd⟩ := spec
      simp only [normal, mk.injEq, and_true]
    rw [eq_comm, hparts, Packages.normal_eq_self_iff, System.normal_eq_self_iff]
    constructor
    · rintro ⟨⟨hbase, hkernel, hfirmware, hextra⟩, hpassword⟩
      exact ⟨hbase, hkernel, hfirmware, hpassword, hextra⟩
    · rintro ⟨hbase, hkernel, hfirmware, hpassword, hextra⟩
      exact ⟨⟨hbase, hkernel, hfirmware, hextra⟩, hpassword⟩

end Specification

end InstallPlan
