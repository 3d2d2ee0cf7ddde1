import InstallPlan.Proofs.Filling
import InstallPlan.Specification.Basic

/-!
# Grammar

Which documents are specifications, and of what. `Specification.Describes` says it in full:
the fields of each part, which of them have to be there, what kind of value each holds, and
what stands in for it where it is left out. Reading a document gives a specification exactly
if the document describes it (`Specification.ofDocument_eq_ok_iff`).
-/

namespace InstallPlan

namespace Document

/-- A document whose objects have each key once. -/
inductive WellFormed : Document → Prop
  | null : WellFormed .null
  | boolean (b : Bool) : WellFormed (.boolean b)
  | number (n : Numeral) : WellFormed (.number n)
  | text (s : String) : WellFormed (.text s)
  | array {elements : List Document} (elements_wellFormed : ∀ d ∈ elements, WellFormed d) :
      WellFormed (.array elements)
  | object {entries : List (String × Document)} (nodup : (entries.map Prod.fst).Nodup)
      (values_wellFormed : ∀ entry ∈ entries, WellFormed entry.2) :
      WellFormed (.object entries)

theorem WellFormed.keys_nodup {document : Document} (h : document.WellFormed) :
    ∀ entries, document = .object entries → (entries.map Prod.fst).Nodup := by
  rintro entries rfl
  cases h with
  | object nodup _ => exact nodup

theorem WellFormed.of_lookup {document : Document} (h : document.WellFormed)
    {names : List String} {least : Nat} {given : List (String × Document)}
    (hgives : document.Gives names least given) {name : String} {value : Document}
    (hlookup : lookup name given = some value) : value.WellFormed := by
  have hmem := mem_of_lookup hlookup
  cases h with
  | object nodup values_wellFormed =>
    cases hgives
    exact values_wellFormed _ hmem
  | array elements_wellFormed =>
    cases hgives
    exact elements_wellFormed _ (List.of_mem_zip hmem).2
  | _ => cases hgives

/-! ## Kinds of values -/

/-- Whether a document is a text. -/
def IsText (document : Document) (value : String) : Prop := document = .text value

/-- Whether a document is a text, or null for want of one. -/
def IsTextOrNull (document : Document) (value : Option String) : Prop :=
  document = value.elim .null .text

/-- Whether a document is a list of texts. -/
def IsTexts (document : Document) (value : List String) : Prop :=
  document = .array (value.map .text)

theorem asText_iff (document : Document) (value : String) :
    document.asText = .ok value ↔ document.IsText value := by
  cases document <;> simp [asText, IsText]

theorem asTextOrNull_iff (document : Document) (value : Option String) :
    document.asTextOrNull = .ok value ↔ document.IsTextOrNull value := by
  cases document <;> cases value <;> simp [asTextOrNull, asText, IsTextOrNull, Except.map]

theorem mapM_asText_iff {elements : List Document} {value : List String} :
    elements.mapM asText = .ok value ↔ elements = value.map .text := by
  induction elements generalizing value with
  | nil => cases value <;> simp [pure, Except.pure]
  | cons first rest ih =>
    simp only [List.mapM_cons, bind_eq_ok_iff, asText_iff, IsText, ih, pure, Except.pure,
      Except.ok.injEq]
    constructor
    · rintro ⟨s, rfl, more, rfl, rfl⟩
      rfl
    · intro h
      cases value with
      | nil => cases h
      | cons s more =>
        obtain ⟨rfl, rfl⟩ := List.cons.inj h
        exact ⟨s, rfl, more, rfl, rfl⟩

theorem asTexts_iff (document : Document) (value : List String) :
    document.asTexts = .ok value ↔ document.IsTexts value := by
  cases document <;> simp [asTexts, IsTexts, mapM_asText_iff]

end Document

open Document (lookup Holds IsText IsTextOrNull IsTexts)

/-! ## The parts of a specification -/

/-- Whether a document describes packages. -/
def Packages.Describes (document : Document) (packages : Packages) : Prop :=
  ∃ given, document.Gives ["base", "kernel", "firmware", "extra"] 0 given ∧
    Holds (lookup "base" given) IsTextOrNull (some (some "base")) packages.base ∧
    Holds (lookup "kernel" given) IsTextOrNull (some (some "linux")) packages.kernel ∧
    Holds (lookup "firmware" given) IsTextOrNull (some (some "linux-firmware"))
      packages.firmware ∧
    Holds (lookup "extra" given) IsTexts (some []) packages.extra

/-- Whether a document describes a system. -/
def System.Describes (document : Document) (system : System) : Prop :=
  ∃ given,
    document.Gives ["timezone", "locale", "charset", "keymap", "hostname", "root_password"] 5
      given ∧
    Holds (lookup "timezone" given) IsText none system.timezone ∧
    Holds (lookup "locale" given) IsText none system.locale ∧
    Holds (lookup "charset" given) IsText none system.charset ∧
    Holds (lookup "keymap" given) IsText none system.keymap ∧
    Holds (lookup "hostname" given) IsText none system.hostname ∧
    Holds (lookup "root_password" given) IsTextOrNull (some none) system.rootPassword

/-- Whether a document describes an initial ramdisk. -/
def Initrd.Describes (document : Document) (initrd : Initrd) : Prop :=
  ∃ given,
    document.Gives
      ["modules", "binaries", "files", "hooks", "compression", "compression_options"] 0 given ∧
    Holds (lookup "modules" given) IsTexts (some []) initrd.modules ∧
    Holds (lookup "binaries" given) IsTexts (some []) initrd.binaries ∧
    Holds (lookup "files" given) IsTexts (some []) initrd.files ∧
    Holds (lookup "hooks" given) IsTexts
      (some ["base", "udev", "autodetect", "modconf", "block", "filesystems", "fsck"])
      initrd.hooks ∧
    Holds (lookup "compression" given) IsText (some "xz") initrd.compression ∧
    Holds (lookup "compression_options" given) IsTexts (some []) initrd.compressionOptions

/-- Whether a document describes a specification. -/
def Specification.Describes (document : Document) (spec : Specification) : Prop :=
  ∃ given, document.Gives ["packages", "system", "initrd"] 2 given ∧
    Holds (lookup "packages" given) Packages.Describes
      (some ⟨some "base", some "linux", some "linux-firmware", []⟩) spec.packages ∧
    Holds (lookup "system" given) System.Describes none spec.system ∧
    Holds (lookup "initrd" given) Initrd.Describes
      (some ⟨[], [], [], ["base", "udev", "autodetect", "modconf", "block", "filesystems", "fsck"],
        "xz", []⟩) spec.initrd

/-! ## What is read -/

open Shape (fill_optional fill_mandatory)

namespace Packages

theorem shape_lawful : shape.Lawful where
  nodup := by decide
  commutes := by
    -- every two fields have different places in the record
    simp only [shape, List.pairwise_cons, List.forall_mem_cons, List.not_mem_nil, false_imp_iff,
      implies_true, List.Pairwise.nil, and_true]
    and_intros <;> exact .of_put (fun _ _ => rfl) (fun _ _ => rfl) fun _ _ _ => rfl

theorem read_eq_ok_iff {document : Document} (h : document.WellFormed) (packages : Packages) :
    shape.read document = .ok packages ↔ Describes document packages := by
  rw [Shape.read_eq_ok_iff shape_lawful h.keys_nodup]
  refine exists_congr fun given => and_congr_right fun _ => ?_
  constructor
  · intro hfill
    obtain ⟨base, hbase, hfill⟩ :=
      (fill_optional (some "base") (fun d _ => d.asTextOrNull_iff) rfl).1 hfill
    obtain ⟨kernel, hkernel, hfill⟩ :=
      (fill_optional (some "linux") (fun d _ => d.asTextOrNull_iff) rfl).1 hfill
    obtain ⟨firmware, hfirmware, hfill⟩ :=
      (fill_optional (some "linux-firmware") (fun d _ => d.asTextOrNull_iff) rfl).1 hfill
    obtain ⟨extra, hextra, hfill⟩ := (fill_optional [] (fun d _ => d.asTexts_iff) rfl).1 hfill
    cases hfill
    exact ⟨hbase, hkernel, hfirmware, hextra⟩
  · rintro ⟨hbase, hkernel, hfirmware, hextra⟩
    exact (fill_optional _ (fun d _ => d.asTextOrNull_iff) rfl).2 ⟨_, hbase,
      (fill_optional _ (fun d _ => d.asTextOrNull_iff) rfl).2 ⟨_, hkernel,
      (fill_optional _ (fun d _ => d.asTextOrNull_iff) rfl).2 ⟨_, hfirmware,
      (fill_optional _ (fun d _ => d.asTexts_iff) rfl).2 ⟨_, hextra, rfl⟩⟩⟩⟩

end Packages

namespace System

theorem shape_lawful : shape.Lawful where
  nodup := by decide
  commutes := by
    simp only [shape, List.pairwise_cons, List.forall_mem_cons, List.not_mem_nil, false_imp_iff,
      implies_true, List.Pairwise.nil, and_true]
    and_intros <;> exact .of_put (fun _ _ => rfl) (fun _ _ => rfl) fun _ _ _ => rfl

theorem read_eq_ok_iff {document : Document} (h : document.WellFormed) (system : System) :
    shape.read document = .ok system ↔ Describes document system := by
  rw [Shape.read_eq_ok_iff shape_lawful h.keys_nodup]
  constructor
  · rintro ⟨given, hgives, hfill⟩
    obtain ⟨timezone, htimezone, hfill⟩ := (fill_mandatory (fun d _ => d.asText_iff)).1 hfill
    obtain ⟨locale, hlocale, hfill⟩ := (fill_mandatory (fun d _ => d.asText_iff)).1 hfill
    obtain ⟨charset, hcharset, hfill⟩ := (fill_mandatory (fun d _ => d.asText_iff)).1 hfill
    obtain ⟨keymap, hkeymap, hfill⟩ := (fill_mandatory (fun d _ => d.asText_iff)).1 hfill
    obtain ⟨hostname, hhostname, hfill⟩ := (fill_mandatory (fun d _ => d.asText_iff)).1 hfill
    obtain ⟨password, hpassword, hfill⟩ :=
      (fill_optional none (fun d _ => d.asTextOrNull_iff) rfl).1 hfill
    cases hfill
    -- the host name is the last field that has to be there
    exact ⟨given, hgives.of_lookup hhostname.isSome, htimezone, hlocale, hcharset, hkeymap,
      hhostname, hpassword⟩
  · rintro ⟨given, hgives, htimezone, hlocale, hcharset, hkeymap, hhostname, hpassword⟩
    exact ⟨given, hgives.weaken, (fill_mandatory (fun d _ => d.asText_iff)).2 ⟨_, htimezone,
      (fill_mandatory (fun d _ => d.asText_iff)).2 ⟨_, hlocale,
      (fill_mandatory (fun d _ => d.asText_iff)).2 ⟨_, hcharset,
      (fill_mandatory (fun d _ => d.asText_iff)).2 ⟨_, hkeymap,
      (fill_mandatory (fun d _ => d.asText_iff)).2 ⟨_, hhostname,
      (fill_optional _ (fun d _ => d.asTextOrNull_iff) rfl).2 ⟨_, hpassword, rfl⟩⟩⟩⟩⟩⟩⟩

end System

namespace Initrd

theorem shape_lawful : shape.Lawful where
  nodup := by decide
  commutes := by
    simp only [shape, List.pairwise_cons, List.forall_mem_cons, List.not_mem_nil, false_imp_iff,
      implies_true, List.Pairwise.nil, and_true]
    and_intros <;> exact .of_put (fun _ _ => rfl) (fun _ _ => rfl) fun _ _ _ => rfl

theorem read_eq_ok_iff {document : Document} (h : document.WellFormed) (initrd : Initrd) :
    shape.read document = .ok initrd ↔ Describes document initrd := by
  rw [Shape.read_eq_ok_iff shape_lawful h.keys_nodup]
  refine exists_congr fun given => and_congr_right fun _ => ?_
  constructor
  · intro hfill
    obtain ⟨modules, hmodules, hfill⟩ := (fill_optional [] (fun d _ => d.asTexts_iff) rfl).1 hfill
    obtain ⟨binaries, hbinaries, hfill⟩ := (fill_optional [] (fun d _ => d.asTexts_iff) rfl).1 hfill
    obtain ⟨files, hfiles, hfill⟩ := (fill_optional [] (fun d _ => d.asTexts_iff) rfl).1 hfill
    obtain ⟨hooks, hhooks, hfill⟩ :=
      (fill_optional defaultHooks (fun d _ => d.asTexts_iff) rfl).1 hfill
    obtain ⟨compression, hcompression, hfill⟩ :=
      (fill_optional "xz" (fun d _ => d.asText_iff) rfl).1 hfill
    obtain ⟨options, hoptions, hfill⟩ :=
      (fill_optional [] (fun d _ => d.asTexts_iff) rfl).1 hfill
    cases hfill
    exact ⟨hmodules, hbinaries, hfiles, hhooks, hcompression, hoptions⟩
  · rintro ⟨hmodules, hbinaries, hfiles, hhooks, hcompression, hoptions⟩
    exact (fill_optional _ (fun d _ => d.asTexts_iff) rfl).2 ⟨_, hmodules,
      (fill_optional _ (fun d _ => d.asTexts_iff) rfl).2 ⟨_, hbinaries,
      (fill_optional _ (fun d _ => d.asTexts_iff) rfl).2 ⟨_, hfiles,
      (fill_optional _ (fun d _ => d.asTexts_iff) rfl).2 ⟨_, hhooks,
      (fill_optional _ (fun d _ => d.asText_iff) rfl).2 ⟨_, hcompression,
      (fill_optional _ (fun d _ => d.asTexts_iff) rfl).2 ⟨_, hoptions, rfl⟩⟩⟩⟩⟩⟩

end Initrd

namespace Specification

theorem shape_lawful : shape.Lawful where
  nodup := by decide
  commutes := by
    simp only [shape, List.pairwise_cons, List.forall_mem_cons, List.not_mem_nil, false_imp_iff,
      implies_true, List.Pairwise.nil, and_true]
    and_intros <;> exact .of_put (fun _ _ => rfl) (fun _ _ => rfl) fun _ _ _ => rfl

theorem read_eq_ok_iff {document : Document} (h : document.WellFormed) (spec : Specification) :
    shape.read document = .ok spec ↔ Describes document spec := by
  rw [Shape.read_eq_ok_iff shape_lawful h.keys_nodup]
  constructor
  · rintro ⟨given, hgives, hfill⟩
    obtain ⟨packages, hpackages, hfill⟩ := (fill_optional {}
      (fun _ hlookup => Packages.read_eq_ok_iff (h.of_lookup hgives hlookup)) rfl).1 hfill
    obtain ⟨system, hsystem, hfill⟩ := (fill_mandatory
      (fun _ hlookup => System.read_eq_ok_iff (h.of_lookup hgives hlookup))).1 hfill
    obtain ⟨initrd, hinitrd, hfill⟩ := (fill_optional {}
      (fun _ hlookup => Initrd.read_eq_ok_iff (h.of_lookup hgives hlookup)) rfl).1 hfill
    cases hfill
    exact ⟨given, hgives.of_lookup hsystem.isSome, hpackages, hsystem, hinitrd⟩
  · rintro ⟨given, hgives, hpackages, hsystem, hinitrd⟩
    exact ⟨given, hgives.weaken,
      (fill_optional _ (fun _ hlookup => Packages.read_eq_ok_iff (h.of_lookup hgives hlookup))
        rfl).2 ⟨_, hpackages,
      (fill_mandatory (fun _ hlookup =>
        System.read_eq_ok_iff (h.of_lookup hgives hlookup))).2 ⟨_, hsystem,
      (fill_optional _ (fun _ hlookup => Initrd.read_eq_ok_iff (h.of_lookup hgives hlookup))
        rfl).2 ⟨_, hinitrd, rfl⟩⟩⟩⟩

/-- **Grammar.** A document is read as the specification that it describes, and is not read
if it describes none. -/
theorem ofDocument_eq_ok_iff {document : Document} (h : document.WellFormed)
    (spec : Specification) : ofDocument document = .ok spec ↔ Describes document spec := by
  rw [← read_eq_ok_iff h, ofDocument, mapError_eq_ok_iff]

/-- A system as an array, and packages without the base package. -/
theorem ofDocument_eq_ok_iff_archie :
    let document : Document := .object
      [("packages", .object [("base", .null)]),
       ("system", .array [.text "UTC", .text "C", .text "UTF-8", .text "us", .text "archie"])]
    let spec : Specification :=
      ⟨⟨none, some "linux", some "linux-firmware", []⟩,
        ⟨"UTC", "C", "UTF-8", "us", "archie", none⟩, {}⟩
    document.WellFormed ∧ ofDocument document = .ok spec ∧ Describes document spec ∧
      ∀ other, Describes document other → other = spec := by
  intro document spec
  have hpackages : (Document.object [("base", .null)]).WellFormed :=
    .object (by decide) (by simp [Document.WellFormed.null])
  have hsystem : (Document.array
      [.text "UTC", .text "C", .text "UTF-8", .text "us", .text "archie"]).WellFormed :=
    .array (by simp [Document.WellFormed.text])
  have hdocument : document.WellFormed :=
    .object (by decide) (by simp [hpackages, hsystem])
  have hread : ofDocument document = .ok spec := rfl
  refine ⟨hdocument, hread, (ofDocument_eq_ok_iff hdocument spec).1 hread, ?_⟩
  intro other hother
  have hsame := (ofDocument_eq_ok_iff hdocument other).2 hother
  rw [hread] at hsame
  exact (Except.ok.inj hsame).symm

end Specification

end InstallPlan
