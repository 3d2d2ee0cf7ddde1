import InstallPlan.Proofs.Reading

/-!
# Completion

Writing the standard values out changes nothing (`Specification.ofDocument_complete`). They
are written twice, for a part that is left out as a whole and for a field that is left out of
a part, and `Specification.complete` adds both to a document.

An entry that is added comes to stand among those that are there, accepted or not. It changes
nothing wherever it stands: no other field changes what its field finds in the record, so it
finds the standard value and leaves it (`Shape.enterEntries_insertEntry`).
-/

namespace InstallPlan

namespace Document

/-! ## Entries that are added -/

/-- Entries with the standard ones of those that they leave out. -/
def supply : List (String × Document) → List (String × Document) → List (String × Document)
  | [], entries => entries
  | (name, value) :: rest, entries =>
    supply rest
      (if (lookup name entries).isSome then entries else insertEntry name value entries)

/-- An object with the standard entries that it leaves out; any other value as it is. -/
def completeWith (standards : List (String × Document)) : Document → Document
  | .object entries => .object (supply standards entries)
  | other => other

section

variable {name key : String} {value : Document} {entries standards : List (String × Document)}

/-- What is there stays, and what is not there is the standard. -/
theorem lookup_supply :
    lookup name (supply standards entries) = (lookup name entries).or (lookup name standards) := by
  induction standards generalizing entries with
  | nil => rw [supply, lookup_nil, Option.or_none]
  | cons standard rest ih =>
    obtain ⟨key, value⟩ := standard
    rw [supply, ih, lookup_cons]
    by_cases hkey : key = name
    · subst hkey
      cases hlookup : lookup key entries with
      | none => simp [lookup_insertEntry]
      | some found => simp [hlookup]
    · rw [if_neg hkey]
      split
      · rfl
      · rw [lookup_insertEntry, if_neg hkey]

theorem lookup_map (f : String → Document → Document) :
    lookup name (entries.map fun entry => (entry.1, f entry.1 entry.2)) =
      (lookup name entries).map (f name) := by
  induction entries with
  | nil => rfl
  | cons first rest ih =>
    obtain ⟨key, value⟩ := first
    rw [List.map_cons, lookup_cons, lookup_cons, ih]
    split
    · rename_i hkey
      rw [hkey, Option.map_some]
    · rfl

end

/-! ## Order -/

theorem Ordered.orderly {entries : List (String × Document)} (h : Ordered (.object entries)) :
    Orderly entries where
  ascending := h.of_object.1.imp Utf8.encode_lt_encode_iff.1
  ordered := h.of_object.2

theorem Orderly.supply {entries : List (String × Document)} (h : Orderly entries)
    {standards : List (String × Document)} (hstandards : ∀ entry ∈ standards, entry.2.Ordered) :
    Orderly (supply standards entries) := by
  induction standards generalizing entries with
  | nil => exact h
  | cons standard rest ih =>
    obtain ⟨hfirst, hrest⟩ := List.forall_mem_cons.1 hstandards
    rw [Document.supply]
    split
    · exact ih h hrest
    · exact ih (h.insertEntry standard.1 hfirst) hrest

theorem Ordered.completeWith {document : Document} (h : document.Ordered)
    {standards : List (String × Document)} (hstandards : ∀ entry ∈ standards, entry.2.Ordered) :
    (document.completeWith standards).Ordered := by
  cases document with
  | object entries => exact (h.orderly.supply hstandards).object
  | _ => exact h

theorem Orderly.map {entries : List (String × Document)} (h : Orderly entries)
    {f : String → Document → Document} (hf : ∀ name value, value.Ordered → (f name value).Ordered) :
    Orderly (entries.map fun entry => (entry.1, f entry.1 entry.2)) where
  ascending := List.pairwise_map.2 h.ascending
  ordered := by
    rw [List.forall_mem_map]
    exact fun entry hmem => hf entry.1 entry.2 (h.ordered entry hmem)

end Document

/-! ## Entries that change nothing -/

namespace Field

variable {α : Type} {f g : Field α} {d e : Document} {record next : α}

/-- What a field leaves as it is, it leaves as it is after another field. -/
theorem Commutes.keeps (h : f.Commutes g) (hkeeps : f.enter d record = .ok record)
    (hnext : g.enter e record = .ok next) : f.enter d next = .ok next := by
  obtain ⟨between, hbetween, hresult⟩ := (h d e record next).1 ⟨record, hkeeps, hnext⟩
  cases hnext.symm.trans hbetween
  exact hresult

end Field

namespace Shape

open Document (lookup insertEntry lookup_insertEntry)

variable {α : Type} {shape : Shape α} {field : Field α} {value : Document} {record : α}
  {entries standards : List (String × Document)}

theorem enterEntries_cons_of_keeps (h : shape.Lawful) (hmem : field ∈ shape.fields)
    (hkeeps : field.enter value record = .ok record) :
    shape.enterEntries ((field.name, value) :: entries) record =
      shape.enterEntries entries record := by
  rw [enterEntries, field?_of_mem h hmem]
  simp only [hkeeps]

theorem enterEntries_insertEntry (h : shape.Lawful) (hmem : field ∈ shape.fields)
    (hkeeps : field.enter value record = .ok record) (habsent : lookup field.name entries = none) :
    shape.enterEntries (insertEntry field.name value entries) record =
      shape.enterEntries entries record := by
  induction entries generalizing record with
  | nil => exact enterEntries_cons_of_keeps h hmem hkeeps
  | cons first rest ih =>
    obtain ⟨key, document⟩ := first
    have hne : key ≠ field.name := Document.ne_of_lookup_eq_none habsent List.mem_cons_self
    rw [Document.lookup_cons, if_neg hne] at habsent
    rw [insertEntry]
    split
    · exact enterEntries_cons_of_keeps h hmem hkeeps
    rw [if_neg hne.symm, enterEntries, enterEntries]
    -- the entry in front is entered first, and its field is another one
    cases hfield : shape.field? key with
    | none => rfl
    | some other =>
      obtain ⟨hother, rfl⟩ := mem_of_field? hfield
      have hcommutes : field.Commutes other := by
        refine h.commutes.forall hmem hother ?_
        rintro rfl
        exact hne rfl
      cases henter : other.enter document record with
      | error e => simp only [henter]
      | ok next =>
        simp only [henter]
        exact ih (hcommutes.keeps hkeeps henter) habsent

theorem missing?_congr {entries' : List (String × Document)}
    (h : ∀ field ∈ shape.fields, field.required = true →
      (lookup field.name entries').isNone = (lookup field.name entries).isNone) :
    shape.missing? entries' = shape.missing? entries := by
  refine List.find?_congr fun field hmem => ?_
  cases hrequired : field.required with
  | false => rfl
  | true => rw [h field hmem hrequired]

/-- Whether the entries may be left out, and say what is so without them. -/
def AreStandard (shape : Shape α) (standards : List (String × Document)) : Prop :=
  ∀ entry ∈ standards, ∃ field, shape.field? entry.1 = some field ∧
    field.required = false ∧ field.enter entry.2 shape.blank = .ok shape.blank

theorem read_insertEntry (h : shape.Lawful) (hmem : field ∈ shape.fields)
    (hoptional : field.required = false) (hkeeps : field.enter value shape.blank = .ok shape.blank)
    (habsent : lookup field.name entries = none) :
    shape.read (.object (insertEntry field.name value entries)) =
      shape.read (.object entries) := by
  have hmissing : shape.missing? (insertEntry field.name value entries) =
      shape.missing? entries := by
    refine missing?_congr fun other hother hrequired => ?_
    rw [lookup_insertEntry, if_neg]
    -- the required field is another one
    intro hname
    have hsame := (field?_of_mem h hmem).symm.trans (hname ▸ field?_of_mem h hother)
    cases hsame
    cases hoptional.symm.trans hrequired
  rw [read, read, enterEntries_insertEntry h hmem hkeeps habsent, hmissing]

theorem read_supply (h : shape.Lawful) (hstandards : shape.AreStandard standards) :
    shape.read (.object (Document.supply standards entries)) = shape.read (.object entries) := by
  induction standards generalizing entries with
  | nil => rfl
  | cons standard rest ih =>
    obtain ⟨⟨field, hfield, hoptional, hkeeps⟩, hrest⟩ := List.forall_mem_cons.1 hstandards
    obtain ⟨hmem, hname⟩ := mem_of_field? hfield
    rw [Document.supply, ih hrest]
    split
    · rfl
    · rename_i habsent
      rw [Option.not_isSome_iff_eq_none] at habsent
      rw [← hname] at habsent ⊢
      exact read_insertEntry h hmem hoptional hkeeps habsent

theorem read_completeWith (h : shape.Lawful) (hstandards : shape.AreStandard standards)
    (document : Document) :
    shape.read (document.completeWith standards) = shape.read document := by
  cases document with
  | object entries => exact read_supply h hstandards
  | _ => rfl

/-- Values may be replaced by others that enter a record alike. -/
theorem read_map {f : String → Document → Document}
    (h : ∀ field ∈ shape.fields, ∀ value record,
      field.enter (f field.name value) record = field.enter value record) :
    shape.read (.object (entries.map fun entry => (entry.1, f entry.1 entry.2))) =
      shape.read (.object entries) := by
  have henter (record : α) :
      shape.enterEntries (entries.map fun entry => (entry.1, f entry.1 entry.2)) record =
        shape.enterEntries entries record := by
    induction entries generalizing record with
    | nil => rfl
    | cons first rest ih =>
      rw [List.map_cons, enterEntries, enterEntries]
      cases hfield : shape.field? first.1 with
      | none => rfl
      | some field =>
        obtain ⟨hmem, hname⟩ := mem_of_field? hfield
        simp only [← hname, h field hmem, ih]
  have hmissing : shape.missing? (entries.map fun entry => (entry.1, f entry.1 entry.2)) =
      shape.missing? entries := by
    refine missing?_congr fun field _ _ => ?_
    rw [Document.lookup_map, Option.isNone_map]
  rw [read, read, henter, hmissing]

end Shape

/-! ## Specifications -/

/-- The packages that are installed if nothing is said. -/
def Packages.standards : List (String × Document) :=
  [("base", .text "base"), ("kernel", .text "linux"), ("firmware", .text "linux-firmware"),
    ("extra", .array [])]

/-- No password is said to be none. -/
def System.standards : List (String × Document) := [("root_password", .null)]

/-- The initial ramdisk that is made if nothing is said. -/
def Initrd.standards : List (String × Document) :=
  [("modules", .array []), ("binaries", .array []), ("files", .array []),
    ("hooks", .array [.text "base", .text "udev", .text "autodetect", .text "modconf",
      .text "block", .text "filesystems", .text "fsck"]),
    ("compression", .text "xz"), ("compression_options", .array [])]

theorem Packages.ordered_standards : ∀ entry ∈ standards, entry.2.Ordered := by
  simp [standards, Document.Ordered.text, Document.Ordered.array]

theorem System.ordered_standards : ∀ entry ∈ standards, entry.2.Ordered := by
  simp [standards, Document.Ordered.null]

theorem Initrd.ordered_standards : ∀ entry ∈ standards, entry.2.Ordered := by
  simp [standards, Document.Ordered.text, Document.Ordered.array]

theorem Packages.areStandard : shape.AreStandard standards := by
  simp only [Shape.AreStandard, standards, List.forall_mem_cons, List.not_mem_nil,
    false_imp_iff, implies_true, and_true]
  and_intros <;> exact ⟨_, rfl, rfl, rfl⟩

theorem System.areStandard : shape.AreStandard standards := by
  simp only [Shape.AreStandard, standards, List.forall_mem_singleton]
  exact ⟨_, rfl, rfl, rfl⟩

theorem Initrd.areStandard : shape.AreStandard standards := by
  simp only [Shape.AreStandard, standards, List.forall_mem_cons, List.not_mem_nil,
    false_imp_iff, implies_true, and_true]
  and_intros <;> exact ⟨_, rfl, rfl, rfl⟩

namespace Specification

/-- The parts that are so if nothing is said. -/
def standards : List (String × Document) :=
  [("packages", .completeWith Packages.standards (.object [])),
    ("initrd", .completeWith Initrd.standards (.object []))]

/-- A part of a specification with the standard entries that it leaves out. -/
def completePart (name : String) (value : Document) : Document :=
  if name = "packages" then value.completeWith Packages.standards
  else if name = "system" then value.completeWith System.standards
  else if name = "initrd" then value.completeWith Initrd.standards
  else value

/-- A document with all that may be left out written out. -/
def complete : Document → Document
  | .object entries =>
    .object (Document.supply standards
      (entries.map fun entry => (entry.1, completePart entry.1 entry.2)))
  | other => other

theorem areStandard : shape.AreStandard standards := by
  have hpackages : Packages.shape.read (.completeWith Packages.standards (.object [])) = .ok {} :=
    Shape.read_completeWith Packages.shape_lawful Packages.areStandard _
  have hinitrd : Initrd.shape.read (.completeWith Initrd.standards (.object [])) = .ok {} :=
    Shape.read_completeWith Initrd.shape_lawful Initrd.areStandard _
  simp only [Shape.AreStandard, standards, List.forall_mem_cons, List.not_mem_nil,
    false_imp_iff, implies_true, and_true]
  refine ⟨⟨_, rfl, rfl, ?_⟩, ⟨_, rfl, rfl, ?_⟩⟩
  · simp only [Field.optional, hpackages]
    rfl
  · simp only [Field.optional, hinitrd]
    rfl

theorem ordered_completePart (name : String) {value : Document} (h : value.Ordered) :
    (completePart name value).Ordered := by
  rw [completePart]
  split_ifs
  · exact h.completeWith Packages.ordered_standards
  · exact h.completeWith System.ordered_standards
  · exact h.completeWith Initrd.ordered_standards
  · exact h

/-- What is there is completed, and what may be left out is there. -/
theorem complete_object (entries : List (String × Document)) :
    ∃ entries', complete (.object entries) = .object entries' ∧ ∀ name,
      Document.lookup name entries' =
        ((Document.lookup name entries).map (completePart name)).or
          (Document.lookup name standards) := by
  refine ⟨_, rfl, fun name => ?_⟩
  rw [Document.lookup_supply, Document.lookup_map]

example : complete (.object [("packages", .object [("kernel", .null)]), ("system", .null)]) =
    .object
      [("initrd", .completeWith Initrd.standards (.object [])),
        ("packages", .object [("base", .text "base"), ("extra", .array []),
          ("firmware", .text "linux-firmware"), ("kernel", .null)]),
        ("system", .null)] :=
  rfl

/-- What is written out keeps the order of the keys. -/
theorem ordered_complete {document : Document} (h : document.Ordered) :
    (complete document).Ordered := by
  have hempty : (Document.object []).Ordered := Document.Orderly.nil.object
  have hstandards : ∀ entry ∈ standards, entry.2.Ordered :=
    List.forall_mem_cons.2 ⟨hempty.completeWith Packages.ordered_standards,
      List.forall_mem_singleton.2 (hempty.completeWith Initrd.ordered_standards)⟩
  cases document with
  | object entries =>
    have hparts := h.orderly.map fun name value hvalue => ordered_completePart name hvalue
    exact (hparts.supply hstandards).object
  | _ => exact h

theorem enter_completePart {field : Field Specification} (hmem : field ∈ shape.fields)
    (value : Document) (record : Specification) :
    field.enter (completePart field.name value) record = field.enter value record := by
  simp only [shape, List.mem_cons, List.not_mem_nil, or_false] at hmem
  rcases hmem with rfl | rfl | rfl
  · simp [completePart, Field.optional,
      Shape.read_completeWith Packages.shape_lawful Packages.areStandard]
  · simp [completePart, Field.mandatory,
      Shape.read_completeWith System.shape_lawful System.areStandard]
  · simp [completePart, Field.optional,
      Shape.read_completeWith Initrd.shape_lawful Initrd.areStandard]

/-- **Completion.** Writing out what may be left out changes nothing: the same specification
is read, or the same fault is reported. -/
theorem ofDocument_complete (document : Document) :
    ofDocument (complete document) = ofDocument document := by
  suffices shape.read (complete document) = shape.read document by
    rw [ofDocument, this, ofDocument]
  cases document with
  | object entries =>
    calc shape.read (complete (.object entries))
        = shape.read
            (.object (entries.map fun entry => (entry.1, completePart entry.1 entry.2))) :=
          Shape.read_supply shape_lawful areStandard
      _ = shape.read (.object entries) := Shape.read_map fun _ => enter_completePart
  | _ => rfl

end Specification

end InstallPlan
