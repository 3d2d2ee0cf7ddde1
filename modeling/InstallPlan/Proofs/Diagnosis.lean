import InstallPlan.Proofs.Faults

/-!
# Diagnosis

Reading a document reports its first fault. That holds of every shape that has the fields of
a level and rejects the same values for them (`Shape.Obeys`), so of the parts of a
specification first and of a specification then, and no change behind the fault changes the
report (`Specification.reports_first_fault`).
-/

namespace InstallPlan

/-! ## What is reported -/

namespace Shape

open Document (Level)

variable {α : Type} {shape : Shape α} {level : Level} {entries : List (String × Document)}

/-- Whether a shape has the fields that a level says, and rejects the same values for them. -/
structure Obeys (shape : Shape α) (level : Level) : Prop where
  title : shape.title = level.title
  fields : shape.fields.map (fun field => (field.name, field.required)) = level.fields
  rejects : ∀ field ∈ shape.fields, ∀ value : Document, value.Ordered → ∀ record e,
    field.enter value record = .error e ↔ ∃ path, level.Rejects field.name value path e

namespace Obeys

theorem expectation (h : shape.Obeys level) : shape.expectation = level.expectation := by
  rw [Shape.expectation, Level.expectation, h.title]

theorem names (h : shape.Obeys level) : shape.names = level.names := by
  rw [Level.names, ← h.fields, List.map_map]
  rfl

theorem required (h : shape.Obeys level) :
    (shape.fields.filter (·.required)).map (·.name) = level.required := by
  rw [Level.required, ← h.fields, List.filter_map, List.map_map]
  rfl

theorem field?_eq_none_iff (h : shape.Obeys level) {name : String} :
    shape.field? name = none ↔ name ∉ level.names := by
  rw [← h.names, field?, List.find?_eq_none]
  simp [Shape.names]

theorem exists_field (h : shape.Obeys level) {name : String} (hname : name ∈ level.names) :
    ∃ field ∈ shape.fields, field.name = name ∧ shape.field? name = some field := by
  cases hfield : shape.field? name with
  | none => exact absurd hname (h.field?_eq_none_iff.1 hfield)
  | some field =>
    obtain ⟨hmem, hsame⟩ := mem_of_field? hfield
    exact ⟨field, hmem, hsame, rfl⟩

/-- Accepted entries are entered, whatever follows. -/
theorem enterEntries_append (h : shape.Obeys level) {earlier : List (String × Document)}
    (hordered : ∀ entry ∈ earlier, entry.2.Ordered)
    (haccepts : ∀ entry ∈ earlier, level.Accepts entry) (rest : List (String × Document))
    (record : α) :
    ∃ next, shape.enterEntries (earlier ++ rest) record = shape.enterEntries rest next := by
  induction earlier generalizing record with
  | nil => exact ⟨record, rfl⟩
  | cons entry earlier ih =>
    obtain ⟨⟨hknown, hfine⟩, haccepts⟩ := List.forall_mem_cons.1 haccepts
    obtain ⟨hvalue, hordered⟩ := List.forall_mem_cons.1 hordered
    obtain ⟨field, hmem, hname, hfield⟩ := h.exists_field hknown
    cases henter : field.enter entry.2 record with
    | error e =>
      obtain ⟨path, hrejects⟩ := (h.rejects field hmem _ hvalue record e).1 henter
      exact absurd (hname ▸ hrejects) (hfine path e)
    | ok between =>
      obtain ⟨next, hnext⟩ := ih hordered haccepts between
      refine ⟨next, ?_⟩
      simp only [List.cons_append, enterEntries, hfield, henter]
      exact hnext

/-- Entries are examined one after the other. -/
theorem enterEntries_of_split (h : shape.Obeys level) {earlier later : List (String × Document)}
    {key : String} {value : Document} (hordered : ∀ entry ∈ earlier, entry.2.Ordered)
    (haccepts : ∀ entry ∈ earlier, level.Accepts entry) (hvalue : value.Ordered) (record : α) :
    (key ∉ level.names →
      shape.enterEntries (earlier ++ (key, value) :: later) record =
        .error (.unknownField key level.names)) ∧
    ∀ path e, key ∈ level.names → level.Rejects key value path e →
      shape.enterEntries (earlier ++ (key, value) :: later) record = .error e := by
  obtain ⟨next, hnext⟩ := h.enterEntries_append hordered haccepts ((key, value) :: later) record
  rw [hnext, enterEntries]
  constructor
  · intro hunknown
    rw [h.field?_eq_none_iff.2 hunknown, h.names]
  · intro path e hknown hrejects
    obtain ⟨field, hmem, rfl, hfield⟩ := h.exists_field hknown
    rw [hfield]
    simp only [(h.rejects field hmem value hvalue next e).2 ⟨path, hrejects⟩]

theorem name_missing? (h : shape.Obeys level) :
    (shape.missing? entries).map (·.name) =
      level.required.find? fun name => name ∉ entries.map Prod.fst := by
  rw [← h.required, List.find?_map, List.find?_filter, missing?]
  congr 2
  funext field
  cases field.required with
  | false => rfl
  | true =>
    rw [Bool.true_and, Bool.eq_iff_iff, Option.isNone_iff_eq_none, Document.lookup_eq_none_iff]
    simp

/-- The first fault is reported. -/
theorem read_of_firstFault (h : shape.Obeys level) (hentries : (Document.object entries).Ordered)
    {path : List String} {e : ShapeError} (hfault : level.FirstFault entries path e) :
    shape.read (.object entries) = .error e := by
  obtain ⟨ascending, hordered⟩ := hentries.of_object
  -- the entries in front of a key are those with smaller keys
  have hsplit {key : String} {value : Document} (present : (key, value) ∈ entries)
      (first : level.AcceptsBefore key entries) :
      ∃ earlier later, entries = earlier ++ (key, value) :: later ∧
        (∀ entry ∈ earlier, entry.2.Ordered) ∧ ∀ entry ∈ earlier, level.Accepts entry := by
    obtain ⟨earlier, later, rfl⟩ := List.append_of_mem present
    refine ⟨earlier, later, rfl, (List.forall_mem_append.1 hordered).1, fun entry hmem => ?_⟩
    exact first entry (List.mem_append_left _ hmem)
      ((List.pairwise_append.1 ascending).2.2 entry hmem _ List.mem_cons_self)
  cases hfault with
  | unknown present first unknown =>
    have hvalue := hordered _ present
    obtain ⟨earlier, later, rfl, hearlier, haccepts⟩ := hsplit present first
    rw [read, (h.enterEntries_of_split hearlier haccepts hvalue _).1 unknown]
  | rejected present first known rejected =>
    have hvalue := hordered _ present
    obtain ⟨earlier, later, rfl, hearlier, haccepts⟩ := hsplit present first
    rw [read, (h.enterEntries_of_split hearlier haccepts hvalue _).2 _ e known rejected]
  | missing accepted first =>
    obtain ⟨next, hnext⟩ := h.enterEntries_append hordered accepted [] shape.blank
    obtain ⟨field, hfield, rfl⟩ := Option.map_eq_some_iff.1 (h.name_missing?.trans first)
    rw [List.append_nil] at hnext
    rw [read, hnext, enterEntries, hfield]

/-- An object without a fault is read. -/
theorem exists_firstFault_or_read (h : shape.Obeys level)
    (hentries : (Document.object entries).Ordered) :
    (∃ path e, level.FirstFault entries path e) ∨
      ∃ record, shape.read (.object entries) = .ok record := by
  classical
  obtain ⟨ascending, hordered⟩ := hentries.of_object
  cases hfirst : entries.find? fun entry => ¬ level.Accepts entry with
  | none =>
    have haccepts : ∀ entry ∈ entries, level.Accepts entry := by
      simpa using List.find?_eq_none.1 hfirst
    cases hmissing : shape.missing? entries with
    | none =>
      obtain ⟨next, hnext⟩ := h.enterEntries_append hordered haccepts [] shape.blank
      rw [List.append_nil] at hnext
      exact .inr ⟨next, by rw [read, hnext, enterEntries, hmissing]⟩
    | some field =>
      have hname := h.name_missing?.symm.trans (congrArg (Option.map (·.name)) hmissing)
      exact .inl ⟨_, _, .missing haccepts hname⟩
  | some entry =>
    obtain ⟨key, value⟩ := entry
    obtain ⟨hrefused, earlier, later, rfl, hearlier⟩ := List.find?_eq_some_iff_append.1 hfirst
    have hbefore : level.AcceptsBefore key (earlier ++ (key, value) :: later) := by
      intro entry hmem hlt
      rcases List.mem_append.1 hmem with hmem | hmem
      · simpa using hearlier entry hmem
      · -- what stands at the key or behind it has no smaller key
        have hbehind := (List.pairwise_cons.1 (List.pairwise_append.1 ascending).2.1).1
        rcases List.mem_cons.1 hmem with rfl | hmem
        · exact absurd hlt (List.lt_irrefl _)
        · exact absurd hlt (List.lt_asymm (hbehind entry hmem))
    have hpresent : (key, value) ∈ earlier ++ (key, value) :: later :=
      List.mem_append_right _ List.mem_cons_self
    by_cases hknown : key ∈ level.names
    · have hrejected : ∃ path e, level.Rejects key value path e := by
        simpa [Level.Accepts, hknown] using hrefused
      obtain ⟨path, e, hrejected⟩ := hrejected
      exact .inl ⟨_, _, .rejected hpresent hbefore hknown hrejected⟩
    · exact .inl ⟨_, _, .unknown hpresent hbefore hknown⟩

theorem read_object_eq_error_iff (h : shape.Obeys level)
    (hentries : (Document.object entries).Ordered) {e : ShapeError} :
    shape.read (.object entries) = .error e ↔ ∃ path, level.FirstFault entries path e := by
  constructor
  · intro hread
    rcases h.exists_firstFault_or_read hentries with ⟨path, e', hfault⟩ | ⟨record, hrecord⟩
    · have hsame := hread.symm.trans (h.read_of_firstFault hentries hfault)
      exact ⟨path, Except.error.inj hsame ▸ hfault⟩
    · cases hread.symm.trans hrecord
  · rintro ⟨path, hfault⟩
    exact h.read_of_firstFault hentries hfault

theorem enterElements_eq_error_iff (h : shape.Obeys level) {fields : List (Field α)}
    (hfields : ∀ field ∈ fields, field ∈ shape.fields) {elements : List Document}
    (helements : ∀ value ∈ elements, value.Ordered) {index : Nat} {record : α} {e : ShapeError} :
    enterElements s!"{level.expectation} with {level.fields.length} elements" index fields
        elements record = .error e ↔
      level.FirstMisfit index (fields.map fun field => (field.name, field.required)) elements
        e := by
  induction fields generalizing index elements record with
  | nil =>
    cases elements with
    | nil =>
      refine iff_of_false (by simp [enterElements]) ?_
      rintro ⟨⟩
    | cons value rest =>
      simp only [enterElements, List.map_nil]
      constructor
      · rintro ⟨⟩
        exact .leftOver
      · rintro ⟨⟩
        rfl
  | cons field fields ih =>
    obtain ⟨hfield, hfields⟩ := List.forall_mem_cons.1 hfields
    rw [List.map_cons]
    cases elements with
    | nil =>
      rw [enterElements]
      cases hrequired : field.required with
      | true =>
        constructor
        · rintro ⟨⟩
          exact .missing
        · rintro ⟨⟩
          rfl
      | false =>
        rw [if_neg Bool.false_ne_true, ih hfields helements]
        constructor
        · exact .leftOut
        · rintro ⟨⟩
          assumption
    | cons value rest =>
      obtain ⟨hvalue, hrest⟩ := List.forall_mem_cons.1 helements
      have hrejects := h.rejects field hfield value hvalue record
      rw [enterElements]
      cases henter : field.enter value record with
      | error e' =>
        have hrejected := (hrejects e').1 henter
        have haccepted : ¬ ∀ path e, ¬ level.Rejects field.name value path e :=
          fun haccepted => hrejected.elim fun path h => haccepted path e' h
        rw [Level.firstMisfit_cons_iff, ← hrejects, henter, or_iff_left fun h => haccepted h.1]
      | ok next =>
        have haccepted (path : List String) (e : ShapeError) :
            ¬ level.Rejects field.name value path e := by
          intro hrejected
          cases henter.symm.trans ((hrejects e).2 ⟨path, hrejected⟩)
        rw [Level.firstMisfit_cons_iff, or_iff_right fun h => h.elim fun path => haccepted path e,
          and_iff_right haccepted]
        exact ih hfields hrest

/-- Reading a document reports what is wrong with it. -/
theorem read_eq_error_iff (h : shape.Obeys level) {document : Document}
    (hdocument : document.Ordered) {e : ShapeError} :
    shape.read document = .error e ↔ ∃ path, level.Faulty document path e := by
  cases document with
  | object entries => exact h.read_object_eq_error_iff hdocument
  | array elements =>
    have hlength : shape.fields.length = level.fields.length := by
      rw [← h.fields, List.length_map]
    have helements : ∀ value ∈ elements, value.Ordered := by
      cases hdocument with
      | array elements_ordered => exact elements_ordered
    rw [read, h.expectation, hlength, h.enterElements_eq_error_iff (fun _ => id) helements,
      h.fields]
    simp [Level.Faulty]
  | _ => simp [Level.Faulty, read, h.expectation, eq_comm]

end Obeys

end Shape

/-! ## Levels of a specification -/

open Document (Level)

/-- Packages are texts or null, and a list of texts. -/
def Packages.level : Level where
  title := "PackageSpec"
  fields := [("base", false), ("kernel", false), ("firmware", false), ("extra", false)]
  Rejects key value path e :=
    path = [] ∧ if key = "extra" then value.NotTexts e else value.NotTextOrNull e

/-- The identity of a system is five texts, and a password that may be null. -/
def System.level : Level where
  title := "SystemSpec"
  fields :=
    [("timezone", true), ("locale", true), ("charset", true), ("keymap", true),
      ("hostname", true), ("root_password", false)]
  Rejects key value path e :=
    path = [] ∧ if key = "root_password" then value.NotTextOrNull e else value.NotText e

/-- An initial ramdisk is lists of texts, and a compression. -/
def Initrd.level : Level where
  title := "InitrdSpec"
  fields :=
    [("modules", false), ("binaries", false), ("files", false), ("hooks", false),
      ("compression", false), ("compression_options", false)]
  Rejects key value path e :=
    path = [] ∧ if key = "compression" then value.NotText e else value.NotTexts e

/-- The parts of a specification have levels of their own. -/
def Specification.level : Level where
  title := "Specification"
  fields := [("packages", false), ("system", true), ("initrd", false)]
  Rejects key value path e :=
    if key = "packages" then Packages.level.Faulty value path e
    else if key = "system" then System.level.Faulty value path e
    else Initrd.level.Faulty value path e

theorem Packages.obeys : shape.Obeys level where
  title := rfl
  fields := rfl
  rejects := by
    simp [shape, level, Field.optional, map_eq_error_iff, Document.asTextOrNull_eq_error_iff,
      Document.asTexts_eq_error_iff]

theorem System.obeys : shape.Obeys level where
  title := rfl
  fields := rfl
  rejects := by
    simp [shape, level, Field.optional, Field.mandatory, map_eq_error_iff,
      Document.asText_eq_error_iff, Document.asTextOrNull_eq_error_iff]

theorem Initrd.obeys : shape.Obeys level where
  title := rfl
  fields := rfl
  rejects := by
    simp [shape, level, Field.optional, map_eq_error_iff, Document.asText_eq_error_iff,
      Document.asTexts_eq_error_iff]

namespace Specification

theorem obeys : shape.Obeys level where
  title := rfl
  fields := rfl
  rejects := by
    simp only [shape, level, Field.optional, Field.mandatory, map_eq_error_iff,
      List.forall_mem_cons, List.not_mem_nil, false_imp_iff, implies_true, and_true]
    refine ⟨fun value hvalue _ e => ?_, fun value hvalue _ e => ?_, fun value hvalue _ e => ?_⟩
    · simpa using Packages.obeys.read_eq_error_iff hvalue
    · simpa using System.obeys.read_eq_error_iff hvalue
    · simpa using Initrd.obeys.read_eq_error_iff hvalue

/-- What comes behind a fault does not matter to the parts. -/
theorem rejects_congr {key : String} {value value' : Document} {path : List String}
    {e : ShapeError} (h : level.Rejects key value path e)
    (hsame : Document.upTo path value' = Document.upTo path value) :
    level.Rejects key value' path e := by
  simp only [level] at h ⊢
  split_ifs at h ⊢
  · exact h.congr_of_leaves (fun h => h.1) hsame
  · exact h.congr_of_leaves (fun h => h.1) hsame
  · exact h.congr_of_leaves (fun h => h.1) hsame

/-- **Diagnosis.** A document is rejected for what is wrong with it, of an object its first
fault, and no change behind the fault changes what is reported. -/
theorem reports_first_fault {document : Document} (h : document.Ordered) :
    (∀ reason, ofDocument document = .error reason ↔
      ∃ path e, reason = .shape e ∧ level.Faulty document path e) ∧
    ∀ path e, level.Faulty document path e →
      ∀ other : Document, other.Ordered →
        Document.upTo path other = Document.upTo path document →
        ofDocument other = .error (.shape e) := by
  constructor
  · intro reason
    rw [ofDocument, mapError_eq_error_iff]
    constructor
    · rintro ⟨e, hread, rfl⟩
      obtain ⟨path, hfault⟩ := (obeys.read_eq_error_iff h).1 hread
      exact ⟨path, e, rfl, hfault⟩
    · rintro ⟨path, e, rfl, hfault⟩
      exact ⟨e, (obeys.read_eq_error_iff h).2 ⟨path, hfault⟩, rfl⟩
  · intro path e hfault other hordered hsame
    have hread := (obeys.read_eq_error_iff hordered).2 ⟨path, hfault.congr rejects_congr hsame⟩
    rw [ofDocument, hread, Except.mapError]

/-- A compression that is no text hides an unknown key next to it, a package list that is
none, and that there is no system. -/
theorem reports_first_fault_compression :
    let fault : String × Document := ("compression", .number (.natural 3))
    let entries : List (String × Document) :=
      [("initrd", .object [fault, ("cost", .null)]), ("packages", .object [("extra", .null)])]
    let entries' : List (String × Document) := [("initrd", .object [fault]), ("zone", .null)]
    let reason := InvalidSpecification.shape (.wrongKind "integer `3`" "a string")
    (Document.object entries).Ordered ∧ (Document.object entries').Ordered ∧
      ofDocument (.object entries) = .error reason ∧
      ofDocument (.object entries') = .error reason := by
  intro fault entries entries' reason
  -- the octets of the keys ascend
  have hcost : Utf8.encode "compression" < Utf8.encode "cost" :=
    Utf8.encode_lt_encode_iff.2 (by decide)
  have hpackages : Utf8.encode "initrd" < Utf8.encode "packages" :=
    Utf8.encode_lt_encode_iff.2 (by decide)
  have hzone : Utf8.encode "initrd" < Utf8.encode "zone" :=
    Utf8.encode_lt_encode_iff.2 (by decide)
  have hinitrd : (Document.object [fault, ("cost", .null)]).Ordered :=
    .object (by simp [fault, hcost])
      (by simp [fault, Document.Ordered.null, Document.Ordered.number])
  have hinitrd' : (Document.object [fault]).Ordered :=
    .object (by simp) (by simp [fault, Document.Ordered.number])
  have hextra : (Document.object [("extra", .null)]).Ordered :=
    .object (by simp) (by simp [Document.Ordered.null])
  have hentries : (Document.object entries).Ordered :=
    .object (by simp [entries, hpackages]) (by simp [entries, hinitrd, hextra])
  have hentries' : (Document.object entries').Ordered :=
    .object (by simp [entries', hzone]) (by simp [entries', hinitrd', Document.Ordered.null])
  have hvalue : (Document.number (.natural 3)).NotText (.wrongKind "integer `3`" "a string") :=
    ⟨nofun, rfl⟩
  have hfault : level.FirstFault entries ["initrd", "compression"]
      (.wrongKind "integer `3`" "a string") := by
    refine .rejected List.mem_cons_self ?_ (by decide)
      (.rejected List.mem_cons_self ?_ (by decide) ⟨rfl, (if_pos rfl).mpr hvalue⟩)
    · simp [Level.AcceptsBefore, entries, List.lt_irrefl, List.lt_asymm hpackages]
    · simp [Level.AcceptsBefore, fault, List.lt_irrefl, List.lt_asymm hcost]
  obtain ⟨hreason, hbehind⟩ := reports_first_fault hentries
  refine ⟨hentries, hentries', (hreason _).2 ⟨_, _, rfl, hfault⟩, ?_⟩
  refine hbehind _ _ hfault (.object entries') hentries' ?_
  simp [entries, entries', fault, Document.upTo, hcost, hpackages, hzone]

end Specification

end InstallPlan
