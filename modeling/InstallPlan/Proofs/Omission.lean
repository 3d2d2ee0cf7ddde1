import InstallPlan.Proofs.Reading
import InstallPlan.Proofs.Tables

/-!
# Omission

How a TOML text leaves out a package or the password. These fields may be null, which a TOML
text cannot write. Of what it can write, a text is taken as it is, and every other kind of
value is refused but one: a number that is not finite becomes null on the way, so it leaves
the field out without a word (`Specification.parse_toml_follows`).
-/

namespace InstallPlan

open Document (lookup Holds IsTextOrNull)

/-! ## What a record assigns -/

namespace Toml

/-- Whether a record assigns a value to a field: by the name of the field in a table, or at
its place in a list. -/
inductive Value.Assigns (name : String) (place : Nat) : Value → Value → Prop
  | named {origin : Origin} {entries : Entries} {value : Value}
      (mem : (name, value) ∈ entries) : Assigns name place (.table origin entries) value
  | placed {elements : List Value} {value : Value} (get : elements[place]? = some value) :
      Assigns name place (.list elements) value
  | repeated {elements : List Entries} {entries : Entries}
      (get : elements[place]? = some entries) :
      Assigns name place (.tables elements) (.table .header entries)

variable {name : String} {place : Nat} {record value other : Value}

theorem Value.Assigns.unique (h : record.Assigns name place value)
    (hother : record.Assigns name place other) (hrecord : record.Distinct) : value = other := by
  cases h with
  | named mem =>
    cases hother with
    | named mem' => exact (distinct_table_iff.1 hrecord).unique mem mem'
  | placed get =>
    cases hother with
    | placed get' => exact Option.some.inj (get.symm.trans get')
  | repeated get =>
    cases hother with
    | repeated get' => rw [Option.some.inj (get.symm.trans get')]

/-! ## What becomes of it -/

theorem listToDocuments_eq_map (elements : List Value) :
    listToDocuments elements = elements.map Value.toDocument := by
  induction elements with
  | nil => rfl
  | cons first rest ih => rw [listToDocuments, ih, List.map_cons]

theorem entriesToDocuments_eq_map (entries : Entries) :
    entriesToDocuments entries = entries.map fun entry => (entry.1, entry.2.toDocument) := by
  induction entries with
  | nil => rfl
  | cons first rest ih => rw [entriesToDocuments, ih, List.map_cons]

theorem tablesToDocuments_eq_map (elements : List Entries) :
    tablesToDocuments elements =
      elements.map fun entries => (Value.table .header entries).toDocument := by
  induction elements with
  | nil => rfl
  | cons first rest ih => rw [tablesToDocuments, ih, List.map_cons, Value.toDocument]

theorem Value.toDocument_eq_text_iff {s : String} :
    value.toDocument = .text s ↔ value = .text s := by
  cases value <;> simp [Value.toDocument, Document.ofEntries]

theorem Value.toDocument_eq_null_iff : value.toDocument = .null ↔ value = .notFinite := by
  cases value <;> simp [Value.toDocument, Document.ofEntries]

end Toml

namespace Document

variable {name : String} {entries : List (String × Document)} {document : Document}

theorem lookup_eq_some_iff (h : (entries.map Prod.fst).Nodup) :
    lookup name entries = some document ↔ (name, document) ∈ entries := by
  refine ⟨mem_of_lookup, fun hmem => ?_⟩
  cases hlookup : lookup name entries with
  | none => exact absurd (List.mem_map_of_mem hmem) (lookup_eq_none_iff.1 hlookup)
  | some found =>
    exact congrArg (some ·.2) (List.inj_on_of_nodup_map h (mem_of_lookup hlookup) hmem rfl)

/-- Putting entries in order keeps what is found among them, if their keys are distinct. -/
theorem lookup_foldl_insertEntry (h : (entries.map Prod.fst).Nodup)
    (sorted : List (String × Document)) :
    lookup name (entries.foldl (fun sorted (k, v) => insertEntry k v sorted) sorted) =
      (lookup name entries).or (lookup name sorted) := by
  induction entries generalizing sorted with
  | nil => rfl
  | cons first rest ih =>
    obtain ⟨key, value⟩ := first
    obtain ⟨hkey, hrest⟩ := List.nodup_cons.1 h
    rw [List.foldl_cons, ih hrest, lookup_insertEntry, lookup_cons]
    by_cases hname : key = name
    · subst hname
      rw [if_pos rfl, if_pos rfl, lookup_eq_none_iff.2 hkey, Option.none_or, Option.some_or]
    · rw [if_neg hname, if_neg hname]

theorem lookup_zip {names : List String} {place : Nat} {elements : List Document}
    (hnames : names.Nodup) (hplace : names[place]? = some name) :
    lookup name (names.zip elements) = elements[place]? := by
  induction names generalizing place elements with
  | nil => cases hplace
  | cons first rest ih =>
    obtain ⟨hfirst, hrest⟩ := List.nodup_cons.1 hnames
    cases elements with
    | nil => rfl
    | cons value more =>
      rw [List.zip_cons_cons, lookup_cons]
      cases place with
      | zero =>
        cases hplace
        rw [if_pos rfl, List.getElem?_cons_zero]
      | succ place =>
        have hname : first ≠ name := by
          rintro rfl
          exact hfirst (List.mem_of_getElem? hplace)
        rw [if_neg hname, ih hrest hplace, List.getElem?_cons_succ]

end Document

namespace Toml

variable {name : String} {place : Nat} {record : Value}

/-- What is found at the name of a field is the value that the record assigns to it. -/
theorem lookup_eq_some_iff (hrecord : record.Distinct) {names : List String} {least : Nat}
    {given : List (String × Document)} (hgives : record.toDocument.Gives names least given)
    (hnames : names.Nodup) (hmoment : momentKey ∉ names) (hplace : names[place]? = some name)
    {document : Document} :
    lookup name given = some document ↔
      ∃ value, record.Assigns name place value ∧ value.toDocument = document := by
  cases record with
  | table origin entries =>
    have hentries := distinct_table_iff.1 hrecord
    rw [Value.toDocument, Document.ofEntries] at hgives
    cases hgives
    have hnodup : ((entriesToDocuments entries).map Prod.fst).Nodup := by
      rw [entriesToDocuments_eq_map, List.map_map]
      exact hentries.nodup
    rw [Document.lookup_foldl_insertEntry hnodup, Document.lookup_nil, Option.or_none,
      Document.lookup_eq_some_iff hnodup, entriesToDocuments_eq_map, List.mem_map]
    constructor
    · rintro ⟨⟨key, value⟩, hmem, heq⟩
      cases heq
      exact ⟨value, .named hmem, rfl⟩
    · rintro ⟨value, hassigns, rfl⟩
      cases hassigns with
      | named mem => exact ⟨_, mem, rfl⟩
  | list elements =>
    rw [Value.toDocument, listToDocuments_eq_map] at hgives
    cases hgives
    rw [Document.lookup_zip hnames hplace, List.getElem?_map, Option.map_eq_some_iff]
    constructor
    · rintro ⟨value, hget, rfl⟩
      exact ⟨value, .placed hget, rfl⟩
    · rintro ⟨value, hassigns, rfl⟩
      cases hassigns with
      | placed get => exact ⟨_, get, rfl⟩
  | tables elements =>
    rw [Value.toDocument, tablesToDocuments_eq_map] at hgives
    cases hgives
    rw [Document.lookup_zip hnames hplace, List.getElem?_map, Option.map_eq_some_iff]
    constructor
    · rintro ⟨entries, hget, rfl⟩
      exact ⟨_, .repeated hget, rfl⟩
    · rintro ⟨value, hassigns, rfl⟩
      cases hassigns with
      | repeated get => exact ⟨_, get, rfl⟩
  | moment s =>
    -- the object of a date has a name that no record knows
    rw [Value.toDocument] at hgives
    cases hgives with
    | object known => exact absurd (known _ (List.mem_singleton_self _)) hmoment
  | _ =>
    rw [Value.toDocument] at hgives
    cases hgives

end Toml

/-! ## Fields that may be left out -/

/-- A field of a specification that may be null. -/
inductive Omissible where
  | base
  | kernel
  | firmware
  | password
  deriving DecidableEq, Repr

namespace Omissible

/-- The part of a specification that a field belongs to. -/
def part : Omissible → String
  | .base | .kernel | .firmware => "packages"
  | .password => "system"

/-- The name of a field. -/
def name : Omissible → String
  | .base => "base"
  | .kernel => "kernel"
  | .firmware => "firmware"
  | .password => "root_password"

/-- The place of a field in a part that is written as a list. -/
def place : Omissible → Nat
  | .base => 0
  | .kernel => 1
  | .firmware => 2
  | .password => 5

/-- What a field is if nothing is said. -/
def standard : Omissible → Option String
  | .base => some "base"
  | .kernel => some "linux"
  | .firmware => some "linux-firmware"
  | .password => none

/-- What a field is in a specification. -/
def value (spec : Specification) : Omissible → Option String
  | .base => spec.packages.base
  | .kernel => spec.packages.kernel
  | .firmware => spec.packages.firmware
  | .password => spec.system.rootPassword

/-- Whether the entries of a text assign a value to a field. -/
def Assigned (field : Omissible) (entries : Toml.Entries) (value : Toml.Value) : Prop :=
  ∃ record, (field.part, record) ∈ entries ∧ record.Assigns field.name field.place value

end Omissible

/-- What becomes of a field, by the values that are assigned to it and its standard. -/
inductive Follows (assigned : Toml.Value → Prop) (standard : Option String) :
    Option String → Prop
  | text (s : String) (only : ∀ value, assigned value ↔ value = .text s) :
      Follows assigned standard (some s)
  | notFinite (only : ∀ value, assigned value ↔ value = .notFinite) :
      Follows assigned standard none
  | unassigned (none : ∀ value, ¬ assigned value) : Follows assigned standard standard

theorem Follows.congr {assigned assigned' : Toml.Value → Prop} {standard result : Option String}
    (h : Follows assigned standard result) (hiff : ∀ value, assigned value ↔ assigned' value) :
    Follows assigned' standard result := by
  have : assigned = assigned' := funext fun value => propext (hiff value)
  exact this ▸ h

/-- What is assigned is text throughout exactly if it is not a number that is not finite. -/
theorem Follows.texts_iff {assigned : Toml.Value → Prop} {standard result : Option String}
    (h : Follows assigned standard result) :
    (∀ value, assigned value → ∃ s, value = .text s) ↔ ¬ assigned .notFinite := by
  constructor
  · intro htext hassigned
    obtain ⟨s, hs⟩ := htext _ hassigned
    cases hs
  · intro hfinite value hassigned
    cases h with
    | text s only => exact ⟨s, (only value).1 hassigned⟩
    | notFinite only => exact absurd ((only _).2 rfl) hfinite
    | unassigned none => exact absurd hassigned (none value)

namespace Toml

variable {name : String} {place : Nat} {record : Value}

/-- A field of a record that is read as a text or null. -/
theorem follows_of_holds (hrecord : record.Distinct) {names : List String} {least : Nat}
    {given : List (String × Document)} (hgives : record.toDocument.Gives names least given)
    (hnames : names.Nodup) (hmoment : momentKey ∉ names) (hplace : names[place]? = some name)
    {standard result : Option String}
    (hholds : Holds (lookup name given) IsTextOrNull (some standard) result) :
    Follows (record.Assigns name place) standard result := by
  have hiff {document : Document} : lookup name given = some document ↔
      ∃ value, record.Assigns name place value ∧ value.toDocument = document :=
    lookup_eq_some_iff hrecord hgives hnames hmoment hplace
  cases hlookup : lookup name given with
  | none =>
    rw [hlookup] at hholds
    cases hholds
    refine .unassigned fun value hassigns => ?_
    cases (hiff.2 ⟨value, hassigns, rfl⟩).symm.trans hlookup
  | some document =>
    rw [hlookup] at hholds
    obtain ⟨value, hassigns, rfl⟩ := hiff.1 hlookup
    have honly (other : Value) : record.Assigns name place other ↔ other = value :=
      ⟨fun h => h.unique hassigns hrecord, fun h => h ▸ hassigns⟩
    cases result with
    | none => exact .notFinite (Value.toDocument_eq_null_iff.1 hholds ▸ honly)
    | some s => exact .text s (Value.toDocument_eq_text_iff.1 hholds ▸ honly)

end Toml

/-! ## Parts of a specification -/

section

variable {record : Toml.Value} (hrecord : record.Distinct)

include hrecord

theorem Packages.follows {packages : Packages} (h : Describes record.toDocument packages) :
    Follows (record.Assigns "base" 0) (some "base") packages.base ∧
      Follows (record.Assigns "kernel" 1) (some "linux") packages.kernel ∧
      Follows (record.Assigns "firmware" 2) (some "linux-firmware") packages.firmware := by
  obtain ⟨given, hgives, hbase, hkernel, hfirmware, -⟩ := h
  have hnames : ["base", "kernel", "firmware", "extra"].Nodup := by decide
  have hmoment : Toml.momentKey ∉ ["base", "kernel", "firmware", "extra"] := by decide
  exact ⟨Toml.follows_of_holds hrecord hgives hnames hmoment rfl hbase,
    Toml.follows_of_holds hrecord hgives hnames hmoment rfl hkernel,
    Toml.follows_of_holds hrecord hgives hnames hmoment rfl hfirmware⟩

theorem System.follows {system : System} (h : Describes record.toDocument system) :
    Follows (record.Assigns "root_password" 5) none system.rootPassword := by
  obtain ⟨given, hgives, -, -, -, -, -, hpassword⟩ := h
  exact Toml.follows_of_holds hrecord hgives (by decide) (by decide) rfl hpassword

end

/-- A part is read from what a text assigns to it, and is the standard one if that is
nothing. -/
theorem Toml.describes_of_holds {entries : Entries} (hentries : Distinct entries)
    {names : List String} {least : Nat} {given : List (String × Document)}
    (hgives : (Value.table .header entries).toDocument.Gives names least given)
    (hnames : names.Nodup) (hmoment : momentKey ∉ names) {name : String} {place : Nat}
    (hplace : names[place]? = some name) {β : Type} {describes : Document → β → Prop}
    {standard : Option β} {part : β} (hholds : Holds (lookup name given) describes standard part) :
    (∀ record, (name, record) ∈ entries → describes record.toDocument part) ∧
      ((∀ record, (name, record) ∉ entries) → standard = some part) := by
  have hiff {document : Document} : lookup name given = some document ↔
      ∃ record, (Value.table .header entries).Assigns name place record ∧
        record.toDocument = document :=
    lookup_eq_some_iff (distinct_table_iff.2 hentries) hgives hnames hmoment hplace
  constructor
  · intro record hmem
    rw [hiff.2 ⟨record, .named hmem, rfl⟩] at hholds
    exact hholds
  · intro hnone
    cases hlookup : lookup name given with
    | none =>
      rw [hlookup] at hholds
      exact hholds
    | some document =>
      obtain ⟨record, hassigns, -⟩ := hiff.1 hlookup
      cases hassigns with
      | named mem => exact absurd mem (hnone record)

/-- A field follows what its part assigns to it. -/
theorem Omissible.follows_assigned {field : Omissible} {entries : Toml.Entries}
    (hentries : Toml.Distinct entries) {result : Option String}
    (hrecord : ∀ record, (field.part, record) ∈ entries →
      Follows (record.Assigns field.name field.place) field.standard result)
    (hnone : (∀ record, (field.part, record) ∉ entries) → result = field.standard) :
    Follows (field.Assigned entries) field.standard result := by
  by_cases hpart : ∃ record, (field.part, record) ∈ entries
  · obtain ⟨record, hmem⟩ := hpart
    refine (hrecord record hmem).congr fun value => ⟨fun h => ⟨record, hmem, h⟩, ?_⟩
    rintro ⟨other, hother, h⟩
    exact hentries.unique hother hmem ▸ h
  · rw [not_exists] at hpart
    rw [hnone hpart]
    exact .unassigned fun value ⟨record, hmem, _⟩ => hpart record hmem

/-! ## Specifications -/

namespace Specification

theorem follows_of_describes {spec : Specification} {entries : Toml.Entries}
    (hentries : Toml.Distinct entries)
    (h : Describes (Toml.Value.table .header entries).toDocument spec) (field : Omissible) :
    Follows (field.Assigned entries) field.standard (field.value spec) := by
  obtain ⟨given, hgives, hpackages, hsystem, -⟩ := h
  have hnames : ["packages", "system", "initrd"].Nodup := by decide
  have hmoment : Toml.momentKey ∉ ["packages", "system", "initrd"] := by decide
  have hfirst : ["packages", "system", "initrd"][0]? = some "packages" := rfl
  have hsecond : ["packages", "system", "initrd"][1]? = some "system" := rfl
  obtain ⟨hpackages, hstandard⟩ :=
    Toml.describes_of_holds hentries hgives hnames hmoment hfirst hpackages
  obtain ⟨hsystem, hgiven⟩ :=
    Toml.describes_of_holds hentries hgives hnames hmoment hsecond hsystem
  have hfollows (record : Toml.Value) (hmem : ("packages", record) ∈ entries) :=
    Packages.follows (hentries.values _ hmem) (hpackages record hmem)
  have hdefault (h : ∀ record, ("packages", record) ∉ entries) : spec.packages = {} :=
    (Option.some.inj (hstandard h)).symm
  cases field with
  | base =>
    exact Omissible.follows_assigned hentries (fun record hmem => (hfollows record hmem).1)
      fun h => congrArg Packages.base (hdefault h)
  | kernel =>
    exact Omissible.follows_assigned hentries (fun record hmem => (hfollows record hmem).2.1)
      fun h => congrArg Packages.kernel (hdefault h)
  | firmware =>
    exact Omissible.follows_assigned hentries (fun record hmem => (hfollows record hmem).2.2)
      fun h => congrArg Packages.firmware (hdefault h)
  | password =>
    refine Omissible.follows_assigned hentries ?_ fun h => ?_
    · exact fun record hmem => System.follows (hentries.values _ hmem) (hsystem record hmem)
    · -- a system has to be described
      cases hgiven h

theorem follows_of_parse {content : String} {spec : Specification}
    (h : parse content .toml = .ok spec) :
    ∃ entries, Toml.read? content = some entries ∧
      ∀ field : Omissible, Follows (field.Assigned entries) field.standard (field.value spec) := by
  obtain ⟨document, hdocument, hdescribes⟩ := parse_eq_ok_iff.1 h
  obtain ⟨entries, hread, rfl⟩ := readDocument_toml_eq_ok_iff.1 hdocument
  exact ⟨entries, hread, follows_of_describes (Toml.distinct_of_read? hread) hdescribes⟩

/-- **Omission.** In a TOML text that is accepted, a field that may be left out is assigned at
most one value. It is that value if that is a text, and null if that is a number that is not
finite; there is no third kind, and without a value it is the standard. So what is assigned is
text throughout exactly if none of it is such a number. -/
theorem parse_toml_follows {content : String} {spec : Specification}
    (h : parse content .toml = .ok spec) :
    ∃ entries, Toml.read? content = some entries ∧
      (∀ field : Omissible,
        Follows (field.Assigned entries) field.standard (field.value spec)) ∧
      ((∀ (field : Omissible) (value : Toml.Value), field.Assigned entries value →
          ∃ s, value = .text s) ↔
        ∀ field : Omissible, ¬ field.Assigned entries .notFinite) := by
  obtain ⟨entries, hread, hfollows⟩ := follows_of_parse h
  exact ⟨entries, hread, hfollows, forall_congr' fun field => (hfollows field).texts_iff⟩

/-- A kernel that is not a number is left out, and a password is as it is given. -/
theorem parse_toml_follows_archie :
    let content := "packages = \x7bkernel = nan\x7d\n" ++
      "system = [\"UTC\", \"C\", \"UTF-8\", \"us\", \"archie\", \"hunter2\"]"
    let spec : Specification :=
      ⟨⟨some "base", none, some "linux-firmware", []⟩,
        ⟨"UTC", "C", "UTF-8", "us", "archie", some "hunter2"⟩, {}⟩
    parse content .toml = .ok spec ∧ ∃ entries, Toml.read? content = some entries ∧
      (∀ value, Omissible.kernel.Assigned entries value ↔ value = .notFinite) ∧
      ∀ value, Omissible.password.Assigned entries value ↔ value = .text "hunter2" := by
  intro content spec
  have hparse : parse content .toml = .ok spec := by decide +kernel
  obtain ⟨entries, hread, hfollows, -⟩ := parse_toml_follows hparse
  have hkernel : Follows (Omissible.kernel.Assigned entries) (some "linux") none :=
    hfollows .kernel
  have hpassword : Follows (Omissible.password.Assigned entries) none (some "hunter2") :=
    hfollows .password
  refine ⟨hparse, entries, hread, ?_, ?_⟩
  · cases hkernel with
    | notFinite only => exact only
  · cases hpassword with
    | text _ only => exact only

/-- What is assigned to the kernel is no text, and the kernel is left out for it. -/
theorem kernel_dropped :
    let content := "[packages]\nkernel = nan\n[system]\ntimezone = \"UTC\"\nlocale = \"C\"\n" ++
      "charset = \"UTF-8\"\nkeymap = \"us\"\nhostname = \"archie\"\n"
    ∃ spec entries, parse content .toml = .ok spec ∧ Toml.read? content = some entries ∧
      Omissible.kernel.Assigned entries .notFinite ∧ (∀ s, Toml.Value.notFinite ≠ .text s) ∧
      spec.packages.names = ["base", "linux-firmware"] := by
  intro content
  have hparse : parse content .toml = .ok
      ⟨⟨some "base", none, some "linux-firmware", []⟩,
        ⟨"UTC", "C", "UTF-8", "us", "archie", none⟩, {}⟩ := by decide +kernel
  obtain ⟨entries, hread, hfollows⟩ := follows_of_parse hparse
  have hkernel : Follows (Omissible.kernel.Assigned entries) (some "linux") none :=
    hfollows .kernel
  cases hkernel with
  | notFinite only =>
    exact ⟨_, entries, hparse, hread, (only _).2 rfl, fun s => Toml.Value.noConfusion, rfl⟩

-- a field that has to be there refuses the same number
example : parse "system = [\"UTC\", \"C\", \"UTF-8\", \"us\", nan]" .toml =
    .error ⟨[], .fault (.invalidSpecification (.shape (.wrongKind "null" "a string")))⟩ := by
  decide +kernel

end Specification

end InstallPlan
