import InstallPlan.Document.Shape
import Mathlib

/-!
# Filling

How a document fills a record. The values that it gives for the fields go by their names,
be it an object that names them or an array that holds them in order (`Document.Gives`).
From there on a record is filled field by field (`Shape.fill`), whatever the order in which
an object is read, because no field overwrites what another one entered
(`Field.Commutes`); that is what reading comes to (`Shape.read_eq_ok_iff`).
-/

namespace InstallPlan

namespace Document

/-! ## Entries by name -/

@[simp] theorem lookup_nil (name : String) : lookup name [] = none := rfl

theorem lookup_cons (name key : String) (value : Document) (rest : List (String × Document)) :
    lookup name ((key, value) :: rest) = if key = name then some value else lookup name rest := by
  rw [lookup, List.find?_cons]
  by_cases h : key = name <;> simp [h, lookup]

theorem mem_of_lookup {name : String} {value : Document} {entries : List (String × Document)}
    (h : lookup name entries = some value) : (name, value) ∈ entries := by
  induction entries with
  | nil => cases h
  | cons entry rest ih =>
    obtain ⟨key, found⟩ := entry
    rw [lookup_cons] at h
    split at h
    · rename_i hkey
      cases h
      exact hkey ▸ List.mem_cons_self
    · exact List.mem_cons_of_mem _ (ih h)

theorem lookup_eq_none_iff {name : String} {entries : List (String × Document)} :
    lookup name entries = none ↔ name ∉ entries.map Prod.fst := by
  rw [lookup, Option.map_eq_none_iff, List.find?_eq_none, List.mem_map]
  simp only [decide_eq_true_eq, not_exists, not_and]

theorem ne_of_lookup_eq_none {name : String} {entries : List (String × Document)}
    (h : lookup name entries = none) {entry : String × Document} (hmem : entry ∈ entries) :
    entry.1 ≠ name := by
  rintro rfl
  exact lookup_eq_none_iff.1 h (List.mem_map_of_mem hmem)

theorem lookup_append_cons_of_ne {name key : String} (h : key ≠ name) (value : Document)
    (earlier later : List (String × Document)) :
    lookup name (earlier ++ (key, value) :: later) = lookup name (earlier ++ later) := by
  simp [lookup, List.find?_append, h]

theorem lookup_insertEntry {name key : String} {value : Document}
    {entries : List (String × Document)} :
    lookup name (insertEntry key value entries) =
      if key = name then some value else lookup name entries := by
  induction entries with
  | nil => rw [insertEntry, lookup_cons]
  | cons first rest ih =>
    obtain ⟨k, v⟩ := first
    rw [insertEntry]
    split
    · rw [lookup_cons]
    · split
      · rename_i hkey
        subst hkey
        rw [lookup_cons, lookup_cons]
        split <;> rfl
      · rename_i hkey
        rw [lookup_cons, lookup_cons, ih]
        -- an entry in front of the new one has another key
        by_cases hname : k = name
        · rw [if_pos hname, if_pos hname, if_neg fun h => hkey (h.trans hname.symm)]
        · rw [if_neg hname, if_neg hname]

/-- The values that a document gives for fields of some names. An object names them itself;
an array holds them in the order of the names, and holds `least` of them at least. -/
inductive Gives (names : List String) (least : Nat) :
    Document → List (String × Document) → Prop
  | object {entries : List (String × Document)}
      (known : ∀ entry ∈ entries, entry.1 ∈ names) :
      Gives names least (.object entries) entries
  | array {elements : List Document}
      (enough : least ≤ elements.length) (fit : elements.length ≤ names.length) :
      Gives names least (.array elements) (names.zip elements)

/-- Whether a value is what is given for it, or the standard value where nothing is given.
Without a standard value something has to be given. -/
def Holds {β : Type} (given : Option Document) (describes : Document → β → Prop)
    (standard : Option β) (value : β) : Prop :=
  match given with
  | some document => describes document value
  | none => standard = some value

theorem Holds.isSome {β : Type} {given : Option Document} {describes : Document → β → Prop}
    {value : β} (h : Holds given describes none value) : given.isSome := by
  cases given with
  | none => cases h
  | some document => rfl

theorem idxOf_lt_of_lookup_zip {name : String} {names : List String} {elements : List Document}
    (h : (lookup name (names.zip elements)).isSome) : names.idxOf name < elements.length := by
  induction names generalizing elements with
  | nil => cases h
  | cons first rest ih =>
    cases elements with
    | nil => cases h
    | cons value more =>
      rw [List.zip_cons_cons, lookup_cons] at h
      rw [List.idxOf_cons]
      by_cases hfirst : first = name
      · rw [beq_iff_eq.2 hfirst]
        exact Nat.succ_pos more.length
      · rw [if_neg hfirst] at h
        rw [beq_false_of_ne hfirst]
        exact Nat.succ_lt_succ (ih h)

namespace Gives

variable {names : List String} {least : Nat} {document : Document}
  {given : List (String × Document)}

theorem weaken (h : document.Gives names least given) : document.Gives names 0 given := by
  cases h with
  | object known => exact .object known
  | array enough fit => exact .array (Nat.zero_le _) fit

/-- An array reaches as far as the values that it gives. -/
theorem of_lookup (h : document.Gives names 0 given) {name : String}
    (hlookup : (lookup name given).isSome) :
    document.Gives names (names.idxOf name + 1) given := by
  cases h with
  | object known => exact .object known
  | array enough fit => exact .array (idxOf_lt_of_lookup_zip hlookup) fit

end Gives

end Document

/-! ## How computations end -/

section

variable {ε ε' α β : Type} {x : Except ε α}

theorem map_eq_ok_iff {f : α → β} {b : β} : x.map f = .ok b ↔ ∃ a, x = .ok a ∧ f a = b := by
  cases x <;> simp [Except.map]

theorem map_eq_error_iff {f : α → β} {e : ε} : x.map f = .error e ↔ x = .error e := by
  cases x <;> simp [Except.map]

theorem mapError_eq_ok_iff {f : ε → ε'} {a : α} : x.mapError f = .ok a ↔ x = .ok a := by
  cases x <;> simp [Except.mapError]

theorem mapError_eq_error_iff {f : ε → ε'} {e' : ε'} :
    x.mapError f = .error e' ↔ ∃ e, x = .error e ∧ f e = e' := by
  cases x <;> simp [Except.mapError]

theorem bind_eq_ok_iff {f : α → Except ε β} {b : β} :
    x >>= f = .ok b ↔ ∃ a, x = .ok a ∧ f a = .ok b := by
  cases x <;> simp [bind, Except.bind]

theorem bind_eq_error_iff {f : α → Except ε β} {e : ε} :
    x >>= f = .error e ↔ x = .error e ∨ ∃ a, x = .ok a ∧ f a = .error e := by
  cases x <;> simp [bind, Except.bind]

end

/-! ## Fields that leave each other alone -/

namespace Field

variable {α β γ : Type}

/-- Whether two fields can be entered in either order. -/
def Commutes (f g : Field α) : Prop :=
  ∀ d e record result,
    (∃ between, f.enter d record = .ok between ∧ g.enter e between = .ok result) ↔
      ∃ between, g.enter e record = .ok between ∧ f.enter d between = .ok result

instance : Std.Symm (@Commutes α) where
  symm _ _ h d e record result := (h e d record result).symm

/-- Fields commute whose values can be put into a record in either order. -/
theorem Commutes.of_put {f g : Field α} {read : Document → Except ShapeError β}
    {put : β → α → α} {read' : Document → Except ShapeError γ} {put' : γ → α → α}
    (hf : ∀ d record, f.enter d record = (read d).map fun value => put value record)
    (hg : ∀ d record, g.enter d record = (read' d).map fun value => put' value record)
    (h : ∀ value other record, put value (put' other record) = put' other (put value record)) :
    f.Commutes g := by
  intro d e record result
  simp only [hf, hg, map_eq_ok_iff]
  constructor
  · rintro ⟨_, ⟨value, hvalue, rfl⟩, other, hother, rfl⟩
    exact ⟨_, ⟨other, hother, rfl⟩, value, hvalue, h value other record⟩
  · rintro ⟨_, ⟨other, hother, rfl⟩, value, hvalue, rfl⟩
    exact ⟨_, ⟨value, hvalue, rfl⟩, other, hother, (h value other record).symm⟩

end Field

namespace Shape

variable {α β : Type}

/-- A shape whose fields have names of their own and leave each other alone. -/
structure Lawful (shape : Shape α) : Prop where
  nodup : shape.names.Nodup
  commutes : shape.fields.Pairwise Field.Commutes

variable {shape : Shape α}

theorem field?_of_mem (h : shape.Lawful) {field : Field α} (hmem : field ∈ shape.fields) :
    shape.field? field.name = some field := by
  have hnodup : (shape.fields.map (·.name)).Nodup := h.nodup
  obtain ⟨earlier, later, hfields⟩ := List.append_of_mem hmem
  rw [field?, hfields, List.find?_append, List.find?_eq_none.2, Option.none_or,
    List.find?_cons_of_pos (by simp)]
  intro other hother
  rw [hfields, List.map_append, List.map_cons] at hnodup
  have hne := (List.nodup_append.1 hnodup).2.2 other.name (List.mem_map_of_mem hother)
    field.name List.mem_cons_self
  simpa using hne

theorem mem_of_field? {name : String} {field : Field α} (h : shape.field? name = some field) :
    field ∈ shape.fields ∧ field.name = name :=
  ⟨List.mem_of_find?_eq_some h, by simpa using List.find?_some h⟩

/-! ## The order of entries -/

theorem enterEntries_cons_eq_ok {entry : String × Document} {rest : List (String × Document)}
    {record result : α} :
    shape.enterEntries (entry :: rest) record = .ok result ↔
      ∃ field between, shape.field? entry.1 = some field ∧
        field.enter entry.2 record = .ok between ∧
        shape.enterEntries rest between = .ok result := by
  obtain ⟨name, value⟩ := entry
  rw [enterEntries]
  cases hfield : shape.field? name with
  | none => simp
  | some field => cases henter : field.enter value record <;> simp [henter]

/-- The first two entries may change places. -/
theorem enterEntries_swap (h : shape.Lawful) {first second : String × Document}
    (hne : first.1 ≠ second.1) {rest : List (String × Document)} {record result : α}
    (hread : shape.enterEntries (first :: second :: rest) record = .ok result) :
    shape.enterEntries (second :: first :: rest) record = .ok result := by
  obtain ⟨field, before, hfield, hbefore, hmore⟩ := enterEntries_cons_eq_ok.1 hread
  obtain ⟨other, between, hother, hbetween, hrest⟩ := enterEntries_cons_eq_ok.1 hmore
  obtain ⟨hmem, hname⟩ := mem_of_field? hfield
  obtain ⟨hmem', hname'⟩ := mem_of_field? hother
  have hfields : field ≠ other := by
    intro heq
    exact hne (by rw [← hname, ← hname', heq])
  have hcommutes : field.Commutes other :=
    h.commutes.forall hmem hmem' hfields
  obtain ⟨early, hearly, hlate⟩ :=
    (hcommutes first.2 second.2 record between).1 ⟨before, hbefore, hbetween⟩
  exact enterEntries_cons_eq_ok.2 ⟨other, early, hother, hearly,
    enterEntries_cons_eq_ok.2 ⟨field, between, hfield, hlate, hrest⟩⟩

theorem known_of_enterEntries {entries : List (String × Document)} {record result : α}
    (h : shape.enterEntries entries record = .ok result) :
    ∀ entry ∈ entries, entry.1 ∈ shape.names := by
  induction entries generalizing record with
  | nil => exact fun _ hmem => absurd hmem List.not_mem_nil
  | cons entry rest ih =>
    obtain ⟨field, between, hfield, -, hrest⟩ := enterEntries_cons_eq_ok.1 h
    obtain ⟨hmem, hname⟩ := mem_of_field? hfield
    refine List.forall_mem_cons.2 ⟨?_, ih hrest⟩
    exact hname ▸ List.mem_map_of_mem hmem

/-- Entries may be entered in any order. -/
theorem enterEntries_perm (h : shape.Lawful) {entries entries' : List (String × Document)}
    (hperm : entries.Perm entries') (hkeys : (entries.map Prod.fst).Nodup) (record result : α) :
    shape.enterEntries entries record = .ok result ↔
      shape.enterEntries entries' record = .ok result := by
  induction hperm generalizing record with
  | nil => rfl
  | cons entry hperm ih =>
    have hrest := (List.nodup_cons.1 hkeys).2
    simp only [enterEntries_cons_eq_ok, ih hrest]
  | swap first second rest =>
    have hne : second.1 ≠ first.1 := by
      intro heq
      exact (List.nodup_cons.1 hkeys).1 (heq ▸ List.mem_cons_self)
    exact ⟨enterEntries_swap h hne, enterEntries_swap h hne.symm⟩
  | trans hperm _ ih ih' =>
    have hmiddle := (hperm.map Prod.fst).nodup_iff.1 hkeys
    exact (ih hkeys record).trans (ih' hmiddle record)

/-! ## Field by field -/

/-- Fills the fields of a record one after the other with the values that are given. -/
def fill (given : List (String × Document)) : List (Field α) → α → Option α
  | [], record => some record
  | field :: rest, record =>
    match Document.lookup field.name given with
    | none => if field.required then none else fill given rest record
    | some document =>
      match field.enter document record with
      | .error _ => none
      | .ok record => fill given rest record

section

variable {given given' : List (String × Document)} {field : Field α} {rest : List (Field α)}
  {record : α}

theorem fill_cons_of_none (hlookup : Document.lookup field.name given = none) :
    fill given (field :: rest) record =
      if field.required then none else fill given rest record := by
  simp only [fill, hlookup]

theorem fill_cons_of_error {document : Document}
    (hlookup : Document.lookup field.name given = some document) {e : ShapeError}
    (henter : field.enter document record = .error e) :
    fill given (field :: rest) record = none := by
  simp only [fill, hlookup, henter]

theorem fill_cons_of_ok {document : Document}
    (hlookup : Document.lookup field.name given = some document) {next : α}
    (henter : field.enter document record = .ok next) :
    fill given (field :: rest) record = fill given rest next := by
  simp only [fill, hlookup, henter]

theorem fill_congr
    (h : ∀ other ∈ rest, Document.lookup other.name given = Document.lookup other.name given') :
    fill given rest record = fill given' rest record := by
  induction rest generalizing record with
  | nil => rfl
  | cons other rest ih =>
    obtain ⟨hother, hrest⟩ := List.forall_mem_cons.1 h
    simp only [fill, hother, ih hrest]

/-- What is given for one field does not matter to the others. -/
theorem lookup_of_mem (hname : field.name ∉ rest.map (·.name)) (document : Document)
    (earlier later : List (String × Document)) :
    ∀ other ∈ rest,
      Document.lookup other.name (earlier ++ (field.name, document) :: later) =
        Document.lookup other.name (earlier ++ later) := by
  intro other hmem
  refine Document.lookup_append_cons_of_ne ?_ document earlier later
  intro heq
  exact hname (heq ▸ List.mem_map_of_mem hmem)

end

/-! ## Values of one field -/

section

variable {given : List (String × Document)} {name : String}
  {read : Document → Except ShapeError β} {put : β → α → α} {describes : Document → β → Prop}
  {rest : List (Field α)} {record result : α}

theorem fill_cons_eq_some_iff {field : Field α}
    (henter : ∀ d record, field.enter d record = (read d).map fun value => put value record)
    {document : Document} (hlookup : Document.lookup field.name given = some document) :
    fill given (field :: rest) record = some result ↔
      ∃ value, read document = .ok value ∧ fill given rest (put value record) = some result := by
  cases hread : read document with
  | error e =>
    rw [fill_cons_of_error hlookup (by rw [henter, hread]; rfl)]
    simp
  | ok value =>
    rw [fill_cons_of_ok hlookup (by rw [henter, hread]; rfl)]
    simp

/-- A field that may be left out keeps the value that stands in the record. -/
theorem fill_optional (standard : β)
    (hread : ∀ d, Document.lookup name given = some d → ∀ value,
      read d = .ok value ↔ describes d value)
    (hstandard : put standard record = record) :
    fill given (.optional name read put :: rest) record = some result ↔
      ∃ value, Document.Holds (Document.lookup name given) describes (some standard) value ∧
        fill given rest (put value record) = some result := by
  cases hlookup : Document.lookup name given with
  | none =>
    rw [fill_cons_of_none hlookup]
    simp [Field.optional, Document.Holds, hstandard]
  | some document =>
    rw [fill_cons_eq_some_iff (fun _ _ => rfl) hlookup]
    simp only [Document.Holds, hread document hlookup]

/-- A field that has to be there. -/
theorem fill_mandatory
    (hread : ∀ d, Document.lookup name given = some d → ∀ value,
      read d = .ok value ↔ describes d value) :
    fill given (.mandatory name read put :: rest) record = some result ↔
      ∃ value, Document.Holds (Document.lookup name given) describes none value ∧
        fill given rest (put value record) = some result := by
  cases hlookup : Document.lookup name given with
  | none =>
    rw [fill_cons_of_none hlookup]
    simp [Field.mandatory, Document.Holds]
  | some document =>
    rw [fill_cons_eq_some_iff (fun _ _ => rfl) hlookup]
    simp only [Document.Holds, hread document hlookup]

end

/-! ## Entries and elements -/

/-- To enter the entries of an object that leaves no required field out is to fill the
fields. -/
theorem fill_entries (h : shape.Lawful) {fields : List (Field α)} (hfields : fields ⊆ shape.fields)
    (hnames : (fields.map (·.name)).Nodup) {entries : List (String × Document)}
    (hkeys : (entries.map Prod.fst).Nodup)
    (hknown : ∀ entry ∈ entries, entry.1 ∈ fields.map (·.name)) (record result : α) :
    fill entries fields record = some result ↔
      shape.enterEntries entries record = .ok result ∧
        ∀ field ∈ fields, field.required → (Document.lookup field.name entries).isSome := by
  induction fields generalizing entries record with
  | nil =>
    obtain rfl : entries = [] :=
      List.eq_nil_iff_forall_not_mem.2 fun entry hmem => by simpa using hknown entry hmem
    simp [fill, enterEntries]
  | cons field rest ih =>
    obtain ⟨hfield, hrest⟩ := List.cons_subset.1 hfields
    obtain ⟨hname, hnames⟩ := List.nodup_cons.1 hnames
    rw [List.forall_mem_cons]
    cases hlookup : Document.lookup field.name entries with
    | none =>
      have hknown' : ∀ entry ∈ entries, entry.1 ∈ rest.map (·.name) := by
        intro entry hmem
        have hne := Document.ne_of_lookup_eq_none hlookup hmem
        exact (List.mem_cons.1 (hknown entry hmem)).resolve_left hne
      rw [fill_cons_of_none hlookup]
      cases hrequired : field.required with
      | true => simp
      | false => simp [ih hrest hnames hkeys hknown']
    | some document =>
      obtain ⟨earlier, later, rfl⟩ := List.append_of_mem (Document.mem_of_lookup hlookup)
      -- the entry of this field may as well be the first
      have hperm : (earlier ++ (field.name, document) :: later).Perm
          ((field.name, document) :: (earlier ++ later)) := List.perm_middle
      obtain ⟨hkey, hkeys'⟩ := List.nodup_cons.1 ((hperm.map Prod.fst).nodup_iff.1 hkeys)
      have hknown' : ∀ entry ∈ earlier ++ later, entry.1 ∈ rest.map (·.name) := by
        intro entry hmem
        have hmem' := hknown entry (hperm.mem_iff.2 (List.mem_cons_of_mem _ hmem))
        refine (List.mem_cons.1 hmem').resolve_left ?_
        intro heq
        exact hkey (List.mem_map.2 ⟨entry, hmem, heq⟩)
      have hothers := lookup_of_mem hname document earlier later
      rw [enterEntries_perm h hperm hkeys, enterEntries_cons_eq_ok]
      cases henter : field.enter document record with
      | error e => simp [fill_cons_of_error hlookup henter, field?_of_mem h hfield, henter]
      | ok next =>
        rw [fill_cons_of_ok hlookup henter, fill_congr hothers, ih hrest hnames hkeys' hknown']
        have hrequired : (∀ other ∈ rest, other.required → (Document.lookup other.name
            (earlier ++ (field.name, document) :: later)).isSome) ↔
            ∀ other ∈ rest, other.required →
              (Document.lookup other.name (earlier ++ later)).isSome :=
          forall₂_congr fun other hmem => by rw [hothers other hmem]
        simp [field?_of_mem h hfield, henter, hrequired]

/-- To enter the elements of an array is to fill the fields with them in order. -/
theorem fill_elements (expected : String) {fields : List (Field α)}
    (hnames : (fields.map (·.name)).Nodup) (elements : List Document) (index : Nat)
    (record result : α) :
    enterElements expected index fields elements record = .ok result ↔
      elements.length ≤ fields.length ∧
        fill ((fields.map (·.name)).zip elements) fields record = some result := by
  induction fields generalizing elements index record with
  | nil => cases elements <;> simp [enterElements, fill]
  | cons field rest ih =>
    obtain ⟨hname, hrest⟩ := List.nodup_cons.1 hnames
    cases elements with
    | nil =>
      cases hrequired : field.required <;> simp [enterElements, fill, hrequired, ih hrest]
    | cons value more =>
      have hlookup : Document.lookup field.name
          ((field.name, value) :: (rest.map (·.name)).zip more) = some value := by
        rw [Document.lookup_cons, if_pos rfl]
      have hmore : fill ((field.name, value) :: (rest.map (·.name)).zip more) rest =
          fill ((rest.map (·.name)).zip more) rest :=
        funext fun _ => fill_congr (lookup_of_mem hname value [] _)
      rw [enterElements, List.map_cons, List.zip_cons_cons]
      cases henter : field.enter value record with
      | error e => simp [fill_cons_of_error hlookup henter]
      | ok next =>
        rw [fill_cons_of_ok hlookup henter, hmore]
        simp [ih hrest]

theorem missing?_eq_none_iff {entries : List (String × Document)} :
    shape.missing? entries = none ↔
      ∀ field ∈ shape.fields, field.required → (Document.lookup field.name entries).isSome := by
  simp [missing?, List.find?_eq_none, Option.isSome_iff_ne_none]

theorem read_object_eq_ok_iff {entries : List (String × Document)} {result : α} :
    shape.read (.object entries) = .ok result ↔
      shape.enterEntries entries shape.blank = .ok result ∧
        ∀ field ∈ shape.fields, field.required →
          (Document.lookup field.name entries).isSome := by
  rw [read, ← missing?_eq_none_iff]
  cases shape.enterEntries entries shape.blank with
  | error e => simp
  | ok record => cases shape.missing? entries <;> simp

/-- A record is read from the values that a document gives for its fields. -/
theorem read_eq_ok_iff (h : shape.Lawful) {document : Document}
    (hkeys : ∀ entries, document = .object entries → (entries.map Prod.fst).Nodup)
    {result : α} :
    shape.read document = .ok result ↔
      ∃ given, document.Gives shape.names 0 given ∧
        fill given shape.fields shape.blank = some result := by
  cases document with
  | object entries =>
    have hfill := fill_entries h (List.Subset.refl _) h.nodup (hkeys entries rfl)
    rw [read_object_eq_ok_iff]
    constructor
    · intro hread
      have hknown := known_of_enterEntries hread.1
      exact ⟨entries, .object hknown, (hfill hknown shape.blank result).2 hread⟩
    · rintro ⟨given, ⟨hknown⟩ | _, hfilled⟩
      exact (hfill hknown shape.blank result).1 hfilled
  | array elements =>
    have hlength : shape.names.length = shape.fields.length := List.length_map _
    rw [read, fill_elements _ h.nodup, ← hlength]
    constructor
    · intro ⟨hfit, hfilled⟩
      exact ⟨_, .array (Nat.zero_le _) hfit, hfilled⟩
    · rintro ⟨given, _ | ⟨-, hfit⟩, hfilled⟩
      exact ⟨hfit, hfilled⟩
  | null | boolean b | number n | text s =>
    refine iff_of_false (by simp [read]) ?_
    rintro ⟨given, ⟨⟩, -⟩

end Shape

end InstallPlan
