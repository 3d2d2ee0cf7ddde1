import InstallPlan.Proofs.Reading

/-!
# Faults

What is wrong with a document that has to stand for a record. An object is examined key by
key, in the ascending order of the octets of the keys, and the first key that is unknown or
whose value is rejected is the fault; what is wrong with a value is what is wrong with it on
its own, so the fault may lie deeper. Only an object whose entries are all in order is asked
for what is missing, field by field in the order of declaration
(`Document.Level.FirstFault`). An array is examined element by element
(`Document.Level.FirstMisfit`).

The keys that lead to a fault are its path. What comes behind them, at any level, does not
matter (`Document.Level.FirstFault.congr`).
-/

namespace InstallPlan

namespace Document

/-! ## Faults of a value -/

/-- What is said of a value where a text has to be. -/
def NotText (value : Document) (e : ShapeError) : Prop :=
  (∀ s, value ≠ .text s) ∧ e = .wrongKind value.describe "a string"

/-- What is said of a value where a text or null has to be. -/
def NotTextOrNull (value : Document) (e : ShapeError) : Prop := value ≠ .null ∧ value.NotText e

/-- What is said of a value where a list of texts has to be; in a list, of the first element
that is no text. -/
def NotTexts : Document → ShapeError → Prop
  | .array elements, e =>
    ∃ (texts : List String) (value : Document) (rest : List Document),
      elements = texts.map .text ++ value :: rest ∧ value.NotText e
  | other, e => e = .wrongKind other.describe "a sequence"

section

variable {value : Document} {e : ShapeError}

theorem asText_eq_error_iff : value.asText = .error e ↔ value.NotText e := by
  cases value <;> simp [asText, NotText, eq_comm]

theorem asTextOrNull_eq_error_iff : value.asTextOrNull = .error e ↔ value.NotTextOrNull e := by
  cases value with
  | null => simp [asTextOrNull, NotTextOrNull]
  | _ => simp [asTextOrNull, NotTextOrNull, map_eq_error_iff, asText_eq_error_iff]

theorem mapM_asText_eq_error_iff {elements : List Document} :
    elements.mapM asText = .error e ↔
      ∃ (texts : List String) (value : Document) (rest : List Document),
        elements = texts.map .text ++ value :: rest ∧ value.NotText e := by
  induction elements with
  | nil => simp [pure, Except.pure]
  | cons first more ih =>
    have hmore (s : String) : (more.mapM asText >>= fun texts => pure (s :: texts)) = .error e ↔
        more.mapM asText = .error e := by
      simp [bind_eq_error_iff, pure, Except.pure]
    simp only [List.mapM_cons, bind_eq_error_iff (x := first.asText), hmore, asText_eq_error_iff,
      asText_iff, IsText, ih]
    constructor
    · rintro (hfirst | ⟨s, rfl, texts, value, rest, rfl, hvalue⟩)
      · exact ⟨[], first, more, rfl, hfirst⟩
      · exact ⟨s :: texts, value, rest, rfl, hvalue⟩
    · rintro ⟨texts, value, rest, hsplit, hvalue⟩
      cases texts with
      | nil =>
        obtain ⟨rfl, rfl⟩ := List.cons.inj hsplit
        exact .inl hvalue
      | cons s texts =>
        obtain ⟨rfl, rfl⟩ := List.cons.inj hsplit
        exact .inr ⟨s, rfl, texts, value, rest, rfl, hvalue⟩

theorem asTexts_eq_error_iff : value.asTexts = .error e ↔ value.NotTexts e := by
  cases value with
  | array elements => exact mapM_asText_eq_error_iff
  | _ => simp [asTexts, NotTexts, eq_comm]

end

/-! ## Faults of a record -/

/-- What a document is examined for that stands for a record. -/
structure Level where
  title : String
  /-- The names of the fields, in the order of their declaration, and whether they have to be
  there. -/
  fields : List (String × Bool)
  /-- Whether a value for a field is itself rejected: where in it, and why. -/
  Rejects : String → Document → List String → ShapeError → Prop

namespace Level

/-- The names of the fields. -/
def names (level : Level) : List String := level.fields.map Prod.fst

/-- The names of the fields that have to be there. -/
def required (level : Level) : List String := (level.fields.filter (·.2)).map Prod.fst

/-- What a record is called. -/
def expectation (level : Level) : String := s!"struct {level.title}"

/-- Whether nothing is wrong with an entry. -/
def Accepts (level : Level) (entry : String × Document) : Prop :=
  entry.1 ∈ level.names ∧ ∀ path e, ¬ level.Rejects entry.1 entry.2 path e

/-- Whether nothing is wrong with the entries whose keys come before a key. -/
def AcceptsBefore (level : Level) (key : String) (entries : List (String × Document)) : Prop :=
  ∀ entry ∈ entries, Utf8.encode entry.1 < Utf8.encode key → level.Accepts entry

/-- The fault that is reported of an object, and the keys that lead to it. -/
inductive FirstFault (level : Level) (entries : List (String × Document)) :
    List String → ShapeError → Prop
  | unknown {key : String} {value : Document} (present : (key, value) ∈ entries)
      (first : level.AcceptsBefore key entries) (unknown : key ∉ level.names) :
      FirstFault level entries [key] (.unknownField key level.names)
  | rejected {key : String} {value : Document} {path : List String} {e : ShapeError}
      (present : (key, value) ∈ entries) (first : level.AcceptsBefore key entries)
      (known : key ∈ level.names) (rejected : level.Rejects key value path e) :
      FirstFault level entries (key :: path) e
  | missing {key : String} (accepted : ∀ entry ∈ entries, level.Accepts entry)
      (first : level.required.find? (fun name => name ∉ entries.map Prod.fst) = some key) :
      FirstFault level entries [] (.missingField key)

/-- The fault that is reported of an array from a position on, with the fields that are left
and the elements that are left for them. -/
inductive FirstMisfit (level : Level) :
    Nat → List (String × Bool) → List Document → ShapeError → Prop
  | rejected {index : Nat} {field : String × Bool} {fields : List (String × Bool)}
      {value : Document} {rest : List Document} {path : List String} {e : ShapeError}
      (rejected : level.Rejects field.1 value path e) :
      FirstMisfit level index (field :: fields) (value :: rest) e
  | accepted {index : Nat} {field : String × Bool} {fields : List (String × Bool)}
      {value : Document} {rest : List Document} {e : ShapeError}
      (accepted : ∀ path e, ¬ level.Rejects field.1 value path e)
      (later : FirstMisfit level (index + 1) fields rest e) :
      FirstMisfit level index (field :: fields) (value :: rest) e
  | missing {index : Nat} {name : String} {fields : List (String × Bool)} :
      FirstMisfit level index ((name, true) :: fields) []
        (.wrongLength index s!"{level.expectation} with {level.fields.length} elements")
  | leftOut {index : Nat} {name : String} {fields : List (String × Bool)} {e : ShapeError}
      (later : FirstMisfit level (index + 1) fields [] e) :
      FirstMisfit level index ((name, false) :: fields) [] e
  | leftOver {index : Nat} {value : Document} {rest : List Document} :
      FirstMisfit level index [] (value :: rest)
        (.wrongLength (index + (rest.length + 1)) "fewer elements in array")

theorem firstMisfit_cons_iff {level : Level} {index : Nat} {field : String × Bool}
    {fields : List (String × Bool)} {value : Document} {rest : List Document} {e : ShapeError} :
    level.FirstMisfit index (field :: fields) (value :: rest) e ↔
      (∃ path, level.Rejects field.1 value path e) ∨
        (∀ path e, ¬ level.Rejects field.1 value path e) ∧
          level.FirstMisfit (index + 1) fields rest e := by
  constructor
  · intro h
    cases h with
    | rejected rejected => exact .inl ⟨_, rejected⟩
    | accepted accepted later => exact .inr ⟨accepted, later⟩
  · rintro (⟨path, rejected⟩ | ⟨accepted, later⟩)
    · exact .rejected rejected
    · exact .accepted accepted later

/-- What is wrong with a document, and the keys that lead to it. -/
def Faulty (level : Level) : Document → List String → ShapeError → Prop
  | .object entries, path, e => level.FirstFault entries path e
  | .array elements, path, e => path = [] ∧ level.FirstMisfit 0 level.fields elements e
  | other, path, e => path = [] ∧ e = .wrongKind other.describe level.expectation

end Level

/-! ## What comes behind a fault -/

/-- A document without what comes behind a path: at each level that the keys lead through,
the entries with greater keys are left out. -/
def upTo : List String → Document → Document
  | key :: path, .object entries =>
    .object ((entries.filter fun entry => ¬ Utf8.encode key < Utf8.encode entry.1).map
      fun entry => (entry.1, if entry.1 = key then upTo path entry.2 else entry.2))
  | _, other => other

@[simp] theorem upTo_nil (document : Document) : upTo [] document = document := by
  cases document <;> rfl

theorem upTo_cons_object_inj {key : String} {path : List String}
    {entries entries' : List (String × Document)}
    (h : upTo (key :: path) (.object entries') = upTo (key :: path) (.object entries))
    {name : String} {value : Document} (hle : ¬ Utf8.encode key < Utf8.encode name)
    (hmem : (name, value) ∈ entries) :
    ∃ value', (name, value') ∈ entries' ∧
      (if name = key then upTo path value' else value') =
        if name = key then upTo path value else value := by
  simp only [upTo, Document.object.injEq] at h
  have hfilter : (name, value) ∈
      entries.filter fun entry => ¬ Utf8.encode key < Utf8.encode entry.1 :=
    List.mem_filter.2 ⟨hmem, by simpa using hle⟩
  have hkept := List.mem_map_of_mem
    (f := fun entry => (entry.1, if entry.1 = key then upTo path entry.2 else entry.2)) hfilter
  rw [← h, List.mem_map] at hkept
  obtain ⟨⟨name', value'⟩, hentry, hsame⟩ := hkept
  obtain ⟨rfl, hvalue⟩ := Prod.mk.inj hsame
  exact ⟨value', (List.mem_filter.1 hentry).1, hvalue⟩

namespace Level

variable {level : Level} {entries entries' : List (String × Document)} {key : String}
  {path : List String} {e : ShapeError}

theorem AcceptsBefore.congr
    (hsame : upTo (key :: path) (.object entries') = upTo (key :: path) (.object entries))
    (h : level.AcceptsBefore key entries) : level.AcceptsBefore key entries' := by
  rintro ⟨name, value⟩ hmem hlt
  have hne : name ≠ key := by
    rintro rfl
    exact List.lt_irrefl _ hlt
  obtain ⟨value', hmem', hvalue⟩ := upTo_cons_object_inj hsame.symm (List.lt_asymm hlt) hmem
  rw [if_neg hne, if_neg hne] at hvalue
  exact hvalue ▸ h _ hmem' hlt

/-- What comes behind a fault does not matter. -/
theorem FirstFault.congr (h : level.FirstFault entries path e)
    (hrejects : ∀ {key value value' path e}, level.Rejects key value path e →
      upTo path value' = upTo path value → level.Rejects key value' path e)
    (hsame : upTo path (.object entries') = upTo path (.object entries)) :
    level.FirstFault entries' path e := by
  cases h with
  | unknown present first unknown =>
    obtain ⟨value', present', -⟩ := upTo_cons_object_inj hsame (List.lt_irrefl _) present
    exact .unknown present' (first.congr hsame) unknown
  | rejected present first known rejected =>
    obtain ⟨value', present', hvalue⟩ := upTo_cons_object_inj hsame (List.lt_irrefl _) present
    rw [if_pos rfl, if_pos rfl] at hvalue
    exact .rejected present' (first.congr hsame) known (hrejects rejected hvalue)
  | missing accepted first =>
    rw [upTo_nil, upTo_nil, Document.object.injEq] at hsame
    exact hsame ▸ .missing accepted first

theorem Faulty.congr {document document' : Document} (h : level.Faulty document path e)
    (hrejects : ∀ {key value value' path e}, level.Rejects key value path e →
      upTo path value' = upTo path value → level.Rejects key value' path e)
    (hsame : upTo path document' = upTo path document) :
    level.Faulty document' path e := by
  cases path with
  | nil =>
    rw [upTo_nil, upTo_nil] at hsame
    exact hsame ▸ h
  | cons key path =>
    cases document with
    | object entries =>
      cases document' with
      | object entries' => exact FirstFault.congr h hrejects hsame
      | _ => simp [upTo] at hsame
    | _ => exact absurd h.1 (List.cons_ne_nil key path)

/-- Values that have no fields of their own are rejected as a whole. -/
theorem Faulty.congr_of_leaves {document document' : Document}
    (h : level.Faulty document path e)
    (hleaves : ∀ {key value path e}, level.Rejects key value path e → path = [])
    (hsame : upTo path document' = upTo path document) :
    level.Faulty document' path e := by
  refine h.congr ?_ hsame
  intro key value value' path e hrejects hvalue
  obtain rfl := hleaves hrejects
  rw [upTo_nil, upTo_nil] at hvalue
  exact hvalue ▸ hrejects

end Level

end Document

end InstallPlan
