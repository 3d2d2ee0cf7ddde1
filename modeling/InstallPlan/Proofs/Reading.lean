import InstallPlan.Loading
import InstallPlan.Proofs.Encoding
import InstallPlan.Proofs.Grammar

/-!
# Reading

The documents that texts are read as, in either format, are ordered (`Document.Ordered`):
entries are put in the ascending order of their keys as they come, and of equal keys one
stays. So the grammar says of every text whether it is a specification, and of what
(`Specification.parse_eq_ok_iff`).
-/

namespace InstallPlan

namespace Document

/-! ## Ascending entries -/

/-- Whether entries stand in the ascending order of their keys, each key once. -/
def Ascending (entries : List (String × Document)) : Prop :=
  entries.Pairwise fun first second => first.1 < second.1

theorem Ascending.nodup {entries : List (String × Document)} (h : Ascending entries) :
    (entries.map Prod.fst).Nodup :=
  List.pairwise_map.2 (h.imp fun hlt => ne_of_lt hlt)

theorem eq_or_mem_of_mem_insertEntry {key : String} {value : Document}
    {entries : List (String × Document)} {entry : String × Document}
    (h : entry ∈ insertEntry key value entries) : entry = (key, value) ∨ entry ∈ entries := by
  induction entries with
  | nil => exact .inl (List.mem_singleton.1 h)
  | cons first rest ih =>
    obtain ⟨k, v⟩ := first
    rw [insertEntry] at h
    split at h
    · exact List.mem_cons.1 h
    · split at h
      · exact (List.mem_cons.1 h).imp_right (List.mem_cons_of_mem _)
      · rcases List.mem_cons.1 h with rfl | hrest
        · exact .inr List.mem_cons_self
        · exact (ih hrest).imp_right (List.mem_cons_of_mem _)

theorem Ascending.insertEntry {entries : List (String × Document)} (h : Ascending entries)
    (key : String) (value : Document) : Ascending (insertEntry key value entries) := by
  induction entries with
  | nil => exact List.pairwise_singleton _ _
  | cons first rest ih =>
    obtain ⟨k, v⟩ := first
    obtain ⟨hfirst, hrest⟩ := List.pairwise_cons.1 h
    rw [Document.insertEntry]
    split
    · rename_i hlt
      refine List.pairwise_cons.2 ⟨List.forall_mem_cons.2 ⟨hlt, ?_⟩, h⟩
      intro entry hmem
      exact lt_trans hlt (hfirst entry hmem)
    · rename_i hnot
      split
      · rename_i heq
        subst heq
        exact List.pairwise_cons.2 ⟨hfirst, hrest⟩
      · rename_i hne
        refine List.pairwise_cons.2 ⟨?_, ih hrest⟩
        intro entry hmem
        rcases eq_or_mem_of_mem_insertEntry hmem with rfl | hmem
        · exact lt_of_le_of_ne (not_lt.1 hnot) (Ne.symm hne)
        · exact hfirst entry hmem

/-- A document whose objects have their entries in the ascending order of the octets of
their keys, each key once. -/
inductive Ordered : Document → Prop
  | null : Ordered .null
  | boolean (b : Bool) : Ordered (.boolean b)
  | number (n : Numeral) : Ordered (.number n)
  | text (s : String) : Ordered (.text s)
  | array {elements : List Document} (elements_ordered : ∀ d ∈ elements, Ordered d) :
      Ordered (.array elements)
  | object {entries : List (String × Document)}
      (ascending : entries.Pairwise fun first second =>
        Utf8.encode first.1 < Utf8.encode second.1)
      (values_ordered : ∀ entry ∈ entries, Ordered entry.2) : Ordered (.object entries)

theorem Ordered.of_object {entries : List (String × Document)} (h : Ordered (.object entries)) :
    (entries.Pairwise fun first second => Utf8.encode first.1 < Utf8.encode second.1) ∧
      ∀ entry ∈ entries, entry.2.Ordered := by
  cases h with
  | object ascending values_ordered => exact ⟨ascending, values_ordered⟩

/-- Ascending keys are distinct. -/
theorem Ordered.wellFormed {document : Document} (h : document.Ordered) :
    document.WellFormed := by
  induction h with
  | null => exact .null
  | boolean b => exact .boolean b
  | number n => exact .number n
  | text s => exact .text s
  | array _ ih => exact .array ih
  | object ascending _ ih =>
    have hascending : Ascending _ := ascending.imp Utf8.encode_lt_encode_iff.1
    exact .object hascending.nodup ih

/-- Entries of an ordered object. -/
structure Orderly (entries : List (String × Document)) : Prop where
  ascending : Ascending entries
  ordered : ∀ entry ∈ entries, entry.2.Ordered

theorem Orderly.nil : Orderly [] := ⟨List.Pairwise.nil, fun _ h => absurd h List.not_mem_nil⟩

theorem Orderly.insertEntry {entries : List (String × Document)} (h : Orderly entries)
    (key : String) {value : Document} (hvalue : value.Ordered) :
    Orderly (insertEntry key value entries) where
  ascending := h.ascending.insertEntry key value
  ordered entry hmem := by
    rcases eq_or_mem_of_mem_insertEntry hmem with rfl | hmem
    · exact hvalue
    · exact h.ordered entry hmem

theorem Orderly.object {entries : List (String × Document)} (h : Orderly entries) :
    (Document.object entries).Ordered :=
  .object (h.ascending.imp Utf8.encode_lt_encode_iff.2) h.ordered

theorem ordered_ofEntries {entries : List (String × Document)}
    (h : ∀ entry ∈ entries, entry.2.Ordered) : (ofEntries entries).Ordered := by
  suffices ∀ sorted, Orderly sorted →
      Orderly (entries.foldl (fun sorted entry => insertEntry entry.1 entry.2 sorted) sorted)
    from
    (this [] .nil).object
  induction entries with
  | nil => exact fun sorted hsorted => hsorted
  | cons first rest ih =>
    obtain ⟨hfirst, hrest⟩ := List.forall_mem_cons.1 h
    exact fun sorted hsorted => ih hrest _ (hsorted.insertEntry first.1 hfirst)

end Document

/-! ## JSON -/

namespace Json

section

variable {depth : Nat}

theorem ordered_readElements
    (hvalue : ∀ c document c', readValue depth c = .ok (document, c') → document.Ordered)
    {steps : Nat} {first : Bool} {c c' : Cursor} {elements : List Document}
    (h : readElements depth steps first c = .ok (elements, c')) :
    ∀ element ∈ elements, element.Ordered := by
  induction steps generalizing first c elements c' with
  | zero =>
    rw [readElements] at h
    cases h
  | succ steps ih =>
    rw [readElements] at h
    obtain ⟨next, -, h⟩ := bind_eq_ok_iff.1 h
    cases next with
    | none =>
      cases h
      exact fun _ hmem => absurd hmem List.not_mem_nil
    | some c =>
      obtain ⟨⟨element, after⟩, helement, h⟩ := bind_eq_ok_iff.1 h
      obtain ⟨⟨more, past⟩, hmore, h⟩ := bind_eq_ok_iff.1 h
      cases h
      exact List.forall_mem_cons.2 ⟨hvalue _ _ _ helement, ih hmore⟩

theorem orderly_readEntries
    (hvalue : ∀ c document c', readValue depth c = .ok (document, c') → document.Ordered)
    {steps : Nat} {first : Bool} {before : List (String × Document)}
    (hbefore : Document.Orderly before) {c c' : Cursor} {entries : List (String × Document)}
    (h : readEntries depth steps first before c = .ok (entries, c')) :
    Document.Orderly entries := by
  induction steps generalizing first before c with
  | zero =>
    rw [readEntries] at h
    cases h
  | succ steps ih =>
    rw [readEntries] at h
    obtain ⟨next, -, h⟩ := bind_eq_ok_iff.1 h
    cases next with
    | none =>
      cases h
      exact hbefore
    | some c =>
      obtain ⟨⟨key, after⟩, -, h⟩ := bind_eq_ok_iff.1 h
      obtain ⟨⟨value, past⟩, hread, h⟩ := bind_eq_ok_iff.1 h
      exact ih (hbefore.insertEntry key (hvalue _ _ _ hread)) h

end

theorem ordered_of_bind {α : Type} {x : Except ReadError α} {value : α → Document}
    {past : α → Cursor} {document : Document} {c' : Cursor}
    (h : (x >>= fun a => pure (value a, past a)) = .ok (document, c'))
    (hvalue : ∀ a, x = .ok a → (value a).Ordered) : document.Ordered := by
  obtain ⟨a, ha, h⟩ := bind_eq_ok_iff.1 h
  cases h
  exact hvalue a ha

/-- One level: what is nested in a value is read at a smaller depth. -/
theorem ordered_readValue_of {depth : Nat}
    (hdepth : ∀ inner, depth = inner + 1 →
      ∀ c document c', readValue inner c = .ok (document, c') → document.Ordered)
    {c c' : Cursor} {document : Document} (h : readValue depth c = .ok (document, c')) :
    document.Ordered := by
  rw [readValue.eq_def] at h
  dsimp only at h
  split at h
  · cases h
  -- by the first octet: three words, numbers with a sign and without, a text
  split at h
  · exact ordered_of_bind h fun _ _ => .null
  split at h
  · exact ordered_of_bind h fun _ _ => .boolean true
  split at h
  · exact ordered_of_bind h fun _ _ => .boolean false
  split at h
  · exact ordered_of_bind h fun read _ => .number read.1
  split at h
  · exact ordered_of_bind h fun read _ => .number read.1
  split at h
  · exact ordered_of_bind h fun read _ => .text read.1
  split at h
  · cases depth with
    | zero => cases h
    | succ inner =>
      exact ordered_of_bind h fun _ helements =>
        .array (ordered_readElements (hdepth inner rfl) helements)
  split at h
  · cases depth with
    | zero => cases h
    | succ inner =>
      exact ordered_of_bind h fun _ hentries =>
        (orderly_readEntries (hdepth inner rfl) .nil hentries).object
  · cases h

theorem ordered_readValue {depth : Nat} {c c' : Cursor} {document : Document}
    (h : readValue depth c = .ok (document, c')) : document.Ordered := by
  induction depth generalizing c c' document with
  | zero =>
    refine ordered_readValue_of ?_ h
    intro inner hinner
    cases hinner
  | succ depth ih =>
    refine ordered_readValue_of ?_ h
    rintro inner ⟨⟩ c document c' hread
    exact ih hread

theorem ordered_read {text : String} {document : Document} (h : read text = .ok document) :
    document.Ordered := by
  obtain ⟨⟨value, c⟩, hvalue, h⟩ := bind_eq_ok_iff.1 h
  dsimp only at h
  split at h
  · cases h
  · cases h
    exact ordered_readValue hvalue

end Json

/-! ## TOML -/

namespace Toml

mutual

theorem ordered_toDocument : ∀ value : Value, value.toDocument.Ordered
  | .text s => .text s
  | .integer _ => .number _
  | .real _ => .number _
  | .notFinite => .null
  | .boolean b => .boolean b
  | .moment s => .object (List.pairwise_singleton _ _) (List.forall_mem_singleton.2 (.text s))
  | .list elements => .array (ordered_listToDocuments elements)
  | .table _ entries => Document.ordered_ofEntries (ordered_entriesToDocuments entries)
  | .tables elements => .array (ordered_tablesToDocuments elements)

theorem ordered_listToDocuments :
    ∀ (values : List Value), ∀ d ∈ listToDocuments values, d.Ordered
  | [] => fun _ h => absurd h List.not_mem_nil
  | value :: rest =>
    List.forall_mem_cons.2 ⟨ordered_toDocument value, ordered_listToDocuments rest⟩

theorem ordered_entriesToDocuments :
    ∀ (entries : List (String × Value)),
      ∀ entry ∈ entriesToDocuments entries, entry.2.Ordered
  | [] => fun _ h => absurd h List.not_mem_nil
  | (_, value) :: rest =>
    List.forall_mem_cons.2 ⟨ordered_toDocument value, ordered_entriesToDocuments rest⟩

theorem ordered_tablesToDocuments :
    ∀ (tables : List (List (String × Value))),
      ∀ d ∈ tablesToDocuments tables, d.Ordered
  | [] => fun _ h => absurd h List.not_mem_nil
  | entries :: rest =>
    List.forall_mem_cons.2
      ⟨Document.ordered_ofEntries (ordered_entriesToDocuments entries),
        ordered_tablesToDocuments rest⟩

end

end Toml

/-! ## Texts -/

namespace Specification

theorem readDocument_toml_eq_ok_iff {content : String} {document : Document} :
    readDocument content .toml = .ok document ↔
      ∃ entries, Toml.read? content = some entries ∧
        (Toml.Value.table .header entries).toDocument = document := by
  rw [← Option.map_eq_some_iff, ← Toml.readDocument?, readDocument]
  cases Toml.readDocument? content <;> simp

theorem ordered_readDocument {content : String} {format : Format} {document : Document}
    (h : readDocument content format = .ok document) : document.Ordered := by
  cases format with
  | json => exact Json.ordered_read (mapError_eq_ok_iff.1 h)
  | toml =>
    obtain ⟨entries, -, rfl⟩ := readDocument_toml_eq_ok_iff.1 h
    exact Toml.ordered_toDocument _

/-- A text is read as a specification exactly if it holds a document that describes it. -/
theorem parse_eq_ok_iff {content : String} {format : Format} {spec : Specification} :
    parse content format = .ok spec ↔
      ∃ document, readDocument content format = .ok document ∧ Describes document spec := by
  cases hread : readDocument content format with
  | error e => simp [parse, hread]
  | ok document =>
    simp only [parse, hread, ofDocument, mapError_eq_ok_iff, Except.ok.injEq, exists_eq_left',
      ← read_eq_ok_iff (ordered_readDocument hread).wellFormed]

end Specification

end InstallPlan
