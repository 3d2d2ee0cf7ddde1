import InstallPlan.Document.Toml.Reading
import Mathlib.Data.List.Nodup

/-!
# Tables

No table of a TOML text has a key twice (`Toml.distinct_of_read?`). A statement adds an entry
only where there is none of its key, and puts a changed table in the place of the old one.
That holds of each change that a statement makes (`Toml.Keeps`), of the tables in braces, and
so of a whole text, statement by statement.
-/

namespace InstallPlan

namespace Toml

/-- A value whose tables have each key once. -/
inductive Value.Distinct : Value → Prop
  | text (s : String) : Distinct (.text s)
  | integer (n : Int) : Distinct (.integer n)
  | real (x : Binary64) : Distinct (.real x)
  | notFinite : Distinct .notFinite
  | boolean (b : Bool) : Distinct (.boolean b)
  | moment (s : String) : Distinct (.moment s)
  | list {elements : List Value} (distinct : ∀ value ∈ elements, Distinct value) :
      Distinct (.list elements)
  | table {origin : Origin} {entries : Entries} (nodup : (entries.map Prod.fst).Nodup)
      (distinct : ∀ entry ∈ entries, Distinct entry.2) : Distinct (.table origin entries)
  | tables {elements : List Entries}
      (nodup : ∀ entries ∈ elements, (entries.map Prod.fst).Nodup)
      (distinct : ∀ entries ∈ elements, ∀ entry ∈ entries, Distinct entry.2) :
      Distinct (.tables elements)

/-- Entries with each key once, in the tables among them, too. -/
structure Distinct (entries : Entries) : Prop where
  nodup : (entries.map Prod.fst).Nodup
  values : ∀ entry ∈ entries, entry.2.Distinct

theorem Distinct.nil : Distinct [] := ⟨List.nodup_nil, fun _ h => absurd h List.not_mem_nil⟩

theorem distinct_table_iff {origin : Origin} {entries : Entries} :
    (Value.table origin entries).Distinct ↔ Distinct entries := by
  constructor
  · rintro (_ | _)
    exact ⟨‹_›, ‹_›⟩
  · exact fun h => .table h.nodup h.values

theorem distinct_tables_iff {elements : List Entries} :
    (Value.tables elements).Distinct ↔ ∀ entries ∈ elements, Distinct entries := by
  constructor
  · rintro (_ | _)
    rename_i nodup distinct
    exact fun entries hmem => ⟨nodup entries hmem, distinct entries hmem⟩
  · exact fun h => .tables (fun entries hmem => (h entries hmem).nodup)
      fun entries hmem => (h entries hmem).values

/-! ## Entries by their keys -/

section

variable {key : String} {value : Value} {entries : Entries}

theorem find_eq_none_iff : find key entries = none ↔ key ∉ entries.map Prod.fst := by
  rw [find, Option.map_eq_none_iff, List.find?_eq_none, List.mem_map]
  simp only [decide_eq_true_eq, not_exists, not_and]

theorem mem_of_find (h : find key entries = some value) : (key, value) ∈ entries := by
  obtain ⟨⟨k, v⟩, hfind, rfl⟩ := Option.map_eq_some_iff.1 h
  have hkey : k = key := by simpa using List.find?_some hfind
  exact hkey ▸ List.mem_of_find?_eq_some hfind

theorem Distinct.of_find (h : Distinct entries) (hfind : find key entries = some value) :
    value.Distinct :=
  h.values _ (mem_of_find hfind)

theorem Distinct.unique (h : Distinct entries) {other : Value} (hmem : (key, value) ∈ entries)
    (hother : (key, other) ∈ entries) : value = other :=
  congrArg Prod.snd (List.inj_on_of_nodup_map h.nodup hmem hother rfl)

theorem map_fst_put (h : key ∈ entries.map Prod.fst) :
    (put key value entries).map Prod.fst = entries.map Prod.fst := by
  induction entries with
  | nil => cases h
  | cons first rest ih =>
    obtain ⟨k, v⟩ := first
    rw [put]
    split
    · rename_i hkey
      rw [List.map_cons, List.map_cons, hkey]
    · rename_i hkey
      rw [List.map_cons, List.map_cons, ih ((List.mem_cons.1 h).resolve_left (Ne.symm hkey))]

theorem eq_or_mem_of_mem_put {entry : String × Value} (h : entry ∈ put key value entries) :
    entry = (key, value) ∨ entry ∈ entries := by
  induction entries with
  | nil => exact .inl (List.mem_singleton.1 h)
  | cons first rest ih =>
    obtain ⟨k, v⟩ := first
    rw [put] at h
    split at h
    · exact (List.mem_cons.1 h).imp_right (List.mem_cons_of_mem _)
    · rcases List.mem_cons.1 h with rfl | hrest
      · exact .inr List.mem_cons_self
      · exact (ih hrest).imp_right (List.mem_cons_of_mem _)

/-- An entry may be added where there is none of its key. -/
theorem Distinct.concat (h : Distinct entries) (hfind : find key entries = none)
    (hvalue : value.Distinct) : Distinct (entries ++ [(key, value)]) where
  nodup := by
    rw [List.map_append, List.map_singleton, ← List.concat_eq_append]
    exact h.nodup.concat (find_eq_none_iff.1 hfind)
  values := List.forall_mem_append.2 ⟨h.values, List.forall_mem_singleton.2 hvalue⟩

/-- A value may be put in the place of another one. -/
theorem Distinct.put (h : Distinct entries) {old : Value} (hfind : find key entries = some old)
    (hvalue : value.Distinct) : Distinct (put key value entries) where
  nodup := by
    rw [map_fst_put (List.mem_map_of_mem (mem_of_find hfind))]
    exact h.nodup
  values entry hmem := by
    rcases eq_or_mem_of_mem_put hmem with rfl | hmem
    · exact hvalue
    · exact h.values entry hmem

end

/-! ## Changes of tables -/

/-- Whether a change leaves each key once. -/
def Keeps (change : Entries → Option Entries) : Prop :=
  ∀ entries result, Distinct entries → change entries = some result → Distinct result

theorem Keeps.changeLast {change : Entries → Option Entries} (h : Keeps change)
    {elements result : List Entries} (helements : ∀ entries ∈ elements, Distinct entries)
    (hchange : changeLast change elements = some result) :
    ∀ entries ∈ result, Distinct entries := by
  induction elements generalizing result with
  | nil => cases hchange
  | cons first rest ih =>
    obtain ⟨hfirst, hrest⟩ := List.forall_mem_cons.1 helements
    cases rest with
    | nil =>
      obtain ⟨entries, hentries, rfl⟩ := Option.map_eq_some_iff.1 hchange
      exact List.forall_mem_singleton.2 (h first entries hfirst hentries)
    | cons second more =>
      obtain ⟨changed, hchanged, rfl⟩ := Option.map_eq_some_iff.1 hchange
      exact List.forall_mem_cons.2 ⟨hfirst, ih hrest hchanged⟩

theorem keeps_addBelow (path : List String) (key : String) {value : Value}
    (hvalue : value.Distinct) : Keeps (addBelow path key value) := by
  induction path with
  | nil =>
    intro entries result hentries h
    rw [addBelow] at h
    split at h
    · cases h
    · rename_i hnone
      cases h
      exact hentries.concat (by simpa using hnone) hvalue
  | cons step path ih =>
    intro entries result hentries h
    rw [addBelow] at h
    split at h
    · rename_i hfind
      obtain ⟨inner, hinner, rfl⟩ := Option.map_eq_some_iff.1 h
      exact hentries.concat hfind (distinct_table_iff.2 (ih [] inner .nil hinner))
    · rename_i origin inner hfind
      split at h
      · obtain ⟨changed, hchanged, rfl⟩ := Option.map_eq_some_iff.1 h
        have hinner := distinct_table_iff.1 (hentries.of_find hfind)
        exact hentries.put hfind (distinct_table_iff.2 (ih inner changed hinner hchanged))
      · cases h
    · rename_i elements hfind
      split at h
      · cases h
      · obtain ⟨changed, hchanged, rfl⟩ := Option.map_eq_some_iff.1 h
        have helements := distinct_tables_iff.1 (hentries.of_find hfind)
        exact hentries.put hfind (distinct_tables_iff.2 (Keeps.changeLast ih helements hchanged))
    · cases h

theorem Keeps.changeAt {change : Entries → Option Entries} (h : Keeps change)
    (path : List String) : Keeps (changeAt change path) := by
  induction path with
  | nil => exact h
  | cons step path ih =>
    intro entries result hentries hchange
    rw [Toml.changeAt] at hchange
    split at hchange
    · rename_i hfind
      obtain ⟨inner, hinner, rfl⟩ := Option.map_eq_some_iff.1 hchange
      exact hentries.concat hfind (distinct_table_iff.2 (ih [] inner .nil hinner))
    · cases hchange
    · rename_i origin inner _ hfind
      obtain ⟨changed, hchanged, rfl⟩ := Option.map_eq_some_iff.1 hchange
      have hinner := distinct_table_iff.1 (hentries.of_find hfind)
      exact hentries.put hfind (distinct_table_iff.2 (ih inner changed hinner hchanged))
    · rename_i elements hfind
      obtain ⟨changed, hchanged, rfl⟩ := Option.map_eq_some_iff.1 hchange
      have helements := distinct_tables_iff.1 (hentries.of_find hfind)
      exact hentries.put hfind (distinct_tables_iff.2 (Keeps.changeLast ih helements hchanged))
    · cases hchange

theorem keeps_openTable (key : String) : Keeps (openTable key) := by
  intro entries result hentries h
  rw [openTable] at h
  split at h
  · rename_i hfind
    cases h
    exact hentries.concat hfind (distinct_table_iff.2 .nil)
  · rename_i inner hfind
    cases h
    exact hentries.put hfind (distinct_table_iff.2 (distinct_table_iff.1 (hentries.of_find hfind)))
  · cases h

theorem keeps_openRepeated (key : String) : Keeps (openRepeated key) := by
  intro entries result hentries h
  rw [openRepeated] at h
  split at h
  · rename_i hfind
    cases h
    exact hentries.concat hfind (distinct_tables_iff.2 (List.forall_mem_singleton.2 .nil))
  · rename_i elements hfind
    cases h
    have helements := distinct_tables_iff.1 (hentries.of_find hfind)
    refine hentries.put hfind (distinct_tables_iff.2 ?_)
    exact List.forall_mem_append.2 ⟨helements, List.forall_mem_singleton.2 .nil⟩
  · cases h

/-! ## Values that are read -/

theorem distinct_of_integer? {text : List Char} {value : Value} (h : integer? text = some value) :
    value.Distinct := by
  have hbounded : ∀ n, boundedInteger n = some value → value.Distinct := by
    intro n hn
    rw [boundedInteger] at hn
    split at hn
    · cases hn
      exact .integer n
    · cases hn
  unfold integer? at h
  split at h <;> obtain ⟨digits, -, h⟩ := Option.bind_eq_some_iff.1 h <;> exact hbounded _ h

theorem distinct_of_real? {text : List Char} {value : Value} (h : real? text = some value) :
    value.Distinct := by
  unfold real? at h
  dsimp only at h
  split at h
  · cases h
    exact .notFinite
  obtain ⟨whole, -, h⟩ := Option.bind_eq_some_iff.1 h
  have hfinite : ∀ fraction : List Nat, ∀ exponent : Option Int,
      (exponent.bind fun exponent =>
        (nearest? (whole ++ fraction) (exponent - fraction.length)).bind fun x =>
          some (.real (x.withSign (splitSign text).1))) = some value → value.Distinct := by
    intro fraction exponent h
    obtain ⟨_, -, h⟩ := Option.bind_eq_some_iff.1 h
    obtain ⟨x, -, h⟩ := Option.bind_eq_some_iff.1 h
    cases h
    exact .real _
  -- with a fraction and without one, then the same of the exponent
  split at h <;> obtain ⟨fraction, -, h⟩ := Option.bind_eq_some_iff.1 h <;> split at h
  · split at h <;> exact hfinite fraction _ h
  · exact hfinite fraction _ h
  · split at h <;> exact hfinite fraction _ h
  · exact hfinite fraction _ h

theorem distinct_of_scalar? {word : List Char} {value : Value} (h : scalar? word = some value) :
    value.Distinct := by
  rw [scalar?] at h
  split_ifs at h
  · cases h
    exact .boolean true
  · cases h
    exact .boolean false
  · cases h
    exact .moment _
  · rcases Option.or_eq_some_iff.1 h with h | ⟨-, h⟩
    · exact distinct_of_integer? h
    · exact distinct_of_real? h

theorem distinct_of_readWord {cs rest : List Char} {value : Value}
    (h : readWord cs = some (value, rest)) : value.Distinct := by
  have hmap : ∀ word past, (scalar? word).map (·, past) = some (value, rest) → value.Distinct := by
    intro word past h
    obtain ⟨found, hfound, h⟩ := Option.map_eq_some_iff.1 h
    cases h
    exact distinct_of_scalar? hfound
  unfold readWord at h
  dsimp only at h
  split at h
  · split at h <;> exact hmap _ _ h
  · exact hmap _ _ h

/-- What is read in so many steps has each key once. -/
structure ReadsDistinct (steps : Nat) : Prop where
  value : ∀ {depth cs value rest},
    readValue steps depth cs = some (value, rest) → value.Distinct
  elements : ∀ {depth cs elements rest},
    readElements steps depth cs = some (elements, rest) → ∀ value ∈ elements, value.Distinct
  inline : ∀ {depth entries cs result rest}, Distinct entries →
    readInline steps depth entries cs = some (result, rest) → Distinct result
  entry : ∀ {depth entries cs result rest}, Distinct entries →
    readEntry steps depth entries cs = some (result, rest) → Distinct result

namespace ReadsDistinct

variable {steps depth : Nat} {cs rest : List Char}

theorem readValue_succ (ih : ReadsDistinct steps) {value : Value}
    (h : readValue (steps + 1) depth cs = some (value, rest)) : value.Distinct := by
  rw [readValue.eq_def] at h
  dsimp only at h
  split at h
  · obtain ⟨read, hread, h⟩ := Option.map_eq_some_iff.1 h
    cases h
    exact .list (ih.elements hread)
  · obtain ⟨read, hread, h⟩ := Option.map_eq_some_iff.1 h
    cases h
    exact distinct_table_iff.2 (ih.inline .nil hread)
  · obtain ⟨read, -, h⟩ := Option.map_eq_some_iff.1 h
    cases h
    exact .text _
  · obtain ⟨read, -, h⟩ := Option.map_eq_some_iff.1 h
    cases h
    exact .text _
  · exact distinct_of_readWord h

theorem readElements_succ (ih : ReadsDistinct steps) {elements : List Value}
    (h : readElements (steps + 1) depth cs = some (elements, rest)) :
    ∀ value ∈ elements, value.Distinct := by
  rw [readElements.eq_def] at h
  dsimp only at h
  split at h
  · cases h
  · cases h
    exact fun _ hmem => absurd hmem List.not_mem_nil
  · rename_i hsteps _
    cases hsteps
    split at h
    · cases h
    · rename_i first after hfirst
      split at h
      · obtain ⟨more, hmore, h⟩ := Option.map_eq_some_iff.1 h
        cases h
        exact List.forall_mem_cons.2 ⟨ih.value hfirst, ih.elements hmore⟩
      · cases h
        exact List.forall_mem_singleton.2 (ih.value hfirst)
      · cases h

theorem readInline_succ (ih : ReadsDistinct steps) {entries result : Entries}
    (hentries : Distinct entries)
    (h : readInline (steps + 1) depth entries cs = some (result, rest)) : Distinct result := by
  rw [readInline.eq_def] at h
  split at h
  · cases h
  · cases h
    exact hentries
  · rename_i hsteps _
    cases hsteps
    split at h
    · cases h
    · rename_i more after hentry
      have hmore := ih.entry hentries hentry
      split at h
      · exact ih.inline hmore h
      · cases h
        exact hmore
      · cases h

theorem readEntry_succ (ih : ReadsDistinct steps) {entries result : Entries}
    (hentries : Distinct entries)
    (h : readEntry (steps + 1) depth entries cs = some (result, rest)) : Distinct result := by
  rw [readEntry.eq_def] at h
  dsimp only at h
  split at h
  · split at h
    · cases h
    · rename_i value after hvalue
      obtain ⟨added, hadded, h⟩ := Option.map_eq_some_iff.1 h
      cases h
      exact keeps_addBelow _ _ (ih.value hvalue) _ _ hentries hadded
  · cases h

end ReadsDistinct

theorem readsDistinct (steps : Nat) : ReadsDistinct steps := by
  induction steps with
  | zero =>
    constructor
    · intro depth cs value rest h
      rw [readValue] at h
      cases h
    · intro depth cs elements rest h
      rw [readElements] at h
      cases h
    · intro depth entries cs result rest _ h
      rw [readInline] at h
      cases h
    · intro depth entries cs result rest _ h
      rw [readEntry] at h
      cases h
  | succ steps ih =>
    exact ⟨ih.readValue_succ, ih.readElements_succ, ih.readInline_succ, ih.readEntry_succ⟩

/-! ## Statements -/

/-- Whether the value of a statement has each key once; a header has none. -/
def Statement.Distinct : Statement → Prop
  | .entry _ _ value => value.Distinct
  | .header _ _ | .repeated _ _ => True

theorem distinct_of_readStatement {cs rest : List Char} {statement : Statement}
    (h : readStatement cs = some (statement, rest)) : statement.Distinct := by
  unfold readStatement at h
  split at h
  · split at h
    · cases h
      trivial
    · cases h
  · split at h
    · cases h
      trivial
    · cases h
  · split at h
    · obtain ⟨read, hread, h⟩ := Option.map_eq_some_iff.1 h
      cases h
      exact (readsDistinct _).value hread
    · cases h

theorem Draft.distinct_of_extend {draft draft' : Draft} {statement : Statement}
    (hdraft : Distinct draft.root) (hstatement : statement.Distinct)
    (h : draft.extend statement = some draft') : Distinct draft'.root := by
  cases statement with
  | entry path key value =>
    obtain ⟨root, hroot, rfl⟩ := Option.map_eq_some_iff.1 h
    exact (keeps_addBelow path key hstatement).changeAt draft.header _ _ hdraft hroot
  | header path key =>
    obtain ⟨root, hroot, rfl⟩ := Option.map_eq_some_iff.1 h
    exact (keeps_openTable key).changeAt path _ _ hdraft hroot
  | repeated path key =>
    obtain ⟨root, hroot, rfl⟩ := Option.map_eq_some_iff.1 h
    exact (keeps_openRepeated key).changeAt path _ _ hdraft hroot

theorem distinct_of_readStatements {steps : Nat} {draft : Draft} {cs : List Char}
    {entries : Entries} (hdraft : Distinct draft.root)
    (h : readStatements steps draft cs = some entries) : Distinct entries := by
  induction steps generalizing draft cs with
  | zero => cases h
  | succ steps ih =>
    rw [readStatements] at h
    split at h
    · cases h
      exact hdraft
    · split at h
      · cases h
      · rename_i statement rest hread
        split at h
        · rename_i draft' rest' hextend hrest
          exact ih (Draft.distinct_of_extend hdraft (distinct_of_readStatement hread) hextend) h
        · cases h

/-- The tables of a text have each key once. -/
theorem distinct_of_read? {text : String} {entries : Entries} (h : read? text = some entries) :
    Distinct entries :=
  distinct_of_readStatements .nil h

end Toml

end InstallPlan
