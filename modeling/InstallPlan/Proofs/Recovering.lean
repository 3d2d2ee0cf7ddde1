import InstallPlan.Proofs.Closing

/-!
# Recovering

What the configuration file says of the initial ramdisk that it was made from. Each value
stands in a row of its own, between the name it is assigned to and a closing character, so
the file has six rows exactly if no value has a line feed (`Initrd.length_rows_configuration_iff`),
and then the values can be taken out of their rows again (`Initrd.values?_configuration`).

A value that was put together from words gives them back exactly if none of them is empty
or has a space (`spacedWords_intercalate_iff`). So there is a reader of configuration files
that finds the initial ramdisk again exactly if it can be told from all others.
-/

namespace InstallPlan

/-! ## One row for each text -/

theorem length_rows (text : String) : (rows text).length = text.toList.count '\n' + 1 := by
  rw [rows, List.length_map]
  induction text.toList with
  | nil => rfl
  | cons c rest ih =>
    rw [List.splitOn_cons_eq_if_modifyHead]
    by_cases hc : c = '\n'
    · simp [hc, ih]
    · simp [hc, ih]

theorem length_rows_eq_one_iff {text : String} :
    (rows text).length = 1 ↔ '\n' ∉ text.toList := by
  rw [length_rows, Nat.add_eq_right, List.count_eq_zero]

/-- Texts that are put together have at least one row each, and no more rows than that
exactly if none of them has a line feed. -/
theorem length_rows_intercalate {texts : List String} (h : texts ≠ []) :
    texts.length ≤ (rows ("\n".intercalate texts)).length ∧
      ((rows ("\n".intercalate texts)).length = texts.length ↔
        ∀ text ∈ texts, '\n' ∉ text.toList) := by
  induction texts with
  | nil => exact absurd rfl h
  | cons text more ih =>
    have hone : 1 ≤ (rows text).length := List.length_pos_of_ne_nil (rows_ne_nil text)
    rw [List.forall_mem_cons, ← length_rows_eq_one_iff, List.length_cons]
    by_cases hmore : more = []
    · simp [hmore, hone]
    · obtain ⟨hle, hiff⟩ := ih hmore
      rw [String.intercalate_cons_of_ne_nil hmore, rows_append_break, List.length_append, ← hiff]
      omega

theorem rows_intercalate_eq {texts : List String} (h : texts ≠ [])
    (htexts : ∀ text ∈ texts, '\n' ∉ text.toList) : rows ("\n".intercalate texts) = texts := by
  rw [rows_intercalate h]
  exact flatMap_eq_self fun text htext => rows_eq_singleton (htexts text htext)

theorem mem_toList_intercalate_iff {c : Char} (hc : c ≠ ' ') {words : List String} :
    c ∈ (" ".intercalate words).toList ↔ ∃ word ∈ words, c ∈ word.toList := by
  have hspace : c ∉ (" " : String).toList := by simpa using hc
  induction words with
  | nil => simp
  | cons word more ih =>
    by_cases hmore : more = []
    · simp [hmore]
    · rw [String.intercalate_cons_of_ne_nil hmore, String.toList_append, String.toList_append,
        List.mem_append, List.mem_append, or_iff_left hspace, List.exists_mem_cons_iff]
      exact or_congr_right ih

/-! ## Values in surroundings -/

/-- A value between two texts. -/
def surround (around : String × String) (value : String) : String :=
  around.1 ++ value ++ around.2

/-- What stands between two texts, when a text begins with the one and ends with the other. -/
def between? (around : String × String) (text : String) : Option String :=
  (text.toList.dropPrefix? around.1.toList).bind fun rest =>
    (rest.dropSuffix? around.2.toList).map String.ofList

theorem between?_surround (around : String × String) (value : String) :
    between? around (surround around value) = some value := by
  have hsuffix :
      (value.toList ++ around.2.toList).dropSuffix? around.2.toList = some value.toList :=
    List.dropSuffix?_eq_some_iff.2 ⟨around.2.toList, rfl, beq_self_eq_true _⟩
  rw [between?, surround, String.toList_append, String.toList_append, List.append_assoc,
    List.dropPrefix?_append_of_beq _ (beq_self_eq_true _), Option.bind_some, hsuffix,
    Option.map_some, String.ofList_toList]

section

variable {surroundings : List (String × String)} {values : List String}
  (hlength : surroundings.length = values.length)

include hlength

theorem mapM_between?_surround :
    (surroundings.zip (surroundings.zipWith surround values)).mapM
      (fun (around, text) => between? around text) = some values := by
  induction surroundings generalizing values with
  | nil =>
    rw [List.length_eq_zero_iff.1 hlength.symm]
    rfl
  | cons around more ih =>
    cases values with
    | nil => cases hlength
    | cons value rest =>
      simp [between?_surround, ih (Nat.succ.inj hlength)]

/-- Surroundings without line feeds neither hide a line feed nor add one. -/
theorem forall_notMem_surround_iff
    (h : ∀ around ∈ surroundings, '\n' ∉ around.1.toList ∧ '\n' ∉ around.2.toList) :
    (∀ text ∈ surroundings.zipWith surround values, '\n' ∉ text.toList) ↔
      ∀ value ∈ values, '\n' ∉ value.toList := by
  induction surroundings generalizing values with
  | nil =>
    rw [List.length_eq_zero_iff.1 hlength.symm]
    rfl
  | cons around more ih =>
    cases values with
    | nil => cases hlength
    | cons value rest =>
      rw [List.forall_mem_cons] at h
      have hvalue : '\n' ∉ (surround around value).toList ↔ '\n' ∉ value.toList := by
        simp [surround, h.1]
      rw [List.zipWith_cons_cons, List.forall_mem_cons, List.forall_mem_cons, hvalue,
        ih (Nat.succ.inj hlength) h.2]

end

/-! ## Values of several words -/

/-- The words of a text between its spaces. -/
def spacedWords (text : String) : List String :=
  ((text.toList.splitOn ' ').map String.ofList).filter (· ≠ "")

theorem spacedWords_intercalate_iff {words : List String} :
    spacedWords (" ".intercalate words) = words ↔
      ∀ word ∈ words, word ≠ "" ∧ ' ' ∉ word.toList := by
  constructor
  · intro h word hword
    rw [← h, spacedWords, List.mem_filter] at hword
    obtain ⟨hpiece, hne⟩ := hword
    obtain ⟨chars, hchars, rfl⟩ := List.mem_map.1 hpiece
    refine ⟨of_decide_eq_true hne, fun hspace => ?_⟩
    rw [List.splitOn_eq_splitOnP] at hchars
    rw [String.toList_ofList] at hspace
    exact absurd (eq_false_of_mem_splitOnP hchars ' ' hspace) (by decide)
  · intro h
    by_cases hwords : words = []
    · rw [hwords]
      rfl
    · have hspace : (" " : String).toList = [' '] := rfl
      have hpieces : ∀ piece ∈ words.map String.toList, ' ' ∉ piece := by
        intro piece hpiece
        obtain ⟨word, hword, rfl⟩ := List.mem_map.1 hpiece
        exact (h word hword).2
      rw [spacedWords, String.toList_intercalate, hspace,
        List.splitOn_intercalate ' ' hpieces (by simpa using hwords), List.map_map,
        List.filter_eq_self.2]
      · simp [Function.comp_def]
      · simpa [Function.comp_def] using fun word hword => (h word hword).1

namespace Initrd

/-! ## The values of a configuration file -/

/-- The words of all lists. -/
def elements (initrd : Initrd) : List String :=
  initrd.modules ++ initrd.binaries ++ initrd.files ++ initrd.hooks ++ initrd.compressionOptions

/-- Whether no text of an initial ramdisk has a line feed. -/
structure IsUnbroken (initrd : Initrd) : Prop where
  elements : ∀ word ∈ initrd.elements, '\n' ∉ word.toList
  compression : '\n' ∉ initrd.compression.toList

theorem isUnbroken_iff_values (initrd : Initrd) :
    initrd.IsUnbroken ↔ ∀ value ∈ initrd.values, '\n' ∉ value.toList := by
  have hlist (words : List String) : '\n' ∉ (" ".intercalate words).toList ↔
      ∀ word ∈ words, '\n' ∉ word.toList := by
    rw [mem_toList_intercalate_iff (by decide)]
    push Not
    rfl
  constructor
  · rintro ⟨helements, hcompression⟩
    simp only [elements, List.forall_mem_append] at helements
    obtain ⟨⟨⟨⟨hmodules, hbinaries⟩, hfiles⟩, hhooks⟩, hoptions⟩ := helements
    simp only [values, List.forall_mem_cons, hlist]
    exact ⟨hmodules, hbinaries, hfiles, hhooks, hcompression, hoptions, by simp⟩
  · intro h
    simp only [values, List.forall_mem_cons, hlist] at h
    obtain ⟨hmodules, hbinaries, hfiles, hhooks, hcompression, hoptions, -⟩ := h
    refine ⟨?_, hcompression⟩
    simp only [elements, List.forall_mem_append]
    exact ⟨⟨⟨⟨hmodules, hbinaries⟩, hfiles⟩, hhooks⟩, hoptions⟩

/-- What stands in front of each value of the configuration file, and what closes it. -/
def surroundings : List (String × String) :=
  [("MODULES=(", ")"), ("BINARIES=(", ")"), ("FILES=(", ")"), ("HOOKS=(", ")"),
   ("COMPRESSION=\"", "\""), ("COMPRESSION_OPTIONS=(", ")")]

theorem assignments_eq (initrd : Initrd) :
    initrd.assignments = surroundings.zipWith surround initrd.values :=
  rfl

theorem isUnbroken_iff_assignments (initrd : Initrd) :
    initrd.IsUnbroken ↔ ∀ line ∈ initrd.assignments, '\n' ∉ line.toList := by
  have hlength : surroundings.length = initrd.values.length := rfl
  rw [isUnbroken_iff_values, assignments_eq, forall_notMem_surround_iff hlength (by decide)]

theorem length_rows_configuration_iff (initrd : Initrd) :
    (rows initrd.configuration).length = 6 ↔ initrd.IsUnbroken := by
  have hne : initrd.assignments ≠ [] := List.cons_ne_nil _ _
  exact (length_rows_intercalate hne).2.trans initrd.isUnbroken_iff_assignments.symm

/-- The values of a configuration file, when it has a row for each of them. -/
def values? (text : String) : Option (List String) :=
  if (rows text).length = surroundings.length then
    (surroundings.zip (rows text)).mapM fun (around, row) => between? around row
  else none

theorem length_rows_of_values? {text : String} {values : List String}
    (h : values? text = some values) : (rows text).length = 6 := by
  rw [values?] at h
  split at h
  · assumption
  · cases h

theorem values?_configuration {initrd : Initrd} (h : initrd.IsUnbroken) :
    values? initrd.configuration = some initrd.values := by
  have hrows : rows initrd.configuration = initrd.assignments :=
    rows_intercalate_eq (List.cons_ne_nil _ _) (initrd.isUnbroken_iff_assignments.1 h)
  have hlength : initrd.assignments.length = surroundings.length := rfl
  rw [values?, hrows, if_pos hlength, assignments_eq]
  exact mapM_between?_surround rfl

/-! ## The whole initial ramdisk -/

/-- Whether an initial ramdisk can be told from its configuration file. -/
structure IsReadable (initrd : Initrd) : Prop where
  elements : ∀ word ∈ initrd.elements, word ≠ "" ∧ ' ' ∉ word.toList ∧ '\n' ∉ word.toList
  compression : '\n' ∉ initrd.compression.toList

theorem IsReadable.isUnbroken {initrd : Initrd} (h : initrd.IsReadable) : initrd.IsUnbroken :=
  ⟨fun word hword => (h.elements word hword).2.2, h.compression⟩

/-- The initial ramdisk with certain values. -/
def ofValues? : List String → Option Initrd
  | [modules, binaries, files, hooks, compression, options] =>
    some ⟨spacedWords modules, spacedWords binaries, spacedWords files, spacedWords hooks,
      compression, spacedWords options⟩
  | _ => none

/-- The initial ramdisk that a configuration file describes. -/
def ofConfiguration? (text : String) : Option Initrd := (values? text).bind ofValues?

theorem ofValues?_values_iff (initrd : Initrd) :
    ofValues? initrd.values = some initrd ↔
      ∀ word ∈ initrd.elements, word ≠ "" ∧ ' ' ∉ word.toList := by
  obtain ⟨modules, binaries, files, hooks, compression, options⟩ := initrd
  simp only [ofValues?, values, Option.some.injEq, mk.injEq, spacedWords_intercalate_iff,
    true_and, elements, List.forall_mem_append, and_assoc]

/-- What describes an initial ramdisk is found again exactly if no word could be taken for
none or for several, and no text for several rows. -/
theorem ofConfiguration?_eq_some_iff (initrd : Initrd) :
    ofConfiguration? initrd.configuration = some initrd ↔ initrd.IsReadable := by
  constructor
  · intro h
    obtain ⟨values, hvalues, -⟩ := Option.bind_eq_some_iff.1 h
    have hunbroken : initrd.IsUnbroken :=
      initrd.length_rows_configuration_iff.1 (length_rows_of_values? hvalues)
    rw [ofConfiguration?, values?_configuration hunbroken, Option.bind_some,
      ofValues?_values_iff] at h
    exact ⟨fun word hword =>
      ⟨(h word hword).1, (h word hword).2, hunbroken.elements word hword⟩, hunbroken.compression⟩
  · intro h
    rw [ofConfiguration?, values?_configuration h.isUnbroken, Option.bind_some,
      ofValues?_values_iff]
    exact fun word hword => ⟨(h.elements word hword).1, (h.elements word hword).2.1⟩

/-- **Recovering.** The configuration file has six rows exactly if no word of a list and not
the compression has a line feed, and then each row holds its value between its name and its
closing character. There is a reader that finds the initial ramdisk again exactly if besides
no word is empty or has a space; so initial ramdisks of that kind have the same file only if
they are the same. -/
theorem configuration_reads_back (initrd : Initrd) :
    ((rows initrd.configuration).length = 6 ↔ initrd.IsUnbroken) ∧
    (initrd.IsUnbroken → values? initrd.configuration = some initrd.values) ∧
    (ofConfiguration? initrd.configuration = some initrd ↔ initrd.IsReadable) ∧
    ∀ other : Initrd, initrd.IsReadable → other.IsReadable →
      (initrd.configuration = other.configuration ↔ initrd = other) := by
  refine ⟨initrd.length_rows_configuration_iff, values?_configuration,
    initrd.ofConfiguration?_eq_some_iff, ?_⟩
  intro other hreadable hother
  constructor
  · intro h
    rw [← ofConfiguration?_eq_some_iff] at hreadable hother
    rw [h, hother] at hreadable
    exact (Option.some.inj hreadable).symm
  · rintro rfl
    rfl

/-- Closing characters and equals signs inside the words do no harm, and neither does a space
in the compression. -/
theorem configuration_reads_back_closers :
    let initrd : Initrd := ⟨["a)", "=("], [], ["\""], ["base"], "zstd -19\"", [")"]⟩
    let other : Initrd := ⟨["a)"], ["=("], ["\""], ["base"], "zstd -19\"", [")"]⟩
    initrd.IsReadable ∧ other.IsReadable ∧
      values? initrd.configuration = some ["a) =(", "", "\"", "base", "zstd -19\"", ")"] ∧
      initrd.configuration ≠ other.configuration := by
  intro initrd other
  have hreadable : initrd.IsReadable := ⟨by decide, by decide⟩
  have hother : other.IsReadable := ⟨by decide, by decide⟩
  obtain ⟨-, hvalues, -, hinj⟩ := initrd.configuration_reads_back
  refine ⟨hreadable, hother, hvalues hreadable.isUnbroken, fun h => ?_⟩
  exact absurd ((hinj other hreadable hother).1 h) (by decide)

end Initrd

end InstallPlan
