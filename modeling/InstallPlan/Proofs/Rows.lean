import Mathlib.Data.List.Basic

/-!
# Rows

A text as what stands between its line feeds (`rows`). There is always one row, and a line
feed at the end is followed by an empty one.

Texts that are put together share the row where they meet (`rows_append`); with a line feed
between them they keep their rows (`rows_append_break`). So a text in surroundings without
a line feed keeps its rows but the first and the last (`mem_rows_surrounded`).
-/

namespace InstallPlan

/-! ## Lists in pieces -/

/-- No piece of a list has a separator. -/
theorem eq_false_of_mem_splitOnP {α : Type} {p : α → Bool} {xs piece : List α}
    (h : piece ∈ xs.splitOnP p) : ∀ x ∈ piece, p x = false := by
  by_cases hsep : ∃ x ∈ xs, p x
  · -- a piece stands in front of the separator or behind it
    obtain ⟨x, hx, hsep⟩ := hsep
    obtain ⟨before, after, hxs⟩ := List.append_of_mem hx
    rw [hxs, List.splitOnP_append_cons before after hsep, List.mem_append] at h
    rcases h with hbefore | hafter
    · exact eq_false_of_mem_splitOnP hbefore
    · exact eq_false_of_mem_splitOnP hafter
  · have hnone : ∀ x ∈ xs, p x = false := by simpa using hsep
    rw [List.splitOnP_eq_singleton hnone, List.mem_singleton] at h
    exact h ▸ hnone
termination_by xs.length
decreasing_by
  all_goals
    rw [hxs, List.length_append, List.length_cons]
    omega

theorem flatMap_eq_self {α : Type} {f : α → List α} {xs : List α} (h : ∀ x ∈ xs, f x = [x]) :
    xs.flatMap f = xs := by
  rw [List.flatMap_congr h, List.flatMap_singleton']

/-! ## Rows of a text -/

/-- The rows of a text. -/
def rows (text : String) : List String :=
  (text.toList.splitOn '\n').map String.ofList

theorem rows_eq_iff {text : String} {parts : List String} :
    rows text = parts ↔ text.toList.splitOn '\n' = parts.map String.toList := by
  have hinverse : ∀ parts : List (List Char),
      (parts.map String.ofList).map String.toList = parts := by
    intro parts
    simp [Function.comp_def]
  constructor
  · rintro rfl
    exact (hinverse _).symm
  · intro h
    simp [rows, h, Function.comp_def]

theorem rows_ne_nil (text : String) : rows text ≠ [] := by
  simp [rows, List.splitOn_ne_nil]

theorem rows_eq_singleton {text : String} (h : '\n' ∉ text.toList) : rows text = [text] := by
  rw [rows_eq_iff, List.splitOn_eq_singleton h]
  rfl

theorem rows_append_break (text more : String) :
    rows (text ++ "\n" ++ more) = rows text ++ rows more := by
  have hbreak : ("\n" : String).toList = ['\n'] := rfl
  rw [rows, String.toList_append, String.toList_append, hbreak, List.append_assoc,
    List.singleton_append, List.splitOn_append_cons_self, List.map_append]
  rfl

theorem rows_intercalate {parts : List String} (h : parts ≠ []) :
    rows ("\n".intercalate parts) = parts.flatMap rows := by
  induction parts with
  | nil => exact absurd rfl h
  | cons text more ih =>
    cases more with
    | nil => simp
    | cons next more =>
      rw [String.intercalate_cons_cons, rows_append_break, ih (List.cons_ne_nil next more)]
      rfl

/-- The last part of one list and the first part of another become one where they meet. -/
theorem splitOn_append {α : Type} [BEq α] [LawfulBEq α] {c : α} {text more : List α}
    {before after : List (List α)} {last first : List α}
    (htext : text.splitOn c = before ++ [last]) (hmore : more.splitOn c = first :: after) :
    (text ++ more).splitOn c = before ++ (last ++ first) :: after := by
  induction text generalizing before last with
  | nil =>
    obtain ⟨rfl, rfl⟩ : [] = before ∧ [] = last := by
      simpa using List.append_inj' ((List.nil_append [[]]).trans htext) rfl
    simpa using hmore
  | cons d text ih =>
    obtain ⟨start, tail, hsplit⟩ :=
      (List.eq_nil_or_concat' (text.splitOn c)).resolve_left (List.splitOn_ne_nil c text)
    rw [List.splitOn_cons_eq_if_modifyHead, hsplit] at htext
    rw [List.cons_append, List.splitOn_cons_eq_if_modifyHead, ih hsplit]
    split at htext
    · rename_i hd
      rw [← List.cons_append] at htext
      obtain ⟨rfl, hlast⟩ := List.append_inj' htext rfl
      cases hlast
      rw [if_pos hd, List.cons_append]
    · rename_i hd
      rw [if_neg hd]
      cases start with
      | nil =>
        obtain ⟨rfl, hlast⟩ := List.append_inj' ((List.nil_append [d :: tail]).trans htext) rfl
        cases hlast
        rfl
      | cons part start =>
        rw [List.cons_append, List.modifyHead_cons, ← List.cons_append] at htext
        obtain ⟨rfl, hlast⟩ := List.append_inj' htext rfl
        cases hlast
        rfl

theorem rows_append {text more : String} {before after : List String} {last first : String}
    (htext : rows text = before ++ [last]) (hmore : rows more = first :: after) :
    rows (text ++ more) = before ++ (last ++ first) :: after := by
  rw [rows_eq_iff] at htext hmore ⊢
  rw [List.map_append, List.map_singleton] at htext
  rw [List.map_cons] at hmore
  rw [String.toList_append, splitOn_append htext hmore]
  simp

/-! ## A text in surroundings -/

/-- The rows of a text but the first and the last. -/
def innerRows (text : String) : List String := (rows text).tail.dropLast

theorem innerRows_of_singleton {text row : String} (h : rows text = [row]) :
    innerRows text = [] := by
  rw [innerRows, h]
  rfl

theorem innerRows_of_concat {text first last : String} {inner : List String}
    (h : rows text = first :: (inner ++ [last])) : innerRows text = inner := by
  rw [innerRows, h, List.tail_cons, List.dropLast_concat]

/-- A text has one row, or a first and a last one with the inner rows between them. -/
theorem rows_cases (text : String) :
    (∃ row, rows text = [row]) ∨
      ∃ first last, rows text = first :: (innerRows text ++ [last]) := by
  cases hrows : rows text with
  | nil => exact absurd hrows (rows_ne_nil text)
  | cons first rest =>
    rcases List.eq_nil_or_concat' rest with rfl | ⟨inner, last, rfl⟩
    · exact .inl ⟨first, rfl⟩
    · exact .inr ⟨first, last, by rw [innerRows_of_concat hrows]⟩

section

variable {before after : String} (hbefore : '\n' ∉ before.toList) (hafter : '\n' ∉ after.toList)

include hbefore in
theorem rows_append_of_start {text first : String} {rest : List String}
    (h : rows text = first :: rest) : rows (before ++ text) = (before ++ first) :: rest := by
  have hsingle : rows before = [] ++ [before] := rows_eq_singleton hbefore
  exact rows_append hsingle h

include hafter in
theorem rows_append_of_end {text last : String} {start : List String}
    (h : rows text = start ++ [last]) : rows (text ++ after) = start ++ [last ++ after] :=
  rows_append h (rows_eq_singleton hafter)

include hbefore hafter in
/-- A text in surroundings keeps its inner rows. What neither begins nor ends like the
surroundings is a row of the whole if and only if it is one of them. -/
theorem mem_rows_surrounded {row : String} (hstart : ∀ rest, row ≠ before ++ rest)
    (hend : ∀ start, row ≠ start ++ after) (text : String) :
    row ∈ rows (before ++ text ++ after) ↔ row ∈ innerRows text := by
  rcases rows_cases text with ⟨only, hrows⟩ | ⟨first, last, hrows⟩
  · have hall : rows (before ++ text ++ after) = [] ++ [before ++ only ++ after] :=
      rows_append_of_end hafter (rows_append_of_start hbefore hrows)
    rw [hall, innerRows_of_singleton hrows, List.nil_append, List.mem_singleton]
    exact iff_of_false (hend _) List.not_mem_nil
  · have hall : rows (before ++ text ++ after) =
        ((before ++ first) :: innerRows text) ++ [last ++ after] :=
      rows_append_of_end hafter (rows_append_of_start hbefore hrows)
    rw [hall, List.mem_append, List.mem_cons, List.mem_singleton]
    simp [hstart, hend]

end

end InstallPlan
