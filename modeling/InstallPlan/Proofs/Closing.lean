import InstallPlan.Plan
import InstallPlan.Proofs.Rows
import Mathlib.Data.List.TakeWhile

/-!
# Closing

Where the here-documents of a plan end. A shell takes what stands behind the redirection
row by row, up to the first row `EOF`, and runs what is left. Nothing is left exactly if
no row of the body is that one (`dropWhile_rows_documentText_iff`).

The configuration file puts each value between the name that it is assigned to and a
closing character, so the first and the last row of a value are never alone in theirs
(`Initrd.mem_rows_configuration_iff`). The table of hosts puts the name of the host twice
into one row, so only the first row of the name never is (`System.mem_rows_hosts_iff`).
-/

namespace InstallPlan

/-! ## The end of a here-document -/

/-- What stands behind the redirection of a here-document. -/
def documentText (body : String) : String := "\n" ++ body ++ "\n" ++ "EOF"

theorem hereDocument_eq (file : Path) (body : String) :
    hereDocument file body = "cat > " ++ file.shown ++ " <<EOF" ++ documentText body := by
  have hopening : (" <<EOF\n" : String) = " <<EOF" ++ "\n" := by decide
  have hending : ("\nEOF" : String) = "\n" ++ "EOF" := by decide
  rw [hereDocument, hopening, hending, documentText]
  simp only [String.append_assoc]

theorem rows_documentText (body : String) :
    rows (documentText body) = "" :: (rows body ++ ["EOF"]) := by
  have hclosing : rows "EOF" = ["EOF"] := rows_eq_singleton (by decide)
  have hbody : rows ("\n" ++ body) = rows "" ++ rows body := rows_append_break "" body
  rw [documentText, rows_append_break, hbody, hclosing, rows_eq_singleton (by decide)]
  rfl

theorem ne_closing_of_mem {body : String} (h : "EOF" ∉ rows body) :
    ∀ row ∈ rows body, decide (row ≠ "EOF") = true := by
  intro row hrow
  exact decide_eq_true (ne_of_mem_of_not_mem hrow h)

/-- The first row `EOF` is the last row of all unless the body has one. -/
theorem dropWhile_rows_documentText_iff (body : String) :
    (rows (documentText body)).dropWhile (· ≠ "EOF") = ["EOF"] ↔ "EOF" ∉ rows body := by
  have hempty : ("" : String) ≠ "EOF" := by decide
  rw [rows_documentText, List.dropWhile_cons_of_pos (by simp [hempty])]
  by_cases h : "EOF" ∈ rows body
  · -- a row of the body is left over, and the last row behind it
    have hleft : (rows body).dropWhile (· ≠ "EOF") ≠ [] := by
      rw [Ne, List.dropWhile_eq_nil_iff]
      intro hall
      simpa using hall "EOF" h
    rw [List.dropWhile_append, if_neg (by simpa using hleft), List.append_left_eq_self]
    exact iff_of_false hleft (not_not_intro h)
  · rw [List.dropWhile_append_of_pos (ne_closing_of_mem h)]
    exact iff_of_true (by simp) h

/-- What is read as the document is the body, if that has no row `EOF`. -/
theorem takeWhile_rows_documentText {body : String} (h : "EOF" ∉ rows body) :
    (rows (documentText body)).takeWhile (· ≠ "EOF") = "" :: rows body := by
  have hempty : ("" : String) ≠ "EOF" := by decide
  rw [rows_documentText, List.takeWhile_cons_of_pos (by simp [hempty]),
    List.takeWhile_append_of_pos (ne_closing_of_mem h)]
  simp

/-! ## Values in surroundings -/

theorem ne_of_mem_toList {row text : String} {c : Char} (hc : c ∈ text.toList)
    (hrow : c ∉ row.toList) : row ≠ text := by
  rintro rfl
  exact hrow hc

/-- Between two texts that are not made of the letters of `EOF` alone, only the inner rows of
a value are rows `EOF`. -/
theorem closing_mem_rows_iff {before after : String} (hbefore : '\n' ∉ before.toList)
    (hafter : '\n' ∉ after.toList) (hstart : ∃ c ∈ before.toList, c ∉ "EOF".toList)
    (hend : ∃ c ∈ after.toList, c ∉ "EOF".toList) (value : String) :
    "EOF" ∈ rows (before ++ value ++ after) ↔ "EOF" ∈ innerRows value := by
  obtain ⟨c, hc, hcrow⟩ := hstart
  obtain ⟨d, hd, hdrow⟩ := hend
  refine mem_rows_surrounded hbefore hafter ?_ ?_ value
  · intro rest
    exact ne_of_mem_toList (by simp [hc]) hcrow
  · intro start
    exact ne_of_mem_toList (by simp [hd]) hdrow

/-- The values of the configuration file, in their order. -/
def Initrd.values (initrd : Initrd) : List String :=
  [" ".intercalate initrd.modules,
   " ".intercalate initrd.binaries,
   " ".intercalate initrd.files,
   " ".intercalate initrd.hooks,
   initrd.compression,
   " ".intercalate initrd.compressionOptions]

theorem Initrd.mem_rows_configuration_iff (initrd : Initrd) :
    "EOF" ∈ rows initrd.configuration ↔ ∃ value ∈ initrd.values, "EOF" ∈ innerRows value := by
  have hlist (name : String) (hname : '\n' ∉ (name ++ "=(").toList) (words : List String) :
      "EOF" ∈ rows (assignment name words) ↔ "EOF" ∈ innerRows (" ".intercalate words) :=
    closing_mem_rows_iff hname (by decide) ⟨'=', by simp, by decide⟩ ⟨')', by simp, by decide⟩ _
  have hquoted : "EOF" ∈ rows ("COMPRESSION=\"" ++ initrd.compression ++ "\"") ↔
      "EOF" ∈ innerRows initrd.compression :=
    closing_mem_rows_iff (by decide) (by decide) ⟨'=', by simp, by decide⟩
      ⟨'"', by simp, by decide⟩ _
  rw [configuration, rows_intercalate (by simp [assignments]), List.mem_flatMap]
  simp only [assignments, values, List.mem_cons, List.not_mem_nil, or_false, exists_eq_or_imp,
    exists_eq_left, hquoted, hlist "MODULES" (by decide), hlist "BINARIES" (by decide),
    hlist "FILES" (by decide), hlist "HOOKS" (by decide),
    hlist "COMPRESSION_OPTIONS" (by decide)]

namespace System

/-- The row of the table that names the host twice. -/
def ownRow (system : System) : String :=
  "127.0.1.1 " ++ system.hostname ++ ".localdomain " ++ system.hostname

/-- Where the name of the host has several rows, its last row and its first one meet. -/
theorem rows_ownRow (system : System) {first last : String} {inner : List String}
    (h : rows system.hostname = first :: (inner ++ [last])) :
    rows system.ownRow = ("127.0.1.1 " ++ first) ::
      (inner ++ (last ++ ".localdomain " ++ first) :: (inner ++ [last])) := by
  have hstart : rows ("127.0.1.1 " ++ system.hostname) =
      (("127.0.1.1 " ++ first) :: inner) ++ [last] := rows_append_of_start (by decide) h
  have hmiddle : rows ("127.0.1.1 " ++ system.hostname ++ ".localdomain ") =
      (("127.0.1.1 " ++ first) :: inner) ++ [last ++ ".localdomain "] :=
    rows_append_of_end (by decide) hstart
  exact rows_append hmiddle h

theorem mem_rows_ownRow_iff (system : System) :
    "EOF" ∈ rows system.ownRow ↔ "EOF" ∈ (rows system.hostname).tail := by
  have hstart (rest : String) : "EOF" ≠ "127.0.1.1 " ++ rest :=
    ne_of_mem_toList (c := '1') (by simp) (by decide)
  have hmiddle (last first : String) : "EOF" ≠ last ++ ".localdomain " ++ first :=
    ne_of_mem_toList (c := '.') (by simp) (by decide)
  rcases rows_cases system.hostname with ⟨only, hrows⟩ | ⟨first, last, hrows⟩
  · have hfirst : rows ("127.0.1.1 " ++ system.hostname) = [] ++ ["127.0.1.1 " ++ only] :=
      rows_append_of_start (by decide) hrows
    have hsecond : rows system.ownRow =
        [] ++ ["127.0.1.1 " ++ only ++ ".localdomain " ++ only] :=
      rows_append (rows_append_of_end (by decide) hfirst) hrows
    rw [hsecond, hrows]
    simp [hmiddle]
  · rw [system.rows_ownRow hrows, hrows]
    simp [hstart, hmiddle]

theorem mem_rows_hosts_iff (system : System) :
    "EOF" ∈ rows system.hosts ↔ "EOF" ∈ (rows system.hostname).tail := by
  have hlocal : "EOF" ∉ rows "127.0.0.1 localhost" := by
    rw [rows_eq_singleton (by decide)]
    decide
  have hlocal6 : "EOF" ∉ rows "::1       localhost" := by
    rw [rows_eq_singleton (by decide)]
    decide
  have hrows : rows system.hosts =
      ["127.0.0.1 localhost", "::1       localhost", system.ownRow].flatMap rows :=
    rows_intercalate (List.cons_ne_nil _ _)
  rw [hrows, List.mem_flatMap, ← system.mem_rows_ownRow_iff]
  simp [hlocal, hlocal6]

example : (rows "archie\nEOF\nexit 9").tail = ["EOF", "exit 9"] := by decide

end System

/-- **Closing.** The configuration file has a row `EOF` exactly if a value has one that is
neither its first nor its last, and the table of hosts exactly if the name of the host has
one that is not its first. Where the body of a here-document has no such row, and only
there, the document is the body and the first row `EOF` is where the command ends. -/
theorem hereDocuments_close (initrd : Initrd) (system : System) :
    ("EOF" ∈ rows initrd.configuration ↔ ∃ value ∈ initrd.values, "EOF" ∈ innerRows value) ∧
    ("EOF" ∈ rows system.hosts ↔ "EOF" ∈ (rows system.hostname).tail) ∧
    ∀ root : Path,
      (initrd.commands root).head? =
        some (hereDocument (root.join "etc/mkinitcpio.conf") initrd.configuration) ∧
      (system.commands root).getLast? =
        some (hereDocument (root.join "etc/hosts") system.hosts) ∧
      ∀ (file : Path) (body : String),
        hereDocument file body = "cat > " ++ file.shown ++ " <<EOF" ++ documentText body ∧
        ((rows (documentText body)).dropWhile (· ≠ "EOF") = ["EOF"] ↔ "EOF" ∉ rows body) ∧
        ("EOF" ∉ rows body →
          (rows (documentText body)).takeWhile (· ≠ "EOF") = "" :: rows body) := by
  refine ⟨initrd.mem_rows_configuration_iff, system.mem_rows_hosts_iff, fun root => ?_⟩
  refine ⟨rfl, by simp [System.commands], fun file body => ?_⟩
  exact ⟨hereDocument_eq file body, dropWhile_rows_documentText_iff body,
    takeWhile_rows_documentText⟩

end InstallPlan
