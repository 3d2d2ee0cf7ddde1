import InstallPlan.Proofs.Printing
import InstallPlan.Proofs.Rows

/-!
# Reviewing

What a printed plan tells the person who reads it. An empty line and the line behind it are
a heading, a line that begins with `$ ` begins a command, and a line that begins with two
spaces goes on with it. `Review.read?` reads a text by these rules and nothing else.

The first line of a command is printed behind `$ ` and every other line behind two spaces,
whatever they say. So no value in a command can forge a heading or another command, and
none can swallow what follows it: what is read is the plan, each command as the lines of
its redaction (`Review.behind?_parts`).
-/

namespace InstallPlan

/-! ## Lines -/

theorem notMem_of_mem_linesOf {text line : List Char} (h : line ∈ linesOf text) :
    '\n' ∉ line := by
  fun_induction linesOf text generalizing line with
  | case1 => cases h
  | case2 rest ih =>
    rcases List.mem_cons.1 h with rfl | h
    · exact List.not_mem_nil
    · exact ih h
  | case3 rest hreturn ih =>
    rcases List.mem_cons.1 h with rfl | h
    · exact List.not_mem_nil
    · exact ih h
  | case4 c rest hreturn hc hrest ih =>
    rw [List.mem_singleton.1 h, List.mem_singleton]
    exact Ne.symm hc
  | case5 c rest hreturn hc first more hrest ih =>
    rw [hrest] at ih
    rcases List.mem_cons.1 h with rfl | h
    · exact List.not_mem_cons_of_ne_of_not_mem (Ne.symm hc) (ih List.mem_cons_self)
    · exact ih (List.mem_cons_of_mem first h)

theorem linesOf_ne_nil {text : List Char} (h : text ≠ []) : linesOf text ≠ [] := by
  fun_cases linesOf text
  case case1 => exact absurd rfl h
  all_goals exact List.cons_ne_nil _ _

theorem notMem_of_mem_lines {text line : String} (h : line ∈ lines text) :
    '\n' ∉ line.toList := by
  obtain ⟨chars, hchars, rfl⟩ := List.mem_map.1 h
  rw [String.toList_ofList]
  exact notMem_of_mem_linesOf hchars

theorem lines_ne_nil {text : String} (h : text ≠ "") : lines text ≠ [] := by
  rw [lines, Ne, List.map_eq_nil_iff]
  exact linesOf_ne_nil (by simpa using h)

theorem Redaction.mask_ne_nil {text : List Char} (h : text ≠ []) : mask text ≠ [] := by
  fun_cases mask text
  case case1 => exact absurd rfl h
  all_goals exact List.cons_ne_nil _ _

theorem redact_ne_empty {text : String} (h : text ≠ "") : redact text ≠ "" := by
  rw [redact, Ne, String.ofList_eq_empty_iff]
  exact Redaction.mask_ne_nil (by simpa using h)

/-! ## Parts of a plan -/

/-- A heading and what stands below it. -/
structure Part (α : Type) where
  heading : String
  commands : List α
  deriving DecidableEq, Repr

/-- The steps of a part. -/
def Part.steps (part : Part String) : List Step :=
  .heading part.heading :: part.commands.map .command

/-- A part with the lines that are shown of each command. -/
def Part.review (part : Part String) : Part (List String) :=
  ⟨part.heading, part.commands.map fun command => lines (redact command)⟩

/-- The parts of the plan of a specification. -/
def Specification.parts (spec : Specification) (root : Path) : List (Part String) :=
  [⟨"Install Packages", [spec.packages.installation root]⟩,
   ⟨"Configure System", spec.system.commands root⟩,
   ⟨"Create Initramfs", spec.initrd.commands root⟩]

theorem Specification.steps_eq_flatMap (spec : Specification) (root : Path) :
    spec.steps root = (spec.parts root).flatMap Part.steps := by
  simp only [parts, List.flatMap_cons, List.flatMap_nil, List.append_nil]
  rw [steps, List.append_assoc]
  rfl

namespace Review

/-- What is read behind some place of a text: lines that go on with a command, then
commands, then parts. -/
structure Rest where
  lines : List String := []
  commands : List (List String) := []
  parts : List (Part (List String)) := []

/-- Reads rows from the front. The last row, behind the last line feed, is empty. -/
def ofRows? : List (List Char) → Option Rest
  | [] => none
  | [[]] => some {}
  | [] :: heading :: rows =>
    match ofRows? rows with
    | some ⟨[], commands, parts⟩ => some { parts := ⟨String.ofList heading, commands⟩ :: parts }
    | _ => none
  | ('$' :: ' ' :: line) :: rows =>
    (ofRows? rows).map fun behind =>
      { behind with
        lines := []
        commands := (String.ofList line :: behind.lines) :: behind.commands }
  | (' ' :: ' ' :: line) :: rows =>
    (ofRows? rows).map fun behind =>
      { behind with lines := String.ofList line :: behind.lines }
  | _ => none

/-- What is read from a text. -/
def behind? (text : String) : Option Rest := ofRows? ((rows text).map String.toList)

/-- Reads a text as the parts of a plan. -/
def ofText? (text : String) : Option (List (Part (List String))) :=
  match behind? text with
  | some ⟨[], [], parts⟩ => some parts
  | _ => none

/-- Reads octets as the parts of a plan. -/
def read? (octets : Octets) : Option (List (Part (List String))) :=
  (Utf8.decode? octets).bind ofText?

example : ofText? "\nStart\n$ cat <<EOF\n  \n  $ halt\n  EOF\n$ sync\n" =
    some [⟨"Start", [["cat <<EOF", "", "$ halt", "EOF"], ["sync"]]⟩] := by decide

/-! ## Reading what is printed, in front of what is read already -/

theorem rows_append_line {line : String} (h : '\n' ∉ line.toList) (text : String) :
    rows (line ++ "\n" ++ text) = line :: rows text := by
  rw [rows_append_break, rows_eq_singleton h, List.singleton_append]

section

variable {text : String} {behind : Rest} (h : behind? text = some behind)

include h

theorem behind?_heading {heading : String} (hheading : '\n' ∉ heading.toList)
    (hlines : behind.lines = []) :
    behind? (Terminal.heading false heading ++ text) =
      some { parts := ⟨heading, behind.commands⟩ :: behind.parts } := by
  have hprinted : Terminal.heading false heading ++ text =
      "" ++ "\n" ++ (heading ++ "\n" ++ text) := by
    simp [Terminal.heading, Terminal.styled, String.append_assoc]
  obtain ⟨_, commands, parts⟩ := behind
  cases hlines
  rw [behind?] at h
  rw [behind?, hprinted, rows_append_line (by decide), rows_append_line hheading,
    List.map_cons, List.map_cons, String.toList_empty, ofRows?, h, String.ofList_toList]

theorem behind?_muted {line : String} (hline : '\n' ∉ line.toList) :
    behind? (Terminal.muted false line ++ text) =
      some { behind with lines := line :: behind.lines } := by
  have hinset : ("  " ++ line).toList = ' ' :: ' ' :: line.toList := by simp
  rw [behind?] at h
  rw [behind?, Terminal.muted, Terminal.styled, if_neg Bool.false_ne_true,
    rows_append_line (by simpa using hline), List.map_cons, hinset, ofRows?, h,
    Option.map_some, String.ofList_toList]

theorem behind?_further {more : List String} (hmore : ∀ line ∈ more, '\n' ∉ line.toList) :
    behind? (String.join (more.map (Terminal.muted false)) ++ text) =
      some { behind with lines := more ++ behind.lines } := by
  induction more with
  | nil => simpa using h
  | cons line more ih =>
    rw [List.forall_mem_cons] at hmore
    rw [List.map_cons, String.join_cons, String.append_assoc,
      behind?_muted (ih hmore.2) hmore.1, List.cons_append]

theorem behind?_command {command : String} (hne : command ≠ "") (hlines : behind.lines = []) :
    behind? (Terminal.command false command ++ text) =
      some { behind with lines := [], commands := lines command :: behind.commands } := by
  obtain ⟨first, more, hcommand⟩ := List.exists_cons_of_ne_nil (lines_ne_nil hne)
  have hbreaks : ∀ line ∈ first :: more, '\n' ∉ line.toList := by
    rw [← hcommand]
    exact fun line => notMem_of_mem_lines
  rw [List.forall_mem_cons] at hbreaks
  have hprinted : Terminal.command false command ++ text =
      "$ " ++ first ++ "\n" ++ (String.join (more.map (Terminal.muted false)) ++ text) := by
    have hsign : ("$ " : String) = "$" ++ " " := by decide
    simp only [Terminal.command, hcommand, Terminal.styled, hsign, String.append_assoc,
      if_neg Bool.false_ne_true]
  have hopening : ("$ " ++ first).toList = '$' :: ' ' :: first.toList := by simp
  have hfurther := behind?_further h hbreaks.2
  rw [behind?] at hfurther
  rw [behind?, hprinted, rows_append_line (by simpa using hbreaks.1), List.map_cons, hopening,
    ofRows?, hfurther, Option.map_some, String.ofList_toList, hcommand, hlines, List.append_nil]

theorem behind?_commands {commands : List String} (hne : ∀ command ∈ commands, command ≠ "")
    (hlines : behind.lines = []) :
    behind? (String.join ((commands.map Step.command).map (Terminal.step false)) ++ text) =
      some { behind with
        lines := []
        commands := commands.map (fun command => lines (redact command)) ++ behind.commands } := by
  induction commands with
  | nil =>
    obtain ⟨_, further, parts⟩ := behind
    cases hlines
    simpa using h
  | cons command more ih =>
    rw [List.forall_mem_cons] at hne
    rw [List.map_cons, List.map_cons, String.join_cons, String.append_assoc, Terminal.step,
      behind?_command (ih hne.2) (redact_ne_empty hne.1) rfl]
    rfl

end

/-- Parts are read as they were printed: the induction goes from the last part to the first,
since what a heading begins is known only when the commands behind it are. -/
theorem behind?_parts {parts : List (Part String)}
    (hheadings : ∀ part ∈ parts, '\n' ∉ part.heading.toList)
    (hcommands : ∀ part ∈ parts, ∀ command ∈ part.commands, command ≠ "") :
    behind? (String.join ((parts.flatMap Part.steps).map (Terminal.step false))) =
      some { parts := parts.map Part.review } := by
  induction parts with
  | nil => rfl
  | cons part more ih =>
    rw [List.forall_mem_cons] at hheadings hcommands
    have hbehind := behind?_commands (ih hheadings.2 hcommands.2) hcommands.1 rfl
    rw [List.flatMap_cons, List.map_append, String.join_append, Part.steps, List.map_cons,
      String.join_cons, String.append_assoc, Terminal.step,
      behind?_heading hbehind hheadings.1 rfl]
    simp [Part.review]

theorem read?_encode {text : String} {parts : List (Part (List String))}
    (h : behind? text = some { parts }) : read? (Utf8.encode text) = some parts := by
  rw [read?, Utf8.decode?_encode, Option.bind_some, ofText?, h]

end Review

/-! ## The plan of a specification -/

theorem System.ne_empty_of_mem_commands (system : System) (root : Path) :
    ∀ command ∈ system.commands root, command ≠ "" := by
  intro command h
  have hidentity : system.identity root ≠ "" := by
    simp [identity, identityWords, String.intercalate_cons_cons]
  rw [commands, List.mem_append, passwordPrompt] at h
  rcases h with hprompt | h
  · split at hprompt
    · rw [List.mem_singleton.1 hprompt]
      simp [inside]
    · cases hprompt
  · simp only [List.mem_cons, List.not_mem_nil, or_false] at h
    rcases h with rfl | rfl | rfl | rfl | rfl
    · exact hidentity
    · simp [inside]
    · simp [localeEntry]
    · simp [inside]
    · simp [hereDocument]

theorem Initrd.ne_empty_of_mem_commands (initrd : Initrd) (root : Path) :
    ∀ command ∈ initrd.commands root, command ≠ "" := by
  simp [commands, hereDocument, kernelLookup, generation]

theorem Specification.read?_parts (spec : Specification) (root : Path) :
    Review.read? (Utf8.encode (String.join ((spec.steps root).map (Terminal.step false)))) =
      some ((spec.parts root).map Part.review) := by
  rw [steps_eq_flatMap]
  apply Review.read?_encode
  apply Review.behind?_parts
  · simp only [parts, List.forall_mem_cons]
    decide
  · simp only [parts, List.forall_mem_cons]
    refine ⟨?_, spec.system.ne_empty_of_mem_commands root,
      spec.initrd.ne_empty_of_mem_commands root, by simp⟩
    simp [Packages.installation]

namespace Job

/-- **Reviewing.** What a rehearsal prints without colours, unless it is to be quiet, is a
title that depends on the root alone and behind it a text from which the plan is read: its
headings in order, below each of them its commands in order, and of each command the lines
of its redaction. The parts that are read are those that the steps of the plan are made of. -/
theorem printed_plan_reads_back {η : Type} (source : Option Path) (root : Path)
    (machine : Machine η) (state : η) {spec : Specification}
    (hload : Specification.ofOctets (Source.ofPath? source)
      (machine.read (Source.ofPath? source) state).1 = .ok spec) :
    let job : Job := ⟨source, root, .dryrun, false, false⟩
    let header := Utf8.encode (Terminal.title false ("Plan for " ++ root.shown))
    spec.steps root = (spec.parts root).flatMap Part.steps ∧
    ∃ body, Output.standardOutput (job.run machine state).output = header ++ body ∧
      Review.read? body =
        some ((spec.parts root).map fun part =>
          ⟨part.heading, part.commands.map fun command => lines (redact command)⟩) := by
  intro job header
  have hmode : job.mode = .dryrun := rfl
  obtain ⟨-, -, hprinted⟩ := job.run_of_ne_exec (by simp [hmode]) machine state hload
  refine ⟨spec.steps_eq_flatMap root,
    Utf8.encode (String.join ((spec.steps root).map (Terminal.step false))), ?_,
    spec.read?_parts root⟩
  rw [hprinted, standardOutput_apply hmode, if_neg Bool.false_ne_true, Terminal.plan,
    Utf8.encode_append]

/-- The name of a host that looks like a heading and a command is read as neither. -/
theorem printed_plan_reads_back_forged :
    let text := "\x7b\"system\": [\"UTC\", \"C\", \"UTF-8\", \"us\", \"a\\n\\nEnd\\n$ b\"]\x7d"
    let machine : Machine Unit :=
      ⟨fun _ world => (.ok (Utf8.encode text), world),
        fun _ world => (.ended (.exited 0) [] [], world)⟩
    let job : Job := ⟨none, Path.ofText "/target", .dryrun, false, false⟩
    let header := Utf8.encode (Terminal.title false ("Plan for " ++ job.root.shown))
    ∃ body, Output.standardOutput (job.run machine ()).output = header ++ body ∧
      (Review.read? body).map (·.map fun part => (part.heading, part.commands.length)) =
        some [("Install Packages", 1), ("Configure System", 6), ("Create Initramfs", 3)] := by
  intro text machine job header
  let spec : Specification :=
    ⟨{}, ⟨"UTC", "C", "UTF-8", "us", "a\n\nEnd\n$ b", none⟩, {}⟩
  have hread : Json.read text = .ok (.object [("system", .array [.text "UTC", .text "C",
      .text "UTF-8", .text "us", .text "a\n\nEnd\n$ b"])]) := by cbv
  have hload : Specification.ofOctets .standardInput (.ok (Utf8.encode text)) = .ok spec := by
    simp only [Specification.ofOctets, Utf8.decode?_encode, Specification.parse, Source.format,
      Specification.readDocument, hread, Except.mapError]
    rfl
  obtain ⟨-, body, hprinted, hplan⟩ :=
    printed_plan_reads_back none (Path.ofText "/target") machine () hload
  exact ⟨body, hprinted, by rw [hplan]; rfl⟩

end Job

end InstallPlan
