import InstallPlan.Sink.Assignment
import Mathlib

/-!
# Recognition

Which commands assign a variable and do nothing else. A command does so exactly if it is a
name, an equals sign and a value (`Assignment.Assigns`); the name is what stands in front of
the first character that cannot be part of one, and what follows decides all else
(`Assignment.target?_of_isName`).

The same commands are told by a regular expression: a name (`Assignment.namePattern`), an
equals sign and a value (`Assignment.valuePattern`), whose two alternatives overlap. It is tried
as such expressions are, longer runs and earlier alternatives first (`Assignment.firstMatch?`).
The order does not matter in the end: every way to split a command gives the same name.
-/

namespace InstallPlan

namespace Assignment

/-! ## The grammar of an assignment -/

/-- Whether a character is an ASCII letter or an underscore. -/
def StartsName (c : Char) : Prop := ('A' ≤ c ∧ c ≤ 'Z') ∨ ('a' ≤ c ∧ c ≤ 'z') ∨ c = '_'

/-- Whether a character is an ASCII letter, an ASCII digit or an underscore. -/
def ContinuesName (c : Char) : Prop := StartsName c ∨ ('0' ≤ c ∧ c ≤ '9')

/-- A text that can be assigned: double quotes with none in between, or no blank at all. -/
inductive Value : List Char → Prop
  | quoted {text : List Char} (bare : '"' ∉ text) : Value ('"' :: (text ++ ['"']))
  | solid {text : List Char} (inked : ∀ c ∈ text, isBlank c = false) : Value text

/-- Whether a command assigns a name and does nothing else. -/
def Assigns (command name : String) : Prop :=
  ∃ first rest value, name.toList = first :: rest ∧ StartsName first ∧
    (∀ c ∈ rest, ContinuesName c) ∧ command.toList = name.toList ++ '=' :: value ∧ Value value

theorem isNameStart_iff (c : Char) : isNameStart c = true ↔ StartsName c := by
  simp [isNameStart, Char.isAlpha, Char.isUpper, Char.isLower, StartsName, Char.le_def, or_assoc]

theorem isNamePart_iff (c : Char) : isNamePart c = true ↔ ContinuesName c := by
  simp [isNamePart, isNameStart_iff, Char.isDigit, ContinuesName, Char.le_def]

theorem isName_iff (text : List Char) :
    isName text = true ↔
      ∃ first rest, text = first :: rest ∧ StartsName first ∧ ∀ c ∈ rest, ContinuesName c := by
  cases text with
  | nil => simp [isName]
  | cons c rest =>
    simp only [isName, Bool.and_eq_true, List.all_eq_true, isNameStart_iff, isNamePart_iff]
    constructor
    · rintro ⟨hc, hrest⟩
      exact ⟨c, rest, rfl, hc, hrest⟩
    · rintro ⟨_, _, ⟨⟩, hc, hrest⟩
      exact ⟨hc, hrest⟩

theorem isNamePart_of_mem {name : List Char} (h : isName name = true) :
    ∀ c ∈ name, isNamePart c = true := by
  cases name with
  | nil => exact fun _ hmem => absurd hmem List.not_mem_nil
  | cons c rest =>
    obtain ⟨hc, hrest⟩ := Bool.and_eq_true_iff.1 h
    exact List.forall_mem_cons.2 ⟨by simp [isNamePart, hc], List.all_eq_true.1 hrest⟩

/-! ## Values -/

theorem isQuotedValue_iff (text : List Char) :
    isQuotedValue ('"' :: (text ++ ['"'])) ↔ '"' ∉ text := by
  rw [isQuotedValue, beq_iff_eq]
  induction text with
  | nil => simp
  | cons c text ih =>
    by_cases hc : c = '"'
    · simp [hc]
    · simpa [hc, Ne.symm hc] using ih

/-- What starts with a quote and has one more, at the end, stands between the two. -/
theorem eq_of_isQuotedValue {value : List Char} (h : isQuotedValue value = true) :
    ∃ text, value = '"' :: (text ++ ['"']) := by
  unfold isQuotedValue at h
  split at h
  · rename_i rest
    have hsplit := List.takeWhile_append_dropWhile (p := fun c => decide (c ≠ '"')) (l := rest)
    rw [beq_iff_eq.1 h] at hsplit
    exact ⟨_, congrArg (List.cons '"') hsplit.symm⟩
  · cases h

theorem isValue_iff (value : List Char) : isValue value = true ↔ Value value := by
  rw [isValue, Bool.or_eq_true, List.all_eq_true]
  constructor
  · rintro (hquoted | hsolid)
    · obtain ⟨text, rfl⟩ := eq_of_isQuotedValue hquoted
      exact .quoted ((isQuotedValue_iff text).1 hquoted)
    · exact .solid fun c hc => by simpa using hsolid c hc
  · rintro (hbare | hinked)
    · exact .inl ((isQuotedValue_iff _).2 hbare)
    · exact .inr fun c hc => by simp [hinked c hc]

/-- A value does not end in a blank. -/
theorem not_value_concat_of_blank {c : Char} (hblank : isBlank c = true) (text : List Char) :
    ¬ Value (text ++ [c]) := by
  intro h
  generalize hvalue : text ++ [c] = value at h
  cases h with
  | quoted bare =>
    rw [← List.cons_append] at hvalue
    obtain rfl : c = '"' := by simpa using (List.append_inj' hvalue rfl).2
    exact absurd hblank (by decide)
  | solid inked =>
    have hink := inked c (by simp [← hvalue])
    rw [hblank] at hink
    cases hink

/-! ## Commands -/

/-- A name in front of an equals sign is the one that is assigned, if anything is. -/
theorem target?_of_isName {command : String} {name value : List Char}
    (hcommand : command.toList = name ++ '=' :: value) (hname : isName name = true) :
    target? command = if isValue value then some (String.ofList name) else none := by
  have hparts := isNamePart_of_mem hname
  have hequals : isNamePart '=' = false := by decide
  have htake : command.toList.takeWhile isNamePart = name := by
    rw [hcommand, List.takeWhile_append_of_pos hparts,
      List.takeWhile_cons_of_neg (by simp [hequals]), List.append_nil]
  have hdrop : command.toList.dropWhile isNamePart = '=' :: value := by
    rw [hcommand, List.dropWhile_append_of_pos hparts,
      List.dropWhile_cons_of_neg (by simp [hequals])]
  simp only [target?, hdrop, htake, hname, Bool.true_and]

theorem target?_eq_some_iff {command name : String} :
    target? command = some name ↔ Assigns command name := by
  constructor
  · intro h
    have hsplit := List.takeWhile_append_dropWhile (p := isNamePart) (l := command.toList)
    unfold target? at h
    dsimp only at h
    split at h
    · rename_i value hvalue
      split at h
      · rename_i hboth
        obtain ⟨hname, hvalid⟩ := Bool.and_eq_true_iff.1 hboth
        obtain rfl := Option.some.inj h
        obtain ⟨first, rest, hfirst, hstart, hrest⟩ := (isName_iff _).1 hname
        refine ⟨first, rest, value, ?_, hstart, hrest, ?_, (isValue_iff value).1 hvalid⟩
        · rw [String.toList_ofList, hfirst]
        · rw [String.toList_ofList, ← hvalue, hsplit]
      · cases h
    · cases h
  · rintro ⟨first, rest, value, hfirst, hstart, hrest, hcommand, hvalue⟩
    have hname := (isName_iff name.toList).2 ⟨first, rest, hfirst, hstart, hrest⟩
    rw [target?_of_isName hcommand hname, if_pos ((isValue_iff value).2 hvalue),
      String.ofList_toList]

/-- A command assigns one name at most. -/
theorem Assigns.unique {command name other : String} (h : Assigns command name)
    (hother : Assigns command other) : name = other := by
  rw [← target?_eq_some_iff] at h hother
  exact Option.some.inj (h.symm.trans hother)

/-- No command that ends in a blank is an assignment. -/
theorem target?_push_of_blank (command : String) {c : Char} (hblank : isBlank c = true) :
    target? (command.push c) = none := by
  rw [Option.eq_none_iff_forall_ne_some]
  intro name h
  obtain ⟨_, _, value, hfirst, hstart, hrest, hcommand, hvalue⟩ := target?_eq_some_iff.1 h
  rw [String.toList_push] at hcommand
  rcases List.eq_nil_or_concat' value with rfl | ⟨text, last, rfl⟩
  · obtain rfl : c = '=' := by simpa using (List.append_inj' hcommand rfl).2
    exact absurd hblank (by decide)
  · rw [← List.cons_append, ← List.append_assoc] at hcommand
    obtain rfl : c = last := by simpa using (List.append_inj' hcommand rfl).2
    exact not_value_concat_of_blank hblank text hvalue

/-! ## The regular expression -/

/-- A regular expression, as far as one is needed here: only characters are repeated. -/
inductive Pattern where
  | one (accepts : Char → Bool)
  | many (accepts : Char → Bool)
  | followed (first second : Pattern)
  | either (first second : Pattern)

namespace Pattern

/-- The ways to run along a text: what is taken and what is left, the longest run first. -/
def runs (accepts : Char → Bool) : List Char → List (List Char × List Char)
  | [] => [([], [])]
  | c :: text =>
    (if accepts c then (runs accepts text).map fun run => (c :: run.1, run.2) else [])
      ++ [([], c :: text)]

/-- The ways in which an expression takes the start of a text, in the order in which they
are tried. -/
def splits : Pattern → List Char → List (List Char × List Char)
  | one _, [] => []
  | one accepts, c :: text => if accepts c then [([c], text)] else []
  | many accepts, text => runs accepts text
  | followed first second, text =>
    (first.splits text).flatMap fun before =>
      (second.splits before.2).map fun behind => (before.1 ++ behind.1, behind.2)
  | either first second, text => first.splits text ++ second.splits text

/-- The texts that an expression stands for. -/
def Accepts : Pattern → List Char → Prop
  | one accepts, text => ∃ c, accepts c = true ∧ text = [c]
  | many accepts, text => ∀ c ∈ text, accepts c = true
  | followed first second, text =>
    ∃ before behind, text = before ++ behind ∧ first.Accepts before ∧ second.Accepts behind
  | either first second, text => first.Accepts text ∨ second.Accepts text

theorem mem_runs {accepts : Char → Bool} {text taken rest : List Char} :
    (taken, rest) ∈ runs accepts text ↔
      text = taken ++ rest ∧ ∀ c ∈ taken, accepts c = true := by
  induction text generalizing taken with
  | nil =>
    rw [runs, List.mem_singleton, Prod.mk.injEq]
    constructor
    · rintro ⟨rfl, rfl⟩
      exact ⟨rfl, fun _ hmem => absurd hmem List.not_mem_nil⟩
    · rintro ⟨h, -⟩
      exact List.append_eq_nil_iff.1 h.symm
  | cons c text ih => cases taken <;> grind [runs]

/-- An expression takes exactly the starts of a text that it stands for. -/
theorem mem_splits {pattern : Pattern} {text taken rest : List Char} :
    (taken, rest) ∈ pattern.splits text ↔ text = taken ++ rest ∧ pattern.Accepts taken := by
  induction pattern generalizing text taken rest with
  | one accepts =>
    cases text <;> grind [splits, Accepts]
  | many accepts => exact mem_runs
  | followed first second ihfirst ihsecond =>
    simp only [splits, Accepts, List.mem_flatMap, List.mem_map, Prod.exists, ihfirst, ihsecond,
      Prod.mk.injEq]
    constructor
    · rintro ⟨before, _, ⟨rfl, hbefore⟩, behind, _, ⟨rfl, hbehind⟩, rfl, rfl⟩
      exact ⟨(List.append_assoc _ _ _).symm, before, behind, rfl, hbefore, hbehind⟩
    · rintro ⟨rfl, before, behind, rfl, hbefore, hbehind⟩
      exact ⟨before, behind ++ rest, ⟨List.append_assoc _ _ _, hbefore⟩, behind, rest,
        ⟨rfl, hbehind⟩, rfl, rfl⟩
  | either first second ihfirst ihsecond =>
    simp only [splits, Accepts, List.mem_append, ihfirst, ihsecond]
    exact and_or_left.symm

end Pattern

/-- The expression for a name. -/
def namePattern : Pattern := .followed (.one isNameStart) (.many isNamePart)

/-- The expression for a value: quotes are tried first. -/
def valuePattern : Pattern :=
  .either (.followed (.one (· = '"')) (.followed (.many (· ≠ '"')) (.one (· = '"'))))
    (.many fun c => !isBlank c)

/-- The name in the first way to split a whole command into a name, an equals sign and a
value. -/
def firstMatch? (command : String) : Option String :=
  (namePattern.splits command.toList).findSome? fun name =>
    if ((Pattern.followed (.one (· = '=')) valuePattern).splits name.2).any (·.2 = [])
    then some (String.ofList name.1) else none

theorem accepts_namePattern (text : List Char) :
    namePattern.Accepts text ↔ isName text = true := by
  constructor
  · rintro ⟨_, rest, rfl, ⟨c, hc, rfl⟩, hrest⟩
    exact Bool.and_eq_true_iff.2 ⟨hc, List.all_eq_true.2 hrest⟩
  · intro h
    cases text with
    | nil => cases h
    | cons c rest =>
      obtain ⟨hc, hrest⟩ := Bool.and_eq_true_iff.1 h
      exact ⟨[c], rest, rfl, ⟨c, hc, rfl⟩, List.all_eq_true.1 hrest⟩

theorem accepts_valuePattern (text : List Char) : valuePattern.Accepts text ↔ Value text := by
  constructor
  · rintro (⟨_, _, rfl, ⟨_, hopen, rfl⟩, inside, _, rfl, hinside, _, hclose, rfl⟩ | hsolid)
    · obtain rfl := of_decide_eq_true hopen
      obtain rfl := of_decide_eq_true hclose
      exact .quoted fun hmem => of_decide_eq_true (hinside _ hmem) rfl
    · exact .solid fun c hc => by simpa using hsolid c hc
  · rintro (hbare | hinked)
    · rename_i text
      refine .inl ⟨['"'], text ++ ['"'], rfl, ⟨_, rfl, rfl⟩, text, ['"'], rfl, ?_, _, rfl, rfl⟩
      exact fun c hc => decide_eq_true (ne_of_mem_of_not_mem hc hbare)
    · exact .inr fun c hc => by simp [hinked c hc]

/-- What is behind a name matches if it is an equals sign and a value, and nothing else. -/
theorem any_splits_iff (text : List Char) :
    ((Pattern.followed (.one (· = '=')) valuePattern).splits text).any (·.2 = []) = true ↔
      ∃ value, text = '=' :: value ∧ Value value := by
  simp only [List.any_eq_true, decide_eq_true_eq, Prod.exists, Pattern.mem_splits]
  constructor
  · rintro ⟨_, _, ⟨rfl, _, value, rfl, ⟨_, hequals, rfl⟩, hvalue⟩, rfl⟩
    obtain rfl := of_decide_eq_true hequals
    exact ⟨value, by simp, (accepts_valuePattern value).1 hvalue⟩
  · rintro ⟨value, rfl, hvalue⟩
    exact ⟨'=' :: value, [], ⟨by simp, ['='], value, rfl, ⟨_, rfl, rfl⟩,
      (accepts_valuePattern value).2 hvalue⟩, rfl⟩

theorem firstMatch?_eq_target? (command : String) : firstMatch? command = target? command := by
  -- every way to split the command is an assignment, and there is one if it is an assignment
  have hsound : ∀ name, firstMatch? command = some name → Assigns command name := by
    intro name h
    obtain ⟨⟨taken, rest⟩, hmem, hmatch⟩ := List.exists_of_findSome?_eq_some h
    obtain ⟨hcommand, htaken⟩ := Pattern.mem_splits.1 hmem
    split at hmatch
    · rename_i hany
      obtain rfl := Option.some.inj hmatch
      obtain ⟨value, rfl, hvalue⟩ := (any_splits_iff _).1 hany
      obtain ⟨first, more, hfirst, hstart, hmore⟩ :=
        (isName_iff taken).1 ((accepts_namePattern taken).1 htaken)
      exact ⟨first, more, value, by rw [String.toList_ofList, hfirst], hstart, hmore,
        by rw [String.toList_ofList, hcommand], hvalue⟩
    · cases hmatch
  have hcomplete : ∀ name, Assigns command name → (firstMatch? command).isSome := by
    rintro name ⟨first, more, value, hfirst, hstart, hmore, hcommand, hvalue⟩
    have hname := (isName_iff name.toList).2 ⟨first, more, hfirst, hstart, hmore⟩
    rw [firstMatch?, List.findSome?_isSome_iff]
    refine ⟨(name.toList, '=' :: value), ?_, ?_⟩
    · exact Pattern.mem_splits.2 ⟨hcommand, (accepts_namePattern _).2 hname⟩
    · rw [if_pos ((any_splits_iff _).2 ⟨value, rfl, hvalue⟩)]
      rfl
  refine Option.ext fun name => ?_
  rw [target?_eq_some_iff]
  constructor
  · exact hsound name
  · intro h
    obtain ⟨other, hother⟩ := Option.isSome_iff_exists.1 (hcomplete name h)
    rw [hother, h.unique (hsound other hother)]

/-- **Recognition.** A command assigns a name, and does nothing else, exactly if it is that
name, an equals sign and a value; then it assigns no other one, and the first match of the
regular expression captures that name. A command that is no assignment has no name, and one
is none as soon as a line feed or any other blank is put at its end. -/
theorem recognises_assignments (command : String) :
    (∀ name, target? command = some name ↔ Assigns command name) ∧
    (∀ name other, Assigns command name → Assigns command other → name = other) ∧
    (target? command = none ↔ ∀ name, ¬ Assigns command name) ∧
    (∀ c, isBlank c = true → target? (command.push c) = none) ∧
    firstMatch? command = target? command := by
  refine ⟨fun name => target?_eq_some_iff, fun _ _ h hother => h.unique hother, ?_,
    fun c hblank => target?_push_of_blank command hblank, firstMatch?_eq_target? command⟩
  rw [Option.eq_none_iff_forall_ne_some]
  exact forall_congr' fun name => not_congr target?_eq_some_iff

/-- A value that begins with a quoted text and goes on behind it. -/
theorem recognises_assignments_adjacent :
    let command := "_x1=\"b\"c"
    Assigns command "_x1" ∧ isBlank '\n' = true ∧ target? (command.push '\n') = none := by
  intro command
  obtain ⟨hassigns, -, -, hblank, -⟩ := recognises_assignments command
  have hfeed : isBlank '\n' = true := by decide
  exact ⟨(hassigns "_x1").1 (by decide), hfeed, hblank '\n' hfeed⟩

end Assignment

end InstallPlan
