import InstallPlan.Proofs.Recognition
import InstallPlan.Proofs.Rehearsing

/-!
# Inheriting

What a shell of a rehearsed run starts with. The variables that were captured are put into
the environment of its process (`World.withVariables`), where the name of each has the
captured value and no other, and every other name has what it had in the program's own
(`World.asking_value?`). A shell takes its environment over as variables of its own
(`Starting.inherit`), but for a few that it sets itself; so a script finds a captured value
under its name (`Job.shells_inherit`).
-/

namespace InstallPlan

namespace Rehearsal

/-! ## Raw texts -/

theorem Raw.ofText_inj {text other : String} :
    Raw.ofText text = Raw.ofText other ↔ text = other := by
  constructor
  · intro h
    have hoctets := congrArg Raw.toOctets h
    rw [ofText, ofText, toOctets_ofOctets, toOctets_ofOctets] at hoctets
    exact Utf8.encode_inj.1 hoctets
  · rintro rfl
    rfl

/-- A text of ASCII characters is its own raw text. -/
theorem Raw.ofText_of_ascii {text : String} (h : ∀ c ∈ text.toList, c.toNat < 0x80) :
    Raw.ofText text = text.toList := by
  rw [ofText, ofOctets, Utf8.encode]
  generalize text.toList = chars at h ⊢
  induction chars with
  | nil => rfl
  | cons c rest ih =>
    obtain ⟨hc, hrest⟩ := List.forall_mem_cons.1 h
    rw [List.flatMap_cons, Utf8.utf8EncodeChar_of_lt hc, List.singleton_append, List.map_cons,
      ih hrest]
    rw [UInt8.toNat_ofNat', Nat.mod_eq_of_lt (by omega), Char.ofNat_toNat]

theorem Raw.ofText_of_isName {name : String} (h : isName name.toList) :
    Raw.ofText name = name.toList := by
  refine ofText_of_ascii fun c hc => ?_
  have hpart := (Assignment.isNamePart_iff c).1 (Assignment.isNamePart_of_mem h c hc)
  simp only [Assignment.ContinuesName, Assignment.StartsName, Char.le_def,
    UInt32.le_iff_toNat_le] at hpart
  change c.val.toNat < 0x80
  rcases hpart with (⟨-, hle⟩ | ⟨-, hle⟩ | rfl) | ⟨-, hle⟩
  · exact Nat.lt_of_le_of_lt hle (by decide)
  · exact Nat.lt_of_le_of_lt hle (by decide)
  · decide
  · exact Nat.lt_of_le_of_lt hle (by decide)

/-! ## Entries that are replaced -/

section

variable {α : Type} {entries : List (Raw × α)} {name other : Raw}

theorem find?_replaced (h : (entries.find? (·.1 = name)).isSome) (x : α) :
    (entries.map fun e => if e.1 = name then (name, x) else e).find? (·.1 = name) =
      some (name, x) := by
  induction entries with
  | nil => simp at h
  | cons entry rest ih =>
    by_cases hentry : entry.1 = name
    · simp [hentry]
    · rw [List.find?_cons_of_neg (by simpa using hentry)] at h
      rw [List.map_cons, if_neg hentry, List.find?_cons_of_neg (by simpa using hentry), ih h]

theorem find?_replaced_of_ne (hne : other ≠ name) (x : α) :
    (entries.map fun e => if e.1 = name then (name, x) else e).find? (·.1 = other) =
      entries.find? (·.1 = other) := by
  induction entries with
  | nil => rfl
  | cons entry rest ih =>
    by_cases hentry : entry.1 = name
    · have hother : entry.1 ≠ other := fun h => hne (h.symm.trans hentry)
      rw [List.map_cons, if_pos hentry, List.find?_cons_of_neg (by simpa using Ne.symm hne), ih,
        List.find?_cons_of_neg (by simpa using hother)]
    · rw [List.map_cons, if_neg hentry, List.find?_cons, List.find?_cons, ih]

theorem find?_append_of_ne (hne : other ≠ name) (x : α) :
    (entries ++ [(name, x)]).find? (·.1 = other) = entries.find? (·.1 = other) := by
  rw [List.find?_append, List.find?_cons_of_neg (by simpa using Ne.symm hne), List.find?_nil,
    Option.or_none]

theorem find?_filter_of_ne {κ : Type} [DecidableEq κ] {entries : List (κ × α)} {key other : κ}
    (hne : other ≠ key) :
    (entries.filter (·.1 ≠ key)).find? (·.1 = other) = entries.find? (·.1 = other) := by
  rw [List.find?_filter]
  congr 1
  funext entry
  by_cases h : entry.1 = other <;> simp [h, hne]

end

/-! ## The environment -/

/-- Whether an environment has a value under a name, and no other. -/
def Carries (environment : List (Raw × Raw)) (name value : Raw) : Prop :=
  (name, value) ∈ environment ∧ ∀ other, (name, other) ∈ environment → other = value

namespace Carries

variable {environment : List (Raw × Raw)} {name value other : Raw}

theorem find?_eq (h : Carries environment name value) :
    environment.find? (·.1 = name) = some (name, value) := by
  cases hfound : environment.find? (·.1 = name) with
  | none =>
    have hnone := List.find?_eq_none.1 hfound _ h.1
    simp at hnone
  | some entry =>
    obtain rfl : entry.1 = name := by simpa using List.find?_some hfound
    rw [← h.2 entry.2 (List.mem_of_find?_eq_some hfound)]

theorem withVariable_self (environment : List (Raw × Raw)) (name value : Raw) :
    Carries (Errand.withVariable environment name value) name value := by
  unfold Errand.withVariable
  split
  · rename_i hany
    obtain ⟨entry, hmem, hname⟩ := List.any_eq_true.1 hany
    refine ⟨List.mem_map.2 ⟨entry, hmem, if_pos (by simpa using hname)⟩, ?_⟩
    intro other hother
    obtain ⟨entry, -, hentry⟩ := List.mem_map.1 hother
    split at hentry
    · exact (Prod.mk.inj hentry).2.symm
    · rename_i hne
      exact absurd (congrArg Prod.fst hentry) hne
  · rename_i hnone
    refine ⟨List.mem_append_right _ (List.mem_singleton_self _), ?_⟩
    intro other hother
    rcases List.mem_append.1 hother with hmem | hmem
    · exact absurd (List.any_eq_true.2 ⟨_, hmem, by simp⟩) hnone
    · exact (Prod.mk.inj (List.mem_singleton.1 hmem)).2

theorem withVariable (h : Carries environment name value) (hne : other ≠ name) (v : Raw) :
    Carries (Errand.withVariable environment other v) name value := by
  have hmem (x : Raw) :
      (name, x) ∈ Errand.withVariable environment other v ↔ (name, x) ∈ environment := by
    unfold Errand.withVariable
    split
    · constructor
      · intro hmem
        obtain ⟨entry, hentry, heq⟩ := List.mem_map.1 hmem
        split at heq
        · exact absurd (congrArg Prod.fst heq) hne
        · rwa [← heq]
      · intro hmem
        exact List.mem_map.2 ⟨_, hmem, if_neg (Ne.symm hne)⟩
    · simp [Ne.symm hne]
  exact ⟨(hmem value).2 h.1, fun x hx => h.2 x ((hmem x).1 hx)⟩

end Carries

theorem Errand.find?_withVariable_of_ne {environment : List (Raw × Raw)} {name other : Raw}
    (hne : name ≠ other) (value : Raw) :
    (withVariable environment other value).find? (·.1 = name) = environment.find? (·.1 = name) := by
  unfold withVariable
  split
  · exact find?_replaced_of_ne hne value
  · exact find?_append_of_ne hne value

namespace World

variable {added : List Variable} {environment : List (Raw × Raw)} {name value : Raw}

theorem carries_withVariables_of_ne (h : Carries environment name value)
    (hname : ∀ v ∈ added, Raw.ofText v.1 ≠ name) :
    Carries (withVariables added environment) name value := by
  induction added generalizing environment with
  | nil => exact h
  | cons v rest ih =>
    obtain ⟨hv, hrest⟩ := List.forall_mem_cons.1 hname
    exact ih (h.withVariable hv _) hrest

/-- Of variables with names of their own each has its value. -/
theorem carries_withVariables (hnodup : (added.map Prod.fst).Nodup) {v : Variable}
    (hv : v ∈ added) (environment : List (Raw × Raw)) :
    Carries (withVariables added environment) (Raw.ofText v.1) (Raw.ofText v.2) := by
  induction added generalizing environment with
  | nil => cases hv
  | cons first rest ih =>
    rw [List.map_cons, List.nodup_cons] at hnodup
    rcases List.mem_cons.1 hv with rfl | hv
    · have hfirst := Carries.withVariable_self environment (Raw.ofText v.1) (Raw.ofText v.2)
      have hrest : ∀ w ∈ rest, Raw.ofText w.1 ≠ Raw.ofText v.1 := by
        intro w hw hsame
        exact hnodup.1 (Raw.ofText_inj.1 hsame ▸ List.mem_map_of_mem hw)
      show Carries (withVariables rest (Errand.withVariable environment _ _)) _ _
      exact carries_withVariables_of_ne hfirst hrest
    · exact ih hnodup.2 hv _

theorem find?_withVariables_of_ne (hname : ∀ v ∈ added, Raw.ofText v.1 ≠ name) :
    (withVariables added environment).find? (·.1 = name) = environment.find? (·.1 = name) := by
  induction added generalizing environment with
  | nil => rfl
  | cons v rest ih =>
    obtain ⟨hv, hrest⟩ := List.forall_mem_cons.1 hname
    exact (ih hrest).trans (Errand.find?_withVariable_of_ne (Ne.symm hv) _)

end World

/-! ## The variables of a shell -/

namespace Starting

variable {settings : List (Raw × Setting)} {name value other : Raw}

/-- Whether a shell has a variable that it passes on, with a value. -/
def Tells (settings : List (Raw × Setting)) (name value : Raw) : Prop :=
  ∃ setting, settings.find? (·.1 = name) = some (name, setting) ∧
    setting.value = some (.text value) ∧ setting.exported = true

/-- The variables that a shell sets itself, whatever its environment holds. -/
def ownNames : List Raw :=
  [raw "IFS", raw "OPTIND", raw "PPID", raw "PWD", raw "SHLVL"]

theorem tells_inherit (hname : isName name) (hown : name ∉ ownNames)
    (settings : List (Raw × Setting)) (value : Raw) :
    Tells (inherit settings name value) name value := by
  simp only [ownNames, List.mem_cons, not_or] at hown
  obtain ⟨hseparators, hplace, hparent, -⟩ := hown
  simp only [inherit, hname, Bool.not_true, Bool.false_eq_true, if_false, hseparators, hplace,
    hparent, decide_false, Bool.or_self]
  cases hfound : settings.find? (·.1 = name) with
  | none =>
    refine ⟨{ value := some (.text value), exported := true }, ?_, rfl, rfl⟩
    rw [List.find?_append, hfound, Option.none_or]
    simp
  | some entry =>
    exact ⟨{ entry.2 with value := some (.text value), exported := true },
      find?_replaced (by rw [hfound]; rfl) _, rfl, rfl⟩

theorem Tells.inherit (h : Tells settings name value) (hne : other ≠ name) (v : Raw) :
    Tells (inherit settings other v) name value := by
  obtain ⟨setting, hsetting, htold⟩ := h
  refine ⟨setting, ?_, htold⟩
  unfold Starting.inherit
  split
  · exact hsetting
  · split
    · rw [find?_replaced_of_ne (Ne.symm hne), hsetting]
    · rw [find?_append_of_ne (Ne.symm hne), hsetting]

/-- A shell takes over what its environment has under a name, if it is nothing but that. -/
theorem tells_foldl {environment : List (Raw × Raw)} (hname : isName name)
    (hown : name ∉ ownNames) (honly : ∀ v, (name, v) ∈ environment → v = value)
    (h : Tells settings name value ∨ (name, value) ∈ environment) :
    Tells (environment.foldl (fun settings v => inherit settings v.1 v.2) settings) name value := by
  -- an entry is either the one that is told or of another name, which leaves what was told
  induction environment generalizing settings with
  | nil => simpa using h
  | cons entry rest ih =>
    refine ih (fun v hv => honly v (List.mem_cons_of_mem _ hv)) ?_
    by_cases hentry : entry.1 = name
    · subst hentry
      obtain rfl : entry.2 = value := honly entry.2 List.mem_cons_self
      exact .inl (tells_inherit hname hown settings entry.2)
    · rcases h with h | hmem
      · exact .inl (h.inherit hentry entry.2)
      · rcases List.mem_cons.1 hmem with rfl | hmem
        · exact absurd rfl hentry
        · exact .inr hmem

theorem value?_fresh {process : Process} (hname : isName name) (hown : name ∉ ownNames)
    (h : Carries process.environment name value) (rich : Bool) (word : Raw) :
    (fresh rich word process).value? name = some value := by
  have htells : Tells (settingsFrom rich process.environment) name value :=
    tells_foldl hname hown h.2 (.inr h.1)
  obtain ⟨setting, hsetting, hvalue, -⟩ := htells
  simp only [ownNames, List.mem_cons, not_or] at hown
  obtain ⟨-, -, -, hplace, hlevel, -⟩ := hown
  -- only the working directory and the level are set once the environment is taken over
  have hfresh : (fresh rich word process).settings.find? (·.1 = name) =
      (settingsFrom rich process.environment).find? (·.1 = name) := by
    cases rich
    · simp only [fresh, Bool.false_eq_true, if_false, List.append_nil, List.foldl_cons,
        List.foldl_nil]
      rw [find?_append_of_ne hplace, find?_filter_of_ne hplace]
    · simp only [fresh, if_true, List.singleton_append, List.foldl_cons, List.foldl_nil]
      rw [find?_append_of_ne hlevel, find?_filter_of_ne hlevel, find?_append_of_ne hplace,
        find?_filter_of_ne hplace]
  rw [Shell.value?, Shell.setting?, hfresh, hsetting, Option.map_some,
    Option.bind_some, hvalue]
  rfl

end Starting

/-! ## The process of a shell -/

theorem Process.stream?_lead_of_ne {process : Process} {channel other : Nat}
    (hne : other ≠ channel) (stream : Option Nat) :
    (process.lead channel stream).stream? other = process.stream? other := by
  rw [stream?, lead, List.find?_append, find?_filter_of_ne hne]
  cases stream <;> simp [stream?, hne.symm]

namespace World

/-- A process of its own has the directory, the environment, the files and the input of the
process that it is made from. -/
theorem forShell_eq (process : Process) :
    let own := (forShell process).1
    own.here = process.here ∧ own.environment = process.environment ∧ own.tree = process.tree ∧
      own.stream? 0 = process.stream? 0 := by
  refine ⟨rfl, rfl, rfl, ?_⟩
  let opened := (process.adding { origin := .pipe [], reads := false }).2
  let both := (opened.adding { origin := .pipe [], reads := false }).2
  let output := (process.adding { origin := .pipe [], reads := false }).1
  let errors := (opened.adding { origin := .pipe [], reads := false }).1
  show ((both.lead 1 (some output)).lead 2 (some errors)).stream? 0 = both.stream? 0
  rw [Process.stream?_lead_of_ne (by decide), Process.stream?_lead_of_ne (by decide)]

end World

end Rehearsal

/-! ## Captured variables -/

open Rehearsal

/-- Whether variables have names of their own, all of them names of variables. -/
structure Named (captures : List Variable) : Prop where
  nodup : (captures.map Prod.fst).Nodup
  isName : ∀ v ∈ captures, isName v.1.toList

namespace Named

variable {shell : String} {captures after : List Variable} {commands : List String}
  {exchanges : List Exchange} {fault : Option Fault}

theorem nil : Named [] := ⟨List.nodup_nil, by simp⟩

theorem capturesAfter (h : Named captures) (command : String) (reply : Reply) :
    Named (Execute.capturesAfter command reply captures) := by
  unfold Execute.capturesAfter
  split
  · rename_i name value hcaptured
    refine ⟨?_, ?_⟩
    · rw [Execute.assign, List.map_append, List.nodup_append]
      refine ⟨h.nodup.sublist (List.filter_sublist.map _), by simp, ?_⟩
      intro other hother last hlast
      obtain ⟨v, hv, rfl⟩ := List.mem_map.1 hother
      obtain rfl := List.mem_singleton.1 hlast
      simpa using (List.mem_filter.1 hv).2
    · intro v hv
      rcases List.mem_append.1 hv with hv | hv
      · exact h.isName v (List.mem_filter.1 hv).1
      · obtain rfl := List.mem_singleton.1 hv
        exact Execute.isName_of_captured? hcaptured
  · exact h

theorem of_course (h : Named captures)
    (hcourse : Execute.Course shell captures commands exchanges after fault) :
    ∀ exchange ∈ exchanges, Named exchange.request.environment := by
  induction hcourse with
  | done => simp
  | next hreply rest ih => exact List.forall_mem_cons.2 ⟨h, ih (h.capturesAfter _ _)⟩
  | stop hfault => exact List.forall_mem_cons.2 ⟨h, by simp⟩

end Named

theorem Job.named_of_mem {η : Type} (job : Job) (machine : Machine η) (state : η)
    {exchange : Exchange}
    (hmem : exchange ∈ (job.run machine.recorded (state, [])).state.2) :
    Named exchange.request.environment := by
  cases hload : Specification.ofOctets (Source.ofPath? job.source)
    (machine.read (Source.ofPath? job.source) state).1 with
  | error failure =>
    rw [run_of_error job machine.recorded (state, []) hload] at hmem
    cases hmem
  | ok spec =>
    by_cases hmode : job.mode = .exec
    · obtain ⟨after, fault, hcourse, -⟩ := job.run_exec_course hmode machine state hload
      exact Named.nil.of_course hcourse exchange hmem
    · rw [job.state_run_of_ne_exec hmode machine.recorded (state, [])] at hmem
      cases hmem

/-- **Inheriting.** Every shell of a rehearsed run starts in the program's directory and reads
the program's input, whatever the shells before did to their own. Its environment is the
program's own with the variables captured so far, and each of these is a variable of the shell
itself with the captured value, unless the shell sets it in any case. Only what the shells
before did to the files is seen. -/
theorem Job.shells_inherit {machine : Machine World} (h : World.Rehearses machine) (job : Job)
    (world : World) :
    let outcome := job.run machine.recorded (world, [])
    ∀ exchange ∈ outcome.state.2, ∃ during : World,
      world.process.Keeps during.process ∧
      exchange.reply = (World.host exchange.request during).1 ∧
      let captured := exchange.request.environment
      let shell := (World.forShell (during.asking exchange.request)).1
      shell.here = world.process.here ∧
      shell.stream? 0 = world.process.stream? 0 ∧
      shell.tree = during.process.tree ∧
      (∀ name, (∀ v ∈ captured, Raw.ofText v.1 ≠ name) →
        shell.value? name = world.process.value? name) ∧
      ∀ v ∈ captured,
        shell.value? (Raw.ofText v.1) = some (Raw.ofText v.2) ∧
        (Raw.ofText v.1 ∉ Starting.ownNames → ∀ rich word,
          (Starting.fresh rich word shell).value? (Raw.ofText v.1) = some (Raw.ofText v.2)) := by
  intro outcome exchange hmem
  have hnamed := job.named_of_mem machine world hmem
  obtain ⟨-, -, -, hduring, -⟩ := job.run_rehearsed h world
  obtain ⟨during, hkeeps, hreply⟩ := hduring exchange hmem
  refine ⟨during, hkeeps, hreply, ?_⟩
  intro captured shell
  obtain ⟨hhere, henvironment, htree, hinput⟩ := World.forShell_eq (during.asking exchange.request)
  have hasked : shell.environment = World.withVariables captured world.process.environment := by
    rw [henvironment, ← hkeeps.environment_eq]
    rfl
  refine ⟨hhere.trans hkeeps.here_eq, ?_, htree, ?_, ?_⟩
  · rw [hinput, Process.stream?, Process.stream?, ← hkeeps.channels_eq]
    rfl
  · intro name hname
    rw [Process.value?, hasked, World.find?_withVariables_of_ne hname]
    rfl
  · intro v hv
    have hcarries : Carries shell.environment (Raw.ofText v.1) (Raw.ofText v.2) :=
      hasked ▸ World.carries_withVariables hnamed.nodup hv _
    refine ⟨?_, ?_⟩
    · rw [Process.value?, hcarries.find?_eq]
      rfl
    · intro hown rich word
      have hname : isName (Raw.ofText v.1) := by
        rw [Raw.ofText_of_isName (hnamed.isName v hv)]
        exact hnamed.isName v hv
      exact Starting.value?_fresh hname hown hcarries rich word

/-- A script that prints a captured variable, where there is a shell and nothing else. -/
example :
    let tree := Tree.withNode [raw "bin", raw "sh"] { entry := .program "sh", mode := 0o755 } {}
    let request : Request := ⟨"sh", "printf '%s' \"$kernel\"", [("kernel", "6.1")]⟩
    (World.host request ⟨{ system := { tree } }⟩).1 =
      .ended (.exited 0) (Utf8.encode "6.1") [] := by
  decide +kernel

end InstallPlan
