import InstallPlan.CommandLine.Arguments
import InstallPlan.Proofs.Encoding
import InstallPlan.Proofs.Filling

/-!
# Choosing

Which root and which mode a run gets. The argument list is read one argument at a time, and
a value is not looked at before the next argument is understood; so what an argument does to
the draft is said once (`Arguments.Draft.Step`), and three facts are carried along a list.

* A value that has been given, looked at or not, is the one that the finished draft has
  (`Arguments.Draft.Given.readAll`).
* What no argument in front of `--` mentions is absent from it
  (`Arguments.Draft.Free.readAll`).
* Whatever it has was given by some octets (`Arguments.Draft.Sound.readAll`).

So an option that occurs in front of `--` decides alone, and the environment is asked only
for one that does not (`Options.ofArguments_chooses`).
-/

namespace InstallPlan

namespace Arguments

/-! ## What an argument looks like -/

/-- The name of the option that takes a value. A path stands for itself. -/
def Slot.name? : Slot → Option String
  | .specification => none
  | .installRoot => some "install-root"
  | .mode => some "mode"
  | .completions => some "completions"

theorem Slot.name?_installRoot : Slot.installRoot.name? = some "install-root" := rfl

theorem Slot.name?_mode : Slot.mode.name? = some "mode" := rfl

/-- Whether an argument is an option of some name, with a value attached to it or without. -/
def Mentions (name : String) (argument : Octets) : Prop :=
  argument = Utf8.encode ("--" ++ name) ∨
    ∃ value, argument = Utf8.encode ("--" ++ name ++ "=") ++ value

/-- Whether an option occurs in front of the argument that ends the options. -/
def Occurs (name : String) (arguments : List Octets) : Prop :=
  ∃ argument ∈ arguments.takeWhile (· ≠ divider), Mentions name argument

theorem encode_named (name : String) :
    Utf8.encode ("--" ++ name) = dash :: dash :: Utf8.encode name := by
  rw [Utf8.encode_append]
  rfl

theorem encode_attached (name : String) (value : Octets) :
    Utf8.encode ("--" ++ name ++ "=") ++ value =
      dash :: dash :: (Utf8.encode name ++ equals :: value) := by
  rw [Utf8.encode_append, encode_named, List.append_assoc]
  rfl

/-- The forms of an argument. -/
inductive Form (argument : Octets) : Prop
  | dashes (h : argument = divider)
  | named {name : Octets} (hne : name ≠ []) (hname : equals ∉ name)
      (h : argument = dash :: dash :: name)
  | attached {name value : Octets} (hname : equals ∉ name)
      (h : argument = dash :: dash :: (name ++ equals :: value))
  | letters {letter : UInt8} {rest : Octets} (hletter : letter ≠ dash)
      (h : argument = dash :: letter :: rest)
  | word (h : ∀ letter rest, argument ≠ dash :: letter :: rest)

/-- Every argument has one of the forms. -/
theorem form (argument : Octets) : Form argument := by
  by_cases hword : ∀ letter rest, argument ≠ dash :: letter :: rest
  · exact .word hword
  push Not at hword
  obtain ⟨letter, long, h⟩ := hword
  by_cases hletter : letter = dash
  · subst hletter
    have hsplit := List.takeWhile_append_dropWhile (p := (· ≠ equals)) (l := long)
    have hname : equals ∉ long.takeWhile (· ≠ equals) := by
      intro hmem
      simpa using List.mem_takeWhile_imp hmem
    cases hbehind : long.dropWhile (· ≠ equals) with
    | nil =>
      rw [hbehind, List.append_nil] at hsplit
      rw [hsplit] at hname
      by_cases hne : long = []
      · exact .dashes (by rw [h, hne, divider])
      · exact .named hne hname h
    | cons b value =>
      have hequals := List.head?_dropWhile_not (· ≠ equals) long
      rw [hbehind] at hequals hsplit
      obtain rfl : b = equals := by simpa using hequals
      exact .attached hname (by rw [h, hsplit])
  · exact .letters hletter h

theorem longMeaning?_eq_slot_iff {octets : Octets} {slot : Slot} :
    longMeaning? octets = some (.slot slot) ↔
      ∃ name, slot.name? = some name ∧ octets = Utf8.encode name := by
  constructor
  · intro h
    unfold longMeaning? at h
    split_ifs at h <;> cases h <;> exact ⟨_, rfl, ‹_›⟩
  · rintro ⟨name, h, rfl⟩
    cases slot <;> cases h <;> decide

theorem longMeaning?_encode {slot : Slot} {name : String} (h : slot.name? = some name) :
    longMeaning? (Utf8.encode name) = some (.slot slot) :=
  longMeaning?_eq_slot_iff.2 ⟨name, h, rfl⟩

theorem name?_spec {slot : Slot} {name : String} (h : slot.name? = some name) :
    Utf8.encode name ≠ [] ∧ equals ∉ Utf8.encode name := by
  cases slot <;> cases h <;> decide

theorem Mentions.ne_dashes {name : String} {argument : Octets} (h : Mentions name argument)
    {slot : Slot} (hname : slot.name? = some name) : argument ≠ divider := by
  rcases h with rfl | ⟨value, rfl⟩
  · rw [encode_named, divider]
    simpa using (name?_spec hname).1
  · rw [encode_attached, divider]
    simp

/-! ## Values -/

theorem pathOf_eq_ok_iff {value : Octets} {p : Path} :
    pathOf value = .ok p ↔ value ≠ [] ∧ p = ⟨value⟩ := by
  by_cases h : value = [] <;> simp [pathOf, refuse, h, eq_comm]

theorem named_eq_ok_iff {α : Type} {found : Option α} {x : α} :
    named found = .ok x ↔ found = some x := by
  cases found <;> simp [named, refuse]

namespace Draft

/-- Whether octets were looked at as the value of something. -/
def Holds (draft : Draft) : Slot → Octets → Prop
  | .specification, value => value ≠ [] ∧ draft.specification = some ⟨value⟩
  | .installRoot, value => value ≠ [] ∧ draft.installRoot = some ⟨value⟩
  | .mode, value => ∃ mode, Mode.ofOctets? value = some mode ∧ draft.mode = some mode
  | .completions, value =>
    ∃ shell, CompletionShell.ofOctets? value = some shell ∧ draft.completions = some shell

/-- Whether octets were given as the value of something, looked at or not. -/
def Given (draft : Draft) (slot : Slot) (value : Octets) : Prop :=
  draft.Holds slot value ∨ draft.pending = some (slot, some value)

/-- Whether something was not mentioned so far. -/
structure Free (draft : Draft) (slot : Slot) : Prop where
  has_eq : draft.has slot = false
  not_pending : ∀ value, draft.pending ≠ some (slot, value)

/-- Whether everything that a draft has was given by some octets. -/
def Sound (draft : Draft) : Prop :=
  ∀ slot, draft.has slot = true → ∃ value, draft.Holds slot value

variable {draft next final : Draft} {slot : Slot} {value : Octets}

theorem Holds.has (h : draft.Holds slot value) : draft.has slot = true := by
  cases slot with
  | specification => simp [Draft.has, h.2]
  | installRoot => simp [Draft.has, h.2]
  | mode =>
    obtain ⟨mode, -, h⟩ := h
    simp [Draft.has, h]
  | completions =>
    obtain ⟨shell, -, h⟩ := h
    simp [Draft.has, h]

/-- What giving something its value does. -/
structure Filled (draft : Draft) (slot : Slot) (value : Octets) (next : Draft) : Prop where
  has_eq : draft.has slot = false
  holds : next.Holds slot value
  holds_iff : ∀ other ≠ slot, ∀ v, next.Holds other v ↔ draft.Holds other v
  has_other : ∀ other ≠ slot, next.has other = draft.has other
  pending_eq : next.pending = draft.pending
  trailing_eq : next.trailing = draft.trailing

theorem filled_of_fill (h : draft.fill slot value = .ok next) : Filled draft slot value next := by
  unfold fill at h
  split at h
  · cases h
  rename_i hhas
  have hfree : draft.has slot = false := Bool.eq_false_iff.2 hhas
  cases slot <;> obtain ⟨given, hgiven, rfl⟩ := map_eq_ok_iff.1 h <;>
    refine ⟨hfree, ?_, ?_, ?_, rfl, rfl⟩
  -- the value is entered in one place of the draft
  case specification.refine_1 | installRoot.refine_1 =>
    obtain ⟨hne, hpath⟩ := pathOf_eq_ok_iff.1 hgiven
    exact ⟨hne, congrArg some hpath⟩
  case mode.refine_1 | completions.refine_1 => exact ⟨given, named_eq_ok_iff.1 hgiven, rfl⟩
  -- and the others stay
  all_goals
    rintro (_ | _) hother <;>
    first | exact absurd rfl hother | exact fun _ => .rfl | rfl

/-- A value that was there stays. -/
theorem Filled.holds_of_holds (h : Filled draft slot value next) {other : Slot} {v : Octets}
    (hholds : draft.Holds other v) : next.Holds other v := by
  have hother : other ≠ slot := by
    rintro rfl
    have hhas := hholds.has
    rw [h.has_eq] at hhas
    cases hhas
  exact (h.holds_iff other hother v).2 hholds

theorem Filled.sound (h : Filled draft slot value next) (hsound : draft.Sound) : next.Sound := by
  intro other hhas
  by_cases hother : other = slot
  · exact ⟨value, hother ▸ h.holds⟩
  · rw [h.has_other other hother] at hhas
    obtain ⟨v, hholds⟩ := hsound other hhas
    exact ⟨v, h.holds_of_holds hholds⟩

/-- What looking at the value that waits for it does. -/
structure Settled (draft next : Draft) : Prop where
  answered : ∀ slot, draft.pending ≠ some (slot, none)
  pending_eq : next.pending = none
  trailing_eq : next.trailing = draft.trailing
  holds : ∀ slot value, draft.Given slot value → next.Holds slot value
  has_eq : ∀ slot, draft.Free slot → next.has slot = false
  sound : draft.Sound → next.Sound

theorem settled_of_settle (h : draft.settle = .ok next) : Settled draft next := by
  unfold settle at h
  split at h
  · rename_i hpending
    cases h
    refine ⟨by simp [hpending], hpending, rfl, ?_, fun _ hfree => hfree.has_eq, id⟩
    rintro slot value (hholds | hgiven)
    · exact hholds
    · rw [hpending] at hgiven
      cases hgiven
  · cases h
  · rename_i slot value hpending
    have hfilled := filled_of_fill h
    refine ⟨by simp [hpending], hfilled.pending_eq, hfilled.trailing_eq, ?_, ?_, hfilled.sound⟩
    · rintro other v (hholds | hgiven)
      · exact hfilled.holds_of_holds hholds
      · rw [hpending] at hgiven
        cases hgiven
        exact hfilled.holds
    · intro other hfree
      have hother : other ≠ slot := by
        rintro rfl
        exact hfree.not_pending _ hpending
      exact (hfilled.has_other other hother).trans hfree.has_eq

/-! ## What one argument does -/

/-- What one argument does to a draft. -/
inductive Step (draft : Draft) (argument : Octets) : Draft → Prop
  | dashes (hopen : draft.trailing = false) (h : argument = divider) :
      Step draft argument { draft with trailing := true }
  | answer {slot : Slot} (hopen : draft.trailing = false) (hword : argument ≠ divider)
      (hpending : draft.pending = some (slot, none)) :
      Step draft argument { draft with pending := some (slot, some argument) }
  | path {between : Draft} (hword : draft.trailing = false → argument ≠ divider)
      (hsettled : Settled draft between) :
      Step draft argument
        { between with pending := some (.specification, some argument), hasPath := true }
  | option {slot : Slot} {name : String} {between : Draft} (hopen : draft.trailing = false)
      (hname : slot.name? = some name) (h : argument = Utf8.encode ("--" ++ name))
      (hsettled : Settled draft between) :
      Step draft argument { between with pending := some (slot, none) }
  | attached {slot : Slot} {name : String} {value : Octets} {between next : Draft}
      (hopen : draft.trailing = false) (hname : slot.name? = some name)
      (h : argument = Utf8.encode ("--" ++ name ++ "=") ++ value) (hsettled : Settled draft between)
      (hfilled : Filled between slot value next) : Step draft argument next
  | flags {between : Draft} (hopen : draft.trailing = false) (hword : argument ≠ divider)
      (hsettled : Settled draft between) (debug quiet doc : Bool) :
      Step draft argument { between with debug, quiet, doc }

/-- Whether a draft comes from another one by looking at what waits there, and giving flags. -/
def Raised (draft next : Draft) : Prop :=
  ∃ between debug quiet doc, draft.settle = .ok between ∧
    next = { between with debug, quiet, doc }

theorem settle_of_none (h : draft.pending = none) : draft.settle = .ok draft := by
  rw [settle, h]

theorem Raised.trans {first second third : Draft} (h : Raised first second)
    (h' : Raised second third) : Raised first third := by
  obtain ⟨between, debug, quiet, doc, hsettle, rfl⟩ := h
  obtain ⟨after, debug', quiet', doc', hsettle', rfl⟩ := h'
  -- nothing waits for its value any more
  have hpending : { between with debug, quiet, doc }.pending = none :=
    (settled_of_settle hsettle).pending_eq
  rw [settle_of_none hpending] at hsettle'
  cases hsettle'
  exact ⟨between, debug', quiet', doc', hsettle, rfl⟩

theorem option_of_mention (h : draft.mention (.slot slot) = .ok next) :
    ∃ between, draft.settle = .ok between ∧ next = { between with pending := some (slot, none) } := by
  obtain ⟨between, hsettle, hnext⟩ := bind_eq_ok_iff.1 h
  exact ⟨between, hsettle, (Except.ok.inj hnext).symm⟩

/-- What is mentioned and neither takes a value nor interrupts the reading is a flag. -/
theorem raised_of_mention {meaning : Meaning} (hslot : ∀ slot, meaning ≠ .slot slot)
    (h : draft.mention meaning = .ok next) : Raised draft next := by
  obtain ⟨between, hsettle, hnext⟩ := bind_eq_ok_iff.1 h
  cases meaning with
  | slot slot => exact absurd rfl (hslot slot)
  | flag flag =>
    change between.raise flag = .ok next at hnext
    unfold raise at hnext
    split at hnext
    · cases hnext
    · cases flag <;> cases hnext <;> exact ⟨between, _, _, _, hsettle, rfl⟩
  | help long => cases hnext
  | version => cases hnext

theorem letterMeaning?_ne_slot {letter : UInt8} {meaning : Meaning}
    (h : letterMeaning? letter = some meaning) (slot : Slot) : meaning ≠ .slot slot := by
  unfold letterMeaning? at h
  split_ifs at h <;> cases h <;> nofun

theorem raised_of_readLetters {letter : UInt8} {rest : Octets}
    (h : draft.readLetters (letter :: rest) = .ok next) : Raised draft next := by
  induction rest generalizing draft letter with
  | nil =>
    rw [readLetters] at h
    split at h
    · cases h
    · rename_i meaning hmeaning
      split at h
      · cases h
      · rename_i between hbetween
        cases h
        exact raised_of_mention (letterMeaning?_ne_slot hmeaning) hbetween
  | cons other rest ih =>
    rw [readLetters] at h
    split at h
    · cases h
    · rename_i meaning hmeaning
      split at h
      · cases h
      · rename_i between hbetween
        exact (raised_of_mention (letterMeaning?_ne_slot hmeaning) hbetween).trans (ih h)

theorem Raised.step (h : Raised draft next) {argument : Octets} (hopen : draft.trailing = false)
    (hword : argument ≠ divider) : Step draft argument next := by
  obtain ⟨between, debug, quiet, doc, hsettle, rfl⟩ := h
  exact .flags hopen hword (settled_of_settle hsettle) debug quiet doc

theorem step_of_readWord {word : Octets} (hword : draft.trailing = false → word ≠ divider)
    (h : draft.readWord word = .ok next) : Step draft word next := by
  unfold readWord at h
  split at h
  · rename_i hpending hopen
    cases h
    exact .answer hopen (hword hopen) hpending
  · split at h
    · cases h
    · obtain ⟨between, hsettle, rfl⟩ := map_eq_ok_iff.1 h
      exact .path hword (settled_of_settle hsettle)

theorem step_of_readLong {name : Octets} (hopen : draft.trailing = false) (hne : name ≠ [])
    (h : draft.readLong name none = .ok next) :
    Step draft (dash :: dash :: name) next := by
  unfold readLong at h
  cases hmeaning : longMeaning? name with
  | none =>
    rw [hmeaning] at h
    cases h
  | some meaning =>
    rw [hmeaning] at h
    change draft.mention meaning = .ok next at h
    by_cases hslot : ∃ slot, meaning = .slot slot
    · obtain ⟨slot, rfl⟩ := hslot
      obtain ⟨between, hsettle, rfl⟩ := option_of_mention h
      obtain ⟨text, htext, rfl⟩ := longMeaning?_eq_slot_iff.1 hmeaning
      exact .option hopen htext (encode_named text).symm (settled_of_settle hsettle)
    · have hflag : ∀ slot, meaning ≠ .slot slot := fun slot heq => hslot ⟨slot, heq⟩
      exact (raised_of_mention hflag h).step hopen (by simpa [divider] using hne)

theorem step_of_readLong_attached {name value : Octets} (hopen : draft.trailing = false)
    (h : draft.readLong name (some value) = .ok next) :
    Step draft (dash :: dash :: (name ++ equals :: value)) next := by
  unfold readLong at h
  cases hmeaning : longMeaning? name with
  | none =>
    rw [hmeaning] at h
    cases h
  | some meaning =>
    rw [hmeaning] at h
    cases meaning with
    | slot slot =>
      obtain ⟨between, hsettle, hfill⟩ := bind_eq_ok_iff.1 h
      obtain ⟨text, htext, rfl⟩ := longMeaning?_eq_slot_iff.1 hmeaning
      exact .attached hopen htext (encode_attached text value).symm (settled_of_settle hsettle)
        (filled_of_fill hfill)
    | flag flag => cases h
    | help long => cases h
    | version => cases h

/-! ## How an argument is read -/

section

variable (hopen : draft.trailing = false)
include hopen

theorem read_named {name : Octets} (hne : name ≠ []) (hname : equals ∉ name) :
    draft.read (dash :: dash :: name) = draft.readLong name none := by
  have hall : ∀ b ∈ name, decide (b ≠ equals) = true := by
    intro b hb
    exact decide_eq_true (ne_of_mem_of_not_mem hb hname)
  have htake : name.takeWhile (· ≠ equals) = name := List.takeWhile_eq_self_iff.2 hall
  have hdrop : name.dropWhile (· ≠ equals) = [] := List.dropWhile_eq_nil_iff.2 hall
  have hdashes : dash :: dash :: name ≠ divider := by simpa [divider] using hne
  unfold read
  rw [hopen, if_neg Bool.false_ne_true, if_neg hdashes]
  simp only [ne_eq, not_true_eq_false, if_false, htake, hdrop]

theorem read_attached {name value : Octets} (hname : equals ∉ name) :
    draft.read (dash :: dash :: (name ++ equals :: value)) = draft.readLong name (some value) := by
  have hall : ∀ b ∈ name, decide (b ≠ equals) = true := by
    intro b hb
    exact decide_eq_true (ne_of_mem_of_not_mem hb hname)
  have htake : (name ++ equals :: value).takeWhile (· ≠ equals) = name := by
    rw [List.takeWhile_append_of_pos hall, List.takeWhile_cons_of_neg (by simp), List.append_nil]
  have hdrop : (name ++ equals :: value).dropWhile (· ≠ equals) = equals :: value := by
    rw [List.dropWhile_append_of_pos hall, List.dropWhile_cons_of_neg (by simp)]
  have hdashes : dash :: dash :: (name ++ equals :: value) ≠ divider := by simp [divider]
  unfold read
  rw [hopen, if_neg Bool.false_ne_true, if_neg hdashes]
  simp only [ne_eq, not_true_eq_false, if_false, htake, hdrop]

theorem read_letters {letter : UInt8} {rest : Octets} (hletter : letter ≠ dash) :
    draft.read (dash :: letter :: rest) = draft.readLetters (letter :: rest) := by
  have hdashes : dash :: letter :: rest ≠ divider := by simp [divider, hletter]
  unfold read
  rw [hopen, if_neg Bool.false_ne_true, if_neg hdashes]
  simp only [ne_eq, not_true_eq_false, if_false, hletter, not_false_eq_true, if_true]

theorem read_word {argument : Octets} (h : ∀ letter rest, argument ≠ dash :: letter :: rest) :
    draft.read argument = draft.readWord argument := by
  have hdashes : argument ≠ divider := h dash []
  unfold read
  rw [hopen, if_neg Bool.false_ne_true, if_neg hdashes]
  split
  · rename_i first second rest
    have hfirst : first ≠ dash := by
      rintro rfl
      exact h second rest rfl
    rw [if_pos hfirst]
  · rfl

end

theorem step_of_read {argument : Octets} (h : draft.read argument = .ok next) :
    Step draft argument next := by
  cases hopen : draft.trailing with
  | true =>
    unfold read at h
    rw [hopen, if_pos rfl] at h
    exact step_of_readWord (by simp [hopen]) h
  | false =>
    cases form argument with
    | dashes hdashes =>
      subst hdashes
      unfold read at h
      rw [hopen, if_neg Bool.false_ne_true, if_pos rfl] at h
      cases h
      exact .dashes hopen rfl
    | named hne hname hnamed =>
      subst hnamed
      rw [read_named hopen hne hname] at h
      exact step_of_readLong hopen hne h
    | attached hname hattached =>
      subst hattached
      rw [read_attached hopen hname] at h
      exact step_of_readLong_attached hopen h
    | letters hletter hletters =>
      subst hletters
      rw [read_letters hopen hletter] at h
      exact (raised_of_readLetters h).step hopen (by simp [divider, hletter])
    | word hplain =>
      rw [read_word hopen hplain] at h
      exact step_of_readWord (fun _ => hplain dash []) h

/-! ## What an argument list does -/

theorem Given.step {argument : Octets} (h : draft.Given slot value)
    (hstep : Step draft argument next) : next.Given slot value := by
  cases hstep with
  | dashes hopen hdashes => exact h
  | answer hopen hword hpending =>
    rcases h with hholds | hgiven
    · exact .inl hholds
    · rw [hpending] at hgiven
      cases hgiven
  | path hword hsettled => exact .inl (hsettled.holds slot value h)
  | option hopen hname hnamed hsettled => exact .inl (hsettled.holds slot value h)
  | attached hopen hname hattached hsettled hfilled =>
    exact .inl (hfilled.holds_of_holds (hsettled.holds slot value h))
  | flags hopen hword hsettled => exact .inl (hsettled.holds slot value h)

theorem Free.step {argument : Octets} {name : String} (h : draft.Free slot) (hname : slot.name? = some name)
    (hother : draft.trailing = false → ¬ Mentions name argument)
    (hstep : Step draft argument next) : next.Free slot := by
  cases hstep with
  | dashes hopen hdashes => exact ⟨h.has_eq, h.not_pending⟩
  | answer hopen hword hpending =>
    refine ⟨h.has_eq, ?_⟩
    rintro value ⟨⟩
    exact h.not_pending _ hpending
  | path hword hsettled =>
    refine ⟨hsettled.has_eq slot h, ?_⟩
    rintro value ⟨⟩
    cases hname
  | option hopen hname' hnamed hsettled =>
    refine ⟨hsettled.has_eq slot h, ?_⟩
    rintro value ⟨⟩
    obtain rfl := Option.some.inj (hname.symm.trans hname')
    exact hother hopen (.inl hnamed)
  | @attached filled name' v _ _ hopen hname' hattached hsettled hfilled =>
    have hne : slot ≠ filled := by
      rintro rfl
      obtain rfl := Option.some.inj (hname.symm.trans hname')
      exact hother hopen (.inr ⟨v, hattached⟩)
    refine ⟨(hfilled.has_other slot hne).trans (hsettled.has_eq slot h), ?_⟩
    rw [hfilled.pending_eq, hsettled.pending_eq]
    nofun
  | flags hopen hword hsettled =>
    refine ⟨hsettled.has_eq slot h, ?_⟩
    intro value hpending
    exact absurd (hsettled.pending_eq.symm.trans hpending) nofun

theorem Sound.step {argument : Octets} (h : draft.Sound) (hstep : Step draft argument next) :
    next.Sound := by
  cases hstep with
  | dashes hopen hdashes => exact h
  | answer hopen hword hpending => exact h
  | path hword hsettled => exact hsettled.sound h
  | option hopen hname hnamed hsettled => exact hsettled.sound h
  | attached hopen hname hattached hsettled hfilled => exact hfilled.sound (hsettled.sound h)
  | flags hopen hword hsettled => exact hsettled.sound h

/-- Options end at two dashes and nowhere else. -/
theorem Step.trailing_iff {argument : Octets} (h : Step draft argument next)
    (hopen : draft.trailing = false) : next.trailing = true ↔ argument = divider := by
  cases h with
  | dashes _ hdashes => exact iff_of_true rfl hdashes
  | answer _ hword _ => exact iff_of_false (by simp [hopen]) hword
  | path hword hsettled =>
    exact iff_of_false (by simp [hsettled.trailing_eq, hopen]) (hword hopen)
  | option _ hname hnamed hsettled =>
    refine iff_of_false (by simp [hsettled.trailing_eq, hopen]) ?_
    exact Mentions.ne_dashes (.inl hnamed) hname
  | attached _ hname hattached hsettled hfilled =>
    refine iff_of_false (by simp [hfilled.trailing_eq, hsettled.trailing_eq, hopen]) ?_
    exact Mentions.ne_dashes (.inr ⟨_, hattached⟩) hname
  | flags _ hword hsettled =>
    exact iff_of_false (by simp [hsettled.trailing_eq, hopen]) hword

/-- Behind the options nothing but paths follows. -/
theorem Step.of_trailing {argument : Octets} (h : Step draft argument next)
    (htrailing : draft.trailing = true) :
    (∀ slot, draft.pending ≠ some (slot, none)) ∧ next.trailing = true := by
  cases h with
  | path hword hsettled => exact ⟨hsettled.answered, hsettled.trailing_eq.trans htrailing⟩
  | dashes hopen _ | answer hopen _ _ | option hopen _ _ _ | attached hopen _ _ _ _
  | flags hopen _ _ =>
    rw [htrailing] at hopen
    cases hopen

variable {arguments : List Octets}

theorem readAll_cons_eq_ok_iff {argument : Octets} :
    draft.readAll (argument :: arguments) = .ok final ↔
      ∃ next, draft.read argument = .ok next ∧ next.readAll arguments = .ok final := by
  rw [readAll]
  cases draft.read argument <;> simp

theorem Given.readAll (h : draft.Given slot value) (hread : draft.readAll arguments = .ok final) :
    final.Holds slot value := by
  induction arguments generalizing draft with
  | nil => exact (settled_of_settle hread).holds slot value h
  | cons argument rest ih =>
    obtain ⟨next, hnext, hrest⟩ := readAll_cons_eq_ok_iff.1 hread
    exact ih (h.step (step_of_read hnext)) hrest

theorem Sound.readAll (h : draft.Sound) (hread : draft.readAll arguments = .ok final) :
    final.Sound := by
  induction arguments generalizing draft with
  | nil => exact (settled_of_settle hread).sound h
  | cons argument rest ih =>
    obtain ⟨next, hnext, hrest⟩ := readAll_cons_eq_ok_iff.1 hread
    exact ih (h.step (step_of_read hnext)) hrest

theorem Free.readAll {name : String} (h : draft.Free slot) (hname : slot.name? = some name)
    (habsent : draft.trailing = false → ¬ Occurs name arguments)
    (hread : draft.readAll arguments = .ok final) : final.has slot = false := by
  induction arguments generalizing draft with
  | nil => exact (settled_of_settle hread).has_eq slot h
  | cons argument rest ih =>
    obtain ⟨next, hnext, hrest⟩ := readAll_cons_eq_ok_iff.1 hread
    have hstep := step_of_read hnext
    cases hopen : draft.trailing with
    | true =>
      have htrailing := (hstep.of_trailing hopen).2
      exact ih (h.step hname (by simp [hopen]) hstep) (by simp [htrailing]) hrest
    | false =>
      have hoccurs := habsent hopen
      by_cases hdashes : argument = divider
      · have htrailing := (hstep.trailing_iff hopen).2 hdashes
        exact ih (h.step hname (fun _ hmention => hmention.ne_dashes hname hdashes) hstep)
          (by simp [htrailing]) hrest
      · have htake : (argument :: rest).takeWhile (· ≠ divider) =
            argument :: rest.takeWhile (· ≠ divider) := by simp [hdashes]
        rw [Occurs, htake, List.exists_mem_cons_iff, not_or] at hoccurs
        exact ih (h.step hname (fun _ => hoccurs.1) hstep) (fun _ => hoccurs.2) hrest

/-- An argument list is read on from wherever it is cut in front of `--`. -/
theorem readAll_append {before after : List Octets} (hopen : draft.trailing = false)
    (hbefore : divider ∉ before) (hread : draft.readAll (before ++ after) = .ok final) :
    ∃ between : Draft, between.trailing = false ∧ between.readAll after = .ok final := by
  induction before generalizing draft with
  | nil => exact ⟨draft, hopen, hread⟩
  | cons argument rest ih =>
    obtain ⟨hne, hrest⟩ := not_or.1 (mt List.mem_cons.2 hbefore)
    obtain ⟨next, hnext, hread⟩ := readAll_cons_eq_ok_iff.1 hread
    refine ih (Bool.eq_false_iff.2 ?_) hrest hread
    exact mt ((step_of_read hnext).trailing_iff hopen).1 (Ne.symm hne)

/-- An option that waits for its value gets the next argument, or the reading fails. -/
theorem holds_of_pending (hpending : draft.pending = some (slot, none))
    (hread : draft.readAll arguments = .ok final) :
    ∃ value rest, arguments = value :: rest ∧ final.Holds slot value := by
  cases arguments with
  | nil => exact absurd hpending ((settled_of_settle hread).answered slot)
  | cons value rest =>
    obtain ⟨next, hnext, hrest⟩ := readAll_cons_eq_ok_iff.1 hread
    refine ⟨value, rest, rfl, ?_⟩
    cases step_of_read hnext with
    | answer hopen hword hanswered =>
      rw [hpending] at hanswered
      cases hanswered
      exact Given.readAll (.inr rfl) hrest
    | dashes hopen hdashes =>
      -- the options have ended, and nothing behind them is the value
      exfalso
      cases rest with
      | nil => exact (settled_of_settle hrest).answered slot hpending
      | cons path more =>
        obtain ⟨past, hpast, -⟩ := readAll_cons_eq_ok_iff.1 hrest
        exact ((step_of_read hpast).of_trailing rfl).1 slot hpending
    | path _ hsettled | option _ _ _ hsettled | attached _ _ _ hsettled _
    | flags _ _ hsettled => exact absurd hpending (hsettled.answered slot)

section

variable {name : String} (hopen : draft.trailing = false) (hname : slot.name? = some name)
include hopen hname

/-- An option is followed by its value. -/
theorem holds_of_named
    (hread : draft.readAll (Utf8.encode ("--" ++ name) :: arguments) = .ok final) :
    ∃ value rest, arguments = value :: rest ∧ final.Holds slot value := by
  obtain ⟨next, hnext, hrest⟩ := readAll_cons_eq_ok_iff.1 hread
  rw [encode_named, read_named hopen (name?_spec hname).1 (name?_spec hname).2] at hnext
  unfold readLong at hnext
  rw [longMeaning?_encode hname] at hnext
  obtain ⟨between, -, rfl⟩ := option_of_mention hnext
  exact holds_of_pending rfl hrest

theorem holds_of_attached
    (hread : draft.readAll ((Utf8.encode ("--" ++ name ++ "=") ++ value) :: arguments) =
      .ok final) :
    final.Holds slot value := by
  obtain ⟨next, hnext, hrest⟩ := readAll_cons_eq_ok_iff.1 hread
  rw [encode_attached, read_attached hopen (name?_spec hname).2] at hnext
  unfold readLong at hnext
  rw [longMeaning?_encode hname] at hnext
  obtain ⟨between, -, hfill⟩ := bind_eq_ok_iff.1 hnext
  exact Given.readAll (.inl (filled_of_fill hfill).holds) hrest

end

end Draft

/-- Whether an argument list gives an option a value in front of `--`. -/
inductive Gives (name : String) : List Octets → Octets → Prop
  | following {before after : List Octets} {value : Octets} (hbefore : divider ∉ before) :
      Gives name (before ++ Utf8.encode ("--" ++ name) :: value :: after) value
  | attached {before after : List Octets} {value : Octets} (hbefore : divider ∉ before) :
      Gives name (before ++ (Utf8.encode ("--" ++ name ++ "=") ++ value) :: after) value

section

variable {arguments : List Octets} {slot : Slot} {name : String} {value : Octets}
  {final : Draft}

theorem Gives.holds (h : Gives name arguments value) (hname : slot.name? = some name)
    (hread : Draft.readAll {} arguments = .ok final) : final.Holds slot value := by
  cases h with
  | following hbefore =>
    obtain ⟨draft, hopen, hrest⟩ := Draft.readAll_append rfl hbefore hread
    obtain ⟨_, _, hcons, hholds⟩ := Draft.holds_of_named hopen hname hrest
    obtain ⟨rfl, rfl⟩ := List.cons.inj hcons
    exact hholds
  | attached hbefore =>
    obtain ⟨draft, hopen, hrest⟩ := Draft.readAll_append rfl hbefore hread
    exact Draft.holds_of_attached hopen hname hrest

/-- An option that occurs is given a value, or the reading fails. -/
theorem Occurs.gives (h : Occurs name arguments) (hname : slot.name? = some name)
    (hread : Draft.readAll {} arguments = .ok final) : ∃ value, Gives name arguments value := by
  obtain ⟨argument, hmem, hmention⟩ := h
  obtain ⟨before, more, htake⟩ := List.append_of_mem hmem
  have hbefore : divider ∉ before := by
    intro hdashes
    have hmem : divider ∈ arguments.takeWhile (· ≠ divider) :=
      htake ▸ List.mem_append_left _ hdashes
    simpa using List.mem_takeWhile_imp hmem
  have hsplit := List.takeWhile_append_dropWhile (p := (· ≠ divider)) (l := arguments)
  rw [htake, List.append_assoc, List.cons_append] at hsplit
  rw [← hsplit] at hread ⊢
  rcases hmention with rfl | ⟨value, rfl⟩
  · obtain ⟨draft, hopen, hrest⟩ := Draft.readAll_append rfl hbefore hread
    obtain ⟨value, rest, hcons, -⟩ := Draft.holds_of_named hopen hname hrest
    rw [hcons]
    exact ⟨value, .following hbefore⟩
  · exact ⟨value, .attached hbefore⟩

theorem has_eq_false_of_not_occurs (h : ¬ Occurs name arguments) (hname : slot.name? = some name)
    (hread : Draft.readAll {} arguments = .ok final) : final.has slot = false := by
  have hfree : Draft.Free {} slot := ⟨by cases slot <;> rfl, nofun⟩
  exact hfree.readAll hname (fun _ => h) hread

end

/-- The value that is chosen for an option: the one that the argument list gives it in front
of `--`, for want of that the one that the environment sets, and else the standard one. -/
inductive Chosen (name : String) (arguments : List Octets) (setting : Option Octets)
    (standard : Octets) : Octets → Prop
  | given {value : Octets} (h : Gives name arguments value) :
      Chosen name arguments setting standard value
  | set {value : Octets} (habsent : ¬ Occurs name arguments) (h : setting = some value) :
      Chosen name arguments setting standard value
  | standard (habsent : ¬ Occurs name arguments) (h : setting = none) :
      Chosen name arguments setting standard standard

end Arguments

open Arguments

theorem Mode.ofOctets?_eq_some_iff {octets : Octets} {mode : Mode} :
    ofOctets? octets = some mode ↔ octets = Utf8.encode mode.name := by
  constructor
  · intro h
    have hname : Utf8.encode mode.name = octets := by simpa using List.find?_some h
    exact hname.symm
  · rintro rfl
    cases mode <;> decide

namespace Options

variable {arguments : List Octets} {surroundings : Surroundings} {options : Options}

theorem exists_draft_of_ofArguments (h : ofArguments arguments surroundings = .ok options) :
    ∃ draft, Draft.readAll {} arguments = .ok draft ∧ draft.finish surroundings = .ok options := by
  unfold ofArguments at h
  split at h
  · cases h
  · rename_i draft hread
    exact ⟨draft, hread, h⟩

theorem exists_chosen (h : ofArguments arguments surroundings = .ok options) {slot : Slot}
    {name : String} (hname : slot.name? = some name) (setting : Option Octets)
    (standard : Octets) : ∃ value, Chosen name arguments setting standard value := by
  obtain ⟨draft, hread, -⟩ := exists_draft_of_ofArguments h
  by_cases hoccurs : Occurs name arguments
  · obtain ⟨value, hgives⟩ := hoccurs.gives hname hread
    exact ⟨value, .given hgives⟩
  · cases hsetting : setting with
    | none => exact ⟨standard, .standard hoccurs rfl⟩
    | some value => exact ⟨value, .set hoccurs rfl⟩

/-- What a finished draft amounts to. -/
structure Finished (draft : Draft) (surroundings : Surroundings) (options : Options) : Prop where
  root : draft.chooseRoot surroundings = .ok options.installRoot
  mode : draft.chooseMode surroundings = .ok options.mode
  specification : options.specification = draft.specification
  not_both : (options.debug && options.quiet) = false

theorem finished_of_finish {draft : Draft} (h : draft.finish surroundings = .ok options) :
    Finished draft surroundings options := by
  obtain ⟨root, hroot, h⟩ := bind_eq_ok_iff.1 h
  obtain ⟨mode, hmode, h⟩ := bind_eq_ok_iff.1 h
  split at h
  · cases h
  · rename_i hboth
    cases h
    exact ⟨hroot, hmode, rfl, Bool.eq_false_iff.2 hboth⟩

theorem installRoot_of_chosen {value : Octets}
    (hchosen : Chosen "install-root" arguments surroundings.installRoot
      (Utf8.encode standardRoot) value)
    (h : ofArguments arguments surroundings = .ok options) :
    value ≠ [] ∧ options.installRoot = ⟨value⟩ := by
  obtain ⟨draft, hread, hfinish⟩ := exists_draft_of_ofArguments h
  have hroot := (finished_of_finish hfinish).root
  unfold Draft.chooseRoot at hroot
  cases hchosen with
  | given hgives =>
    obtain ⟨hne, hheld⟩ := hgives.holds Slot.name?_installRoot hread
    rw [hheld] at hroot
    exact ⟨hne, (Except.ok.inj hroot).symm⟩
  | set habsent hset =>
    have hfree := has_eq_false_of_not_occurs habsent Slot.name?_installRoot hread
    rw [Option.isSome_eq_false_iff.1 hfree |> Option.isNone_iff_eq_none.1, hset] at hroot
    exact pathOf_eq_ok_iff.1 hroot
  | standard habsent hset =>
    have hfree := has_eq_false_of_not_occurs habsent Slot.name?_installRoot hread
    rw [Option.isSome_eq_false_iff.1 hfree |> Option.isNone_iff_eq_none.1, hset] at hroot
    exact ⟨by decide, (Except.ok.inj hroot).symm⟩

theorem mode_of_chosen {value : Octets}
    (hchosen : Chosen "mode" arguments surroundings.mode (Utf8.encode Mode.standard.name) value)
    (h : ofArguments arguments surroundings = .ok options) :
    value = Utf8.encode options.mode.name := by
  obtain ⟨draft, hread, hfinish⟩ := exists_draft_of_ofArguments h
  have hmode := (finished_of_finish hfinish).mode
  unfold Draft.chooseMode at hmode
  cases hchosen with
  | given hgives =>
    obtain ⟨mode, hvalue, hheld⟩ := hgives.holds Slot.name?_mode hread
    rw [hheld] at hmode
    rw [Mode.ofOctets?_eq_some_iff.1 hvalue, Except.ok.inj hmode]
  | set habsent hset =>
    have hfree := has_eq_false_of_not_occurs habsent Slot.name?_mode hread
    rw [Option.isSome_eq_false_iff.1 hfree |> Option.isNone_iff_eq_none.1, hset] at hmode
    exact Mode.ofOctets?_eq_some_iff.1 (named_eq_ok_iff.1 hmode)
  | standard habsent hset =>
    have hfree := has_eq_false_of_not_occurs habsent Slot.name?_mode hread
    rw [Option.isSome_eq_false_iff.1 hfree |> Option.isNone_iff_eq_none.1, hset] at hmode
    exact congrArg (fun mode => Utf8.encode mode.name) (Except.ok.inj hmode)

/-- The environment is not asked for the root when the argument list has the option. -/
theorem ofArguments_withRoot (hoccurs : Occurs "install-root" arguments) (other : Option Octets) :
    ofArguments arguments { surroundings with installRoot := other } =
      ofArguments arguments surroundings := by
  unfold ofArguments
  split
  · rfl
  · rename_i draft hread
    obtain ⟨value, hgives⟩ := hoccurs.gives Slot.name?_installRoot hread
    obtain ⟨-, hheld⟩ := hgives.holds Slot.name?_installRoot hread
    simp only [Draft.finish, Draft.chooseRoot, Draft.chooseMode, hheld]

/-- The environment is not asked for the mode when the argument list has the option. -/
theorem ofArguments_withMode (hoccurs : Occurs "mode" arguments) (other : Option Octets) :
    ofArguments arguments { surroundings with mode := other } =
      ofArguments arguments surroundings := by
  unfold ofArguments
  split
  · rfl
  · rename_i draft hread
    obtain ⟨value, hgives⟩ := hoccurs.gives Slot.name?_mode hread
    obtain ⟨mode, -, hheld⟩ := hgives.holds Slot.name?_mode hread
    simp only [Draft.finish, Draft.chooseRoot, Draft.chooseMode, hheld]

theorem specification_ne_nil (h : ofArguments arguments surroundings = .ok options) {p : Path}
    (hp : options.specification = some p) : p.octets ≠ [] := by
  obtain ⟨draft, hread, hfinish⟩ := exists_draft_of_ofArguments h
  have hempty : Draft.Sound {} := by
    rintro (_ | _) hhas <;> cases hhas
  rw [(finished_of_finish hfinish).specification] at hp
  obtain ⟨value, hne, hheld⟩ :=
    hempty.readAll hread .specification (by rw [Draft.has, hp]; rfl)
  obtain rfl := Option.some.inj (hp.symm.trans hheld)
  exact hne

/-- **Choosing.** When an argument list is understood, the level of the log follows from
`debug` and `quiet`, of which one is given at most. The root and the mode are the ones that
their options in front of `--` give, for want of these the ones that the environment sets, and
else the standard ones. Neither the root nor the path of the specification is empty. Where an
option occurs, its variable does not matter, be it absent or of no use. -/
theorem ofArguments_chooses (h : ofArguments arguments surroundings = .ok options) :
    (options.debug = true → options.quiet = false ∧ options.logLevel = .debug) ∧
    (options.quiet = true → options.debug = false ∧ options.logLevel = .warning) ∧
    (options.debug = false → options.quiet = false → options.logLevel = .info) ∧
    (∀ value, Chosen "install-root" arguments surroundings.installRoot (Utf8.encode "/mnt") value ↔
      value = options.installRoot.octets) ∧
    (∀ value, Chosen "mode" arguments surroundings.mode (Utf8.encode "shell") value ↔
      value = Utf8.encode options.mode.name) ∧
    options.installRoot.octets ≠ [] ∧
    (∀ p, options.specification = some p → p.octets ≠ []) ∧
    (Occurs "install-root" arguments → ∀ other,
      ofArguments arguments { surroundings with installRoot := other } = .ok options) ∧
    (Occurs "mode" arguments → ∀ other,
      ofArguments arguments { surroundings with mode := other } = .ok options) := by
  obtain ⟨draft, -, hfinish⟩ := exists_draft_of_ofArguments h
  have hboth := (finished_of_finish hfinish).not_both
  obtain ⟨root, hroot⟩ :=
    exists_chosen h Slot.name?_installRoot surroundings.installRoot (Utf8.encode standardRoot)
  obtain ⟨hne, hinstall⟩ := installRoot_of_chosen hroot h
  obtain ⟨name, hname⟩ :=
    exists_chosen h Slot.name?_mode surroundings.mode (Utf8.encode Mode.standard.name)
  refine ⟨?_, ?_, ?_, ?_, ?_, ?_, fun p hp => specification_ne_nil h hp, ?_, ?_⟩
  · intro hdebug
    simpa [logLevel, hdebug] using hboth
  · intro hquiet
    have hdebug : options.debug = false := by simpa [hquiet] using hboth
    exact ⟨hdebug, by simp [logLevel, hdebug, hquiet]⟩
  · intro hdebug hquiet
    simp [logLevel, hdebug, hquiet]
  · intro value
    constructor
    · intro hvalue
      rw [(installRoot_of_chosen hvalue h).2]
    · rintro rfl
      rwa [hinstall]
  · intro value
    constructor
    · exact fun hvalue => mode_of_chosen hvalue h
    · rintro rfl
      exact mode_of_chosen hname h ▸ hname
  · rw [hinstall]
    exact hne
  · exact fun hoccurs other => (ofArguments_withRoot hoccurs other).trans h
  · exact fun hoccurs other => (ofArguments_withMode hoccurs other).trans h

/-- Both options in front of `--`, a root that is not UTF-8, something that looks like an
option behind it, and variables of no use. -/
theorem ofArguments_chooses_dashes :
    let root : Octets := [0x2F, 0xFF]
    let arguments : List Octets :=
      [Utf8.encode "-q", Utf8.encode "--install-root", root, Utf8.encode "--mode=exec", divider,
        Utf8.encode "--mode"]
    let surroundings : Surroundings :=
      { installRoot := some [], mode := some (Utf8.encode "fast") }
    let options : Options := ⟨some (.ofText "--mode"), ⟨root⟩, .exec, false, true, false, none⟩
    ofArguments arguments surroundings = .ok options ∧
      (∀ value, Chosen "mode" arguments (some (Utf8.encode "fast")) (Utf8.encode "shell") value ↔
        value = Utf8.encode "exec") ∧
      Occurs "mode" arguments ∧
      ofArguments arguments { surroundings with mode := none } = .ok options := by
  intro root arguments surroundings options
  have hread : ofArguments arguments surroundings = .ok options := by decide
  have hoccurs : Occurs "mode" arguments :=
    ⟨Utf8.encode "--mode=exec", by decide, .inr ⟨Utf8.encode "exec", by decide⟩⟩
  obtain ⟨-, -, -, -, hmode, -, -, -, hvariable⟩ := ofArguments_chooses hread
  exact ⟨hread, hmode, hoccurs, hvariable hoccurs none⟩

end Options

end InstallPlan
