import InstallPlan.Plan
import InstallPlan.Proofs.Rows

/-!
# Cutting

Where a shell without quotes would cut a command apart: at every space, tab and line feed
(`cut`). Two commands of a plan are words with a space between each two of them, put
together from values that nothing checks. Cutting gives such words back exactly if none of
them has a gap of its own (`cut_intercalate_eq_iff`), since no piece has one.

The command that installs the packages ends in a space when there are no packages, so
there cutting gives one piece too many.
-/

namespace InstallPlan

/-- Whether a character ends a word. -/
def isGap (c : Char) : Bool := c = ' ' || c = '\t' || c = '\n'

/-- Whether a space, a tab or a line feed stands in a text. -/
def HasGap (text : String) : Prop := ∃ c ∈ text.toList, isGap c

instance (text : String) : Decidable (HasGap text) :=
  decidable_of_iff (text.toList.any isGap) List.any_eq_true

/-- The pieces of a text between its gaps, empty ones included. -/
def cut (text : String) : List String := (text.toList.splitOnP isGap).map String.ofList

example : cut "pacstrap  base\tvim\n" = ["pacstrap", "", "base", "vim", ""] := by decide

/-! ## Texts with gaps and without -/

theorem not_hasGap_iff {text : String} : ¬ HasGap text ↔ ∀ c ∈ text.toList, isGap c = false := by
  simp [HasGap]

theorem hasGap_append {text more : String} :
    HasGap (text ++ more) ↔ HasGap text ∨ HasGap more := by
  simp only [HasGap, String.toList_append, List.mem_append, or_and_right, exists_or]

/-- What stands in front of a value without a gap neither hides a gap nor adds one. -/
theorem hasGap_append_iff {before : String} (h : ¬ HasGap before) {value : String} :
    HasGap (before ++ value) ↔ HasGap value := by
  rw [hasGap_append, or_iff_right h]

/-! ## Pieces -/

theorem cut_ne_nil (text : String) : cut text ≠ [] := by
  simp [cut, List.splitOnP_ne_nil]

theorem cut_eq_singleton {text : String} (h : ¬ HasGap text) : cut text = [text] := by
  rw [cut, List.splitOnP_eq_singleton (not_hasGap_iff.1 h), List.map_singleton,
    String.ofList_toList]

theorem cut_append_space (text more : String) :
    cut (text ++ " " ++ more) = cut text ++ cut more := by
  have hspace : (" " : String).toList = [' '] := rfl
  rw [cut, String.toList_append, String.toList_append, hspace, List.append_assoc,
    List.singleton_append, List.splitOnP_append_cons _ _ (by decide), List.map_append]
  rfl

theorem cut_intercalate {words : List String} (h : words ≠ []) :
    cut (" ".intercalate words) = words.flatMap cut := by
  induction words with
  | nil => exact absurd rfl h
  | cons word more ih =>
    cases more with
    | nil => simp
    | cons next more =>
      rw [String.intercalate_cons_cons, cut_append_space, ih (List.cons_ne_nil next more)]
      rfl

/-- No piece has a gap. -/
theorem not_hasGap_of_mem_cut {text piece : String} (h : piece ∈ cut text) : ¬ HasGap piece := by
  obtain ⟨chars, hchars, rfl⟩ := List.mem_map.1 h
  rw [not_hasGap_iff, String.toList_ofList]
  exact eq_false_of_mem_splitOnP hchars

/-- Words that are put together are cut apart again exactly if none of them has a gap. -/
theorem cut_intercalate_eq_iff {words : List String} (h : words ≠ []) :
    cut (" ".intercalate words) = words ↔ ∀ word ∈ words, ¬ HasGap word := by
  constructor
  · intro hcut word hword
    exact not_hasGap_of_mem_cut (hcut.symm ▸ hword)
  · intro hwords
    rw [cut_intercalate h]
    exact flatMap_eq_self fun word hword => cut_eq_singleton (hwords word hword)

/-! ## The two commands -/

namespace Packages

/-- The packages as an order: what is absent counts as empty, and what is empty is left
out. The headers follow the kernel. -/
theorem names_eq_filter (packages : Packages) :
    packages.names =
      ([packages.base.getD "", packages.kernel.getD "",
        if packages.kernel.getD "" = "" then "" else packages.kernel.getD "" ++ "-headers",
        packages.firmware.getD ""] ++ packages.extra).filter (· ≠ "") := by
  have hpresent (value : Option String) :
      (present value).toList = [value.getD ""].filter (· ≠ "") := by
    cases value with
    | none => rfl
    | some s => by_cases hs : s = "" <;> simp [present, Option.filter, hs]
  have hheaders : packages.headersName.toList =
      [if packages.kernel.getD "" = "" then "" else packages.kernel.getD "" ++ "-headers"].filter
        (· ≠ "") := by
    cases hkernel : packages.kernel with
    | none => simp [headersName, kernelName, present, hkernel]
    | some s =>
      by_cases hs : s = "" <;>
        simp [headersName, kernelName, present, Option.filter, hkernel, hs]
  rw [names, baseName, kernelName, firmwareName, hpresent, hpresent, hpresent, hheaders]
  simp only [← List.filter_append, List.cons_append, List.nil_append]

theorem installation_eq {packages : Packages} (h : packages.names ≠ []) (root : Path) :
    packages.installation root =
      " ".intercalate ("pacstrap" :: root.shown :: packages.names) := by
  have hname : ("pacstrap " : String) = "pacstrap" ++ " " := by decide
  rw [installation, String.intercalate_cons_cons, String.intercalate_cons_of_ne_nil h, hname]
  simp only [String.append_assoc]

theorem cut_installation_iff (packages : Packages) (root : Path) :
    cut (packages.installation root) = "pacstrap" :: root.shown :: packages.names ↔
      packages.names ≠ [] ∧ ∀ word ∈ root.shown :: packages.names, ¬ HasGap word := by
  by_cases h : packages.names = []
  · -- the space behind the root is the end of the command, with an empty piece behind it
    have hcommand : packages.installation root = "pacstrap " ++ root.shown ++ " " ++ "" := by
      rw [installation, h, String.intercalate_nil]
    have hfirst : cut ("pacstrap " ++ root.shown) = "pacstrap" :: cut root.shown :=
      cut_append_space "pacstrap" root.shown
    have hempty : cut "" = [""] := by decide
    refine iff_of_false ?_ fun hnames => hnames.1 h
    rw [hcommand, cut_append_space, hfirst, hempty, h]
    intro hcut
    have hlength := congrArg List.length hcut
    obtain ⟨piece, rest, hroot⟩ := List.exists_cons_of_ne_nil (cut_ne_nil root.shown)
    simp [hroot] at hlength
  · have hpacstrap : ¬ HasGap "pacstrap" := by decide
    rw [installation_eq h, cut_intercalate_eq_iff (List.cons_ne_nil _ _), List.forall_mem_cons,
      and_iff_right hpacstrap, and_iff_right h]

end Packages

namespace System

theorem cut_identity_iff (system : System) (root : Path) :
    cut (system.identity root) = system.identityWords root ↔
      ∀ value ∈ [system.timezone, system.locale, system.keymap, system.hostname, root.shown]
          ++ system.password.toList, ¬ HasGap value := by
  have hcommand : ¬ HasGap "systemd-firstboot" ∧ ¬ HasGap "--setup-machine-id" := by decide
  have hwords : system.identityWords root ≠ [] := List.cons_ne_nil _ _
  rw [identity, cut_intercalate_eq_iff hwords]
  simp only [identityWords, List.forall_mem_append, List.forall_mem_cons, List.forall_mem_map,
    List.not_mem_nil, false_imp_iff, implies_true, and_true, hcommand.1, hcommand.2,
    not_false_eq_true, true_and,
    hasGap_append_iff (show ¬ HasGap "--timezone=" by decide),
    hasGap_append_iff (show ¬ HasGap "--locale=" by decide),
    hasGap_append_iff (show ¬ HasGap "--keymap=" by decide),
    hasGap_append_iff (show ¬ HasGap "--hostname=" by decide),
    hasGap_append_iff (show ¬ HasGap "--root=" by decide),
    hasGap_append_iff (show ¬ HasGap "--root-password=" by decide)]

end System

/-- **Cutting.** The command that installs the packages is cut into its name, the root and
the packages exactly if there are packages and none of these values has a gap; the command
that sets the identity is cut into its words exactly if none of the values in them has one.
The packages are those that are given, in the order base, kernel, headers, firmware and the
others. -/
theorem commands_are_cut_into_words (packages : Packages) (system : System) (root : Path) :
    (let kernel := packages.kernel.getD ""
      let headers := if kernel = "" then "" else kernel ++ "-headers"
      packages.names =
        ([packages.base.getD "", kernel, headers, packages.firmware.getD ""]
          ++ packages.extra).filter (· ≠ "")) ∧
    (packages.steps root).filterMap Step.command? = [packages.installation root] ∧
    (cut (packages.installation root) = "pacstrap" :: root.shown :: packages.names ↔
      packages.names ≠ [] ∧ ∀ word ∈ root.shown :: packages.names, ¬ HasGap word) ∧
    system.identity root ∈ system.commands root ∧
    (cut (system.identity root) =
        ["systemd-firstboot", "--setup-machine-id", "--timezone=" ++ system.timezone,
          "--locale=" ++ system.locale, "--keymap=" ++ system.keymap,
          "--hostname=" ++ system.hostname, "--root=" ++ root.shown]
        ++ system.password.toList.map ("--root-password=" ++ ·) ↔
      ∀ value ∈ [system.timezone, system.locale, system.keymap, system.hostname, root.shown]
        ++ system.password.toList, ¬ HasGap value) := by
  refine ⟨packages.names_eq_filter, rfl, packages.cut_installation_iff root, ?_,
    system.cut_identity_iff root⟩
  simp [System.commands]

end InstallPlan
