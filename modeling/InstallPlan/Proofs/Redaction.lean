import InstallPlan.Redaction
import Mathlib.Data.List.TakeWhile

/-!
# Redaction — words

What redaction does to a text goes word by word: a blank is never part of the
option or of a value, so what stands on its two sides is masked apart
(`mask_append_cons_of_blank`). Behind the option, a value that begins with ink
gives way to the stars up to the first blank; from there on it is masked like
any other text, and so it stays to be seen (`mask_option_append`).
-/

namespace InstallPlan

namespace Redaction

theorem isInk_of_isBlank {c : Char} (h : isBlank c = true) : isInk c = false := by
  simp [isInk, h]

theorem option_eq :
    option = ['-', '-', 'r', 'o', 'o', 't', '-', 'p', 'a', 's', 's', 'w', 'o', 'r', 'd', '='] :=
  rfl

theorem ne_of_mem_option {c w : Char} (hw : isBlank w = true) (hc : c ∈ option) : c ≠ w := by
  have hink : option.all isInk = true := by decide
  rintro rfl
  have hc' := List.all_eq_true.1 hink c hc
  rw [isInk_of_isBlank hw] at hc'
  exact Bool.false_ne_true hc'

/-- A text without a character is a start of a longer one only in front of that character. -/
theorem isPrefix_append_cons_iff {α : Type} {start text rest : List α} {w : α}
    (h : ∀ c ∈ start, c ≠ w) : start <+: text ++ w :: rest ↔ start <+: text := by
  induction start generalizing text with
  | nil => simp
  | cons c more ih =>
    cases text with
    -- the start would have to begin with the character itself
    | nil => simp [List.cons_prefix_cons, h c]
    | cons d text =>
      simp only [List.cons_append, List.cons_prefix_cons]
      rw [ih fun c hc => h c (List.mem_cons_of_mem _ hc)]

theorem dropWhile_isInk_append {w : Char} (hw : isBlank w = true) (text rest : List Char) :
    (text ++ w :: rest).dropWhile isInk = text.dropWhile isInk ++ w :: rest := by
  induction text with
  | nil => simp [isInk_of_isBlank hw]
  | cons c text ih =>
    cases hc : isInk c with
    | true => simp [hc, ih]
    | false => simp [hc]

/-! ## A blank between two texts -/

theorem afterSecret?_append_cons {w : Char} (hw : isBlank w = true) (text rest : List Char) :
    afterSecret? (text ++ w :: rest) = (afterSecret? text).map (· ++ w :: rest) := by
  have hprefix : option <+: text ++ w :: rest ↔ option <+: text :=
    isPrefix_append_cons_iff fun c hc => ne_of_mem_option hw hc
  by_cases ho : option <+: text
  · obtain ⟨value, rfl⟩ := ho
    cases value with
    -- an option at the end of the text gets the blank for a value, which is none
    | nil => simp [afterSecret?, isInk_of_isBlank hw]
    | cons c value =>
      cases hc : isInk c with
      | true => simp [afterSecret?, hc, dropWhile_isInk_append hw]
      | false => simp [afterSecret?, hc]
  · have hleft : option.isPrefixOf text = false := by
      simpa [← List.isPrefixOf_iff_prefix] using ho
    have hboth : option.isPrefixOf (text ++ w :: rest) = false := by
      simpa [← List.isPrefixOf_iff_prefix] using mt hprefix.1 ho
    simp [afterSecret?, hleft, hboth]

theorem mask_nil : mask [] = [] := by
  rw [mask]

theorem mask_eq_self {text : List Char} (h : hasSecret text = false) : mask text = text := by
  induction text with
  | nil => exact mask_nil
  | cons c rest ih =>
    obtain ⟨hnone, hrest⟩ := Bool.or_eq_false_iff.1 h
    rw [mask_cons_of_none (Option.not_isSome_iff_eq_none.1 (by simp [hnone])), ih hrest]

/-- What stands before a blank and what stands behind it are masked apart. -/
theorem mask_append_cons_of_blank {w : Char} (hw : isBlank w = true) (text rest : List Char) :
    mask (text ++ w :: rest) = mask text ++ w :: mask rest := by
  fun_induction mask text with
  | case1 =>
    have hnone : afterSecret? (w :: rest) = none := by
      simpa [afterSecret?] using afterSecret?_append_cons hw [] rest
    rw [List.nil_append, mask_cons_of_none hnone, List.nil_append]
  | case2 c text left h ih =>
    have hsome : afterSecret? (c :: (text ++ w :: rest)) = some (left ++ w :: rest) := by
      rw [← List.cons_append, afterSecret?_append_cons hw, h, Option.map_some]
    rw [List.cons_append, mask_cons_of_some hsome, ih]
    simp only [List.append_assoc]
  | case3 c text h ih =>
    have hnone : afterSecret? (c :: (text ++ w :: rest)) = none := by
      rw [← List.cons_append, afterSecret?_append_cons hw, h, Option.map_none]
    rw [List.cons_append, mask_cons_of_none hnone, ih, List.cons_append]

/-! ## A value behind the option -/

theorem mask_cons_of_ne {c : Char} (h : c ≠ '-') (rest : List Char) :
    mask (c :: rest) = c :: mask rest := by
  apply mask_cons_of_none
  simp [afterSecret?, option_eq, Ne.symm h]

theorem mask_dash_cons_of_ne {d : Char} (h : d ≠ '-') (rest : List Char) :
    mask ('-' :: d :: rest) = '-' :: mask (d :: rest) := by
  apply mask_cons_of_none
  simp [afterSecret?, option_eq, Ne.symm h]

/-- The option is masked by itself, and nothing that starts inside it is. -/
theorem mask_option_append_of_none {value : List Char}
    (h : afterSecret? (option ++ value) = none) :
    mask (option ++ value) = option ++ mask value := by
  rw [option_eq] at h ⊢
  simp only [List.cons_append, List.nil_append] at h ⊢
  -- of the three dashes, the last two are followed by something else than a dash
  rw [mask_cons_of_none h, mask_dash_cons_of_ne (by decide)]
  simp only [mask_cons_of_ne (show 'r' ≠ '-' by decide),
    mask_cons_of_ne (show 'o' ≠ '-' by decide), mask_cons_of_ne (show 't' ≠ '-' by decide),
    mask_dash_cons_of_ne (show 'p' ≠ '-' by decide), mask_cons_of_ne (show 'p' ≠ '-' by decide),
    mask_cons_of_ne (show 'a' ≠ '-' by decide), mask_cons_of_ne (show 's' ≠ '-' by decide),
    mask_cons_of_ne (show 'w' ≠ '-' by decide), mask_cons_of_ne (show 'd' ≠ '-' by decide),
    mask_cons_of_ne (show '=' ≠ '-' by decide)]

/-- What stays to be seen of a value: stars for its first word, unless a blank stands in
front of that, and then everything from the first blank on, masked like any other text. -/
def seen (value : List Char) : List Char :=
  (if value.takeWhile isInk = [] then [] else stars) ++ mask (value.dropWhile isInk)

theorem mask_option_append (value : List Char) :
    mask (option ++ value) = option ++ seen value := by
  cases value with
  | nil =>
    rw [mask_option_append_of_none (by decide)]
    simp [seen]
  | cons c rest =>
    cases hc : isInk c with
    | false =>
      rw [mask_option_append_of_none (by simp [afterSecret?, hc])]
      simp [seen, hc]
    | true =>
      have hsome : afterSecret? (option ++ c :: rest) = some (rest.dropWhile isInk) := by
        simp [afterSecret?, hc]
      rw [option_eq, List.cons_append] at hsome ⊢
      rw [mask_cons_of_some hsome]
      simp [seen, hc, option_eq]

/-- Two values that look the same once they are masked. -/
def Alike (first second : List Char) : Prop :=
  (first.takeWhile isInk = [] ↔ second.takeWhile isInk = []) ∧
    mask (first.dropWhile isInk) = mask (second.dropWhile isInk)

theorem mask_dropWhile_ne_stars_append {value rest : List Char}
    (h : value.takeWhile isInk = []) : mask (value.dropWhile isInk) ≠ stars ++ rest := by
  cases value with
  | nil => simp [mask_nil, stars]
  | cons c more =>
    -- a value without a first word begins with a blank, and that is neither dash nor star
    have hc : isInk c = false := by
      cases hc : isInk c with
      | true => simp [hc] at h
      | false => rfl
    have hdash : c ≠ '-' := by
      rintro rfl
      exact absurd hc (by decide)
    have hstar : c ≠ '*' := by
      rintro rfl
      exact absurd hc (by decide)
    rw [List.dropWhile_cons_of_neg (by simp [hc]), mask_cons_of_ne hdash]
    intro heq
    exact hstar (List.cons.inj heq).1

theorem seen_inj {first second : List Char} : seen first = seen second ↔ Alike first second := by
  constructor
  · intro h
    by_cases hfirst : first.takeWhile isInk = []
    · by_cases hsecond : second.takeWhile isInk = []
      · simp only [seen, if_pos hfirst, if_pos hsecond, List.nil_append] at h
        exact ⟨iff_of_true hfirst hsecond, h⟩
      · simp only [seen, if_pos hfirst, if_neg hsecond, List.nil_append] at h
        exact absurd h (mask_dropWhile_ne_stars_append hfirst)
    · by_cases hsecond : second.takeWhile isInk = []
      · simp only [seen, if_neg hfirst, if_pos hsecond, List.nil_append] at h
        exact absurd h.symm (mask_dropWhile_ne_stars_append hsecond)
      · simp only [seen, if_neg hfirst, if_neg hsecond] at h
        exact ⟨iff_of_false hfirst hsecond, List.append_cancel_left h⟩
  · rintro ⟨hink, hrest⟩
    simp only [seen, hink, hrest]

/-- Values of one word look all the same. -/
theorem alike_of_all_isInk {first second : List Char} (hfirst : first.all isInk)
    (hsecond : second.all isInk) (hne : first ≠ []) (hne' : second ≠ []) :
    Alike first second := by
  have hdrop (value : List Char) (h : value.all isInk) : value.dropWhile isInk = [] :=
    List.dropWhile_eq_nil_iff.2 (List.all_eq_true.1 h)
  have htake (value : List Char) (h : value.all isInk) : value.takeWhile isInk = value :=
    List.takeWhile_eq_self_iff.2 (List.all_eq_true.1 h)
  refine ⟨?_, ?_⟩
  · rw [htake _ hfirst, htake _ hsecond]
    exact iff_of_false hne hne'
  · rw [hdrop _ hfirst, hdrop _ hsecond]

end Redaction

end InstallPlan
