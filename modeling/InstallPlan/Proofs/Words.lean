import InstallPlan.Proofs.Redaction
import Mathlib.Data.List.SplitBy

/-!
# Words

Redaction is a mask on words. A text is cut into its pieces, the longest runs of ink and
of blanks (`Redaction.pieces`). A piece with the option and a value shows what stands in
front of that value, and stars; every other piece is shown as it is (`Redaction.Shows`).

The mask goes apart wherever two pieces meet (`Redaction.mask_append`), and so does the
question whether there is anything to hide (`Redaction.hasSecret_append`). What is left is
a single word, in which the option is looked for from the front (`Redaction.shows_mask`).
-/

namespace InstallPlan

namespace Redaction

theorem isBlank_of_isInk_eq_false {c : Char} (h : isInk c = false) : isBlank c = true := by
  simpa [isInk] using h

/-! ## Pieces of a text -/

/-- The longest runs of ink and of blanks, in their order. -/
def pieces (text : List Char) : List (List Char) :=
  text.splitBy fun c d => isInk c == isInk d

/-- What is shown of a piece. The option is taken where it occurs first. -/
inductive Shows : List Char → List Char → Prop
  | hidden {before value : List Char} (hvalue : value ≠ [])
      (hfirst : ∀ earlier later, before ++ option ++ value = earlier ++ option ++ later →
        before.length ≤ earlier.length) :
      Shows (before ++ option ++ value) (before ++ option ++ stars)
  | kept {piece : List Char}
      (hbare : ∀ before value, piece = before ++ option ++ value → value = []) :
      Shows piece piece

/-- A piece is all ink or all blank. -/
theorem ink_or_blank_of_mem_pieces {text piece : List Char} (h : piece ∈ pieces text) :
    (∀ c ∈ piece, isInk c = true) ∨ ∀ c ∈ piece, isInk c = false := by
  cases piece with
  | nil => exact .inl (by simp)
  | cons c rest =>
    have hchain : List.IsChain (· = ·) ((c :: rest).map isInk) := by
      rw [List.isChain_map]
      simpa using List.isChain_of_mem_splitBy h
    rw [List.map_cons, List.isChain_cons_eq_iff_eq_replicate, List.eq_replicate_iff] at hchain
    have hsame : ∀ d ∈ c :: rest, isInk d = isInk c := by
      intro d hd
      rcases List.mem_cons.1 hd with rfl | hd
      · rfl
      · exact hchain.2 (isInk d) (List.mem_map_of_mem hd)
    cases hc : isInk c with
    | true => exact .inl fun d hd => (hsame d hd).trans hc
    | false => exact .inr fun d hd => (hsame d hd).trans hc

/-! ## Where a text goes apart -/

/-- Whether no word runs across the place where two texts meet. -/
def Apart (first second : List Char) : Prop :=
  ∀ c ∈ first.getLast?, ∀ d ∈ second.head?, isInk c = false ∨ isInk d = false

theorem mask_cons_of_blank {w : Char} (hw : isBlank w = true) (rest : List Char) :
    mask (w :: rest) = w :: mask rest := by
  simpa [mask_nil] using mask_append_cons_of_blank hw [] rest

theorem hasSecret_append_cons_of_blank {w : Char} (hw : isBlank w = true)
    (text rest : List Char) :
    hasSecret (text ++ w :: rest) = (hasSecret text || hasSecret rest) := by
  induction text with
  | nil =>
    have hnone : afterSecret? (w :: rest) = none := by
      simpa [afterSecret?] using afterSecret?_append_cons hw [] rest
    simp [hasSecret, hnone]
  | cons c text ih =>
    have hsplit := afterSecret?_append_cons hw (c :: text) rest
    rw [List.cons_append] at hsplit
    rw [List.cons_append, hasSecret, hasSecret, ih, hsplit, Option.isSome_map, Bool.or_assoc]

theorem hasSecret_cons_of_blank {w : Char} (hw : isBlank w = true) (rest : List Char) :
    hasSecret (w :: rest) = hasSecret rest := by
  simpa [hasSecret] using hasSecret_append_cons_of_blank hw [] rest

/-- Texts that are apart meet at a blank, unless one of them is empty. -/
theorem Apart.cases {first second : List Char} (h : Apart first second) :
    first = [] ∨ second = [] ∨ (∃ start w, isBlank w = true ∧ first = start ++ [w]) ∨
      ∃ w rest, isBlank w = true ∧ second = w :: rest := by
  rcases List.eq_nil_or_concat first with hfirst | ⟨start, c, hfirst⟩
  · exact .inl hfirst
  · cases second with
    | nil => exact .inr (.inl rfl)
    | cons d rest =>
      rw [List.concat_eq_append] at hfirst
      rcases h c (by simp [hfirst]) d rfl with hc | hd
      · exact .inr (.inr (.inl ⟨start, c, isBlank_of_isInk_eq_false hc, hfirst⟩))
      · exact .inr (.inr (.inr ⟨d, rest, isBlank_of_isInk_eq_false hd, rfl⟩))

theorem mask_append {first second : List Char} (h : Apart first second) :
    mask (first ++ second) = mask first ++ mask second := by
  rcases h.cases with rfl | rfl | ⟨start, w, hw, rfl⟩ | ⟨w, rest, hw, rfl⟩
  · simp [mask_nil]
  · simp [mask_nil]
  · simp [mask_append_cons_of_blank hw, mask_nil]
  · rw [mask_append_cons_of_blank hw, mask_cons_of_blank hw]

theorem hasSecret_append {first second : List Char} (h : Apart first second) :
    hasSecret (first ++ second) = (hasSecret first || hasSecret second) := by
  rcases h.cases with rfl | rfl | ⟨start, w, hw, rfl⟩ | ⟨w, rest, hw, rfl⟩
  · simp [hasSecret]
  · simp [hasSecret]
  · simp [hasSecret_append_cons_of_blank hw, hasSecret]
  · rw [hasSecret_append_cons_of_blank hw, hasSecret_cons_of_blank hw]

/-- Each piece is apart from all that follows it. -/
theorem apart_flatten_of_isChain {piece : List Char} {more : List (List Char)}
    (h : (piece :: more).IsChain fun a b => ∃ ha hb,
      (isInk (a.getLast ha) == isInk (b.head hb)) = false) : Apart piece more.flatten := by
  intro c hc d hd
  cases more with
  | nil => cases hd
  | cons next more =>
    obtain ⟨⟨hpiece, hnext, hdiffer⟩, -⟩ := List.isChain_cons_cons.1 h
    have hlast : c = piece.getLast hpiece := by
      rw [List.getLast?_eq_some_getLast hpiece] at hc
      exact (Option.some.inj hc).symm
    have hhead : d = next.head hnext := by
      rw [List.flatten_cons, List.head?_append_of_ne_nil _ hnext,
        List.head?_eq_some_head hnext] at hd
      exact (Option.some.inj hd).symm
    rw [← hlast, ← hhead] at hdiffer
    cases hcInk : isInk c with
    | true => exact .inr (by simpa [hcInk] using hdiffer)
    | false => exact .inl rfl

/-- What holds of no text at all, and of a text with a piece in front of it that is apart
from it, holds of every text with its pieces. -/
theorem pieces_induction {P : List Char → List (List Char) → Prop} (nil : P [] [])
    (cons : ∀ piece rest parts, Apart piece rest → P rest parts →
      P (piece ++ rest) (piece :: parts))
    (text : List Char) : P text (pieces text) := by
  have hchain := List.isChain_getLast_head_splitBy (fun c d => isInk c == isInk d) text
  have hflatten := List.flatten_splitBy (fun c d => isInk c == isInk d) text
  rw [pieces]
  generalize text.splitBy (fun c d => isInk c == isInk d) = parts at hchain hflatten ⊢
  subst hflatten
  induction parts with
  | nil => exact nil
  | cons piece more ih =>
    exact cons piece more.flatten more (apart_flatten_of_isChain hchain) (ih hchain.tail)

theorem mask_eq_flatMap_pieces (text : List Char) : mask text = (pieces text).flatMap mask := by
  refine pieces_induction (P := fun text parts => mask text = parts.flatMap mask) mask_nil ?_ text
  intro piece rest parts hapart ih
  rw [mask_append hapart, ih, List.flatMap_cons]

theorem hasSecret_eq_any_pieces (text : List Char) :
    hasSecret text = (pieces text).any hasSecret := by
  refine pieces_induction (P := fun text parts => hasSecret text = parts.any hasSecret) rfl ?_ text
  intro piece rest parts hapart ih
  rw [hasSecret_append hapart, ih, List.any_cons]

/-! ## A single word -/

theorem afterSecret?_eq_some_iff {text left : List Char} :
    afterSecret? text = some left ↔
      ∃ c rest, isInk c = true ∧ text = option ++ c :: rest ∧ left = rest.dropWhile isInk := by
  constructor
  · intro h
    by_cases ho : option <+: text
    · obtain ⟨value, rfl⟩ := ho
      cases value with
      | nil => simp [afterSecret?] at h
      | cons c rest =>
        cases hc : isInk c with
        | true => exact ⟨c, rest, hc, rfl, by simpa [afterSecret?, hc] using h.symm⟩
        | false => simp [afterSecret?, hc] at h
    · have hoption : option.isPrefixOf text = false := by
        simpa [← List.isPrefixOf_iff_prefix] using ho
      simp [afterSecret?, hoption] at h
  · rintro ⟨c, rest, hc, rfl, rfl⟩
    simp [afterSecret?, hc]

theorem hasSecret_iff (text : List Char) :
    hasSecret text = true ↔
      ∃ before c rest, isInk c = true ∧ text = before ++ option ++ c :: rest := by
  induction text with
  | nil => simp [hasSecret]
  | cons d text ih =>
    rw [hasSecret, Bool.or_eq_true, ih]
    constructor
    · rintro (h | ⟨before, c, rest, hc, rfl⟩)
      · obtain ⟨left, hleft⟩ := Option.isSome_iff_exists.1 h
        obtain ⟨c, rest, hc, htext, -⟩ := afterSecret?_eq_some_iff.1 hleft
        exact ⟨[], c, rest, hc, htext⟩
      · exact ⟨d :: before, c, rest, hc, rfl⟩
    · rintro ⟨before, c, rest, hc, htext⟩
      cases before with
      | nil =>
        have hleft := afterSecret?_eq_some_iff.2 ⟨c, rest, hc, htext, rfl⟩
        exact .inl (Option.isSome_iff_exists.2 ⟨_, hleft⟩)
      | cons e before => exact .inr ⟨before, c, rest, hc, (List.cons.inj htext).2⟩

/-- In a word, everything behind the option is its value. -/
theorem shows_mask {word : List Char} (h : ∀ c ∈ word, isInk c = true) :
    Shows word (mask word) := by
  induction word with
  | nil =>
    rw [mask_nil]
    refine .kept fun before value hsplit => ?_
    exact (List.append_eq_nil_iff.1 hsplit.symm).2
  | cons d rest ih =>
    cases ha : afterSecret? (d :: rest) with
    | some left =>
      obtain ⟨c, value, hc, hword, rfl⟩ := afterSecret?_eq_some_iff.1 ha
      have hvalue : value.dropWhile isInk = [] := by
        rw [List.dropWhile_eq_nil_iff]
        intro e he
        exact h e (by simp [hword, he])
      rw [mask_cons_of_some ha, hvalue, mask_nil, List.append_nil, hword]
      exact @Shows.hidden [] _ (List.cons_ne_nil c value) fun _ _ _ => Nat.zero_le _
    | none =>
      -- the option does not occur at the front with something behind it
      have hfront : ∀ value, d :: rest = option ++ value → value = [] := by
        intro value hword
        cases value with
        | nil => rfl
        | cons c value =>
          have hc : isInk c = true := h c (by simp [hword])
          rw [afterSecret?_eq_some_iff.2 ⟨c, value, hc, hword, rfl⟩] at ha
          cases ha
      have hrest : ∀ c ∈ rest, isInk c = true := fun c hc => h c (List.mem_cons_of_mem d hc)
      rw [mask_cons_of_none ha]
      specialize ih hrest
      generalize mask rest = shown at ih
      cases ih with
      | @hidden before value hvalue hfirst =>
        refine @Shows.hidden (d :: before) value hvalue fun earlier later hsplit => ?_
        cases earlier with
        | nil =>
          -- an option at the front would have nothing behind it, but it has the other one
          have hlater := hfront later hsplit
          have hlength := congrArg List.length hsplit
          simp [hlater] at hlength
          omega
        | cons e earlier =>
          exact Nat.succ_le_succ (hfirst earlier later (List.cons.inj hsplit).2)
      | kept hbare =>
        refine .kept fun before value hsplit => ?_
        cases before with
        | nil => exact hfront value hsplit
        | cons e before => exact hbare before value (List.cons.inj hsplit).2

theorem eq_nil_of_blank {text before value : List Char} (h : ∀ c ∈ text, isInk c = false)
    (hsplit : text = before ++ option ++ value) : value = [] := by
  have hdash := h '-' (by simp [hsplit, option_eq])
  cases hdash

/-- Blanks hide nothing. -/
theorem hasSecret_eq_false_of_blank {text : List Char} (h : ∀ c ∈ text, isInk c = false) :
    hasSecret text = false := by
  rw [Bool.eq_false_iff]
  intro hsecret
  obtain ⟨before, c, rest, -, hsplit⟩ := (hasSecret_iff text).1 hsecret
  exact List.cons_ne_nil c rest (eq_nil_of_blank h hsplit)

/-- A piece hides something if and only if there is something behind the option in it. -/
theorem hasSecret_piece_iff {text piece : List Char} (h : piece ∈ pieces text) :
    hasSecret piece = true ↔ ∃ before value, value ≠ [] ∧ piece = before ++ option ++ value := by
  rcases ink_or_blank_of_mem_pieces h with hink | hblank
  · rw [hasSecret_iff]
    constructor
    · rintro ⟨before, c, rest, -, hpiece⟩
      exact ⟨before, c :: rest, List.cons_ne_nil c rest, hpiece⟩
    · rintro ⟨before, value, hvalue, hpiece⟩
      obtain ⟨c, rest, rfl⟩ := List.exists_cons_of_ne_nil hvalue
      exact ⟨before, c, rest, hink c (by simp [hpiece]), hpiece⟩
  · rw [hasSecret_eq_false_of_blank hblank]
    refine iff_of_false Bool.false_ne_true ?_
    rintro ⟨before, value, hvalue, hpiece⟩
    exact hvalue (eq_nil_of_blank hblank hpiece)

theorem shows_mask_of_mem_pieces {text piece : List Char} (h : piece ∈ pieces text) :
    Shows piece (mask piece) := by
  rcases ink_or_blank_of_mem_pieces h with hink | hblank
  · exact shows_mask hink
  · rw [mask_eq_self (hasSecret_eq_false_of_blank hblank)]
    exact .kept fun before value hsplit => eq_nil_of_blank hblank hsplit

/-! ## Masking twice -/

namespace Shows

/-- Where the option occurs first does not depend on what stands behind it. -/
theorem first_of_first {before value : List Char}
    (h : ∀ earlier later, before ++ option ++ value = earlier ++ option ++ later →
      before.length ≤ earlier.length) (other : List Char) :
    ∀ earlier later, before ++ option ++ other = earlier ++ option ++ later →
      before.length ≤ earlier.length := by
  intro earlier later hsplit
  by_contra hlt
  have hshort : earlier ++ option <+: before ++ option ++ other := ⟨later, hsplit.symm⟩
  have hlong : before ++ option <+: before ++ option ++ other := ⟨other, rfl⟩
  have hlength : (earlier ++ option).length ≤ (before ++ option).length := by
    simp only [List.length_append]
    omega
  obtain ⟨between, hbetween⟩ := List.prefix_of_prefix_length_le hshort hlong hlength
  exact hlt (h earlier (between ++ value) (by rw [← hbetween, List.append_assoc]))

variable {piece shown other : List Char}

theorem unique (h : Shows piece shown) (h' : Shows piece other) : shown = other := by
  cases h with
  | @hidden before value hvalue hfirst =>
    generalize hpiece : before ++ option ++ value = piece at h'
    cases h' with
    | @hidden before' value' hvalue' hfirst' =>
      have hlength : before.length = before'.length :=
        Nat.le_antisymm (hfirst before' value' hpiece) (hfirst' before value hpiece.symm)
      rw [List.append_assoc, List.append_assoc] at hpiece
      rw [(List.append_inj hpiece hlength).1]
    | kept hbare => exact absurd (hbare before value hpiece.symm) hvalue
  | kept hbare =>
    cases h' with
    | @hidden before value hvalue hfirst => exact absurd (hbare before value rfl) hvalue
    | kept _ => rfl

/-- What is shown of a piece hides nothing more. -/
theorem shows_self (h : Shows piece shown) : Shows shown shown := by
  cases h with
  | hidden hvalue hfirst => exact .hidden (by decide) (first_of_first hfirst stars)
  | kept hbare => exact .kept hbare

theorem isInk_of_mem (h : Shows piece shown) (hpiece : ∀ c ∈ piece, isInk c = true) :
    ∀ c ∈ shown, isInk c = true := by
  cases h with
  | @hidden before value hvalue hfirst =>
    have hstars : ∀ c ∈ stars, isInk c = true := List.all_eq_true.1 (by decide)
    intro c hc
    rcases List.mem_append.1 hc with hc | hc
    · exact hpiece c (List.mem_append_left value hc)
    · exact hstars c hc
  | kept hbare => exact hpiece

end Shows

/-- What holds of every word, and of a text with a word and a blank in front of it, holds of
every text. -/
theorem word_induction {P : List Char → Prop}
    (word : ∀ text, (∀ c ∈ text, isInk c = true) → P text)
    (blank : ∀ text w rest, (∀ c ∈ text, isInk c = true) → isBlank w = true → P rest →
      P (text ++ w :: rest)) (text : List Char) : P text := by
  -- the word that is read at present stands in front of the text
  suffices h : ∀ start, (∀ c ∈ start, isInk c = true) → P (start ++ text) from h [] (by simp)
  induction text with
  | nil =>
    intro start hstart
    rw [List.append_nil]
    exact word start hstart
  | cons c rest ih =>
    intro start hstart
    cases hc : isInk c with
    | true =>
      rw [List.append_cons]
      refine ih (start ++ [c]) fun d hd => ?_
      rcases List.mem_append.1 hd with hd | hd
      · exact hstart d hd
      · rw [List.mem_singleton.1 hd, hc]
    | false => exact blank start c rest hstart (isBlank_of_isInk_eq_false hc) (ih [] (by simp))

/-- What is masked already stays as it is. -/
theorem mask_mask (text : List Char) : mask (mask text) = mask text := by
  have hword : ∀ word, (∀ c ∈ word, isInk c = true) → mask (mask word) = mask word := by
    intro word h
    have hshows := shows_mask h
    exact (shows_mask (hshows.isInk_of_mem h)).unique hshows.shows_self
  refine word_induction hword ?_ text
  intro word w rest h hw ih
  rw [mask_append_cons_of_blank hw, mask_append_cons_of_blank hw, hword word h, ih]

/-! ## Texts -/

/-- **Words.** Redaction shows of each piece what the option leaves to be seen, and keeps the
pieces in their order. So it goes apart at every blank, to do it twice is to do it once, and
there is something to hide exactly if something stands behind the option in one piece. -/
theorem redact_masks_words (text : String) :
    (∃ shown, List.Forall₂ Shows (pieces text.toList) shown ∧
      (redact text).toList = shown.flatten) ∧
    (∀ (before after : String) (w : Char), isBlank w →
      redact (before ++ String.singleton w ++ after) =
        redact before ++ String.singleton w ++ redact after) ∧
    redact (redact text) = redact text ∧
    (InstallPlan.hasSecret text ↔ ∃ piece ∈ pieces text.toList, ∃ before value,
      value ≠ [] ∧ piece = before ++ option ++ value) := by
  refine ⟨⟨(pieces text.toList).map mask, ?_, ?_⟩, ?_, ?_, ?_⟩
  · rw [List.forall₂_map_right_iff, List.forall₂_same]
    intro piece hpiece
    exact shows_mask_of_mem_pieces hpiece
  · rw [redact, String.toList_ofList, mask_eq_flatMap_pieces, List.flatMap_def]
  · intro before after w hw
    rw [← String.toList_inj]
    simp only [redact, String.toList_append, String.toList_singleton, String.toList_ofList,
      List.append_assoc, List.cons_append, List.nil_append, mask_append_cons_of_blank hw]
  · rw [redact, redact, String.toList_ofList, mask_mask]
  · rw [InstallPlan.hasSecret, hasSecret_eq_any_pieces, List.any_eq_true]
    constructor
    · rintro ⟨piece, hpiece, hsecret⟩
      exact ⟨piece, hpiece, (hasSecret_piece_iff hpiece).1 hsecret⟩
    · rintro ⟨piece, hpiece, hsplit⟩
      exact ⟨piece, hpiece, (hasSecret_piece_iff hpiece).2 hsplit⟩

end Redaction

end InstallPlan
