import InstallPlan.Proofs.Decoding

/-!
# Encoding

The octets of a text. Characters of ASCII are single octets below 0x80, and all octets of
other characters are at least 0x80, so an octet of ASCII cuts the octets of a text where it
cuts the text (`Utf8.exists_of_encode_eq`). Greater characters have greater octets, so texts
are ordered like their octets (`Utf8.encode_lt_encode_iff`). What is encoded is decoded
again, leniently too (`Utf8.decodeLossy_encode`).
-/

namespace InstallPlan

namespace Utf8

theorem encode_append (first second : String) :
    encode (first ++ second) = encode first ++ encode second := by
  simp [encode]

theorem encode_join (texts : List String) :
    encode (String.join texts) = texts.flatMap encode := by
  rw [encode, String.toList_join, List.flatMap_assoc]
  rfl

/-! ## Octets of one character -/

theorem valid (c : Char) : c.toNat < 0xD800 ∨ (0xDFFF < c.toNat ∧ c.toNat < 0x110000) := c.valid

/-- The octets of a character, by their number. -/
theorem utf8EncodeChar_cases (c : Char) :
    (c.toNat < 0x80 ∧ String.utf8EncodeChar c = [UInt8.ofNat c.toNat]) ∨
    (0x80 ≤ c.toNat ∧ c.toNat < 0x800 ∧ String.utf8EncodeChar c =
      [UInt8.ofNat (c.toNat / 64 + 0xC0), UInt8.ofNat (c.toNat % 64 + 0x80)]) ∨
    (0x800 ≤ c.toNat ∧ c.toNat < 0x10000 ∧ String.utf8EncodeChar c =
      [UInt8.ofNat (c.toNat / 4096 + 0xE0), UInt8.ofNat (c.toNat / 64 % 64 + 0x80),
        UInt8.ofNat (c.toNat % 64 + 0x80)]) ∨
    (0x10000 ≤ c.toNat ∧ String.utf8EncodeChar c =
      [UInt8.ofNat (c.toNat / 262144 + 0xF0), UInt8.ofNat (c.toNat / 4096 % 64 + 0x80),
        UInt8.ofNat (c.toNat / 64 % 64 + 0x80), UInt8.ofNat (c.toNat % 64 + 0x80)]) := by
  have hvalid := valid c
  have hencode := String.utf8EncodeChar.eq_1 c
  rw [Char.toNat_val] at hencode
  split at hencode
  · exact .inl ⟨by omega, hencode⟩
  split at hencode
  · rw [Nat.mod_eq_of_lt (by omega : c.toNat / 64 < 32)] at hencode
    exact .inr (.inl ⟨by omega, by omega, hencode⟩)
  split at hencode
  · rw [Nat.mod_eq_of_lt (by omega : c.toNat / 4096 < 16)] at hencode
    exact .inr (.inr (.inl ⟨by omega, by omega, hencode⟩))
  · rw [Nat.mod_eq_of_lt (by omega : c.toNat / 262144 < 8)] at hencode
    exact .inr (.inr (.inr ⟨by omega, hencode⟩))

theorem utf8EncodeChar_of_lt {c : Char} (h : c.toNat < 0x80) :
    String.utf8EncodeChar c = [UInt8.ofNat c.toNat] := by
  rcases utf8EncodeChar_cases c with ⟨-, hc⟩ | ⟨hge, -⟩ | ⟨hge, -⟩ | ⟨hge, -⟩
  · exact hc
  all_goals omega

theorem le_of_mem_utf8EncodeChar {c : Char} (h : 0x80 ≤ c.toNat) {b : UInt8}
    (hb : b ∈ String.utf8EncodeChar c) : 0x80 ≤ b := by
  have hvalid := valid c
  have hmark : (0x80 : UInt8).toNat = 0x80 := rfl
  rw [UInt8.le_iff_toNat_le, hmark]
  rcases utf8EncodeChar_cases c with ⟨hlt, -⟩ | ⟨-, hlt, hencode⟩ | ⟨-, hlt, hencode⟩ | ⟨-, hencode⟩
  · omega
  all_goals
    rw [hencode] at hb
    simp only [List.mem_cons, List.not_mem_nil, or_false] at hb
    rcases hb with rfl | rfl | rfl | rfl
  all_goals
    rw [UInt8.toNat_ofNat']
    omega

theorem ofNat_lt_ofNat_iff {m n : Nat} (hm : m < 256) (hn : n < 256) :
    UInt8.ofNat m < UInt8.ofNat n ↔ m < n := by
  rw [UInt8.lt_iff_toNat_lt, UInt8.toNat_ofNat_of_lt' hm, UInt8.toNat_ofNat_of_lt' hn]

theorem ofNat_eq_ofNat_iff {m n : Nat} (hm : m < 256) (hn : n < 256) :
    UInt8.ofNat m = UInt8.ofNat n ↔ m = n := by
  rw [← UInt8.toNat_inj, UInt8.toNat_ofNat_of_lt' hm, UInt8.toNat_ofNat_of_lt' hn]

/-! ## Order -/

/-- A greater character has greater octets, whatever follows. -/
theorem utf8EncodeChar_append_lt {c d : Char} (h : c < d) (before after : Octets) :
    String.utf8EncodeChar c ++ before < String.utf8EncodeChar d ++ after := by
  have hlt : c.toNat < d.toNat := h
  have hd := valid d
  -- a longer code begins with a greater octet; codes of one length are compared like digits
  rcases utf8EncodeChar_cases c with ⟨_, hc'⟩ | ⟨_, _, hc'⟩ | ⟨_, _, hc'⟩ | ⟨_, hc'⟩ <;>
    rcases utf8EncodeChar_cases d with ⟨_, hd'⟩ | ⟨_, _, hd'⟩ | ⟨_, _, hd'⟩ | ⟨_, hd'⟩ <;>
    rw [hc', hd']
  all_goals
    simp (disch := omega) only [List.cons_append, List.nil_append, List.cons_lt_cons_iff,
      ofNat_lt_ofNat_iff, ofNat_eq_ofNat_iff]
    omega

theorem flatMap_lt {chars others : List Char} (h : chars < others) :
    chars.flatMap String.utf8EncodeChar < others.flatMap String.utf8EncodeChar := by
  induction chars generalizing others with
  | nil =>
    cases others with
    | nil => exact absurd h (List.lt_irrefl _)
    | cons d others =>
      obtain ⟨b, octets, hd⟩ := List.exists_cons_of_ne_nil (String.utf8EncodeChar_ne_nil (c := d))
      simp [hd]
  | cons c chars ih =>
    cases others with
    | nil => exact absurd h (List.not_lt_nil _)
    | cons d others =>
      rw [List.flatMap_cons, List.flatMap_cons]
      rcases List.cons_lt_cons_iff.1 h with hcd | ⟨rfl, hrest⟩
      · exact utf8EncodeChar_append_lt hcd _ _
      · exact List.append_left_lt (ih hrest)

/-- Texts are ordered like their octets. -/
theorem encode_lt_encode_iff {text other : String} :
    encode text < encode other ↔ text < other := by
  constructor
  · intro h
    rcases lt_trichotomy text other with hlt | rfl | hgt
    · exact hlt
    · exact absurd h (List.lt_irrefl _)
    · exact absurd (flatMap_lt (String.lt_iff_toList_lt.1 hgt)) (List.lt_asymm h)
  · intro h
    exact flatMap_lt (String.lt_iff_toList_lt.1 h)

/-! ## Decoding what is encoded -/

theorem announce_of_two {n : Nat} (hlow : 0xC2 ≤ n) (hhigh : n < 0xE0) :
    announce (UInt8.ofNat n) = some (n % 32, 1, 0x80, 0xBF) := by
  have hn := UInt8.toNat_ofNat_of_lt' (Nat.lt_trans hhigh (by decide) : n < UInt8.size)
  simp only [announce, UInt8.lt_iff_toNat_lt, hn, UInt8.toNat_ofNat]
  rw [if_neg (by omega), if_neg (by omega), if_pos (by omega)]

theorem announce_of_three {n : Nat} (hlow : 0xE0 ≤ n) (hhigh : n < 0xF0) :
    announce (UInt8.ofNat n) = some (n % 16, 2, if n = 0xE0 then 0xA0 else 0x80,
      if n = 0xED then 0x9F else 0xBF) := by
  have hn := UInt8.toNat_ofNat_of_lt' (Nat.lt_trans hhigh (by decide) : n < UInt8.size)
  simp only [announce, UInt8.lt_iff_toNat_lt, ← UInt8.toNat_inj, hn, UInt8.toNat_ofNat]
  rw [if_neg (by omega), if_neg (by omega), if_neg (by omega)]
  by_cases hfirst : n = 0xE0
  · simp [hfirst]
  · by_cases hsurrogates : n = 0xED
    · simp [hsurrogates]
    · simp [hfirst, hsurrogates, hhigh]

theorem announce_of_four {n : Nat} (hlow : 0xF0 ≤ n) (hhigh : n < 0xF5) :
    announce (UInt8.ofNat n) = some (n % 8, 3, if n = 0xF0 then 0x90 else 0x80,
      if n = 0xF4 then 0x8F else 0xBF) := by
  have hn := UInt8.toNat_ofNat_of_lt' (Nat.lt_trans hhigh (by decide) : n < UInt8.size)
  simp only [announce, UInt8.lt_iff_toNat_lt, ← UInt8.toNat_inj, hn, UInt8.toNat_ofNat]
  rw [if_neg (by omega), if_neg (by omega), if_neg (by omega), if_neg (by omega),
    if_neg (by omega), if_neg (by omega)]
  by_cases hfirst : n = 0xF0
  · simp [hfirst]
  · by_cases hlast : n = 0xF4
    · simp [hlast]
    · have hbetween : n < 0xF4 := by omega
      simp [hfirst, hlast, hbetween]

/-- A continuing octet in its range is taken onto the code. -/
theorem advance_cons {n code m : Nat} {low high : UInt8} (hm : m < 64)
    (hlow : low.toNat ≤ m + 0x80) (hhigh : m + 0x80 ≤ high.toNat) (rest : Octets) :
    advance (n + 1) low high code (UInt8.ofNat (m + 0x80) :: rest) =
      advance n 0x80 0xBF (code * 64 + m) rest := by
  have hoctet : (UInt8.ofNat (m + 0x80)).toNat = m + 0x80 :=
    UInt8.toNat_ofNat_of_lt' (by omega : m + 0x80 < 256)
  have hshare : (m + 0x80) % 64 = m := by omega
  have hrange : low ≤ UInt8.ofNat (m + 0x80) ∧ UInt8.ofNat (m + 0x80) ≤ high := by
    rw [UInt8.le_iff_toNat_le, UInt8.le_iff_toNat_le, hoctet]
    exact ⟨hlow, hhigh⟩
  rw [advance, if_pos hrange, hoctet, hshare]

theorem advance_cons_continuing {n code m : Nat} (hm : m < 64) (rest : Octets) :
    advance (n + 1) 0x80 0xBF code (UInt8.ofNat (m + 0x80) :: rest) =
      advance n 0x80 0xBF (code * 64 + m) rest :=
  advance_cons hm (by simp) (by simp; omega) rest

/-- A character is decoded from its octets, whatever follows. -/
theorem scan_utf8EncodeChar (c : Char) (rest : Octets) :
    scan (String.utf8EncodeChar c ++ rest) = some c :: scan rest := by
  have hvalid := valid c
  rcases utf8EncodeChar_cases c with ⟨hlt, hc⟩ | ⟨hge, hlt, hc⟩ | ⟨hge, hlt, hc⟩ | ⟨hge, hc⟩
  · have hb : UInt8.ofNat c.toNat < 0x80 := (ofNat_lt_ofNat_iff (by omega) (by decide)).2 hlt
    have hcode := UInt8.toNat_ofNat_of_lt' (by omega : c.toNat < 256)
    rw [hc, List.cons_append, scan_cons, announce_of_lt hb, hcode]
    simp [advance]
  · have hcode : (c.toNat / 64 + 0xC0) % 32 * 64 + c.toNat % 64 = c.toNat := by omega
    rw [hc, List.cons_append, scan_cons, announce_of_two (by omega) (by omega)]
    simp only [List.cons_append, List.nil_append]
    rw [advance_cons_continuing (by omega), hcode]
    simp [advance]
  · have hcode : ((c.toNat / 4096 + 0xE0) % 16 * 64 + c.toNat / 64 % 64) * 64 + c.toNat % 64
        = c.toNat := by omega
    rw [hc, List.cons_append, scan_cons, announce_of_three (by omega) (by omega)]
    simp only [List.cons_append, List.nil_append]
    rw [advance_cons (by omega) (by split <;> simp; omega) (by split <;> simp <;> omega),
      advance_cons_continuing (by omega), hcode]
    simp [advance]
  · have hcode : (((c.toNat / 262144 + 0xF0) % 8 * 64 + c.toNat / 4096 % 64) * 64
        + c.toNat / 64 % 64) * 64 + c.toNat % 64 = c.toNat := by omega
    rw [hc, List.cons_append, scan_cons, announce_of_four (by omega) (by omega)]
    simp only [List.cons_append, List.nil_append]
    rw [advance_cons (by omega) (by split <;> simp; omega) (by split <;> simp <;> omega),
      advance_cons_continuing (by omega), advance_cons_continuing (by omega), hcode]
    simp [advance]

theorem scan_encode (text : String) : scan (encode text) = text.toList.map some := by
  rw [encode]
  induction text.toList with
  | nil => simp [scan]
  | cons c chars ih => rw [List.flatMap_cons, scan_utf8EncodeChar, ih, List.map_cons]

/-- What is encoded is decoded again. -/
@[simp] theorem decodeLossy_encode (text : String) : decodeLossy (encode text) = text := by
  rw [decodeLossy, scan_encode, List.map_map]
  simp [Function.comp_def]

@[simp] theorem decode?_encode (text : String) : decode? (encode text) = some text := by
  have hall : text.toList.mapM some = some text.toList := by
    simpa using List.mapM_pure (m := Option) (l := text.toList) (f := id)
  rw [decode?, scan_encode, List.mapM_map]
  simp [hall]

theorem encode_inj {text other : String} : encode text = encode other ↔ text = other :=
  ⟨fun h => by rw [← decodeLossy_encode text, h, decodeLossy_encode], congrArg encode⟩

/-! ## Octets of ASCII among others -/

/-- An octet of ASCII is not taken onto a code. -/
theorem advance_append {n code : Nat} {low high a : UInt8} (hlow : 0x80 ≤ low) (ha : a < 0x80)
    (bs rest : Octets) :
    advance n low high code (bs ++ a :: rest) =
      ((advance n low high code bs).1, (advance n low high code bs).2 ++ a :: rest) := by
  induction n generalizing low high code bs with
  | zero => rfl
  | succ n ih =>
    cases bs with
    | nil =>
      have hout : ¬ (low ≤ a ∧ a ≤ high) := fun h =>
        UInt8.lt_irrefl a (UInt8.lt_of_lt_of_le ha (UInt8.le_trans hlow h.1))
      simp [advance, hout]
    | cons b bs =>
      rw [List.cons_append, advance, advance]
      split
      · exact ih (by decide) bs
      · rfl

/-- A malformed stretch ends in front of an octet of ASCII. -/
theorem scan_append {a : UInt8} (ha : a < 0x80) (bs rest : Octets) :
    scan (bs ++ a :: rest) = scan bs ++ scan (a :: rest) := by
  fun_induction scan bs with
  | case1 => rfl
  | case2 b bs hannounce ih =>
    rw [List.cons_append, scan_cons, hannounce, ih]
    rfl
  | case3 b bs share n low high hannounce code left hadvance hle ih =>
    have hleft : advance n low high share (bs ++ a :: rest) = (code, left ++ a :: rest) := by
      by_cases hb : b < 0x80
      · rw [announce_of_lt hb] at hannounce
        cases hannounce
        cases hadvance
        rfl
      · rw [advance_append (announce_bounds hb hannounce).1 ha, hadvance]
    rw [List.cons_append, scan_cons, hannounce]
    simp only [hleft, ih]
    rfl

/-- A text that begins with a character of ASCII is decoded whatever precedes it. -/
theorem decodeLossy_append_encode {text : String} {c : Char} (hc : c.toNat < 0x80)
    (h : text.toList.head? = some c) (bs : Octets) :
    decodeLossy (bs ++ encode text) = decodeLossy bs ++ text := by
  obtain ⟨chars, htext⟩ := List.head?_eq_some_iff.1 h
  have hoctet : UInt8.ofNat c.toNat < 0x80 := (ofNat_lt_ofNat_iff (by omega) (by decide)).2 hc
  have hoctets : encode text = UInt8.ofNat c.toNat :: chars.flatMap String.utf8EncodeChar := by
    rw [encode, htext, List.flatMap_cons, utf8EncodeChar_of_lt hc]
    rfl
  have hscan : scan (bs ++ encode text) = scan bs ++ text.toList.map some := by
    rw [← scan_encode, hoctets, scan_append hoctet]
  rw [decodeLossy, hscan, List.map_append, String.ofList_append, List.map_map]
  simp [decodeLossy, Function.comp_def]

theorem advance_isSuffix (n code : Nat) (low high : UInt8) (bs : Octets) :
    (advance n low high code bs).2 <:+ bs := by
  induction n generalizing low high code bs with
  | zero => exact List.suffix_rfl
  | succ n ih =>
    cases bs with
    | nil => exact List.suffix_rfl
    | cons b bs =>
      rw [advance]
      split
      · exact (ih _ _ _ bs).trans (List.suffix_cons b bs)
      · exact List.suffix_rfl

theorem scan_ne_nil {bs : Octets} (h : bs ≠ []) : scan bs ≠ [] := by
  obtain ⟨b, rest, rfl⟩ := List.exists_cons_of_ne_nil h
  rw [scan_cons]
  split <;> exact List.cons_ne_nil _ _

theorem getLast?_of_isSuffix {α : Type} {xs ys : List α} (h : xs <:+ ys) (hne : xs ≠ []) :
    ys.getLast? = xs.getLast? := by
  obtain ⟨before, rfl⟩ := h
  exact List.getLast?_append_of_ne_nil before hne

/-- The last character is one of ASCII exactly if its octet is the last one. -/
theorem getLast?_scan_iff {a : UInt8} (ha : a < 0x80) (hzero : a ≠ 0) (bs : Octets) :
    (scan bs).getLast? = some (some (Char.ofNat a.toNat)) ↔ bs.getLast? = some a := by
  fun_induction scan bs with
  | case1 => simp
  | case2 b rest hannounce ih =>
    by_cases hrest : rest = []
    · have hne : b ≠ a := by
        rintro rfl
        rw [announce_of_lt ha] at hannounce
        cases hannounce
      simp [hrest, scan, hne]
    · rw [getLast?_of_isSuffix (List.suffix_cons none _) (scan_ne_nil hrest), ih,
        getLast?_of_isSuffix (List.suffix_cons b rest) hrest]
  | case3 b rest share n low high hannounce code left hadvance hle ih =>
    have hleft : left = (advance n low high share rest).2 := by rw [hadvance]
    by_cases hnil : left = []
    · rw [hnil]
      by_cases hb : b < 0x80
      · rw [announce_of_lt hb] at hannounce
        cases hannounce
        cases hadvance
        simp [hnil, scan, ofNat_ascii_inj hb ha]
      · -- neither the last code nor an octet that is taken onto it is of ASCII
        have hcode : code = (advance n low high share rest).1 := by rw [hadvance]
        have hchar : (advance n low high share rest).1.map Char.ofNat ≠
            some (Char.ofNat a.toNat) := advance_ne_ascii hb hannounce ha hzero
        have hmem : a ∉ b :: rest := by
          rw [List.mem_cons, ← mem_advance_iff (announce_bounds hb hannounce).1 ha, ← hleft, hnil]
          rintro (rfl | hrest)
          · exact hb ha
          · exact List.not_mem_nil hrest
        refine iff_of_false ?_ fun hlast => hmem (List.mem_of_getLast? hlast)
        simpa [scan, hcode] using hchar
    · have hsuffix : left <:+ b :: rest :=
        (hleft ▸ advance_isSuffix n share low high rest).trans (List.suffix_cons b rest)
      rw [getLast?_of_isSuffix (List.suffix_cons _ _) (scan_ne_nil hnil), ih,
        getLast?_of_isSuffix hsuffix hnil]

/-- An octet of ASCII in the octets of a text is a character of the text. -/
theorem exists_of_encode_eq {text : String} {before after : Octets} {a : UInt8} (ha : a < 0x80)
    (h : encode text = before ++ a :: after) :
    ∃ first second, before = encode first ∧ after = encode second := by
  suffices ∀ (chars : List Char) (before : Octets),
      chars.flatMap String.utf8EncodeChar = before ++ a :: after →
      ∃ first second, before = encode first ∧ after = encode second from
    this text.toList before h
  intro chars
  induction chars with
  | nil =>
    intro before h
    simp at h
  | cons c chars ih =>
    intro before h
    rw [List.flatMap_cons] at h
    rcases List.append_eq_append_iff.1 h with ⟨more, hbefore, hmore⟩ | ⟨more, hchar, hmore⟩
    · obtain ⟨first, second, rfl, rfl⟩ := ih more hmore
      exact ⟨String.ofList [c] ++ first, second, by simp [hbefore, encode], rfl⟩
    · cases more with
      | nil =>
        obtain ⟨first, second, hfirst, rfl⟩ := ih [] hmore.symm
        exact ⟨String.ofList [c], second, by simpa [encode] using hchar.symm, rfl⟩
      | cons b more =>
        -- the octet is one of this character, which is therefore of ASCII
        obtain ⟨rfl, rfl⟩ := List.cons.inj hmore
        have hmem : a ∈ String.utf8EncodeChar c := by simp [hchar]
        have hlt : c.toNat < 0x80 := by
          refine Nat.lt_of_not_le fun hge => UInt8.lt_irrefl a ?_
          exact UInt8.lt_of_lt_of_le ha (le_of_mem_utf8EncodeChar hge hmem)
        have hlength := congrArg List.length ((utf8EncodeChar_of_lt hlt).symm.trans hchar)
        obtain ⟨rfl, rfl⟩ : before = [] ∧ more = [] := by
          simp only [List.length_append, List.length_cons, List.length_nil] at hlength
          exact ⟨List.eq_nil_of_length_eq_zero (by omega), List.eq_nil_of_length_eq_zero (by omega)⟩
        exact ⟨"", String.ofList chars, by simp [encode], by simp [encode]⟩

end Utf8

end InstallPlan
