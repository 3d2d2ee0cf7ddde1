import InstallPlan.Path
import Mathlib

/-!
# Decoding

Which ASCII characters a leniently decoded text holds. An octet below 0x80 stands
for itself wherever it comes: no other octets make its character, since a code of
several octets is at least 0x80, and none is lost in a malformed stretch, since
what is taken onto a code is at least 0x80 as well (`Utf8.mem_decodeLossy_iff`). So
the text of a path has a character of ASCII exactly if the path has its octet, also
where the path is not UTF-8 (`Path.mem_shown_iff`).
-/

namespace InstallPlan

namespace Utf8

/-! ## Codes of one octet and of several -/

theorem scan_cons (b : UInt8) (rest : Octets) :
    scan (b :: rest) =
      match announce b with
      | none => none :: scan rest
      | some (share, n, low, high) =>
        (advance n low high share rest).1.map Char.ofNat ::
          scan (advance n low high share rest).2 := by
  cases h : announce b with
  | none => simp only [scan, h]
  | some announced => simp only [scan, h]

theorem toNat_ofNat_ascii {a : UInt8} (ha : a < 0x80) : (Char.ofNat a.toNat).toNat = a.toNat := by
  have hlt : a.toNat < 0x80 := UInt8.lt_iff_toNat_lt.1 ha
  have hvalid : a.toNat.isValidChar := Or.inl (by omega)
  rw [Char.ofNat, dif_pos hvalid]
  rfl

theorem ofNat_ascii_inj {a b : UInt8} (ha : a < 0x80) (hb : b < 0x80) :
    Char.ofNat a.toNat = Char.ofNat b.toNat ↔ a = b := by
  constructor
  · intro h
    have hnat := congrArg Char.toNat h
    rw [toNat_ofNat_ascii ha, toNat_ofNat_ascii hb] at hnat
    exact UInt8.toNat_inj.1 hnat
  · rintro rfl
    rfl

theorem announce_of_lt {b : UInt8} (hb : b < 0x80) :
    announce b = some (b.toNat, 0, 0x80, 0xBF) := by
  rw [announce, if_pos hb]

/-- A leading octet that is not ASCII announces a code that is not ASCII either. -/
theorem announce_bounds {b low high : UInt8} {share n : Nat} (hb : ¬ b < 0x80)
    (h : announce b = some (share, n, low, high)) :
    0x80 ≤ low ∧ high ≤ 0xBF ∧
      ∃ more, n = more + 1 ∧ 0x80 ≤ (share * 64 + low.toNat % 64) * 64 ^ more := by
  rw [announce, if_neg hb] at h
  simp only [UInt8.lt_iff_toNat_lt, UInt8.toNat_ofNat, Nat.not_lt, ← UInt8.toNat_inj] at hb h
  repeat' split at h
  all_goals cases h
  all_goals
    refine ⟨by decide, by decide, _, rfl, ?_⟩
    simp only [UInt8.toNat_ofNat]
    omega

theorem le_of_advance_eq_some {n code c : Nat} {low high : UInt8} {bs left : Octets}
    (h : advance n low high code bs = (some c, left)) : code * 64 ^ n ≤ c := by
  induction n generalizing low high code bs with
  | zero =>
    cases h
    simp
  | succ n ih =>
    cases bs with
    | nil => cases h
    | cons b bs =>
      rw [advance] at h
      split at h
      · have hrest := ih h
        calc code * 64 ^ (n + 1) = code * 64 * 64 ^ n := by
              rw [Nat.pow_succ, Nat.mul_assoc, Nat.mul_comm 64]
          _ ≤ (code * 64 + b.toNat % 64) * 64 ^ n := Nat.mul_le_mul_right _ (Nat.le_add_right _ _)
          _ ≤ c := hrest
      · cases h

/-- An octet that is taken onto a code is not ASCII. -/
theorem mem_advance_iff {n code : Nat} {low high a : UInt8} {bs : Octets} (hlow : 0x80 ≤ low)
    (ha : a < 0x80) : a ∈ (advance n low high code bs).2 ↔ a ∈ bs := by
  induction n generalizing low high code bs with
  | zero => rfl
  | succ n ih =>
    cases bs with
    | nil => rfl
    | cons b bs =>
      rw [advance]
      split
      · rename_i hb
        have hne : a ≠ b := by
          rintro rfl
          exact absurd (UInt8.lt_of_lt_of_le ha (UInt8.le_trans hlow hb.1)) (UInt8.lt_irrefl a)
        rw [ih (by decide), List.mem_cons, or_iff_right hne]
      · rfl

/-- A code of several octets is no ASCII character. -/
theorem advance_ne_ascii {b low high a : UInt8} {share n : Nat} {rest : Octets} (hb : ¬ b < 0x80)
    (hannounce : announce b = some (share, n, low, high)) (ha : a < 0x80) (hzero : a ≠ 0) :
    (advance n low high share rest).1.map Char.ofNat ≠ some (Char.ofNat a.toNat) := by
  obtain ⟨hlow, hhigh, more, rfl, hbound⟩ := announce_bounds hb hannounce
  intro h
  obtain ⟨c, hc, hchar⟩ := Option.map_eq_some_iff.1 h
  have hcode : 0x80 ≤ c := by
    cases rest with
    | nil => cases hc
    | cons d rest =>
      rw [advance] at hc
      split at hc
      · rename_i hd
        have hmod : low.toNat % 64 ≤ d.toNat % 64 := by
          simp only [UInt8.le_iff_toNat_le, UInt8.toNat_ofNat] at hlow hhigh hd
          omega
        calc 0x80 ≤ (share * 64 + low.toNat % 64) * 64 ^ more := hbound
          _ ≤ (share * 64 + d.toNat % 64) * 64 ^ more :=
            Nat.mul_le_mul_right _ (Nat.add_le_add_left hmod _)
          _ ≤ c := le_of_advance_eq_some (Prod.ext hc rfl)
      · cases hc
  have hlt : a.toNat < 0x80 := UInt8.lt_iff_toNat_lt.1 ha
  have hnat : (Char.ofNat c).toNat = a.toNat := by rw [hchar, toNat_ofNat_ascii ha]
  -- a code that is no character would stand for the character of code zero
  rw [Char.ofNat] at hnat
  split at hnat
  · have hsame : c = a.toNat := hnat
    omega
  · exact hzero (UInt8.toNat_inj.1 hnat.symm)

/-! ## Characters of a text -/

theorem mem_scan_iff {a : UInt8} (ha : a < 0x80) (hzero : a ≠ 0) (bs : Octets) :
    some (Char.ofNat a.toNat) ∈ scan bs ↔ a ∈ bs := by
  fun_induction scan bs with
  | case1 => simp
  | case2 b rest hannounce ih =>
    have hne : a ≠ b := by
      rintro rfl
      rw [announce_of_lt ha] at hannounce
      cases hannounce
    simp [ih, hne]
  | case3 b rest share n low high hannounce code left hadvance hle ih =>
    have hleft : left = (advance n low high share rest).2 := by rw [hadvance]
    have hcode : code = (advance n low high share rest).1 := by rw [hadvance]
    rw [List.mem_cons, List.mem_cons, ih, hleft, hcode]
    by_cases hb : b < 0x80
    · rw [announce_of_lt hb] at hannounce
      cases hannounce
      simp only [advance, Option.map_some, Option.some.injEq, ofNat_ascii_inj ha hb]
    · have hne : a ≠ b := by
        rintro rfl
        exact hb ha
      rw [mem_advance_iff (announce_bounds hb hannounce).1 ha, or_iff_right hne,
        or_iff_right fun h => advance_ne_ascii hb hannounce ha hzero h.symm]

/-- An ASCII character stands in a text where its octet stands in the octets, also between
malformed stretches. -/
theorem mem_decodeLossy_iff {a : UInt8} (ha : a < 0x80) (hzero : a ≠ 0) (bs : Octets) :
    Char.ofNat a.toNat ∈ (decodeLossy bs).toList ↔ a ∈ bs := by
  have hmark : replacement ≠ Char.ofNat a.toNat := by
    intro h
    have hnat := congrArg Char.toNat h
    have hlt : a.toNat < 0x80 := UInt8.lt_iff_toNat_lt.1 ha
    have hcode : replacement.toNat = 0xFFFD := by decide
    rw [toNat_ofNat_ascii ha] at hnat
    omega
  rw [← mem_scan_iff ha hzero, decodeLossy, String.toList_ofList, List.mem_map]
  constructor
  · rintro ⟨found, hfound, hchar⟩
    cases found with
    | none => exact absurd hchar hmark
    | some c =>
      cases hchar
      exact hfound
  · intro h
    exact ⟨_, h, rfl⟩

end Utf8

namespace Path

theorem mem_shown_iff {a : UInt8} (ha : a < 0x80) (hzero : a ≠ 0) (p : Path) :
    Char.ofNat a.toNat ∈ p.shown.toList ↔ a ∈ p.octets :=
  Utf8.mem_decodeLossy_iff ha hzero p.octets

/-- A name below a path adds the separator and its own octets. -/
theorem mem_join_iff {a : UInt8} (p : Path) {name : String} (hsep : a ≠ separator)
    (hname : a ∉ Utf8.encode name) : a ∈ (p.join name).octets ↔ a ∈ p.octets := by
  rw [join]
  split
  · rename_i hlast
    simp [ofText, hname, List.getLast?_eq_none_iff.1 hlast]
  · split <;> simp [hname, hsep]

end Path

end InstallPlan
