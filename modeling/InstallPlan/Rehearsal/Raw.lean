import InstallPlan.Text.Utf8

/-!
# Rehearsal — Raw text

Octets as the characters of the same codes, so that a script can be read octet
by octet and still be compared with letters. Every character of a raw text has
a code below 256.
-/

namespace InstallPlan

namespace Rehearsal

/-- Octets as the characters of the same codes. -/
abbrev Raw := List Char

/-- The raw text of some octets. -/
def Raw.ofOctets (octets : Octets) : Raw := octets.map fun b => Char.ofNat b.toNat

/-- The octets of a raw text. -/
def Raw.toOctets (raw : Raw) : Octets := raw.map Char.toUInt8

/-- The raw text of a text. -/
def Raw.ofText (text : String) : Raw := Raw.ofOctets (Utf8.encode text)

theorem Raw.toOctets_ofOctets (octets : Octets) : Raw.toOctets (Raw.ofOctets octets) = octets := by
  induction octets with
  | nil => rfl
  | cons b rest ih =>
    have valid : b.toNat.isValidChar := Or.inl (by have := b.toNat_lt; omega)
    have code : (Char.ofNat b.toNat).toUInt8 = b := by
      rw [Char.ofNat, dif_pos valid]
      apply UInt8.toNat_inj.1
      have := b.toNat_lt
      show b.toNat % 256 = b.toNat
      omega
    simp only [Raw.ofOctets, Raw.toOctets, List.map_cons, code] at ih ⊢
    rw [ih]

/-- The pieces of a raw text between the occurrences of a character. -/
def Raw.split (mark : Char) : Raw → List Raw
  | [] => [[]]
  | c :: rest =>
    if c = mark then [] :: Raw.split mark rest
    else
      match Raw.split mark rest with
      | [] => [[c]]
      | piece :: more => (c :: piece) :: more

/-- Raw texts with a separator between them. -/
def Raw.joined (separator : Raw) : List Raw → Raw
  | [] => []
  | [piece] => piece
  | piece :: rest => piece ++ separator ++ Raw.joined separator rest

/-- The order of raw texts by their codes. -/
def Raw.atMost : Raw → Raw → Bool
  | [], _ => true
  | _ :: _, [] => false
  | a :: as, b :: bs => a < b || (a = b && Raw.atMost as bs)

/-- The lines of a raw text. A break at the end begins no further line. -/
def Raw.lines (text : Raw) : List Raw :=
  let pieces := Raw.split '\n' text
  if pieces.getLast? = some [] then pieces.dropLast else pieces

/-- Whether a character is blank. -/
def isBlank (c : Char) : Bool := c = ' ' || c = '\t' || c = '\n'

/-- Whether a character is white: a blank, or one that moves the paper. -/
def isWhite (c : Char) : Bool := isBlank c || ('\x0B' ≤ c && c ≤ '\r')

/-- A raw text without what is so at its end. -/
def Raw.dropEnd (isSo : Char → Bool) (text : Raw) : Raw := (text.reverse.dropWhile isSo).reverse

/-- A raw text without what is so at both ends. -/
def Raw.trim (isSo : Char → Bool) (text : Raw) : Raw := Raw.dropEnd isSo (text.dropWhile isSo)

/-- The decimal text of a number. -/
def Raw.ofNat (n : Nat) : Raw := Nat.toDigits 10 n

/-- The decimal text of an integer. -/
def Raw.ofInt (n : Int) : Raw := if n < 0 then '-' :: Raw.ofNat n.natAbs else Raw.ofNat n.natAbs

end Rehearsal

end InstallPlan
