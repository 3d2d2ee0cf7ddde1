/-!
# Text — UTF-8

Octets and text. A text is written as octets by `Utf8.encode`; octets are
read back either strictly (`Utf8.decode?`, which refuses anything that is
not UTF-8) or leniently (`Utf8.decodeLossy`, which puts one U+FFFD in the
place of every malformed stretch). Both readers share one scanner,
`Utf8.scan`, so they differ only in what they do with a malformed stretch.

A malformed stretch is the longest start of a character that could still
have been completed, or else a single octet.
-/

namespace InstallPlan

/-- A string of octets: the content of a file, a path, what a command printed. -/
abbrev Octets := List UInt8

namespace Utf8

/-- The octets of a text. -/
def encode (text : String) : Octets :=
  text.toList.flatMap String.utf8EncodeChar

/-- What a leading octet announces: its own share of the code, the number of
octets that continue it, and the range of the first of those. -/
def announce (b : UInt8) : Option (Nat × Nat × UInt8 × UInt8) :=
  if b < 0x80 then some (b.toNat, 0, 0x80, 0xBF)
  else if b < 0xC2 then none
  else if b < 0xE0 then some (b.toNat % 32, 1, 0x80, 0xBF)
  else if b = 0xE0 then some (0, 2, 0xA0, 0xBF)
  else if b = 0xED then some (13, 2, 0x80, 0x9F)
  else if b < 0xF0 then some (b.toNat % 16, 2, 0x80, 0xBF)
  else if b = 0xF0 then some (0, 3, 0x90, 0xBF)
  else if b < 0xF4 then some (b.toNat % 8, 3, 0x80, 0xBF)
  else if b = 0xF4 then some (4, 3, 0x80, 0x8F)
  else none

/-- Reads the announced number of continuing octets onto a code. Only the first
of them has a range of its own. The code is missing when an octet does not
fit; the octets from that one on are left over. -/
def advance : Nat → UInt8 → UInt8 → Nat → Octets → Option Nat × Octets
  | 0, _, _, code, bs => (some code, bs)
  | _ + 1, _, _, _, [] => (none, [])
  | n + 1, low, high, code, b :: bs =>
    if low ≤ b ∧ b ≤ high then advance n 0x80 0xBF (code * 64 + b.toNat % 64) bs
    else (none, b :: bs)

theorem length_advance_le (n : Nat) (low high : UInt8) (code : Nat) (bs : Octets) :
    (advance n low high code bs).2.length ≤ bs.length := by
  induction n generalizing low high code bs with
  | zero => simp [advance]
  | succ n ih =>
    cases bs with
    | nil => simp [advance]
    | cons b bs =>
      simp only [advance]
      split
      · exact Nat.le_succ_of_le (ih _ _ _ bs)
      · simp

/-- The characters that octets hold, `none` standing for a malformed stretch. -/
def scan (bs : Octets) : List (Option Char) :=
  match bs with
  | [] => []
  | b :: rest =>
    match announce b with
    | none => none :: scan rest
    | some (share, n, low, high) =>
      match h : advance n low high share rest with
      | (code, left) =>
        have : left.length ≤ rest.length := by
          have := length_advance_le n low high share rest
          rw [h] at this
          exact this
        code.map Char.ofNat :: scan left
termination_by bs.length

/-- The text that octets hold; nothing when they are not UTF-8. -/
def decode? (bs : Octets) : Option String :=
  (scan bs).mapM id |>.map String.ofList

/-- The mark that stands for a malformed stretch. -/
def replacement : Char := '\uFFFD'

/-- The text that octets hold, with U+FFFD for every malformed stretch. -/
def decodeLossy (bs : Octets) : String :=
  String.ofList ((scan bs).map (·.getD replacement))

end Utf8

end InstallPlan
