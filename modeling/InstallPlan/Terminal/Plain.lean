import InstallPlan.Text.Utf8

/-!
# Terminal — Plain text

What is left of some octets for a reader without a terminal: the control
sequences are taken out, and so are all control characters but white space.

A sequence starts with an escape character. The octets behind it decide how far
it goes: to its first letter, to a bell, or to the next escape character. A white
character in the middle of a sequence cuts it off.
-/

namespace InstallPlan

namespace Terminal

/-- Where an octet stands. -/
inductive Spot where
  | text
  /-- In a character of several octets, with so many to follow. -/
  | character (left : Nat)
  /-- Behind an escape character. -/
  | escape
  /-- Behind an escape character and an intermediate one. -/
  | intermediate
  /-- In a sequence that ends with a letter. -/
  | control
  /-- At the beginning of a sequence for the device. -/
  | device
  /-- In the data of a sequence for the device, or in a private text. -/
  | data
  /-- In a command to the system, which a bell ends. -/
  | command
  deriving DecidableEq, Repr

namespace Spot

/-- Whether an octet is white space. -/
def isWhite (b : UInt8) : Bool := b = 0x09 || b = 0x0A || b = 0x0C || b = 0x0D

/-- The number of octets that follow the first one of a character. -/
def following (b : UInt8) : Nat :=
  if 0xC2 ≤ b ∧ b ≤ 0xDF then 1
  else if 0xE0 ≤ b ∧ b ≤ 0xEF then 2
  else if 0xF0 ≤ b ∧ b ≤ 0xF4 then 3
  else 0

/-- Whether an octet is shown. -/
def shows (spot : Spot) (b : UInt8) : Bool :=
  match spot with
  | .text => (0x20 ≤ b && b < 0x7F) || following b != 0 || isWhite b
  | .character _ => true
  | .escape | .intermediate | .control => isWhite b
  | .device | .data | .command => false

/-- Where the octet behind one that is shown stands. -/
def afterShown (spot : Spot) (b : UInt8) : Spot :=
  match spot with
  | .character (left + 1) => if 0x80 ≤ b ∧ b < 0xC0 ∧ left ≠ 0 then .character left else .text
  | _ => if following b = 0 then .text else .character (following b)

/-- Where the octet behind one that is hidden stands. -/
def afterHidden (spot : Spot) (b : UInt8) : Spot :=
  if b = 0x18 ∨ b = 0x1A then .text
  else if b = 0x1B then .escape
  else
    match spot with
    | .text | .character _ => .text
    | .escape =>
      if b = 0x50 then .device
      else if b = 0x58 ∨ b = 0x5E ∨ b = 0x5F then .data
      else if b = 0x5B then .control
      else if b = 0x5D then .command
      else if 0x20 ≤ b ∧ b ≤ 0x2F then .intermediate
      else if 0x30 ≤ b ∧ b ≤ 0x7E then .text
      else .escape
    | .intermediate => if 0x30 ≤ b ∧ b ≤ 0x7E then .text else .intermediate
    | .control => if 0x40 ≤ b ∧ b ≤ 0x7E then .text else .control
    | .device => if 0x40 ≤ b ∧ b ≤ 0x7E then .data else .device
    | .data => if b = 0x9C then .text else .data
    | .command => if b = 0x07 then .text else .command

end Spot

/-- The octets that are shown, from a spot on. -/
def plainFrom : Spot → Octets → Octets
  | _, [] => []
  | spot, b :: rest =>
    if spot.shows b then b :: plainFrom (spot.afterShown b) rest
    else plainFrom (spot.afterHidden b) rest

/-- Octets without control sequences and control characters. -/
def plain (octets : Octets) : Octets := plainFrom .text octets

end Terminal

end InstallPlan
