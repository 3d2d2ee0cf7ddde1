import InstallPlan.Rehearsal.Printing.Escape

/-!
# Rehearsal — Layout

How a text or a whole number is arranged in a column: how wide, on which side,
with which sign, and with how many digits at least.
-/

namespace InstallPlan

namespace Rehearsal

/-- How a value is arranged. -/
structure Layout where
  left : Bool := false
  plus : Bool := false
  space : Bool := false
  zero : Bool := false
  alternate : Bool := false
  width : Nat := 0
  precision : Option Nat := none

/-- The number of values of 64 bits. -/
def modulus : Nat := Nat.pow 2 64

/-- The integer of 64 bits that a number stands for. -/
def wrap (n : Int) : Int := Int.bmod n modulus

/-- The bits of a number of 64 bits. -/
def bits (n : Int) : Nat := (n % (modulus : Int)).toNat

namespace Layout

/-- A text filled up with blanks. -/
def fill (layout : Layout) (text : Raw) : Raw :=
  let gap := List.replicate (layout.width - text.length) ' '
  if layout.left then text ++ gap else gap ++ text

/-- A text cut off and filled up. -/
def text (layout : Layout) (text : Raw) : Raw :=
  layout.fill (match layout.precision with | some n => text.take n | none => text)

/-- The sign of a number. -/
def sign (layout : Layout) (negative : Bool) : Raw :=
  if negative then ['-'] else if layout.plus then ['+'] else if layout.space then [' '] else []

/-- A sign or mark and digits, filled up with zeros or blanks. -/
def padded (layout : Layout) (mark digits : Raw) : Raw :=
  if layout.zero ∧ !layout.left then
    mark ++ List.replicate (layout.width - (mark.length + digits.length)) '0' ++ digits
  else layout.fill (mark ++ digits)

/-- A sign or mark and the digits of a whole number. -/
def digits (layout : Layout) (mark digits : Raw) : Raw :=
  let least := layout.precision.getD 1
  let digits := if layout.precision = some 0 ∧ digits = ['0'] then [] else digits
  let digits := List.replicate (least - digits.length) '0' ++ digits
  { layout with zero := layout.zero && layout.precision.isNone }.padded mark digits

/-- What a directive prints of a whole number. -/
def number (layout : Layout) (directive : Char) (n : Int) : Raw :=
  let unsigned := bits n
  match directive with
  | 'o' =>
    let digits := Nat.toDigits 8 unsigned
    layout.digits [] (if layout.alternate ∧ digits.head? ≠ some '0' then '0' :: digits else digits)
  | 'x' =>
    layout.digits (if layout.alternate ∧ unsigned ≠ 0 then ['0', 'x'] else [])
      (Nat.toDigits 16 unsigned)
  | 'X' =>
    layout.digits (if layout.alternate ∧ unsigned ≠ 0 then ['0', 'X'] else [])
      ((Nat.toDigits 16 unsigned).map Char.toUpper)
  | 'u' => layout.digits [] (Nat.toDigits 10 unsigned)
  | _ => layout.digits (layout.sign (decide (n < 0))) (Nat.toDigits 10 n.natAbs)

end Layout

end Rehearsal

end InstallPlan
