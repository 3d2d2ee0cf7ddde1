import InstallPlan.Rehearsal.Printing.Layout

/-!
# Rehearsal — Real numbers

Numbers with a binary point, as exact values: a mantissa times a power of two.
Reading one rounds to a number of bits, with ties to the even neighbour; writing
one rounds the exact value to decimal digits in the same way.
-/

namespace InstallPlan

namespace Rehearsal

/-- A number with a binary point. -/
inductive Real where
  /-- The mantissa times two to the power of the exponent. -/
  | finite (negative : Bool) (mantissa : Nat) (exponent : Int)
  | infinite (negative : Bool)
  | undefined (negative : Bool)
  deriving DecidableEq

namespace Real

/-- The quotient of two numbers, rounded, with ties to the even neighbour. -/
def roundedQuotient (numerator denominator : Nat) : Nat :=
  let quotient := numerator / denominator
  let twice := 2 * (numerator % denominator)
  if denominator < twice ∨ (denominator = twice ∧ quotient % 2 = 1) then quotient + 1
  else quotient

/-- A fraction rounded to so many bits. -/
def ofFraction (precision : Nat) (negative : Bool) (numerator denominator : Nat) : Real :=
  if numerator = 0 then .finite negative 0 0
  else
    let estimate : Int := Nat.log2 numerator - Nat.log2 denominator
    let shifted (exponent : Int) : Nat × Nat :=
      if exponent < 0 then (numerator * Nat.pow 2 (-exponent).toNat, denominator)
      else (numerator, denominator * Nat.pow 2 exponent.toNat)
    let first : Int := estimate - (precision : Int)
    let (n, d) := shifted first
    let exponent := if n / d < Nat.pow 2 precision then first else first + 1
    let (n, d) := shifted exponent
    .finite negative (roundedQuotient n d) exponent

/-- The numerator and denominator of a magnitude. -/
def fraction (mantissa : Nat) (exponent : Int) : Nat × Nat :=
  if exponent < 0 then (mantissa, Nat.pow 2 (-exponent).toNat)
  else (mantissa * Nat.pow 2 exponent.toNat, 1)

/-- The number of a whole number. -/
def ofInt (precision : Nat) (n : Int) : Real := ofFraction precision (decide (n < 0)) n.natAbs 1

/-- Whether a number is less than zero, or written with a minus sign. -/
def isNegative : Real → Bool
  | .finite negative _ _ | .infinite negative | .undefined negative => negative

/-! ## Reading -/

/-- A text whose beginning is a given word, in any case. -/
def afterWord? (word : String) (text : Raw) : Option Raw :=
  if (text.take word.length).map Char.toLower = word.toList then some (text.drop word.length)
  else none

/-- The exponent behind a letter, and what follows it. -/
def exponentPart (letter : Char) (text : Raw) : Int × Raw :=
  match text with
  | c :: more =>
    if c.toLower = letter then
      let (sign, digits) : Int × Raw :=
        match more with
        | '-' :: digits => (-1, digits)
        | '+' :: digits => (1, digits)
        | _ => (1, more)
      match digits.takeWhile Char.isDigit with
      | [] => (0, text)
      | found =>
        (sign * (min (Escapes.ofDigits 10 found) 5000 : Nat), digits.drop found.length)
    else (0, text)
  | [] => (0, [])

/-- The digits of a magnitude, whole ones and others, and what follows them. -/
def digitsOf (base : Nat) (text : Raw) : Raw × Raw × Raw :=
  let isDigit := Escapes.isDigitTo base
  let whole := text.takeWhile isDigit
  match text.drop whole.length with
  | '.' :: more =>
    let part := more.takeWhile isDigit
    (whole, part, more.drop part.length)
  | rest => (whole, [], rest)

/-- The number at the beginning of a text without a sign, and what follows it. -/
def magnitude? (precision : Nat) (negative : Bool) (text : Raw) : Option (Real × Raw) :=
  match afterWord? "infinity" text, afterWord? "inf" text, afterWord? "nan" text with
  | some rest, _, _ | none, some rest, _ => some (.infinite negative, rest)
  | _, _, some rest => some (.undefined negative, rest)
  | none, none, none =>
    let hexadecimal : Option (Real × Raw) :=
      match text with
      | '0' :: x :: more =>
        if x = 'x' ∨ x = 'X' then
          match digitsOf 16 more with
          | ([], [], _) => none
          | (whole, part, rest) =>
            let (exponent, rest) := exponentPart 'p' rest
            let (n, d) := fraction (Escapes.ofDigits 16 (whole ++ part))
              (exponent - (4 * part.length : Nat))
            some (ofFraction precision negative n d, rest)
        else none
      | _ => none
    match hexadecimal with
    | some found => some found
    | none =>
      match digitsOf 10 text with
      | ([], [], _) => none
      | (whole, part, rest) =>
        let (exponent, rest) := exponentPart 'e' rest
        let digits := Escapes.ofDigits 10 (whole ++ part)
        let scale : Int := exponent - (part.length : Int)
        let value :=
          if scale < 0 then ofFraction precision negative digits (Nat.pow 10 (-scale).toNat)
          else ofFraction precision negative (digits * Nat.pow 10 scale.toNat) 1
        some (value, rest)

/-- The number at the beginning of a text, and what follows it. -/
def read? (precision : Nat) (text : Raw) : Option (Real × Raw) :=
  match text.dropWhile isWhite with
  | '-' :: more => magnitude? precision true more
  | '+' :: more => magnitude? precision false more
  | more => magnitude? precision false more

/-! ## Writing -/

/-- A magnitude in decimal digits, so many of them behind the point. -/
def fixedDigits (places mantissa : Nat) (exponent : Int) (keepsPoint : Bool) : Raw :=
  let (n, d) := fraction mantissa exponent
  let digits := Nat.toDigits 10 (roundedQuotient (n * Nat.pow 10 places) d)
  let digits := List.replicate (places + 1 - digits.length) '0' ++ digits
  let whole := digits.take (digits.length - places)
  if places = 0 then (if keepsPoint then whole ++ ['.'] else whole)
  else whole ++ '.' :: digits.drop (digits.length - places)

/-- The power of ten of the first digit of a magnitude, found by going up or down
from an estimate. -/
def decimalExponent (n d : Nat) : Int :=
  let atLeast (k : Int) : Bool :=
    if k < 0 then d ≤ n * Nat.pow 10 (-k).toNat else d * Nat.pow 10 k.toNat ≤ n
  let estimate : Int := ((Nat.log2 n : Int) - (Nat.log2 d : Int)) * 30103 / 100000
  if atLeast (estimate + 1) then estimate + 1
  else if atLeast estimate then estimate
  else if atLeast (estimate - 1) then estimate - 1
  else estimate - 2

/-- A magnitude as so many digits and the power of ten of the first. -/
def significant (count mantissa : Nat) (exponent : Int) : Raw × Int :=
  if mantissa = 0 then (List.replicate count '0', 0)
  else
    let (n, d) := fraction mantissa exponent
    let power := decimalExponent n d
    let scale : Int := (count : Int) - 1 - power
    let rounded :=
      if scale < 0 then roundedQuotient n (d * Nat.pow 10 (-scale).toNat)
      else roundedQuotient (n * Nat.pow 10 scale.toNat) d
    let digits := Nat.toDigits 10 rounded
    if count < digits.length then (digits.take count, power + 1) else (digits, power)

/-- The mark of an exponent of ten. -/
def exponentMark (power : Int) : Raw :=
  let digits := Nat.toDigits 10 power.natAbs
  ['e', if power < 0 then '-' else '+'] ++ (if digits.length < 2 then '0' :: digits else digits)

/-- A magnitude with one digit in front of the point. -/
def scientificDigits (places mantissa : Nat) (exponent : Int) (keepsPoint : Bool) : Raw :=
  let (digits, power) := significant (places + 1) mantissa exponent
  let point := if places = 0 ∧ !keepsPoint then [] else ['.']
  digits.take 1 ++ point ++ digits.drop 1 ++ exponentMark power

/-- Decimal digits without zeros at the end, and without a point at the end. -/
def withoutZeros (digits : Raw) : Raw :=
  if digits.contains '.' then Raw.dropEnd (· = '.') (Raw.dropEnd (· = '0') digits) else digits

/-- A magnitude in the shorter of the two forms, with so many digits. -/
def generalDigits (count mantissa : Nat) (exponent : Int) (keepsZeros : Bool) : Raw :=
  let count := max count 1
  let (_, power) := significant count mantissa exponent
  if power < -4 ∨ (count : Int) ≤ power then
    let text := scientificDigits (count - 1) mantissa exponent keepsZeros
    if keepsZeros then text
    else withoutZeros (text.takeWhile (· ≠ 'e')) ++ text.dropWhile (· ≠ 'e')
  else
    let text := fixedDigits ((count : Int) - 1 - power).toNat mantissa exponent keepsZeros
    if keepsZeros then text else withoutZeros text

/-- A magnitude to the base sixteen, one bit in front of the point. -/
def hexadecimalDigits (mantissa : Nat) (exponent : Int) : Raw :=
  if mantissa = 0 then ['0', 'x', '0', 'p', '+', '0']
  else
    let top := Nat.log2 mantissa
    let places := (top + 3) / 4
    let digits := Nat.toDigits 16 (mantissa * Nat.pow 2 (4 * places - top))
    let power := exponent + top
    let part := Raw.dropEnd (· = '0') (digits.drop 1)
    let sign := if power < 0 then '-' else '+'
    ['0', 'x', '1'] ++ (if part = [] then [] else '.' :: part) ++ ['p', sign]
      ++ Nat.toDigits 10 power.natAbs

end Real

/-- What a directive prints of a real number. -/
def Layout.real (layout : Layout) (directive : Char) (number : Real) : Raw :=
  let shaped (text : Raw) : Raw :=
    if directive.isUpper then text.map Char.toUpper else text
  let mark := layout.sign number.isNegative
  let plain : Layout := { layout with zero := false }
  match number with
  | .infinite _ => plain.padded mark (shaped ['i', 'n', 'f'])
  | .undefined _ => plain.padded mark (shaped ['n', 'a', 'n'])
  | .finite _ mantissa exponent =>
    let places := layout.precision.getD 6
    let digits :=
      match directive.toLower with
      | 'f' => Real.fixedDigits places mantissa exponent layout.alternate
      | 'e' => Real.scientificDigits places mantissa exponent layout.alternate
      | 'g' => Real.generalDigits places mantissa exponent layout.alternate
      | _ => Real.hexadecimalDigits mantissa exponent
    layout.padded mark (shaped digits)

end Rehearsal

end InstallPlan
