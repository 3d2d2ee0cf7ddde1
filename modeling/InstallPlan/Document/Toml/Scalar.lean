import InstallPlan.Document.Toml.Basic

/-!
# Document — TOML numbers, dates and words

Reads a bare word of a TOML text: a truth value, an integer in one of four
bases, a number with a fraction or an exponent, or a date or time. Underscores
may stand between two digits.
-/

namespace InstallPlan

namespace Toml

/-- The value of a digit in any base up to sixteen. -/
def digitValue (c : Char) : Nat :=
  if c.isDigit then c.toNat - 48
  else if 'a' ≤ c ∧ c ≤ 'f' then c.toNat - 87
  else if 'A' ≤ c ∧ c ≤ 'F' then c.toNat - 55
  else 16

/-- The digits of a text in a base; underscores may stand between two of them. -/
def digits? (base : Nat) : List Char → Option (List Nat)
  | [] => none
  | [c] => if digitValue c < base then some [digitValue c] else none
  | c :: '_' :: rest =>
    if digitValue c < base then (digits? base rest).map (digitValue c :: ·) else none
  | c :: rest =>
    if digitValue c < base then (digits? base rest).map (digitValue c :: ·) else none

/-- The number of some digits. -/
def ofDigits (base : Nat) (digits : List Nat) : Nat :=
  digits.foldl (fun n d => n * base + d) 0

/-- Decimal digits that do not start with a superfluous zero. -/
def plainDigits? (text : List Char) : Option (List Nat) :=
  match digits? 10 text with
  | some (0 :: _ :: _) => none
  | other => other

/-- An integer, unless it is too large in either direction. -/
def boundedInteger (n : Int) : Option Value :=
  if -(Nat.pow 2 63 : Nat) ≤ n ∧ n < (Nat.pow 2 64 : Nat) then some (.integer n) else none

/-- The sign in front of a number, and the rest. -/
def splitSign : List Char → Bool × List Char
  | '-' :: rest => (true, rest)
  | '+' :: rest => (false, rest)
  | rest => (false, rest)

/-- An integer. -/
def integer? (text : List Char) : Option Value :=
  match text with
  | '0' :: 'x' :: rest => (digits? 16 rest).bind fun ds => boundedInteger (ofDigits 16 ds)
  | '0' :: 'o' :: rest => (digits? 8 rest).bind fun ds => boundedInteger (ofDigits 8 ds)
  | '0' :: 'b' :: rest => (digits? 2 rest).bind fun ds => boundedInteger (ofDigits 2 ds)
  | _ =>
    let (negative, body) := splitSign text
    (plainDigits? body).bind fun ds =>
      let n : Int := ofDigits 10 ds
      boundedInteger (if negative then -n else n)

/-- The greatest number of digits in front of the point of a finite number. -/
def magnitudeBound : Int := 400

/-- The number nearest to some digits times a power of ten; nothing when it is
too large. -/
def nearest? (digits : List Nat) (exponent : Int) : Option Binary64 :=
  let digits := digits.dropWhile (· = 0)
  let magnitude := digits.length + exponent
  if digits = [] ∨ magnitude < -magnitudeBound then some (.zero false)
  else if magnitudeBound < magnitude then none
  else Binary64.ofDecimal? (ofDigits 10 digits) exponent

/-- Whether a character is the mark of an exponent. -/
def isExponentMark (c : Char) : Bool := c = 'e' || c = 'E'

/-- A number with a fraction, an exponent, or both. -/
def real? (text : List Char) : Option Value := do
  let (negative, body) := splitSign text
  if body = "inf".toList ∨ body = "nan".toList then return .notFinite
  let mantissa := body.takeWhile (! isExponentMark ·)
  let whole ← plainDigits? (mantissa.takeWhile (· ≠ '.'))
  let fraction ←
    match mantissa.dropWhile (· ≠ '.') with
    | [] => some []
    | _ :: fraction => digits? 10 fraction
  let exponent ←
    match body.dropWhile (! isExponentMark ·) with
    | [] => if fraction = [] then none else some 0
    | _ :: exponent =>
      let (down, exponent) := splitSign exponent
      (digits? 10 exponent).map fun ds =>
        let n : Int := ofDigits 10 ds
        if down then -n else n
  let x ← nearest? (whole ++ fraction) (exponent - fraction.length)
  return .real (x.withSign negative)

/-! ## Dates and times -/

/-- The number of two digits and the rest. -/
def twoDigits? : List Char → Option (Nat × List Char)
  | a :: b :: rest =>
    if a.isDigit ∧ b.isDigit then some (digitValue a * 10 + digitValue b, rest) else none
  | _ => none

/-- The number of days of a month. -/
def daysIn (year month : Nat) : Nat :=
  if month = 2 then
    if (year % 4 = 0 ∧ year % 100 ≠ 0) ∨ year % 400 = 0 then 29 else 28
  else if month = 4 ∨ month = 6 ∨ month = 9 ∨ month = 11 then 30
  else 31

/-- Past a date. -/
def skipDate? (text : List Char) : Option (List Char) := do
  let (century, rest) ← twoDigits? text
  let (year, rest) ← twoDigits? rest
  match rest with
  | '-' :: rest =>
    let (month, rest) ← twoDigits? rest
    match rest with
    | '-' :: rest =>
      let (day, rest) ← twoDigits? rest
      if 1 ≤ month ∧ month ≤ 12 ∧ 1 ≤ day ∧ day ≤ daysIn (century * 100 + year) month then
        return rest
      else none
    | _ => none
  | _ => none

/-- Past the fraction of a second, if there is one. -/
def skipFraction? : List Char → Option (List Char)
  | '.' :: c :: rest => if c.isDigit then some (rest.dropWhile Char.isDigit) else none
  | '.' :: [] => none
  | rest => some rest

/-- Past a time of the day. -/
def skipTime? (text : List Char) : Option (List Char) := do
  let (hour, rest) ← twoDigits? text
  match rest with
  | ':' :: rest =>
    let (minute, rest) ← twoDigits? rest
    if hour ≤ 23 ∧ minute ≤ 59 then
      match rest with
      | ':' :: rest =>
        let (second, rest) ← twoDigits? rest
        if second ≤ 60 then skipFraction? rest else none
      | rest => return rest
    else none
  | _ => none

/-- Whether a text is nothing or an offset from universal time. -/
def isOffset : List Char → Bool
  | [] | ['Z'] | ['z'] => true
  | sign :: rest =>
    match twoDigits? rest with
    | some (hour, ':' :: rest) =>
      match twoDigits? rest with
      | some (minute, []) => (sign = '+' || sign = '-') && hour ≤ 23 && minute ≤ 59
      | _ => false
    | _ => false

/-- Whether a text is a date, a time, or both. -/
def isMoment (text : List Char) : Bool :=
  match skipDate? text with
  | some [] => true
  | some (c :: rest) =>
    if c = 'T' ∨ c = 't' ∨ c = ' ' then (skipTime? rest).any isOffset else false
  | none => skipTime? text == some []

/-- The value of a bare word. -/
def scalar? (word : List Char) : Option Value :=
  if word = "true".toList then some (.boolean true)
  else if word = "false".toList then some (.boolean false)
  else if isMoment word then some (.moment (String.ofList word))
  else (integer? word).or (real? word)

end Toml

end InstallPlan
