import InstallPlan.Rehearsal.Printing.Format
import InstallPlan.Rehearsal.Regex.Reading

/-!
# Rehearsal — Values of programs about records

Numbers, texts, and texts that came from outside and count as numbers if they look
like some. A number is shown as a whole one if it is, and in a given form if not.
-/

namespace InstallPlan

namespace Rehearsal

namespace Real

/-- The machine's number for a number. -/
def toFloat : Real → Float
  | .finite negative mantissa exponent =>
    let magnitude := (Float.ofNat mantissa).scaleB exponent
    if negative then -magnitude else magnitude
  | .infinite negative => if negative then -(1.0 / 0.0) else 1.0 / 0.0
  | .undefined _ => 0.0 / 0.0

/-- The exact value of a machine's number. -/
def ofFloat (x : Float) : Real :=
  let code := x.toBits.toNat
  let negative := code / Nat.pow 2 63 = 1
  let exponent := code / Nat.pow 2 52 % 2048
  let mantissa := code % Nat.pow 2 52
  if exponent = 2047 then
    if mantissa = 0 then .infinite negative else .undefined negative
  else if exponent = 0 then .finite negative mantissa (-1074)
  else .finite negative (mantissa + Nat.pow 2 52) ((exponent : Int) - 1075)

/-- The whole part of a number; of one that is not finite, the limit. -/
def truncated : Real → Int
  | .finite negative mantissa exponent =>
    let magnitude : Nat :=
      if exponent < 0 then mantissa / Nat.pow 2 (-exponent).toNat
      else mantissa * Nat.pow 2 exponent.toNat
    if negative then -magnitude else magnitude
  | .infinite negative => if negative then -(Nat.pow 2 63 : Nat) else (Nat.pow 2 63 : Nat) - 1
  | .undefined _ => -(Nat.pow 2 63 : Nat)

/-- The whole number that a number is. -/
def whole? : Real → Option Int
  | .finite negative mantissa exponent =>
    let n := truncated (.finite negative mantissa exponent)
    let isWhole := 0 ≤ exponent ∨ mantissa % Nat.pow 2 (-exponent).toNat = 0
    if isWhole ∧ n.natAbs < Nat.pow 2 63 then some n else none
  | _ => none

end Real

namespace Records

/-- A value. -/
inductive Cell where
  | unset
  | number (value : Float)
  | text (text : Raw)
  /-- A text from outside, which may look like a number. -/
  | outside (text : Raw)

namespace Cell

/-- The number at the beginning of a text. -/
def numberOf (text : Raw) : Float :=
  match Real.read? 53 text with
  | some (n, _) => n.toFloat
  | none => 0

/-- The number that a text looks like. -/
def looksLike? (text : Raw) : Option Float :=
  match Real.read? 53 text with
  | some (n, rest) => if rest.all isWhite then some n.toFloat else none
  | none => none

/-- The value as a number. -/
def toNumber : Cell → Float
  | unset => 0
  | number value => value
  | text t | outside t => numberOf t

/-- Whether a value counts as true. -/
def isTrue : Cell → Bool
  | unset => false
  | number value => value != 0
  | text t => t ≠ []
  | outside t =>
    match looksLike? t with
    | some value => value != 0
    | none => t ≠ []

/-- The number of a truth value. -/
def ofBool (b : Bool) : Cell := number (if b then 1 else 0)

/-- The number of a natural number. -/
def ofNat (n : Nat) : Cell := number (Float.ofNat n)

/-- A directive of a form: its layout, its letter, and what follows it. The sizes that
stars stand for are taken from the values. -/
def directive (format : Raw) (values : List Cell) : Option (Layout × Char × Raw × List Cell) :=
  let isFlag (c : Char) : Bool := "-+ 0#".toList.contains c
  let layout := (format.takeWhile isFlag).foldl Format.withFlag {}
  let rest := format.dropWhile isFlag
  let size (rest : Raw) (values : List Cell) : Option Int × Raw × List Cell :=
    match rest with
    | '*' :: more =>
      (some ((values.head?.map fun v => (Real.ofFloat v.toNumber).truncated).getD 0), more,
        values.drop 1)
    | _ =>
      match rest.takeWhile Char.isDigit with
      | [] => (none, rest, values)
      | digits => (some (Escapes.ofDigits 10 digits : Nat), rest.drop digits.length, values)
  let (width, rest, values) := size rest values
  let width := width.getD 0
  let layout := { layout with width := width.natAbs, left := layout.left || decide (width < 0) }
  let (layout, rest, values) : Layout × Raw × List Cell :=
    match rest with
    | '.' :: more =>
      let (places, rest, values) := size more values
      let places := places.getD 0
      ({ layout with precision := if places < 0 then none else some places.toNat }, rest, values)
    | _ => (layout, rest, values)
  match rest.dropWhile fun c => c = 'l' || c = 'h' || c = 'q' with
  | [] => none
  | letter :: rest => some (layout, letter, rest, values)

/-- A number between the limits of 64 bits. -/
def limited (n : Int) : Int := max Format.limits.1 (min n Format.limits.2)

/-- What a directive for a number prints. What no computation gives a number for bears
a sign. -/
def shownNumber (layout : Layout) (letter : Char) (value : Float) : Raw :=
  if value.isNaN ∧ !"diouxX".toList.contains letter then layout.fill ['-', 'n', 'a', 'n']
  else if letter = 'd' ∨ letter = 'i' then
    layout.number 'd' (limited (Real.ofFloat value).truncated)
  else if "ouxX".toList.contains letter then
    layout.number letter (Real.ofFloat value).truncated
  else layout.real letter (Real.ofFloat value)

/-- A number in a given form, unless it is a whole one. -/
def numberText (form : Raw) (value : Float) : Raw :=
  match (Real.ofFloat value).whole? with
  | some n => Raw.ofInt n
  | none =>
    let lead := form.takeWhile (· ≠ '%')
    match directive ((form.drop lead.length).drop 1) [] with
    | some (layout, letter, rest, _) => lead ++ shownNumber layout letter value ++ rest
    | none => form

/-- The value as a text. -/
def toText (form : Raw) : Cell → Raw
  | unset => []
  | number value => numberText form value
  | text t | outside t => t

/-- The value as a number, if it counts as one in a comparison. -/
def comparable? : Cell → Option Float
  | unset => some 0
  | number value => some value
  | text _ => none
  | outside t => looksLike? t

end Cell

/-- What a form prints of values, and whether there are enough of them, in at most so
many steps. Numbers that are printed as texts have a form of their own. -/
def printed (numbers : Raw) : Nat → Raw → List Cell → List Raw → List Raw × Bool
  | 0, _, _, done => (done, true)
  | _, [], _, done => (done, true)
  | steps + 1, '%' :: '%' :: rest, values, done => printed numbers steps rest values (['%'] :: done)
  | steps + 1, '%' :: rest, values, done =>
    match Cell.directive rest values with
    | none => (('%' :: rest) :: done, true)
    | some (layout, letter, more, values) =>
      if !"diouxXeEfFgGaAcs".toList.contains letter then
        printed numbers steps more values
          (('%' :: rest.take (rest.length - more.length)) :: done)
      else
        match values with
        | [] => (done, false)
        | value :: values =>
          let text : Raw :=
            match letter with
            | 's' => layout.text (value.toText numbers)
            | 'c' =>
              match value with
              | .number n =>
                layout.fill [Char.ofNat ((Real.ofFloat n).truncated % 256).toNat]
              | value => layout.fill [(value.toText numbers).headD '\x00']
            | letter => Cell.shownNumber layout letter value.toNumber
          printed numbers steps more values (text :: done)
  | steps + 1, c :: rest, values, done => printed numbers steps rest values ([c] :: done)

/-- How expressions are written in such programs. -/
def dialect : Regex.Dialect :=
  { extended := true, bracketEscapes := true, escapes := true, words := false, bounds := false
    leadingSigns := true }

end Records

end Rehearsal

end InstallPlan
