import InstallPlan.Rehearsal.Errand.Names
import InstallPlan.Rehearsal.Printing.Format

/-!
# Rehearsal — Calendar

Decimal numbers, durations and times as programs read and write them. A time is
a number of nanoseconds since the beginning of 1970, and the calendar knows one
zone.
-/

namespace InstallPlan

namespace Rehearsal

namespace Errand

/-- A decimal number: a whole number, so many of whose digits are behind the
point. -/
structure Decimal where
  digits : Int
  places : Nat

namespace Decimal

/-- The number with so many digits behind the point. -/
def scaled (places : Nat) (n : Decimal) : Int := n.digits * (Nat.pow 10 (places - n.places) : Nat)

/-- Reads a number. -/
def read? (text : Raw) : Option Decimal :=
  let (sign, text) : Int × Raw :=
    match text with
    | '-' :: more => (-1, more)
    | '+' :: more => (1, more)
    | _ => (1, text)
  let whole := text.takeWhile Char.isDigit
  let part : Option Raw :=
    match text.drop whole.length with
    | [] => some []
    | '.' :: more => if more.all Char.isDigit then some more else none
    | _ => none
  match part with
  | some part =>
    if whole = [] ∧ part = [] then none
    else some ⟨sign * (ofDecimal (whole ++ part) : Nat), part.length⟩
  | none => none

/-- The text of a number with so many digits behind the point, filled up with
zeros. -/
def shown (places width : Nat) (n : Int) : Raw :=
  let digits := Raw.ofNat n.natAbs
  let digits := List.replicate (places + 1 - digits.length) '0' ++ digits
  let whole := digits.take (digits.length - places)
  let text := if places = 0 then whole else whole ++ '.' :: digits.drop (digits.length - places)
  let sign : Raw := if n < 0 then ['-'] else []
  sign ++ List.replicate (width - sign.length - text.length) '0' ++ text

end Decimal

/-- The nanoseconds that a text with a unit stands for. -/
def duration? (text : Raw) : Option Int :=
  let (number, unit) : Raw × Int :=
    match text.getLast? with
    | some 's' => (text.dropLast, 1)
    | some 'm' => (text.dropLast, 60)
    | some 'h' => (text.dropLast, 3600)
    | some 'd' => (text.dropLast, 86400)
    | _ => (text, 1)
  match Decimal.read? number with
  | some n =>
    if n.digits < 0 then none
    else some (unit * Decimal.scaled 9 { n with places := min n.places 9 })
  | none => none

/-- Lets time go by, unless the time of the program is over before. -/
def pass (nanoseconds : Int) : Errand Unit := do
  let process ← process
  let wakes := process.system.clock + nanoseconds
  let stopped := process.deadline.map fun (time, _) => min time wakes
  setProcess { process with system := { process.system with clock := stopped.getD wakes } }
  match (← Errand.process).overdue? with
  | some signal => throw (.killed signal)
  | none => pure ()

/-- Sleeps. -/
def sleep (arguments : List Raw) : Errand Unit := do
  let given ← given { letters := "" } arguments
  atLeast 1 given.operands
  let bad := given.operands.filter fun a => (duration? a).isNone && a ≠ raw "infinity"
  bad.forM fun a => warn (raw "invalid time interval " ++ quote a)
  if bad ≠ [] then
    shout (raw "Try 'sleep --help' for more information.\n")
    stop 1
  pass ((given.operands.filterMap duration?).foldl (· + ·) 0)

/-- The year, month and day of a day counted from the first of 1970. -/
def civilDay (day : Int) : Int × Nat × Nat :=
  let z := day + 719468
  let era := z.fdiv 146097
  let ofEra := (z - era * 146097).toNat
  let yearOfEra := (ofEra - ofEra / 1460 + ofEra / 36524 - ofEra / 146096) / 365
  let ofYear := ofEra - (365 * yearOfEra + yearOfEra / 4 - yearOfEra / 100)
  let shifted := (5 * ofYear + 2) / 153
  let month := if shifted < 10 then shifted + 3 else shifted - 9
  let year := (yearOfEra : Int) + era * 400 + (if month ≤ 2 then 1 else 0)
  (year, month, ofYear - (153 * shifted + 2) / 5 + 1)

/-- The number of a day, counted from the first of 1970. -/
def dayNumber (year : Int) (month day : Nat) : Int :=
  let year := if month ≤ 2 then year - 1 else year
  let era := year.fdiv 400
  let yearOfEra := (year - era * 400).toNat
  let shifted := if 2 < month then month - 3 else month + 9
  let ofYear := (153 * shifted + 2) / 5 + day - 1
  era * 146097 + (yearOfEra * 365 + yearOfEra / 4 - yearOfEra / 100 + ofYear : Nat) - 719468

/-- The names of the days of the week. -/
def weekdays : List String :=
  ["Sunday", "Monday", "Tuesday", "Wednesday", "Thursday", "Friday", "Saturday"]

/-- The names of the months. -/
def months : List String :=
  ["January", "February", "March", "April", "May", "June", "July", "August", "September",
    "October", "November", "December"]

/-- What a format prints of a time in nanoseconds, in at most so many steps. -/
def timeText : Nat → Int → Raw → Raw
  | 0, _, _ => []
  | _, _, [] => []
  | steps + 1, time, '%' :: c :: rest =>
    let seconds := time.fdiv 1000000000
    let day := seconds.fdiv 86400
    let ofDay := (seconds - day * 86400).toNat
    let (year, month, date) := civilDay day
    let weekday := ((day + 4).fmod 7).toNat
    let filled (width : Nat) (mark : Char) (n : Nat) : Raw :=
      let digits := Raw.ofNat n
      List.replicate (width - digits.length) mark ++ digits
    let name (names : List String) (i : Nat) : Raw := raw ((names[i]?).getD "")
    let hour := ofDay / 3600
    let text : Raw :=
      match c with
      | 'Y' => Raw.ofInt year
      | 'C' => filled 2 '0' (year.toNat / 100)
      | 'y' => filled 2 '0' (year.toNat % 100)
      | 'm' => filled 2 '0' month
      | 'd' => filled 2 '0' date
      | 'e' => filled 2 ' ' date
      | 'H' => filled 2 '0' hour
      | 'k' => filled 2 ' ' hour
      | 'I' => filled 2 '0' (if hour % 12 = 0 then 12 else hour % 12)
      | 'l' => filled 2 ' ' (if hour % 12 = 0 then 12 else hour % 12)
      | 'M' => filled 2 '0' (ofDay / 60 % 60)
      | 'S' => filled 2 '0' (ofDay % 60)
      | 's' => Raw.ofInt seconds
      | 'N' => filled 9 '0' (time - seconds * 1000000000).toNat
      | 'j' => filled 3 '0' (day - dayNumber year 1 1 + 1).toNat
      | 'p' => raw (if hour < 12 then "AM" else "PM")
      | 'A' => name weekdays weekday
      | 'a' => (name weekdays weekday).take 3
      | 'B' => name months (month - 1)
      | 'b' | 'h' => (name months (month - 1)).take 3
      | 'u' => Raw.ofNat (if weekday = 0 then 7 else weekday)
      | 'w' => Raw.ofNat weekday
      | 'Z' => raw "UTC"
      | 'z' => raw "+0000"
      | 'n' => ['\n']
      | 't' => ['\t']
      | '%' => ['%']
      | 'F' => timeText steps time (raw "%Y-%m-%d")
      | 'T' | 'X' => timeText steps time (raw "%H:%M:%S")
      | 'R' => timeText steps time (raw "%H:%M")
      | 'D' | 'x' => timeText steps time (raw "%m/%d/%y")
      | 'r' => timeText steps time (raw "%I:%M:%S %p")
      | 'c' => timeText steps time (raw "%a %b %e %H:%M:%S %Y")
      | c => ['%', c]
    text ++ timeText steps time rest
  | steps + 1, time, c :: rest => c :: timeText steps time rest

/-- The time of day that a text gives in hours, minutes and seconds. -/
def clockTime? (text : Raw) : Option Int :=
  match (Raw.split ':' text).map decimal? with
  | [some h, some m] => if h < 24 ∧ m < 60 then some (h * 3600 + m * 60 : Nat) else none
  | [some h, some m, some s] =>
    if h < 24 ∧ m < 60 ∧ s < 61 then some (h * 3600 + m * 60 + s : Nat) else none
  | _ => none

/-- The time in nanoseconds that a text gives. -/
def time? (now : Int) (text : Raw) : Option Int :=
  let words := (Raw.split ' ' text).filter (· ≠ [])
  let words := words.filter fun w => w ≠ raw "UTC" ∧ w ≠ ['Z']
  let day? (word : Raw) : Option Int :=
    match (Raw.split '-' word).map decimal? with
    | [some y, some m, some d] =>
      if 1 ≤ m ∧ m ≤ 12 ∧ 1 ≤ d ∧ d ≤ 31 then some (dayNumber y m d) else none
    | _ => none
  let today := now.fdiv 86400000000000
  let whole (day seconds : Int) : Int := (day * 86400 + seconds) * 1000000000
  match words with
  | [['n', 'o', 'w']] | [] => some now
  | [word] =>
    match word with
    | '@' :: digits =>
      (Decimal.read? digits).map fun n => Decimal.scaled 9 { n with places := min n.places 9 }
    | _ =>
      match day? word, clockTime? word, word.contains 'T' with
      | some day, _, _ => some (whole day 0)
      | none, some seconds, _ => some (whole today seconds)
      | none, none, true => do
        let day ← day? (word.takeWhile (· ≠ 'T'))
        let seconds ← clockTime? (Raw.dropEnd (· = 'Z') (word.dropWhile (· ≠ 'T') |>.drop 1))
        return whole day seconds
      | none, none, false => none
  | [day, clock] => do return whole (← day? day) (← clockTime? clock)
  | _ => none

/-- The time that twelve or so digits give. -/
def stampTime? (text : Raw) : Option Int :=
  let digits := text.takeWhile Char.isDigit
  let seconds? : Option Nat :=
    match text.drop digits.length with
    | [] => some 0
    | '.' :: more => if more.length = 2 then decimal? more else none
    | _ => none
  let pair (i : Nat) (digits : Raw) : Nat := ofDecimal ((digits.drop i).take 2)
  let build (year : Nat) (rest : Raw) : Option Int :=
    seconds?.map fun seconds =>
      let days := dayNumber year (pair 0 rest) (pair 2 rest)
      (days * 86400 + (pair 4 rest * 3600 + pair 6 rest * 60 + seconds : Nat)) * 1000000000
  match digits.length with
  | 12 => build (ofDecimal (digits.take 4)) (digits.drop 4)
  | 10 =>
    let year := pair 0 digits
    build (if year < 69 then 2000 + year else 1900 + year) (digits.drop 2)
  | 8 => build 2023 digits
  | _ => none

/-- Prints a time. -/
def date (arguments : List Raw) : Errand Unit := do
  let given ← given
    { letters := "d:f:I::r:Rs:u",
      words := [("date", .value, "d"), ("iso-8601", .attached, "I"), ("reference", .value, "r"),
        ("rfc-email", .none, "R"), ("utc", .none, "u"), ("universal", .none, "u")] } arguments
  let now := (← process).system.clock
  let time ←
    match given.last? "d", given.last? "r" with
    | some text, _ =>
      match time? now text with
      | some time => pure time
      | none => die 1 (raw "invalid date " ++ quote text)
    | none, some path =>
      match (← process).status? path with
      | .ok (_, node) => pure node.stamp
      | .error reason => die 1 (about path reason)
    | none, none => pure now
  let format ←
    match given.operands with
    | [] =>
      pure (match given.last? "I" with
        | some form => match String.ofList form with
          | "seconds" => raw "%Y-%m-%dT%H:%M:%S+00:00"
          | "minutes" => raw "%Y-%m-%dT%H:%M+00:00"
          | "hours" => raw "%Y-%m-%dT%H+00:00"
          | _ => raw "%Y-%m-%d"
        | none => raw (if given.has "R" then "%a, %d %b %Y %H:%M:%S +0000"
            else "%a %b %e %H:%M:%S UTC %Y"))
    | ('+' :: format) :: [] => pure format
    | ('+' :: _) :: extra :: _ => misuse 1 (raw "extra operand " ++ quote extra)
    | text :: _ => die 1 (raw "invalid date " ++ quote text)
  sayLine (timeText (8 * format.length + 8) time format)

end Errand

end Rehearsal

end InstallPlan
