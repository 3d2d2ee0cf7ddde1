import InstallPlan.Rehearsal.Printing.Real

/-!
# Rehearsal — Formats

A format prints arguments: its text as it stands, with escapes replaced, and for
every directive the next argument. It is used again as long as arguments are
left. The programs that print formats differ in what they know and in what they
say of an argument that is no number (`Convention`).
-/

namespace InstallPlan

namespace Rehearsal

/-- A whole number at the beginning of a text, with its sign, and what follows;
nothing if there is none. A leading zero means octal digits, and an x behind it
hexadecimal ones. -/
def wholeNumber? (text : Raw) : Option (Int × Raw) :=
  let unsigned (sign : Int) (text : Raw) : Option (Int × Raw) :=
    let digits (base : Nat) (text : Raw) : Int × Raw :=
      (sign * (Escapes.ofDigits base (text.takeWhile (Escapes.isDigitTo base)) : Nat),
        text.dropWhile (Escapes.isDigitTo base))
    match text with
    | '0' :: x :: more =>
      if (x = 'x' ∨ x = 'X') ∧ more.head?.any (Escapes.isDigitTo 16) then some (digits 16 more)
      else some (digits 8 text)
    | c :: _ => if c.isDigit then some (digits 10 text) else none
    | [] => none
  match text.dropWhile isWhite with
  | '-' :: more => unsigned (-1) more
  | '+' :: more => unsigned 1 more
  | more => unsigned 1 more

namespace Format

/-- What can be wrong with an argument or a directive. -/
inductive Flaw where
  | noNumber (argument : Raw)
  | leftover (argument : Raw)
  | tooLarge (argument : Raw)
  | badDirective (text : Raw)
  | missingDirective (text : Raw)

/-- What a program that prints formats knows. -/
structure Convention where
  /-- The escapes in a format. -/
  escapes : Escapes
  /-- The escapes in an argument whose escapes are to be replaced. -/
  inner : Escapes
  /-- The number of bits of a real number. -/
  precision : Nat
  /-- The letters of directives. -/
  directives : String
  /-- Letters in front of them that mean nothing. -/
  sizes : String := ""
  /-- Whether an empty argument counts as zero. -/
  emptyIsZero : Bool := true
  wording : Flaw → Raw
  /-- The status if a directive is bad. -/
  badStatus : Nat := 1

/-- What printing has come to. -/
structure Progress where
  /-- What is printed, the last part first. -/
  text : List Raw := []
  arguments : List Raw
  flaws : List Flaw := []
  status : Nat := 0
  stopped : Bool := false

namespace Progress

/-- Adds text. -/
def add (more : Raw) (progress : Progress) : Progress :=
  { progress with text := more :: progress.text }

/-- Notes that something is wrong. -/
def note (flaw : Flaw) (progress : Progress) : Progress :=
  { progress with flaws := flaw :: progress.flaws, status := 1 }

/-- Stops for a bad directive. -/
def refuse (status : Nat) (flaw : Flaw) (progress : Progress) : Progress :=
  { progress.note flaw with status, stopped := true }

/-- The next argument, if there is one, and the progress after it. -/
def take (progress : Progress) : Option Raw × Progress :=
  match progress.arguments with
  | [] => (none, progress)
  | argument :: more => (some argument, { progress with arguments := more })

/-- A number of a reader for an argument, with what is wrong with it. -/
def judged {α : Type} (convention : Convention) (argument : Raw) (zero : α)
    (found : Option (α × Raw)) (fits : α → Bool) (progress : Progress) : α × Progress :=
  match found with
  | none =>
    (zero,
      if argument = [] ∧ convention.emptyIsZero then progress
      else progress.note (.noNumber argument))
  | some (n, []) => (n, if fits n then progress else progress.note (.tooLarge argument))
  | some (n, _) => (n, progress.note (.leftover argument))

/-- The code of the character behind a quote. -/
def code? (argument : Raw) : Option Int :=
  match argument with
  | '\x27' :: c :: _ | '"' :: c :: _ => some c.toNat
  | ['\x27'] | ['"'] => some 0
  | _ => none

/-- The next argument as a whole number between two limits. -/
def takeWhole (convention : Convention) (low high : Int) (progress : Progress) : Int × Progress :=
  match progress.take with
  | (none, progress) => (0, progress)
  | (some argument, progress) =>
    match code? argument with
    | some code => (code, progress)
    | none =>
      let (n, progress) := progress.judged convention argument 0 (wholeNumber? argument)
        fun n => decide (low ≤ n ∧ n ≤ high)
      (max low (min n high), progress)

/-- The next argument as a real number. -/
def takeReal (convention : Convention) (progress : Progress) : Real × Progress :=
  match progress.take with
  | (none, progress) => (.finite false 0 0, progress)
  | (some argument, progress) =>
    match code? argument with
    | some code => (.ofInt convention.precision code, progress)
    | none =>
      progress.judged convention argument (.finite false 0 0)
        (Real.read? convention.precision argument) fun _ => true

end Progress

/-- The layout with a flag. -/
def withFlag (layout : Layout) : Char → Layout
  | '-' => { layout with left := true }
  | '+' => { layout with plus := true }
  | ' ' => { layout with space := true }
  | '0' => { layout with zero := true }
  | _ => { layout with alternate := true }

/-- The least and the greatest integer of 64 bits. -/
def limits : Int × Int := (-(Nat.pow 2 63 : Nat), (Nat.pow 2 63 : Nat) - 1)

/-- A size in a directive: digits, or a star that takes an argument. -/
def size (convention : Convention) (text : Raw) (progress : Progress) :
    Option Int × Raw × Progress :=
  match text with
  | '*' :: more =>
    let (n, progress) := progress.takeWhole convention limits.1 limits.2
    (some n, more, progress)
  | _ =>
    match text.takeWhile Char.isDigit with
    | [] => (none, text, progress)
    | digits => (some (Escapes.ofDigits 10 digits : Nat), text.drop digits.length, progress)

/-- A text that a shell would read as one word of the same value. -/
def quoted (text : Raw) : Raw :=
  let isPlain (c : Char) : Bool := c.isAlphanum || "_-./:=%+@,".toList.contains c
  if text = [] then ['\x27', '\x27']
  else if text.all isPlain then text
  else text.flatMap fun c => if isPlain c then [c] else ['\\', c]

/-- Prints one directive, behind its percent sign, and gives what follows it. -/
def directive (convention : Convention) (text : Raw) (progress : Progress) : Raw × Progress :=
  let start := '%' :: text
  let isFlag (c : Char) : Bool := "-+ 0#".toList.contains c
  let layout := (text.takeWhile isFlag).foldl withFlag {}
  let (width, text, progress) := size convention (text.dropWhile isFlag) progress
  let layout :=
    { layout with
      width := (width.getD 0).natAbs
      left := layout.left || decide (width.getD 0 < 0) }
  let (layout, text, progress) : Layout × Raw × Progress :=
    match text with
    | '.' :: more =>
      let (precision, text, progress) := size convention more progress
      let precision := precision.getD 0
      ({ layout with precision := if precision < 0 then none else some precision.toNat },
        text, progress)
    | _ => (layout, text, progress)
  let text := text.dropWhile convention.sizes.toList.contains
  let shown := start.take (start.length - text.length + 1)
  match text with
  | [] => ([], progress.refuse convention.badStatus (.missingDirective start))
  | letter :: rest =>
    if !convention.directives.toList.contains letter then
      ([], progress.refuse convention.badStatus (.badDirective shown))
    else if letter = 's' ∨ letter = 'q' then
      let (argument, progress) := progress.take
      let argument := argument.getD []
      (rest, progress.add (layout.text (if letter = 'q' then quoted argument else argument)))
    else if letter = 'c' then
      let (argument, progress) := progress.take
      (rest, progress.add (layout.fill [(argument.getD []).headD '\x00']))
    else if letter = 'b' then
      let (argument, progress) := progress.take
      let (shown, ends) := convention.inner.replace 0 (argument.getD [])
      (rest, { progress.add (layout.text shown) with stopped := ends })
    else if letter = 'd' ∨ letter = 'i' then
      let (n, progress) := progress.takeWhole convention limits.1 limits.2
      (rest, progress.add (layout.number letter n))
    else if "ouxX".toList.contains letter then
      let most : Int := (modulus : Nat) - 1
      let (n, progress) := progress.takeWhole convention (-most) most
      (rest, progress.add (layout.number letter n))
    else
      let (n, progress) := progress.takeReal convention
      (rest, progress.add (layout.real letter n))

/-- Prints a format once, in at most so many steps. -/
def once (convention : Convention) : Nat → Raw → Progress → Progress
  | 0, _, progress => progress
  | _, [], progress => progress
  | steps + 1, c :: more, progress =>
    if progress.stopped then progress
    else
      match c, more with
      | '\\', _ =>
        match convention.escapes.meaning more with
        | (.ending, _) => { progress with stopped := true }
        | (.text text, count) => once convention steps (more.drop count) (progress.add text)
      | '%', '%' :: rest => once convention steps rest (progress.add ['%'])
      | '%', _ =>
        let (rest, progress) := directive convention more progress
        once convention steps rest progress
      | _, _ => once convention steps more (progress.add [c])

/-- Prints a format as long as it uses up arguments. -/
def again (convention : Convention) (format : Raw) : Nat → Progress → Progress
  | 0, progress => progress
  | steps + 1, progress =>
    let next := once convention (format.length + 1) format progress
    if next.stopped ∨ next.arguments = [] ∨ next.arguments.length = progress.arguments.length then
      next
    else again convention format steps next

/-- What a format prints with its arguments, what is to be complained about, and
the status; last the arguments that are left over. -/
def print (convention : Convention) (format : Raw) (arguments : List Raw) :
    Raw × List Raw × Nat × List Raw :=
  let progress := again convention format (arguments.length + 1) { arguments }
  (progress.text.reverse.flatten, progress.flaws.reverse.map convention.wording,
    progress.status, if progress.stopped then [] else progress.arguments)

end Format

end Rehearsal

end InstallPlan
