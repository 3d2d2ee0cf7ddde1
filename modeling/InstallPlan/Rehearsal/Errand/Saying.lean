import InstallPlan.Rehearsal.Condition
import InstallPlan.Rehearsal.Errand.Calendar
import InstallPlan.Rehearsal.Errand.Parts
import InstallPlan.Rehearsal.Regex.Reading

/-!
# Rehearsal — Errands that say something

The programs whose output comes from their arguments: texts, formats, counts,
the values of expressions.
-/

namespace InstallPlan

namespace Rehearsal

/-! ## Texts and formats -/

namespace Format

/-- The escapes that the system's own programs know. -/
def fullEscapes : Escapes :=
  { letters := ('"', '"') :: Escapes.common, hex := true, unicode := true, ending := true }

/-- What the system's own program for formats knows. -/
def utility : Convention where
  escapes := fullEscapes
  inner := { fullEscapes with zero := true, octal := true }
  precision := 64
  directives := "aAbcdeEfFgGioqsuxX"
  sizes := "hlLjzt"
  emptyIsZero := false
  wording
    | .noNumber argument => Errand.quote argument ++ raw ": expected a numeric value"
    | .leftover argument => Errand.quote argument ++ raw ": value not completely converted"
    | .tooLarge argument => Errand.quote argument ++ raw ": Numerical result out of range"
    | .badDirective text => text ++ raw ": invalid conversion specification"
    | .missingDirective text => text ++ raw ": invalid conversion specification"

end Format

namespace Errand

/-- Prints its arguments. -/
def echo (arguments : List Raw) : Errand Unit := do
  let isOption (a : Raw) : Bool :=
    1 < a.length && a.head? = some '-' && (a.drop 1).all "neE".toList.contains
  let options := (arguments.takeWhile isOption).flatten
  let text := Raw.joined [' '] (arguments.dropWhile isOption)
  let escapes : Escapes :=
    { letters := Escapes.common, zero := true, hex := true, ending := true }
  let replaces := (options.reverse.find? fun c => c = 'e' ∨ c = 'E') = some 'e'
  let (text, ends) := if replaces then escapes.replace 0 text else (text, false)
  say (if ends || options.contains 'n' then text else text ++ ['\n'])

/-- Prints a format with its arguments. -/
def printFormat (arguments : List Raw) : Errand Unit := do
  let arguments :=
    match arguments with
    | ['-', '-'] :: rest => rest
    | _ => arguments
  match arguments with
  | [] => misuse 1 (raw "missing operand")
  | format :: arguments =>
    let (text, complaints, status, excess) := Format.print Format.utility format arguments
    complaints.forM warn
    say text
    match excess with
    | extra :: _ =>
      warn (raw "warning: ignoring excess arguments, starting with " ++ quote extra)
    | [] => pure ()
    setStatus status

/-- Says the same line again and again, so often that no reader asks for more. -/
def endless (arguments : List Raw) : Errand Unit := do
  let line := (if arguments = [] then ['y'] else Raw.joined [' '] arguments) ++ ['\n']
  let times := 131072 / line.length + 1
  say ((List.replicate times line).flatten)

/-- Tests a condition. -/
def test (arguments : List Raw) : Errand Unit := do
  match Condition.Counted.whole { process := ← process, words := arguments.toArray } with
  | .ok holds => setStatus (if holds then 0 else 1)
  | .error message => die 2 message

/-- Tests a condition that a bracket must close. -/
def bracket (arguments : List Raw) : Errand Unit := do
  if arguments.getLast? = some [']'] then test arguments.dropLast
  else die 2 (raw "missing ']'")

/-! ## Counts -/

/-- Prints numbers from one to another. -/
def sequence (arguments : List Raw) : Errand Unit := do
  let isNumber (a : Raw) : Bool := (Decimal.read? a).isSome
  let operands := arguments.filter isNumber
  let given ← given
    { letters := "f:s:w", inOrder := true,
      words := [("format", .value, "f"), ("separator", .value, "s"),
        ("equal-width", .none, "w")] }
    (arguments.takeWhile (!isNumber ·) ++ raw "--" :: arguments.dropWhile (!isNumber ·))
  if given.operands.length = 0 then misuse 1 (raw "missing operand")
  match given.operands.drop 3 with
  | extra :: _ => misuse 1 (raw "extra operand " ++ quote extra)
  | [] => pure ()
  match given.operands.find? (!isNumber ·) with
  | some bad => misuse 1 (raw "invalid floating point argument: " ++ quote bad)
  | none => pure ()
  let numbers := operands.filterMap Decimal.read?
  let one : Decimal := ⟨1, 0⟩
  let (first, step, last) : Decimal × Decimal × Decimal :=
    match numbers with
    | [last] => (one, one, last)
    | [first, last] => (first, one, last)
    | first :: step :: last :: _ => (first, step, last)
    | [] => (one, one, one)
  if step.digits = 0 then
    let text := match operands with | [_, step, _] => step | _ => ['0']
    misuse 1 (raw "invalid Zero increment value: " ++ quote text)
  let places := max first.places step.places
  let fine := max places last.places
  let (a, d, b) := (first.scaled fine, step.scaled fine, last.scaled fine)
  let count := if 0 < d then (b - a) / d + 1 else (a - b) / (-d) + 1
  let values := (List.range count.toNat).map fun (i : Nat) =>
    (a + d * (i : Int)) / (Nat.pow 10 (fine - places) : Nat)
  let width :=
    if given.has "w" then
      ((values.map fun n => (Decimal.shown places 0 n).length).foldl max 0)
    else 0
  let shown (n : Int) : Raw :=
    match given.last? "f" with
    | none => Decimal.shown places width n
    | some format => (Format.print Format.utility format [Decimal.shown places 0 n]).1
  if values ≠ [] then
    say (Raw.joined ((given.last? "s").getD ['\n']) (values.map shown) ++ ['\n'])

/-! ## Expressions -/

/-- The value of an expression: a number, or a text. -/
abbrev Value := Raw

/-- The whole number that a value is. -/
def valueNumber? (value : Value) : Option Int :=
  match value with
  | '-' :: digits => (decimal? digits).map fun n => -(n : Int)
  | digits => (decimal? digits).map fun n => (n : Int)

/-- Whether a value counts as nothing. -/
def isNothing (value : Value) : Bool := value = [] || valueNumber? value = some 0

/-- A number that a value must be. -/
def needNumber (value : Value) : Errand Int :=
  match valueNumber? value with
  | some n => pure n
  | none => die 2 (raw "non-integer argument")

/-- What an expression matches of a text, from its beginning: the first group, or
the length. -/
def matched (text pattern : Raw) : Errand Value := do
  match Regex.read { extended := false } pattern with
  | .error flaw => die 2 (raw flaw.message)
  | .ok regex =>
    match regex.longestAt { text := text.toArray } 0 with
    | none => return if regex.groups = 0 then ['0'] else []
    | some found =>
      if regex.groups = 0 then return Raw.ofNat found.last
      else
        match found.group? 1 with
        | some (first, last) => return (text.take last).drop first
        | none => return []

/-- The levels of operators, from the loosest. -/
def exprLevels : List (List String) :=
  [["|"], ["&"], ["<", "<=", "=", "==", "!=", ">=", ">"], ["+", "-"], ["*", "/", "%"], [":"]]

/-- The value of an operation. -/
def exprOperate (operator : String) (a b : Value) : Errand Value := do
  let truth (holds : Bool) : Value := if holds then ['1'] else ['0']
  let compare (onNumbers : Int → Int → Bool) (onTexts : Bool) : Errand Value :=
    match valueNumber? a, valueNumber? b with
    | some m, some n => return truth (onNumbers m n)
    | _, _ => return truth onTexts
  match operator with
  | "|" => return if !isNothing a then a else if !isNothing b then b else ['0']
  | "&" => return if isNothing a || isNothing b then ['0'] else a
  | "<" => compare (· < ·) (!Raw.atMost b a)
  | "<=" => compare (· ≤ ·) (Raw.atMost a b)
  | "=" | "==" => compare (· == ·) (decide (a = b))
  | "!=" => compare (· != ·) (decide (a ≠ b))
  | ">=" => compare (· ≥ ·) (Raw.atMost b a)
  | ">" => compare (· > ·) (!Raw.atMost a b)
  | ":" => matched a b
  | _ =>
    let m ← needNumber a
    let n ← needNumber b
    match operator with
    | "+" => return Raw.ofInt (m + n)
    | "-" => return Raw.ofInt (m - n)
    | "*" => return Raw.ofInt (m * n)
    | _ =>
      if n = 0 then die 2 (raw "division by zero")
      else return Raw.ofInt (if operator = "/" then Int.tdiv m n else Int.tmod m n)

mutual

/-- Reads an expression from a level of operators on. -/
def exprLevel : Nat → List (List String) → List Raw → Errand (Value × List Raw)
  | 0, _, _ => die 2 (raw "syntax error")
  | steps + 1, [], words => exprOperand steps words
  | steps + 1, level :: levels, words => do
    let (left, rest) ← exprLevel steps levels words
    exprRest steps level levels left rest

/-- Reads the operators of a level behind a value. -/
def exprRest : Nat → List String → List (List String) → Value → List Raw →
    Errand (Value × List Raw)
  | 0, _, _, _, _ => die 2 (raw "syntax error")
  | steps + 1, level, levels, left, words => do
    match words with
    | operator :: rest =>
      if level.contains (String.ofList operator) then
        if rest = [] then
          die 2 (raw "syntax error: missing argument after " ++ quote operator)
        let (right, rest) ← exprLevel steps levels rest
        exprRest steps level levels (← exprOperate (String.ofList operator) left right) rest
      else return (left, words)
    | [] => return (left, [])

/-- Reads an operand. -/
def exprOperand : Nat → List Raw → Errand (Value × List Raw)
  | 0, _ => die 2 (raw "syntax error")
  | steps + 1, words => do
    match words with
    | [] => die 2 (raw "syntax error")
    | word :: rest =>
      let operand (words : List Raw) : Errand (Value × List Raw) := exprOperand steps words
      match String.ofList word, rest with
      | "(", _ :: _ =>
        let (value, rest) ← exprLevel steps exprLevels rest
        match rest with
        | [')'] :: rest => return (value, rest)
        | other :: _ => die 2 (raw "syntax error: expecting ')' instead of " ++ quote other)
        | [] => die 2 (raw "syntax error: expecting ')' after " ++ quote value)
      | "length", _ :: _ =>
        let (text, rest) ← operand rest
        return (Raw.ofNat text.length, rest)
      | "match", _ :: _ =>
        let (text, rest) ← operand rest
        let (pattern, rest) ← operand rest
        return (← matched text pattern, rest)
      | "index", _ :: _ =>
        let (text, rest) ← operand rest
        let (set, rest) ← operand rest
        return (Raw.ofNat ((text.findIdx? set.contains).map (· + 1) |>.getD 0), rest)
      | "substr", _ :: _ =>
        let (text, rest) ← operand rest
        let (first, rest) ← operand rest
        let (count, rest) ← operand rest
        match valueNumber? first, valueNumber? count with
        | some first, some count =>
          if first ≤ 0 ∨ count ≤ 0 then return ([], rest)
          else return ((text.drop (first.toNat - 1)).take count.toNat, rest)
        | _, _ => return ([], rest)
      | "+", quoted :: rest => return (quoted, rest)
      | _, _ => return (word, rest)

end

/-- Prints the value of an expression. -/
def expression (arguments : List Raw) : Errand Unit := do
  let words := match arguments with | ['-', '-'] :: rest => rest | _ => arguments
  if words = [] then misuse 2 (raw "missing operand")
  let (value, rest) ← exprLevel (16 * words.length + 16) exprLevels words
  match rest with
  | extra :: _ => die 2 (raw "syntax error: unexpected argument " ++ quote extra)
  | [] => pure ()
  sayLine value
  setStatus (if isNothing value then 1 else 0)

end Errand

end Rehearsal

end InstallPlan
