import InstallPlan.Rehearsal.Printing.Layout
import InstallPlan.Rehearsal.Script.Command
import InstallPlan.Text.Name

/-!
# Rehearsal — Arithmetic

Reads an arithmetic expression and computes its value in integers of 64 bits.
What need not be computed, such as the second operand of `||` when the first
is not zero, assigns nothing and cannot fail. The richer dialect has powers,
steps up and down, lists of expressions, members of arrays, and numbers to any
base; and the value of a variable is an expression again.
-/

namespace InstallPlan

namespace Rehearsal

namespace Arithmetic

/-- What is wrong with an expression. -/
inductive Flaw where
  /-- Something else should stand in front of the rest. -/
  | expecting (what : String) (rest : Raw)
  | divisionByZero (rest : Raw)
  | illegalNumber (text : Raw)
  | tooDeep

/-- What an expression is about. -/
structure Scope where
  dialect : Dialect
  value : Raw → Option Raw
  /-- Whether the members of an array go by names. -/
  isKeyed : Raw → Bool

/-- What is left to read, and the variables as they are by now. -/
structure Cursor where
  scope : Scope
  rest : Raw
  assigned : List (Raw × Int) := []

/-- A reader that computes, or gives up. -/
abbrev Reader := EStateM Flaw Cursor

/-- What is left behind blanks. -/
def rest : Reader Raw := do
  modify fun cursor => { cursor with rest := cursor.rest.dropWhile isBlank }
  return (← get).rest

/-- Sets what is left. -/
def setRest (text : Raw) : Reader Unit := modify fun cursor => { cursor with rest := text }

/-- Whether the dialect is the richer one. -/
def isRich : Reader Bool := return (← get).scope.dialect = .rich

/-- Finds that something else should stand here. -/
def expecting {α : Type} (what : String) : Reader α := do throw (.expecting what (← rest))

/-- Leaves out some characters. -/
def skip (count : Nat) : Reader Unit :=
  modify fun cursor => { cursor with rest := cursor.rest.drop count }

/-- The greatest and the smallest integer of 64 bits in the place of what is
beyond them. -/
def saturated (n : Int) : Int := max (-(Nat.pow 2 63 : Nat)) (min ((Nat.pow 2 63 : Nat) - 1) n)

/-- The number at the beginning of a text that begins with a digit, and what
follows it. -/
def number (text : Raw) : Nat × Raw :=
  match text with
  | '0' :: x :: more =>
    if (x = 'x' ∨ x = 'X') ∧ (more.head?.any (Escapes.isDigitTo 16)) then
      (Escapes.ofDigits 16 (more.takeWhile (Escapes.isDigitTo 16)), more.dropWhile (Escapes.isDigitTo 16))
    else (Escapes.ofDigits 8 (text.takeWhile (Escapes.isDigitTo 8)), text.dropWhile (Escapes.isDigitTo 8))
  | _ => (Escapes.ofDigits 10 (text.takeWhile Char.isDigit), text.dropWhile Char.isDigit)

/-- The number that a whole text stands for; an empty text stands for zero. A
number of more than 64 bits is none. -/
def integer? (text : Raw) : Option Int :=
  let start := text.dropWhile isWhite
  let (sign, digits) : Int × Raw :=
    match start with
    | '-' :: more => (-1, more)
    | '+' :: more => (1, more)
    | _ => (1, start)
  if start = [] then some 0
  else if digits.head?.any Char.isDigit then
    let (n, after) := number digits
    if after.all isWhite && saturated (sign * n) = sign * n then some (sign * n) else none
  else none

/-- The value of a digit to a base above ten. -/
def richDigit? (base : Nat) (c : Char) : Option Nat :=
  let value? : Option Nat :=
    if c.isDigit then some (c.toNat - 48)
    else if 'a' ≤ c ∧ c ≤ 'z' then some (c.toNat - 87)
    else if 'A' ≤ c ∧ c ≤ 'Z' then some (if base ≤ 36 then c.toNat - 55 else c.toNat - 29)
    else if c = '@' then some 62
    else if c = '_' then some 63
    else none
  value?.bind fun n => if n < base then some n else none

/-- A number of the richer dialect: all digits, letters and signs that can be part
of it are. -/
def richNumber (text : Raw) : Option (Nat × Raw) :=
  let isPart (c : Char) : Bool := c.isAlphanum || c = '@' || c = '_' || c = '#'
  let digits := text.takeWhile isPart
  let behind := text.drop digits.length
  let valued (base : Nat) (digits : Raw) : Option (Nat × Raw) :=
    (digits.foldlM
      (fun n c => (richDigit? base c).map fun d => (n * base + d) % Nat.pow 2 64) 0).map
      fun n => (n, behind)
  match digits with
  | '0' :: x :: more =>
    if x = 'x' ∨ x = 'X' then valued 16 more
    else if digits.contains '#' then none
    else valued 8 digits
  | _ =>
    let front := digits.takeWhile (· ≠ '#')
    if front.length < digits.length then
      let base := Escapes.ofDigits 10 front
      if 2 ≤ base ∧ base ≤ 64 ∧ front.all Char.isDigit then
        valued base (digits.drop (front.length + 1))
      else none
    else valued 10 digits

/-- The operators between two operands, the longest first, and how closely
they bind. -/
def operators : List (String × Nat) := [
  ("||", 1), ("&&", 2), ("<<", 8), (">>", 8), ("<=", 7), (">=", 7), ("==", 6), ("!=", 6),
  ("|", 3), ("^", 4), ("&", 5), ("<", 7), (">", 7), ("+", 9), ("-", 9), ("*", 10), ("/", 10),
  ("%", 10)]

/-- One for what holds, zero for what does not. -/
def truth (holds : Bool) : Int := if holds then 1 else 0

/-- The value of an operation that cannot fail, or of a division by what is not
zero. -/
def operate (operator : String) (a b : Int) : Int :=
  match operator with
  | "||" => truth (a != 0 || b != 0)
  | "&&" => truth (a != 0 && b != 0)
  | "|" => wrap (bits a ||| bits b)
  | "^" => wrap (bits a ^^^ bits b)
  | "&" => wrap (bits a &&& bits b)
  | "==" => truth (a == b)
  | "!=" => truth (a != b)
  | "<" => truth (a < b)
  | "<=" => truth (a ≤ b)
  | ">" => truth (a > b)
  | ">=" => truth (a ≥ b)
  | "<<" => wrap (a * (Nat.pow 2 (bits b % 64) : Nat))
  | ">>" => a / (Nat.pow 2 (bits b % 64) : Nat)
  | "+" => wrap (a + b)
  | "-" => wrap (a - b)
  | "*" => wrap (a * b)
  | "/" => wrap (Int.tdiv a b)
  | "%" => Int.tmod a b
  | _ => wrap (a * b)

/-- The operators that an assignment may compute with. -/
def assigning : List String := ["<<", ">>", "+", "-", "*", "/", "%", "&", "^", "|", ""]

/-- The sign of an assignment at the beginning of a text. -/
def assignmentSign? (text : Raw) : Option String :=
  assigning.find? fun operator =>
    (operator.toList ++ ['=']).isPrefixOf text
      && (operator != "" || !("==".toList.isPrefixOf text))

/-- The value of an operation, where it matters. -/
def compute (live : Bool) (operator : String) (a b : Int) : Reader Int := do
  if !live then return b
  else if (operator == "/" || operator == "%") && b = 0 then throw (.divisionByZero (← get).rest)
  else return operate operator a b

/-- A power of an integer. -/
def power (base : Int) : Nat → Int
  | 0 => 1
  | n + 1 =>
    let half := power base ((n + 1) / 2)
    if (n + 1) % 2 = 0 then wrap (half * half) else wrap (wrap (half * half) * base)
termination_by n => n
decreasing_by omega

/-- The part of a text up to the bracket that closes it, inside so many others. -/
def bracketed : Nat → Raw → Option (Raw × Raw)
  | _, [] => none
  | 0, ']' :: rest => some ([], rest)
  | depth + 1, ']' :: rest =>
    (bracketed depth rest).map fun (text, rest) => (']' :: text, rest)
  | depth, c :: rest =>
    (bracketed (if c = '[' then depth + 1 else depth) rest).map fun (text, rest) =>
      (c :: text, rest)

/-- Assigns a value to a variable, where it matters. -/
def assign (live : Bool) (name : Raw) (value : Int) : Reader Unit := do
  if live then
    modify fun cursor =>
      { cursor with assigned := (name, value) :: cursor.assigned.filter (·.1 ≠ name) }

/-- How a whole expression is read. -/
abbrev Whole := Bool → Reader Int

/-- Computes a text apart from what is left. -/
def elsewhere (whole : Whole) (live : Bool) (text : Raw) : Reader Int := do
  if text.all isBlank then return 0
  else
    let before := (← get).rest
    setRest text
    let value ← whole live
    if !(← rest).isEmpty then expecting "EOF"
    setRest before
    return value

/-- The value of a variable. -/
def look (whole : Whole) (live : Bool) (name : Raw) : Reader Int := do
  let cursor ← get
  match cursor.assigned.find? (·.1 = name) with
  | some (_, n) => return n
  | none =>
    if !live then return 0
    else
      let text := (cursor.scope.value name).getD []
      if cursor.scope.dialect = .rich then elsewhere whole true text
      else
        match integer? text with
        | some n => return n
        | none => throw (.illegalNumber text)

/-- Reads the name of a variable, with the index of a member behind it. -/
def reference (whole : Whole) (live : Bool) : Reader (Option Raw) := do
  let text ← rest
  let name := if (text.headD ' ').isDigit then [] else text.takeWhile isNamePart
  if name = [] then return none
  else
    let behind := text.drop name.length
    setRest behind
    match ← isRich, behind with
    | true, '[' :: index =>
      match bracketed 0 index with
      | none => return some name
      | some (index, behind) =>
        setRest behind
        if (← get).scope.isKeyed name then return some (name ++ ['['] ++ index ++ [']'])
        else
          let n ← elsewhere whole live index
          return some (name ++ ['['] ++ Raw.ofInt n ++ [']'])
    | _, _ => return some name

/-- Reads an operand. -/
def operand (whole : Whole) : Nat → Bool → Reader Int
  | 0, _ => throw .tooDeep
  | steps + 1, live => do
    let text ← rest
    let rich ← isRich
    let stepped (by' : Int) : Reader Int := do
      skip 2
      match ← reference whole live with
      | some name =>
        let value := wrap ((← look whole live name) + by')
        assign live name value
        return value
      | none => expecting "primary"
    let isStep (c : Char) : Bool :=
      rich && text.take 2 = [c, c] && ((text.drop 2).dropWhile isBlank).head?.any isNameStart
    if isStep '+' then stepped 1
    else if isStep '-' then stepped (-1)
    else
      match text with
      | '-' :: _ =>
        skip 1
        return wrap (-(← operand whole steps live))
      | '+' :: _ =>
        skip 1
        operand whole steps live
      | '!' :: next =>
        if next.head? = some '=' then expecting "primary"
        else
          skip 1
          return truth ((← operand whole steps live) == 0)
      | '~' :: _ =>
        skip 1
        return -(← operand whole steps live) - 1
      | '(' :: _ =>
        skip 1
        let value ← whole live
        if (← rest).head? = some ')' then
          skip 1
          return value
        else expecting "')'"
      | c :: _ =>
        if c.isDigit then
          if rich then
            match richNumber text with
            | some (n, behind) =>
              setRest behind
              return wrap n
            | none => throw (.illegalNumber text)
          else
            let (n, behind) := number text
            setRest behind
            return saturated n
        else
          match ← reference whole live with
          | none => expecting "primary"
          | some name =>
            let value ← look whole live name
            let behind ← rest
            if rich && behind.take 2 = ['+', '+'] then
              skip 2
              assign live name (wrap (value + 1))
            else if rich && behind.take 2 = ['-', '-'] then
              skip 2
              assign live name (wrap (value - 1))
            return value
      | [] => expecting "primary"

/-- Reads an operand and the powers that it is raised to. -/
def raised (whole : Whole) : Nat → Bool → Reader Int
  | 0, _ => throw .tooDeep
  | steps + 1, live => do
    let base ← operand whole steps live
    let text ← rest
    if (← isRich) && text.take 2 = ['*', '*'] && (text.drop 2).head? != some '=' then
      skip 2
      let exponent ← raised whole steps live
      if live && exponent < 0 then throw (.expecting "exponent" (← rest))
      return power base exponent.toNat
    else return base

/-- Reads operators that bind at least so closely, and their operands. -/
def operations (whole : Whole) : Nat → Bool → Nat → Int → Reader Int
  | 0, _, _, _ => throw .tooDeep
  | steps + 1, live, level, left => do
    let text ← rest
    match operators.find? fun operator => operator.1.toList.isPrefixOf text with
    | none => return left
    | some (operator, closeness) =>
      if closeness < level || (3 ≤ closeness && (assignmentSign? text).isSome) then return left
      else
        skip operator.length
        let needed :=
          match operator with
          | "||" => left == 0
          | "&&" => left != 0
          | _ => true
        let right ← raised whole steps (live && needed)
        let right ← operations whole steps (live && needed) (closeness + 1) right
        let value ←
          if operator == "||" || operator == "&&" then pure (operate operator left right)
          else compute live operator left right
        operations whole steps live level value

/-- Reads an assignment, a choice, or what binds more closely. -/
def single (whole : Whole) : Nat → Bool → Reader Int
  | 0, _ => throw .tooDeep
  | steps + 1, live => do
    let before ← get
    let name? ← reference whole live
    let text ← rest
    match name?, assignmentSign? text with
    | some name, some operator =>
      skip (operator.length + 1)
      let right ← single whole steps live
      let value ←
        if operator = "" then pure right
        else compute live operator (← look whole live name) right
      assign live name value
      return value
    | _, _ =>
      set before
      let first ← raised whole steps live
      let condition ← operations whole steps live 1 first
      if (← rest).head? = some '?' then
        skip 1
        let yes ← whole (live && condition != 0)
        if (← rest).head? = some ':' then
          skip 1
          let no ← single whole steps (live && condition == 0)
          return if condition != 0 then yes else no
        else expecting "':'"
      else return condition

/-- Reads expressions in a row, of which the last one is the value. -/
def row (whole : Whole) : Nat → Bool → Reader Int
  | 0, _ => throw .tooDeep
  | steps + 1, live => do
    let first ← single whole steps live
    if (← isRich) && (← rest).head? = some ',' then
      skip 1
      row whole steps live
    else return first

/-- Reads an expression that is nested at most so deep. -/
def wholeWithin : Nat → Whole
  | 0 => fun _ => throw .tooDeep
  | depth + 1 => fun live => do row (wholeWithin depth) (2 * (← get).rest.length + 16) live

/-- The value of an expression, and the variables it assigns. In the richer dialect
an expression without anything in it is zero. -/
def evaluate (scope : Scope) (text : Raw) : Except Flaw (Int × List (Raw × Int)) :=
  if scope.dialect = .rich ∧ text.all isBlank then .ok (0, [])
  else
    let whole : Reader Int := do
      let value ← wholeWithin (text.length + 64) true
      if !(← rest).isEmpty then expecting "EOF"
      return value
    match whole { scope, rest := text } with
    | .ok n cursor => .ok (n, cursor.assigned.reverse)
    | .error flaw _ => .error flaw

/-- What is said of a flaw in an expression. -/
def Flaw.message (dialect : Dialect) (text : Raw) : Flaw → Raw
  | .expecting what rest =>
    if dialect = .rich then
      text ++ ": syntax error: operand expected (error token is \"".toList ++ rest ++ "\")".toList
    else
      "arithmetic expression: expecting ".toList ++ what.toList ++ ": \"".toList ++ text ++ ['"']
  | .divisionByZero rest =>
    if dialect = .rich then
      text ++ ": division by 0 (error token is \"".toList ++ rest ++ "\")".toList
    else "arithmetic expression: division by zero: \"".toList ++ text ++ ['"']
  | .illegalNumber number =>
    if dialect = .rich then
      number ++ ": value too great for base (error token is \"".toList ++ number ++ "\")".toList
    else "Illegal number: ".toList ++ number
  | .tooDeep => text ++ ": expression recursion level exceeded".toList

end Arithmetic

end Rehearsal

end InstallPlan
