import InstallPlan.Rehearsal.Printing.Escape
import InstallPlan.Rehearsal.Regex.Basic

/-!
# Rehearsal — Reading regular expressions

The two ways to write regular expressions. In the basic one, groups, bounds and
choices are written with a backslash; in the extended one, without.
-/

namespace InstallPlan

namespace Rehearsal

namespace Regex

/-- What can be wrong with a written expression. -/
inductive Flaw where
  | openGroup
  | strayClose
  | openBrackets
  | openBounds
  | badBounds
  | trailingBackslash
  | badReference
  | nothingToRepeat
  | badClass
  | badRange
  deriving DecidableEq

/-- The wording of what is wrong. -/
def Flaw.message : Flaw → String
  | .openGroup => "Unmatched ( or \\("
  | .strayClose => "Unmatched ) or \\)"
  | .openBrackets => "Unmatched [, [^, [:, [., or [="
  | .openBounds => "Unmatched \\\x7B"
  | .badBounds => "Invalid content of \\\x7B\\\x7D"
  | .trailingBackslash => "Trailing backslash"
  | .badReference => "Invalid back reference"
  | .nothingToRepeat => "Invalid preceding regular expression"
  | .badClass => "Invalid character class name"
  | .badRange => "Invalid range end"

/-- How expressions are written. -/
structure Dialect where
  extended : Bool
  /-- Whether a backslash in brackets takes away the meaning of a character. -/
  bracketEscapes : Bool := false
  /-- Whether escapes stand for characters. -/
  escapes : Bool := false
  /-- Whether letters behind a backslash stand for words and their borders. -/
  words : Bool := true
  /-- Whether braces say how often something is repeated. -/
  bounds : Bool := true
  /-- Whether a sign of repetition in front stands for itself. -/
  leadingSigns : Bool := !extended
  /-- Whether a letter behind a backslash stands for the digits. -/
  digits : Bool := false
  /-- Whether a repetition can be repeated. -/
  repeatsTwice : Bool := true

/-- An expression that was read, what follows it, and the number of groups so
far. -/
abbrev Part := Except Flaw (Regex × Raw × Nat)

/-- The next member of brackets: a character, or the ranges of a class. -/
def member (dialect : Dialect) : Raw → Except Flaw ((Char ⊕ Ranges) × Raw)
  | [] => .error .openBrackets
  | '[' :: ':' :: more =>
    let name := more.takeWhile Char.isAlpha
    match more.drop name.length with
    | ':' :: ']' :: rest =>
      match Ranges.ofClass? name with
      | some ranges => .ok (.inr ranges, rest)
      | none => .error .badClass
    | _ => .ok (.inl '[', ':' :: more)
  | '[' :: '=' :: c :: '=' :: ']' :: rest | '[' :: '.' :: c :: '.' :: ']' :: rest =>
    .ok (.inl c, rest)
  | '\\' :: c :: more =>
    if dialect.bracketEscapes then
      match Escapes.common.find? (·.1 = c) with
      | some (_, d) => .ok (.inl d, more)
      | none => .ok (.inl c, more)
    else .ok (.inl '\\', c :: more)
  | c :: more => .ok (.inl c, more)

/-- The members of brackets behind the opening one, and what follows the closing
one. The first member may be a closing bracket. -/
def members (dialect : Dialect) : Nat → Bool → Raw → Except Flaw (Ranges × Raw)
  | 0, _, _ => .error .openBrackets
  | _, false, ']' :: rest => .ok ([], rest)
  | steps + 1, _, text =>
    match member dialect text with
    | .error e => .error e
    | .ok (.inr ranges, rest) =>
      (members dialect steps false rest).map fun (more, rest) => (ranges ++ more, rest)
    | .ok (.inl low, '-' :: rest) =>
      match rest with
      | ']' :: _ =>
        (members dialect steps false ('-' :: rest)).map fun (more, rest) =>
          ((low, low) :: more, rest)
      | _ =>
        match member dialect rest with
        | .ok (.inl high, rest) =>
          if high < low then .error .badRange
          else
            (members dialect steps false rest).map fun (more, rest) => ((low, high) :: more, rest)
        | .ok (.inr _, _) => .error .badRange
        | .error e => .error e
    | .ok (.inl c, rest) =>
      (members dialect steps false rest).map fun (more, rest) => ((c, c) :: more, rest)

/-- Brackets behind the opening one. -/
def brackets (dialect : Dialect) (text : Raw) : Except Flaw (Regex × Raw) :=
  let (inverted, text) : Bool × Raw :=
    match text with
    | '^' :: more => (true, more)
    | _ => (false, text)
  (members dialect (text.length + 1) true text).map fun (ranges, rest) =>
    (.among inverted ranges, rest)

/-- What a letter behind a backslash stands for, apart from groups and bounds. -/
def letter? (dialect : Dialect) (c : Char) : Option Regex :=
  if !dialect.words then none
  else
    match c with
    | 'w' => some (.among false Ranges.word)
    | 'W' => some (.among true Ranges.word)
    | 's' => some (.among false [(' ', ' '), ('\t', '\r')])
    | 'S' => some (.among true [(' ', ' '), ('\t', '\r')])
    | 'b' => some (.border false false false)
    | 'B' => some (.border true false false)
    | '<' => some (.border false true false)
    | '>' => some (.border false false true)
    | 'd' => if dialect.digits then some (.among false [('0', '9')]) else none
    | 'D' => if dialect.digits then some (.among true [('0', '9')]) else none
    | '\x60' => some .start
    | '\x27' => some .stop
    | _ => none

/-- Bounds behind the opening brace; nothing if they are none. -/
def bounds? (dialect : Dialect) (text : Raw) : Option ((Nat × Option Nat) × Raw) :=
  let ending : Raw := if dialect.extended then ['\x7D'] else ['\\', '\x7D']
  let number (digits : Raw) : Nat := Escapes.ofDigits 10 digits
  let low := text.takeWhile Char.isDigit
  let rest := text.drop low.length
  let closed (bounds : Nat × Option Nat) (rest : Raw) : Option ((Nat × Option Nat) × Raw) :=
    if ending.isPrefixOf rest then some (bounds, rest.drop ending.length) else none
  match rest with
  | ',' :: more =>
    let high := more.takeWhile Char.isDigit
    closed (number low, if high = [] then none else some (number high)) (more.drop high.length)
  | _ => if low = [] then none else closed (number low, some (number low)) rest

/-- Whether a written choice or the end of a group comes next. -/
def atBranchEnd (dialect : Dialect) (inGroup : Bool) : Raw → Bool
  | [] => true
  | '|' :: _ => dialect.extended
  | ')' :: _ => dialect.extended && inGroup
  | '\\' :: '|' :: _ => !dialect.extended
  | '\\' :: ')' :: _ => !dialect.extended
  | _ => false

/-- What repeats an expression, and what follows; nothing if the expression is
not repeated. -/
def repetition? (dialect : Dialect) (text : Raw) : Except Flaw (Option ((Nat × Option Nat) × Raw)) :=
  let bounded (text : Raw) : Except Flaw (Option ((Nat × Option Nat) × Raw)) :=
    match bounds? dialect text with
    | some ((low, high), rest) =>
      if high.any (· < low) ∨ 32767 < low then .error .badBounds
      else .ok (some ((low, high), rest))
    | none =>
      if dialect.extended then .ok none
      else if text.contains '\x7D' then .error .badBounds
      else .error .openBounds
  match text with
  | '*' :: rest => .ok (some ((0, none), rest))
  | '+' :: rest => .ok (if dialect.extended then some ((1, none), rest) else none)
  | '?' :: rest => .ok (if dialect.extended then some ((0, some 1), rest) else none)
  | '\x7B' :: rest => if dialect.extended && dialect.bounds then bounded rest else .ok none
  | '\\' :: '+' :: rest => .ok (if dialect.extended then none else some ((1, none), rest))
  | '\\' :: '?' :: rest => .ok (if dialect.extended then none else some ((0, some 1), rest))
  | '\\' :: '\x7B' :: rest => if dialect.extended then .ok none else bounded rest
  | _ => .ok none

/-- An expression with the repetitions behind it. -/
def withRepetitions (dialect : Dialect) : Nat → Regex → Raw → Except Flaw (Regex × Raw)
  | 0, regex, text => .ok (regex, text)
  | steps + 1, regex, text =>
    match repetition? dialect text with
    | .error e => .error e
    | .ok none => .ok (regex, text)
    | .ok (some ((low, high), rest)) =>
      let isBad := !dialect.repeatsTwice && (rest.head? = some '*' || rest.take 2 = ['\\', '\x7B'])
      if isBad then .error .nothingToRepeat
      else withRepetitions dialect steps (.repeated regex low high) rest

mutual

/-- Reads choices. -/
def choices (dialect : Dialect) : Nat → Bool → Nat → Raw → Part
  | 0, _, _, _ => .error .openGroup
  | steps + 1, inGroup, count, text => do
    let (first, rest, count) ← branch dialect steps inGroup true count text
    let next : Option Raw :=
      match rest with
      | '|' :: more => if dialect.extended then some more else none
      | '\\' :: '|' :: more => if dialect.extended then none else some more
      | _ => none
    match next with
    | none => return (first, rest, count)
    | some more =>
      let (second, rest, count) ← choices dialect steps inGroup count more
      return (.either first second, rest, count)

/-- Reads expressions that follow one another. -/
def branch (dialect : Dialect) : Nat → Bool → Bool → Nat → Raw → Part
  | 0, _, _, _, _ => .error .openGroup
  | steps + 1, inGroup, first, count, text => do
    if atBranchEnd dialect inGroup text then return (.empty, text, count)
    else
      let (regex, rest, count) ← single dialect steps inGroup first count text
      let (regex, rest) ←
        match regex with
        | .start => if dialect.extended then withRepetitions dialect steps regex rest
                    else pure (regex, rest)
        | _ => withRepetitions dialect steps regex rest
      let isStart := !dialect.extended && regex matches .start
      let (more, rest, count) ← branch dialect steps inGroup (first && isStart) count rest
      return (.both regex more, rest, count)

/-- Reads one expression. -/
def single (dialect : Dialect) : Nat → Bool → Bool → Nat → Raw → Part
  | 0, _, _, _, _ => .error .openGroup
  | steps + 1, inGroup, first, count, text =>
    let grouped (rest : Raw) : Part := do
      let (body, rest, inner) ← choices dialect steps true (count + 1) rest
      match rest with
      | ')' :: rest => if dialect.extended then return (.group (count + 1) body, rest, inner)
                       else throw .openGroup
      | '\\' :: ')' :: rest => return (.group (count + 1) body, rest, inner)
      | _ => throw .openGroup
    let isEnd (rest : Raw) : Bool := dialect.extended || atBranchEnd dialect inGroup rest
    match text with
    | [] => .ok (.empty, [], count)
    | '.' :: rest => .ok (.among true [], rest, count)
    | '[' :: rest => (brackets dialect rest).map fun (regex, rest) => (regex, rest, count)
    | '^' :: rest =>
      if dialect.extended || first then .ok (.start, rest, count) else .ok (char '^', rest, count)
    | '$' :: rest => if isEnd rest then .ok (.stop, rest, count) else .ok (char '$', rest, count)
    | '*' :: rest =>
      if dialect.leadingSigns then .ok (char '*', rest, count) else .error .nothingToRepeat
    | '(' :: rest => if dialect.extended then grouped rest else .ok (char '(', rest, count)
    | ')' :: rest => if dialect.extended then .error .strayClose else .ok (char ')', rest, count)
    | '\\' :: '(' :: rest =>
      if dialect.extended then .ok (char '(', rest, count) else grouped rest
    | '\\' :: '\x7B' :: rest =>
      if dialect.extended then .ok (char '\x7B', rest, count) else .error .nothingToRepeat
    | ['\\'] => .error .trailingBackslash
    | '\\' :: c :: rest =>
      if c.isDigit ∧ c ≠ '0' ∧ dialect.words then
        if Escapes.digitValue c ≤ count then .ok (.again (Escapes.digitValue c), rest, count)
        else .error .badReference
      else
        match letter? dialect c with
        | some regex => .ok (regex, rest, count)
        | none =>
          if dialect.escapes then
            match Escapes.meaning { letters := Escapes.common } (c :: rest) with
            | (.text [d], used) => .ok (char d, (c :: rest).drop used, count)
            | _ => .ok (char c, rest, count)
          else .ok (char c, rest, count)
    | c :: rest =>
      if dialect.extended ∧ (c = '+' ∨ c = '?') ∧ !dialect.leadingSigns then
        .error .nothingToRepeat
      else .ok (char c, rest, count)

end

/-- Reads a regular expression. -/
def read (dialect : Dialect) (text : Raw) : Except Flaw Regex :=
  match choices dialect (4 * text.length + 8) false 0 text with
  | .error e => .error e
  | .ok (regex, [], _) => .ok regex
  | .ok (_, _ :: _, _) => .error .strayClose

/-- The expression that matches a text as it stands. -/
def literal : Raw → Regex
  | [] => .empty
  | c :: rest => .both (char c) (literal rest)

end Regex

end Rehearsal

end InstallPlan
