import InstallPlan.Rehearsal.Printing.Real

/-!
# Rehearsal — Tokens of programs about records

Divides a program into numbers, texts, expressions, names and signs. A slash begins
an expression unless something stands in front of it that can be divided.
-/

namespace InstallPlan

namespace Rehearsal

namespace Records

/-- A token. -/
inductive Token where
  | number (value : Real)
  | text (text : Raw)
  | regex (written : Raw)
  | name (name : Raw)
  /-- A name with a bracket right behind it. -/
  | call (name : Raw)
  | keyword (name : String)
  | builtin (name : String)
  | sign (sign : String)
  | newline
  deriving DecidableEq

/-- What can be wrong with a program. -/
inductive Flaw where
  | runawayText (text : Raw)
  | runawayRegex (text : Raw)
  | unexpected (token : Raw)
  | tooShort
  | unknownFunction (name : Raw)

/-- A token and the number of its line. -/
structure Placed where
  token : Token
  line : Nat

namespace Token

/-- The words that have a meaning of their own. -/
def keywords : List String :=
  ["BEGIN", "END", "function", "if", "else", "while", "for", "do", "break", "continue", "next",
    "nextfile", "exit", "return", "delete", "in", "getline", "print", "printf"]

/-- The functions that are known everywhere. -/
def builtins : List String :=
  ["length", "substr", "index", "split", "sub", "gsub", "match", "sprintf", "sin", "cos", "atan2",
    "exp", "log", "sqrt", "int", "rand", "srand", "tolower", "toupper", "system", "close", "fflush",
    "systime", "mktime", "strftime"]

/-- The signs, the longer ones first. -/
def signs : List String :=
  ["&&", "||", "==", "!=", "<=", ">=", "++", "--", "+=", "-=", "*=", "/=", "%=", "^=", ">>", "!~",
    "\x7B", "\x7D", "(", ")", "[", "]", ";", ",", "+", "-", "*", "/", "%", "^", "!", ">", "<", "|", "?",
    ":", "~", "$", "="]

/-- How a token is written. -/
def written : Token → Raw
  | number value =>
    match value with
    | .finite _ m e => Real.generalDigits 6 m e false
    | _ => "inf".toList
  | text t => '"' :: t ++ ['"']
  | regex t => '/' :: t ++ ['/']
  | name n | call n => n
  | keyword k | builtin k => k.toList
  | sign s => s.toList
  | newline => ['\n']

/-- Whether a slash behind a token divides. -/
def isOperand : Token → Bool
  | number _ | text _ | regex _ | name _ | builtin _ => true
  | sign s => s = ")" || s = "]" || s = "$" || s = "++" || s = "--"
  | _ => false

/-- A text up to the quote that ends it, and what follows, in at most so many
steps. -/
def textUpTo : Nat → Raw → Option (Raw × Raw)
  | 0, _ => none
  | _, [] | _, '\n' :: _ => none
  | _, '"' :: rest => some ([], rest)
  | steps + 1, '\\' :: rest =>
    match rest with
    | '"' :: more => (textUpTo steps more).map fun (t, rest) => ('"' :: t, rest)
    | '/' :: more => (textUpTo steps more).map fun (t, rest) => ('\\' :: '/' :: t, rest)
    | '\n' :: more => textUpTo steps more
    | c :: more =>
      let digits := Escapes.digits 8 3 rest
      if digits ≠ [] then
        (textUpTo steps (rest.drop digits.length)).map fun (t, rest) =>
          (Escapes.octet (Escapes.ofDigits 8 digits) ++ t, rest)
      else
        match Escapes.common.find? (·.1 = c) with
        | some (_, d) =>
          if c = 'e' then (textUpTo steps more).map fun (t, rest) => ('\\' :: c :: t, rest)
          else (textUpTo steps more).map fun (t, rest) => (d :: t, rest)
        | none => (textUpTo steps more).map fun (t, rest) => ('\\' :: c :: t, rest)
    | [] => none
  | steps + 1, c :: rest => (textUpTo steps rest).map fun (t, rest) => (c :: t, rest)

/-- An expression up to the slash that ends it, and what follows, in at most so many
steps. -/
def regexUpTo : Nat → Bool → Raw → Option (Raw × Raw)
  | 0, _, _ => none
  | _, _, [] | _, _, '\n' :: _ => none
  | steps + 1, inBrackets, '\\' :: c :: rest =>
    (regexUpTo steps inBrackets rest).map fun (t, rest) =>
      (if c = '/' then '/' :: t else '\\' :: c :: t, rest)
  | steps + 1, inBrackets, c :: rest =>
    if c = '/' ∧ !inBrackets then some ([], rest)
    else
      match c, rest with
      | '[', '^' :: ']' :: more =>
        (regexUpTo steps true more).map fun (t, rest) => ('[' :: '^' :: ']' :: t, rest)
      | '[', ']' :: more => (regexUpTo steps true more).map fun (t, rest) => ('[' :: ']' :: t, rest)
      | _, _ =>
        let inBrackets := if c = '[' then true else if c = ']' then false else inBrackets
        (regexUpTo steps inBrackets rest).map fun (t, rest) => (c :: t, rest)

/-- Divides a program into tokens, in at most so many steps. -/
def readAll : Nat → Nat → Option Token → Raw → Except (Flaw × Nat) (List Placed)
  | 0, _, _, _ => .ok []
  | _, _, _, [] => .ok []
  | steps + 1, line, before, c :: rest =>
    let add (token : Token) (rest : Raw) : Except (Flaw × Nat) (List Placed) :=
      (readAll steps line (some token) rest).map fun more => ⟨token, line⟩ :: more
    if c = ' ' ∨ c = '\t' ∨ c = '\r' then readAll steps line before rest
    else if c = '\n' then
      (readAll steps (line + 1) (some .newline) rest).map fun more => ⟨.newline, line⟩ :: more
    else if c = '\\' ∧ rest.head? = some '\n' then readAll steps (line + 1) before (rest.drop 1)
    else if c = '#' then readAll steps line before (rest.dropWhile (· ≠ '\n'))
    else if c = '"' then
      match textUpTo (rest.length + 1) rest with
      | some (inner, rest) => add (.text inner) rest
      | none => .error (.runawayText (rest.takeWhile (· ≠ '\n')), line)
    else if c = '/' ∧ !(before.any isOperand) then
      match regexUpTo (rest.length + 1) false rest with
      | some (inner, rest) => add (.regex inner) rest
      | none => .error (.runawayRegex (rest.takeWhile (· ≠ '\n')), line)
    else if c.isDigit ∨ (c = '.' ∧ (rest.headD ' ').isDigit) then
      match Real.digitsOf 10 (c :: rest) with
      | (whole, part, behind) =>
        let (exponent, behind) := Real.exponentPart 'e' behind
        let digits := Escapes.ofDigits 10 (whole ++ part)
        let scale : Int := exponent - (part.length : Int)
        let value :=
          if scale < 0 then Real.ofFraction 53 false digits (Nat.pow 10 (-scale).toNat)
          else Real.ofFraction 53 false (digits * Nat.pow 10 scale.toNat) 1
        add (.number value) behind
    else if c.isAlpha ∨ c = '_' then
      let name := c :: rest.takeWhile fun d => d.isAlphanum || d = '_'
      let rest := rest.drop (name.length - 1)
      let text := String.ofList name
      if keywords.contains text then add (.keyword text) rest
      else if builtins.contains text then add (.builtin text) rest
      else if rest.head? = some '(' then add (.call name) rest
      else add (.name name) rest
    else
      match signs.find? fun s => s.toList.isPrefixOf (c :: rest) with
      | some s => add (.sign s) ((c :: rest).drop s.length)
      | none => .error (.unexpected [c], line)

/-- The tokens of a program. -/
def ofText (text : Raw) : Except (Flaw × Nat) (List Placed) :=
  readAll (text.length + 1) 1 none text

end Token

end Records

end Rehearsal

end InstallPlan
