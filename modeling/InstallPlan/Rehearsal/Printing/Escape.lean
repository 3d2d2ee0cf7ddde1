import InstallPlan.Rehearsal.Raw
import InstallPlan.Text.Utf8

/-!
# Rehearsal — Escapes

A backslash and what follows it, standing for an octet that is hard to write.
Which escapes there are differs from place to place (`Escapes`).
-/

namespace InstallPlan

namespace Rehearsal

/-- The escapes that a place knows. -/
structure Escapes where
  /-- The letters, each with the character that it stands for. -/
  letters : List (Char × Char)
  /-- Whether up to three octal digits are a code. -/
  octal : Bool := true
  /-- Whether a zero may stand in front of three octal digits. -/
  zero : Bool := false
  /-- Whether an x and up to two digits are a code. -/
  hex : Bool := false
  /-- Whether `\u` and `\U` stand for characters by their number. -/
  unicode : Bool := false
  /-- Whether `\c` ends everything. -/
  ending : Bool := false
  /-- Whether a c and a character stand for a control character. -/
  control : Bool := false

namespace Escapes

/-- The letters that are known everywhere. -/
def common : List (Char × Char) := [
  ('\\', '\\'), ('a', '\x07'), ('b', '\x08'), ('f', '\x0C'), ('n', '\n'), ('r', '\r'),
  ('t', '\t'), ('v', '\x0B'), ('e', '\x1B')]

/-- Whether a character is an octal digit. -/
def isOctal (c : Char) : Bool := '0' ≤ c && c ≤ '7'

/-- The value of a digit. -/
def digitValue (c : Char) : Nat :=
  if c.isDigit then c.toNat - 48 else c.toLower.toNat - 87

/-- Whether a character is a digit to a base. -/
def isDigitTo (base : Nat) (c : Char) : Bool :=
  (c.isDigit || ('a' ≤ c.toLower && c.toLower ≤ 'z')) && digitValue c < base

/-- The number that digits stand for. -/
def ofDigits (base : Nat) (digits : Raw) : Nat :=
  digits.foldl (fun n c => n * base + digitValue c) 0

/-- The octet of a code. -/
def octet (code : Nat) : Raw := [Char.ofNat (code % 256)]

/-- What an escape stands for. -/
inductive Meaning where
  | text (text : Raw)
  /-- The end of everything. -/
  | ending

/-- The digits to a base at the beginning of a text, at most so many. -/
def digits (base most : Nat) (text : Raw) : Raw := (text.take most).takeWhile (isDigitTo base)

/-- What stands behind a backslash: its meaning, and how many characters it takes. -/
def meaning (escapes : Escapes) : Raw → Meaning × Nat
  | [] => (.text ['\\'], 0)
  | c :: more =>
    let numbered (base most : Nat) (f : Nat → Raw) : Meaning × Nat :=
      match digits base most more with
      | [] => (.text ['\\', c], 1)
      | found => (.text (f (ofDigits base found)), found.length + 1)
    let character (code : Nat) : Raw := Raw.ofText (String.ofList [Char.ofNat code])
    if c = 'c' ∧ escapes.ending then (.ending, 1)
    else if c = 'c' ∧ escapes.control then
      match more with
      | d :: _ => (.text (octet (d.toUpper.toNat ^^^ 64)), 2)
      | [] => (.text ['\\', 'c'], 1)
    else if c = '0' ∧ escapes.zero then
      let found := digits 8 3 more
      (.text (octet (ofDigits 8 found)), found.length + 1)
    else if isOctal c ∧ escapes.octal then
      let found := digits 8 3 (c :: more)
      (.text (octet (ofDigits 8 found)), found.length)
    else if c = 'x' ∧ escapes.hex then numbered 16 2 octet
    else if c = 'u' ∧ escapes.unicode then numbered 16 4 character
    else if c = 'U' ∧ escapes.unicode then numbered 16 8 character
    else
      match escapes.letters.find? (·.1 = c) with
      | some (_, d) => (.text [d], 1)
      | none => (.text ['\\', c], 1)

/-- A text with its escapes replaced, and whether one of them ends everything.
The first argument counts characters that belong to an escape. -/
def replace (escapes : Escapes) : Nat → Raw → Raw × Bool
  | _, [] => ([], false)
  | skipped + 1, _ :: more => replace escapes skipped more
  | 0, c :: more =>
    if c ≠ '\\' then
      let (text, ends) := replace escapes 0 more
      (c :: text, ends)
    else
      match escapes.meaning more with
      | (.ending, _) => ([], true)
      | (.text here, count) =>
        let (text, ends) := replace escapes count more
        (here ++ text, ends)

end Escapes

end Rehearsal

end InstallPlan
