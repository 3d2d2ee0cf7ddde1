import InstallPlan.Document.Basic
import InstallPlan.Text.Utf8

/-!
# Document — JSON

Reads a JSON text as a document. The reader walks over the octets of the text
with a cursor that knows its line and column, since every error names the
place where it was noticed: either right where the cursor stands, or one
octet ahead, past the octet that does not fit.

Values nest at most 127 deep. A number without fraction and exponent that
fits 64 bits is an integer; every other number is the product or quotient of
its leading digits and a power of ten, each rounded to the nearest binary
floating-point number.
-/

namespace InstallPlan

namespace Json

/-- What is wrong with a JSON text. -/
inductive Problem where
  | listUnclosed
  | objectUnclosed
  | textUnclosed
  | valueMissing
  | colonExpected
  | listEndExpected
  | objectEndExpected
  | wordExpected
  | valueExpected
  | escapeUnknown
  | numberMalformed
  | numberTooLarge
  | controlCharacter
  | keyNotText
  | surrogateAlone
  | commaTrailing
  | textTrailing
  | escapeCutOff
  | tooDeep
  deriving DecidableEq, Repr

/-- The wording of a problem. -/
def Problem.message : Problem → String
  | .listUnclosed => "EOF while parsing a list"
  | .objectUnclosed => "EOF while parsing an object"
  | .textUnclosed => "EOF while parsing a string"
  | .valueMissing => "EOF while parsing a value"
  | .colonExpected => "expected `:`"
  | .listEndExpected => "expected `,` or `]`"
  | .objectEndExpected => "expected `,` or `\x7d`"
  | .wordExpected => "expected ident"
  | .valueExpected => "expected value"
  | .escapeUnknown => "invalid escape"
  | .numberMalformed => "invalid number"
  | .numberTooLarge => "number out of range"
  | .controlCharacter => "control character (\\u0000-\\u001F) found while parsing a string"
  | .keyNotText => "key must be a string"
  | .surrogateAlone => "lone leading surrogate in hex escape"
  | .commaTrailing => "trailing comma"
  | .textTrailing => "trailing characters"
  | .escapeCutOff => "unexpected end of hex escape"
  | .tooDeep => "recursion limit exceeded"

/-- A problem and the place where it was noticed. -/
structure ReadError where
  problem : Problem
  line : Nat
  column : Nat
  deriving DecidableEq, Repr

/-- The wording of an error. -/
def ReadError.message (e : ReadError) : String :=
  s!"{e.problem.message} at line {e.line} column {e.column}"

/-! ## The cursor -/

/-- The octets still to be read, and the place reached: the line, and the number
of octets read of it. -/
structure Cursor where
  rest : Octets
  line : Nat
  column : Nat
  deriving DecidableEq, Repr

/-- The octet of an ASCII character. -/
def octet (c : Char) : UInt8 := c.toUInt8

namespace Cursor

/-- The start of a text. -/
def start (text : String) : Cursor := ⟨Utf8.encode text, 1, 0⟩

/-- The next octet, which stays where it is. -/
def peek (c : Cursor) : Option UInt8 := c.rest.head?

/-- One octet further, if there is one. -/
def skip (c : Cursor) : Cursor :=
  match c.rest with
  | [] => c
  | b :: rest =>
    if b = octet '\n' then ⟨rest, c.line + 1, 0⟩ else ⟨rest, c.line, c.column + 1⟩

/-- Some octets further. -/
def skipMany : Nat → Cursor → Cursor
  | 0, c => c
  | n + 1, c => skipMany n c.skip

/-- An error noticed where the cursor stands. -/
def failHere {α : Type} (c : Cursor) (problem : Problem) : Except ReadError α :=
  .error ⟨problem, c.line, c.column⟩

/-- An error noticed one octet ahead. -/
def failAhead {α : Type} (c : Cursor) (problem : Problem) : Except ReadError α :=
  c.skip.failHere problem

/-- Whether an octet separates tokens. -/
def isSpace (b : UInt8) : Bool :=
  b = octet ' ' || b = octet '\n' || b = octet '\t' || b = octet '\r'

/-- Past the spaces. -/
def skipSpaces (c : Cursor) : Cursor :=
  skipMany (c.rest.takeWhile isSpace).length c

end Cursor

/-! ## Words and numbers -/

/-- Reads the rest of a fixed word. -/
def readWord : List Char → Cursor → Except ReadError Cursor
  | [], c => .ok c
  | letter :: more, c =>
    match c.peek with
    | none => c.failHere .valueMissing
    | some b => if b = octet letter then readWord more c.skip else c.failAhead .wordExpected

/-- The value of a decimal digit. -/
def digit? (b : UInt8) : Option Nat :=
  if octet '0' ≤ b ∧ b ≤ octet '9' then some (b.toNat - 48) else none

/-- The run of digits at the start of some octets. -/
def digitRun : Octets → List Nat
  | [] => []
  | b :: rest =>
    match digit? b with
    | some d => d :: digitRun rest
    | none => []

/-- The run of digits at the cursor, and the cursor past it. -/
def readDigits (c : Cursor) : List Nat × Cursor :=
  let digits := digitRun c.rest
  (digits, c.skipMany digits.length)

/-- The first integer that does not fit 64 bits. -/
def integerBound : Nat := Nat.pow 2 64

/-- Collects integer digits: those that fit 64 bits, and the number of the rest. -/
def collectInteger : Nat → List Nat → Nat × Nat
  | value, [] => (value, 0)
  | value, d :: more =>
    if value * 10 + d < integerBound then collectInteger (value * 10 + d) more
    else (value, more.length + 1)

/-- Collects fraction digits onto a value as long as it fits 64 bits: the value,
and the number of digits taken. -/
def collectFraction : Nat → List Nat → Nat × Nat
  | value, [] => (value, 0)
  | value, d :: more =>
    if value * 10 + d < integerBound then
      let (value, taken) := collectFraction (value * 10 + d) more
      (value, taken + 1)
    else (value, 0)

/-- The first exponent that is too large to be counted. -/
def exponentBound : Nat := Nat.pow 2 31

/-- Collects exponent digits: their value, or the number of digits up to the one
that makes it too large. -/
def collectExponent : Nat → Nat → List Nat → Except Nat Nat
  | value, _, [] => .ok value
  | value, seen, d :: more =>
    if value * 10 + d < exponentBound then collectExponent (value * 10 + d) (seen + 1) more
    else .error (seen + 1)

/-- Brings an exponent into the range of the powers of ten, dividing by the
greatest of them; the steps bound the number of divisions. -/
def reduceExponent : Nat → Binary64 → Int → Binary64 × Int
  | 0, x, exponent => (x, exponent)
  | steps + 1, x, exponent =>
    if x.isZero ∨ -308 ≤ exponent then (x, exponent)
    else
      match (Binary64.ofDecimal? 1 308).bind x.div? with
      | some y => reduceExponent steps y (exponent + 308)
      | none => (x, exponent)

/-- The number nearest to the digits, scaled by a power of ten; nothing when it
is too large. -/
def assemble (digits : Nat) (exponent : Int) : Option Binary64 := do
  let x ← Binary64.ofDecimal? digits 0
  let (x, exponent) := reduceExponent 8 x exponent
  if x.isZero then some x
  else if 308 < exponent then none
  else if 0 ≤ exponent then (← Binary64.ofDecimal? 1 exponent) |> x.mul?
  else (← Binary64.ofDecimal? 1 (-exponent)) |> x.div?

/-- A number with a fraction or an exponent, or too large an integer. -/
def finishReal (negative : Bool) (digits : Nat) (exponent : Int) (c : Cursor) :
    Except ReadError (Numeral × Cursor) :=
  match assemble digits exponent with
  | some x => .ok (.real (x.withSign negative), c)
  | none => c.failHere .numberTooLarge

/-- Reads the exponent of a number, from its letter on. -/
def readExponent (negative : Bool) (digits : Nat) (exponent : Int) (c : Cursor) :
    Except ReadError (Numeral × Cursor) :=
  let c := c.skip
  let (down, c) :=
    if c.peek = some (octet '+') then (false, c.skip)
    else if c.peek = some (octet '-') then (true, c.skip)
    else (false, c)
  match c.peek with
  | none => c.failHere .valueMissing
  | some b =>
    match digit? b with
    | none => c.failAhead .numberMalformed
    | some _ =>
      let (run, past) := readDigits c
      match collectExponent 0 0 run with
      | .ok n => finishReal negative digits (if down then exponent - n else exponent + n) past
      | .error seen =>
        if digits ≠ 0 ∧ ¬ down then (c.skipMany seen).failHere .numberTooLarge
        else .ok (.real (Binary64.zero negative), past)

/-- Whether the cursor stands at the letter of an exponent. -/
def atExponent (c : Cursor) : Bool :=
  c.peek = some (octet 'e') || c.peek = some (octet 'E')

/-- Reads the fraction of a number, from its point on. -/
def readFraction (negative : Bool) (digits : Nat) (exponent : Int) (c : Cursor) :
    Except ReadError (Numeral × Cursor) :=
  let c := c.skip
  match readDigits c with
  | ([], c) => c.failAhead (if c.peek.isSome then .numberMalformed else .valueMissing)
  | (run, past) =>
    let (digits, taken) := collectFraction digits run
    let exponent := exponent - taken
    if atExponent past then readExponent negative digits exponent past
    else finishReal negative digits exponent past

/-- Reads a number, past its sign. -/
def readNumber (negative : Bool) (c : Cursor) : Except ReadError (Numeral × Cursor) :=
  match c.peek with
  | none => c.failHere .valueMissing
  | some b =>
    match digit? b with
    | none => c.failAhead .numberMalformed
    | some first =>
      let (run, past) := if first = 0 then ([0], c.skip) else readDigits c
      if first = 0 ∧ (past.peek.bind digit?).isSome then past.failAhead .numberMalformed
      else
        let (digits, dropped) := collectInteger 0 run
        if past.peek = some (octet '.') then readFraction negative digits dropped past
        else if atExponent past then readExponent negative digits dropped past
        else if dropped ≠ 0 then finishReal negative digits dropped past
        else if ¬ negative then .ok (.natural digits, past)
        else if digits = 0 ∨ Nat.pow 2 63 < digits then finishReal true digits 0 past
        else .ok (.negative digits, past)

/-! ## Texts -/

/-- The value of a hexadecimal digit. -/
def hexDigit? (b : UInt8) : Option Nat :=
  if octet '0' ≤ b ∧ b ≤ octet '9' then some (b.toNat - 48)
  else if octet 'a' ≤ b ∧ b ≤ octet 'f' then some (b.toNat - 87)
  else if octet 'A' ≤ b ∧ b ≤ octet 'F' then some (b.toNat - 55)
  else none

/-- Reads the four hexadecimal digits of an escape. -/
def readHex (c : Cursor) : Except ReadError (Nat × Cursor) :=
  let past := c.skipMany 4
  match c.rest with
  | b₁ :: b₂ :: b₃ :: b₄ :: _ =>
    match hexDigit? b₁, hexDigit? b₂, hexDigit? b₃, hexDigit? b₄ with
    | some h₁, some h₂, some h₃, some h₄ => .ok (((h₁ * 16 + h₂) * 16 + h₃) * 16 + h₄, past)
    | _, _, _, _ => past.failHere .escapeUnknown
  | _ => past.failHere .textUnclosed

/-- Expects one octet between the two halves of a surrogate pair. -/
def readBetweenHalves (expected : Char) (c : Cursor) : Except ReadError Cursor :=
  match c.peek with
  | none => c.failHere .textUnclosed
  | some b => if b = octet expected then .ok c.skip else c.failAhead .escapeCutOff

/-- Reads a character escape, past its letter. A leading surrogate has to be
followed by the escape of a trailing one. -/
def readCodeEscape (c : Cursor) : Except ReadError (Char × Cursor) := do
  let (code, c) ← readHex c
  if 0xDC00 ≤ code ∧ code ≤ 0xDFFF then c.failHere .surrogateAlone
  else if code < 0xD800 ∨ 0xDBFF < code then return (Char.ofNat code, c)
  else
    let c ← readBetweenHalves '\\' c
    let c ← readBetweenHalves 'u' c
    let (low, c) ← readHex c
    if low < 0xDC00 ∨ 0xDFFF < low then c.failHere .surrogateAlone
    else return (Char.ofNat ((code - 0xD800) * 0x400 + (low - 0xDC00) + 0x10000), c)

/-- The character of an escape of one letter. -/
def namedEscape? (b : UInt8) : Option Char :=
  [('"', '"'), ('\\', '\\'), ('/', '/'), ('b', '\x08'), ('f', '\x0C'), ('n', '\n'), ('r', '\r'),
    ('t', '\t')].findSome? fun (letter, c) => if b = octet letter then some c else none

/-- Reads an escape, past its backslash. -/
def readEscape (c : Cursor) : Except ReadError (Char × Cursor) :=
  match c.peek with
  | none => c.failHere .textUnclosed
  | some b =>
    if b = octet 'u' then readCodeEscape c.skip
    else
      match namedEscape? b with
      | some char => .ok (char, c.skip)
      | none => c.failAhead .escapeUnknown

/-- Reads the octets of a text up to its closing quote. -/
def readOctets : Nat → Octets → Cursor → Except ReadError (Octets × Cursor)
  | 0, _, c => c.failHere .textUnclosed
  | steps + 1, read, c =>
    match c.peek with
    | none => c.failHere .textUnclosed
    | some b =>
      if b = octet '"' then .ok (read.reverse, c.skip)
      else if b = octet '\\' then
        match readEscape c.skip with
        | .ok (char, c) => readOctets steps ((String.utf8EncodeChar char).reverse ++ read) c
        | .error e => .error e
      else if b < 0x20 then c.failAhead .controlCharacter
      else readOctets steps (b :: read) c.skip

/-- Reads a text, past its opening quote. -/
def readText (c : Cursor) : Except ReadError (String × Cursor) := do
  let (bytes, c) ← readOctets (c.rest.length + 1) [] c
  return (Utf8.decodeLossy bytes, c)

/-! ## Values -/

/-- Past the separator in front of a further element or entry: nothing at the
closing octet, and no separator in front of the first one. -/
def readSeparator (first : Bool) (close : Char) (unclosed noEnd : Problem) (c : Cursor) :
    Except ReadError (Option Cursor) :=
  let c := c.skipSpaces
  match c.peek with
  | none => c.failAhead unclosed
  | some b =>
    if b = octet close then .ok none
    else if first then .ok (some c)
    else if b = octet ',' then
      let c := c.skip.skipSpaces
      match c.peek with
      | none => c.failAhead .valueMissing
      | some b => if b = octet close then c.failAhead .commaTrailing else .ok (some c)
    else c.failAhead noEnd

/-- Reads the key of an entry and the colon after it. -/
def readKey (c : Cursor) : Except ReadError (String × Cursor) := do
  if c.peek = some (octet '"') then
    let (key, c) ← readText c.skip
    let c := c.skipSpaces
    match c.peek with
    | none => c.failAhead .objectUnclosed
    | some b => if b = octet ':' then return (key, c.skip) else c.failAhead .colonExpected
  else c.failAhead .keyNotText

mutual

/-- Reads a value that may open fewer levels than `depth`. -/
def readValue (depth : Nat) (c : Cursor) : Except ReadError (Document × Cursor) := do
  let c := c.skipSpaces
  match c.peek with
  | none => c.failAhead .valueMissing
  | some b =>
    if b = octet 'n' then return (.null, ← readWord "ull".toList c.skip)
    else if b = octet 't' then return (.boolean true, ← readWord "rue".toList c.skip)
    else if b = octet 'f' then return (.boolean false, ← readWord "alse".toList c.skip)
    else if b = octet '-' then
      let (n, c) ← readNumber true c.skip
      return (.number n, c)
    else if (digit? b).isSome then
      let (n, c) ← readNumber false c
      return (.number n, c)
    else if b = octet '"' then
      let (s, c) ← readText c.skip
      return (.text s, c)
    else if b = octet '[' then
      match depth with
      | 0 => c.failAhead .tooDeep
      | depth + 1 =>
        let (elements, c) ← readElements depth c.rest.length true c.skip
        return (.array elements, c)
    else if b = octet '\x7b' then
      match depth with
      | 0 => c.failAhead .tooDeep
      | depth + 1 =>
        let (entries, c) ← readEntries depth c.rest.length true [] c.skip
        return (.object entries, c)
    else c.failAhead .valueExpected
termination_by (depth, 0)

/-- Reads the elements of a list, and its closing bracket. -/
def readElements (depth steps : Nat) (first : Bool) (c : Cursor) :
    Except ReadError (List Document × Cursor) := do
  match steps with
  | 0 => c.failHere .listUnclosed
  | steps + 1 =>
    match ← readSeparator first ']' .listUnclosed .listEndExpected c with
    | none => return ([], c.skipSpaces.skip)
    | some c =>
      let (element, c) ← readValue depth c
      let (more, c) ← readElements depth steps false c
      return (element :: more, c)
termination_by (depth, steps + 1)

/-- Reads the entries of an object onto those read before, and its closing brace. -/
def readEntries (depth steps : Nat) (first : Bool) (entries : List (String × Document))
    (c : Cursor) : Except ReadError (List (String × Document) × Cursor) := do
  match steps with
  | 0 => c.failHere .objectUnclosed
  | steps + 1 =>
    match ← readSeparator first '\x7d' .objectUnclosed .objectEndExpected c with
    | none => return (entries, c.skipSpaces.skip)
    | some c =>
      let (key, c) ← readKey c
      let (value, c) ← readValue depth c
      readEntries depth steps false (Document.insertEntry key value entries) c
termination_by (depth, steps + 1)

end

/-- The number of levels that values may nest. -/
def maxDepth : Nat := 127

/-- Reads a JSON text. -/
def read (text : String) : Except ReadError Document := do
  let (document, c) ← readValue maxDepth (Cursor.start text)
  let c := c.skipSpaces
  if c.peek.isSome then c.failAhead .textTrailing else return document

end Json

end InstallPlan
