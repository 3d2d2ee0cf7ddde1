import InstallPlan.Document.Toml.Scalar

/-!
# Document — TOML

Reads a TOML text as a table, statement by statement. A statement is one line:
an entry, a header, a comment, or nothing; only values in brackets, braces and
triple quotes extend over several lines.

Values in brackets and braces nest at most 80 deep, and a key has at most 80
parts. A text that is not TOML has no value; nothing is said about where it goes
wrong.
-/

namespace InstallPlan

namespace Toml

/-- A reader of the start of a text. -/
abbrev Reader (α : Type) := List Char → Option (α × List Char)

/-- Whether a character separates tokens of a line. -/
def isSpace (c : Char) : Bool := c = ' ' || c = '\t'

/-- Past the spaces. -/
def skipSpaces (cs : List Char) : List Char := cs.dropWhile isSpace

/-- Past the end of a line. -/
def skipBreak? : List Char → Option (List Char)
  | '\n' :: rest => some rest
  | '\r' :: '\n' :: rest => some rest
  | _ => none

/-- Whether a character may stand in a comment or a literal text. -/
def isPlain (c : Char) : Bool := c = '\t' || (' ' ≤ c && c ≠ '\x7F')

/-- Past a comment, if there is one. -/
def skipComment : List Char → List Char
  | '#' :: rest => rest.dropWhile isPlain
  | rest => rest

/-- Past the rest of a line without further tokens. -/
def skipLine? (cs : List Char) : Option (List Char) :=
  match skipComment (skipSpaces cs) with
  | [] => some []
  | rest => skipBreak? rest

/-- Past spaces, comments and line ends; the steps bound the number of lines. -/
def skipBlank : Nat → List Char → List Char
  | 0, cs => cs
  | steps + 1, cs =>
    let rest := skipComment (skipSpaces cs)
    match skipBreak? rest with
    | some rest => skipBlank steps rest
    | none => rest

/-- Past spaces, comments and line ends. -/
def skipBlanks (cs : List Char) : List Char := skipBlank cs.length cs

/-! ## Texts -/

/-- The character of some hexadecimal digits. -/
def character? (digits : List Char) : Option Char :=
  if digits.all fun c => digitValue c < 16 then
    let code := ofDigits 16 (digits.map digitValue)
    if code.isValidChar then some (Char.ofNat code) else none
  else none

/-- Reads the digits of a character. -/
def readCode (count : Nat) : Reader Char := fun cs =>
  if count ≤ cs.length then (character? (cs.take count)).map fun c => (c, cs.drop count)
  else none

/-- Reads an escape, past its backslash. -/
def readEscape : Reader Char
  | 'b' :: rest => some ('\x08', rest)
  | 't' :: rest => some ('\t', rest)
  | 'n' :: rest => some ('\n', rest)
  | 'f' :: rest => some ('\x0C', rest)
  | 'r' :: rest => some ('\r', rest)
  | 'e' :: rest => some ('\x1B', rest)
  | '"' :: rest => some ('"', rest)
  | '\\' :: rest => some ('\\', rest)
  | 'x' :: rest => readCode 2 rest
  | 'u' :: rest => readCode 4 rest
  | 'U' :: rest => readCode 8 rest
  | _ => none

/-- Reads a text of one line up to its double quote. -/
def readBasic : Nat → List Char → Reader String
  | 0, _, _ => none
  | _, read, '"' :: rest => some (String.ofList read.reverse, rest)
  | steps + 1, read, '\\' :: rest =>
    match readEscape rest with
    | some (c, rest) => readBasic steps (c :: read) rest
    | none => none
  | steps + 1, read, c :: rest => if isPlain c then readBasic steps (c :: read) rest else none
  | _, _, [] => none

/-- Reads a text of one line up to its single quote. -/
def readLiteral (cs : List Char) : Option (String × List Char) :=
  let content := cs.takeWhile (· ≠ '\'')
  match cs.dropWhile (· ≠ '\'') with
  | _ :: rest => if content.all isPlain then some (String.ofList content, rest) else none
  | [] => none

/-- Splits off the quotes that end a text of several lines: up to two of them
still belong to it. -/
def closing? (quote : Char) (cs : List Char) : Option (Nat × List Char) :=
  let run := (cs.takeWhile (· = quote)).length
  if run < 3 then none else some (min run 5 - 3, cs.drop (min run 5))

/-- Past spaces and breaks. -/
def skipSpacesAndBreaks : List Char → List Char
  | '\r' :: '\n' :: rest => skipSpacesAndBreaks rest
  | c :: rest => if isSpace c ∨ c = '\n' then skipSpacesAndBreaks rest else c :: rest
  | [] => []

/-- Past a backslash at the end of a line and all that is blank behind it. -/
def skipContinuation? (cs : List Char) : Option (List Char) :=
  (skipBreak? (skipSpaces cs)).map skipSpacesAndBreaks

/-- Reads a text of several lines up to three quotes. -/
def readLong (quote : Char) : Nat → List Char → Reader String
  | 0, _, _ => none
  | steps + 1, read, cs =>
    match closing? quote cs with
    | some (count, rest) =>
      some (String.ofList (read.reverse ++ List.replicate count quote), rest)
    | none =>
      match cs with
      | [] => none
      | '\r' :: '\n' :: rest => readLong quote steps ('\n' :: '\r' :: read) rest
      | c :: rest =>
        if c = '\\' ∧ quote = '"' then
          match skipContinuation? rest with
          | some rest => readLong quote steps read rest
          | none =>
            match readEscape rest with
            | some (c, rest) => readLong quote steps (c :: read) rest
            | none => none
        else if c = '\n' ∨ isPlain c then readLong quote steps (c :: read) rest
        else none

/-- Past the line end right after three quotes. -/
def skipFirstBreak (cs : List Char) : List Char := (skipBreak? cs).getD cs

/-- Reads a text in quotes of any kind. -/
def readText : Reader String
  | '"' :: '"' :: '"' :: rest => readLong '"' (rest.length + 1) [] (skipFirstBreak rest)
  | '\'' :: '\'' :: '\'' :: rest => readLong '\'' (rest.length + 1) [] (skipFirstBreak rest)
  | '"' :: rest => readBasic (rest.length + 1) [] rest
  | '\'' :: rest => readLiteral rest
  | _ => none

/-! ## Keys -/

/-- Whether a character may stand in a key without quotes. -/
def isBare (c : Char) : Bool := c.isAlphanum || c = '_' || c = '-'

/-- Reads one part of a key. -/
def readKeyPart : Reader String
  | '"' :: rest => readBasic (rest.length + 1) [] rest
  | '\'' :: rest => readLiteral rest
  | cs =>
    let part := cs.takeWhile isBare
    if part = [] then none else some (String.ofList part, cs.dropWhile isBare)

/-- The number of levels that values may nest, and the number of parts that a
key may have. -/
def maxDepth : Nat := 80

/-- Reads so many parts of a key at most, with dots in between, and the spaces
after them. -/
def readKeyParts : Nat → Reader (List String)
  | 0, _ => none
  | room + 1, cs =>
    match readKeyPart (skipSpaces cs) with
    | none => none
    | some (part, rest) =>
      match skipSpaces rest with
      | '.' :: rest => (readKeyParts room rest).map fun (parts, rest) => (part :: parts, rest)
      | rest => some ([part], rest)

/-- Reads a key, and the spaces after it. -/
def readKey : Reader (List String) := readKeyParts maxDepth

/-- Splits a key into its path and its last part. -/
def splitKey (parts : List String) : List String × String := (parts.dropLast, parts.getLastD "")

/-! ## Values -/

/-- Whether a character may stand in a bare word. -/
def isWordPart (c : Char) : Bool :=
  c.isAlphanum || c = '_' || c = '-' || c = '+' || c = '.' || c = ':'

/-- Reads a bare word. A space between a date and a time belongs to it. -/
def readWord (cs : List Char) : Option (Value × List Char) :=
  let word := cs.takeWhile isWordPart
  let rest := cs.dropWhile isWordPart
  match rest with
  | ' ' :: c :: more =>
    if c.isDigit ∧ skipDate? word = some [] then
      let more := c :: more
      (scalar? (word ++ ' ' :: more.takeWhile isWordPart)).map (·, more.dropWhile isWordPart)
    else (scalar? word).map (·, rest)
  | _ => (scalar? word).map (·, rest)

mutual

/-- Reads a value that may open so many levels. -/
def readValue : Nat → Nat → Reader Value
  | 0, _, _ => none
  | steps + 1, depth, cs =>
    match cs, depth with
    | '[' :: rest, depth + 1 =>
      (readElements steps depth (skipBlanks rest)).map fun (elements, rest) =>
        (.list elements, rest)
    | '\x7b' :: rest, depth + 1 =>
      (readInline steps depth [] (skipBlanks rest)).map fun (entries, rest) =>
        (.table .braces entries, rest)
    | '"' :: _, _ | '\'' :: _, _ => (readText cs).map fun (s, rest) => (.text s, rest)
    | _, _ => readWord cs

/-- Reads the elements of a list, and its closing bracket. -/
def readElements : Nat → Nat → Reader (List Value)
  | 0, _, _ => none
  | _, _, ']' :: rest => some ([], rest)
  | steps + 1, depth, cs =>
    match readValue steps depth cs with
    | none => none
    | some (element, rest) =>
      match skipBlanks rest with
      | ',' :: rest =>
        (readElements steps depth (skipBlanks rest)).map fun (more, rest) =>
          (element :: more, rest)
      | ']' :: rest => some ([element], rest)
      | _ => none

/-- Reads the entries of a table in braces, and its closing brace. -/
def readInline : Nat → Nat → Entries → Reader Entries
  | 0, _, _, _ => none
  | _, _, entries, '\x7d' :: rest => some (entries, rest)
  | steps + 1, depth, entries, cs =>
    match readEntry steps depth entries cs with
    | none => none
    | some (entries, rest) =>
      match skipBlanks rest with
      | ',' :: rest => readInline steps depth entries (skipBlanks rest)
      | '\x7d' :: rest => some (entries, rest)
      | _ => none

/-- Reads an entry onto those of a table. -/
def readEntry : Nat → Nat → Entries → Reader Entries
  | 0, _, _, _ => none
  | steps + 1, depth, entries, cs =>
    match readKey cs with
    | some (parts, '=' :: rest) =>
      match readValue steps depth (skipSpaces rest) with
      | none => none
      | some (value, rest) =>
        let (path, key) := splitKey parts
        (addBelow path key value entries).map (·, rest)
    | _ => none

end

/-! ## Statements -/

/-- A statement of a text. -/
inductive Statement where
  | entry (path : List String) (key : String) (value : Value)
  | header (path : List String) (key : String)
  | repeated (path : List String) (key : String)

/-- Reads a statement, up to the rest of its line. -/
def readStatement (cs : List Char) : Option (Statement × List Char) :=
  match cs with
  | '[' :: '[' :: rest =>
    match readKey rest with
    | some (parts, ']' :: ']' :: rest) =>
      let (path, key) := splitKey parts
      some (.repeated path key, rest)
    | _ => none
  | '[' :: rest =>
    match readKey rest with
    | some (parts, ']' :: rest) =>
      let (path, key) := splitKey parts
      some (.header path key, rest)
    | _ => none
  | cs =>
    match readKey cs with
    | some (parts, '=' :: rest) =>
      let (path, key) := splitKey parts
      (readValue (2 * cs.length + 4) maxDepth (skipSpaces rest)).map fun (value, rest) =>
        (.entry path key value, rest)
    | _ => none

/-- The table under construction, and the path of the header that is open. -/
structure Draft where
  root : Entries := []
  header : List String := []

/-- A draft after one more statement. -/
def Draft.extend (draft : Draft) : Statement → Option Draft
  | .entry path key value =>
    (changeAt (addBelow path key value) draft.header draft.root).map fun root =>
      { draft with root }
  | .header path key =>
    (changeAt (openTable key) path draft.root).map fun root => ⟨root, path ++ [key]⟩
  | .repeated path key =>
    (changeAt (openRepeated key) path draft.root).map fun root => ⟨root, path ++ [key]⟩

/-- Reads the statements of a text onto a draft. -/
def readStatements : Nat → Draft → List Char → Option Entries
  | 0, _, _ => none
  | steps + 1, draft, cs =>
    match skipBlanks cs with
    | [] => some draft.root
    | cs =>
      match readStatement cs with
      | none => none
      | some (statement, rest) =>
        match draft.extend statement, skipLine? rest with
        | some draft, some rest => readStatements steps draft rest
        | _, _ => none

/-- Reads a TOML text. A byte order mark in front of it counts for nothing. -/
def read? (text : String) : Option Entries :=
  let cs := text.toList
  let cs := if cs.head? = some '\uFEFF' then cs.drop 1 else cs
  readStatements (cs.length + 1) {} cs

/-- Reads a TOML text as a document. -/
def readDocument? (text : String) : Option Document :=
  (read? text).map fun entries => (Value.table .header entries).toDocument

end Toml

end InstallPlan
