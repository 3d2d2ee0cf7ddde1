import InstallPlan.Rehearsal.Script.Command
import InstallPlan.Text.Name

/-!
# Rehearsal — Reading scripts

What a reader of a script keeps in mind: what is left to read and on which line,
the token that was read last, the here-documents that are still to come, and the
aliases that stand for other text. What a reader can find wrong is a `Flaw`.
-/

namespace InstallPlan

namespace Rehearsal

namespace Script

/-- A here-document that a redirection has announced. -/
structure Awaited where
  number : Nat
  ending : Raw
  dropsTabs : Bool
  literal : Bool

/-- The smallest part of a script that has a meaning of its own. -/
inductive Token where
  | finish
  | break
  /-- A sign that ends or joins commands. -/
  | sign (text : String)
  /-- A redirection: the number in front of it, and its sign. -/
  | redirection (channel : Option Nat) (sign : String)
  | word (word : Word)
  /-- A word that the grammar gives a meaning of its own. -/
  | keyword (text : String)

namespace Token

/-- Whether a token is a given sign. -/
def isSign (token : Token) (text : String) : Bool :=
  match token with
  | .sign t => t == text
  | _ => false

/-- Whether a token is a given keyword. -/
def isKeyword (token : Token) (text : String) : Bool :=
  match token with
  | .keyword t => t == text
  | _ => false

/-- The name of a token in a complaint. -/
def name : Token → Raw
  | .finish => "end of file".toList
  | .break => "newline".toList
  | .sign text | .keyword text => '"' :: text.toList ++ ['"']
  | .redirection _ _ => "redirection".toList
  | .word _ => "word".toList

end Token

/-- What a reader can find wrong. -/
inductive Flaw where
  /-- A token where it cannot stand, and the name of what should stand there. -/
  | unexpected (token : Token) (expected : Option String)
  | openQuote (mark : Char)
  | openBrace
  | openArithmetic
  | openBackquote
  | badLoopName (name : Raw)
  | badFunctionName (name : Raw)
  | badChannel
  /-- Something between double brackets that is no condition. -/
  | badCondition (word : Raw)
  | tooDeep

namespace Flaw

/-- What is said of a flaw in a script without arrays. -/
def plainMessage : Flaw → Raw
  | unexpected token none => token.name ++ " unexpected".toList
  | unexpected token (some expected) =>
    token.name ++ " unexpected (expecting ".toList ++ expected.toList ++ [')']
  | openQuote _ => "Unterminated quoted string".toList
  | openBrace => "Missing '\x7D'".toList
  | openArithmetic => "Missing '))'".toList
  | openBackquote => "EOF in backquote substitution".toList
  | badLoopName _ => "Bad for loop variable".toList
  | badFunctionName _ => "Bad function name".toList
  | badChannel => "Bad fd number".toList
  | badCondition _ | tooDeep => "Out of space".toList

/-- The text of a token as it stands in a script. -/
def shown : Token → Raw
  | .finish => "end of file".toList
  | .break => "newline".toList
  | .sign text | .keyword text | .redirection _ text => text.toList
  | .word (.plain text :: _) | .word (.quoted text :: _) => text
  | .word _ => "word".toList

/-- What is said of a flaw in a script of the richer dialect. -/
def richMessage : Flaw → Raw
  | unexpected .finish _ => "syntax error: unexpected end of file".toList
  | unexpected token _ =>
    "syntax error near unexpected token \x60".toList ++ shown token ++ ['\x27']
  | openQuote mark =>
    "unexpected EOF while looking for matching \x60".toList ++ [mark, '\x27']
  | openBrace => "unexpected EOF while looking for matching \x60\x7D'".toList
  | openArithmetic => "unexpected EOF while looking for matching \x60)'".toList
  | openBackquote => "unexpected EOF while looking for matching \x60\x60'".toList
  | badLoopName name | badFunctionName name =>
    '\x60' :: name ++ "': not a valid identifier".toList
  | badCondition word => "syntax error in conditional expression: unexpected token \x60".toList
    ++ word ++ ['\x27']
  | badChannel => "Bad file descriptor".toList
  | tooDeep => "maximum nesting level exceeded".toList

/-- What is said of a flaw. -/
def message (dialect : Dialect) (flaw : Flaw) : Raw :=
  if dialect = .plain then "Syntax error: ".toList ++ flaw.plainMessage else flaw.richMessage

end Flaw

/-- A flaw and the line that it was found on. -/
structure Complaint where
  line : Nat
  flaw : Flaw

/-- What a reader looks for in the next token. -/
structure Looks where
  /-- Whether breaks are passed over. -/
  breaks : Bool := false
  keywords : Bool := false
  aliases : Bool := false

/-- What is left to read, and what is known by now. -/
structure Cursor where
  dialect : Dialect := .plain
  /-- Whether groups of patterns may be repeated. -/
  patternGroups : Bool := false
  rest : Raw
  line : Nat := 1
  /-- Whether the last token is to be read once more. -/
  pushed : Bool := false
  last : Token := .break
  /-- Whether a here-document has come to its end. -/
  ended : Bool := false
  next : Nat := 0
  awaited : List Awaited := []
  documents : List (Nat × Word) := []
  aliases : List (Raw × Raw) := []
  /-- The aliases in the middle of whose text the reader is, each with the length
  of what stands behind it, and whether a blank ends it. -/
  inside : List (Raw × Nat × Bool) := []
  /-- Whether the next word may be an alias, too. -/
  afterAlias : Bool := false

/-- A reader of a part of a script. -/
abbrev Reader := EStateM Complaint Cursor

/-- Gives up. -/
def refuse {α : Type} (flaw : Flaw) : Reader α := do
  throw ⟨(← get).line, flaw⟩

/-- What is left. -/
def rest : Reader Raw := return (← get).rest

/-- The next character, unless the text or the here-document is over. -/
def peek : Reader (Option Char) := do
  let cursor ← get
  return if cursor.ended then none else cursor.rest.head?

/-- The dialect of the script. -/
def isRich : Reader Bool := return (← get).dialect = .rich

/-- Goes on behind so many characters. -/
def advance (count : Nat) : Reader Unit :=
  modify fun cursor =>
    let passed := (cursor.rest.take count).count '\n'
    { cursor with rest := cursor.rest.drop count, line := cursor.line + passed }

/-- Goes on behind what is so, and gives it. -/
def takeWhile (isSo : Char → Bool) : Reader Raw := do
  let text := (← rest).takeWhile isSo
  advance text.length
  return text

/-- Leaves out pairs of a backslash and a break. -/
def joinLines : Nat → Reader Unit
  | 0 => pure ()
  | steps + 1 => do
    match ← rest with
    | '\\' :: '\n' :: _ =>
      advance 2
      joinLines steps
    | _ => pure ()

/-- Reads some text in the place of what is left, and takes up there again. Its
lines are counted from the first. -/
def elsewhere {α : Type} (text : Raw) (reader : Reader α) : Reader α := fun cursor =>
  match reader { cursor with rest := text, line := 1, inside := [], ended := false } with
  | .ok a after =>
    .ok a
      { after with
        rest := cursor.rest
        line := cursor.line
        inside := cursor.inside
        ended := cursor.ended }
  | .error e after => .error e after

/-- Reads something, or starts again from the same place with something else. -/
def orElse {α : Type} (first second : Reader α) : Reader α := fun cursor =>
  match first cursor with
  | .ok a after => .ok a after
  | .error _ _ => second cursor

/-- Whether a character ends a word. -/
def endsWord (c : Char) : Bool := " \t\n;&|<>()".toList.contains c

end Script

end Rehearsal

end InstallPlan
