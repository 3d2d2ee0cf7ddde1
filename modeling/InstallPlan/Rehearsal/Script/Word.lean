import InstallPlan.Rehearsal.Script.Cursor

/-!
# Rehearsal — Reading words

Reads a word as its pieces: plain text, quoted text, and what stands for a value.
What a character means depends on where it is (`Setting`), and a part of a word
goes on up to its own mark (`Ending`). Scripts in a word are read by the reader
of commands, which is an argument here.
-/

namespace InstallPlan

namespace Rehearsal

namespace Script

/-- Where a part of a word stands. -/
inductive Setting where
  | bare
  | double
  | document
  | arithmetic
  deriving DecidableEq

/-- What ends a part of a word. -/
inductive Ending where
  /-- A character that no word can hold. -/
  | word
  | quote
  | brace
  /-- Two closing parentheses, inside so many open ones. -/
  | parentheses (depth : Nat)
  /-- The end of the text. -/
  | never
  /-- One of some characters, which is left. -/
  | before (marks : String)
  /-- A closing parenthesis, inside so many open ones, which is left. -/
  | group (depth : Nat)

/-- What is around a word. -/
structure Around where
  /-- How a script in a word is read, and whether a parenthesis ends it. -/
  nested : Bool → Reader Command
  /-- The here-document that the word is the body of. -/
  document : Option Awaited := none
  /-- Whether the word ends a here-document, so that nothing in it has a value. -/
  isMark : Bool := false

/-- A piece in front of others; plain texts next to each other are one. -/
def joinPiece : Piece → Word → Word
  | .plain text, .plain more :: pieces => .plain (text ++ more) :: pieces
  | piece, pieces => piece :: pieces

/-- Begins a line of a here-document, and notes whether it is the last one. -/
def beginLine (awaited : Awaited) : Reader Unit := do
  if awaited.dropsTabs then
    let _ ← takeWhile (· = '\t')
  let text ← rest
  let line := text.takeWhile (· ≠ '\n')
  if line = awaited.ending then
    advance (line.length + 1)
    modify fun cursor => { cursor with ended := true }

/-- Goes on behind a break. -/
def passBreak (around : Around) : Reader Unit := do
  advance 1
  match around.document with
  | some awaited => beginLine awaited
  | none => pure ()

/-- Characters of a kind, across joined lines. -/
def joinedWhile (isSo : Char → Bool) : Nat → Reader Raw
  | 0 => return []
  | steps + 1 => do
    joinLines (← rest).length
    match ← peek with
    | some c =>
      if isSo c then
        advance 1
        return c :: (← joinedWhile isSo steps)
      else return []
    | none => return []

/-- What is left to find when the text ends too early. -/
def tooEarly (around : Around) (setting : Setting) (ending : Ending) : Reader Word :=
  match ending with
  | .word | .never | .before _ | .group _ => return []
  | .parentheses _ => refuse .openArithmetic
  | .quote => refuse (if around.document.isSome then .openBrace else .openQuote '"')
  | .brace =>
    refuse (if setting = .double && around.document.isNone then .openQuote '"' else .openBrace)

/-- Text up to a single quote. -/
def singleQuoted (around : Around) : Reader Raw := do
  advance 1
  let text ← takeWhile (· ≠ '\x27')
  if (← rest).isEmpty then
    refuse (if around.document.isSome then .openBrace else .openQuote '\x27')
  advance 1
  return text

/-- What a backslash does. -/
def escaped (around : Around) (setting : Setting) (ending : Ending) : Reader Piece := do
  advance 1
  match ← peek with
  | none => return .quoted ['\\']
  | some c =>
    advance 1
    let closes : Bool :=
      match ending with
      | .brace => true
      | _ => false
    let inDocument := setting = .document || (setting = .arithmetic && around.document.isSome)
    let means := setting = .bare || c = '\\' || c = '\x60' || c = '$'
      || (c = '"' && !inDocument) || (c = '\x7D' && closes)
    return .quoted (if means then [c] else ['\\', c])

/-- The script between backquotes, whose marks are taken away. -/
def backquoted (isDouble : Bool) : Nat → Reader Raw
  | 0 => refuse .openBackquote
  | steps + 1 => do
    joinLines (← rest).length
    match ← rest with
    | '\x60' :: _ =>
      advance 1
      return []
    | '\\' :: c :: _ =>
      advance 2
      let more ← backquoted isDouble steps
      let means := c = '\\' || c = '\x60' || c = '$' || (isDouble && c = '"')
      return if means then c :: more else '\\' :: c :: more
    | c :: _ =>
      advance 1
      return c :: (← backquoted isDouble steps)
    | [] => refuse .openBackquote

/-- The value of up to so many digits, and what is behind them. -/
def numeral (base : Nat) : Nat → Raw → Nat → Nat × Raw
  | 0, text, value => (value, text)
  | count + 1, text, value =>
    match text with
    | c :: rest =>
      let digit :=
        if c.isDigit then some (c.toNat - 48)
        else if 'a' ≤ c.toLower ∧ c.toLower ≤ 'f' then some (c.toLower.toNat - 87)
        else none
      match digit with
      | some d => if d < base then numeral base count rest (value * base + d) else (value, text)
      | none => (value, text)
    | [] => (value, [])

/-- The text that is meant between a dollar sign with a quote and the next quote,
and what is behind it. -/
def ansiQuoted : Nat → Raw → Option (Raw × Raw)
  | 0, _ | _, [] => none
  | _ + 1, '\x27' :: rest => some ([], rest)
  | steps + 1, '\\' :: c :: rest =>
    let with' (text : Raw) (rest : Raw) : Option (Raw × Raw) :=
      (ansiQuoted steps rest).map fun (more, rest) => (text ++ more, rest)
    let simple : Option Char :=
      match c with
      | 'a' => some '\x07'
      | 'b' => some '\x08'
      | 'e' | 'E' => some '\x1B'
      | 'f' => some '\x0C'
      | 'n' => some '\n'
      | 'r' => some '\r'
      | 't' => some '\t'
      | 'v' => some '\x0B'
      | '\\' | '\x27' | '"' | '?' => some c
      | _ => none
    let coded (base count : Nat) (from' : Raw) (wide : Bool) : Option (Raw × Raw) :=
      let (value, behind) := numeral base count from' 0
      if behind.length = from'.length then with' ['\\', c] rest
      else
        with' (if wide then Raw.ofText (String.ofList [Char.ofNat value])
          else [Char.ofNat (value % 256)]) behind
    match simple with
    | some d => with' [d] rest
    | none =>
      if c = 'x' then coded 16 2 rest false
      else if c = 'u' then coded 16 4 rest true
      else if c = 'U' then coded 16 8 rest true
      else if '0' ≤ c ∧ c ≤ '7' then coded 8 3 (c :: rest) false
      else if c = 'c' then
        match rest with
        | d :: rest => with' [Char.ofNat (d.toNat % 32)] rest
        | [] => none
      else with' ['\\', c] rest
  | steps + 1, c :: rest => (ansiQuoted steps rest).map fun (more, rest) => (c :: more, rest)

/-- Whether a character names a parameter by itself. -/
def isSpecial (c : Char) : Bool := "#?$!-*@".toList.contains c || c.isDigit

/-- How a part of a word is read, given its setting and its ending. -/
abbrev Inner := Setting → Ending → Reader Word

/-- The setting of a word inside braces. -/
def Setting.inBraces : Setting → Setting
  | .bare => .bare
  | _ => .double

/-- The sign of a substitute. -/
def substitute? : Char → Option Substitute
  | '-' => some .otherwise
  | '+' => some .instead
  | '?' => some .demanded
  | '=' => some .assigning
  | _ => none

/-- Reads what is done with a parameter between braces, up to the closing one. -/
def changeOf (inner : Inner) (setting : Setting) (richer : Reader (Option Change)) :
    Reader Change := do
  joinLines (← rest).length
  let bad : Reader Change := do
    let text := (← rest)
    let _ ← inner setting.inBraces .brace
    return .bad (text.take (text.length - (← rest).length))
  match ← peek with
  | none => bad
  | some '\x7D' =>
    advance 1
    return .none
  | some c =>
    match ← richer with
    | some change => return change
    | none =>
      if c = '#' ∨ c = '%' then
        advance 1
        joinLines (← rest).length
        let longest := (← peek) = some c
        if longest then advance 1
        let side : Side := if c = '#' then .front else .back
        return .trimmed side longest (← inner .bare .brace)
      else
        advance 1
        joinLines (← rest).length
        let next ← peek
        let kind := (if c = ':' then next else some c).bind substitute?
        match kind with
        | none => bad
        | some kind =>
          if c = ':' then advance 1
          return .substitute (c = ':') kind (← inner setting.inBraces .brace)

/-- The changes that only the richer dialect has. -/
def richChange (inner : Inner) (setting : Setting) : Reader (Option Change) := do
  let closing : Reader Unit := do
    if (← peek) = some '\x7D' then advance 1 else refuse .openBrace
  let orNothing : Reader Word := do
    if (← peek) = some '/' then
      advance 1
      inner setting.inBraces (.before "\x7D")
    else return []
  match ← rest with
  | ':' :: c :: _ =>
    if (substitute? c).isSome then return none
    else
      advance 1
      let offset ← inner .double (.before ":\x7D")
      if (← peek) = some ':' then
        advance 1
        let count ← inner .double (.before "\x7D")
        closing
        return some (.slice offset (some count))
      else
        closing
        return some (.slice offset none)
  | '/' :: c :: _ =>
    let extent : Extent :=
      match c with
      | '/' => .all
      | '#' => .front
      | '%' => .back
      | _ => .first
    advance (if extent = .first then 1 else 2)
    let pattern ← inner .bare (.before "/\x7D")
    let text ← orNothing
    closing
    return some (.replaced extent pattern text)
  | c :: d :: _ =>
    if c = '^' ∨ c = ',' ∨ c = '~' then
      advance (if c = d then 2 else 1)
      return some (.cased c (c = d) (← inner .bare .brace))
    else if c = '@' then
      advance 2
      closing
      return some (.shown d)
    else return none
  | _ => return none

/-- Reads a subscript behind its opening bracket. -/
def subscript (inner : Inner) : Reader Subject → Raw → Reader Subject := fun otherwise name => do
  if (← peek) = some '[' then
    advance 1
    match ← rest with
    | '@' :: ']' :: _ =>
      advance 2
      return .all name false
    | '*' :: ']' :: _ =>
      advance 2
      return .all name true
    | _ =>
      let index ← inner .double (.before "]")
      advance 1
      return .element name index
  else otherwise

/-- Reads the name of a parameter, or the sign that names one. -/
def parameterName : Reader (Option Raw) := do
  let fuel := (← rest).length
  match ← peek with
  | some c =>
    if isNameStart c then return some (← joinedWhile isNamePart fuel)
    else if c.isDigit then return some (← joinedWhile Char.isDigit fuel)
    else if isSpecial c then
      advance 1
      return some [c]
    else return none
  | none => return none

/-- Reads a parameter between braces, behind the opening one. -/
def braced (inner : Inner) (setting : Setting) : Reader Piece := do
  joinLines (← rest).length
  let start ← rest
  let rich ← isRich
  let richer : Reader (Option Change) := if rich then richChange inner setting else pure none
  let bad : Reader Piece := do
    let _ ← inner setting.inBraces .brace
    return .parameter (.named []) (.bad (start.take (start.length - (← rest).length)))
  let subjectOf (name : Raw) : Reader Subject :=
    if rich then subscript inner (return .named name) name else return .named name
  let plainly : Reader Piece := do
    match ← parameterName with
    | none =>
      if (← peek).isSome && (← peek) != some '\x7D' then advance 1
      bad
    | some name =>
      let subject ← subjectOf name
      match ← changeOf inner setting richer with
      | .bad _ => return .parameter subject (.bad (start.take (start.length - (← rest).length)))
      | change => return .parameter subject change
  match start with
  | '#' :: _ =>
    advance 1
    joinLines (← rest).length
    match ← rest with
    | c :: more =>
      if isNamePart c ∨ (isSpecial c ∧ more.head? = some '\x7D') then
        let name := (← parameterName).getD []
        let subject ← subjectOf name
        if (← peek) = some '\x7D' then
          advance 1
          return .parameter subject .size
        else bad
      else
        match ← changeOf inner setting richer with
        | .bad _ => return .parameter (.named []) (.bad (start.take (start.length - (← rest).length)))
        | change => return .parameter (.named ['#']) change
    | [] => bad
  | '!' :: c :: _ =>
    if rich ∧ (isNamePart c ∨ c = '@' ∨ c = '*' ∨ c = '#') then
      advance 1
      let name := (← parameterName).getD []
      match ← rest with
      | '*' :: '\x7D' :: _ =>
        advance 2
        return .parameter (.named name) (.names true)
      | '@' :: '\x7D' :: _ =>
        advance 2
        return .parameter (.named name) (.names false)
      | _ =>
        let subject ← subjectOf name
        match subject, ← rest with
        | .all _ _, '\x7D' :: _ =>
          advance 1
          return .parameter subject .indices
        | _, _ => return .parameter (.indirect subject) (← changeOf inner setting richer)
    else plainly
  | _ => plainly

/-- Reads what stands behind a dollar sign, or gives nothing if the sign stands
for itself. -/
def dollar (around : Around) (inner : Inner) (setting : Setting) : Reader Piece := do
  advance 1
  joinLines (← rest).length
  let rich ← isRich
  let output : Reader Piece := do
    advance 1
    return .output (← around.nested true)
  let start ← rest
  if around.isMark || (← get).ended then return .plain ['$']
  else
    match start with
    | '(' :: _ =>
      let arithmetic : Reader Piece := do
        advance 1
        joinLines (← rest).length
        advance 1
        return .number (← inner .arithmetic (.parentheses 0))
      let isArithmetic : Reader Bool := do
        advance 1
        joinLines (← rest).length
        return (← peek) = some '('
      let before ← get
      let double ← isArithmetic
      set before
      if double then if rich then orElse arithmetic output else arithmetic else output
    | '\x7B' :: _ =>
      advance 1
      braced inner setting
    | '[' :: _ =>
      if rich then
        advance 1
        let expression ← inner .double (.before "]")
        advance 1
        return .number expression
      else return .plain ['$']
    | c :: more =>
      if rich && setting = .bare && c = '\x27' then
        match ansiQuoted (more.length + 1) more with
        | some (text, behind) =>
          advance (start.length - behind.length)
          return .quoted (text.takeWhile (· ≠ '\x00'))
        | none => refuse (.openQuote '\x27')
      else if rich && setting = .bare && c = '"' then return .quoted []
      else if isNameStart c then
        return Piece.plainParameter (← joinedWhile isNamePart start.length)
      else if isSpecial c then
        advance 1
        return Piece.plainParameter [c]
      else return .plain ['$']
    | [] => return .plain ['$']

/-- Whether a group of patterns begins with these characters. -/
def opensGroup (cursor : Cursor) (c : Char) (rest : Raw) : Bool :=
  cursor.patternGroups && "@?*+!".toList.contains c && rest.head? = some '('

/-- Reads the pieces of a part of a word. -/
def pieces (around : Around) : Nat → Setting → Ending → Reader Word
  | 0, _, _ => refuse .tooDeep
  | steps + 1, setting, ending => do
    joinLines (← rest).length
    let inner := pieces around steps
    let cursor ← get
    let more (piece : Piece) (ending : Ending) : Reader Word :=
      return joinPiece piece (← inner setting ending)
    let plain (c : Char) : Reader Word := do
      advance 1
      more (.plain [c]) ending
    let nestedQuote : Reader Word := do
      advance 1
      more (.within (← inner .double .quote)) ending
    match if cursor.ended then [] else cursor.rest with
    | [] => tooEarly around setting ending
    | c :: next =>
      let ends : Bool :=
        match ending with
        | .word => endsWord c
        | .before marks => marks.toList.contains c
        | .group 0 => c = ')'
        | _ => false
      let isWord : Bool :=
        match ending with
        | .word => true
        | _ => false
      if ends then
        if cursor.dialect = .rich && isWord && (c = '<' || c = '>') && next.head? = some '(' then
          advance 2
          more (.channel (c = '<') (← around.nested true)) ending
        else return []
      else if setting = .bare && opensGroup cursor c next then
        advance 2
        let group ← inner .bare (.group 0)
        advance 1
        return joinPiece (.plain [c, '('])
          (group.foldr joinPiece (joinPiece (.plain [')']) (← inner setting ending)))
      else
        match c with
        | '\n' =>
          passBreak around
          more (.plain ['\n']) ending
        | '\\' => more (← escaped around setting ending) ending
        | '\x27' =>
          if setting = .bare then more (.quoted (← singleQuoted around)) ending else plain c
        | '"' =>
          match setting, ending with
          | .bare, _ => nestedQuote
          | .double, .quote =>
            advance 1
            return []
          | .double, _ => nestedQuote
          | .arithmetic, _ => if cursor.dialect = .rich then nestedQuote else plain c
          | .document, _ => plain c
        | '\x60' =>
          if around.isMark then
            advance 1
            more (.quoted [c]) ending
          else
            advance 1
            let script ← backquoted (setting ≠ .bare) (cursor.rest.length + 1)
            more (.output (← elsewhere script (around.nested false))) ending
        | '$' => more (← dollar around inner setting) ending
        | '\x7D' =>
          match ending with
          | .brace =>
            advance 1
            return []
          | _ => plain c
        | '(' =>
          match ending with
          | .parentheses depth =>
            advance 1
            more (.plain [c]) (.parentheses (depth + 1))
          | .group depth =>
            advance 1
            more (.plain [c]) (.group (depth + 1))
          | _ => plain c
        | ')' =>
          match ending with
          | .parentheses (depth + 1) =>
            advance 1
            more (.plain [c]) (.parentheses depth)
          | .group (depth + 1) =>
            advance 1
            more (.plain [c]) (.group depth)
          | .parentheses 0 =>
            advance 1
            joinLines (← rest).length
            if (← peek) = some ')' then
              advance 1
              return []
            else if cursor.dialect = .rich then refuse .openArithmetic
            else more (.plain [c]) ending
          | _ => plain c
        | _ => plain c

/-- Reads a word. -/
def word (around : Around) : Reader Word := do pieces around (2 * (← rest).length + 2) .bare .word

/-- Reads the body of a here-document. -/
def body (nested : Bool → Reader Command) (awaited : Awaited) : Reader Word := do
  beginLine awaited
  let around : Around := { nested, document := some awaited }
  let text ←
    if awaited.literal then literally around (← rest).length
    else pieces around (2 * (← rest).length + 2) .document .never
  modify fun cursor => { cursor with ended := false }
  return text
where
  /-- Reads lines as they stand. -/
  literally (around : Around) : Nat → Reader Word
    | 0 => return []
    | steps + 1 => do
      if (← get).ended then return []
      else
        let line ← takeWhile (· ≠ '\n')
        if (← rest).isEmpty then return [.quoted line]
        else
          passBreak around
          return .quoted (line ++ ['\n']) :: (← literally around steps)

/-- The text of a word that marks the end of a here-document, and whether any of
it is quoted. -/
def markText (word : Word) : Raw × Bool :=
  let rec go : List Piece → Raw
    | [] => []
    | .plain text :: more | .quoted text :: more => text ++ go more
    | .within inner :: more => go inner ++ go more
    | _ :: more => go more
  (go word, word.any fun
    | .plain _ => false
    | _ => true)

/-- The text of a word that has no quotes and no values. -/
def plainText? : Word → Option Raw
  | [] => some []
  | [.plain text] => some text
  | _ => none

end Script

end Rehearsal

end InstallPlan
