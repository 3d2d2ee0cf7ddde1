import InstallPlan.Rehearsal.Script.Word

/-!
# Rehearsal — Reading commands

Reads a script as commands, one complete line at a time: a line is carried out
before the next is read, so an error further down does not undo what stands
above it. The readers here know each other by way of one, that of a single
command, which is an argument of all others; `commandWithin` ties the knot.
-/

namespace InstallPlan

namespace Rehearsal

namespace Script

/-! ## Tokens -/

/-- The words that the grammar gives a meaning of their own. -/
def keywords (dialect : Dialect) : List String :=
  let common :=
    ["!", "\x7B", "\x7D", "case", "do", "done", "elif", "else", "esac", "fi", "for", "if", "in",
      "then", "until", "while"]
  if dialect = .rich then common ++ ["[[", "function", "time"] else common

/-- The special builtins, whose names no function can have. -/
def specialNames : List Raw :=
  [".", ":", "break", "continue", "eval", "exec", "exit", "export", "readonly", "return", "set",
    "shift", "times", "trap", "unset"].map String.toList

/-- Leaves aliases behind whose text is read. -/
def leaveAliases : Reader Unit :=
  modify fun cursor =>
    let left := cursor.rest.length
    let passed := cursor.inside.filter fun (_, behind, _) => left ≤ behind
    { cursor with
      inside := cursor.inside.filter fun (_, behind, _) => behind < left
      afterAlias := cursor.afterAlias || passed.any fun (_, _, blank) => blank }

/-- Leaves out blanks, joined lines and a comment. -/
def skipBlanks : Nat → Reader Unit
  | 0 => pure ()
  | steps + 1 => do
    leaveAliases
    joinLines (← rest).length
    match ← peek with
    | some ' ' | some '\t' =>
      advance 1
      skipBlanks steps
    | some '#' =>
      let _ ← takeWhile (· ≠ '\n')
      skipBlanks steps
    | _ => pure ()

/-- Whether a word is the number of a channel. -/
def channelOf? : Word → Option Nat
  | [.plain [c]] => if c.isDigit then some (c.toNat - 48) else none
  | _ => none

/-- Reads the sign of a redirection. -/
def redirectionSign : Reader String := do
  let first ← peek
  advance 1
  joinLines (← rest).length
  let followed (c : Char) (sign : String) : Reader String := do
    if (← peek) = some c then
      advance 1
      return sign
    else return ""
  let rich ← isRich
  match first, ← peek with
  | some '>', some '>' =>
    advance 1
    return ">>"
  | some '>', some '|' =>
    advance 1
    return ">|"
  | some '>', some '&' =>
    advance 1
    return ">&"
  | some '>', _ => return ">"
  | _, some '<' =>
    advance 1
    joinLines (← rest).length
    if rich && (← followed '<' "<") != "" then return "<<<"
    else return "<<" ++ (← followed '-' "-")
  | _, some '&' =>
    advance 1
    return "<&"
  | _, some '>' =>
    advance 1
    return "<>"
  | _, _ => return "<"

/-- Splits a word behind the first place where a text stands outside quotes. -/
def cutAt (mark : Raw) : Word → Option (Word × Word)
  | [] => none
  | .plain text :: rest =>
    let rec find (front : Raw) : Raw → Option (Raw × Raw)
      | [] => none
      | c :: more =>
        if mark.isPrefixOf (c :: more) then some (front.reverse, (c :: more).drop mark.length)
        else find (c :: front) more
    match find [] text with
    | some (front, behind) =>
      some (if front = [] then [] else [.plain front],
        if behind = [] then rest else .plain behind :: rest)
    | none => (cutAt mark rest).map fun (front, behind) => (.plain text :: front, behind)
  | piece :: rest => (cutAt mark rest).map fun (front, behind) => (piece :: front, behind)

/-- The assignment that a word stands for. -/
def assignment? (rich : Bool) (word : Word) : Option Assignment :=
  match word with
  | .plain text :: rest =>
    let name := text.takeWhile isNamePart
    let behind := text.drop name.length
    let value (text : Raw) : Word := if text = [] then rest else .plain text :: rest
    if !isName name then none
    else
      match behind with
      | '=' :: text => some ⟨name, none, false, value text⟩
      | '+' :: '=' :: text => if rich then some ⟨name, none, true, value text⟩ else none
      | '[' :: text =>
        if !rich then none
        else
          match cutAt [']', '+', '='] (value text), cutAt [']', '='] (value text) with
          | some (index, value), _ => some ⟨name, some index, true, value⟩
          | _, some (index, value) => some ⟨name, some index, false, value⟩
          | _, _ => none
      | _ => none
  | _ => none

/-- The member of a list in parentheses that a word stands for. -/
def memberOf (word : Word) : Member :=
  match word with
  | .plain ('[' :: text) :: rest =>
    let word : Word := if text = [] then rest else .plain text :: rest
    match cutAt [']', '+', '='] word, cutAt [']', '='] word with
    | some (index, value), _ => ⟨some index, true, value⟩
    | _, some (index, value) => ⟨some index, false, value⟩
    | _, _ => ⟨none, false, .plain ('[' :: text) :: rest⟩
  | _ => ⟨none, false, word⟩

/-- Reads the members of a list up to its closing parenthesis. -/
def membersIn (around : Around) : Nat → Reader (List Member)
  | 0 => refuse .tooDeep
  | steps + 1 => do
    skipBlanks (← rest).length
    match ← peek with
    | none => refuse (.openQuote ')')
    | some '\n' =>
      advance 1
      membersIn around steps
    | some ')' =>
      advance 1
      return []
    | some c =>
      if endsWord c then refuse (.unexpected (.sign (String.ofList [c])) none)
      else
        let first ← word around
        return memberOf first :: (← membersIn around steps)

/-- Reads the name and the subscript that an assignment to a member begins with. -/
def subscripted (around : Around) : Reader Word := do
  let before ← get
  let name := before.rest.takeWhile isNamePart
  if isName name && (before.rest.drop name.length).head? = some '[' then
    advance (name.length + 1)
    let index ← orElse (pieces around (2 * before.rest.length) .bare (.before "]")) (return [])
    advance 1
    match ← rest with
    | '=' :: _ | '+' :: '=' :: _ =>
      return joinPiece (.plain (name ++ ['['])) (index.foldr joinPiece [.plain [']']])
    | _ =>
      set before
      return []
  else return []

/-- Reads a word, or a redirection that begins with a number. -/
def wordToken (around : Around) : Reader Token := do
  if ← isRich then
    let front ← subscripted around
    let read := front.foldr joinPiece (← word around)
    match assignment? true read, ← peek with
    | some ⟨_, _, _, []⟩, some '(' =>
      advance 1
      let members ← membersIn around (← rest).length
      return .word (read ++ [.members members])
    | _, some c =>
      match channelOf? read with
      | some channel =>
        if c = '<' ∨ c = '>' then return .redirection (some channel) (← redirectionSign)
        else return .word read
      | none => return .word read
    | _, none => return .word read
  else
    let read ← word around
    match channelOf? read, ← peek with
    | some channel, some '<' | some channel, some '>' =>
      return .redirection (some channel) (← redirectionSign)
    | _, _ => return .word read

/-- Reads a token without regard to what words mean. -/
def rawToken (around : Around) : Reader Token := do
  let cursor ← get
  if cursor.pushed then
    set { cursor with pushed := false }
    return cursor.last
  else
    skipBlanks (2 * cursor.rest.length + 2)
    let rich ← isRich
    let sign (text : String) : Reader Token := do
      advance 1
      return .sign text
    let doubled (c : Char) (single double : String) : Reader Token := do
      advance 1
      joinLines (← rest).length
      if (← peek) = some c then sign double else return .sign single
    match ← rest with
    | [] => return .finish
    | '\n' :: _ =>
      advance 1
      return .break
    | '&' :: more =>
      match rich, more with
      | true, '>' :: '>' :: _ =>
        advance 3
        return .redirection none "&>>"
      | true, '>' :: _ =>
        advance 2
        return .redirection none "&>"
      | _, _ => doubled '&' "&" "&&"
    | '|' :: more =>
      match rich, more with
      | true, '&' :: _ =>
        advance 2
        return .sign "|&"
      | _, _ => doubled '|' "|" "||"
    | ';' :: more =>
      match rich, more with
      | true, ';' :: '&' :: _ =>
        advance 3
        return .sign ";;&"
      | true, '&' :: _ =>
        advance 2
        return .sign ";&"
      | _, _ => doubled ';' ";" ";;"
    | '(' :: _ => sign "("
    | ')' :: _ => sign ")"
    | c :: more =>
      if (c = '<' ∨ c = '>') ∧ !(rich && more.head? = some '(') then
        return .redirection none (← redirectionSign)
      else wordToken around

/-- Reads the here-documents that are awaited. -/
def documentsNow (nested : Bool → Reader Command) : Reader Unit := do
  let awaited := (← get).awaited
  modify fun cursor => { cursor with awaited := [] }
  awaited.forM fun awaited => do
    let text ← body nested awaited
    modify fun cursor => { cursor with documents := (awaited.number, text) :: cursor.documents }

/-- Passes over breaks. -/
def afterBreaks (around : Around) : Nat → Token → Reader Token
  | steps + 1, .break => do
    documentsNow around.nested
    afterBreaks around steps (← rawToken around)
  | _, token => return token

/-- Reads a token, at most so many aliases deep. -/
def tokenWithin (around : Around) : Nat → Looks → Reader Token
  | 0, _ => refuse .tooDeep
  | steps + 1, looks => do
    let first ← rawToken around
    let token ← if looks.breaks then afterBreaks around (← rest).length.succ first else pure first
    let cursor ← get
    let looks := { looks with aliases := looks.aliases || cursor.afterAlias }
    set { cursor with last := token, afterAlias := false }
    match token with
    | .word [.plain text] =>
      let name := String.ofList text
      if looks.keywords && (keywords cursor.dialect).contains name then
        modify fun cursor => { cursor with last := .keyword name }
        return .keyword name
      else if looks.aliases && !cursor.inside.any (·.1 = text) then
        match cursor.aliases.find? (·.1 = text) with
        | some (_, value) =>
          let blank := (value.getLast?).any fun c => c = ' ' || c = '\t'
          modify fun cursor =>
            { cursor with
              rest := value ++ cursor.rest
              inside := if value = [] then cursor.inside
                else (text, cursor.rest.length, blank) :: cursor.inside }
          tokenWithin around steps looks
        | none => return token
      else return token
    | token => return token

/-- What is looked for where a command may begin. -/
def Looks.command : Looks := { keywords := true, aliases := true }

/-- What is looked for where a command must follow, on this line or a later one. -/
def Looks.onward : Looks := { breaks := true, keywords := true, aliases := true }

/-- Reads the token once more. -/
def pushBack : Reader Unit := modify fun cursor => { cursor with pushed := true }

/-- Finds that the last token cannot stand where it is. -/
def unexpected {α : Type} (expected : Option String) : Reader α := do
  refuse (.unexpected (← get).last expected)

/-! ## Lists of commands -/

/-- Where a list of commands stands. -/
inductive Place where
  /-- Nowhere: it is a line of the script. -/
  | line
  /-- Where at least one command is needed. -/
  | block
  /-- Where there may be none. -/
  | nested
  deriving DecidableEq

/-- Whether a token ends a list of commands. -/
def endsList : Token → Bool
  | .finish => true
  | .sign text => text == ")" || text == ";;" || text == ";&" || text == ";;&"
  | .keyword text =>
    ["\x7D", "do", "done", "elif", "else", "esac", "fi", "then"].contains text
  | _ => false

/-- How deep a script may be nested. -/
def maxDepth : Nat := 1000

/-- Reads a token. -/
def token (around : Around) (looks : Looks) : Reader Token := do
  tokenWithin around maxDepth looks

/-- How a command is read, given what is looked for in its first token. -/
abbrev CommandReader := Looks → Reader Command

/-- Reads the further commands of a pipeline. -/
def pipes (command : CommandReader) (around : Around) : Nat → Reader (List Command)
  | 0 => refuse .tooDeep
  | steps + 1 => do
    let next ← token around {}
    if next.isSign "|" || next.isSign "|&" then
      let next ← command .onward
      return next :: (← pipes command around steps)
    else
      pushBack
      return []

/-- Reads a pipeline. -/
def pipeline (command : CommandReader) (around : Around) (looks : Looks) : Reader Command := do
  let first ← token around looks
  let isNegated := first.isKeyword "!"
  if !isNegated then pushBack
  let first ← command (if isNegated then .command else {})
  let more ← pipes command around ((← rest).length + 1)
  let body := if more.isEmpty then first else .pipeline (first :: more)
  return if isNegated then .negated body else body

/-- Reads what follows a pipeline that succeeds or fails. -/
def andOrFrom (command : CommandReader) (around : Around) : Nat → Command → Reader Command
  | 0, _ => refuse .tooDeep
  | steps + 1, first => do
    let next ← token around {}
    if next.isSign "&&" then
      andOrFrom command around steps (.both first (← pipeline command around .onward))
    else if next.isSign "||" then
      andOrFrom command around steps (.either first (← pipeline command around .onward))
    else
      pushBack
      return first

/-- Reads pipelines that depend on each other. -/
def andOr (command : CommandReader) (around : Around) : Reader Command := do
  andOrFrom command around ((← rest).length + 1) (← pipeline command around {})

/-- Reads the commands of a list behind some that are read already. -/
def listFrom (command : CommandReader) (around : Around) (place : Place) :
    Nat → Option Command → Reader (Option Command)
  | 0, _ => refuse .tooDeep
  | steps + 1, before => do
    let first ← token around { breaks := place ≠ .line, keywords := true, aliases := true }
    let finish : Reader (Option Command) := do
      documentsNow around.nested
      modify fun cursor => { cursor with pushed := true, last := .finish }
      return before
    let mayEnd := place = .nested || (place = .block && before.isSome)
    match first with
    | .break =>
      documentsNow around.nested
      return before
    | .finish => finish
    | _ =>
      pushBack
      if mayEnd && endsList first then return before
      else
        let line := (← get).line
        let next ← andOr command around
        let token ← token around {}
        let next := if token.isSign "&" then .background line next else next
        let all : Command :=
          match before with
          | some before => .sequence before next
          | none => next
        match token with
        | .finish => do
          documentsNow around.nested
          modify fun cursor => { cursor with pushed := true, last := .finish }
          return some all
        | .break =>
          pushBack
          listFrom command around place steps (some all)
        | _ =>
          if token.isSign "&" || token.isSign ";" then
            listFrom command around place steps (some all)
          else if place = .line then unexpected none
          else
            pushBack
            return some all

/-- Reads a list of commands. -/
def listOf (command : CommandReader) (around : Around) (place : Place) :
    Reader (Option Command) := do
  listFrom command around place ((← rest).length + 2) none

/-! ## Single commands -/

/-- Goes on if a token is as expected. -/
def require (isSo : Bool) (name : String) : Reader Unit := do
  if !isSo then unexpected (some name)

/-- Reads a list in which at least one command is needed. -/
def block (command : CommandReader) (around : Around) : Reader Command :=
  return (← listOf command around .block).getD .nothing

/-- Reads a keyword that must follow. -/
def keyword (around : Around) (text : String) (looks : Looks) : Reader Unit := do
  let next ← token around looks
  require (next.isKeyword text) ("\"" ++ text ++ "\"")

/-- The number of the next here-document, which is awaited from now on. -/
def await (sign : String) (mark : Word) : Reader Nat := do
  let (ending, isQuoted) := markText mark
  let cursor ← get
  let awaited : Awaited :=
    { number := cursor.next, ending, dropsTabs := sign == "<<-", literal := isQuoted }
  set { cursor with next := cursor.next + 1, awaited := cursor.awaited ++ [awaited] }
  return awaited.number

/-- Reads what follows the sign of a redirection. -/
def redirection (around : Around) (channel : Option Nat) (sign : String) :
    Reader Redirection := do
  let isDocument := sign == "<<" || sign == "<<-"
  match ← token { around with isMark := isDocument } {} with
  | .word word =>
    let towards (direction : Direction) : Redirection :=
      ⟨some (channel.getD (if sign.toList.head? = some '<' then 0 else 1)), direction, word⟩
    if isDocument then
      return ⟨some (channel.getD 0), .document (← await sign word), []⟩
    else
      match sign with
      | ">" => return towards .output
      | ">|" => return towards .overwriting
      | ">>" => return towards .extension
      | "<" => return towards .input
      | "<>" => return towards .both
      | "<<<" => return towards .text
      | "&>" => return ⟨none, .outputs false, word⟩
      | "&>>" => return ⟨none, .outputs true, word⟩
      | ">&" =>
        let isCopy : Bool :=
          match plainText? word with
          | some text => text.all Char.isDigit || text.getLast? = some '-'
          | none => true
        if (← isRich) && channel.isNone && !isCopy then return ⟨none, .outputs false, word⟩
        else return towards .copy
      | _ => return towards .copy
  | _ => unexpected none

/-- Reads the redirections behind a command. -/
def redirections (around : Around) : Nat → Reader (List Redirection)
  | 0 => refuse .tooDeep
  | steps + 1 => do
    match ← token around .command with
    | .redirection channel sign =>
      let first ← redirection around channel sign
      return first :: (← redirections around steps)
    | _ =>
      pushBack
      return []

/-- What is known of a simple command while it is read. -/
structure Simple where
  assignments : List Assignment := []
  words : List Word := []
  redirections : List Redirection := []

/-- The name that a word may give to a function. -/
def functionName? (rich : Bool) (word : Word) : Option Raw :=
  match plainText? word with
  | some name =>
    if rich then some name
    else if isName name && !specialNames.contains name then some name
    else none
  | none => none

/-- Reads a simple command, or the definition of a function. -/
def simpleFrom (command : CommandReader) (around : Around) (line : Nat) :
    Nat → Simple → Reader Command
  | 0, _ => refuse .tooDeep
  | steps + 1, simple => do
    let rich ← isRich
    let finish : Reader Command := do
      pushBack
      return .simple line simple.assignments.reverse simple.words.reverse
        simple.redirections.reverse
    match ← token around { aliases := simple.words = [] } with
    | .word word =>
      match simple.words, assignment? rich word with
      | [], some assignment =>
        simpleFrom command around line steps
          { simple with assignments := assignment :: simple.assignments }
      | _, _ => simpleFrom command around line steps { simple with words := word :: simple.words }
    | .redirection channel sign =>
      let next ← redirection around channel sign
      simpleFrom command around line steps
        { simple with redirections := next :: simple.redirections }
    | .sign "(" =>
      match simple with
      | ⟨[], [name], []⟩ =>
        let next ← token around {}
        require (next.isSign ")") "\")\""
        match functionName? rich name with
        | none => refuse (.badFunctionName ((plainText? name).getD []))
        | some name => return .define (← get).line name (← command .onward)
      | _ => finish
    | _ => finish

/-- Reads the branches of a choice behind its first condition. -/
def branches (command : CommandReader) (around : Around) : Nat → Reader Command
  | 0 => refuse .tooDeep
  | steps + 1 => do
    let condition ← block command around
    keyword around "then" {}
    let yes ← block command around
    let next ← token around {}
    if next.isKeyword "elif" then
      return .branch condition yes (← branches command around steps)
    else if next.isKeyword "else" then return .branch condition yes (← block command around)
    else
      pushBack
      return .branch condition yes .nothing

/-- Reads words up to the end of a line. -/
def wordsHere (around : Around) : Nat → Reader (List Word)
  | 0 => refuse .tooDeep
  | steps + 1 => do
    match ← token around {} with
    | .word word => return word :: (← wordsHere around steps)
    | next =>
      if next.isSign ";" then return []
      else
        match next with
        | .break => return []
        | _ => unexpected none

/-- A token as a word. -/
def wordOf : Token → Word
  | .word word => word
  | .keyword text => [.plain text.toList]
  | _ => []

/-- Reads the patterns of a case up to the parenthesis. -/
def patterns (around : Around) : Nat → Token → Reader (List Word)
  | 0, _ => refuse .tooDeep
  | steps + 1, first => do
    let next ← token around {}
    if next.isSign "|" then return wordOf first :: (← patterns around steps (← token around {}))
    else
      require (next.isSign ")") "\")\""
      return [wordOf first]

/-- Reads the cases of a choice. -/
def cases (command : CommandReader) (around : Around) :
    Nat → Reader (List (List Word × Command × CaseEnd))
  | 0 => refuse .tooDeep
  | steps + 1 => do
    let looks : Looks := { breaks := true, keywords := true }
    let first ← token around looks
    if first.isKeyword "esac" then return []
    else
      let first ← if first.isSign "(" then token around {} else pure first
      let patterns ← patterns around ((← rest).length + 1) first
      let body := (← listOf command around .nested).getD .nothing
      let next ← token around looks
      let found (ending : CaseEnd) := (patterns, body, ending)
      if next.isKeyword "esac" then return [found .leave]
      else if next.isSign ";;" then return found .leave :: (← cases command around steps)
      else if next.isSign ";&" then return found .fall :: (← cases command around steps)
      else if next.isSign ";;&" then return found .resume :: (← cases command around steps)
      else unexpected (some "\";;\"")

/-- Reads the body of a loop. -/
def loopBody (command : CommandReader) (around : Around) : Reader Command := do
  keyword around "do" .onward
  let body ← block command around
  keyword around "done" {}
  return body

/-- Reads a loop over words. -/
def forEach (command : CommandReader) (around : Around) (line : Nat) (name : Raw) :
    Reader Command := do
  let next ← token around .onward
  if next.isKeyword "in" then
    let words ← wordsHere around ((← rest).length + 1)
    return .forEach line name (some words) (← loopBody command around)
  else
    if !next.isSign ";" then pushBack
    return .forEach line name none (← loopBody command around)

/-! ## Commands of the richer dialect -/

/-- The expressions of a loop that counts, between semicolons. -/
def counting (command : CommandReader) (around : Around) (line : Nat) : Reader Command := do
  let part : Reader Word := do
    let word ← pieces around (2 * (← rest).length + 2) .arithmetic (.before ";")
    advance 1
    return word
  advance 2
  let first ← part
  let condition ← part
  let step ← pieces around (2 * (← rest).length + 2) .arithmetic (.parentheses 0)
  let next ← token around .onward
  if !next.isSign ";" then pushBack
  let next ← token around .onward
  if next.isKeyword "\x7B" then
    let body ← block command around
    keyword around "\x7D" {}
    return .counting line first condition step body
  else
    pushBack
    return .counting line first condition step (← loopBody command around)

/-- Reads a word of a condition, and says whether it stands for itself alone. -/
def conditionWord (around : Around) (isPattern : Bool) (isExpression : Bool) :
    Reader (Option Word) := do
  skipBlanks (2 * (← rest).length + 2)
  match ← rest with
  | [] => refuse (.badCondition [])
  | '\n' :: _ => return none
  | _ =>
    let fuel := 2 * (← rest).length + 2
    if isExpression then return some (← pieces around fuel .bare (.before " \t\n"))
    else
      let before := (← get).patternGroups
      modify fun cursor => { cursor with patternGroups := before || isPattern }
      let found ← pieces around fuel .bare .word
      modify fun cursor => { cursor with patternGroups := before }
      return if found.isEmpty then none else some found

/-- The signs of two that are compared in a condition. -/
def comparisons : List Raw :=
  ["=", "==", "!=", "=~", "-eq", "-ne", "-lt", "-le", "-gt", "-ge", "-nt", "-ot", "-ef"].map
    String.toList

/-- Passes over blanks and breaks in a condition. -/
def skipLines : Nat → Reader Unit
  | 0 => pure ()
  | steps + 1 => do
    skipBlanks (2 * (← rest).length + 2)
    if (← peek) = some '\n' then
      advance 1
      skipLines steps

/-- Reads a condition: several of which one must hold, several that must all
hold, or a single one, by a level that goes down. -/
def testAt (around : Around) : Nat → Nat → Reader Test
  | 0, _ => refuse .tooDeep
  | steps + 1, 2 => do
    let first ← testAt around steps 1
    skipLines (← rest).length
    match ← rest with
    | '|' :: '|' :: _ =>
      advance 2
      return .either first (← testAt around steps 2)
    | _ => return first
  | steps + 1, 1 => do
    let first ← testAt around steps 0
    skipLines (← rest).length
    match ← rest with
    | '&' :: '&' :: _ =>
      advance 2
      return .both first (← testAt around steps 1)
    | _ => return first
  | steps + 1, _ => do
    skipLines (← rest).length
    match ← rest with
    | '(' :: _ =>
      advance 1
      let inner ← testAt around steps 2
      skipLines (← rest).length
      if (← peek) != some ')' then refuse (.badCondition [])
      advance 1
      return inner
    | _ =>
      match ← conditionWord around false false with
      | none => refuse (.badCondition [])
      | some first =>
        let second : Reader Test := do
          skipBlanks (2 * (← rest).length + 2)
          match ← rest with
          | '<' :: _ =>
            advance 1
            match ← conditionWord around false false with
            | some right => return .compare first ['<'] right
            | none => refuse (.badCondition [])
          | '>' :: _ =>
            advance 1
            match ← conditionWord around false false with
            | some right => return .compare first ['>'] right
            | none => refuse (.badCondition [])
          | _ =>
            let before ← get
            match ← conditionWord around false false with
            | some [.plain operator] =>
              if comparisons.contains operator then
                let isMatch := operator = ['=', '~']
                match ← conditionWord around (!isMatch) isMatch with
                | some right => return .compare first operator right
                | none => refuse (.badCondition [])
              else
                set before
                return .text first
            | _ =>
              set before
              return .text first
        match first with
        | [.plain ['!']] => return .negated (← testAt around steps 0)
        | [.plain ['-', letter]] =>
          let before ← get
          skipBlanks (2 * (← rest).length + 2)
          let closes : Bool :=
            match ← rest with
            | ']' :: ']' :: _ | '&' :: _ | '|' :: _ | ')' :: _ => true
            | _ => false
          if closes then second
          else
            match ← conditionWord around false false with
            | some [.plain operator] =>
              if comparisons.contains operator then
                set before
                second
              else return .about ['-', letter] [.plain operator]
            | some right => return .about ['-', letter] right
            | none =>
              set before
              second
        | _ => second

/-- Reads a condition up to the closing brackets. -/
def condition (around : Around) (line : Nat) : Reader Command := do
  let test ← testAt around (2 * (← rest).length + 8) 2
  skipLines (← rest).length
  match ← rest with
  | ']' :: ']' :: _ =>
    advance 2
    return .condition line test
  | text => refuse (.badCondition (text.takeWhile fun c => !endsWord c))

/-! ## All together -/

/-- Reads the redirections behind a compound command, and puts it together. -/
def redirected (around : Around) (line : Nat) (body : Command) : Reader Command := do
  let found ← redirections around ((← rest).length + 1)
  return if found.isEmpty then body else .redirected line body found

/-- Reads a command, given how the commands in it are read. -/
def commandFrom (command : CommandReader) (around : Around) (looks : Looks) : Reader Command := do
  let line := (← get).line
  let rich ← isRich
  let closing (text : String) (body : Command) : Reader Command := do
    keyword around text {}
    redirected around line body
  match ← token around looks with
  | .keyword "if" => closing "fi" (← branches command around ((← rest).length + 1))
  | .keyword "while" =>
    let test ← block command around
    keyword around "do" {}
    closing "done" (.loop true test (← block command around))
  | .keyword "until" =>
    let test ← block command around
    keyword around "do" {}
    closing "done" (.loop false test (← block command around))
  | .keyword "for" =>
    if rich then skipBlanks (← rest).length
    match rich, ← rest with
    | true, '(' :: '(' :: _ => redirected around line (← counting command around line)
    | _, _ =>
      match ← token around {} with
      | .word [.plain name] =>
        if isName name then redirected around line (← forEach command around line name)
        else refuse (.badLoopName name)
      | _ => refuse (.badLoopName [])
  | .keyword "case" =>
    match ← token around {} with
    | .word word =>
      keyword around "in" .onward
      redirected around line
        (.choice line word (← cases command around ((← rest).length + 1)))
    | _ => unexpected (some "word")
  | .keyword "\x7B" => closing "\x7D" (← block command around)
  | .keyword "[[" => redirected around line (← condition around line)
  | .keyword "time" => pipeline command around .command
  | .keyword "function" =>
    match ← token around {} with
    | .word word =>
      match plainText? word with
      | some name =>
        let next ← token around .onward
        if next.isSign "(" then
          let next ← token around {}
          require (next.isSign ")") "\")\""
          return .define line name (← command .onward)
        else
          pushBack
          return .define line name (← command {})
      | none => refuse (.badFunctionName [])
    | _ => unexpected none
  | .sign "(" =>
    let subshell : Reader Command := do
      let body ← block command around
      let next ← token around {}
      require (next.isSign ")") "\")\""
      redirected around line (.subshell line body)
    let arithmetic : Reader Command := do
      advance 1
      let expression ← pieces around (2 * (← rest).length + 2) .arithmetic (.parentheses 0)
      redirected around line (.arithmetic line expression)
    if rich && (← peek) = some '(' then orElse arithmetic subshell else subshell
  | .word _ | .redirection _ _ =>
    pushBack
    simpleFrom command around (← get).line ((← rest).length + 3) {}
  | _ => unexpected none

mutual

/-- Reads a command that is nested at most so deep. -/
def commandWithin : Nat → CommandReader
  | 0 => fun _ => refuse .tooDeep
  | depth + 1 => fun looks =>
    commandFrom (commandWithin depth) { nested := scriptWithin depth } looks

/-- Reads a script in a word that is nested at most so deep. Here-documents that
are still awaited behind it are read with those of the line around it. -/
def scriptWithin : Nat → Bool → Reader Command
  | 0 => fun _ => refuse .tooDeep
  | depth + 1 => fun closes => do
    let around : Around := { nested := scriptWithin depth }
    let before := (← get).awaited
    modify fun cursor => { cursor with awaited := [], pushed := false }
    let found ← listOf (commandWithin depth) around .nested
    if closes then
      let last ← token around {}
      if !last.isSign ")" then unexpected (some "\")\"")
    modify fun cursor => { cursor with awaited := before ++ cursor.awaited, pushed := false }
    return found.getD .nothing

end

/-- A complete line of a script; nothing at its end. -/
inductive Portion where
  | finish
  | line (command : Option Command)

/-- Reads a complete line. -/
def portion : Reader Portion := do
  let around : Around := { nested := scriptWithin maxDepth }
  modify fun cursor => { cursor with pushed := false }
  let found ← listOf (commandWithin maxDepth) around .line
  let cursor ← get
  match found, cursor.last with
  | none, .finish => return .finish
  | _, _ => return .line found

end Script

end Rehearsal

end InstallPlan
