import InstallPlan.Rehearsal.Records.Cell
import InstallPlan.Rehearsal.Records.Program
import InstallPlan.Rehearsal.Records.Token

/-!
# Rehearsal — Reading programs about records

Reads a program from its tokens. Expressions have levels, of which each is made of
expressions of the next one: choices, alternatives, conjunctions, memberships,
matches, comparisons, rows of texts, sums, products, signs and powers.
-/

namespace InstallPlan

namespace Rehearsal

namespace Records

/-- A step of reading. -/
abbrev Reader := EStateM (Flaw × Nat) (List Placed)

namespace Reader

/-- The next token. -/
def peek? : Reader (Option Token) := return (← get).head?.map (·.token)

/-- The next tokens, so many of them. -/
def front (count : Nat) : Reader (List Token) := return ((← get).take count).map (·.token)

/-- Skips a token. -/
def skip : Reader Unit := modify fun tokens => tokens.drop 1

/-- The complaint about the next token. -/
def fail {α : Type} : Reader α := do
  match (← get).head? with
  | some placed => throw (.unexpected placed.token.written, placed.line)
  | none => throw (.tooShort, 0)

/-- Skips a token if it is the next one, and tells whether it is. -/
def accept (token : Token) : Reader Bool := do
  if (← peek?) = some token then
    skip
    return true
  else return false

/-- Skips a sign that must come next. -/
def expect (sign : String) : Reader Unit := do
  if !(← accept (.sign sign)) then fail

/-- Skips line breaks. -/
def skipLines : Reader Unit := modify fun tokens => tokens.dropWhile (·.token = .newline)

/-- Skips what may end statements. -/
def skipEnds : Reader Unit :=
  modify fun tokens => tokens.dropWhile fun p => p.token = .newline || p.token = .sign ";"

/-- Reads a name. -/
def name : Reader Raw := do
  match ← peek? with
  | some (.name n) | some (.call n) =>
    skip
    return n
  | _ => fail

end Reader

open Reader

/-- Where an expression stands. -/
structure Place where
  /-- Whether a name behind the word for membership belongs to the expression. -/
  membership : Bool := true
  /-- Whether a sign for more compares. -/
  more : Bool := true

/-- The operation of a sign that assigns; nothing if the sign does not assign. -/
def assignment? : String → Option (Option Arithmetical)
  | "=" => some none
  | "+=" => some (some .plus)
  | "-=" => some (some .minus)
  | "*=" => some (some .times)
  | "/=" => some (some .over)
  | "%=" => some (some .modulo)
  | "^=" => some (some .power)
  | _ => none

/-- The comparison of a sign. -/
def comparison? (place : Place) : String → Option Comparison
  | "<" => some .less
  | "<=" => some .atMost
  | "==" => some .equal
  | "!=" => some .different
  | ">" => if place.more then some .more else none
  | ">=" => some .atLeast
  | _ => none

/-- Whether an expression that is joined to another one can begin with a token. -/
def beginsOperand : Token → Bool
  | .number _ | .text _ | .regex _ | .name _ | .call _ | .builtin _ => true
  | .sign s => s = "$" || s = "!" || s = "(" || s = "-" || s = "+" || s = "++" || s = "--"
  | _ => false

mutual

/-- Reads an expression. -/
def expression (place : Place) : Nat → Reader Expr
  | 0 => fail
  | steps + 1 => do
    let condition ← alternative place steps
    if ← accept (.sign "?") then
      skipLines
      let yes ← expression place steps
      skipLines
      expect ":"
      skipLines
      return .choose condition yes (← expression place steps)
    else return condition

/-- Reads alternatives. -/
def alternative (place : Place) : Nat → Reader Expr
  | 0 => fail
  | steps + 1 => do
    let left ← conjunction place steps
    if ← accept (.sign "||") then
      skipLines
      return .either left (← alternative place steps)
    else return left

/-- Reads a conjunction. -/
def conjunction (place : Place) : Nat → Reader Expr
  | 0 => fail
  | steps + 1 => do
    let left ← membership place steps
    if ← accept (.sign "&&") then
      skipLines
      return .both left (← conjunction place steps)
    else return left

/-- Reads memberships. -/
def membership (place : Place) : Nat → Reader Expr
  | 0 => fail
  | steps + 1 => do
    let left ← matching place steps
    memberships place steps left

/-- Goes on reading memberships. -/
def memberships (place : Place) : Nat → Expr → Reader Expr
  | 0, left => return left
  | steps + 1, left => do
    if place.membership ∧ (← peek?) = some (.keyword "in") then
      skip
      memberships place steps (.contains [left] (← name))
    else return left

/-- Reads matches. -/
def matching (place : Place) : Nat → Reader Expr
  | 0 => fail
  | steps + 1 => do
    let left ← comparing place steps
    matchings place steps left

/-- Goes on reading matches. -/
def matchings (place : Place) : Nat → Expr → Reader Expr
  | 0, left => return left
  | steps + 1, left => do
    match ← peek? with
    | some (.sign "~") =>
      skip
      matchings place steps (.matching true left (← comparing place steps))
    | some (.sign "!~") =>
      skip
      matchings place steps (.matching false left (← comparing place steps))
    | _ => return left

/-- Reads comparisons. -/
def comparing (place : Place) : Nat → Reader Expr
  | 0 => fail
  | steps + 1 => do
    let left ← joined place steps
    comparisons place steps left

/-- Goes on reading comparisons. -/
def comparisons (place : Place) : Nat → Expr → Reader Expr
  | 0, left => return left
  | steps + 1, left => do
    match ← peek? with
    | some (.sign s) =>
      match comparison? place s with
      | some comparison =>
        skip
        comparisons place steps (.compare comparison left (← joined place steps))
      | none => return left
    | _ => return left

/-- Reads a row of texts. -/
def joined (place : Place) : Nat → Reader Expr
  | 0 => fail
  | steps + 1 => do
    let left ← sum place steps
    row place steps left

/-- Goes on reading a row of texts. -/
def row (place : Place) : Nat → Expr → Reader Expr
  | 0, left => return left
  | steps + 1, left => do
    match ← peek? with
    | some token =>
      if beginsOperand token then row place steps (.joined left (← sum place steps))
      else return left
    | none => return left

/-- Reads a sum. -/
def sum (place : Place) : Nat → Reader Expr
  | 0 => fail
  | steps + 1 => do
    let left ← product place steps
    sums place steps left

/-- Goes on reading a sum. -/
def sums (place : Place) : Nat → Expr → Reader Expr
  | 0, left => return left
  | steps + 1, left => do
    match ← peek? with
    | some (.sign "+") =>
      skip
      sums place steps (.compute .plus left (← product place steps))
    | some (.sign "-") =>
      skip
      sums place steps (.compute .minus left (← product place steps))
    | _ => return left

/-- Reads a product. -/
def product (place : Place) : Nat → Reader Expr
  | 0 => fail
  | steps + 1 => do
    let left ← signed place steps
    products place steps left

/-- Goes on reading a product. -/
def products (place : Place) : Nat → Expr → Reader Expr
  | 0, left => return left
  | steps + 1, left => do
    let operator : Option Arithmetical :=
      match ← peek? with
      | some (.sign "*") => some .times
      | some (.sign "/") => some .over
      | some (.sign "%") => some .modulo
      | _ => none
    match operator with
    | some operator =>
      skip
      products place steps (.compute operator left (← signed place steps))
    | none => return left

/-- Reads an expression with a sign in front. -/
def signed (place : Place) : Nat → Reader Expr
  | 0 => fail
  | steps + 1 => do
    match ← peek? with
    | some (.sign "!") =>
      skip
      return .unary .not (← signed place steps)
    | some (.sign "-") =>
      skip
      return .unary .minus (← signed place steps)
    | some (.sign "+") =>
      skip
      return .unary .plus (← signed place steps)
    | _ =>
      let operand ← power place steps
      piped steps operand

/-- Goes on reading what a command is asked for. -/
def piped : Nat → Expr → Reader Expr
  | 0, left => return left
  | steps + 1, left => do
    match ← front 2 with
    | [.sign "|", .keyword "getline"] =>
      skip
      skip
      piped steps (.readLine (← target? steps) (.command left))
    | _ => return left

/-- Reads a power. -/
def power (place : Place) : Nat → Reader Expr
  | 0 => fail
  | steps + 1 => do
    let left ← operand place steps
    if ← accept (.sign "^") then
      let right ← match ← peek? with
        | some (.sign "-") => do
          skip
          pure (Expr.unary .minus (← power place steps))
        | some (.sign "+") => do
          skip
          power place steps
        | some (.sign "!") => do
          skip
          pure (Expr.unary .not (← power place steps))
        | _ => power place steps
      return .compute .power left right
    else return left

/-- Reads something that can be assigned to, if there is any. -/
def target? : Nat → Reader (Option Expr)
  | 0 => return none
  | steps + 1 => do
    match ← peek? with
    | some (.name _) | some (.sign "$") => return some (← reference steps)
    | _ => return none

/-- Reads a name, a member of an array or a field. -/
def reference : Nat → Reader Expr
  | 0 => fail
  | steps + 1 => do
    match ← peek? with
    | some (.name n) =>
      skip
      if ← accept (.sign "[") then
        let keys ← list {} "]" steps
        return .member n keys
      else return .name n
    | some (.sign "$") =>
      skip
      match ← peek? with
      | some (.sign "++") =>
        skip
        return .field (.step 1 false (← reference steps))
      | some (.sign "--") =>
        skip
        return .field (.step (-1) false (← reference steps))
      | some (.sign "-") =>
        skip
        return .field (.unary .minus (← simple steps))
      | _ => return .field (← simple steps)
    | _ => fail

/-- Reads what stands behind the sign for a field. -/
def simple : Nat → Reader Expr
  | 0 => fail
  | steps + 1 => do
    match ← peek? with
    | some (.name _) | some (.sign "$") => reference steps
    | _ => single steps

/-- Reads an operand, with what is assigned to it. -/
def operand (place : Place) : Nat → Reader Expr
  | 0 => fail
  | steps + 1 => do
    match ← peek? with
    | some (.name _) | some (.sign "$") =>
      let found ← reference steps
      match ← peek? with
      | some (.sign "++") =>
        skip
        return .step 1 true found
      | some (.sign "--") =>
        skip
        return .step (-1) true found
      | some (.sign s) =>
        match assignment? s with
        | some operator =>
          skip
          skipLines
          return .assign operator found (← expression place steps)
        | none => return found
      | _ => return found
    | some (.sign "++") =>
      skip
      return .step 1 false (← reference steps)
    | some (.sign "--") =>
      skip
      return .step (-1) false (← reference steps)
    | _ => single steps

/-- Reads an operand to which nothing can be assigned. -/
def single : Nat → Reader Expr
  | 0 => fail
  | steps + 1 => do
    match ← peek? with
    | some (.number value) =>
      skip
      return .number value.toFloat
    | some (.text text) =>
      skip
      return .text text
    | some (.regex written) =>
      skip
      return .regex written
    | some (.sign "(") =>
      skip
      let items ← list {} ")" steps
      match items with
      | [item] => return item
      | [] => fail
      | keys =>
        if ← accept (.keyword "in") then return .contains keys (← name) else fail
    | some (.call n) =>
      skip
      expect "("
      return .call n (← list {} ")" steps)
    | some (.builtin b) =>
      skip
      if ← accept (.sign "(") then return .builtin b (← list {} ")" steps)
      else if b = "length" then return .builtin b []
      else fail
    | some (.keyword "getline") =>
      skip
      let target ← target? steps
      if ← accept (.sign "<") then
        return .readLine target (.file (← operand { more := false } steps))
      else return .readLine target .input
    | _ => fail

/-- Reads expressions between commas up to a closing sign. -/
def list (place : Place) (closing : String) : Nat → Reader (List Expr)
  | 0 => fail
  | steps + 1 => do
    skipLines
    if ← accept (.sign closing) then return []
    else
      let first ← expression place steps
      skipLines
      if ← accept (.sign ",") then
        let more ← list place closing steps
        if more.isEmpty then fail else return first :: more
      else
        expect closing
        return [first]

end

/-- Reads expressions between commas that no sign encloses. -/
def items (place : Place) : Nat → Reader (List Expr)
  | 0 => fail
  | steps + 1 => do
    let first ← expression place (20 * steps + 20)
    if ← accept (.sign ",") then
      skipLines
      return first :: (← items place steps)
    else return [first]

/-- Whether a statement ends at a token. -/
def endsStatement : Option Token → Bool
  | none | some .newline | some (.sign ";") | some (.sign "\x7D") => true
  | _ => false

/-- Whether what is printed ends at a token. -/
def endsItems : Option Token → Bool
  | some (.sign ">") | some (.sign ">>") | some (.sign "|") => true
  | token => endsStatement token

/-- Reads what is printed, and where. -/
def printing (steps : Nat) : Reader (List Expr × Option (Goal × Expr)) := do
  let start ← get
  let enclosed : Option (List Expr) ←
    if (← peek?) = some (.sign "(") then
      tryCatch
        (do
          skip
          let found ← list {} ")" steps
          if endsItems (← peek?) then pure (some found) else pure none)
        fun _ => pure none
    else pure none
  let found ←
    match enclosed with
    | some found => pure found
    | none =>
      set start
      if endsItems (← peek?) then pure [] else items { more := false } steps
  let goal : Option Goal :=
    match ← peek? with
    | some (.sign ">") => some .file
    | some (.sign ">>") => some .extension
    | some (.sign "|") => some .command
    | _ => none
  match goal with
  | none => return (found, none)
  | some goal =>
    skip
    return (found, some (goal, ← expression { more := false } steps))

/-- Reads the end of a statement. -/
def statementEnd : Reader Unit := do
  match ← peek? with
  | none | some (.sign "\x7D") => pure ()
  | some .newline | some (.sign ";") => skip
  | _ => fail

/-- Reads a statement that is made of no others. -/
def simpleStatement (steps : Nat) : Reader Statement := do
  match ← peek? with
  | some (.keyword "print") =>
    skip
    let (found, goal) ← printing steps
    return .print found goal
  | some (.keyword "printf") =>
    skip
    let (found, goal) ← printing steps
    if found.isEmpty then fail else return .printFormat found goal
  | some (.keyword "next") =>
    skip
    return .next
  | some (.keyword "nextfile") =>
    skip
    return .nextFile
  | some (.keyword "break") =>
    skip
    return .leave
  | some (.keyword "continue") =>
    skip
    return .again
  | some (.keyword "exit") =>
    skip
    if endsStatement (← peek?) then return .exit none
    else return .exit (some (← expression {} steps))
  | some (.keyword "return") =>
    skip
    if endsStatement (← peek?) then return .giveBack none
    else return .giveBack (some (← expression {} steps))
  | some (.keyword "delete") =>
    skip
    let array ← name
    if ← accept (.sign "[") then return .delete array (← list {} "]" steps)
    else return .delete array []
  | _ => return .evaluate (← expression {} steps)

mutual

/-- Reads a statement. -/
def statement : Nat → Reader Statement
  | 0 => fail
  | steps + 1 => do
    match ← peek? with
    | some (.sign "\x7B") =>
      skip
      let found ← statements steps
      expect "\x7D"
      return .block found
    | some (.sign ";") =>
      skip
      return .nothing
    | some (.keyword "if") =>
      skip
      expect "("
      let condition ← expression {} (20 * steps + 20)
      expect ")"
      skipLines
      let yes ← statement steps
      let behind ← get
      skipEnds
      if ← accept (.keyword "else") then
        skipLines
        return .branch condition yes (← statement steps)
      else
        set behind
        return .branch condition yes .nothing
    | some (.keyword "while") =>
      skip
      expect "("
      let condition ← expression {} (20 * steps + 20)
      expect ")"
      if ← accept (.sign ";") then return .loop condition .nothing .nothing
      skipLines
      return .loop condition (← statement steps) .nothing
    | some (.keyword "do") =>
      skip
      skipLines
      let body ← statement steps
      skipEnds
      if !(← accept (.keyword "while")) then fail
      expect "("
      let condition ← expression {} (20 * steps + 20)
      expect ")"
      statementEnd
      return .loopAfter body condition
    | some (.keyword "for") =>
      skip
      expect "("
      forLoop steps
    | _ =>
      let found ← simpleStatement (20 * steps + 20)
      statementEnd
      return found

/-- Reads a loop behind its opening bracket. -/
def forLoop : Nat → Reader Statement
  | 0 => fail
  | steps + 1 => do
    match ← front 4 with
    | [.name key, .keyword "in", .name array, .sign ")"] =>
      modify fun tokens => tokens.drop 4
      skipLines
      return .forKeys key array (← statement steps)
    | _ =>
      let first ←
        if (← peek?) = some (.sign ";") then pure Statement.nothing
        else simpleStatement (20 * steps + 20)
      expect ";"
      skipLines
      let condition ←
        if (← peek?) = some (.sign ";") then pure (Expr.number 1)
        else expression {} (20 * steps + 20)
      expect ";"
      skipLines
      let step ←
        if (← peek?) = some (.sign ")") then pure Statement.nothing
        else simpleStatement (20 * steps + 20)
      expect ")"
      if ← accept (.sign ";") then
        return .block [first, .loop condition .nothing step]
      skipLines
      let body ← statement steps
      return .block [first, .loop condition body step]

/-- Reads statements up to a closing brace. -/
def statements : Nat → Reader (List Statement)
  | 0 => fail
  | steps + 1 => do
    skipEnds
    match ← peek? with
    | none | some (.sign "\x7D") => return []
    | _ =>
      let first ← statement steps
      return first :: (← statements steps)

end

/-- Reads a block. -/
def block (steps : Nat) : Reader Statement := do
  expect "\x7B"
  let found ← statements steps
  expect "\x7D"
  return .block found

/-- Reads the rules and functions of a program. -/
def rules : Nat → Program → Reader Program
  | 0, program => return program
  | steps + 1, program => do
    skipEnds
    match ← peek? with
    | none => return program
    | some (.keyword "BEGIN") =>
      skip
      let body ← block steps
      rules steps { program with beginnings := program.beginnings ++ [body] }
    | some (.keyword "END") =>
      skip
      let body ← block steps
      rules steps { program with endings := program.endings ++ [body] }
    | some (.keyword "function") =>
      skip
      let called ← name
      expect "("
      let parameters ← list {} ")" (20 * steps + 20)
      let names ← parameters.mapM fun parameter =>
        match parameter with
        | .name n => pure n
        | _ => fail
      skipLines
      let body ← block steps
      rules steps
        { program with functions := program.functions ++ [⟨called, names, body⟩] }
    | some (.sign "\x7B") =>
      let body ← block steps
      rules steps { program with rules := program.rules ++ [(.always, body)] }
    | some _ =>
      let first ← expression {} (20 * steps + 20)
      let pattern ←
        if ← accept (.sign ",") then
          skipLines
          pure (Pattern.range first (← expression {} (20 * steps + 20)))
        else pure (.holds first)
      let body ←
        if (← peek?) = some (.sign "\x7B") then block steps else pure (.print [] none)
      rules steps { program with rules := program.rules ++ [(pattern, body)] }

mutual

/-- The functions that an expression calls. -/
def Expr.calls : Expr → List Raw
  | .call name arguments => name :: callsOf arguments
  | .member _ keys | .contains keys _ => callsOf keys
  | .field e | .step _ _ e | .unary _ e => e.calls
  | .assign _ a b | .compute _ a b | .compare _ a b | .matching _ a b | .both a b | .either a b
  | .joined a b => a.calls ++ b.calls
  | .choose a b c => a.calls ++ b.calls ++ c.calls
  | .builtin _ arguments => callsOf arguments
  | .readLine _ (.file e) | .readLine _ (.command e) => e.calls
  | _ => []

/-- The functions that some expressions call. -/
def callsOf : List Expr → List Raw
  | [] => []
  | e :: rest => e.calls ++ callsOf rest

end

mutual

/-- The functions that a statement calls. -/
def Statement.calls : Statement → List Raw
  | .evaluate e => e.calls
  | .print items goal | .printFormat items goal =>
    callsOf items ++ callsOf (goal.map (·.2)).toList
  | .branch c a b => c.calls ++ a.calls ++ b.calls
  | .loop c a b => c.calls ++ a.calls ++ b.calls
  | .loopAfter a c => a.calls ++ c.calls
  | .forKeys _ _ body => body.calls
  | .block statements => callsOfAll statements
  | .exit (some e) | .giveBack (some e) => e.calls
  | .delete _ keys => callsOf keys
  | _ => []

/-- The functions that some statements call. -/
def callsOfAll : List Statement → List Raw
  | [] => []
  | s :: rest => s.calls ++ callsOfAll rest

end

/-- The functions that a program calls. -/
def Program.calls (program : Program) : List Raw :=
  callsOfAll program.beginnings ++ callsOfAll program.endings
    ++ callsOfAll (program.functions.map (·.body))
    ++ callsOfAll (program.rules.map (·.2))
    ++ program.rules.flatMap fun (pattern, _) =>
      match pattern with
      | .always => []
      | .holds e => e.calls
      | .range a b => a.calls ++ b.calls

/-- Reads a program, or tells what is wrong with it and in which line. -/
def Program.read (text : Raw) : Except (Flaw × Nat) Program :=
  match Token.ofText text with
  | .error flaw => .error flaw
  | .ok tokens =>
    let lines := (text.filter (· = '\n')).length + 1
    match Records.rules (tokens.length + 2) {} tokens with
    | .error (flaw, line) _ => .error (flaw, if line = 0 then lines + 1 else line)
    | .ok program _ =>
      let known := program.functions.map (·.name)
      match program.calls.find? fun called => !known.contains called with
      | some called => .error (.unknownFunction called, lines + 1)
      | none => .ok program

end Records

end Rehearsal

end InstallPlan
