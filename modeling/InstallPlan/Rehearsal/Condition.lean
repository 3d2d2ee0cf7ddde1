import InstallPlan.Rehearsal.Printing.Format
import InstallPlan.Rehearsal.Process

/-!
# Rehearsal — Conditions

The conditions of `test`: about texts, numbers and files, joined by `-a`, `-o`
and `!`. There are two readings of the words: one goes by what the words look
like (`Condition.plain`), the other first by how many there are
(`Condition.counted`).
-/

namespace InstallPlan

namespace Rehearsal

namespace Condition

/-- A decimal number with an optional sign, blanks around it being left out. -/
def number? (text : Raw) : Option Int :=
  let text := Raw.trim isWhite text
  let (sign, digits) : Int × Raw :=
    match text with
    | '-' :: more => (-1, more)
    | '+' :: more => (1, more)
    | _ => (1, text)
  if digits = [] ∨ !digits.all Char.isDigit then none
  else some (sign * (Escapes.ofDigits 10 digits : Nat))

/-- A number that fits into 64 bits. -/
def shortNumber? (text : Raw) : Option Int :=
  (number? text).filter fun n => Format.limits.1 ≤ n ∧ n ≤ Format.limits.2

/-- Whether a path leads to a node that is so. -/
def isNode (process : Process) (path : Raw) (holds : Node → Bool) : Bool :=
  match process.status? path with
  | .ok (_, node) => holds node
  | .error _ => false

/-- Whether a path leads to a symbolic link. -/
def isLink (process : Process) (path : Raw) : Bool :=
  match process.tree.findUnfollowed process.here path with
  | .ok number => (process.tree.entry? number).any Entry.isLink
  | .error _ => false

/-- The operators with one operand. -/
def unary : List String :=
  ["-b", "-c", "-d", "-e", "-f", "-g", "-G", "-h", "-k", "-L", "-n", "-O", "-p", "-r", "-s",
    "-S", "-t", "-u", "-w", "-x", "-z"]

/-- What an operator says about one word. -/
def about (process : Process) (operator word : Raw) : Bool :=
  let node := isNode process word
  match String.ofList operator with
  | "-n" => word ≠ []
  | "-z" => word = []
  | "-h" | "-L" => isLink process word
  | "-f" => node fun n => n.entry.isRegular
  | "-d" => node fun n => n.entry.isDirectory
  | "-c" => node fun n => n.entry.isDevice
  | "-p" => node fun n => n.entry.isQueue
  | "-s" => node fun n => n.entry.size ≠ 0
  | "-x" => node fun n => n.isExecutable
  | "-u" => node fun n => n.mode &&& 0o4000 != 0
  | "-g" => node fun n => n.mode &&& 0o2000 != 0
  | "-k" => node fun n => n.mode &&& 0o1000 != 0
  | "-b" | "-S" | "-t" => false
  | _ => node fun _ => true

/-- What a comparison of numbers says. -/
def comparison? (operator : Raw) : Option (Int → Int → Bool) :=
  match String.ofList operator with
  | "-eq" => some (· == ·)
  | "-ne" => some (· != ·)
  | "-lt" => some (· < ·)
  | "-le" => some (· ≤ ·)
  | "-gt" => some (· > ·)
  | "-ge" => some (· ≥ ·)
  | _ => none

/-- What a comparison of files says. A file that is missing is older than any
other if that is asked for. -/
def files? (process : Process) (missingIsOld : Bool) (operator left right : Raw) : Option Bool :=
  let stamp (path : Raw) : Option Int := (process.status? path).toOption.map (·.2.stamp)
  let older (a b : Raw) : Bool :=
    match stamp a, stamp b with
    | some x, some y => x < y
    | none, some _ => missingIsOld
    | _, none => false
  match String.ofList operator with
  | "-nt" => some (older right left)
  | "-ot" => some (older left right)
  | "-ef" =>
    some (match process.status? left, process.status? right with
      | .ok (a, _), .ok (b, _) => a = b
      | _, _ => false)
  | _ => none

/-- What a comparison of texts says. -/
def texts? (operator left right : Raw) : Option Bool :=
  match String.ofList operator with
  | "=" => some (left = right)
  | "!=" => some (left ≠ right)
  | "<" => some (!Raw.atMost right left)
  | ">" => some (!Raw.atMost left right)
  | _ => none

/-- The operators with two operands. -/
def binary : List String :=
  ["=", "!=", "<", ">", "-eq", "-ne", "-lt", "-le", "-gt", "-ge", "-nt", "-ot", "-ef"]

/-- An answer, or what is wrong with the question. -/
abbrev Answer := Except Raw

/-! ## By looks -/

/-- Words by their looks: what they are where they stand. -/
structure Looks where
  process : Process
  words : Array Raw

namespace Looks

/-- Whether a word is an operator with one operand, and stands where one can be. -/
def isUnary (looks : Looks) (i : Nat) : Bool :=
  match looks.words[i]? with
  | none => false
  | some word =>
    let isOperand :=
      match looks.words[i + 1]?, looks.words[i + 2]? with
      | none, _ => true
      | some _, none => false
      | some next, some _ => binary.contains (String.ofList next)
    unary.contains (String.ofList word) && !isOperand

/-- Whether a word is a given mark. -/
def isMark (looks : Looks) (i : Nat) (mark : Char) : Bool :=
  looks.words[i]? = some [mark] && (mark ≠ '(' || (looks.words[i + 1]?).isSome)

/-- Whether a word is a given joint. -/
def isJoint (looks : Looks) (i : Nat) (joint : String) : Bool :=
  looks.words[i]? = some joint.toList

/-- Whether a word is an operator with two operands. -/
def isBinary (looks : Looks) (i : Nat) : Bool :=
  (looks.words[i]?).any fun word => binary.contains (String.ofList word)

/-- A number, or the complaint that there is none. -/
def number (text : Raw) : Answer Int :=
  match shortNumber? text with
  | some n => .ok n
  | none => .error ("Illegal number: ".toList ++ text)

/-- What an operator says about two words. -/
def compare (looks : Looks) (left operator right : Raw) : Answer Bool :=
  match texts? operator left right, files? looks.process false operator left right,
      comparison? operator with
  | some holds, _, _ => .ok holds
  | none, some holds, _ => .ok holds
  | none, none, some compare => do return compare (← number left) (← number right)
  | none, none, none => .ok false

mutual

/-- What `-o` joins. The last word that was read is told, too. -/
def either (looks : Looks) : Nat → Nat → Answer (Bool × Nat)
  | 0, i => .ok (false, i)
  | steps + 1, i => do
    let (left, i) ← looks.both steps i
    if looks.isJoint (i + 1) "-o" then
      let (right, i) ← looks.either steps (i + 2)
      return (left || right, i)
    else return (left, i)

/-- What `-a` joins. -/
def both (looks : Looks) : Nat → Nat → Answer (Bool × Nat)
  | 0, i => .ok (false, i)
  | steps + 1, i => do
    let (left, i) ← looks.single steps i
    if looks.isJoint (i + 1) "-a" then
      let (right, i) ← looks.both steps (i + 2)
      return (left && right, i)
    else return (left, i)

/-- A condition that nothing joins. -/
def single (looks : Looks) : Nat → Nat → Answer (Bool × Nat)
  | 0, i => .ok (false, i)
  | steps + 1, i => do
    match looks.words[i]? with
    | none => return (false, i)
    | some word =>
      if looks.isMark i '!' then
        let (holds, i) ← looks.single steps (i + 1)
        return (!holds, i)
      else if looks.isMark i '(' then
        if looks.isMark (i + 1) ')' then return (false, i + 1)
        else
          let (holds, i) ← looks.either steps (i + 1)
          if looks.isMark (i + 1) ')' then return (holds, i + 1)
          else .error "closing paren expected".toList
      else if looks.isUnary i then
        match looks.words[i + 1]? with
        | some operand =>
          if word = "-t".toList then let _ ← number operand
          return (about looks.process word operand, i + 1)
        | none => .error (word ++ ": argument expected".toList)
      else if looks.isBinary (i + 1) then
        match looks.words[i + 1]?, looks.words[i + 2]? with
        | some operator, some right => return (← looks.compare word operator right, i + 2)
        | some operator, none => .error (operator ++ ": argument expected".toList)
        | none, _ => return (false, i)
      else return (word ≠ [], i)

end

/-- A condition of three words around an operator, or of any other form. -/
def whole (looks : Looks) : Answer Bool := do
  let steps := 4 * looks.words.size + 8
  let (holds, last) ←
    match looks.words[0]?, looks.words[1]?, looks.words[2]?, looks.words[3]? with
    | some left, some operator, some right, none =>
      if looks.isBinary 1 then pure (← looks.compare left operator right, 2)
      else looks.either steps 0
    | _, _, _, _ => looks.either steps 0
  match looks.words[last + 1]?, looks.words[last]? with
  | some _, some word =>
    .error ((if word = [] then [] else word ++ ": ".toList) ++ "unexpected operator".toList)
  | _, _ => return holds

end Looks

/-- Reads a condition by the looks of its words. -/
def plain (process : Process) (words : List Raw) : Answer Bool :=
  match words with
  | [] => .ok false
  | [['!'], a, b] =>
    if binary.contains (String.ofList a) then Looks.whole ⟨process, #[['!'], a, b]⟩
    else (Looks.whole ⟨process, #[a, b]⟩).map (!·)
  | [['!'], a, b, c] => (Looks.whole ⟨process, #[a, b, c]⟩).map (!·)
  | ['('] :: rest =>
    if (words.length = 3 ∨ words.length = 4) ∧ words.getLast? = some [')']
        ∧ !(words.length = 3 ∧ (rest.head?.any fun w => binary.contains (String.ofList w))) then
      Looks.whole ⟨process, rest.dropLast.toArray⟩
    else Looks.whole ⟨process, words.toArray⟩
  | _ => Looks.whole ⟨process, words.toArray⟩

/-! ## By number -/

/-- Words by their number. -/
structure Counted where
  process : Process
  words : Array Raw
  /-- Whether a variable of a name has a value, for a shell that can say so. -/
  isSet : Option (Raw → Bool) := none

namespace Counted

/-- A word. -/
def word (counted : Counted) (i : Nat) : Raw := (counted.words[i]?).getD []

/-- Whether a word is an operator with two operands. -/
def isBinary (operator : Raw) : Bool :=
  operator = ['=', '='] || binary.contains (String.ofList operator)

/-- Whether a word is an operator with one operand. -/
def isUnary (counted : Counted) (operator : Raw) : Bool :=
  unary.contains (String.ofList operator) || operator = "-N".toList
    || (counted.isSet.isSome && ["-a", "-o", "-v"].contains (String.ofList operator))

/-- A complaint about a word, which only a shell does not put between quotes. -/
def flaw {α : Type} (counted : Counted) (word : Raw) (text : String) : Answer α :=
  .error ((if counted.isSet.isSome then word else '\x27' :: word ++ ['\x27'])
    ++ ": ".toList ++ text.toList)

/-- A number, or the complaint that there is none. -/
def number (counted : Counted) (text : Raw) : Answer Int :=
  match number? text with
  | some n => .ok n
  | none =>
    if counted.isSet.isSome then .error (text ++ ": integer expression expected".toList)
    else .error ("invalid integer '".toList ++ text ++ ['\x27'])

/-- The complaint that a word is missing behind another. -/
def missing {α : Type} (counted : Counted) (word : Raw) : Answer α :=
  .error (if counted.isSet.isSome then "argument expected".toList
    else "missing argument after '".toList ++ word ++ ['\x27'])

/-- What an operator says about one word. -/
def single (counted : Counted) (operator operand : Raw) : Answer Bool :=
  match counted.isSet, String.ofList operator with
  | some isSet, "-v" => .ok (isSet operand)
  | some _, "-o" => .ok false
  | _, "-a" => .ok (about counted.process "-e".toList operand)
  | none, "-t" => do
    let _ ← counted.number operand
    return false
  | _, _ => .ok (about counted.process operator operand)

/-- What an operator says about two words. -/
def compare (counted : Counted) (left operator right : Raw) : Answer Bool :=
  let operator := if operator = ['=', '='] then ['='] else operator
  match texts? operator left right, files? counted.process true operator left right,
      comparison? operator with
  | some holds, _, _ => .ok holds
  | none, some holds, _ => .ok holds
  | none, none, some compare => do
    return compare (← counted.number left) (← counted.number right)
  | none, none, none => .ok false

mutual

/-- What `-o` joins; the word behind it is told, too. -/
def either (counted : Counted) : Nat → Nat → Answer (Bool × Nat)
  | 0, i => .ok (false, i)
  | steps + 1, i => do
    let (left, i) ← counted.both steps i
    if counted.words[i]? = some "-o".toList then
      let (right, i) ← counted.either steps (i + 1)
      return (left || right, i)
    else return (left, i)

/-- What `-a` joins. -/
def both (counted : Counted) : Nat → Nat → Answer (Bool × Nat)
  | 0, i => .ok (false, i)
  | steps + 1, i => do
    let (left, i) ← counted.term steps i
    if counted.words[i]? = some "-a".toList then
      let (right, i) ← counted.both steps (i + 1)
      return (left && right, i)
    else return (left, i)

/-- A condition that nothing joins. -/
def term (counted : Counted) : Nat → Nat → Answer (Bool × Nat)
  | 0, i => .ok (false, i)
  | steps + 1, i => do
    match counted.words[i]? with
    | none => counted.missing (counted.word (i - 1))
    | some word =>
      if word = ['!'] then
        let (holds, i) ← counted.term steps (i + 1)
        return (!holds, i)
      else if word = ['('] then
        let (holds, i) ← counted.either steps (i + 1)
        match counted.words[i]? with
        | some [')'] => return (holds, i + 1)
        | some other => .error ("')' expected, found ".toList ++ other)
        | none => .error "')' expected".toList
      else if i + 3 ≤ counted.words.size ∧ isBinary (counted.word (i + 1)) then
        return (← counted.compare word (counted.word (i + 1)) (counted.word (i + 2)), i + 3)
      else if counted.isUnary word then
        match counted.words[i + 1]? with
        | some operand => return (← counted.single word operand, i + 2)
        | none => if counted.isSet.isSome then return (true, i + 1) else counted.missing word
      else return (word ≠ [], i + 1)

end

/-- A condition of any number of words. -/
def long (counted : Counted) : Answer Bool := do
  let (holds, i) ← counted.either (4 * counted.words.size + 8) 0
  match counted.words[i]? with
  | none => return holds
  | some word =>
    if counted.isSet.isSome then
      if word.head? = some '-' then
        .error ("syntax error: \x60".toList ++ word ++ "' unexpected".toList)
      else .error "too many arguments".toList
    else .error ("extra argument '".toList ++ word ++ ['\x27'])

/-- A condition of two words. -/
def two (counted : Counted) (a b : Raw) : Answer Bool :=
  if a = ['!'] then .ok (b = [])
  else if counted.isUnary a then counted.single a b
  else counted.flaw a "unary operator expected"

/-- A condition of three words. -/
def three (counted : Counted) (a b c : Raw) : Answer Bool :=
  if isBinary b then counted.compare a b c
  else if b = "-a".toList ∨ b = "-o".toList then
    if counted.isSet.isNone then counted.long
    else .ok (if b = "-a".toList then a ≠ [] && c ≠ [] else a ≠ [] || c ≠ [])
  else if a = ['!'] then (counted.two b c).map (!·)
  else if a = ['('] ∧ c = [')'] then .ok (b ≠ [])
  else counted.flaw b "binary operator expected"

/-- Reads a condition by the number of its words. -/
def whole (counted : Counted) : Answer Bool :=
  match counted.words.toList with
  | [] => .ok false
  | [a] => .ok (a ≠ [])
  | [a, b] => counted.two a b
  | [a, b, c] => counted.three a b c
  | [a, b, c, d] =>
    if a = ['!'] then (counted.three b c d).map (!·)
    else if a = ['('] ∧ d = [')'] then counted.two b c
    else counted.long
  | _ => counted.long

end Counted

end Condition

end Rehearsal

end InstallPlan
