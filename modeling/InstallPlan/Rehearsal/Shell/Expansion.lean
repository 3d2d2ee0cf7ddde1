import InstallPlan.Rehearsal.Shell.Running

/-!
# Rehearsal — Expanding words

What becomes of the words of a script: parameters give way to their values,
scripts to what they print and expressions to numbers; what is left is divided
into fields, and fields that are patterns give way to the paths that they match.
-/

namespace InstallPlan

namespace Rehearsal

namespace Expansion

/-! ## Values -/

/-- A value as glyphs. -/
def ofText (quoted : Bool) (text : Raw) : List Glyph :=
  text.map (if quoted then .quoted else .loose)

/-- Rows of glyphs with borders between them. -/
def parted : List (List Glyph) → List Glyph
  | [] => []
  | [row] => row
  | row :: rows => row ++ .cut :: parted rows

/-- What a parameter stands for, as glyphs. -/
def ofFound (shell : Shell) (quoted : Bool) : Found → List Glyph
  | .one value => ofText quoted (value.getD [])
  | .many values joined =>
    if !quoted then parted (values.map (ofText false))
    else if joined then ofText true (Raw.joined shell.joint values)
    else parted (values.map fun value => .mark :: ofText true value)

/-- A row of glyphs as one text. -/
def flat (shell : Shell) (glyphs : List Glyph) : Raw :=
  glyphs.flatMap fun glyph =>
    match glyph with
    | .cut => if shell.isRich then [' '] else shell.joint
    | glyph => glyph.char?.toList

/-- A value changed, or each of several. -/
def mapFound (f : Raw → Raw) : Found → Found
  | .one value => .one (value.map f)
  | .many values joined => .many (values.map f) joined

/-- The text of what a parameter stands for. -/
def textOf (shell : Shell) : Found → Raw
  | .one value => value.getD []
  | .many values _ => Raw.joined shell.joint values

/-! ## Tildes -/

/-- The directory that a tilde with a name stands for. -/
def home? (shell : Shell) (name : Raw) : Option Raw :=
  if name = [] then shell.value? (raw "HOME")
  else if shell.isRich ∧ name = ['+'] then shell.value? (raw "PWD")
  else if shell.isRich ∧ name = ['-'] then shell.value? (raw "OLDPWD")
  else
    match shell.tree.find Tree.root (raw "/etc/passwd") with
    | .ok number =>
      match shell.tree.entry? number with
      | some (.file content) =>
        ((Raw.lines content).map (Raw.split ':')).findSome? fun fields =>
          if fields.head? = some name then fields[5]? else none
      | _ => none
    | .error _ => none

/-- The glyphs of plain text in which tildes stand for directories: one in front,
or behind a colon. So many characters, those of a name, are passed over. -/
def tildes (shell : Shell) (colons isLast : Bool) (plain : Char → Glyph) :
    Nat → Bool → Raw → List Glyph
  | _, _, [] => []
  | passed + 1, _, _ :: rest => tildes shell colons isLast plain passed false rest
  | 0, atFront, c :: rest =>
    let isEnd (c : Char) : Bool := c = '/' || (colons && c = ':')
    let name := rest.takeWhile fun c => !isEnd c
    let isWhole := name.length < rest.length || isLast
    let next := colons && (c = ':')
    match if atFront && c = '~' && isWhole then home? shell name else none with
    | none => plain c :: tildes shell colons isLast plain 0 next rest
    | some directory =>
      directory.map .quoted ++ tildes shell colons isLast plain name.length false rest

/-! ## Braces -/

/-- A part of a word that is looked through for braces. -/
abbrev Atom := Char ⊕ Piece

/-- A word in parts. -/
def atoms : Word → List Atom
  | [] => []
  | .plain text :: rest => text.map .inl ++ atoms rest
  | piece :: rest => .inr piece :: atoms rest

/-- The word of some parts. -/
def ofAtoms : List Atom → Word
  | [] => []
  | .inl c :: rest => Script.joinPiece (.plain [c]) (ofAtoms rest)
  | .inr piece :: rest => piece :: ofAtoms rest

/-- Whether a part is a character outside quotes. -/
def isSign (c : Char) : Atom → Bool
  | .inl d => c = d
  | .inr _ => false

/-- The parts between braces that commas divide, behind the opening brace and
inside so many others, and what follows. -/
def braceParts : Nat → List Atom → List Atom → Option (List (List Atom) × List Atom)
  | _, _, [] => none
  | depth, part, atom :: rest =>
    if isSign '\x7D' atom then
      match depth with
      | 0 => some ([part.reverse], rest)
      | depth + 1 => braceParts depth (atom :: part) rest
    else if isSign '\x7B' atom then braceParts (depth + 1) (atom :: part) rest
    else if isSign ',' atom ∧ depth = 0 then
      (braceParts depth [] rest).map fun (parts, rest) => (part.reverse :: parts, rest)
    else braceParts depth (atom :: part) rest

/-- The texts of a row from one number or letter to another. -/
def rowOf (text : Raw) : Option (List Raw) :=
  let number? (text : Raw) : Option Int :=
    match text with
    | '-' :: digits => (decimal? digits).map fun n => -(n : Int)
    | digits => (decimal? digits).map fun n => (n : Int)
  let values (first last step : Int) : List Int :=
    let step := if step = 0 then 1 else step.natAbs
    let count := (last - first).natAbs / step + 1
    (List.range count).map fun i =>
      if first ≤ last then first + (i * step : Nat) else first - (i * step : Nat)
  let parts := (Script.cutAt ['.', '.'] [.plain text]).map fun (front, behind) =>
    match front, behind, Script.cutAt ['.', '.'] behind with
    | [.plain first], _, some ([.plain last], [.plain step]) => (first, last, step)
    | [.plain first], [.plain last], _ => (first, last, ['1'])
    | _, _, _ => ([], [], [])
  match parts with
  | some (first, last, step) =>
    match number? first, number? last, number? step, first, last with
    | some a, some b, some step, _, _ =>
      let padded (text : Raw) : Bool := 1 < text.length && text.head? = some '0'
      let width := if padded first || padded last then max first.length last.length else 0
      some ((values a b step).map fun n =>
        let digits := Raw.ofNat n.natAbs
        let sign : Raw := if n < 0 then ['-'] else []
        sign ++ List.replicate (width - sign.length - digits.length) '0' ++ digits)
    | _, _, some step, [a], [b] =>
      if a.isAlpha ∧ b.isAlpha then
        some ((values a.toNat b.toNat step).map fun n => [Char.ofNat n.toNat])
      else none
    | _, _, _, _, _ => none
  | none => none

/-- The words that a word with braces stands for, in at most so many steps. -/
def braces : Nat → List Atom → List (List Atom)
  | 0, atoms => [atoms]
  | _, [] => [[]]
  | steps + 1, atom :: rest =>
    let literally : List (List Atom) := (braces steps rest).map (atom :: ·)
    if !isSign '\x7B' atom then literally
    else
      match braceParts 0 [] rest with
      | none => literally
      | some ([part], behind) =>
        let row := if part.all Sum.isLeft then rowOf (part.filterMap Sum.getLeft?) else none
        match row with
        | none => literally
        | some texts =>
          let tails := braces steps behind
          texts.flatMap fun text => tails.map (text.map Sum.inl ++ ·)
      | some (parts, behind) =>
        let tails := braces steps behind
        (parts.flatMap (braces steps)).flatMap fun part => tails.map (part ++ ·)

/-- The words that a word stands for. -/
def withBraces (shell : Shell) (word : Word) : List Word :=
  let hasBrace : Bool := word.any fun
    | .plain text => text.contains '\x7B'
    | _ => false
  if shell.isRich && shell.has "braceexpand" && hasBrace then
    let atoms := atoms word
    (braces (atoms.length + 1) atoms).map ofAtoms
  else [word]

/-! ## Changes of values -/

/-- A text with quotes around it, so that a shell reads it as it is. -/
def singleQuoted (text : Raw) : Raw :=
  '\x27' :: text.flatMap (fun c => if c = '\x27' then raw "'\\''" else [c]) ++ ['\x27']

/-- A text with the matches of a pattern replaced, from a position on. -/
def replaceFrom (pattern : Regex) (text : Raw) (extent : Extent) (replacement : Raw → Raw) :
    Nat → Nat → Raw
  | 0, position => text.drop position
  | steps + 1, position =>
    let subject : Regex.Subject := { text := text.toArray }
    let found : Option Regex.Found :=
      match extent with
      | .front => if position = 0 then pattern.longestAt subject 0 else none
      | .back =>
        (List.range (text.length + 1)).findSome? fun p =>
          if (pattern.ends subject [p]).contains text.length then some ⟨p, text.length, []⟩
          else none
      | _ => pattern.search subject position
    match found with
    | none => text.drop position
    | some ⟨first, last, _⟩ =>
      let matched := (text.drop first).take (last - first)
      let front := (text.drop position).take (first - position) ++ replacement matched
      if extent = .all then
        if last = first then
          front ++ (text.drop last).take 1
            ++ (if last < text.length then
              replaceFrom pattern text extent replacement steps (last + 1) else [])
        else if last = text.length then front
        else front ++ replaceFrom pattern text extent replacement steps last
      else front ++ text.drop last

/-- A character with its case changed. -/
def cased (letter c : Char) : Char :=
  if letter = '^' then c.toUpper
  else if letter = ',' then c.toLower
  else if c.isUpper then c.toLower
  else c.toUpper

/-- A text with the case of its characters changed that a pattern matches. -/
def caseText (letter : Char) (all : Bool) (pattern : Regex) (text : Raw) : Raw :=
  text.mapIdx fun i c => if (all || i = 0) && Pattern.accepts pattern [c] then cased letter c else c

/-- A part of a list, by its position and length, of which one below zero counts
from behind. -/
def sliced {α : Type} (items : List α) (offset : Int) (count : Option Int) : List α :=
  let size : Int := items.length
  let first := if offset < 0 then size + offset else offset
  if first < 0 ∨ size < first then []
  else
    let rest := items.drop first.toNat
    match count with
    | none => rest
    | some n => if 0 ≤ n then rest.take n.toNat else rest.take (rest.length + n).toNat

/-- What is shown of a value. -/
def shown (letter : Char) (setting : Option Setting) (text : Raw) : Raw :=
  match letter with
  | 'Q' => singleQuoted text
  | 'U' => text.map Char.toUpper
  | 'L' => text.map Char.toLower
  | 'u' =>
    match text with
    | c :: rest => c.toUpper :: rest
    | [] => []
  | 'a' =>
    match setting with
    | none => []
    | some setting =>
      let kind : Raw :=
        match setting.value with
        | some (.list _) => ['a']
        | some (.table _) => ['A']
        | _ => []
      kind ++ (if setting.isInteger then ['i'] else []) ++ (if setting.readOnly then ['r'] else [])
        ++ (if setting.exported then ['x'] else [])
  | 'E' => ({ letters := Escapes.common, zero := true, hex := true, unicode := true } :
      Escapes).replace 0 text |>.1
  | _ => text

/-! ## Words -/

section

variable (interpreter : Interpreter)

/-- The text of a word that is not divided. -/
def text (word : Word) : Act Raw := do
  let glyphs ← interpreter.expand { tilde := true } word
  return flat (← get) glyphs

/-- The text of the value of an assignment. -/
def assigned (word : Word) : Act Raw := do
  let glyphs ← interpreter.expand { tilde := true, colons := true } word
  return flat (← get) glyphs

/-- The text of what stands between double quotes. -/
def quotedText (word : Word) : Act Raw := do
  let glyphs ← interpreter.expand { quoted := true } word
  return flat (← get) glyphs

/-- The pattern that a word stands for. -/
def pattern (word : Word) : Act Regex := do
  let glyphs ← interpreter.expand { tilde := true } word
  return Pattern.read (← get).style glyphs

/-- The value of a word that is an arithmetic expression. -/
def number (word : Word) : Act Int := do Act.compute (← quotedText interpreter word)

/-- The name of a member of an array. -/
def index (name : Raw) (word : Word) : Act Raw := do
  if (← get).isKeyed name then text interpreter word
  else
    let n ← number interpreter word
    match (← get).position? name n with
    | some position => return Raw.ofNat position
    | none => Act.fail (name ++ raw ": bad array subscript")

/-- The name of a parameter and what it stands for. -/
def direct (subject : Subject) : Act (Raw × Found) := do
  match subject with
  | .named name => return (name, (← get).found name)
  | .element name word =>
    let index ← index interpreter name word
    return (name ++ ['['] ++ index ++ [']'], .one ((← get).member? name index))
  | .all name joined => return (name, .many (((← get).members name).map (·.2)) joined)
  | .indirect _ => return ([], .one none)

/-- The name of a parameter and what it stands for, which may be the name of
another one. -/
def resolve (subject : Subject) : Act (Raw × Found) := do
  match subject with
  | .indirect inner =>
    let (_, found) ← direct interpreter inner
    let shell ← get
    let name := textOf shell found
    let base := name.takeWhile (· ≠ '[')
    let behind := name.drop base.length
    if behind = raw "[@]" then return (name, .many ((shell.members base).map (·.2)) false)
    else if behind = raw "[*]" then return (name, .many ((shell.members base).map (·.2)) true)
    else if name = ['@'] ∨ name = ['*'] then return (name, shell.found name)
    else return (name, .one (shell.indexed? name))
  | subject => direct interpreter subject

/-- Whether a parameter stands for anything. -/
def Found.isThere : Found → Bool
  | .one value => value.isSome
  | .many values _ => !values.isEmpty

/-- Refuses a parameter without a value, if that is asked for. -/
def demand (name : Raw) (found : Found) : Act Unit := do
  let shell ← get
  match found with
  | .one none =>
    if shell.has "nounset" then
      if shell.isRich then
        let mark : Raw := if (argumentNumber? name).isSome then ['$'] else []
        Act.failHard (mark ++ name ++ raw ": unbound variable")
      else Act.failHard (name ++ raw ": parameter not set")
  | _ => pure ()

/-- What becomes of the value of a parameter. -/
def changed (manner : Manner) (subject : Subject) (change : Change) : Act (List Glyph) := do
  let (name, found) ← resolve interpreter subject
  let shell ← get
  let value (f : Raw → Raw) : Act (List Glyph) := do
    demand name found
    return ofFound (← get) manner.quoted (mapFound f found)
  match change with
  | .none => value id
  | .bad written =>
    if shell.isRich then
      Act.fail (raw "$\x7B" ++ written ++ raw ": bad substitution")
    else Act.failHard (raw "Bad substitution")
  | .size =>
    demand name found
    let count :=
      match found, shell.isRich with
      | .many values _, true => values.length
      | found, _ => (textOf shell found).length
    return ofText manner.quoted (Raw.ofNat count)
  | .substitute emptyIsNone kind word =>
    let present := Found.isThere found && !(emptyIsNone && (textOf shell found).isEmpty)
    let other : Act (List Glyph) :=
      interpreter.expand { manner with divides := !manner.quoted, tilde := true } word
    match kind, present with
    | .instead, true | .otherwise, false => other
    | .instead, false => return []
    | _, true => return ofFound shell manner.quoted found
    | .assigning, false =>
      if !isName (name.takeWhile (· ≠ '[')) then
        if shell.isRich then Act.fail (raw "$" ++ name ++ raw ": cannot assign in this way")
        else Act.failHard (name ++ raw ": bad variable name")
      let text ← flat shell <$> interpreter.expand { manner with tilde := true } word
      Act.assignIndexed name text
      return ofText manner.quoted text
    | .demanded, false =>
      let text ← text interpreter word
      let standard : Raw :=
        if shell.isRich then raw "parameter " ++ (if emptyIsNone then raw "null or " else [])
          ++ raw "not set"
        else raw "parameter not set" ++ (if emptyIsNone then raw " or null" else [])
      Act.failHard (name ++ raw ": " ++ (if word.isEmpty then standard else text))
  | .trimmed side longest word =>
    demand name found
    let pattern ← pattern interpreter word
    value fun text =>
      match side with
      | .front => Pattern.withoutFront longest pattern text
      | .back => Pattern.withoutBack longest pattern text
  | .slice offset count =>
    demand name found
    let offset ← number interpreter offset
    let count ←
      match count with
      | some word => some <$> number interpreter word
      | none => pure none
    match found with
    | .one _ => value fun text => sliced text offset count
    | .many values joined =>
      let values := if name = ['@'] ∨ name = ['*'] then shell.name :: values else values
      return ofFound shell manner.quoted (.many (sliced values offset count) joined)
  | .replaced extent word replacement =>
    demand name found
    let glyphs ← interpreter.expand { tilde := true } word
    let pattern := Pattern.read shell.style glyphs
    let replacement ← interpreter.expand { manner with tilde := true } replacement
    let text (matched : Raw) : Raw :=
      replacement.flatMap fun glyph =>
        match glyph with
        | .literal '&' | .loose '&' => matched
        | glyph => glyph.char?.toList
    if glyphs.isEmpty then value id
    else value fun value => replaceFrom pattern value extent text (value.length + 1) 0
  | .cased letter all word =>
    let pattern ← if word.isEmpty then pure (Regex.among true []) else pattern interpreter word
    value (caseText letter all pattern)
  | .shown letter =>
    let base := name.takeWhile (· ≠ '[')
    value (shown letter (shell.setting? base))
  | .indices =>
    return ofFound shell manner.quoted (.many ((shell.members name).map (·.1)) false)
  | .names joined =>
    let names := (shell.settings.map (·.1)).filter fun n => name.isPrefixOf n
    return ofFound shell manner.quoted (.many (names.mergeSort Raw.atMost) joined)

/-- Whether a piece stands for several values that remain apart between quotes. -/
def staysApart : Word → Bool
  | [.parameter (.named ['@']) _] | [.parameter (.all _ false) _] => true
  | [.parameter (.indirect _) _] => true
  | _ => false

/-- The path of a channel to a script that writes it or reads it. -/
def channelTo (isInput : Bool) (script : Command) : Act Raw := do
  let shell ← get
  let used := shell.process.channels.map (·.1)
  let channel := ((List.range 54).map (63 - ·)).find? (!used.contains ·) |>.getD 10
  if isInput then
    let (output, _) ← Act.outputOf interpreter script
    let (stream, process) := (← get).process.adding { origin := .pipe output, writes := false }
    Act.setProcess (process.lead channel (some stream))
  else
    let (stream, process) := shell.process.adding { origin := .pipe [] }
    Act.setProcess (process.lead channel (some stream))
    let outer ← get
    let job : Job :=
      { id := 0
        start := outer.process.system.clock
        carryOut := fun deadline system =>
          let deadline := deadline.or outer.process.deadline
          let inner := { outer with
            process := ({ outer.process with system, deadline }).lead 0 (some stream), jobs := [] }
          match Act.runApart interpreter false script inner with
          | .ok status after => (status, after.process.system)
          | .error _ after => (1, after.process.system) }
    modify fun shell => { shell with jobs := shell.jobs ++ [job] }
  return raw "/dev/fd/" ++ Raw.ofNat channel

/-- What becomes of a piece of a word. -/
def piece (manner : Manner) (isFirst isLast : Bool) (piece : Piece) : Act (List Glyph) := do
  match piece with
  | .plain text =>
    let plain (c : Char) : Glyph :=
      if manner.quoted then .quoted c else if manner.divides then .loose c else .literal c
    if manner.tilde && !manner.quoted then
      return tildes (← get) manner.colons isLast plain 0 isFirst text
    else return text.map plain
  | .quoted text => return .mark :: text.map .quoted
  | .within pieces =>
    let glyphs ← interpreter.expand { quoted := true } pieces
    return if staysApart pieces then glyphs else .mark :: glyphs
  | .parameter subject change => changed interpreter manner subject change
  | .output script =>
    let (output, status) ←
      match (← get).isRich, script with
      | true, .simple _ [] [] [.mk (some 0) .input target] =>
        let (content, process) := (← get).process.contentAt (← text interpreter target)
        Act.setProcess process
        match content with
        | .ok content => pure (content, 0)
        | .error fault =>
          Act.complain (raw fault.reason)
          pure ([], 1)
      | _, _ => Act.outputOf interpreter script
    modify fun shell => { shell with captured := status }
    return ofText manner.quoted (Raw.dropEnd (· = '\n') (output.filter (· ≠ '\x00')))
  | .number expression =>
    return ofText manner.quoted (Raw.ofInt (← number interpreter expression))
  | .channel isInput script => return ofText true (← channelTo interpreter isInput script)
  | .members _ => return []

/-- What becomes of the pieces of a word. -/
def pieces (manner : Manner) : Bool → Word → Act (List Glyph)
  | _, [] => return []
  | isFirst, first :: rest => do
    let glyphs ← piece interpreter manner isFirst rest.isEmpty first
    return glyphs ++ (← pieces manner false rest)

/-- The texts that a row of glyphs stands for: its fields, or the paths that they
match. -/
def fields (shell : Shell) (glyphs : List Glyph) : List Raw :=
  (fieldsOf shell.separators glyphs).flatMap fun field =>
    let paths :=
      if shell.has "noglob" then []
      else
        Pattern.paths shell.tree shell.here shell.style (!shell.isRich) field
    if paths.isEmpty then
      if shell.has "nullglob" && Pattern.isWild shell.style (Pattern.signs field) then []
      else [Glyph.text field]
    else paths

/-- The texts that a word stands for. -/
def word (word : Word) : Act (List Raw) := do
  let words := withBraces (← get) word
  let found ← words.mapM fun word => do
    let glyphs ← interpreter.expand { tilde := true } word
    return fields (← get) glyphs
  return found.flatten

/-- The texts that words stand for. -/
def words (ws : List Word) : Act (List Raw) := return (← ws.mapM (word interpreter)).flatten

end

end Expansion

end Rehearsal

end InstallPlan
