import InstallPlan.Rehearsal.Shell.Builtin.Basic

/-!
# Rehearsal — Commands of the shell that read

Lines of the input, divided among variables, and the options among arguments.
-/

namespace InstallPlan

namespace Rehearsal

namespace Builtin

/-! ## Lines -/

/-- Whether a glyph separates fields. -/
def isSeparator (separators : Raw) : Glyph → Bool
  | .loose c => separators.contains c
  | _ => false

/-- Whether a glyph is blank and separates fields. -/
def isGap (separators : Raw) : Glyph → Bool
  | .loose c => separators.contains c && isBlank c
  | _ => false

/-- The first field of a row of glyphs, and what follows the separator behind it. -/
def firstField (separators : Raw) (glyphs : List Glyph) : List Glyph × List Glyph :=
  let glyphs := glyphs.dropWhile (isGap separators)
  let field := glyphs.takeWhile fun g => !isSeparator separators g
  let rest := (glyphs.drop field.length).dropWhile (isGap separators)
  match rest with
  | g :: more =>
    if isSeparator separators g then (field, more.dropWhile (isGap separators)) else (field, rest)
  | [] => (field, [])

/-- The last field of a row of glyphs, with the separators in it. If there is no
second field, the separator behind it does not count. -/
def lastField (separators : Raw) (glyphs : List Glyph) : List Glyph :=
  let glyphs := glyphs.dropWhile (isGap separators)
  let field := glyphs.takeWhile fun g => !isSeparator separators g
  let behind := glyphs.drop field.length
  let marks := behind.filter fun g => !isGap separators g
  if behind.all (isSeparator separators) && marks.length ≤ 1 then field
  else (glyphs.reverse.dropWhile (isGap separators)).reverse

/-- The fields of a row of glyphs for so many variables, the last one with all that
is left. -/
def fieldsFor (separators : Raw) : Nat → List Glyph → List Raw
  | 0, _ => []
  | 1, glyphs => [Glyph.text (lastField separators glyphs)]
  | count + 1, glyphs =>
    let (field, rest) := firstField separators glyphs
    Glyph.text field :: fieldsFor separators count rest

/-- How a line is read. -/
structure Taking where
  /-- Whether a backslash stands for itself. -/
  isRaw : Bool := false
  /-- The character that ends a line. -/
  ending : Char := '\n'
  /-- The greatest number of characters. -/
  most : Option Nat := none

/-- A line of a text, whether it is complete, and how many characters it took. A
backslash protects the character behind it. -/
def takeLine (taking : Taking) : Nat → Raw → List Glyph × Bool × Nat
  | _, [] => ([], false, 0)
  | count, c :: rest =>
    if taking.most = some count then ([], true, 0)
    else if c = taking.ending then ([], true, 1)
    else if c = '\\' ∧ !taking.isRaw then
      match rest with
      | [] => ([], false, 1)
      | d :: rest =>
        let (line, ends, taken) := takeLine taking (count + 1) rest
        (if d = '\n' then line else .quoted d :: line, ends, taken + 2)
    else
      let (line, ends, taken) := takeLine taking (count + 1) rest
      (if c = '\x00' then line else .loose c :: line, ends, taken + 1)

/-- Reads a line of the input into variables. -/
def read (arguments : List Raw) : Act Unit := do
  let shell ← get
  let rich := shell.isRich
  let (found, names) ← options (if rich then "rp:a:d:n:N:t:su:e" else "p:r") arguments
  let value? (letter : Char) : Option Raw := (found.find? (·.1 = letter)).map (·.2)
  if names = [] ∧ !rich then deny (raw "arg count")
  let channel := ((value? 'u').bind decimal?).getD 0
  let taking : Taking :=
    { isRaw := has found 'r'
      ending := ((value? 'd').map fun d => d.headD '\x00').getD '\n'
      most := ((value? 'n').orElse fun _ => value? 'N').bind decimal? }
  let text : Raw :=
    match shell.process.stream? channel with
    | none => []
    | some stream => (shell.process.system.waiting stream none).toOption.getD []
  let (line, ends, taken) := takeLine taking 0 text
  match shell.process.stream? channel with
  | some stream =>
    Act.setProcess
      { shell.process with system := shell.process.system.consume stream taken }
  | none => pure ()
  match value? 'a' with
  | some name =>
    let values := (fieldsOf shell.separators line).map Glyph.text
    Act.alter name fun setting =>
      { setting with value := some (.list (values.mapIdx fun i v => (i, v))) }
  | none =>
    if names = [] then Act.assign (raw "REPLY") (Glyph.text line)
    else
      let values := fieldsFor shell.separators names.length line
      (names.zip values).forM fun (name, value) => do
        checkName (name.takeWhile (· ≠ '[')) name
        Act.assignIndexed name value
  Act.setStatus (if ends then 0 else 1)

/-- Reads the lines of the input into an array. -/
def readLines (arguments : List Raw) : Act Unit := do
  let (found, names) ← options "td:n:s:" arguments
  let shell ← get
  let text : Raw :=
    match shell.process.stream? 0 with
    | none => []
    | some stream => (shell.process.system.waiting stream none).toOption.getD []
  match shell.process.stream? 0 with
  | some stream =>
    Act.setProcess { shell.process with system := shell.process.system.consume stream text.length }
  | none => pure ()
  let lines := Raw.lines text
  let isCut := text.getLast? != some '\n'
  let lines :=
    if has found 't' then lines
    else lines.mapIdx fun i line => if isCut && i + 1 = lines.length then line else line ++ ['\n']
  Act.alter (names.headD (raw "MAPFILE")) fun setting =>
    { setting with value := some (.list (lines.mapIdx fun i v => (i, v))) }
  Act.setStatus 0

/-! ## Options of a script -/

/-- Sets what is told of an option: its letter, its value, and where the next
argument and the next letter are. -/
def tellOption (name : Raw) (letter : Char) (value : Option Raw) (next place : Nat) (done : Bool) :
    Act Unit := do
  match value with
  | some value => Act.assign (raw "OPTARG") value
  | none => Act.restore (raw "OPTARG") none
  Act.assign (raw "OPTIND") (Raw.ofNat next)
  modify fun shell => { shell with optionPlace := place }
  checkName name name
  Act.assign name [letter]
  Act.setStatus (if done then 1 else 0)

/-- Reads the next option among arguments. -/
def getopts (arguments : List Raw) : Act Unit := do
  let shell ← get
  match arguments with
  | known :: name :: given =>
    let given := if given = [] then shell.arguments else given
    let silent := known.head? = some ':'
    let start := ((shell.value? (raw "OPTIND")).bind decimal?).getD 1
    let start := max start 1
    let old := shell.value? (raw "OPTARG")
    -- Letters that are left of an argument whose first letters are told already.
    let left : Raw :=
      if start ≤ 1 ∨ shell.optionPlace = 0 then []
      else ((given[start - 2]?).getD []).drop shell.optionPlace
    let (cluster, place, next) : Option Raw × Nat × Nat :=
      if left ≠ [] then (some left, shell.optionPlace, start)
      else
        match given[start - 1]? with
        | some ('-' :: c :: rest) => (some (c :: rest), 1, start + 1)
        | _ => (none, 0, start)
    match cluster with
    | none | some [] => tellOption name '?' old next 0 true
    | some (c :: rest) =>
      if place = 1 ∧ c :: rest = ['-'] then tellOption name '?' old next 0 true
      else
        let complain (plain rich : Raw) : Act Unit := do
          if shell.isRich then
            let _ ← Act.emit 2 (shell.name ++ raw ": " ++ rich ++ ['\n'])
          else
            let _ ← Act.emit 2 (plain ++ ['\n'])
        let after := if rest = [] then 0 else place + 1
        match Options.need? c known with
        | none =>
          if silent then tellOption name '?' (some [c]) next after false
          else
            complain (raw "Illegal option -" ++ [c]) (raw "illegal option -- " ++ [c])
            tellOption name '?' none next after false
        | some .value =>
          if rest ≠ [] then tellOption name c (some rest) next 0 false
          else
            match given[next - 1]? with
            | some value => tellOption name c (some value) (next + 1) 0 false
            | none =>
              if silent then tellOption name ':' (some [c]) next 0 false
              else
                complain (raw "No arg for -" ++ [c] ++ raw " option")
                  (raw "option requires an argument -- " ++ [c])
                tellOption name '?' none next 0 false
        | some _ =>
          tellOption name c (if shell.isRich then none else some []) next after false
  | _ =>
    if shell.isRich then misuse (raw "usage: getopts optstring name [arg ...]")
    else deny (raw "Usage: getopts optstring var [arg...]")

end Builtin

end Rehearsal

end InstallPlan
