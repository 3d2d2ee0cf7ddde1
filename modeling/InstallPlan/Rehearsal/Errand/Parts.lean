import InstallPlan.Rehearsal.Errand.Names
import InstallPlan.Rehearsal.Printing.Format

/-!
# Rehearsal — Errands about parts of texts

The programs that print parts of a text, or its parts in another arrangement:
the first or last of them, columns of lines, lines that are numbered, joined or
turned around.
-/

namespace InstallPlan

namespace Rehearsal

namespace Errand

/-- The pieces of a text, each with the mark that ends it, if one does. -/
def piecesOf (mark : Char) (text : Raw) : List Raw :=
  let pieces := Raw.split mark text
  let whole := pieces.dropLast.map (· ++ [mark])
  match pieces.getLast? with
  | some [] | none => whole
  | some last => whole ++ [last]

/-- The lines of a text, each with its break, if it has one. -/
def linesOf (text : Raw) : List Raw := piecesOf '\n' text

/-! ## First and last parts -/

/-- A count with a letter that multiplies it. -/
def multiplied? (text : Raw) : Option Nat :=
  let digits := text.takeWhile Char.isDigit
  let factor : Option Nat :=
    match String.ofList (text.drop digits.length) with
    | "" => some 1
    | "b" => some 512
    | "kB" => some 1000
    | "K" | "k" | "KiB" => some 1024
    | "MB" => some 1000000
    | "M" | "m" | "MiB" => some 1048576
    | "GB" => some 1000000000
    | "G" | "GiB" => some 1073741824
    | _ => none
  if digits = [] then none else factor.map (ofDecimal digits * ·)

/-- How much of a text is wanted. -/
structure Portion where
  octets : Bool := false
  /-- Whether the count says what is left out. -/
  inverted : Bool := false
  count : Nat := 10

/-- A portion that an option asks for, where a sign says what is left out. -/
def portion (program : String) (sign : Char) (octets : Bool) (text : Raw) : Errand Portion := do
  let (inverted, digits) : Bool × Raw :=
    match text with
    | c :: more => if c = sign then (true, more) else (false, if c = '-' ∨ c = '+' then more else text)
    | [] => (false, [])
  match multiplied? digits with
  | some count => return { octets, inverted, count }
  | none =>
    die 1 (raw "invalid number of " ++ raw (if octets then "bytes" else "lines") ++ raw ": "
      ++ quote (if program = "head" ∧ inverted then digits else text))

/-- The options of the two programs that print first or last parts. -/
def portionOptions : Options :=
  { letters := "c:n:qvzfFs:",
    words := [("bytes", .value, "c"), ("lines", .value, "n"), ("quiet", .none, "q"),
      ("silent", .none, "q"), ("verbose", .none, "v"), ("zero-terminated", .none, "z"),
      ("follow", .attached, "f"), ("retry", .none, "F"), ("pid", .value, "s")] }

/-- Arguments whose first is a count behind a dash, in the form of an option. -/
def withCount (arguments : List Raw) : List Raw :=
  match arguments with
  | ('-' :: d :: more) :: rest =>
    let digits := (d :: more).takeWhile Char.isDigit
    match (d :: more).drop digits.length with
    | [] => if d.isDigit then (raw "-n" ++ digits) :: rest else arguments
    | ['c'] => if d.isDigit then (raw "-c" ++ digits) :: rest else arguments
    | _ => arguments
  | _ => arguments

/-- The parts of a text that portions are counted in. -/
def counted (portion : Portion) (mark : Char) (text : Raw) : List Raw :=
  if portion.octets then text.map fun c => [c] else piecesOf mark text

/-- Prints portions of files, with headings if there are several. -/
def portions (given : Given) (cut : Raw → Raw) : Errand Unit := do
  let paths := if given.operands = [] then [['-']] else given.operands
  let headed := given.latest? ["q", "v"] = some "v"
    || (1 < paths.length && given.latest? ["q", "v"] != some "q")
  let _ ← paths.foldlM
    (fun (first : Bool) path => do
      match ← content path with
      | .error .isADirectory =>
        if headed then say ((if first then [] else ['\n']) ++ raw "==> " ++ path ++ raw " <==\n")
        fault (raw "error reading " ++ quote path ++ raw ": Is a directory")
        return false
      | .error reason =>
        fault (raw "cannot open " ++ quote path ++ raw " for reading: " ++ raw reason.reason)
        return first
      | .ok text =>
        if headed then
          let name := if path = ['-'] then raw "standard input" else path
          say ((if first then [] else ['\n']) ++ raw "==> " ++ name ++ raw " <==\n")
        say (cut text)
        return false)
    true

/-- Prints the first parts of files. What the input holds behind them is left to
others if the input is a file. -/
def head (arguments : List Raw) : Errand Unit := do
  let given ← given portionOptions (withCount arguments)
  let mark := if given.has "z" then '\x00' else '\n'
  let portion ←
    match given.latest? ["c", "n"] with
    | some option => portion "head" '-' (option = "c") ((given.last? option).getD [])
    | none => pure {}
  let cut (text : Raw) : Raw :=
    let parts := counted portion mark text
    (if portion.inverted then parts.take (parts.length - portion.count)
      else parts.take portion.count).flatten
  let before := (← process).system
  let stream := (← process).stream? 0
  portions given cut
  let process ← process
  match given.operands, stream with
  | [], some stream | [['-']], some stream =>
    match before.waiting stream (if portion.octets then some portion.count else none),
        before.streams[stream]?, process.system.streams[stream]? with
    | .ok text, some old, some new =>
      match new.origin with
      | .file _ =>
        setProcess { process with
          system := process.system.setStream stream
            { new with offset := old.offset + (cut text).length } }
      | _ => pure ()
    | _, _, _ => pure ()
  | _, _ => pure ()

/-- Prints the last parts of files. -/
def tail (arguments : List Raw) : Errand Unit := do
  let arguments :=
    match arguments with
    | ('+' :: d :: more) :: rest =>
      if (d :: more).all Char.isDigit then (raw "-n+" ++ d :: more) :: rest else arguments
    | _ => withCount arguments
  let given ← given portionOptions arguments
  let mark := if given.has "z" then '\x00' else '\n'
  let portion ←
    match given.latest? ["c", "n"] with
    | some option => portion "tail" '+' (option = "c") ((given.last? option).getD [])
    | none => pure {}
  portions given fun text =>
    let parts := counted portion mark text
    (if portion.inverted then parts.drop (portion.count - 1)
      else parts.drop (parts.length - portion.count)).flatten

/-! ## Columns of lines -/

/-- Positions that were asked for, counted from one, in ranges that may be open. -/
abbrev Selection := List (Nat × Option Nat)

/-- Whether a position was asked for. -/
def isSelected (selection : Selection) (position : Nat) : Bool :=
  selection.any fun (low, high) => low ≤ position && high.all (position ≤ ·)

/-- Reads positions. -/
def selection (isField : Bool) (text : Raw) : Errand Selection := do
  let kind := if isField then "field" else "byte/character position"
  let parts := (Raw.split ',' text).flatMap fun p => Raw.split ' ' p
  parts.mapM fun part => do
    let number (digits : Raw) : Errand Nat := do
      match decimal? digits with
      | some 0 =>
        misuse 1 (raw (if isField then "fields are numbered from 1"
          else "byte/character positions are numbered from 1"))
      | some n => return n
      | none =>
        if isField then misuse 1 (raw "invalid field value " ++ quote part)
        else misuse 1 (raw "invalid byte/character position " ++ quote part)
    match Raw.split '-' part with
    | [n] => if n = [] then misuse 1 (raw "fields are numbered from 1") else
      let n ← number n
      return (n, some n)
    | [[], []] => misuse 1 (raw "invalid range with no endpoint: -")
    | [low, []] => return (← number low, none)
    | [[], high] => return (1, some (← number high))
    | [low, high] =>
      let low ← number low
      let high ← number high
      if high < low then misuse 1 (raw "invalid decreasing range") else return (low, some high)
    | _ => misuse 1 (raw "invalid " ++ raw kind ++ raw " value " ++ quote part)

/-- The members of a list at positions that were asked for, or at the others. -/
def selected {α : Type} (selection : Selection) (inverted : Bool) (xs : List α) : List α :=
  ((xs.mapIdx fun i x => (i + 1, x)).filter fun e => isSelected selection e.1 != inverted).map (·.2)

/-- The runs of selected characters of a line. -/
def selectedRuns (selection : Selection) (inverted : Bool) (line : Raw) : List Raw :=
  let marked := line.mapIdx fun i c => (i + 1, c)
  let chosen := marked.filter fun e => isSelected selection e.1 != inverted
  (chosen.foldl
    (fun (runs : List (List (Nat × Char))) e =>
      match runs with
      | ((i, c) :: run) :: more =>
        if i + 1 = e.1 ∧ !(selection.any fun r => r.1 = e.1) then (e :: (i, c) :: run) :: more
        else [e] :: runs
      | _ => [e] :: runs)
    []).reverse.map fun run => run.reverse.map (·.2)

/-- Prints columns of every line. -/
def cut (arguments : List Raw) : Errand Unit := do
  let given ← given
    { letters := "b:c:d:f:nsz",
      words := [("bytes", .value, "b"), ("characters", .value, "c"), ("delimiter", .value, "d"),
        ("fields", .value, "f"), ("only-delimited", .none, "s"),
        ("output-delimiter", .value, "output"), ("complement", .none, "complement"),
        ("zero-terminated", .none, "z")] } arguments
  let lists := given.options.filter fun o => ["b", "c", "f"].contains o.1
  let mark := if given.has "z" then '\x00' else '\n'
  match lists with
  | [] => misuse 1 (raw "you must specify a list of bytes, characters, or fields")
  | _ :: _ :: _ => misuse 1 (raw "only one type of list may be specified")
  | [(kind, text)] =>
    let isField := kind = "f"
    let chosen ← selection isField text
    let inverted := given.has "complement"
    let delimiter ←
      match given.last? "d" with
      | none => pure '\t'
      | some [] => pure '\x00'
      | some [c] => pure c
      | some _ => misuse 1 (raw "the delimiter must be a single character")
    if !isField && given.has "d" then
      misuse 1 (raw "an input delimiter may be specified only when operating on fields")
    if !isField && given.has "s" then
      misuse 1 (raw "suppressing non-delimited lines makes sense\n\tonly when operating on fields")
    let joint := given.last? "output"
    let part (line : Raw) : List Raw :=
      if isField then
        if line.contains delimiter then
          [Raw.joined (joint.getD [delimiter])
            (selected chosen inverted (Raw.split delimiter line))]
        else if given.has "s" then [] else [line]
      else
        match joint with
        | some joint => [Raw.joined joint (selectedRuns chosen inverted line)]
        | none => [selected chosen inverted line]
    let texts ← contents given.operands
    texts.forM fun (_, text) =>
      (piecesOf mark text).forM fun line =>
        sayAll mark (part (Raw.dropEnd (· = mark) line))

/-- Joins the lines of files side by side. -/
def paste (arguments : List Raw) : Errand Unit := do
  let given ← given
    { letters := "d:sz",
      words := [("delimiters", .value, "d"), ("serial", .none, "s"),
        ("zero-terminated", .none, "z")] } arguments
  let mark := if given.has "z" then '\x00' else '\n'
  let escapes : Escapes :=
    { letters := Escapes.common ++ [('0', '\x00')], octal := false }
  let marks := (escapes.replace 0 ((given.last? "d").getD ['\t'])).1
  let mark? (i : Nat) : Raw :=
    match marks[i % (max marks.length 1)]? with
    | some '\x00' | none => []
    | some c => [c]
  let joined (parts : List Raw) : Raw :=
    (parts.mapIdx fun i part => (if i = 0 then [] else mark? (i - 1)) ++ part).flatten
  let paths := if given.operands = [] then [['-']] else given.operands
  let columns := (piecesOf mark · |>.map (Raw.dropEnd (· = mark)))
  if given.has "s" then
    let texts ← contents paths
    texts.forM fun (_, text) => say (joined (columns text) ++ [mark])
  else
    let dashes := (paths.filter (· = ['-'])).length
    let input ← if dashes = 0 then pure [] else
      match ← content ['-'] with
      | .ok text => pure (columns text)
      | .error reason => die 1 (about ['-'] reason)
    let share (n : Nat) : List Raw :=
      (input.mapIdx fun i line => (i, line)).filter (·.1 % dashes = n) |>.map (·.2)
    let (texts, _) ← paths.foldlM
      (fun (texts, n) path => do
        if path = ['-'] then return (texts ++ [share n], n + 1)
        else
          match ← content path with
          | .ok text => return (texts ++ [columns text], n)
          | .error reason => die 1 (about path reason))
      (([] : List (List Raw)), 0)
    let rows := (texts.map List.length).foldl max 0
    (List.range rows).forM fun i =>
      say (joined (texts.map fun column => (column[i]?).getD []) ++ [mark])

/-! ## Other arrangements -/

/-- Prints files one after the other; lines may be numbered and marks be shown. -/
def cat (arguments : List Raw) : Errand Unit := do
  let given ← given
    { letters := "benstuvAET",
      words := [("number", .none, "n"), ("number-nonblank", .none, "b"),
        ("squeeze-blank", .none, "s"), ("show-all", .none, "A"), ("show-ends", .none, "E"),
        ("show-tabs", .none, "T"), ("show-nonprinting", .none, "v")] } arguments
  let has (options : List String) : Bool := options.any given.has
  let ends := has ["A", "e", "E"]
  let tabs := has ["A", "t", "T"]
  let marks := has ["A", "e", "t", "v"]
  let shown (c : Char) : Raw :=
    let low (n : Nat) : Raw :=
      if n < 32 then ['^', Char.ofNat (n + 64)] else if n = 127 then ['^', '?'] else [Char.ofNat n]
    if c = '\t' then (if tabs then ['^', 'I'] else [c])
    else if !marks then [c]
    else if c.toNat < 128 then low c.toNat
    else 'M' :: '-' :: low (c.toNat - 128)
  let paths := if given.operands = [] then [['-']] else given.operands
  let output := (← process).stream? 1
  let _ ← paths.foldlM
    (fun (state : Nat × Bool × Bool) path => do
      let process ← process
      let isOutput : Bool :=
        match output.bind process.system.origin? with
        | some (.file out) =>
          let source : Option Nat :=
            if path = ['-'] then
              match (process.stream? 0).bind process.system.origin? with
              | some (.file number) => some number
              | _ => none
            else (process.tree.find process.here path).toOption
          let holds := (process.tree.entry? out).any fun e => e.size ≠ 0
          source = some out && holds
        | _ => false
      if isOutput then
        fault (path ++ raw ": input file is output file")
        return state
      match ← content path with
      | .error reason =>
        fault (about path reason)
        return state
      | .ok text =>
        if !(has ["n", "b", "s"]) && !ends && !tabs && !marks then
          flush
          match ← write 1 text with
          | .ok _ => return state
          | .error reason => die 1 (raw "write error: " ++ raw reason.reason)
        else
          (linesOf text).foldlM
            (fun (count, wasBlank, open_) line => do
              let body := Raw.dropEnd (· = '\n') line
              let closes := body.length < line.length
              let blank := line = ['\n'] && !open_
              if blank && wasBlank && given.has "s" then return (count, true, false)
              let numbers := !open_ && (if given.has "b" then !blank else given.has "n")
              let count := if numbers then count + 1 else count
              let digits := Raw.ofNat count
              if numbers then
                say (List.replicate (6 - digits.length) ' ' ++ digits ++ ['\t'])
              say (body.flatMap shown)
              if closes then say (if ends then ['$', '\n'] else ['\n'])
              return (count, blank, !closes))
            state)
    (0, false, false)

/-- Prints the lines of files from the last to the first. -/
def reversedLines (arguments : List Raw) : Errand Unit := do
  let given ← given { letters := "bs:r" } arguments
  let texts ← contents given.operands
  texts.forM fun (_, text) => say ((linesOf text).reverse.flatten)

/-- Prints every line from its end to its beginning. -/
def turned (arguments : List Raw) : Errand Unit := do
  let given ← given { letters := "" } arguments
  let texts ← contents given.operands
  texts.forM fun (_, text) =>
    (linesOf text).forM fun line =>
      let body := Raw.dropEnd (· = '\n') line
      say (body.reverse ++ line.drop body.length)

/-- Prints lines with numbers in front. -/
def numbered (arguments : List Raw) : Errand Unit := do
  let given ← given
    { letters := "b:d:f:h:i:l:n:ps:v:w:",
      words := [("body-numbering", .value, "b"), ("number-format", .value, "n"),
        ("number-separator", .value, "s"), ("starting-line-number", .value, "v"),
        ("line-increment", .value, "i"), ("number-width", .value, "w")] } arguments
  let number (option : String) (standard : Nat) : Nat :=
    ((given.last? option).bind decimal?).getD standard
  let width := number "w" 6
  let separator := (given.last? "s").getD ['\t']
  let style := (given.last? "b").getD ['t']
  let texts ← contents given.operands
  let _ ← (linesOf (texts.flatMap (·.2))).foldlM
    (fun (next : Nat) line => do
      let body := Raw.dropEnd (· = '\n') line
      let counts := style = ['a'] || (style = ['t'] && body ≠ [])
      if counts then
        let digits := Raw.ofNat next
        let gap (c : Char) : Raw := List.replicate (width - digits.length) c
        let shown :=
          match (given.last? "n").map String.ofList with
          | some "ln" => digits ++ gap ' '
          | some "rz" => gap '0' ++ digits
          | _ => gap ' ' ++ digits
        say (shown ++ separator ++ body ++ ['\n'])
        return next + number "i" 1
      else
        say (List.replicate (width + separator.length) ' ' ++ body ++ ['\n'])
        return next)
    (number "v" 1)

/-- Breaks lines that are too long. -/
def folded (arguments : List Raw) : Errand Unit := do
  let given ← given
    { letters := "bsw:", words := [("width", .value, "w"), ("spaces", .none, "s"),
        ("bytes", .none, "b")] } (match arguments with
      | ('-' :: d :: more) :: rest =>
        if d.isDigit then (raw "-w" ++ d :: more) :: rest else arguments
      | _ => arguments)
  let width := ((given.last? "w").bind decimal?).getD 80
  let rec pieces : Nat → Raw → List Raw
    | 0, line => [line]
    | steps + 1, line =>
      if line.length ≤ width then [line]
      else
        let front := line.take width
        let cut := Raw.dropEnd (· ≠ ' ') front
        let front := if given.has "s" && cut ≠ [] then cut else front
        front :: pieces steps (line.drop front.length)
  let texts ← contents given.operands
  texts.forM fun (_, text) =>
    (linesOf text).forM fun line =>
      let body := Raw.dropEnd (· = '\n') line
      say (Raw.joined ['\n'] (pieces body.length body) ++ line.drop body.length)

/-- Replaces tabs by blanks. -/
def expanded (arguments : List Raw) : Errand Unit := do
  let given ← given
    { letters := "it:", words := [("tabs", .value, "t"), ("initial", .none, "i")] } arguments
  let width := max 1 (((given.last? "t").bind decimal?).getD 8)
  filter given.operands fun text =>
    (text.foldl
      (fun (state : List Raw × Nat) c =>
        if c = '\t' then
          let gap := width - state.2 % width
          (List.replicate gap ' ' :: state.1, state.2 + gap)
        else ([c] :: state.1, if c = '\n' then 0 else state.2 + 1))
      ([], 0)).1.reverse.flatten

end Errand

end Rehearsal

end InstallPlan
