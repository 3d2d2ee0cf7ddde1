import InstallPlan.Rehearsal.Errand.Parts
import InstallPlan.Rehearsal.Regex.Basic

/-!
# Rehearsal — Errands about characters

The programs that count what a text is made of, and that replace, delete or
squeeze characters.
-/

namespace InstallPlan

namespace Rehearsal

namespace Errand

/-! ## Counting -/

/-- The number of words in a text. -/
def countWords (text : Raw) : Nat :=
  (text.foldl
    (fun (state : Nat × Bool) c =>
      let white := isWhite c
      (if !white && !state.2 then state.1 + 1 else state.1, !white))
    (0, false)).1

/-- The greatest length of a line. -/
def longestLine (text : Raw) : Nat := ((Raw.split '\n' text).map List.length).foldl max 0

/-- Counts lines, words and octets. -/
def wordCount (arguments : List Raw) : Errand Unit := do
  let given ← given
    { letters := "clLmw",
      words := [("bytes", .none, "c"), ("chars", .none, "m"), ("lines", .none, "l"),
        ("words", .none, "w"), ("max-line-length", .none, "L")] } arguments
  let wants (option : String) : Bool :=
    if given.options = [] then ["l", "w", "c"].contains option else given.has option
  let counts (text : Raw) : List Nat :=
    (if wants "l" then [text.count '\n'] else [])
      ++ (if wants "w" then [countWords text] else [])
      ++ (if wants "m" then [text.length] else [])
      ++ (if wants "c" then [text.length] else [])
      ++ (if wants "L" then [longestLine text] else [])
  let columns := (["l", "w", "m", "c", "L"].filter wants).length
  let process ← process
  let paths := if given.operands = [] then [['-']] else given.operands
  let size (path : Raw) : Option (Option Nat) :=
    if path = ['-'] then
      match (process.stream? 0).bind process.system.origin? with
      | some (.file number) => some ((process.tree.entry? number).map Entry.size)
      | _ => some none
    else
      match process.status? path with
      | .ok (_, node) => some (if node.entry.isRegular then some node.entry.size else none)
      | .error _ => none
  let sizes := paths.filterMap size
  let total := (sizes.map (·.getD 0)).foldl (· + ·) 0
  let width :=
    if columns = 1 ∧ paths.length = 1 then 1
    else if sizes.any Option.isNone then max 7 (Raw.ofNat total).length
    else (Raw.ofNat total).length
  let row (name : Raw) (numbers : List Nat) : Errand Unit :=
    let column (n : Nat) : Raw :=
      let digits := Raw.ofNat n
      List.replicate (width - digits.length) ' ' ++ digits
    sayLine (Raw.joined [' '] (numbers.map column) ++ (if name = [] then [] else ' ' :: name))
  let sums ← paths.foldlM
    (fun (sums : List (List Nat)) path => do
      match ← content path with
      | .ok text =>
        row (if given.operands = [] then [] else path) (counts text)
        return sums ++ [counts text]
      | .error reason =>
        fault (about path reason)
        if reason = .isADirectory then row path (counts [])
        return sums)
    []
  if 1 < paths.length then
    let zero := List.replicate columns 0
    row (raw "total") (sums.foldl (List.zipWith (· + ·)) zero)

/-! ## Replacing -/

/-- The characters from one to another. -/
def charactersBetween (low high : Char) : Raw :=
  (List.range (high.toNat + 1 - low.toNat)).map fun i => Char.ofNat (low.toNat + i)

/-- A part of a set of characters. -/
inductive SetPart where
  | characters (characters : Raw)
  | cases (upper : Bool)
  /-- A character as often as it takes, or so often. -/
  | filling (c : Char) (count : Option Nat)

/-- A character of a set at the beginning of a text, and how many characters it
takes. -/
def setCharacter : Raw → Option (Char × Nat)
  | [] => none
  | '\\' :: more =>
    match { letters := Escapes.common.filter (·.1 ≠ 'e') : Escapes }.meaning more with
    | (.text [c], count) => some (c, count + 1)
    | _ => match more with
      | c :: _ => some (c, 2)
      | [] => some ('\\', 1)
  | c :: _ => some (c, 1)

/-- The parts of a set of characters, in at most so many steps. -/
def setParts : Nat → Raw → Errand (List SetPart)
  | 0, _ => return []
  | _, [] => return []
  | steps + 1, text => do
    let plain : Errand (List SetPart) := do
      match setCharacter text with
      | none => return []
      | some (low, used) =>
        match text.drop used with
        | '-' :: rest =>
          match setCharacter rest with
          | some (high, more) =>
            if high < low then
              die 1 (raw "range-endpoints of '" ++ [low, '-', high]
                ++ raw "' are in reverse collating sequence order")
            return .characters (charactersBetween low high)
              :: (← setParts steps (rest.drop more))
          | none => return .characters [low] :: (← setParts steps ['-'])
        | rest => return .characters [low] :: (← setParts steps rest)
    match text with
    | '[' :: ':' :: more =>
      let name := more.takeWhile Char.isAlpha
      match (more.drop name.length).take 2, String.ofList name, Ranges.ofClass? name with
      | [':', ']'], "upper", _ =>
        return .cases true :: (← setParts steps (more.drop (name.length + 2)))
      | [':', ']'], "lower", _ =>
        return .cases false :: (← setParts steps (more.drop (name.length + 2)))
      | [':', ']'], _, some ranges =>
        let members := (List.range 256).map Char.ofNat |>.filter ranges.has
        return .characters members :: (← setParts steps (more.drop (name.length + 2)))
      | [':', ']'], _, none => die 1 (raw "invalid character class " ++ quote name)
      | _, _, _ => plain
    | '[' :: '=' :: c :: '=' :: ']' :: rest => return .characters [c] :: (← setParts steps rest)
    | '[' :: rest =>
      match setCharacter rest with
      | none => plain
      | some (c, used) =>
        match rest.drop used with
        | '*' :: more =>
          let digits := more.takeWhile Char.isDigit
          match more.drop digits.length with
          | ']' :: rest =>
            let count :=
              Escapes.ofDigits (if digits.head? = some '0' then 8 else 10) digits
            return .filling c (if count = 0 then none else some count)
              :: (← setParts steps rest)
          | _ => plain
        | _ => plain
    | _ => plain

/-- The characters of a part. -/
def SetPart.characters? : SetPart → Raw
  | .characters cs => cs
  | .cases upper => if upper then charactersBetween 'A' 'Z' else charactersBetween 'a' 'z'
  | .filling c count => List.replicate (count.getD 0) c

/-- The characters of a set that has to be so long. -/
def setOf (length : Nat) (parts : List SetPart) : Raw :=
  let known := (parts.flatMap SetPart.characters?).length
  parts.flatMap fun
    | .filling c none => List.replicate (length - known) c
    | part => part.characters?

/-- A text in which no two members of a set that stand together are equal. -/
def squeezed (isMember : Char → Bool) : Raw → Raw
  | a :: b :: more =>
    if a = b ∧ isMember a then squeezed isMember (b :: more)
    else a :: squeezed isMember (b :: more)
  | text => text

/-- Replaces, deletes or squeezes characters. -/
def translate (arguments : List Raw) : Errand Unit := do
  let given ← given
    { letters := "cCdst", inOrder := true,
      words := [("complement", .none, "c"), ("delete", .none, "d"),
        ("squeeze-repeats", .none, "s"), ("truncate-set1", .none, "t")] } arguments
  let deletes := given.has "d"
  let squeezes := given.has "s"
  let inverted := given.has "c" || given.has "C"
  let needed := if deletes == squeezes then 2 else 1
  match given.operands with
  | [] => misuse 1 (raw "missing operand")
  | [only] =>
    if needed = 2 then
      warn (raw "missing operand after " ++ quote only)
      shout (raw (if squeezes
        then "Two strings must be given when both deleting and squeezing repeats.\n"
        else "Two strings must be given when translating.\n"))
      shout (raw "Try 'tr --help' for more information.\n")
      stop 1
  | [_, second] =>
    if deletes && !squeezes then
      warn (raw "extra operand " ++ quote second)
      shout (raw "Only one string may be given when deleting without squeezing repeats.\n")
      shout (raw "Try 'tr --help' for more information.\n")
      stop 1
  | _ :: _ :: extra :: _ => misuse 1 (raw "extra operand " ++ quote extra)
  let parts ← given.operands.mapM fun text => setParts (text.length + 1) text
  let first := setOf 0 (parts.headD [])
  let all := (List.range 256).map Char.ofNat
  let firstSet := if inverted then all.filter fun c => !first.contains c else first
  let isFirst (c : Char) : Bool := firstSet.contains c
  let second := setOf firstSet.length ((parts.drop 1).headD [])
  let input ←
    match ← drain 0 with
    | .ok text => pure text
    | .error reason => die 1 (raw "read error: " ++ raw reason.reason)
  if deletes then
    let kept := input.filter fun c => !isFirst c
    say (if squeezes then squeezed second.contains kept else kept)
  else if given.operands.length = 1 then say (squeezed isFirst input)
  else
    if second = [] && firstSet ≠ [] && !given.has "t" then
      die 1 (raw "when not truncating set1, string2 must be non-empty")
    let firstSet := if given.has "t" then firstSet.take second.length else firstSet
    let padded := second
      ++ List.replicate (firstSet.length - second.length) (second.getLast?.getD ' ')
    let table := (firstSet.zip padded).foldl
      (fun (table : Array Char) (c, d) => table.set! c.toNat d) all.toArray
    let image (c : Char) : Char := (table[c.toNat]?).getD c
    let text := input.map image
    say (if squeezes then squeezed second.contains text else text)

end Errand

end Rehearsal

end InstallPlan
