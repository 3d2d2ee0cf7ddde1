import InstallPlan.Rehearsal.Errand.Files
import InstallPlan.Rehearsal.Errand.Order

/-!
# Rehearsal — Errands that list files

The programs that tell what is in a directory, and what there is to tell of a
file.
-/

namespace InstallPlan

namespace Rehearsal

namespace Errand

/-- The letter of a kind of node. -/
def kindLetter : Entry → Char
  | .directory _ _ => 'd'
  | .file _ | .program _ => '-'
  | .link _ => 'l'
  | .device _ => 'c'
  | .queue _ => 'p'

/-- A mode as letters. -/
def modeLetters (entry : Entry) (mode : Nat) : Raw :=
  let bit (mask : Nat) : Bool := mode &&& mask != 0
  let three (shift : Nat) (special : Bool) (letter : Char) : Raw :=
    let x := bit (1 <<< shift)
    [if bit (4 <<< shift) then 'r' else '-', if bit (2 <<< shift) then 'w' else '-',
      if special then (if x then letter else letter.toUpper) else if x then 'x' else '-']
  kindLetter entry :: three 6 (bit 0o4000) 's' ++ three 3 (bit 0o2000) 's'
    ++ three 0 (bit 0o1000) 't'

/-- The mark behind a name that tells its kind. -/
def kindMark (node : Node) : Raw :=
  match node.entry with
  | .directory _ _ => ['/']
  | .link _ => ['@']
  | .queue _ => ['|']
  | .file _ | .program _ => if node.isExecutable then ['*'] else []
  | .device _ => []

/-! ## Directories -/

/-- What is asked of a list of files. -/
structure Listing where
  given : Given
  /-- The files and the time by now. -/
  process : Process

namespace Listing

/-- Whether an option was given. -/
def has (listing : Listing) (option : String) : Bool := listing.given.has option

/-- A name or path that is listed, and its node. -/
abbrev Item := Raw × Nat

/-- Items in the order that was asked for. -/
def ordered (listing : Listing) (items : List Item) : List Item :=
  let node (item : Item) : Option Node := listing.process.tree.node? item.2
  let byName (a b : Item) : Bool := Raw.atMost a.1 b.1
  let stamp (item : Item) : Int := ((node item).map (·.stamp)).getD 0
  let size (item : Item) : Nat := ((node item).map (·.entry.size)).getD 0
  let atMost (a b : Item) : Bool :=
    match listing.given.latest? ["t", "S", "U", "v"] with
    | some "t" => stamp b < stamp a || (stamp a = stamp b && byName a b)
    | some "S" => size b < size a || (size a = size b && byName a b)
    | some "v" => versionAtMost (a.1.length + 1) a.1 b.1
    | _ => byName a b
  let sorted :=
    if listing.given.latest? ["t", "S", "U", "v"] = some "U" || listing.has "f" then items
    else items.mergeSort atMost
  if listing.has "r" then sorted.reverse else sorted

/-- The lines of items. -/
def rows (listing : Listing) (items : List Item) : List Raw :=
  let cells := items.map fun (name, number) =>
    match listing.process.tree.node? number with
    | none => ([], name)
    | some node =>
      let shown :=
        name ++ (if listing.has "F" then kindMark node
          else if listing.has "p" && node.entry.isDirectory then ['/'] else [])
      let shown :=
        if listing.has "l" || listing.has "n" then
          match node.entry with
          | .link target => name ++ raw " -> " ++ target
          | _ => shown
        else shown
      let serial := if listing.has "i" then [Raw.ofNat (number + 1)] else []
      let long :=
        if listing.has "l" || listing.has "n" || listing.has "o" || listing.has "g" then
          let owner := raw (if listing.has "n" then "0" else "root")
          [modeLetters node.entry node.mode, Raw.ofNat (listing.process.tree.nameCount number)]
            ++ (if listing.has "g" then [] else [owner])
            ++ (if listing.has "o" then [] else [owner])
            ++ [Raw.ofNat node.entry.size, timeText 64 node.stamp (raw "%b %e %H:%M")]
        else []
      (serial ++ long, shown)
  let columns := (cells.map (·.1.length)).foldl max 0
  let widths := (List.range columns).map fun i =>
    (cells.map fun (parts, _) => ((parts[i]?).getD []).length).foldl max 0
  cells.map fun (parts, shown) =>
    let filled := (parts.zip widths).map fun (part, width) =>
      let isNumber := part.all Char.isDigit
      let gap := List.replicate (width - part.length) ' '
      if isNumber then gap ++ part else part ++ gap
    Raw.joined [' '] (filled ++ [shown])

/-- Says items, one to a line. -/
def say (listing : Listing) (items : List Item) : Errand Unit := do
  let rows := listing.rows (listing.ordered items)
  if listing.has "m" then
    if rows ≠ [] then sayLine (Raw.joined (raw ", ") rows)
  else rows.forM sayLine

/-- The members of a directory that are shown. -/
def members (listing : Listing) (number : Nat) : List Item :=
  let all := listing.has "a" || listing.has "f"
  let dots : List Item :=
    if all then [(raw ".", number), (raw "..", listing.process.tree.parent number)] else []
  dots ++ (listing.process.tree.members number).filter fun (name, _) =>
    all || listing.has "A" || name.head? != some '.'

/-- Says what is in directories, one after the other. The second argument tells
whether anything was said before. -/
def directories (listing : Listing) (headed : Bool) :
    Nat → Bool → List Item → Errand Unit
  | 0, _, _ => pure ()
  | _, _, [] => pure ()
  | steps + 1, said, (path, number) :: more => do
    if headed then Errand.say ((if said then ['\n'] else []) ++ path ++ raw ":\n")
    let items := listing.members number
    if listing.has "l" then
      let blocks := (items.map fun (_, inner) =>
        match listing.process.tree.entry? inner with
        | some (.directory _ _) => 4
        | some (.link _) => 0
        | some entry => (entry.size + 4095) / 4096 * 4
        | none => 0).foldl (· + ·) 0
      sayLine (raw "total " ++ Raw.ofNat blocks)
    listing.say items
    let inner :=
      if listing.has "R" then
        (listing.ordered items).filterMap fun (name, inner) =>
          if listing.process.tree.isDirectory inner && name ≠ ['.'] && name ≠ ['.', '.'] then
            some (inside path name, inner)
          else none
      else []
    listing.directories headed steps true (inner ++ more)

end Listing

/-- Lists files and what is in directories. -/
def list (arguments : List Raw) : Errand Unit := do
  let given ← givenOr 2
    { letters := "aAbBcCdfFgGhHiI:klLmnNopqQrRsStT:uUvw:xXZ1",
      words := [("all", .none, "a"), ("almost-all", .none, "A"), ("directory", .none, "d"),
        ("recursive", .none, "R"), ("reverse", .none, "r"), ("classify", .attached, "F"),
        ("human-readable", .none, "h"), ("inode", .none, "i"), ("color", .attached, "color"),
        ("sort", .value, "sort"), ("group-directories-first", .none, "dirs"),
        ("full-time", .none, "l"), ("time-style", .value, "style")] } arguments
  let process ← process
  let listing : Listing := { given, process }
  let paths := if given.operands = [] then [['.']] else given.operands
  let found ← paths.filterMapM fun path => do
    let direct := given.has "d" || given.has "l" || given.has "F"
    let result : Except IoFault Nat :=
      match process.tree.find process.here path with
      | .ok number =>
        if !direct && process.tree.isDirectory number then .ok number
        else process.tree.findUnfollowed process.here path
      | .error _ => process.tree.findUnfollowed process.here path
    match result with
    | .ok number => return some (path, number)
    | .error reason =>
      faultWith 2 (raw "cannot access " ++ quote path ++ raw ": " ++ raw reason.reason)
      return none
  let isOpened (item : Listing.Item) : Bool := process.tree.isDirectory item.2 && !given.has "d"
  let files := found.filter (!isOpened ·)
  let directories := listing.ordered (found.filter isOpened)
  listing.say files
  let headed := 1 < paths.length || given.has "R"
  listing.directories headed 65536 (!files.isEmpty) directories

/-! ## Single files -/

/-- What a letter in a format tells of a node. -/
def nodeText (tree : Tree) (path : Raw) (number : Nat) (node : Node) (letter : Char) : Option Raw :=
  let kind : String :=
    match node.entry with
    | .directory _ _ => "directory"
    | .file [] => "regular empty file"
    | .file _ | .program _ => "regular file"
    | .link _ => "symbolic link"
    | .device _ => "character special file"
    | .queue _ => "fifo"
  match letter with
  | 'n' => some path
  | 'N' =>
    some (match node.entry with
      | .link target => quote path ++ raw " -> " ++ quote target
      | _ => quote path)
  | 's' => some (Raw.ofNat node.entry.size)
  | 'a' => some (Nat.toDigits 8 node.mode)
  | 'A' => some (modeLetters node.entry node.mode)
  | 'F' => some (raw kind)
  | 'h' => some (Raw.ofNat (tree.nameCount number))
  | 'i' => some (Raw.ofNat (number + 1))
  | 'u' | 'g' => some ['0']
  | 'U' | 'G' => some (raw "root")
  | 'Y' | 'X' | 'Z' => some (Raw.ofInt (node.stamp.fdiv 1000000000))
  | 'y' | 'x' | 'z' => some (timeText 64 node.stamp (raw "%Y-%m-%d %H:%M:%S.%N %z"))
  | 'b' => some (Raw.ofNat ((node.entry.size + 4095) / 4096 * 8))
  | 'B' => some (raw "512")
  | 'o' => some (raw "4096")
  | _ => none

/-- What a format prints of a node, in at most so many steps. -/
def formatted (tell : Char → Option Raw) : Nat → Raw → Raw
  | 0, _ => []
  | _, [] => []
  | steps + 1, '%' :: '%' :: rest => '%' :: formatted tell steps rest
  | steps + 1, '%' :: rest =>
    let flags := rest.takeWhile fun c => c.isDigit ∨ c = '-' ∨ c = '#'
    match rest.drop flags.length with
    | [] => ['%']
    | letter :: more =>
      let text := (tell letter).getD ['?']
      let digits := flags.filter Char.isDigit
      let width := ofDecimal digits
      let gap := List.replicate (width - text.length) (if digits.head? = some '0' then '0' else ' ')
      (if flags.contains '-' then text ++ gap else gap ++ text) ++ formatted tell steps more
  | steps + 1, c :: rest => c :: formatted tell steps rest

/-- Tells about files. -/
def tellStatus (arguments : List Raw) : Errand Unit := do
  let given ← given
    { letters := "c:fLt",
      words := [("format", .value, "c"), ("printf", .value, "printf"), ("dereference", .none, "L"),
        ("terse", .none, "t"), ("file-system", .none, "f")] } arguments
  atLeast 1 given.operands
  given.operands.forM fun path => do
    let process ← process
    match ← (if given.has "L" then pure ((process.status? path).map (·.1))
        else pure (process.tree.findUnfollowed process.here path)) with
    | .error reason => fault (raw "cannot statx " ++ quote path ++ raw ": " ++ raw reason.reason)
    | .ok number =>
      match process.tree.node? number with
      | none => pure ()
      | some node =>
        let tell := nodeText process.tree path number node
        match given.last? "c", given.last? "printf" with
        | some format, _ => sayLine (formatted tell (format.length + 1) format)
        | none, some format =>
          let escapes : Escapes := { letters := Escapes.common }
          say (formatted tell (format.length + 1) (escapes.replace 0 format).1)
        | none, none =>
          let rows := [
            "  File: %n", "  Size: %s\tBlocks: %b\tIO Block: %o\t%F",
            "Device: 0,1\tInode: %i\tLinks: %h",
            "Access: (%04a/%A)  Uid: (%5u/%8U)   Gid: (%5g/%8G)", "Access: %x", "Modify: %y",
            "Change: %z", " Birth: -"]
          rows.forM fun row => sayLine (formatted tell 256 row.toList)

end Errand

end Rehearsal

end InstallPlan
