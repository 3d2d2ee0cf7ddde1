import InstallPlan.Rehearsal.Errand.Parts

/-!
# Rehearsal — Errands about order

The programs that put lines in order, and those that compare lines that are in
order already.
-/

namespace InstallPlan

namespace Rehearsal

namespace Errand

/-- How two keys are compared. -/
inductive Measure where
  | text
  | number
  | general
  | human
  | version
  | month
  deriving DecidableEq

/-- How a key of a line is taken and compared. -/
structure Key where
  /-- The field and the character that it begins with, counted from one. -/
  first : Nat × Nat := (1, 1)
  /-- The field and the character that it ends with; character zero is the last. -/
  last : Option (Nat × Nat) := none
  measure : Measure := .text
  reversed : Bool := false
  folds : Bool := false
  skipsBlanks : Bool := false
  dictionary : Bool := false
  printable : Bool := false
  /-- Whether the key says itself how it is compared. -/
  isOwn : Bool := false

/-- The key with a letter that says how it is compared. -/
def Key.with? (key : Key) (letter : Char) : Option Key :=
  let own : Key := { key with isOwn := true }
  match letter with
  | 'n' => some { own with measure := .number }
  | 'g' => some { own with measure := .general }
  | 'h' => some { own with measure := .human }
  | 'V' => some { own with measure := .version }
  | 'M' => some { own with measure := .month }
  | 'r' => some { own with reversed := true }
  | 'f' => some { own with folds := true }
  | 'b' => some { own with skipsBlanks := true }
  | 'd' => some { own with dictionary := true }
  | 'i' => some { own with printable := true }
  | _ => none

/-- One end of a key: a field, a character in it, and letters. -/
def keyEnd? (standard : Nat) (text : Raw) : Option ((Nat × Nat) × Raw) :=
  let field := text.takeWhile Char.isDigit
  let rest := text.drop field.length
  if field = [] then none
  else
    match rest with
    | '.' :: more =>
      let c := more.takeWhile Char.isDigit
      if c = [] then none else some ((ofDecimal field, ofDecimal c), more.drop c.length)
    | _ => some ((ofDecimal field, standard), rest)

/-- Reads a key. -/
def key? (text : Raw) : Option Key := do
  let (first, rest) ← keyEnd? 1 text
  let letters := rest.takeWhile Char.isAlpha
  let key ← letters.foldlM Key.with? { first }
  match rest.drop letters.length with
  | [] => return key
  | ',' :: more =>
    let (last, letters) ← keyEnd? 0 more
    letters.foldlM Key.with? { key with last := some last }
  | _ => none

/-- The fields of a line with the positions at which they begin and end. Without
a mark the blanks in front of a field belong to it. -/
def fieldBounds (mark : Option Char) (line : Raw) : List (Nat × Nat) :=
  match mark with
  | some mark =>
    ((Raw.split mark line).foldl
      (fun (state : List (Nat × Nat) × Nat) piece =>
        (state.1 ++ [(state.2, state.2 + piece.length)], state.2 + piece.length + 1))
      ([], 0)).1
  | none =>
    let rec go : Nat → Nat → Raw → List (Nat × Nat)
      | 0, _, _ => []
      | steps + 1, start, text =>
        let blanks := text.takeWhile isBlank
        let word := (text.drop blanks.length).takeWhile (!isBlank ·)
        let stop := start + blanks.length + word.length
        match text.drop (blanks.length + word.length) with
        | [] => [(start, stop)]
        | rest => (start, stop) :: go steps stop rest
    go (line.length + 1) 0 line

/-- The part of a line that a key compares. -/
def Key.part (key : Key) (mark : Option Char) (line : Raw) : Raw :=
  let bounds := fieldBounds mark line
  let blanksAt (i : Nat) : Nat :=
    if key.skipsBlanks then ((line.drop i).takeWhile isBlank).length else 0
  let first :=
    match bounds[key.first.1 - 1]? with
    | some (start, _) => start + blanksAt start + (key.first.2 - 1)
    | none => line.length
  let last :=
    match key.last with
    | none => line.length
    | some (field, c) =>
      match bounds[field - 1]? with
      | some (start, stop) => if c = 0 then stop else min line.length (start + blanksAt start + c)
      | none => line.length
  (line.take last).drop first

/-- A number at the beginning of a text, as a whole number of so many parts. -/
def leadingNumber (text : Raw) : Int :=
  let text := text.dropWhile isBlank
  let (sign, text) : Int × Raw :=
    match text with
    | '-' :: more => (-1, more)
    | _ => (1, text)
  let whole := text.takeWhile Char.isDigit
  let part :=
    match text.drop whole.length with
    | '.' :: more => (more.takeWhile Char.isDigit).take 18
    | _ => []
  sign * (ofDecimal (whole ++ part ++ List.replicate (18 - part.length) '0') : Nat)

/-- The rank of the letter behind a number that is written for people. -/
def suffixRank (text : Raw) : Nat :=
  let text := text.dropWhile isBlank
  let text := if text.head? = some '-' then text.drop 1 else text
  match text.dropWhile fun c => c.isDigit ∨ c = '.' with
  | c :: _ => match "KMGTPEZY".toList.findIdx? (· = c.toUpper) with
    | some i => i + 1
    | none => 0
  | [] => 0

/-- Whether a real number is at most another one. -/
def realAtMost (a b : Option (Real × Raw)) : Bool :=
  let rank : Option (Real × Raw) → Int × Int × Int
    | none => (0, 0, 1)
    | some (.undefined _, _) => (1, 0, 1)
    | some (.infinite true, _) => (2, 0, 1)
    | some (.finite negative m e, _) =>
      let (n, d) := Real.fraction m e
      (3, if negative then -(n : Int) else n, d)
    | some (.infinite false, _) => (4, 0, 1)
  let (i, n, d) := rank a
  let (j, m, e) := rank b
  i < j || (i = j && n * e ≤ m * d)

/-- The order of versions: numbers in them count as numbers. -/
def versionAtMost : Nat → Raw → Raw → Bool
  | 0, _, _ => true
  | _, [], _ => true
  | _, _, [] => false
  | steps + 1, a, b =>
    let rank (c : Char) : Nat :=
      if c = '~' then 0 else if c.isAlpha then c.toNat else c.toNat + 256
    let wordA := a.takeWhile (!Char.isDigit ·)
    let wordB := b.takeWhile (!Char.isDigit ·)
    if wordA ≠ wordB then
      let rec words : Raw → Raw → Bool
        | [], [] => true
        | [], c :: _ => c ≠ '~'
        | c :: _, [] => c = '~'
        | c :: as, d :: bs => rank c < rank d || (rank c = rank d && words as bs)
      words wordA wordB
    else
      let restA := a.drop wordA.length
      let restB := b.drop wordB.length
      let digitsA := restA.takeWhile Char.isDigit
      let digitsB := restB.takeWhile Char.isDigit
      let n := ofDecimal digitsA
      let m := ofDecimal digitsB
      n < m || (n = m
        && versionAtMost steps (restA.drop digitsA.length) (restB.drop digitsB.length))

/-- The number of a month by its name. -/
def monthOf (text : Raw) : Nat :=
  let name := ((text.dropWhile isBlank).take 3).map Char.toUpper
  let months := ["JAN", "FEB", "MAR", "APR", "MAY", "JUN", "JUL", "AUG", "SEP", "OCT", "NOV", "DEC"]
  match months.findIdx? fun m => m.toList = name with
  | some i => i + 1
  | none => 0

/-- Whether a key of a line comes before that of another, or is equal to it. -/
def Key.partAtMost (key : Key) (a b : Raw) : Bool :=
  match key.measure with
  | .number => leadingNumber a ≤ leadingNumber b
  | .human =>
    let rank (text : Raw) : Int × Int :=
      let n := leadingNumber text
      ((if n < 0 then -1 else 1) * (if n = 0 then 0 else suffixRank text : Nat), n)
    (rank a).1 < (rank b).1 || ((rank a).1 = (rank b).1 && (rank a).2 ≤ (rank b).2)
  | .general => realAtMost (Real.read? 64 a) (Real.read? 64 b)
  | .version => versionAtMost (a.length + 1) a b
  | .month => monthOf a ≤ monthOf b
  | .text =>
    let shaped (text : Raw) : Raw :=
      let text := if key.dictionary then text.filter fun c => c.isAlphanum ∨ isBlank c else text
      let text := if key.printable then text.filter fun c => ' ' ≤ c ∧ c ≤ '~' else text
      if key.folds then text.map Char.toUpper else text
    Raw.atMost (shaped a) (shaped b)

/-- What is asked of the order of lines. -/
structure Ordering where
  mark : Option Char
  keys : List Key
  reversed : Bool
  stable : Bool

/-- Whether a line comes before another, or has its place, by the keys. -/
def Ordering.byKeys (ordering : Ordering) : List Key → Raw → Raw → Option Bool
  | [], _, _ => none
  | key :: keys, a, b =>
    let x := key.part ordering.mark a
    let y := key.part ordering.mark b
    let below := key.partAtMost x y
    let above := key.partAtMost y x
    if below && above then ordering.byKeys keys a b
    else some (below != key.reversed)

/-- Whether a line comes before another, or may. -/
def Ordering.atMost (ordering : Ordering) (a b : Raw) : Bool :=
  match ordering.byKeys ordering.keys a b with
  | some below => below
  | none =>
    if ordering.stable then true
    else if ordering.reversed then Raw.atMost b a else Raw.atMost a b

/-- Whether two lines have the same keys. -/
def Ordering.same (ordering : Ordering) (a b : Raw) : Bool :=
  (ordering.byKeys ordering.keys a b).isNone

/-- Lines of which only the first of those with the same keys is kept. -/
def Ordering.distinct (ordering : Ordering) : List Raw → List Raw
  | a :: b :: rest =>
    if ordering.same a b then
      match ordering.distinct (b :: rest) with
      | _ :: kept => a :: kept
      | [] => [a]
    else a :: ordering.distinct (b :: rest)
  | lines => lines

/-- Puts lines in order. -/
def sort (arguments : List Raw) : Errand Unit := do
  let given ← givenOr 2
    { letters := "bcCdfghik:mMno:rRsS:t:T:uVz",
      words := [("ignore-leading-blanks", .none, "b"), ("check", .attached, "c"),
        ("dictionary-order", .none, "d"), ("ignore-case", .none, "f"),
        ("general-numeric-sort", .none, "g"), ("human-numeric-sort", .none, "h"),
        ("ignore-nonprinting", .none, "i"), ("key", .value, "k"), ("merge", .none, "m"),
        ("month-sort", .none, "M"), ("numeric-sort", .none, "n"), ("output", .value, "o"),
        ("reverse", .none, "r"), ("stable", .none, "s"), ("field-separator", .value, "t"),
        ("unique", .none, "u"), ("version-sort", .none, "V"), ("zero-terminated", .none, "z")] }
    arguments
  let mark := if given.has "z" then '\x00' else '\n'
  let letters := given.options.filterMap fun o =>
    match o.1.toList with
    | [c] => if "bdfghiMnrV".toList.contains c then some c else none
    | _ => none
  let standard := (letters.foldlM Key.with? {}).getD {}
  let separator ←
    match given.last? "t" with
    | none => pure none
    | some [c] => pure (some c)
    | some ['\\', '0'] => pure (some '\x00')
    | some [] => die 2 (raw "empty tab")
    | some text => die 2 (raw "multi-character tab " ++ quote text)
  let keys ← (given.all "k").mapM fun text => do
    match key? text with
    | some key =>
      return if key.isOwn then key
        else { standard with first := key.first, last := key.last }
    | none => die 2 (raw "invalid number at field start: invalid count at start of " ++ quote text)
  let ordering : Ordering :=
    { mark := separator
      keys := if keys = [] then [standard] else keys
      reversed := standard.reversed
      stable := given.has "s" || given.has "u" }
  let paths := if given.operands = [] then [['-']] else given.operands
  let texts ← paths.mapM fun path => do
    match ← content path with
    | .ok text => return text
    | .error .isADirectory => die 2 (raw "read failed: " ++ path ++ raw ": Is a directory")
    | .error reason => die 2 (raw "cannot read: " ++ about path reason)
  let lines := texts.flatMap fun text => (piecesOf mark text).map (Raw.dropEnd (· = mark))
  if given.has "c" || given.has "C" then
    let rec check : Nat → List Raw → Errand Unit
      | n, a :: b :: rest => do
        let fine := ordering.atMost a b && !(given.has "u" && ordering.same a b)
        if fine then check (n + 1) (b :: rest)
        else
          if given.has "c" then
            let name := paths.headD ['-']
            warn (name ++ [':'] ++ Raw.ofNat (n + 1) ++ raw ": disorder: " ++ b)
          setStatus 1
      | _, _ => pure ()
    check 1 lines
  else
    let sorted := lines.mergeSort ordering.atMost
    let sorted := if given.has "u" then ordering.distinct sorted else sorted
    let text := sorted.flatMap (· ++ [mark])
    match given.last? "o" with
    | none => say text
    | some path =>
      match ← store path text .writing with
      | .ok _ => pure ()
      | .error reason => die 2 (raw "open failed: " ++ about path reason)

/-- Lines in groups of equal ones that follow one another. -/
def grouped (same : Raw → Raw → Bool) : List Raw → List (List Raw)
  | [] => []
  | line :: rest =>
    match grouped same rest with
    | (next :: group) :: more =>
      if same line next then (line :: next :: group) :: more else [line] :: (next :: group) :: more
    | groups => [line] :: groups

/-- Prints one of several equal lines that follow one another. -/
def unique (arguments : List Raw) : Errand Unit := do
  let given ← given
    { letters := "cdDf:is:uw:z",
      words := [("count", .none, "c"), ("repeated", .none, "d"), ("all-repeated", .attached, "D"),
        ("skip-fields", .value, "f"), ("ignore-case", .none, "i"), ("skip-chars", .value, "s"),
        ("unique", .none, "u"), ("check-chars", .value, "w"), ("zero-terminated", .none, "z")] }
    arguments
  atMost 2 given.operands
  let mark := if given.has "z" then '\x00' else '\n'
  let number? (option : String) : Option Nat := (given.last? option).bind decimal?
  let withoutFields (line : Raw) : Raw :=
    Nat.repeat (fun text => (text.dropWhile isBlank).dropWhile (!isBlank ·))
      ((number? "f").getD 0) line
  let key (line : Raw) : Raw :=
    let text := (withoutFields line).drop ((number? "s").getD 0)
    let text := match number? "w" with | some n => text.take n | none => text
    if given.has "i" then text.map Char.toLower else text
  let path := given.operands.headD ['-']
  match ← content path with
  | .error reason => die 1 (about path reason)
  | .ok text =>
    let lines := (piecesOf mark text).map (Raw.dropEnd (· = mark))
    let groups := grouped (fun a b => key a = key b) lines
    let shown := groups.flatMap fun group =>
      let count := group.length
      let wanted := if given.has "d" then 1 < count && !given.has "u"
        else !given.has "u" || count = 1
      let digits := Raw.ofNat count
      if given.has "D" then (if 1 < count then group else [])
      else if !wanted then []
      else
        (group.take 1).map fun line =>
          if given.has "c" then
            List.replicate (7 - digits.length) ' ' ++ digits ++ ' ' :: line
          else line
    let result := shown.flatMap (· ++ [mark])
    match given.operands with
    | [_, out] =>
      if out = ['-'] then say result
      else
        match ← store out result .writing with
        | .ok _ => pure ()
        | .error reason => die 1 (about out reason)
    | _ => say result

/-- Prints which lines of two ordered files are in one only, and which in both. -/
def common (arguments : List Raw) : Errand Unit := do
  let given ← given
    { letters := "123z", words := [("output-delimiter", .value, "joint"), ("total", .none, "t"),
      ("check-order", .none, "check"), ("nocheck-order", .none, "nocheck")] } arguments
  atLeast 2 given.operands
  atMost 2 given.operands
  let texts ← given.operands.mapM fun path => do
    match ← content path with
    | .ok text => return Raw.lines text
    | .error reason => die 1 (about path reason)
  let joint := (given.last? "joint").getD ['\t']
  let hidden (option : String) : Bool := given.has option
  let indent (column : Nat) : Raw :=
    (if 1 < column && !hidden "1" then joint else [])
      ++ (if 2 < column && !hidden "2" then joint else [])
  let row (column : Nat) (line : Raw) : Raw := indent column ++ line ++ ['\n']
  let rec go : Nat → List Raw → List Raw → List Raw
    | 0, _, _ => []
    | _, [], [] => []
    | steps + 1, a :: as, [] => (if hidden "1" then [] else [row 1 a]) ++ go steps as []
    | steps + 1, [], b :: bs => (if hidden "2" then [] else [row 2 b]) ++ go steps [] bs
    | steps + 1, a :: as, b :: bs =>
      if a = b then (if hidden "3" then [] else [row 3 a]) ++ go steps as bs
      else if Raw.atMost a b then (if hidden "1" then [] else [row 1 a]) ++ go steps as (b :: bs)
      else (if hidden "2" then [] else [row 2 b]) ++ go steps (a :: as) bs
  match texts with
  | [a, b] => say (go (a.length + b.length + 1) a b).flatten
  | _ => pure ()

end Errand

end Rehearsal

end InstallPlan
