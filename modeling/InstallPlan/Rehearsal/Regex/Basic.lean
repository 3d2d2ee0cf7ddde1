import InstallPlan.Rehearsal.Raw

/-!
# Rehearsal — Regular expressions

Regular expressions, and what they match in a text: of all matches the one that
begins first, and of those the longest. Where a match can end is found for all
beginnings together (`Regex.ends`); what the groups of a match have matched is
found afterwards, the earlier ones taking as much as they can.
-/

namespace InstallPlan

namespace Rehearsal

/-- Ranges of characters. -/
abbrev Ranges := List (Char × Char)

namespace Ranges

/-- Whether a character lies in one of some ranges. -/
def has (ranges : Ranges) (c : Char) : Bool := ranges.any fun (low, high) => low ≤ c && c ≤ high

/-- The classes of characters that brackets can name. -/
def classes : List (String × Ranges) := [
  ("alnum", [('a', 'z'), ('A', 'Z'), ('0', '9')]),
  ("alpha", [('a', 'z'), ('A', 'Z')]),
  ("blank", [(' ', ' '), ('\t', '\t')]),
  ("cntrl", [('\x00', '\x1F'), ('\x7F', '\x7F')]),
  ("digit", [('0', '9')]),
  ("graph", [('!', '~')]),
  ("lower", [('a', 'z')]),
  ("print", [(' ', '~')]),
  ("punct", [('!', '/'), (':', '@'), ('[', '\x60'), ('\x7B', '~')]),
  ("space", [(' ', ' '), ('\t', '\r')]),
  ("upper", [('A', 'Z')]),
  ("xdigit", [('0', '9'), ('a', 'f'), ('A', 'F')])]

/-- The ranges of a class. -/
def ofClass? (name : Raw) : Option Ranges :=
  (classes.find? fun e => e.1.toList = name).map (·.2)

/-- The characters of a word. -/
def word : Ranges := [('a', 'z'), ('A', 'Z'), ('0', '9'), ('_', '_')]

end Ranges

/-- A regular expression. -/
inductive Regex where
  /-- Matches between two characters. -/
  | empty
  /-- One of some characters, or one that is none of them. -/
  | among (inverted : Bool) (ranges : Ranges)
  /-- The beginning of a line, or of the text. -/
  | start
  /-- The end of a line, or of the text. -/
  | stop
  /-- A border between a word and what is none; which side the word is on may be
  told. -/
  | border (inside : Bool) (before after : Bool)
  | both (first second : Regex)
  | either (first second : Regex)
  /-- So many times at least, and so many at most. -/
  | repeated (body : Regex) (least : Nat) (most : Option Nat)
  | group (number : Nat) (body : Regex)
  /-- What a group has matched, once more. -/
  | again (number : Nat)

namespace Regex

/-- One character. -/
def char (c : Char) : Regex := .among false [(c, c)]

/-- Whether an expression refers to what a group has matched. -/
def refersBack : Regex → Bool
  | .again _ => true
  | .both a b | .either a b => a.refersBack || b.refersBack
  | .repeated a _ _ | .group _ a => a.refersBack
  | _ => false

/-- The number of groups. -/
def groups : Regex → Nat
  | .both a b | .either a b => max a.groups b.groups
  | .repeated a _ _ => a.groups
  | .group number a => max number a.groups
  | _ => 0

/-- A text to be searched. -/
structure Subject where
  text : Array Char
  /-- Whether upper and lower case are the same. -/
  folds : Bool := false
  /-- Whether the beginning of the text is one of a line. -/
  opens : Bool := true
  /-- Whether lines begin and end within the text. -/
  byLine : Bool := false

namespace Subject

/-- Whether a character is one of some. -/
def isAmong (subject : Subject) (inverted : Bool) (ranges : Ranges) (c : Char) : Bool :=
  (ranges.has c || (subject.folds && (ranges.has c.toLower || ranges.has c.toUpper))) != inverted

/-- Whether a character of a word stands at a position. -/
def isWordAt (subject : Subject) (position : Nat) : Bool :=
  (subject.text[position]?).any (Ranges.has Ranges.word)

/-- Whether one of the expressions that match between two characters does. -/
def holdsAt (subject : Subject) (position : Nat) : Regex → Bool
  | .start =>
    (position = 0 && subject.opens)
      || (subject.byLine && position ≠ 0 && subject.text[position - 1]? = some '\n')
  | .stop =>
    position = subject.text.size
      || (subject.byLine && subject.text[position]? = some '\n')
  | .border inside before after =>
    let left := position ≠ 0 && subject.isWordAt (position - 1)
    let right := subject.isWordAt position
    if inside then left = right else left != right && (!before || right) && (!after || left)
  | _ => true

/-- Whether two stretches of the text are equal. -/
def sameStretch (subject : Subject) (first second count : Nat) : Bool :=
  (List.range count).all fun i =>
    match subject.text[first + i]?, subject.text[second + i]? with
    | some a, some b => a = b || (subject.folds && a.toLower = b.toLower)
    | _, _ => false

end Subject

/-- Positions without those that are among others. -/
def without (positions others : List Nat) : List Nat :=
  positions.filter fun p => !others.contains p

/-- The union of two lists of positions. -/
def union (a b : List Nat) : List Nat := a ++ without b a

/-- The positions that can be reached by doing a step at most so many times; the
positions that were reached last are the first list. -/
def onward (step : List Nat → List Nat) : Nat → List Nat → List Nat → List Nat
  | 0, _, reached => reached
  | _, [], reached => reached
  | times + 1, last, reached =>
    let fresh := without (step last) reached
    onward step times fresh (reached ++ fresh)

/-- The positions at which an expression can end that begins at one of some. What
a group has matched is not known here, so its repetition may be anything. -/
def ends (subject : Subject) : Regex → List Nat → List Nat
  | .among inverted ranges, starts =>
    starts.filterMap fun p =>
      match subject.text[p]? with
      | some c => if subject.isAmong inverted ranges c then some (p + 1) else none
      | none => none
  | .both a b, starts => b.ends subject (a.ends subject starts)
  | .either a b, starts => union (a.ends subject starts) (b.ends subject starts)
  | .repeated a least most, starts =>
    let once := a.ends subject
    let begun := Nat.repeat once least starts
    let times := (most.map (· - least)).getD (subject.text.size + 1)
    onward once times begun begun
  | .group _ a, starts => a.ends subject starts
  | .again _, starts =>
    match starts.min? with
    | none => []
    | some p => (List.range (subject.text.size + 1 - p)).map (p + ·)
  | single, starts => starts.filter fun p => subject.holdsAt p single

/-- What groups have matched: from where to where. -/
abbrev Captures := List (Nat × Nat × Nat)

/-- Goes on after a repetition, having tried one more turn first. -/
def turns (step : Nat → Captures → (Nat → Captures → Option Captures) → Option Captures) :
    Nat → Nat → Nat → Captures → (Nat → Captures → Option Captures) → Option Captures
  | 0, least, p, captures, go => if least = 0 then go p captures else none
  | times + 1, least, p, captures, go =>
    let more :=
      step p captures fun q captures =>
        if q = p ∧ least = 0 then none else turns step times (least - 1) q captures go
    match more with
    | some found => some found
    | none => if least = 0 then go p captures else none

/-- Matches an expression from a position on, as much as can be, and goes on. -/
def trace (subject : Subject) :
    Regex → Nat → Captures → (Nat → Captures → Option Captures) → Option Captures
  | .among inverted ranges, p, captures, go =>
    match subject.text[p]? with
    | some c => if subject.isAmong inverted ranges c then go (p + 1) captures else none
    | none => none
  | .both a b, p, captures, go =>
    a.trace subject p captures fun q captures => b.trace subject q captures go
  | .either a b, p, captures, go =>
    match a.trace subject p captures go with
    | some found => some found
    | none => b.trace subject p captures go
  | .repeated a least most, p, captures, go =>
    turns (a.trace subject) (most.getD (subject.text.size + 1 + least)) least p captures go
  | .group number a, p, captures, go =>
    a.trace subject p captures fun q captures =>
      go q ((number, p, q) :: captures.filter (·.1 ≠ number))
  | .again number, p, captures, go =>
    match captures.find? (·.1 = number) with
    | some (_, first, last) =>
      if subject.sameStretch first p (last - first) then go (p + (last - first)) captures else none
    | none => none
  | single, p, captures, go => if subject.holdsAt p single then go p captures else none

/-- A match: from where to where, and what its groups have matched. -/
structure Found where
  first : Nat
  last : Nat
  captures : Captures := []

/-- What a group of a match has matched; the whole match is group zero. -/
def Found.group? (found : Found) (number : Nat) : Option (Nat × Nat) :=
  if number = 0 then some (found.first, found.last)
  else (found.captures.find? (·.1 = number)).map (·.2)

/-- The longest match that begins at a position. -/
def longestAt (regex : Regex) (subject : Subject) (p : Nat) : Option Found :=
  let candidates := (regex.ends subject [p]).mergeSort fun a b => decide (b ≤ a)
  if regex.refersBack || regex.groups != 0 then
    candidates.findSome? fun last =>
      (regex.trace subject p [] fun q captures => if q = last then some captures else none).map
        fun captures => ⟨p, last, captures⟩
  else candidates.head?.map fun last => ⟨p, last, []⟩

/-- The first match that begins at a position or behind it. -/
def search (regex : Regex) (subject : Subject) (p : Nat) : Option Found :=
  let starts := (List.range (subject.text.size + 1 - p)).map (p + ·)
  if (regex.ends subject starts).isEmpty then none
  else starts.findSome? (regex.longestAt subject)

/-- Whether there is a match. -/
def occurs (regex : Regex) (subject : Subject) : Bool :=
  if regex.refersBack then (regex.search subject 0).isSome
  else !(regex.ends subject (List.range (subject.text.size + 1))).isEmpty

/-- Whether the whole text is a match. -/
def isWhole (regex : Regex) (subject : Subject) : Bool :=
  if regex.refersBack then
    (regex.trace subject 0 [] fun q captures =>
      if q = subject.text.size then some captures else none).isSome
  else (regex.ends subject [0]).contains subject.text.size

end Regex

end Rehearsal

end InstallPlan
