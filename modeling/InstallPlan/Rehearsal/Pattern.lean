import InstallPlan.Rehearsal.Field
import InstallPlan.Rehearsal.Regex.Basic
import InstallPlan.Rehearsal.Tree.Walk

/-!
# Rehearsal — Patterns

Patterns with a question mark for any character, a star for any text, and
brackets for one of several characters. A pattern is read as a regular
expression. A second part finds the paths in a file tree that a pattern matches.
-/

namespace InstallPlan

namespace Rehearsal

/-- How patterns are written. -/
structure PatternStyle where
  /-- Whether a caret turns brackets around, as an exclamation mark does. -/
  caret : Bool := false
  /-- Whether there are groups of patterns that may be repeated. -/
  groups : Bool := false
  deriving DecidableEq

namespace Pattern

/-- A character of a pattern, and whether it may stand for something else. -/
abbrev Sign := Char × Bool

/-- The signs of a row of glyphs. A backslash that came from a value takes away
the meaning of the character behind it. -/
def signs : List Glyph → List Sign
  | [] => []
  | glyph :: rest =>
    match glyph with
    | .literal c | .loose c =>
      if c = '\\' then
        match rest with
        | next :: more =>
          match next.char? with
          | some d => (d, false) :: signs more
          | none => (c, true) :: signs more
        | [] => [(c, false)]
      else (c, true) :: signs rest
    | .quoted c => (c, false) :: signs rest
    | .mark | .cut => signs rest

/-- The signs of a text in which a backslash takes meaning away. -/
def signsOfText (text : Raw) : List Sign := signs (text.map .loose)

/-- A class of characters between its colons, behind the opening bracket. -/
def class? (signs : List Sign) : Option (Ranges × List Sign) :=
  match signs with
  | (':', _) :: rest =>
    let name := (rest.map Prod.fst).takeWhile Char.isAlpha
    match (rest.drop name.length).map Prod.fst with
    | ':' :: ']' :: _ =>
      (Ranges.ofClass? name).map fun ranges => (ranges, rest.drop (name.length + 2))
    | _ => none
  | _ => none

/-- The ranges between brackets and what follows the closing one. The first
member may be the closing bracket itself. -/
def members : Nat → Bool → List Sign → Option (Ranges × List Sign)
  | 0, _, _ => none
  | _, _, [] => none
  | steps + 1, first, (c, active) :: rest =>
    if c = ']' ∧ active ∧ !first then some ([], rest)
    else
      let classed := if c = '[' ∧ active then class? rest else none
      match classed with
      | some (ranges, rest) =>
        (members steps false rest).map fun (more, rest) => (ranges ++ more, rest)
      | none =>
        match rest with
        | ('-', true) :: (high, closes) :: more =>
          if high = ']' ∧ closes then
            (members steps false rest).map fun (more, rest) => ((c, c) :: more, rest)
          else (members steps false more).map fun (others, rest) => ((c, high) :: others, rest)
        | _ => (members steps false rest).map fun (more, rest) => ((c, c) :: more, rest)

/-- Whether a group begins with a sign and the one behind it, and how often it may
occur. -/
def groupKind? (c : Char) : Option (Regex → Regex) :=
  match c with
  | '@' => some id
  | '?' => some fun r => .repeated r 0 (some 1)
  | '*' => some fun r => .repeated r 0 none
  | '+' => some fun r => .repeated r 1 none
  | '!' => some id
  | _ => none

mutual

/-- Reads a pattern, to the end of a group if it is in one. -/
def sequence (style : PatternStyle) : Nat → Bool → List Sign → Regex × List Sign
  | 0, _, rest => (.empty, rest)
  | _, _, [] => (.empty, [])
  | steps + 1, inGroup, (c, active) :: rest =>
    let onward (regex : Regex) (rest : List Sign) : Regex × List Sign :=
      let (more, rest) := sequence style steps inGroup rest
      (.both regex more, rest)
    if !active then onward (.char c) rest
    else if inGroup ∧ (c = '|' ∨ c = ')') then (.empty, (c, active) :: rest)
    else
      let group : Option (Regex × List Sign) :=
        match style.groups, groupKind? c, rest with
        | true, some kind, ('(', true) :: inner =>
          match choices style steps inner with
          | (regex, (')', _) :: rest) => some (kind regex, rest)
          | _ => none
        | _, _, _ => none
      match group with
      | some (regex, rest) => onward regex rest
      | none =>
        if c = '*' then onward (.repeated (.among true []) 0 none) rest
        else if c = '?' then onward (.among true []) rest
        else if c = '[' then
          let inverted : Bool :=
            match rest with
            | ('!', true) :: _ => true
            | ('^', true) :: _ => style.caret
            | _ => false
          match members (rest.length + 1) true (if inverted then rest.drop 1 else rest) with
          | some (ranges, rest) => onward (.among inverted ranges) rest
          | none => onward (.char c) rest
        else onward (.char c) rest

/-- Reads the patterns of a group. -/
def choices (style : PatternStyle) : Nat → List Sign → Regex × List Sign
  | 0, rest => (.empty, rest)
  | steps + 1, signs =>
    let (first, rest) := sequence style steps true signs
    match rest with
    | ('|', true) :: rest =>
      let (second, rest) := choices style steps rest
      (.either first second, rest)
    | _ => (first, rest)

end

/-- Reads signs as a pattern. -/
def ofSigns (style : PatternStyle) (signs : List Sign) : Regex :=
  (sequence style (3 * signs.length + 3) false signs).1

/-- Reads a row of glyphs as a pattern. -/
def read (style : PatternStyle) (glyphs : List Glyph) : Regex := ofSigns style (signs glyphs)

/-- Whether a pattern matches a whole text. -/
def accepts (pattern : Regex) (text : Raw) : Bool := pattern.isWhole { text := text.toArray }

/-- Whether a pattern that is given as a text matches another. -/
def acceptsText (folds : Bool) (pattern text : Raw) : Bool :=
  (ofSigns { caret := true } (signsOfText pattern)).isWhole { text := text.toArray, folds }

/-- Whether signs may match anything but themselves. Brackets must be closed. -/
def isWild (style : PatternStyle) : List Sign → Bool
  | [] => false
  | (c, active) :: rest =>
    (active && (c = '*' || c = '?'
      || (c = '[' && (members (rest.length + 1) true rest).isSome)
      || (style.groups && (groupKind? c).isSome && rest.head? = some ('(', true))))
      || isWild style rest

/-! ## Paths -/

/-- The paths that match a pattern given step by step. -/
def matching (tree : Tree) (here : Nat) (style : PatternStyle) (dots : Bool) :
    Raw → List (List Sign) → List Raw
  | path, [] => [path]
  | path, step :: steps =>
    let onward (name : Raw) : List Raw :=
      let next := path ++ name
      if steps.isEmpty then [next]
      else matching tree here style dots (next ++ ['/']) steps
    if !isWild style step then
      let text := step.map Prod.fst
      if text = [] then
        if steps.isEmpty then (if tree.leadsToDirectory here path then [path] else [])
        else onward []
      else if steps.isEmpty then
        match tree.findUnfollowed here (path ++ text) with
        | .ok _ => onward text
        | .error _ => []
      else if tree.leadsToDirectory here (path ++ text) then onward text
      else []
    else
      match tree.find here (if path = [] then ['.'] else path) with
      | .error _ => []
      | .ok number =>
        let pattern := ofSigns style step
        let starts := step.head?.any (·.1 = '.')
        let special : List Raw := if dots then [['.'], ['.', '.']] else []
        let names := (special ++ (tree.members number).map (·.1)).filter fun name =>
          (starts || name.head? != some '.') && accepts pattern name
        (names.mergeSort Raw.atMost).flatMap onward

/-- The steps of a path that is given as signs. -/
def steps : List Sign → List (List Sign)
  | [] => [[]]
  | sign :: rest =>
    if sign.1 = '/' then [] :: steps rest
    else
      match steps rest with
      | [] => [[sign]]
      | step :: more => (sign :: step) :: more

/-- The paths that a field matches as a pattern. -/
def paths (tree : Tree) (here : Nat) (style : PatternStyle) (dots : Bool) (field : List Glyph) :
    List Raw :=
  let signs := signs field
  if isWild style signs then matching tree here style dots [] (steps signs) else []

/-! ## Cutting -/

/-- The positions in a text at which a pattern that begins at its front can end,
the nearest first. -/
def fronts (pattern : Regex) (text : Raw) : List Nat :=
  (pattern.ends { text := text.toArray } [0]).mergeSort fun a b => decide (a ≤ b)

/-- A text without what a pattern matches at its front. -/
def withoutFront (longest : Bool) (pattern : Regex) (text : Raw) : Raw :=
  let ends := fronts pattern text
  match if longest then ends.getLast? else ends.head? with
  | some n => text.drop n
  | none => text

/-- A text without what a pattern matches at its back. -/
def withoutBack (longest : Bool) (pattern : Regex) (text : Raw) : Raw :=
  let subject : Regex.Subject := { text := text.toArray }
  let positions := List.range (text.length + 1)
  let positions := if longest then positions else positions.reverse
  match positions.find? fun p => (pattern.ends subject [p]).contains text.length with
  | some n => text.take n
  | none => text

end Pattern

end Rehearsal

end InstallPlan
