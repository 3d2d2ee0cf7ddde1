import InstallPlan.Rehearsal.Raw

/-!
# Rehearsal — Fields

What a word has become once its parameters are replaced: a row of glyphs, each
of which remembers where it comes from. Only what came from a parameter outside
quotes is split into fields, and only what stood outside quotes can be part of a
pattern.
-/

namespace InstallPlan

namespace Rehearsal

/-- A part of an expanded word. -/
inductive Glyph where
  /-- A character of the script, outside quotes. -/
  | literal (c : Char)
  /-- A character of a value, outside quotes. -/
  | loose (c : Char)
  /-- A character between quotes. -/
  | quoted (c : Char)
  /-- A place where quotes stood, so that there is a field even if it is empty. -/
  | mark
  /-- The border between two parameters. -/
  | cut
  deriving DecidableEq, Repr

namespace Glyph

/-- The character of a glyph. -/
def char? : Glyph → Option Char
  | .literal c | .loose c | .quoted c => some c
  | .mark | .cut => none

/-- The text of a row of glyphs. -/
def text (glyphs : List Glyph) : Raw := glyphs.filterMap char?

end Glyph

/-- A field that is being put together. -/
structure Splitting where
  fields : List (List Glyph) := []
  current : Option (List Glyph) := none
  /-- Whether only white separators stand behind the last field. -/
  white : Bool := false

namespace Splitting

/-- Ends the field that is being put together. -/
def close (white : Bool) (splitting : Splitting) : Splitting :=
  match splitting.current with
  | some field => { fields := splitting.fields ++ [field], white }
  | none => { splitting with white := splitting.white && white }

/-- Adds a glyph. A separator that is not white ends a field even if it is
empty; white separators around it count as part of it. -/
def add (separators : Raw) (splitting : Splitting) (glyph : Glyph) : Splitting :=
  let grow : Splitting :=
    { splitting with current := some (splitting.current.getD [] ++ [glyph]), white := false }
  match glyph with
  | .cut => splitting.close false
  | .loose c =>
    if separators.contains c then
      if c = ' ' ∨ c = '\t' ∨ c = '\n' then splitting.close true
      else if splitting.current.isSome then splitting.close false
      else if splitting.white then { splitting with white := false }
      else { splitting with fields := splitting.fields ++ [[]] }
    else grow
  | _ => grow

end Splitting

/-- The fields of a row of glyphs. -/
def fieldsOf (separators : Raw) (glyphs : List Glyph) : List (List Glyph) :=
  ((glyphs.foldl (Splitting.add separators) {}).close false).fields

end Rehearsal

end InstallPlan
