import InstallPlan.Decimal.Shortest
import InstallPlan.Text.Quoted

/-!
# Document — Values

A configuration document as a loosely typed value, whatever format it was
written in. The entries of an object stand in ascending order of their keys,
each key once: `Document.insertEntry` keeps that order and lets a later entry
replace an earlier one of the same key.
-/

namespace InstallPlan

/-- A number of a document. -/
inductive Numeral where
  /-- A non-negative integer. -/
  | natural (n : Nat)
  /-- The integer `-n`. -/
  | negative (n : Nat)
  /-- A number with a fraction or an exponent, or an integer out of range. -/
  | real (x : Binary64)
  deriving DecidableEq, Repr, Inhabited

/-- The text of a number, with its kind, as an error message names it. -/
def Numeral.describe : Numeral → String
  | .natural n => s!"integer `{n}`"
  | .negative n => s!"integer `-{n}`"
  | .real x => s!"floating point `{x.text}`"

/-- A document value. -/
inductive Document where
  | null
  | boolean (b : Bool)
  | number (n : Numeral)
  | text (s : String)
  | array (elements : List Document)
  | object (entries : List (String × Document))
  deriving Repr, Inhabited

namespace Document

/-- A value as an error message names it. -/
def describe : Document → String
  | .null => "null"
  | .boolean b => s!"boolean `{b}`"
  | .number n => n.describe
  | .text s => "string " ++ quoted s
  | .array _ => "sequence"
  | .object _ => "map"

/-- Puts an entry at its place among ascending ones; an entry of the same key
gives way to it. -/
def insertEntry (key : String) (value : Document) :
    List (String × Document) → List (String × Document)
  | [] => [(key, value)]
  | (k, v) :: rest =>
    if key < k then (key, value) :: (k, v) :: rest
    else if key = k then (key, value) :: rest
    else (k, v) :: insertEntry key value rest

/-- An object from entries in any order, of equal keys the last. -/
def ofEntries (entries : List (String × Document)) : Document :=
  .object (entries.foldl (fun sorted (k, v) => insertEntry k v sorted) [])

/-- The value at a key, when there is one. -/
def lookup (key : String) (entries : List (String × Document)) : Option Document :=
  (entries.find? fun entry => entry.1 = key).map (·.2)

end Document

end InstallPlan
