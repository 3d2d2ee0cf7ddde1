import InstallPlan.Document.Basic

/-!
# Document — TOML values

The values of a TOML text, and how its statements build them up. A table
remembers how it came about, because that decides what may still be added:

* a table under a header of its own is closed for headers of the same name and
  for dotted keys from outside;
* a table that only a longer header mentions may still get its own header, until
  a dotted key leads into it;
* a table that dotted keys mention takes further dotted keys;
* a table in braces is complete.
-/

namespace InstallPlan

namespace Toml

/-- How a table came about. -/
inductive Origin where
  | header
  | implied
  | dotted
  | braces
  deriving DecidableEq, Repr

/-- A TOML value. -/
inductive Value where
  | text (s : String)
  | integer (n : Int)
  | real (x : Binary64)
  /-- An infinity, or what is not a number. -/
  | notFinite
  | boolean (b : Bool)
  | moment (s : String)
  | list (elements : List Value)
  | table (origin : Origin) (entries : List (String × Value))
  /-- Tables under repeated headers in double brackets. -/
  | tables (elements : List (List (String × Value)))
  deriving Repr, Inhabited

/-- The entries of a table, in the order of their statements. -/
abbrev Entries := List (String × Value)

/-- The name under which a date or time is an object. -/
def momentKey : String := "$__toml_private_datetime"

mutual

/-- A value as a document. A number that is not finite becomes nothing. -/
def Value.toDocument : Value → Document
  | .text s => .text s
  | .integer n => .number (if n < 0 then .negative n.natAbs else .natural n.natAbs)
  | .real x => .number (.real x)
  | .notFinite => .null
  | .boolean b => .boolean b
  | .moment s => .object [(momentKey, .text s)]
  | .list elements => .array (listToDocuments elements)
  | .table _ entries => Document.ofEntries (entriesToDocuments entries)
  | .tables elements => .array (tablesToDocuments elements)

/-- The elements of a list as documents. -/
def listToDocuments : List Value → List Document
  | [] => []
  | value :: rest => value.toDocument :: listToDocuments rest

/-- The entries of a table as entries of an object. -/
def entriesToDocuments : List (String × Value) → List (String × Document)
  | [] => []
  | (key, value) :: rest => (key, value.toDocument) :: entriesToDocuments rest

/-- Repeated tables as objects. -/
def tablesToDocuments : List (List (String × Value)) → List Document
  | [] => []
  | entries :: rest => Document.ofEntries (entriesToDocuments entries) :: tablesToDocuments rest

end

/-! ## Building tables -/

/-- The value at a key. -/
def find (key : String) (entries : Entries) : Option Value :=
  (entries.find? fun entry => entry.1 = key).map (·.2)

/-- Puts a value in the place of the one at its key, or behind the others. -/
def put (key : String) (value : Value) : Entries → Entries
  | [] => [(key, value)]
  | (k, v) :: rest => if k = key then (key, value) :: rest else (k, v) :: put key value rest

/-- Changes the last of repeated tables. -/
def changeLast (change : Entries → Option Entries) : List Entries → Option (List Entries)
  | [] => none
  | [entries] => (change entries).map fun entries => [entries]
  | entries :: rest => (changeLast change rest).map (entries :: ·)

/-- Adds an entry below a dotted key. The tables on the way may be missing or
must not have headers of their own; from then on they are there because of
dotted keys. -/
def addBelow : List String → String → Value → Entries → Option Entries
  | [], key, value, entries =>
    if (find key entries).isSome then none else some (entries ++ [(key, value)])
  | step :: path, key, value, entries =>
    match find step entries with
    | none =>
      (addBelow path key value []).map fun inner => entries ++ [(step, .table .dotted inner)]
    | some (.table origin inner) =>
      if origin = .dotted ∨ origin = .implied then
        (addBelow path key value inner).map fun inner => put step (.table .dotted inner) entries
      else none
    | some (.tables elements) =>
      if path = [] then none
      else
        (changeLast (addBelow path key value) elements).map fun elements =>
          put step (.tables elements) entries
    | some _ => none

/-- Changes the table that a header refers to; tables on the way that are
missing are implied. -/
def changeAt (change : Entries → Option Entries) : List String → Entries → Option Entries
  | [], entries => change entries
  | step :: path, entries =>
    match find step entries with
    | none =>
      (changeAt change path []).map fun inner => entries ++ [(step, .table .implied inner)]
    | some (.table .braces _) => none
    | some (.table origin inner) =>
      (changeAt change path inner).map fun inner => put step (.table origin inner) entries
    | some (.tables elements) =>
      (changeLast (changeAt change path) elements).map fun elements =>
        put step (.tables elements) entries
    | some _ => none

/-- Opens a table under a header of its own. -/
def openTable (key : String) (entries : Entries) : Option Entries :=
  match find key entries with
  | none => some (entries ++ [(key, .table .header [])])
  | some (.table .implied inner) => some (put key (.table .header inner) entries)
  | some _ => none

/-- Opens one more of repeated tables. -/
def openRepeated (key : String) (entries : Entries) : Option Entries :=
  match find key entries with
  | none => some (entries ++ [(key, .tables [[]])])
  | some (.tables elements) => some (put key (.tables (elements ++ [[]])) entries)
  | some _ => none

end Toml

end InstallPlan
