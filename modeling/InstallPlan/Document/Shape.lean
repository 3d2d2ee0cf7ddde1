import InstallPlan.Document.Basic

/-!
# Document — Shapes

Reads a document as a record of a fixed shape. A record is written either as
an object, by the names of its fields in any order, or as an array, by their
positions. A field may be optional, and then keeps its blank value when it is
left out.

* In an object the entries are read in the order of their keys. The first that
  is unknown or does not fit is the fault; after them, the first required
  field that is missing.
* In an array the first element that does not fit or is missing is the fault;
  after them, elements that are left over.
-/

namespace InstallPlan

/-- Why a document does not fit its shape. -/
inductive ShapeError where
  | wrongKind (found expected : String)
  | wrongLength (length : Nat) (expected : String)
  | unknownField (name : String) (known : List String)
  | missingField (name : String)
  deriving DecidableEq, Repr

/-- The wording of an error. -/
def ShapeError.message : ShapeError → String
  | .wrongKind found expected => s!"invalid type: {found}, expected {expected}"
  | .wrongLength length expected => s!"invalid length {length}, expected {expected}"
  | .unknownField name known =>
    let names := ", ".intercalate (known.map fun name => s!"`{name}`")
    s!"unknown field `{name}`, expected one of {names}"
  | .missingField name => s!"missing field `{name}`"

namespace Document

/-- Reads a text. -/
def asText : Document → Except ShapeError String
  | .text s => .ok s
  | other => .error (.wrongKind other.describe "a string")

/-- Reads a text or nothing. -/
def asTextOrNull : Document → Except ShapeError (Option String)
  | .null => .ok none
  | other => other.asText.map some

/-- Reads a list of texts. -/
def asTexts : Document → Except ShapeError (List String)
  | .array elements => elements.mapM asText
  | other => .error (.wrongKind other.describe "a sequence")

end Document

/-- A field of a record of type `α`: its name, whether it may be left out, and
how its value enters the record. -/
structure Field (α : Type) where
  name : String
  required : Bool
  enter : Document → α → Except ShapeError α

namespace Field

variable {α β : Type}

/-- A field that has to be there. -/
def mandatory (name : String) (read : Document → Except ShapeError β) (put : β → α → α) :
    Field α :=
  ⟨name, true, fun d record => (read d).map fun value => put value record⟩

/-- A field that may be left out. -/
def optional (name : String) (read : Document → Except ShapeError β) (put : β → α → α) :
    Field α :=
  ⟨name, false, fun d record => (read d).map fun value => put value record⟩

end Field

/-- The shape of a record of type `α`. -/
structure Shape (α : Type) where
  title : String
  fields : List (Field α)
  blank : α

namespace Shape

variable {α : Type}

/-- The names of the fields. -/
def names (shape : Shape α) : List String := shape.fields.map (·.name)

/-- What a shape is called in an error message. -/
def expectation (shape : Shape α) : String := s!"struct {shape.title}"

/-- The field of a name. -/
def field? (shape : Shape α) (name : String) : Option (Field α) :=
  shape.fields.find? fun field => field.name = name

/-- Enters the entries of an object one after the other. -/
def enterEntries (shape : Shape α) : List (String × Document) → α → Except ShapeError α
  | [], record => .ok record
  | (name, value) :: rest, record =>
    match shape.field? name with
    | none => .error (.unknownField name shape.names)
    | some field =>
      match field.enter value record with
      | .error e => .error e
      | .ok record => shape.enterEntries rest record

/-- The first required field that an object leaves out. -/
def missing? (shape : Shape α) (entries : List (String × Document)) : Option (Field α) :=
  shape.fields.find? fun field =>
    field.required && (Document.lookup field.name entries).isNone

/-- Enters the elements of an array by position. -/
def enterElements (expected : String) :
    Nat → List (Field α) → List Document → α → Except ShapeError α
  | _, [], [], record => .ok record
  | index, [], extra, _ => .error (.wrongLength (index + extra.length) "fewer elements in array")
  | index, field :: fields, [], record =>
    if field.required then .error (.wrongLength index expected)
    else enterElements expected (index + 1) fields [] record
  | index, field :: fields, value :: rest, record =>
    match field.enter value record with
    | .error e => .error e
    | .ok record => enterElements expected (index + 1) fields rest record

/-- Reads a document as a record. -/
def read (shape : Shape α) : Document → Except ShapeError α
  | .object entries =>
    match shape.enterEntries entries shape.blank with
    | .error e => .error e
    | .ok record =>
      match shape.missing? entries with
      | some field => .error (.missingField field.name)
      | none => .ok record
  | .array elements =>
    let expected := s!"{shape.expectation} with {shape.fields.length} elements"
    enterElements expected 0 shape.fields elements shape.blank
  | other => .error (.wrongKind other.describe shape.expectation)

end Shape

end InstallPlan
