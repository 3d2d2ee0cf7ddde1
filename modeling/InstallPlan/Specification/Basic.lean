import InstallPlan.Document.Json
import InstallPlan.Specification.Initrd
import InstallPlan.Specification.System

/-!
# Specification

The description of a new installation, and its reading from a document. The
system has to be described; packages and initial ramdisk may be left out.
-/

namespace InstallPlan

/-- The description of an installation. -/
structure Specification where
  packages : Packages
  system : System
  initrd : Initrd
  deriving DecidableEq, Repr, Inhabited

/-- What keeps a text or a document from being a specification. -/
inductive InvalidSpecification where
  | text (e : Json.ReadError)
  | shape (e : ShapeError)
  deriving DecidableEq, Repr

/-- The wording of the reason. -/
def InvalidSpecification.message : InvalidSpecification → String
  | .text e => e.message
  | .shape e => e.message

namespace Specification

/-- How a specification is written in a document. -/
def shape : Shape Specification where
  title := "Specification"
  blank := ⟨{}, default, {}⟩
  fields := [
    .optional "packages" Packages.shape.read fun value spec => { spec with packages := value },
    .mandatory "system" System.shape.read fun value spec => { spec with system := value },
    .optional "initrd" Initrd.shape.read fun value spec => { spec with initrd := value }]

/-- Reads a document as a specification. -/
def ofDocument (document : Document) : Except InvalidSpecification Specification :=
  (shape.read document).mapError .shape

/-- Reads a JSON text as a specification. -/
def ofJson (text : String) : Except InvalidSpecification Specification :=
  match Json.read text with
  | .error e => .error (.text e)
  | .ok document => ofDocument document

end Specification

end InstallPlan
