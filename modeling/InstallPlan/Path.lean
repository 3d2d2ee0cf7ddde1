import InstallPlan.Text.Utf8

/-!
# Path

Paths as octets, and their reading as a list of components. Separators that
follow one another count once, a separator at the end counts for nothing, and
neither does a component `.` except in front of a relative path.

* `Path.shown`: the text of a path, malformed octets replaced.
* `Path.components`: what a path is made of.
* `Path.join`: a relative name below a path.
* `Path.extension?`: what follows the last dot of the last component.
-/

namespace InstallPlan

/-- A path of the file system. -/
structure Path where
  octets : Octets
  deriving DecidableEq, Repr, Inhabited

namespace Path

/-- The octet between two components. -/
def separator : UInt8 := 0x2F

/-- The octet in front of an extension. -/
def dot : UInt8 := 0x2E

/-- The path of a text. -/
def ofText (text : String) : Path := ⟨Utf8.encode text⟩

/-- The text of a path. -/
def shown (p : Path) : String := Utf8.decodeLossy p.octets

/-- A relative name below a path. -/
def join (p : Path) (name : String) : Path :=
  match p.octets.getLast? with
  | none => ofText name
  | some b =>
    if b = separator then ⟨p.octets ++ Utf8.encode name⟩
    else ⟨p.octets ++ separator :: Utf8.encode name⟩

/-- A component of a path. -/
inductive Component where
  | root
  | here
  | parent
  | name (octets : Octets)
  deriving DecidableEq, Repr

/-- The pieces between the separators, empty ones included. -/
def pieces : Octets → List Octets
  | [] => [[]]
  | b :: rest =>
    if b = separator then [] :: pieces rest
    else
      match pieces rest with
      | [] => [[b]]
      | piece :: more => (b :: piece) :: more

/-- The component of a piece, when it counts. -/
def Component.ofPiece? (piece : Octets) : Option Component :=
  if piece = [] ∨ piece = [dot] then none
  else if piece = [dot, dot] then some .parent
  else some (.name piece)

/-- The components of a path. -/
def components (p : Path) : List Component :=
  let pieces := pieces p.octets
  let first :=
    if p.octets.head? = some separator then [.root]
    else if pieces.head? = some [dot] then [.here]
    else []
  first ++ pieces.filterMap Component.ofPiece?

/-- The last component, when it is an ordinary name. -/
def lastName? (p : Path) : Option Octets :=
  match p.components.getLast? with
  | some (.name octets) => some octets
  | _ => none

/-- What follows the last dot of a name, if something precedes that dot. -/
def extensionOf? (name : Octets) : Option Octets :=
  let after := (name.reverse.takeWhile (· ≠ dot)).reverse
  if after.length + 1 < name.length then some after else none

/-- The extension of the last component. -/
def extension? (p : Path) : Option Octets := p.lastName?.bind extensionOf?

end Path

end InstallPlan
