import InstallPlan.Document.Toml.Reading
import InstallPlan.Failure
import InstallPlan.Log
import InstallPlan.Path

/-!
# Loading

Where a specification comes from, in which format it is written, and its
reading. A path that is `-`, and no path, mean the standard input, which holds
JSON; a file holds TOML when its extension says so, else JSON.
-/

namespace InstallPlan

/-- A format of documents. -/
inductive Format where
  | json
  | toml
  deriving DecidableEq, Repr

namespace Format

/-- An octet with an ASCII capital letter made small. -/
def smallLetter (b : UInt8) : UInt8 := if 0x41 ≤ b ∧ b ≤ 0x5A then b + 0x20 else b

/-- The format that the extension of a path stands for. -/
def ofPath (path : Path) : Format :=
  match path.extension? with
  | some extension => if extension.map smallLetter = Utf8.encode "toml" then .toml else .json
  | none => .json

end Format

/-- Where a document is read from. -/
inductive Source where
  | standardInput
  | file (path : Path)
  deriving DecidableEq, Repr

namespace Source

/-- Whether a path stands for the standard input. -/
def isDash (path : Path) : Bool := path.components = [.name (Utf8.encode "-")]

/-- The source that an optional path stands for. -/
def ofPath? : Option Path → Source
  | none => .standardInput
  | some path => if isDash path then .standardInput else .file path

/-- The format of what is read from a source. -/
def format : Source → Format
  | .standardInput => .json
  | .file path => .ofPath path

/-- The text that announces the reading. -/
def announcement : Source → String
  | .standardInput => "Reading specification from stdin"
  | .file path => "Reading specification from " ++ path.shown

/-- The log record that announces the reading. -/
def notice (source : Source) : Output := .debug "archstrap::config" source.announcement

/-- What failed when a source cannot be read. -/
def unreadable : Source → String
  | .standardInput => "Could not read specification from stdin"
  | .file path => "Could not read " ++ path.shown

/-- What failed when a source does not hold a specification. -/
def invalid : Source → String
  | .standardInput => "Invalid specification on stdin"
  | .file path => "Invalid specification in " ++ path.shown

end Source

namespace Specification

/-- Reads a text as a document. -/
def readDocument (content : String) : Format → Except Failure Document
  | .json => (Json.read content).mapError fun e => ⟨["Invalid JSON format"], .json e⟩
  | .toml =>
    match Toml.readDocument? content with
    | some document => .ok document
    | none => .error ⟨["Invalid TOML format"], .toml⟩

/-- Reads a text as a specification. -/
def parse (content : String) (format : Format) : Except Failure Specification :=
  match readDocument content format with
  | .error e => .error e
  | .ok document =>
    (ofDocument document).mapError fun reason => ⟨[], .fault (.invalidSpecification reason)⟩

/-- Reads octets as a specification. -/
def ofOctets (source : Source) (octets : Except IoFault Octets) : Except Failure Specification :=
  match octets with
  | .error e => .error ⟨[source.unreadable], .io e⟩
  | .ok octets =>
    match Utf8.decode? octets with
    | none => .error ⟨[source.unreadable], .io .notUtf8⟩
    | some content => (parse content source.format).mapError (·.within source.invalid)

end Specification

end InstallPlan
