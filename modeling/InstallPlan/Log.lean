import InstallPlan.Text.Utf8

/-!
# Log

Records of what the program does, for the person who runs it. A record has a
level, the part of the program that it comes from, and a message.
-/

namespace InstallPlan

namespace Log

/-- The importance of a record, in ascending order. -/
inductive Level where
  | debug
  | info
  | warning
  deriving DecidableEq, Repr

/-- The name of a level. -/
def Level.name : Level → String
  | .debug => "DEBUG"
  | .info => "INFO"
  | .warning => "WARN"

/-- The rank of a level. -/
def Level.rank : Level → Nat
  | .debug => 0
  | .info => 1
  | .warning => 2

/-- One record. -/
structure Record where
  level : Level
  target : String
  message : String
  deriving DecidableEq, Repr

/-- Whether a record is shown when records from a level on are. -/
def Record.passes (threshold : Level) (record : Record) : Bool :=
  threshold.rank ≤ record.level.rank

end Log

/-- Something the program puts out: a log record, or octets on one of its two
output streams. -/
inductive Output where
  | log (record : Log.Record)
  | stdout (octets : Octets)
  | stderr (octets : Octets)
  deriving DecidableEq, Repr

namespace Output

/-- A record of level debug. -/
def debug (target message : String) : Output := .log ⟨.debug, target, message⟩

/-- A record of level info. -/
def info (target message : String) : Output := .log ⟨.info, target, message⟩

/-- A text on the standard output. -/
def print (text : String) : Output := .stdout (Utf8.encode text)

/-- The log records among some outputs. -/
def records (outputs : List Output) : List Log.Record :=
  outputs.filterMap fun
    | .log record => some record
    | _ => none

/-- The octets written to the standard output. -/
def standardOutput (outputs : List Output) : Octets :=
  outputs.flatMap fun
    | .stdout octets => octets
    | _ => []

@[simp] theorem records_append (first second : List Output) :
    records (first ++ second) = records first ++ records second :=
  List.filterMap_append

@[simp] theorem standardOutput_append (first second : List Output) :
    standardOutput (first ++ second) = standardOutput first ++ standardOutput second :=
  List.flatMap_append

end Output

end InstallPlan
