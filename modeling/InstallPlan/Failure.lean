import InstallPlan.Fault
import InstallPlan.Text.Lines

/-!
# Failure

Why a run of the program failed: a cause, and around it what the program was
doing, the outermost first. `Failure.chain` lists the texts from the outermost
to the root cause; `Failure.report` shows them to the person who ran it.
-/

namespace InstallPlan

/-- What a run of the program can fail for. -/
inductive Cause where
  | fault (f : Fault)
  | json (e : Json.ReadError)
  | toml
  | io (f : IoFault)
  deriving DecidableEq, Repr

/-- The texts of a cause, down to the root. -/
def Cause.chain : Cause → List String
  | .fault f => f.message :: f.reason?.toList
  | .json e => [e.message]
  | .toml => ["<toml>"]
  | .io f => [f.message]

/-- A cause and its surroundings, the outermost first. -/
structure Failure where
  contexts : List String := []
  cause : Cause
  deriving DecidableEq, Repr

namespace Failure

/-- A failure in wider surroundings. -/
def within (context : String) (failure : Failure) : Failure :=
  { failure with contexts := context :: failure.contexts }

/-- The texts of a failure, from the outermost to the root cause. -/
def chain (failure : Failure) : List String := failure.contexts ++ failure.cause.chain

/-- The text of one reason behind a failure, numbered when there are several. -/
def reasonText (numbered : Bool) (number : Nat) (reason : String) : String :=
  if numbered then
    let digits := toString number
    let margin := String.ofList (List.replicate (5 - digits.length) ' ')
    margin ++ digits ++ ": " ++ indentAfterBreaks "       " reason
  else "    " ++ indentAfterBreaks "    " reason

/-- The report of a failure. -/
def report (failure : Failure) : String :=
  match failure.chain with
  | [] => ""
  | outermost :: [] => "Error: " ++ outermost ++ "\n"
  | outermost :: reasons =>
    let numbered := 1 < reasons.length
    let texts := reasons.mapIdx fun i reason => reasonText numbered i reason
    "Error: " ++ outermost ++ "\n\nCaused by:\n" ++ "\n".intercalate texts ++ "\n"

end Failure

end InstallPlan
