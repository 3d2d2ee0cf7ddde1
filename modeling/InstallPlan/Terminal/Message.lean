import InstallPlan.Plan
import InstallPlan.Redaction
import InstallPlan.Terminal.Style
import InstallPlan.Text.Lines

/-!
# Terminal — Messages

What the program tells the person who runs it: a success, a title, and a plan
with its headings and commands. The password is hidden in the commands of a
plan.
-/

namespace InstallPlan

namespace Terminal

/-- A message of success. -/
def success (color : Bool) (message : String) : String :=
  styled color .green "✓" ++ " " ++ message ++ "\n"

/-- A muted line. -/
def muted (color : Bool) (message : String) : String :=
  "  " ++ styled color .dimmed message ++ "\n"

/-- A title with a rule below it. -/
def title (color : Bool) (text : String) : String :=
  let rule := String.ofList (List.replicate text.length '─')
  "\n" ++ styled color .bold text ++ "\n" ++ styled color .dimmed rule ++ "\n"

/-- The heading of a part. -/
def heading (color : Bool) (text : String) : String :=
  "\n" ++ styled color .boldCyan text ++ "\n"

/-- A command, its further lines muted. -/
def command (color : Bool) (text : String) : String :=
  match lines text with
  | [] => ""
  | first :: rest =>
    styled color .blue "$" ++ " " ++ first ++ "\n" ++ String.join (rest.map (muted color))

/-- A step of a plan. -/
def step (color : Bool) : Step → String
  | .heading name => heading color name
  | .command text => command color (redact text)

/-- A plan. -/
def plan (color : Bool) (root : Path) (steps : List Step) : String :=
  title color ("Plan for " ++ root.shown) ++ String.join (steps.map (step color))

end Terminal

end InstallPlan
