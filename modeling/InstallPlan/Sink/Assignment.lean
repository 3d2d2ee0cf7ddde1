import InstallPlan.Text.Blank
import InstallPlan.Text.Name

/-!
# Sink — Assignment

Recognises a command that assigns one variable and does nothing else: a name,
an equals sign, and a value that either stands between two double quotes with
none inside, or has no blank in it.
-/

namespace InstallPlan

namespace Assignment

/-- Whether a text stands between two double quotes and has none inside. -/
def isQuotedValue : List Char → Bool
  | '"' :: rest => rest.dropWhile (· ≠ '"') == ['"']
  | _ => false

/-- Whether a text can be a value. -/
def isValue (text : List Char) : Bool :=
  isQuotedValue text || text.all fun c => !isBlank c

/-- The name that a command assigns, if it does nothing else. -/
def target? (command : String) : Option String :=
  let name := command.toList.takeWhile isNamePart
  match command.toList.dropWhile isNamePart with
  | '=' :: value => if isName name && isValue value then some (String.ofList name) else none
  | _ => none

end Assignment

end InstallPlan
