/-!
# Text — Names

Names of variables: an ASCII letter or an underscore, and behind it letters,
digits and underscores.
-/

namespace InstallPlan

/-- Whether a character can start a name. -/
def isNameStart (c : Char) : Bool := c.isAlpha || c == '_'

/-- Whether a character can continue a name. -/
def isNamePart (c : Char) : Bool := isNameStart c || c.isDigit

/-- Whether a text is a name. -/
def isName : List Char → Bool
  | [] => false
  | c :: rest => isNameStart c && rest.all isNamePart

end InstallPlan
