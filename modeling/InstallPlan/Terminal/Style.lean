/-!
# Terminal — Style

Texts in colour and weight. A styled text starts with the code of its style
and ends with a reset; a reset inside it would end the style early, so the
style starts again behind it. Without colour a text stays as it is.
-/

namespace InstallPlan

namespace Terminal

/-- A style of text. -/
inductive Style where
  | green
  | blue
  | bold
  | dimmed
  | boldCyan
  deriving DecidableEq, Repr

/-- The parameters of the code that starts a style. -/
def Style.parameters : Style → String
  | .green => "32"
  | .blue => "34"
  | .bold => "1"
  | .dimmed => "2"
  | .boldCyan => "1;36"

/-- The code that starts a style. -/
def Style.code (style : Style) : List Char := '\x1B' :: '[' :: style.parameters.toList ++ ['m']

/-- The code that ends every style. -/
def reset : List Char := "\x1B[0m".toList

/-- Writes a code after every reset. -/
def renew (code : List Char) : List Char → List Char
  | '\x1B' :: '[' :: '0' :: 'm' :: rest => reset ++ code ++ renew code rest
  | c :: rest => c :: renew code rest
  | [] => []

/-- A text in a style. -/
def styled (color : Bool) (style : Style) (text : String) : String :=
  if color then
    String.ofList (style.code ++ renew style.code text.toList ++ reset)
  else text

end Terminal

end InstallPlan
