/-!
# Text — Lines

A text as the lines it shows. A line ends at a line feed, which together with
one carriage return right before it is not part of the line; a text that ends
with a line feed has no further, empty line after it.
-/

namespace InstallPlan

/-- The lines of a text, as characters. -/
def linesOf : List Char → List (List Char)
  | [] => []
  | '\r' :: '\n' :: rest => [] :: linesOf rest
  | c :: rest =>
    if c = '\n' then [] :: linesOf rest
    else
      match linesOf rest with
      | [] => [[c]]
      | line :: more => (c :: line) :: more

/-- The lines of a text. -/
def lines (text : String) : List String :=
  (linesOf text.toList).map String.ofList

/-- Writes `inset` after every line feed of a text. -/
def indentAfterBreaks (inset text : String) : String :=
  String.ofList (text.toList.flatMap fun c => if c = '\n' then '\n' :: inset.toList else [c])

end InstallPlan
