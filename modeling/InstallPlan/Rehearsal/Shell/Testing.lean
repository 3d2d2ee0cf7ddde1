import InstallPlan.Rehearsal.Regex.Reading
import InstallPlan.Rehearsal.Shell.Builtin.Saying

/-!
# Rehearsal — Conditions between double brackets

The words of such a condition are not divided. What is compared with may be a
pattern, or a regular expression whose groups are kept for later.
-/

namespace InstallPlan

namespace Rehearsal

namespace Testing

section

variable (interpreter : Interpreter)

/-- A row of glyphs as a regular expression: what is quoted stands for itself. -/
def expressionText (glyphs : List Glyph) : Raw :=
  glyphs.flatMap fun glyph =>
    match glyph with
    | .quoted c => if c.isAlphanum || c = '_' then [c] else ['\\', c]
    | glyph => glyph.char?.toList

/-- Whether a text has a match of a regular expression, which is kept. -/
def matchesExpression (text : Raw) (word : Word) : Act Bool := do
  let glyphs ← interpreter.expand { tilde := true } word
  match Regex.read { extended := true } (expressionText glyphs) with
  | .error _ =>
    Act.setStatus 2
    throw (.failed 2)
  | .ok regex =>
    let groups : List Raw :=
      match regex.search { text := text.toArray } 0 with
      | none => []
      | some found =>
        (List.range (regex.groups + 1)).map fun n =>
          match found.group? n with
          | some (first, last) => (text.drop first).take (last - first)
          | none => []
    Act.change (raw "BASH_REMATCH") fun setting =>
      { setting with value := some (.list (groups.mapIdx fun i group => (i, group))) }
    return !groups.isEmpty

/-- Whether two words compare as an operator says. -/
def compare (left : Word) (operator : Raw) (right : Word) : Act Bool := do
  let first ← Expansion.text interpreter left
  let isPattern := operator = raw "=" || operator = raw "==" || operator = raw "!="
  if isPattern then
    let glyphs ← interpreter.expand { tilde := true } right
    let holds := Pattern.accepts (Pattern.read { caret := true, groups := true } glyphs) first
    return if operator = raw "!=" then !holds else holds
  else if operator = raw "=~" then matchesExpression interpreter first right
  else
    let second ← Expansion.text interpreter right
    if operator = ['<'] then return Raw.atMost first second && first ≠ second
    else if operator = ['>'] then return Raw.atMost second first && first ≠ second
    else
      match Condition.comparison? operator with
      | some compare => return compare (← Act.compute first) (← Act.compute second)
      | none =>
        return (Condition.files? (← get).process true operator first second).getD false

/-- Whether a condition holds. -/
def holds : Test → Act Bool
  | .text word => return (← Expansion.text interpreter word) ≠ []
  | .about operator word => do
    let text ← Expansion.text interpreter word
    let shell ← get
    if operator = raw "-v" then return (shell.indexed? text).isSome
    else if operator = raw "-o" then return shell.has (String.ofList text)
    else return Condition.about shell.process operator text
  | .compare left operator right => compare interpreter left operator right
  | .negated test => return !(← holds test)
  | .both first second => do
    if ← holds first then holds second else return false
  | .either first second => do
    if ← holds first then return true else holds second

end

end Testing

end Rehearsal

end InstallPlan
