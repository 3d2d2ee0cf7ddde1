import InstallPlan.Text.Invisible

/-!
# Text — Quoted text

A text between double quotes, as an error message shows a value it did not
expect. A quote, a backslash and the four named control characters are
written with a backslash; a character without a shape of its own is written
by its code; everything else stands for itself.
-/

namespace InstallPlan

/-- One character inside a quoted text. -/
def quotedChar (c : Char) : List Char :=
  if c = '\x00' then ['\\', '0']
  else if c = '\t' then ['\\', 't']
  else if c = '\r' then ['\\', 'r']
  else if c = '\n' then ['\\', 'n']
  else if c = '"' then ['\\', '"']
  else if c = '\\' then ['\\', '\\']
  else if isInvisible c then "\\u\x7b".toList ++ Nat.toDigits 16 c.toNat ++ "\x7d".toList
  else [c]

/-- A text between double quotes. -/
def quoted (text : String) : String :=
  String.ofList ('"' :: text.toList.flatMap quotedChar ++ ['"'])

end InstallPlan
