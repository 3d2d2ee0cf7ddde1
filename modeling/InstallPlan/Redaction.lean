import InstallPlan.Text.Blank

/-!
# Redaction

Hides the administrator's password in a text. Wherever the option that carries
it is followed by at least one character that is not blank, the characters up
to the next blank give way to three stars.
-/

namespace InstallPlan

namespace Redaction

/-- The option whose value is hidden. -/
def option : List Char := "--root-password=".toList

/-- What stands in the place of a hidden value. -/
def stars : List Char := "***".toList

/-- Whether a character belongs to a word. -/
def isInk (c : Char) : Bool := !isBlank c

/-- What follows a hidden value, when the text starts with the option and a
value for it. -/
def afterSecret? (text : List Char) : Option (List Char) :=
  if option.isPrefixOf text then
    match text.drop option.length with
    | [] => none
    | c :: rest => if isInk c then some (rest.dropWhile isInk) else none
  else none

theorem length_afterSecret?_lt {text rest : List Char} (h : afterSecret? text = some rest) :
    rest.length < text.length := by
  unfold afterSecret? at h
  split at h
  · split at h
    · exact absurd h (by simp)
    · rename_i c more heq
      split at h
      · cases h
        have : (text.drop option.length).length = more.length + 1 := by rw [heq]; simp
        have := (List.dropWhile_sublist isInk (l := more)).length_le
        simp only [List.length_drop] at *
        omega
      · exact absurd h (by simp)
  · exact absurd h (by simp)

/-- The text with every value of the option hidden. -/
def mask (text : List Char) : List Char :=
  match text with
  | [] => []
  | c :: rest =>
    match _ : afterSecret? (c :: rest) with
    | some left => option ++ stars ++ mask left
    | none => c :: mask rest
termination_by text.length
decreasing_by
  · exact length_afterSecret?_lt ‹_›
  · exact Nat.lt_succ_self rest.length

theorem mask_cons_of_some {c : Char} {rest left : List Char}
    (h : afterSecret? (c :: rest) = some left) :
    mask (c :: rest) = option ++ stars ++ mask left := by
  rw [mask]
  split
  · rename_i found
    rw [h] at found
    cases found
    rfl
  · rename_i missing
    rw [h] at missing
    cases missing

theorem mask_cons_of_none {c : Char} {rest : List Char} (h : afterSecret? (c :: rest) = none) :
    mask (c :: rest) = c :: mask rest := by
  rw [mask]
  split
  · rename_i found
    rw [h] at found
    cases found
  · rfl

/-- Whether the option occurs with a value somewhere. -/
def hasSecret : List Char → Bool
  | [] => false
  | c :: rest => (afterSecret? (c :: rest)).isSome || hasSecret rest

end Redaction

/-- A text with the password hidden. -/
def redact (text : String) : String := String.ofList (Redaction.mask text.toList)

/-- Whether a text has a password to hide. -/
def hasSecret (text : String) : Bool := Redaction.hasSecret text.toList

end InstallPlan
