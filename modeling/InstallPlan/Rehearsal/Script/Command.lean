import InstallPlan.Rehearsal.Raw

/-!
# Rehearsal — Commands

What a shell script says: commands, the words in them, and the pieces that a
word is made of. A script is written in one of two dialects; what only the
richer one has is marked as such. The body of a here-document stands behind the
line that announces it, so a redirection names it by a number.
-/

namespace InstallPlan

namespace Rehearsal

/-- How a script is written and understood. -/
inductive Dialect where
  /-- With what every shell has, and little else. -/
  | plain
  /-- With arrays, conditional expressions, and much else. -/
  | rich
  deriving DecidableEq

/-- The end of a value that a pattern is cut off from. -/
inductive Side where
  | front
  | back
  deriving DecidableEq

/-- What stands in for a parameter, or for its absence. -/
inductive Substitute where
  /-- The word, where the parameter has no value. -/
  | otherwise
  /-- The same, and the parameter is given that value. -/
  | assigning
  /-- The word, where the parameter has a value. -/
  | instead
  /-- An error, where the parameter has no value. -/
  | demanded
  deriving DecidableEq

/-- Which matches of a pattern are replaced. -/
inductive Extent where
  | first
  | all
  | front
  | back
  deriving DecidableEq

/-- How a channel is redirected. -/
inductive Direction where
  | input
  | output
  /-- Output, though the file may not be overwritten otherwise. -/
  | overwriting
  | extension
  | both
  | copy
  /-- Both output channels. -/
  | outputs (appends : Bool)
  | document (number : Nat)
  /-- The word itself is what is read. -/
  | text
  deriving DecidableEq

/-- What follows the body of a case. -/
inductive CaseEnd where
  | leave
  /-- The body of the next case is carried out, too. -/
  | fall
  /-- The next cases are tried, too. -/
  | resume
  deriving DecidableEq

mutual

/-- A piece of a word. -/
inductive Piece where
  /-- Text outside quotes. -/
  | plain (text : Raw)
  /-- Text that stands for itself. -/
  | quoted (text : Raw)
  /-- What stands between double quotes. -/
  | within (pieces : List Piece)
  | parameter (subject : Subject) (change : Change)
  /-- What a script prints. -/
  | output (script : Command)
  /-- The value of an arithmetic expression. -/
  | number (expression : List Piece)
  /-- The path of a channel that a script reads or writes. -/
  | channel (isInput : Bool) (script : Command)
  /-- The members of an array. -/
  | members (members : List Member)

/-- A parameter, or a part of one. -/
inductive Subject where
  | named (name : Raw)
  /-- A member of an array. -/
  | element (name : Raw) (index : List Piece)
  /-- All members of an array, possibly as one. -/
  | all (name : Raw) (joined : Bool)
  /-- The parameter whose name is the value of another one. -/
  | indirect (subject : Subject)

/-- What is done with the value of a parameter. -/
inductive Change where
  | none
  /-- Something that cannot be done. -/
  | bad (text : Raw)
  | size
  /-- A substitute; an empty value may count as none. -/
  | substitute (emptyIsNone : Bool) (kind : Substitute) (word : List Piece)
  /-- The value without the shortest or longest match of a pattern. -/
  | trimmed (side : Side) (longest : Bool) (pattern : List Piece)
  | slice (offset : List Piece) (count : Option (List Piece))
  | replaced (extent : Extent) (pattern : List Piece) (text : List Piece)
  | cased (letter : Char) (all : Bool) (pattern : List Piece)
  | shown (letter : Char)
  /-- The indices of an array. -/
  | indices
  /-- The names that begin like this one. -/
  | names (joined : Bool)

/-- A member of a list in parentheses, possibly with its index. -/
inductive Member where
  | mk (index : Option (List Piece)) (appends : Bool) (word : List Piece)

/-- A channel and where it leads. -/
inductive Redirection where
  | mk (channel : Option Nat) (direction : Direction) (target : List Piece)

/-- A variable, or a member of an array, and its new value. -/
inductive Assignment where
  | mk (name : Raw) (index : Option (List Piece)) (appends : Bool) (value : List Piece)

/-- A condition between double brackets. -/
inductive Test where
  | text (word : List Piece)
  | about (operator : Raw) (word : List Piece)
  | compare (left : List Piece) (operator : Raw) (right : List Piece)
  | negated (test : Test)
  | both (first second : Test)
  | either (first second : Test)

/-- A command. Most know the number of the line that they are on. -/
inductive Command where
  | nothing
  | simple (line : Nat) (assignments : List Assignment) (words : List (List Piece))
      (redirections : List Redirection)
  | redirected (line : Nat) (body : Command) (redirections : List Redirection)
  | pipeline (parts : List Command)
  | negated (body : Command)
  | both (first second : Command)
  | either (first second : Command)
  | sequence (first second : Command)
  | background (line : Nat) (body : Command)
  | subshell (line : Nat) (body : Command)
  | forEach (line : Nat) (name : Raw) (words : Option (List (List Piece))) (body : Command)
  /-- A loop that goes on as long as an expression is not zero. -/
  | counting (line : Nat) (first condition step : List Piece) (body : Command)
  /-- A loop that goes on as long as its condition succeeds, or fails. -/
  | loop (goal : Bool) (condition body : Command)
  | branch (condition yes no : Command)
  | choice (line : Nat) (word : List Piece) (cases : List (List (List Piece) × Command × CaseEnd))
  | define (line : Nat) (name : Raw) (body : Command)
  | condition (line : Nat) (test : Test)
  | arithmetic (line : Nat) (expression : List Piece)

end

/-- A word of a script. -/
abbrev Word := List Piece

/-- A parameter as it stands. -/
def Piece.plainParameter (name : Raw) : Piece := .parameter (.named name) .none

end Rehearsal

end InstallPlan
