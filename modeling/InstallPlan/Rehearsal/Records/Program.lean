import InstallPlan.Rehearsal.Raw

/-!
# Rehearsal — Programs about records

A program of rules: for each record of the input, the rules whose patterns hold are
carried out. Records are divided into fields, and values are texts and numbers.
-/

namespace InstallPlan

namespace Rehearsal

namespace Records

/-- What is computed from two numbers. -/
inductive Arithmetical where
  | plus
  | minus
  | times
  | over
  | modulo
  | power

/-- How two values are compared. -/
inductive Comparison where
  | less
  | atMost
  | equal
  | different
  | more
  | atLeast

/-- What is computed from one value. -/
inductive Unary where
  | not
  | minus
  | plus

mutual

/-- An expression. -/
inductive Expr where
  | number (value : Float)
  | text (text : Raw)
  /-- Whether the record matches. -/
  | regex (written : Raw)
  | name (name : Raw)
  /-- A member of an array. -/
  | member (array : Raw) (keys : List Expr)
  | field (number : Expr)
  | assign (operator : Option Arithmetical) (target value : Expr)
  /-- One more or one less, and the value before or after. -/
  | step (amount : Int) (isAfter : Bool) (target : Expr)
  | unary (operator : Unary) (operand : Expr)
  | compute (operator : Arithmetical) (left right : Expr)
  | compare (comparison : Comparison) (left right : Expr)
  | matching (isWanted : Bool) (text pattern : Expr)
  | both (left right : Expr)
  | either (left right : Expr)
  | choose (condition yes no : Expr)
  | contains (keys : List Expr) (array : Raw)
  | joined (left right : Expr)
  | call (name : Raw) (arguments : List Expr)
  | builtin (name : String) (arguments : List Expr)
  | readLine (target : Option Expr) (source : Source)

/-- Where a line is read from. -/
inductive Source where
  | input
  | file (path : Expr)
  | command (command : Expr)

end

instance : Inhabited Expr := ⟨.text []⟩

/-- Where something is printed. -/
inductive Goal where
  | file
  | extension
  | command

/-- A statement. -/
inductive Statement where
  | nothing
  | evaluate (expression : Expr)
  | print (items : List Expr) (goal : Option (Goal × Expr))
  | printFormat (items : List Expr) (goal : Option (Goal × Expr))
  | branch (condition : Expr) (yes no : Statement)
  | loop (condition : Expr) (body step : Statement)
  | loopAfter (body : Statement) (condition : Expr)
  | forKeys (name array : Raw) (body : Statement)
  | block (statements : List Statement)
  | next
  | nextFile
  | exit (status : Option Expr)
  | giveBack (value : Option Expr)
  | leave
  | again
  | delete (array : Raw) (keys : List Expr)

instance : Inhabited Statement := ⟨.nothing⟩

/-- When a rule is carried out. -/
inductive Pattern where
  | always
  | holds (condition : Expr)
  | range (first last : Expr)

/-- A function. -/
structure Function where
  name : Raw
  parameters : List Raw
  body : Statement

/-- A program. -/
structure Program where
  beginnings : List Statement := []
  rules : List (Pattern × Statement) := []
  endings : List Statement := []
  functions : List Function := []

end Records

end Rehearsal

end InstallPlan
