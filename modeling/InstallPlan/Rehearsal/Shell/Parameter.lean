import InstallPlan.Rehearsal.Arithmetic
import InstallPlan.Rehearsal.Shell.State

/-!
# Rehearsal — Parameters

What the parameters of a shell stand for: its variables and arrays, the
arguments of the script, and what a sign tells of the shell itself. A parameter
has one value, or none, or it has several (`Found`).
-/

namespace InstallPlan

namespace Rehearsal

/-- What a parameter stands for. -/
inductive Found where
  | one (value : Option Raw)
  /-- Several values, which are one text if that is asked for. -/
  | many (values : List Raw) (joined : Bool)

/-- The number of an argument, if it can be written with few digits. -/
def argumentNumber? (name : Raw) : Option Nat :=
  if name ≠ [] ∧ name.all Char.isDigit then some (ofDecimal name) else none

namespace Shell

/-- The values of an array that is not one of the script's own making. -/
def givenList? (shell : Shell) (name : Raw) : Option (List Raw) :=
  if !shell.isRich then none
  else if name = raw "FUNCNAME" ∧ shell.callers ≠ [] then some (shell.callers ++ [raw "main"])
  else if name = raw "BASH_SOURCE" then some (shell.callers.map fun _ => shell.name)
  else if name = raw "DIRSTACK" then some (shell.place :: shell.stack)
  else none

/-- The value that a name or a sign stands for. -/
def parameter? (shell : Shell) (name : Raw) : Option Raw :=
  match name with
  | ['#'] => some (Raw.ofNat shell.arguments.length)
  | ['?'] => some (Raw.ofNat shell.status)
  | ['-'] => some shell.flags
  | ['$'] => some (Raw.ofNat shell.process.id)
  | ['!'] => shell.lastJob.map Raw.ofNat
  | _ =>
    match argumentNumber? name with
    | some 0 => some shell.name
    | some n => shell.arguments[n - 1]?
    | none =>
      match shell.givenList? name with
      | some values => values.head?
      | none =>
        if shell.isRich ∧ name = raw "LINENO" then some (Raw.ofNat shell.line)
        else if shell.isRich ∧ name = raw "SECONDS" then some ['0']
        else if shell.isRich ∧ name = raw "RANDOM" then some (raw "17767")
        else if shell.isRich ∧ name = raw "BASHPID" then some (Raw.ofNat shell.process.id)
        else shell.value? name

/-- What a name or a sign stands for. -/
def found (shell : Shell) (name : Raw) : Found :=
  match name with
  | ['@'] => .many shell.arguments false
  | ['*'] => .many shell.arguments true
  | _ => .one (shell.parameter? name)

/-- The members of an array with their names. -/
def members (shell : Shell) (name : Raw) : List (Raw × Raw) :=
  match shell.givenList? name with
  | some values => values.mapIdx fun i value => (Raw.ofNat i, value)
  | none =>
    match (shell.setting? name).bind (·.value) with
    | some value => value.indices.zip value.members
    | none => []

/-- Whether the members of an array go by names. -/
def isKeyed (shell : Shell) (name : Raw) : Bool :=
  match (shell.setting? name).bind (·.value) with
  | some (.table _) => true
  | _ => false

/-- A number as the position of a member: one below zero counts from behind. -/
def position? (shell : Shell) (name : Raw) (n : Int) : Option Nat :=
  if 0 ≤ n then some n.toNat
  else
    let next := ((shell.members name).getLast?.bind fun m => argumentNumber? m.1).elim 0 (· + 1)
    if 0 ≤ (next : Int) + n then some ((next : Int) + n).toNat else none

/-- A member of an array. -/
def member? (shell : Shell) (name index : Raw) : Option Raw :=
  ((shell.members name).find? (·.1 = index)).map (·.2)

/-- The value of a name that may have an index behind it. -/
def indexed? (shell : Shell) (name : Raw) : Option Raw :=
  let base := name.takeWhile (· ≠ '[')
  if base.length < name.length then
    shell.member? base ((name.drop (base.length + 1)).dropLast)
  else shell.parameter? name

/-- What stands between values that are made one text. -/
def joint (shell : Shell) : Raw := (shell.separators.head?).toList

end Shell

namespace Act

/-- Sets a member of an array. -/
def assignMember (name index value : Raw) (appends : Bool) : Act Unit := do
  let shell ← get
  let value := if appends then (shell.member? name index).getD [] ++ value else value
  match argumentNumber? index, shell.isKeyed name with
  | some n, false =>
    alter name fun setting =>
      let items : List (Nat × Raw) :=
        match setting.value with
        | some (.list items) => items
        | some (.text text) => [(0, text)]
        | _ => []
      let before := items.takeWhile fun i => i.1 < n
      let behind := (items.dropWhile fun i => i.1 < n).filter (·.1 ≠ n)
      { setting with value := some (.list (before ++ (n, lettered setting value) :: behind)) }
  | _, _ =>
    alter name fun setting =>
      let items : List (Raw × Raw) :=
        match setting.value with
        | some (.table items) => items
        | _ => []
      let value := lettered setting value
      let items :=
        if items.any (·.1 = index) then
          items.map fun i => if i.1 = index then (index, value) else i
        else items ++ [(index, value)]
      { setting with value := some (.table items) }

/-- Sets a variable, or a member of an array whose index stands behind its name. -/
def assignIndexed (name value : Raw) : Act Unit := do
  let base := name.takeWhile (· ≠ '[')
  if base.length < name.length then
    assignMember base ((name.drop (base.length + 1)).dropLast) value false
  else assign name value

/-- The value of an arithmetic expression, which may set variables. -/
def compute (text : Raw) : Act Int := do
  let shell ← get
  let scope : Arithmetic.Scope :=
    { dialect := shell.dialect, value := shell.indexed?, isKeyed := shell.isKeyed }
  match Arithmetic.evaluate scope text with
  | .error flaw => fail (flaw.message shell.dialect text)
  | .ok (n, assigned) =>
    assigned.forM fun (name, value) => assignIndexed name (Raw.ofInt value)
    return n

end Act

end Rehearsal

end InstallPlan
