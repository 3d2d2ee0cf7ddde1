import InstallPlan.CommandLine.Options

/-!
# Command line — Arguments

Reads an argument list as options, one argument after the other.

* An option takes the next argument as its value, unless that one starts with
  a dash and is not a dash alone. The value may also follow an equals sign.
* A value is looked at only when the next argument is understood, or at the
  end; so an unknown argument right behind a bad value is what is reported.
* No option and no flag may be given twice.
* Behind `--` every argument is a path.
* A path may consist of any octets; what is not UTF-8 is no name of an option, no
  mode and no shell.
* Where an option is absent a variable of the environment stands in for it, and
  for want of that a standard value.
-/

namespace InstallPlan

namespace Arguments

/-- The octet that options start with. -/
def dash : UInt8 := '-'.toUInt8

/-- The octet between an option and a value that is attached to it. -/
def equals : UInt8 := '='.toUInt8

/-- The argument that ends the options. -/
def divider : Octets := [dash, dash]

/-- What takes a value. -/
inductive Slot where
  | specification
  | installRoot
  | mode
  | completions
  deriving DecidableEq, Repr

/-- What is given or not. -/
inductive Flag where
  | debug
  | quiet
  | doc
  deriving DecidableEq, Repr

/-- What a name stands for. -/
inductive Meaning where
  | slot (s : Slot)
  | flag (f : Flag)
  | help (long : Bool)
  | version
  deriving DecidableEq, Repr

/-- The meaning of a name after two dashes. -/
def longMeaning? (name : Octets) : Option Meaning :=
  if name = Utf8.encode "install-root" then some (.slot .installRoot)
  else if name = Utf8.encode "mode" then some (.slot .mode)
  else if name = Utf8.encode "completions" then some (.slot .completions)
  else if name = Utf8.encode "debug" then some (.flag .debug)
  else if name = Utf8.encode "quiet" then some (.flag .quiet)
  else if name = Utf8.encode "doc" then some (.flag .doc)
  else if name = Utf8.encode "help" then some (.help true)
  else if name = Utf8.encode "version" then some .version
  else none

/-- The meaning of a letter after one dash. -/
def letterMeaning? (letter : UInt8) : Option Meaning :=
  if letter = 'q'.toUInt8 then some (.flag .quiet)
  else if letter = 'h'.toUInt8 then some (.help false)
  else if letter = 'V'.toUInt8 then some .version
  else none

/-- What has been read of an argument list. -/
structure Draft where
  specification : Option Path := none
  installRoot : Option Path := none
  mode : Option Mode := none
  completions : Option CompletionShell := none
  debug : Bool := false
  quiet : Bool := false
  doc : Bool := false
  /-- What still waits for its value, or for its value to be looked at. -/
  pending : Option (Slot × Option Octets) := none
  /-- Whether a path has been given. -/
  hasPath : Bool := false
  /-- Whether only paths may follow. -/
  trailing : Bool := false
  deriving DecidableEq, Repr

/-- The end of reading for a misuse. -/
def refuse {α : Type} (reason : Misuse) : Except Interruption α := .error (.misuse reason)

/-- A path, which must not be empty. -/
def pathOf (value : Octets) : Except Interruption Path :=
  if value = [] then refuse .invalidValue else .ok ⟨value⟩

/-- A value that has to be a name. -/
def named {α : Type} (found : Option α) : Except Interruption α :=
  match found with
  | some x => .ok x
  | none => refuse .invalidValue

namespace Draft

/-- Whether something has its value. -/
def has (draft : Draft) : Slot → Bool
  | .specification => draft.specification.isSome
  | .installRoot => draft.installRoot.isSome
  | .mode => draft.mode.isSome
  | .completions => draft.completions.isSome

/-- Gives something its value. -/
def fill (draft : Draft) (slot : Slot) (value : Octets) : Except Interruption Draft :=
  if draft.has slot then refuse .argumentConflict
  else
    match slot with
    | .specification => (pathOf value).map fun p => { draft with specification := some p }
    | .installRoot => (pathOf value).map fun p => { draft with installRoot := some p }
    | .mode => (named (Mode.ofOctets? value)).map fun m => { draft with mode := some m }
    | .completions =>
      (named (CompletionShell.ofOctets? value)).map fun s => { draft with completions := some s }

/-- Looks at the value that waits for it. -/
def settle (draft : Draft) : Except Interruption Draft :=
  match draft.pending with
  | none => .ok draft
  | some (_, none) => refuse .invalidValue
  | some (slot, some value) => { draft with pending := none }.fill slot value

/-- Whether a flag is given. -/
def isSet (draft : Draft) : Flag → Bool
  | .debug => draft.debug
  | .quiet => draft.quiet
  | .doc => draft.doc

/-- Gives a flag. -/
def raise (draft : Draft) (flag : Flag) : Except Interruption Draft :=
  if draft.isSet flag then refuse .argumentConflict
  else
    match flag with
    | .debug => .ok { draft with debug := true }
    | .quiet => .ok { draft with quiet := true }
    | .doc => .ok { draft with doc := true }

/-- Reads a name without a value attached to it. -/
def mention (draft : Draft) (meaning : Meaning) : Except Interruption Draft := do
  let draft ← draft.settle
  match meaning with
  | .slot slot => return { draft with pending := some (slot, none) }
  | .flag flag => draft.raise flag
  | .help long => .error (.help long)
  | .version => .error .version

/-- Reads an argument of two dashes and a name. -/
def readLong (draft : Draft) (name : Octets) (attached : Option Octets) :
    Except Interruption Draft :=
  match longMeaning? name, attached with
  | none, _ => refuse .unknownArgument
  | some meaning, none => draft.mention meaning
  | some (.slot slot), some value => do (← draft.settle).fill slot value
  | some _, some _ => refuse .tooManyValues

/-- Reads an argument of one dash and letters. -/
def readLetters : Draft → Octets → Except Interruption Draft
  | draft, [] => .ok draft
  | draft, letter :: rest =>
    match letterMeaning? letter with
    | none => refuse .unknownArgument
    | some meaning =>
      match draft.mention meaning with
      | .error e => .error e
      | .ok draft => draft.readLetters rest

/-- Reads an argument that is no option: the value that something waits for, or
else the path. -/
def readWord (draft : Draft) (word : Octets) : Except Interruption Draft :=
  match draft.pending, draft.trailing with
  | some (slot, none), false => .ok { draft with pending := some (slot, some word) }
  | _, _ =>
    if draft.hasPath then refuse .unknownArgument
    else
      draft.settle.map fun draft =>
        { draft with pending := some (.specification, some word), hasPath := true }

/-- Reads one argument. -/
def read (draft : Draft) (argument : Octets) : Except Interruption Draft :=
  if draft.trailing then draft.readWord argument
  else if argument = divider then .ok { draft with trailing := true }
  else
    match argument with
    | first :: second :: rest =>
      if first ≠ dash then draft.readWord argument
      else if second ≠ dash then draft.readLetters (second :: rest)
      else
        let name := rest.takeWhile (· ≠ equals)
        match rest.dropWhile (· ≠ equals) with
        | [] => draft.readLong name none
        | _ :: value => draft.readLong name (some value)
    | _ => draft.readWord argument

/-- Reads the arguments one after the other. -/
def readAll : Draft → List Octets → Except Interruption Draft
  | draft, [] => draft.settle
  | draft, argument :: rest =>
    match draft.read argument with
    | .error e => .error e
    | .ok draft => draft.readAll rest

/-- The root that is chosen. -/
def chooseRoot (draft : Draft) (surroundings : Surroundings) : Except Interruption Path :=
  match draft.installRoot, surroundings.installRoot with
  | some root, _ => .ok root
  | none, some value => pathOf value
  | none, none => .ok (.ofText Options.standardRoot)

/-- The mode that is chosen. -/
def chooseMode (draft : Draft) (surroundings : Surroundings) : Except Interruption Mode :=
  match draft.mode, surroundings.mode with
  | some mode, _ => .ok mode
  | none, some value => named (Mode.ofOctets? value)
  | none, none => .ok .standard

/-- The options that a finished draft amounts to. -/
def finish (draft : Draft) (surroundings : Surroundings) : Except Interruption Options := do
  let installRoot ← draft.chooseRoot surroundings
  let mode ← draft.chooseMode surroundings
  if draft.debug && draft.quiet then refuse .argumentConflict
  else
    return {
      specification := draft.specification
      installRoot
      mode
      debug := draft.debug
      quiet := draft.quiet
      doc := draft.doc
      completions := draft.completions }

end Draft

end Arguments

/-- Reads an argument list as options. -/
def Options.ofArguments (arguments : List Octets) (surroundings : Surroundings) :
    Except Interruption Options :=
  match Arguments.Draft.readAll {} arguments with
  | .error e => .error e
  | .ok draft => draft.finish surroundings

end InstallPlan
