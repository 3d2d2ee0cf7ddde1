import InstallPlan.Rehearsal.Errand.Basic

/-!
# Rehearsal — Options

The options among the arguments of a program: letters behind a dash, which may
stand together, and words behind two dashes, which may be cut short as long as
they stay clear. Options and operands may be mixed; two dashes end the options.
-/

namespace InstallPlan

namespace Rehearsal

/-- Whether a value belongs to an option. -/
inductive Need where
  | none
  | value
  /-- Only if it is written right behind the option. -/
  | attached
  deriving DecidableEq

/-- The options of a program: letters, and words with the option that they mean. -/
structure Options where
  /-- The letters; a colon says that a value belongs to the one in front. -/
  letters : String
  words : List (String × Need × String) := []
  /-- Whether the first operand ends the options. -/
  inOrder : Bool := false

/-- What was given: options with their values, and operands. -/
structure Given where
  options : List (String × Raw) := []
  operands : List Raw := []

namespace Given

/-- Whether an option was given. -/
def has (given : Given) (option : String) : Bool := given.options.any (·.1 == option)

/-- The value that an option was given last. -/
def last? (given : Given) (option : String) : Option Raw :=
  (given.options.reverse.find? (·.1 == option)).map (·.2)

/-- All values that an option was given. -/
def all (given : Given) (option : String) : List Raw :=
  (given.options.filter (·.1 == option)).map (·.2)

/-- Which of some options was given last. -/
def latest? (given : Given) (options : List String) : Option String :=
  (given.options.reverse.find? fun o => options.contains o.1).map (·.1)

end Given

namespace Options

/-- Whether a value belongs to a letter; nothing if there is no such letter. -/
def need? (letter : Char) : List Char → Option Need
  | [] => none
  | c :: more =>
    if c = letter ∧ c ≠ ':' then
      match more with
      | ':' :: ':' :: _ => some .attached
      | ':' :: _ => some .value
      | _ => some .none
    else need? letter more

/-- Reads letters that stand together. The last part says whether the next
argument was used up as a value. -/
def cluster (options : Options) (next : Option Raw) :
    Raw → Except Raw (List (String × Raw) × Bool)
  | [] => .ok ([], false)
  | letter :: more =>
    let name := String.ofList [letter]
    match need? letter options.letters.toList with
    | none => .error (raw "invalid option -- " ++ Errand.quote [letter])
    | some .none =>
      match cluster options next more with
      | .ok (found, used) => .ok ((name, []) :: found, used)
      | .error e => .error e
    | some .attached => .ok ([(name, more)], false)
    | some .value =>
      match more, next with
      | [], some value => .ok ([(name, value)], true)
      | [], none => .error (raw "option requires an argument -- " ++ Errand.quote [letter])
      | _, _ => .ok ([(name, more)], false)

/-- Finds the word that a possibly shortened one means. Every program knows the
words for help and for its version. -/
def word? (options : Options) (text : Raw) : Except Raw (String × Need × String) :=
  let words := options.words ++ [("help", .none, "help"), ("version", .none, "version")]
  match words.find? fun w => w.1.toList = text with
  | some word => .ok word
  | none =>
    let candidates := words.filter fun w => text.isPrefixOf w.1.toList
    match candidates with
    | [] => .error (raw "unrecognized option '--" ++ text ++ raw "'")
    | word :: others =>
      if others.all fun w => w.2 = word.2 then .ok word
      else
        .error (raw "option '--" ++ text ++ raw "' is ambiguous; possibilities:"
          ++ candidates.flatMap fun w => raw " '--" ++ raw w.1 ++ raw "'")

/-- Reads a word. The last part says whether the next argument was used up. -/
def word (options : Options) (next : Option Raw) (text : Raw) :
    Except Raw ((String × Raw) × Bool) :=
  let name := text.takeWhile (· ≠ '=')
  let value := if name.length < text.length then some (text.drop (name.length + 1)) else none
  match word? options name with
  | .error e => .error e
  | .ok (full, need, meaning) =>
    match need, value, next with
    | .none, none, _ => .ok ((meaning, []), false)
    | .none, some _, _ =>
      .error (raw "option '--" ++ raw full ++ raw "' doesn't allow an argument")
    | .attached, _, _ => .ok ((meaning, value.getD []), false)
    | .value, some value, _ => .ok ((meaning, value), false)
    | .value, none, some value => .ok ((meaning, value), true)
    | .value, none, none =>
      .error (raw "option '--" ++ raw full ++ raw "' requires an argument")

/-- Reads arguments. -/
def read (options : Options) : List Raw → Except Raw Given
  | [] => .ok {}
  | ['-', '-'] :: rest => .ok { operands := rest }
  | ('-' :: '-' :: text) :: rest =>
    match word options rest.head? text with
    | .error e => .error e
    | .ok (option, used) =>
      match read options (if used then rest.tail else rest) with
      | .error e => .error e
      | .ok given => .ok { given with options := option :: given.options }
  | ('-' :: c :: text) :: rest =>
    match cluster options rest.head? (c :: text) with
    | .error e => .error e
    | .ok (found, used) =>
      match read options (if used then rest.tail else rest) with
      | .error e => .error e
      | .ok given => .ok { given with options := found ++ given.options }
  | operand :: rest =>
    if options.inOrder then .ok { operands := operand :: rest }
    else
      match read options rest with
      | .error e => .error e
      | .ok given => .ok { given with operands := operand :: given.operands }
termination_by arguments => arguments.length
decreasing_by
  all_goals simp
  all_goals first | omega | (split <;> (try rw [List.length_tail]) <;> omega)

end Options

namespace Errand

/-- Reads the arguments of a program, or ends it with a status. -/
def givenOr (status : Nat) (options : Options) (arguments : List Raw) : Errand Given := do
  match options.read arguments with
  | .ok given => if given.has "help" || given.has "version" then stop 0 else return given
  | .error message => misuse status message

/-- Reads the arguments of a program, or ends it. -/
def given (options : Options) (arguments : List Raw) : Errand Given := givenOr 1 options arguments

end Errand

end Rehearsal

end InstallPlan
