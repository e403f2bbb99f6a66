/-! # Arguments

The arguments of a command are options and positional arguments in any order. An option stands
behind two dashes, or as a letter behind one; some options take a value, from behind an equality
sign or from the next argument. Two dashes alone end the options.
-/

namespace Triplet.Command

/-- The options that a command knows. -/
structure Grammar where
  flags : List String
  /-- The letters that stand for flags. -/
  letters : List (Char × String)
  /-- The options that take a value. -/
  valued : List String
  deriving DecidableEq, Repr

inductive UsageError where
  | unknownOption (name : String)
  | valueMissing (name : String)
  | valueNotTaken (name : String)
  | notANumber (name value : String)
  | notAPath (value : String)
  | argumentMissing
  | argumentNotTaken (argument : String)
  | commandMissing
  | unknownCommand (name : String)
  deriving DecidableEq, Repr

def UsageError.message : UsageError → String
  | unknownOption name => "No such option: " ++ name
  | valueMissing name => "Option " ++ name ++ " requires an argument."
  | valueNotTaken name => "Option " ++ name ++ " does not take a value."
  | notANumber name value => "Invalid value for " ++ name ++ ": " ++ value
  | notAPath value => "Invalid value for a path: " ++ value
  | argumentMissing => "Missing argument."
  | argumentNotTaken argument => "Got unexpected extra argument: " ++ argument
  | commandMissing => "Missing command."
  | unknownCommand name => "No such command: " ++ name

/-- An option as it was given; flags have no value. -/
structure Given where
  name : String
  value : Option String
  deriving DecidableEq, Repr

structure Arguments where
  options : List Given
  positional : List String
  deriving DecidableEq, Repr

/-- Arguments that stand before others, which may be unreadable. -/
def Arguments.before (a : Arguments) (rest : Except UsageError Arguments) :
    Except UsageError Arguments :=
  rest.map fun b => ⟨a.options ++ b.options, a.positional ++ b.positional⟩

/-- What a single argument is. -/
inductive Shape where
  | positional
  | close
  | options (given : List Given)
  /-- An option whose value is the next argument. -/
  | awaiting (name : String)
  deriving DecidableEq, Repr

namespace Grammar

/-- Read an option by its whole name, which ends at the first equality sign. -/
def readName (g : Grammar) (arg : String) : Except UsageError Shape :=
  let letters := arg.toList
  let name := String.ofList (letters.takeWhile (· ≠ '='))
  let behind := letters.dropWhile (· ≠ '=')
  let value? := if behind.isEmpty then none else some (String.ofList (behind.drop 1))
  if g.valued.contains name then
    match value? with
    | some value => .ok (.options [⟨name, some value⟩])
    | none => .ok (.awaiting name)
  else if g.flags.contains name then
    if value?.isSome then .error (.valueNotTaken name) else .ok (.options [⟨name, none⟩])
  else .error (.unknownOption name)

def readLetter (g : Grammar) (c : Char) : Except UsageError Given :=
  match g.letters.lookup c with
  | some name => .ok ⟨name, none⟩
  | none => .error (.unknownOption ("-" ++ c.toString))

/-- Read the letters behind a single dash. -/
def readLetters (g : Grammar) (letters : List Char) : Except UsageError Shape := do
  return .options (← letters.mapM g.readLetter)

def shape (g : Grammar) (arg : String) : Except UsageError Shape :=
  match arg.toList with
  | ['-', '-'] => .ok .close
  | '-' :: '-' :: _ => g.readName arg
  | '-' :: c :: rest => g.readLetters (c :: rest)
  | _ => .ok .positional

/-- Read arguments. If options must come first, all that follows the first positional argument is
positional. -/
def read (g : Grammar) (optionsFirst : Bool) : List String → Except UsageError Arguments
  | [] => .ok ⟨[], []⟩
  | arg :: rest =>
    match g.shape arg with
    | .error e => .error e
    | .ok .close => .ok ⟨[], rest⟩
    | .ok .positional =>
      if optionsFirst then .ok ⟨[], arg :: rest⟩
      else Arguments.before ⟨[], [arg]⟩ (g.read optionsFirst rest)
    | .ok (.options given) => Arguments.before ⟨given, []⟩ (g.read optionsFirst rest)
    | .ok (.awaiting name) =>
      match rest with
      | [] => .error (.valueMissing name)
      | value :: rest => Arguments.before ⟨[⟨name, some value⟩], []⟩ (g.read optionsFirst rest)

end Grammar

namespace Arguments

def has (a : Arguments) (name : String) : Bool := a.options.any (·.name == name)

/-- The last value that was given to an option. -/
def value? (a : Arguments) (name : String) : Option String :=
  (a.options.reverse.find? (·.name == name)).bind (·.value)

/-- The last of two flags that undo each other, the first of them if there is none. -/
def last (a : Arguments) (yes no : String) : Bool :=
  ((a.options.reverse.find? fun g => g.name == yes || g.name == no).map (·.name == yes)).getD true

/-- The value of an option, read as a number. -/
def number? {α : Type} (a : Arguments) (name : String) (read : List Char → Option α) :
    Except UsageError (Option α) :=
  match a.value? name with
  | none => .ok none
  | some value =>
    match read value.toList with
    | some x => .ok (some x)
    | none => .error (.notANumber name value)

end Arguments

end Triplet.Command
