import Triplet.Number.Entry
import Triplet.Settings.Basic
import Triplet.Settings.Datum
import Triplet.Text.Utf8

/-! # Reading settings from data

Each section is a table; what it leaves out has its default, and entries that no setting knows are
passed over. Numbers and truth values may be written as texts. All issues are found at once, in the
order of the settings.
-/

namespace Triplet

/-- Why a datum is no value of a setting. -/
inductive Cause where
  | notInteger
  | notIntegerText
  | fraction
  | notFinite
  | tooLarge
  | notText
  | notUnicode
  | notPath
  | notBool
  | notBoolText
  | notTable
  | budgetNotPositive
  | sizeNotPositive
  | lengthNotPositive
  deriving DecidableEq, Repr

def Cause.message : Cause → String
  | notInteger => "Input should be a valid integer"
  | notIntegerText => "Input should be a valid integer, unable to parse string as an integer"
  | fraction => "Input should be a valid integer, got a number with a fractional part"
  | notFinite => "Input should be a finite number"
  | tooLarge => "Unable to parse input string as an integer, exceeded maximum size"
  | notText => "Input should be a valid string"
  | notUnicode =>
    "Input should be a valid string, unable to parse raw data as a unicode string"
  | notPath => "Input is not a valid path"
  | notBool => "Input should be a valid boolean"
  | notBoolText => "Input should be a valid boolean, unable to interpret input"
  | notTable => "Input should be a valid dictionary"
  | budgetNotPositive => "Value error, max_instructions must be positive"
  | sizeNotPositive => "Value error, canvas dimensions must be positive"
  | lengthNotPositive => "Value error, indel_length must be at least 1"

/-- A cause and the names that lead to its place. -/
structure Issue where
  place : List String
  cause : Cause
  deriving DecidableEq, Repr

namespace Settings

/-- An integer in a text. -/
def intText (text : List Char) : Except Cause Int :=
  match Entry.int text with
  | .ok n => .ok n
  | .error .notAnInteger => .error .notIntegerText
  | .error .tooManyDigits => .error .tooLarge

/-- Whether an integer is a word of 64 bits with a sign. -/
def isWord (n : Int) : Bool := -0x8000000000000000 ≤ n && n < 0x8000000000000000

/-- A double without a fraction. -/
def intDouble (x : Float) : Except Cause Int :=
  match Dyadic.ofFloat? x with
  | none => .error .notFinite
  | some d =>
    if d.numerator % d.denominator ≠ 0 then .error .fraction
    else if Nat.pow 2 63 ≤ d.truncate.natAbs then .error .tooLarge
    else .ok d.truncate

/-- Read a text, which can be given as bytes. -/
def ofBytes {α : Type} (read : List Char → Except Cause α) (cause : Cause) (data : List UInt8) :
    Except Cause α :=
  match Text.decode data with
  | .ok text => read text
  | .error _ => .error cause

def int : Datum → Except Cause Int
  | .bool b => .ok b.toNat
  | .number (.int n) => .ok n
  | .number (.real x) => intDouble x
  | .text s => intText s.toList
  | .brokenText => .error .notUnicode
  | .bytes data => ofBytes intText .notIntegerText data
  | _ => .error .notInteger

/-- An integer that must not be less than one. -/
def positive (cause : Cause) (d : Datum) : Except Cause Nat := do
  let n ← int d
  if n < 1 then .error cause else .ok n.toNat

def text : Datum → Except Cause String
  | .text s => .ok s
  | .brokenText => .error .notUnicode
  | .bytes data => ofBytes (fun text => .ok (String.ofList text)) .notUnicode data
  | _ => .error .notText

def path : Datum → Except Cause Path
  | .text s => .ok (Path.ofText s)
  | .bytes data => ofBytes (fun text => .ok (Path.ofText (String.ofList text))) .notPath data
  | _ => .error .notPath

/-- Zero and one are truth values. -/
def boolInt (n : Int) : Except Cause Bool :=
  if n = 0 then .ok false
  else if n = 1 then .ok true
  else .error (if isWord n then .notBoolText else .notBool)

/-- A truth value in a text. -/
def boolText (text : List Char) : Except Cause Bool :=
  let word := String.ofList (text.map Char.toLower)
  if ["1", "t", "y", "true", "yes", "on"].contains word then .ok true
  else if ["0", "f", "n", "false", "no", "off"].contains word then .ok false
  else .error .notBoolText

def bool : Datum → Except Cause Bool
  | .bool b => .ok b
  | .number (.int n) => boolInt n
  | .number (.real x) =>
    match intDouble x with
    | .ok n => boolInt n
    | .error _ => .error .notBool
  | .text s => boolText s.toList
  | .brokenText => .error .notUnicode
  | .bytes data => ofBytes boolText .notBoolText data
  | _ => .error .notBool

/-- Collects issues; where there is one, the default stands in for the value. -/
abbrev Check := StateM (List Issue)

def report (place : List String) (cause : Cause) : Check Unit := modify (· ++ [⟨place, cause⟩])

/-- A section of a table of settings: its entries. -/
def sectionOf (entries : List (Datum × Datum)) (name : String) : Check (List (Datum × Datum)) :=
  match Datum.lookup? entries name with
  | none => return []
  | some (.table inner) => return inner
  | some _ => do
    report [name] .notTable
    return []

/-- A setting of a section. -/
def setting {α : Type} (place : String) (entries : List (Datum × Datum)) (key : String)
    (read : Datum → Except Cause α) (default : α) : Check α :=
  match Datum.lookup? entries key with
  | none => return default
  | some d =>
    match read d with
    | .ok a => return a
    | .error cause => do
      report [place, key] cause
      return default

def optional {α : Type} (read : Datum → Except Cause α) : Datum → Except Cause (Option α)
  | .null => .ok none
  | d => (read d).map some

def checkMachine (entries : List (Datum × Datum)) : Check Machine := do
  let d := default.machine
  let inner ← sectionOf entries "vm"
  let budget ← setting "vm" inner "max_instructions" (positive .budgetNotPositive) d.budget
  let seed ← setting "vm" inner "seed" int d.seed
  return ⟨budget, seed⟩

def checkCanvas (entries : List (Datum × Datum)) : Check Canvas := do
  let d := default.canvas
  let inner ← sectionOf entries "render"
  let size (key : String) (n : Nat) := setting "render" inner key (positive .sizeNotPositive) n
  let width ← size "width" d.width
  let height ← size "height" d.height
  let dpi ← size "dpi" d.dpi
  let background ← setting "render" inner "background" text d.background
  let range ← size "value_range" d.range
  return ⟨width, height, dpi, background, range⟩

def checkMutation (entries : List (Datum × Datum)) : Check Mutation := do
  let d := default.mutation
  let inner ← sectionOf entries "mutation"
  let seed? ← setting "mutation" inner "seed" (optional int) d.seed?
  let length ← setting "mutation" inner "indel_length" (positive .lengthNotPositive) d.length
  return ⟨seed?, length⟩

def checkOutput (entries : List (Datum × Datum)) : Check Output := do
  let d := default.output
  let inner ← sectionOf entries "outputs"
  let directory ← setting "outputs" inner "run_dir" path d.directory
  let canvas ← setting "outputs" inner "render" bool d.canvas
  let trace ← setting "outputs" inner "trace" bool d.trace
  return ⟨directory, canvas, trace⟩

/-- Read settings from the entries of a table. -/
def ofEntries (entries : List (Datum × Datum)) : Except (List Issue) Settings :=
  let check : Check Settings := do
    let machine ← checkMachine entries
    let canvas ← checkCanvas entries
    let mutation ← checkMutation entries
    let output ← checkOutput entries
    return ⟨machine, canvas, mutation, output⟩
  match check.run [] with
  | (settings, []) => .ok settings
  | (_, issues) => .error issues

end Settings

end Triplet
