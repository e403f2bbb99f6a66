import Triplet.Settings.Datum
import Triplet.Text.Base64
import Triplet.Yaml.Moment
import Triplet.Yaml.Node
import Triplet.Yaml.Number

/-! # YAML scalars

Of what kind a plain scalar is, and what value a scalar of a kind has.
-/

namespace Triplet.Yaml

def nulls : List String := ["~", "null", "Null", "NULL"]

def bools : List String := [
  "yes", "Yes", "YES", "no", "No", "NO", "true", "True", "TRUE", "false", "False", "FALSE",
  "on", "On", "ON", "off", "Off", "OFF"]

/-- Whether a plain scalar is a moment; a date without a time has two digits for month and day. -/
def isMoment (text : List Char) : Bool :=
  match Moment.read? text with
  | some m => m.time?.isSome || text.length = 10
  | none => false

/-- A text without one newline at its end. -/
def dropNewline (text : List Char) : List Char :=
  if text.getLast? = some '\n' then text.dropLast else text

/-- The kind of a scalar without a tag. A newline at its end does not count. -/
def Kind.ofText (text : List Char) : Kind :=
  let line := dropNewline text
  let word := String.ofList line
  if text.isEmpty || nulls.contains word then .null
  else if bools.contains word then .bool
  else if isDouble line then .double
  else if isInteger line then .int
  else if isMoment line then .moment
  else if word = "<<" then .merge
  else if word = "=" then .default
  else if ["!", "&", "*"].contains word then .unknown
  else .text

def boolOf (text : List Char) : Except ScalarError Bool :=
  let lower := Text.lowerAll text
  let word := String.ofList lower
  if ["yes", "true", "on"].contains word then .ok true
  else if ["no", "false", "off"].contains word then .ok false
  else .error (.notBool lower)

/-- Check a moment. -/
def momentOf (text : List Char) : Except ScalarError Moment :=
  match Moment.read? (dropNewline text) with
  | none => .error .notMoment
  | some m =>
    match m.error? with
    | some e => .error e
    | none => .ok m

/-- The value of a scalar. -/
def Kind.value (kind : Kind) (text : List Char) (isUnicode : Bool) : Except Error Datum :=
  match kind with
  | .null => .ok .null
  | .bool => ((boolOf text).mapError .scalar).map .bool
  | .int => ((integerOf text).mapError .scalar).map fun n => .number (.int n)
  | .double => ((doubleOf text).mapError .scalar).map fun x => .number (.real x)
  | .moment => ((momentOf text).mapError .scalar).map fun _ => .other false
  | .text => .ok (if isUnicode then .text (String.ofList text) else .brokenText)
  | .bytes =>
    match if text.all fun c => c.toNat < 128 then Text.decodeBase64? text else none with
    | some data => .ok (.bytes data)
    | none => .error .unfit
  | _ => .error .unfit

end Triplet.Yaml
