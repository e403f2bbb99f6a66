import Triplet.Text.Quoted

/-! # Errors of YAML

Why a text is no document, and why a scalar has no value.
-/

namespace Triplet.Yaml

/-- Why a scalar has no value of the kind that it is taken for. -/
inductive ScalarError where
  | notInteger (base : Nat) (text : List Char)
  | tooManyDigits (count : Nat)
  | notDouble (text : List Char)
  /-- A part of a number is too large for a double. -/
  | tooLarge
  /-- A number without any digit or letter. -/
  | empty
  | notBool (text : List Char)
  | notMoment
  | year (n : Nat)
  | month
  | day
  | hour
  | minute
  | second
  /-- A zone that is a day or more ahead or behind, in minutes. -/
  | zone (minutes : Int)
  /-- An escape for a character beyond the last. -/
  | noCharacter
  /-- An escape whose number is no word of 31 bits. -/
  | noWord
  deriving DecidableEq, Repr

/-- Days and seconds, those that are not zero. -/
def durationText (minutes : Int) : String :=
  let days := minutes.fdiv 1440
  let seconds := minutes.fmod 1440 * 60
  let parts := [("days=", days), ("seconds=", seconds)].filter fun (_, n) => n ≠ 0
  ", ".intercalate (parts.map fun (name, n) => name ++ toString n)

/-- The text of the errors that have one. -/
def ScalarError.message? : ScalarError → Option String
  | notInteger base text =>
    some ("invalid literal for int() with base " ++ toString base ++ ": " ++
      String.ofList ((Text.quoted text).take 200))
  | tooManyDigits count =>
    some ("Exceeds the limit (4300 digits) for integer string conversion: value has " ++
      toString count ++ " digits; use sys.set_int_max_str_digits() to increase the limit")
  | notDouble text =>
    some ("could not convert string to float: " ++ String.ofList (Text.quoted text))
  | empty => some "string index out of range"
  | notBool text => some (String.ofList (Text.quoted text))
  | tooLarge | notMoment | noWord => none
  | year n => some ("year " ++ toString n ++ " is out of range")
  | month => some "month must be in 1..12"
  | day => some "day is out of range for month"
  | hour => some "hour must be in 0..23"
  | minute => some "minute must be in 0..59"
  | second => some "second must be in 0..59"
  | zone minutes =>
    some ("offset must be a timedelta strictly between -timedelta(hours=24) and " ++
      "timedelta(hours=24), not datetime.timedelta(" ++ durationText minutes ++ ").")
  | noCharacter => some "chr() arg not in range(0x110000)"

/-- Why a text is no document. -/
inductive Error where
  /-- A character that no document may have. -/
  | unprintable
  /-- A place where no token can be read. -/
  | unreadable
  /-- A token where another is due. -/
  | misplaced
  | unknownAnchor
  | repeatedAnchor
  | secondDocument
  /-- A node that is not of the kind that its tag says, or whose tag is not known. -/
  | unfit
  | scalar (e : ScalarError)
  deriving DecidableEq, Repr

end Triplet.Yaml
