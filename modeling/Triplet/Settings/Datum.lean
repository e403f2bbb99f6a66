import Triplet.Number

/-! # Data

What settings are read from: nested lists and tables of plain values.
-/

namespace Triplet

inductive Datum where
  | null
  | bool (b : Bool)
  | number (n : Number)
  | text (s : String)
  /-- A text that is not Unicode. -/
  | brokenText
  | bytes (data : List UInt8)
  /-- A value of a kind that no setting has, and whether it counts as nothing. -/
  | other (isEmpty : Bool)
  | list (items : List Datum)
  | table (entries : List (Datum × Datum))
  deriving Inhabited

namespace Datum

/-- Whether a datum counts as nothing at all. -/
def isEmpty : Datum → Bool
  | null | bool false | text "" | bytes [] | list [] | table [] => true
  | number n => n.isZero
  | other isEmpty => isEmpty
  | _ => false

def isText : Datum → Bool
  | text _ | brokenText => true
  | _ => false

/-- The last entry of a table under a text. -/
def lookup? (entries : List (Datum × Datum)) (key : String) : Option Datum :=
  (entries.reverse.find? fun (k, _) => match k with
    | text s => s == key
    | _ => false).map (·.2)

end Datum

end Triplet
