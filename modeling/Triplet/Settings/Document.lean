import Triplet.Settings.Check
import Triplet.Yaml.Content

/-! # Reading settings from a document

An empty document gives the defaults; any other must be a table with texts for keys.
-/

namespace Triplet

inductive SettingsError where
  | document (e : Yaml.Error)
  | notATable
  | issues (list : List Issue)
  deriving DecidableEq, Repr

def Issue.message (i : Issue) : String := ".".intercalate i.place ++ ": " ++ i.cause.message

def SettingsError.message : SettingsError → String
  | document .unprintable => "the document has characters that are not allowed"
  | document .secondDocument => "there is more than one document"
  | document (.scalar e) => e.message?.getD "a scalar cannot be read"
  | document _ => "the document cannot be read"
  | notATable => "the document is not a table"
  | issues list => "; ".intercalate (list.map Issue.message)

namespace Settings

def ofDatum (d : Datum) : Except SettingsError Settings :=
  if d.isEmpty then .ok default
  else
    match d with
    | .table entries =>
      if entries.all fun (key, _) => key.isText then (ofEntries entries).mapError .issues
      else .error .notATable
    | _ => .error .notATable

/-- The document is a table of sections, and these are tables of values. -/
def depth : Nat := 3

/-- Read settings from the text of a document. -/
def ofText (text : List Char) : Except SettingsError Settings := do
  ofDatum (← (Yaml.document depth text).mapError .document)

end Settings

end Triplet
