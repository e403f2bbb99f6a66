import Triplet.Yaml.Error

/-! # Dates and times

A day in a year, and perhaps a time of the day with a zone.
-/

namespace Triplet.Yaml

structure DayTime where
  hour : Nat
  minute : Nat
  second : Nat
  /-- By how many minutes the zone is ahead. -/
  zone? : Option Int
  deriving DecidableEq, Repr

structure Moment where
  year : Nat
  month : Nat
  day : Nat
  time? : Option DayTime
  deriving DecidableEq, Repr

namespace Moment

/-- Read at least `least` and at most `most` digits. -/
def digits? (least most : Nat) (text : List Char) : Option (Nat × List Char) :=
  let found := (text.take most).takeWhile Char.isDigit
  if found.length < least then none
  else some (found.foldl (fun n c => 10 * n + (c.toNat - '0'.toNat)) 0, text.drop found.length)

def sign? (letter : Char) (text : List Char) : Option (List Char) :=
  if text.head? = some letter then some (text.drop 1) else none

def dropBlanks (text : List Char) : List Char := text.dropWhile fun c => c = ' ' || c = '\t'

/-- Read a zone, which ends the text; it may be missing. -/
def readZone? (text : List Char) : Option (Option Int) :=
  if text.isEmpty then some none
  else
    match dropBlanks text with
    | ['Z'] => some (some 0)
    | s :: rest =>
      if s = '+' || s = '-' then do
        let (hours, rest) ← digits? 1 2 rest
        let (minutes, rest) ←
          if rest.isEmpty then pure (0, rest)
          else do digits? 2 2 (← sign? ':' rest)
        guard rest.isEmpty
        let total : Int := 60 * hours + minutes
        some (some (if s = '-' then -total else total))
      else none
    | [] => none

/-- Read a time of the day. -/
def readTime? (text : List Char) : Option DayTime := do
  let (hour, text) ← digits? 1 2 text
  let (minute, text) ← digits? 2 2 (← sign? ':' text)
  let (second, text) ← digits? 2 2 (← sign? ':' text)
  let text := if text.head? = some '.' then (text.drop 1).dropWhile Char.isDigit else text
  return ⟨hour, minute, second, ← readZone? text⟩

/-- Read a date, with a time behind the letter T or blanks. -/
def read? (text : List Char) : Option Moment := do
  let (year, text) ← digits? 4 4 text
  let (month, text) ← digits? 1 2 (← sign? '-' text)
  let (day, text) ← digits? 1 2 (← sign? '-' text)
  match text with
  | [] => return ⟨year, month, day, none⟩
  | c :: rest =>
    if c = 'T' || c = 't' then return ⟨year, month, day, some (← readTime? rest)⟩
    else if c = ' ' || c = '\t' then return ⟨year, month, day, some (← readTime? (dropBlanks rest))⟩
    else none

def isLeap (year : Nat) : Bool := year % 4 = 0 && (year % 100 ≠ 0 || year % 400 = 0)

def daysIn (year month : Nat) : Nat :=
  if month = 2 then if isLeap year then 29 else 28
  else if [4, 6, 9, 11].contains month then 30
  else 31

/-- What is wrong with a moment: first its zone, then the parts from the year on. -/
def error? (m : Moment) : Option ScalarError :=
  let isFar (zone : Int) : Bool := zone ≤ -1440 || 1440 ≤ zone
  match m.time?.bind fun t => t.zone?.filter isFar with
  | some zone => some (.zone zone)
  | none =>
    if m.year = 0 then some (.year m.year)
    else if m.month = 0 || 12 < m.month then some .month
    else if m.day = 0 || daysIn m.year m.month < m.day then some .day
    else
      m.time?.bind fun t =>
        if 23 < t.hour then some .hour
        else if 59 < t.minute then some .minute
        else if 59 < t.second then some .second
        else none

end Moment

end Triplet.Yaml
