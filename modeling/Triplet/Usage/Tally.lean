/-! # Tallies and shares

A tally lists the distinct items of a list, each with the number of its occurrences, in the order
in which they are first seen. Shares are quotients of counts. They are computed in any kind of number
that reads decimals: in doubles where they are reported, and in exact fractions where they are
reasoned about.
-/

namespace Triplet

section Tallies

variable {α : Type} [DecidableEq α]

/-- The distinct items of a list in the order in which they are first seen. -/
def firstSeen : List α → List α
  | [] => []
  | a :: rest => a :: (firstSeen rest).filter (· ≠ a)

abbrev Tally (α : Type) := List (α × Nat)

namespace Tally

def ofList (items : List α) : Tally α := (firstSeen items).map fun a => (a, items.count a)

/-- The number of occurrences of all items together. -/
def total (t : Tally α) : Nat := t.foldr (fun entry n => entry.2 + n) 0

/-- The entries with the greatest counts, those of one count in the order of the tally. -/
def top (count : Nat) (t : Tally α) : Tally α := (t.mergeSort fun a b => b.2 ≤ a.2).take count

end Tally

@[simp] theorem mem_firstSeen {a : α} {items : List α} : a ∈ firstSeen items ↔ a ∈ items := by
  induction items with
  | nil => simp [firstSeen]
  | cons b rest ih => by_cases h : a = b <;> simp [firstSeen, ih, h]

theorem nodup_firstSeen (items : List α) : (firstSeen items).Nodup := by
  induction items with
  | nil => simp [firstSeen]
  | cons a rest ih =>
    rw [firstSeen, List.nodup_cons]
    exact ⟨by simp, ih.filter _⟩

end Tallies

section Shares

variable {K : Type} [OfScientific K]

/-- A count as a number. -/
def ofCount (n : Nat) : K := OfScientific.ofScientific n false 0

/-- A quotient of counts; nothing has no part in nothing. -/
def ratio [Div K] (part whole : Nat) : K := if whole = 0 then 0.0 else ofCount part / ofCount whole

/-- A quotient of counts in percent. -/
def percent [Div K] [Mul K] (part whole : Nat) : K := ratio part whole * 100.0

/-- How far apart two numbers are. -/
def gap [LT K] [DecidableLT K] [Sub K] (x y : K) : K := if x < y then y - x else x - y

end Shares

end Triplet
