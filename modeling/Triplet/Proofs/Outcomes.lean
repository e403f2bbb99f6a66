import Mathlib.Data.List.Basic
import Triplet.Mutation.Bases

/-! # How a mutation ends

A mutation is refused or yields a result, and which of the two depends on the genome and the place
that is asked for, never on what is drawn. So one judgment says both: under which condition exactly
a computation is refused, and what holds of its value otherwise. It is proved along the steps of the
computation, with an obligation at every exit: at a refusal the condition holds, at a result it does
not.
-/

namespace Triplet.Mutation

open Triplet.Random

variable {α β : Type}

def Yields (x : Mutating α) (g : Generator) (a : α) : Prop := (x.run.run g).1 = .ok a

instance [DecidableEq α] (x : Mutating α) (g : Generator) (a : α) : Decidable (Yields x g a) :=
  inferInstanceAs (Decidable ((x.run.run g).1 = .ok a))

/-- A computation that is refused exactly under a condition, and that otherwise gives a value with a
property. -/
def Meets (x : Mutating α) (g : Generator) (refused : Prop) (result : α → Prop) : Prop :=
  match (x.run.run g).1 with
  | .error _ => refused
  | .ok a => ¬ refused ∧ result a

section Bind

variable {x : Mutating α} {f : α → Mutating β} {g g' : Generator}

theorem run_bind_of_ok {a : α} (h : x.run.run g = (.ok a, g')) :
    (x >>= f).run.run g = (f a).run.run g' := by
  rw [ExceptT.run_bind, StateT.run_bind, h]
  rfl

theorem run_bind_of_error {r : Refusal} (h : x.run.run g = (.error r, g')) :
    (x >>= f).run.run g = (.error r, g') := by
  rw [ExceptT.run_bind, StateT.run_bind, h]
  rfl

end Bind

namespace Meets

variable {x : Mutating α} {f : α → Mutating β} {g : Generator} {refused : Prop}
  {result : α → Prop} {result' : β → Prop}

theorem yields (h : Meets x g refused result) (hr : ¬ refused) : ∃ a, Yields x g a ∧ result a := by
  unfold Meets at h
  unfold Yields
  cases hx : (x.run.run g).1 with
  | error r =>
    rw [hx] at h
    exact absurd h hr
  | ok a =>
    rw [hx] at h
    exact ⟨a, rfl, h.2⟩

theorem of_yields {a : α} (h : Meets x g refused result) (hy : Yields x g a) :
    ¬ refused ∧ result a := by
  unfold Meets at h
  rwa [show (x.run.run g).1 = .ok a from hy] at h

theorem imp {refused' : Prop} {result' : α → Prop} (h : Meets x g refused result)
    (hr : refused ↔ refused') (ha : ∀ a, result a → result' a) : Meets x g refused' result' := by
  unfold Meets at h ⊢
  cases hx : (x.run.run g).1 with
  | error r =>
    rw [hx] at h
    exact hr.mp h
  | ok a =>
    rw [hx] at h
    exact ⟨fun h' => h.1 (hr.mpr h'), ha a h.2⟩

theorem refuse {r : Refusal} (h : refused) : Meets (throw r) g refused result := h

theorem refuse_bind {r : Refusal} (h : refused) : Meets (throw r >>= f) g refused result' := h

theorem yield {a : α} (h : ¬ refused) (ha : result a) : Meets (pure a) g refused result := ⟨h, ha⟩

theorem bind {refused' : Prop} (hx : Meets x g refused' result) (hr : refused' → refused)
    (hf : ∀ a g', ¬ refused' → result a → Meets (f a) g' refused result') :
    Meets (x >>= f) g refused result' := by
  unfold Meets at hx ⊢
  rcases h : x.run.run g with ⟨r | a, g'⟩
  · rw [h] at hx
    rw [run_bind_of_error h]
    exact hr hx
  · rw [h] at hx
    rw [run_bind_of_ok h]
    exact hf a g' hx.1 hx.2

theorem draw {d : Draw α} (hf : Meets (f (d.run g).1) (d.run g).2 refused result') :
    Meets (liftM d >>= f) g refused result' :=
  hf

theorem ite {c : Prop} [Decidable c] {y : Mutating α} (hy : c → Meets y g refused result)
    (hx : ¬ c → Meets x g refused result) : Meets (if c then y else x) g refused result := by
  by_cases h : c
  · rw [if_pos h]
    exact hy h
  · rw [if_neg h]
    exact hx h

end Meets

theorem meets_choose (refusal : Refusal) (items : List α) (g : Generator) :
    Meets (choose refusal items) g (items = []) (· ∈ items) := by
  cases items with
  | nil => exact .refuse rfl
  | cons first rest =>
    refine ⟨List.cons_ne_nil _ _, ?_⟩
    change (first :: rest).getD ((below (rest.length + 1)).run g).1 first ∈ first :: rest
    rw [List.getD_eq_getElem?_getD]
    cases hi : (first :: rest)[((below (rest.length + 1)).run g).1]? with
    | none => exact List.mem_cons_self
    | some b => exact List.mem_of_getElem? hi

/-- A position as it was asked for, or one below a bound. -/
def Placed (place? : Option Int) (bound : Nat) (position : Int) : Prop :=
  place? = some position ∨ place? = none ∧ 0 ≤ position ∧ position < bound

theorem placed_positionOr (place? : Option Int) {bound : Nat} (hb : place? = none → 0 < bound)
    (g : Generator) : Placed place? bound ((positionOr place? bound).run g).1 := by
  cases place? with
  | some p => exact .inl rfl
  | none =>
    have hlt := below_lt bound (hb rfl) g
    have hp : ((positionOr none bound).run g).1 = (((below bound).run g).1 : Nat) := rfl
    rw [hp]
    exact .inr ⟨rfl, by omega, by omega⟩

def AsAsked (place? : Option Int) (place : Nat) : Prop := ∀ p ∈ place?, (place : Int) = p

def Outside (place? : Option Int) (last : Int) : Prop := ∃ p ∈ place?, p < 0 ∨ last < p

namespace Placed

variable {place? : Option Int} {bound : Nat} {position : Int} (h : Placed place? bound position)
include h

theorem outside_iff (last : Int) (hl : place? = none → (bound : Int) = last + 1) :
    Outside place? last ↔ position < 0 ∨ last < position := by
  unfold Outside
  rcases h with rfl | ⟨rfl, h₀, h₁⟩
  · simp
  · have hb := hl rfl
    simp only [Option.not_mem_none, false_and, exists_false, false_iff]
    omega

theorem asAsked (h₀ : 0 ≤ position) : AsAsked place? position.toNat := by
  rintro p hp
  rcases h with rfl | ⟨rfl, -, -⟩
  · obtain rfl := Option.mem_some.mp hp
    exact Int.toNat_of_nonneg h₀
  · cases hp

end Placed

end Triplet.Mutation
