import Triplet.Proofs.FiniteStates
import Triplet.Proofs.Turns

/-! # Kinds of values on the stack

If all operands of a program are of a kind that the binary opcodes do not leave, then the stack
holds values of this kind alone, on every surface and up to a failure. The pens play no part in it.
-/

namespace Triplet.Machine

variable {σ α β : Type} {K : Value → Prop} {P : α → Prop} {Q : β → Prop}

def Holds (K : Value → Prop) (m : Machine σ) : Prop := ∀ v ∈ m.now.stack, K v

/-- A computation that leaves values of a kind on the stack, and gives a result with a property. -/
structure Keeps (K : Value → Prop) (P : α → Prop) (a : Exec σ α) : Prop where
  stack : ∀ m, m.Holds K → (lastState (a.run m)).Holds K
  result : ∀ m x m', m.Holds K → a.run m = .ok x m' → P x

theorem keeps_pure {x : α} (h : P x) : Keeps K P (pure x : Exec σ α) where
  stack _ hm := hm
  result _ _ _ _ hr := by
    cases hr
    exact h

theorem Keeps.bind {a : Exec σ α} {next : α → Exec σ β} (h : Keeps K P a)
    (h' : ∀ x, P x → Keeps K Q (next x)) : Keeps K Q (a >>= next) where
  stack m hm := by
    have hs := h.stack m hm
    rw [EStateM.run_bind]
    cases hr : a.run m with
    | ok x m₁ =>
      rw [hr] at hs
      exact (h' x (h.result m x m₁ hm hr)).stack m₁ hs
    | error e m₁ =>
      rw [hr] at hs
      exact hs
  result m y m' hm hr := by
    obtain ⟨x, m₁, hx, hy⟩ := run_bind_eq_ok hr
    have hs := h.stack m hm
    rw [hx] at hs
    exact (h' x (h.result m x m₁ hm hx)).result m₁ y m' hs hy

theorem keeps_attempt (r : Except Fault α) : Keeps K (r = .ok ·) (attempt r : Exec σ α) where
  stack m hm := by cases r <;> exact hm
  result _ _ _ _ hr := (run_attempt_eq_ok hr).1

theorem keeps_pop (hK : Kind K) : Keeps K K (pop : Exec σ Value) where
  stack m hm := by
    rw [run_pop]
    exact fun v hv => hm v (List.mem_of_mem_tail hv)
  result m x m' hm hr := by
    rw [run_pop] at hr
    cases hr
    exact Snapshot.operand_of_stack hK hm 0

theorem keeps_push {v : Value} (hv : K v.sanitize) :
    Keeps K (fun _ => True) (push v : Exec σ Unit) where
  stack _ hm := List.forall_mem_cons.mpr ⟨hv, hm⟩
  result _ _ _ _ _ := trivial

theorem keeps_of_stack {a : Exec σ α} (h : ∀ m, (lastState (a.run m)).now.stack = m.now.stack) :
    Keeps K (fun _ => True) a where
  stack m hm v hv := hm v (h m ▸ hv)
  result _ _ _ _ _ := trivial

theorem keeps_get_bind {next : Machine σ → Exec σ α} (h : ∀ m, Keeps K P (next m)) :
    Keeps K P (get >>= next) where
  stack m := (h m).stack m
  result m := (h m).result m

theorem keeps_movePen (f : Placement → Except Fault Placement) :
    Keeps K (fun _ => True) (movePen f : Exec σ Unit) :=
  keeps_get_bind fun _ => (keeps_attempt _).bind fun _ _ => keeps_of_stack fun _ => rfl

variable [Surface σ]

theorem keeps_draw (call : Call) : Keeps K (fun _ => True) (draw call : Exec σ Unit) := by
  refine keeps_of_stack fun m => ?_
  simp only [EStateM.run, draw]
  cases Surface.perform call m.surface <;> rfl

theorem keeps_stepRestore : Keeps K (fun _ => True) (stepRestore : Exec σ Unit) := by
  refine keeps_get_bind fun m => ?_
  cases m.now.saved with
  | nil => exact keeps_pure trivial
  | cons pen rest =>
    refine (keeps_of_stack fun _ => rfl).bind fun _ _ => (keeps_draw _).bind fun _ _ => ?_
    exact (keeps_draw _).bind fun _ _ => (keeps_draw _).bind fun _ _ => keeps_draw _

theorem keeps_step (hK : Kind K) (op : Opcode) {operand : Value} (ho : K operand.sanitize) :
    Keeps K (fun _ => True) (step op operand : Exec σ Unit) := by
  have hpop : Keeps K K (pop : Exec σ Value) := keeps_pop hK
  have hb (op : Opcode) : Keeps K (fun _ => True) (stepBinary op : Exec σ Unit) :=
    hpop.bind fun b hb => hpop.bind fun a ha => (keeps_attempt _).bind fun s hs =>
      keeps_push (hK.binary ha hb hs)
  cases op with
  | start | nop | stop | loop => exact keeps_pure trivial
  | push => exact keeps_push ho
  | dup =>
    exact hpop.bind fun v hv => (keeps_push (hK.sanitize hv)).bind fun _ _ =>
      keeps_push (hK.sanitize hv)
  | pop => exact hpop.bind fun _ _ => keeps_pure trivial
  | swap =>
    exact hpop.bind fun b hb => hpop.bind fun a ha => (keeps_push (hK.sanitize hb)).bind fun _ _ =>
      keeps_push (hK.sanitize ha)
  | add | sub | mul | div | eq | lt => exact hb _
  | circle | line | triangle => exact hpop.bind fun _ _ => keeps_draw _
  | rect | ellipse => exact hpop.bind fun _ _ => hpop.bind fun _ _ => keeps_draw _
  | translate =>
    exact hpop.bind fun _ _ => hpop.bind fun _ _ => (keeps_movePen _).bind fun _ _ => keeps_draw _
  | rotate | scale => exact hpop.bind fun _ _ => (keeps_movePen _).bind fun _ _ => keeps_draw _
  | color =>
    refine hpop.bind fun _ _ => hpop.bind fun _ _ => hpop.bind fun _ _ => ?_
    exact (keeps_of_stack fun m => rfl).bind fun _ _ => keeps_draw _
  | save => exact keeps_of_stack fun m => rfl
  | restore => exact keeps_stepRestore

theorem keeps_effect (hK : Kind K) (f : Frame) {i : Instruction} (op : Opcode)
    (ho : K i.operand.sanitize) :
    Keeps K (fun _ => True) (f.effect i op : Exec σ (Option (List Frame))) := by
  have hpop : Keeps K K (pop : Exec σ Value) := keeps_pop hK
  by_cases hs : op = .stop
  · subst hs
    exact keeps_pure trivial
  by_cases hl : op = .loop
  · subst hl
    refine Keeps.bind (P := fun _ => True) ?_ fun _ _ => keeps_pure trivial
    refine hpop.bind fun _ _ => (keeps_attempt _).bind fun _ _ => hpop.bind fun _ _ => ?_
    exact (keeps_attempt _).bind fun _ _ => keeps_pure trivial
  · rw [f.effect_other i hs hl]
    exact (keeps_step hK op ho).bind fun _ _ => keeps_pure trivial

/-- The operands of a program are of a kind if those of its tokens are; elsewhere they are zero. -/
theorem Kind.operand_of_mem {tokens : List Token} (hK : Kind K)
    (h : ∀ t ∈ tokens, ∀ v, t.operand? = some v → K v.sanitize) {i : Instruction}
    (hi : i ∈ Program.entry (Program.assemble tokens)) : K i.operand.sanitize := by
  rcases Program.operand_of_mem (Program.entry_subset _ hi) with hz | ⟨t, ht, hv⟩
  · rw [hz]
    exact hK.sanitize hK.zero
  · exact h t ht _ hv

namespace Flat

variable {c d : Flat σ}

theorem Moves.holds (hK : Kind K) (hm : Moves c d) (hw : Within (K ·.operand.sanitize) c)
    (h : c.machine.Holds K) : d.machine.Holds K := by
  have key {f : Frame} {i : Instruction} {op : Opcode}
      {r : EStateM.Result Stop (Machine σ) (Option (List Frame))}
      (hi : upcoming c.frames = some i)
      (hr : (f.effect i op).run (c.machine.counted i.pointer op) = r) :
      (lastState r).Holds K := by
    rw [← hr]
    exact (keeps_effect hK f op (hw.upcoming hi)).stack _ h
  cases hm with
  | control | truncated => exact h
  | executed _ hi _ _ he | stopped _ hi _ _ he | failed _ hi _ _ he => exact key hi he

variable {tokens : List Token} {m : Machine σ} {n : Nat}

theorem Executed.holds (h : ∀ t ∈ tokens, ∀ v, t.operand? = some v → K v.sanitize) (hK : Kind K)
    (he : Executed tokens m n c) : c.machine.Holds K := by
  have hw : Within (K ·.operand.sanitize) c ∧ c.machine.Holds K := by
    refine he.reached.keeps (P := fun c => Within _ c ∧ c.machine.Holds K) ?_ ⟨?_, ?_⟩
    · rintro c ⟨hw, hc⟩
      exact ⟨hw.moves (moves_advance c), (moves_advance c).holds hK hw hc⟩
    · intro f hf i hi
      obtain rfl := List.mem_singleton.mp hf
      exact hK.operand_of_mem h hi
    · exact fun _ hv => (List.not_mem_nil hv).elim
  exact hw.2

end Flat

end Triplet.Machine
