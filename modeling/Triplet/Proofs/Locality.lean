import Triplet.Proofs.FlatMachine

/-! # Locality of instructions

The effect of every instruction is put together from a few elementary actions on the stack, the
pens and the surface. The rest of a machine, which keeps account of its run, plays no part in them
and is left as it was.
-/

namespace Triplet.Machine

variable {σ α β : Type}

/-- Computations that are put together from elementary actions. -/
inductive Elementary [Surface σ] : {α : Type} → Exec σ α → Prop where
  | pure {α : Type} (x : α) : Elementary (pure x)
  | bind {α β : Type} {a : Exec σ α} {next : α → Exec σ β} : Elementary a →
      (∀ x, Elementary (next x)) → Elementary (a >>= next)
  | attempt {α : Type} (r : Except Fault α) : Elementary (attempt r)
  | pop : Elementary pop
  | push (v : Value) : Elementary (push v)
  | draw (call : Call) : Elementary (draw call)
  /-- Go on with the present pen and the saved pens. -/
  | pens {α : Type} {next : Pen → List Pen → Exec σ α} :
      (∀ pen saved, Elementary (next pen saved)) →
      Elementary (do next (← get).now.pen (← get).now.saved)
  | setPens (g : Pen → List Pen → Pen × List Pen) :
      Elementary (modifyNow fun s =>
        { s with pen := (g s.pen s.saved).1, saved := (g s.pen s.saved).2 })

namespace Elementary

variable [Surface σ]

theorem movePen (f : Placement → Except Fault Placement) :
    Elementary (movePen f : Exec σ Unit) := by
  refine @pens σ _ Unit (fun pen _ => do
    let p ← Machine.attempt (f pen.placement)
    modifyNow fun s => { s with pen := { s.pen with placement := p } }) fun pen saved => ?_
  exact bind (attempt _) fun p => setPens fun pen saved => ({ pen with placement := p }, saved)

def restoreFrom : List Pen → Exec σ Unit
  | [] => Pure.pure ()
  | pen :: rest => do
    modifyNow fun s => { s with pen, saved := rest }
    Machine.draw (.setPosition pen.placement.x pen.placement.y)
    Machine.draw (.setRotation pen.placement.rotation)
    Machine.draw (.setScale pen.placement.scale)
    Machine.draw (.setColor pen.color.h pen.color.s pen.color.l)

theorem stepRestore : Elementary (stepRestore : Exec σ Unit) := by
  refine @pens σ _ Unit (fun _ saved => restoreFrom saved) fun _ saved => ?_
  cases saved with
  | nil => exact pure ()
  | cons pen rest =>
    refine bind (setPens fun _ _ => (pen, rest)) fun _ => bind (draw _) fun _ => ?_
    exact bind (draw _) fun _ => bind (draw _) fun _ => draw _

theorem step (op : Opcode) (operand : Value) : Elementary (step op operand : Exec σ Unit) := by
  have hs (shape : Value → Call) : Elementary (stepShape shape : Exec σ Unit) :=
    bind pop fun _ => draw _
  have hp (shape : Value → Value → Call) : Elementary (stepShapePair shape : Exec σ Unit) :=
    bind pop fun _ => bind pop fun _ => draw _
  have hb (op : Opcode) : Elementary (stepBinary op : Exec σ Unit) :=
    bind pop fun _ => bind pop fun _ => bind (attempt _) fun _ => push _
  cases op with
  | start | nop | stop | loop => exact pure ()
  | push => exact push operand
  | dup => exact bind pop fun _ => bind (push _) fun _ => push _
  | pop => exact bind pop fun _ => pure ()
  | swap => exact bind pop fun _ => bind pop fun _ => bind (push _) fun _ => push _
  | add | sub | mul | div | eq | lt => exact hb _
  | circle | line | triangle => exact hs _
  | rect | ellipse => exact hp _
  | translate => exact bind pop fun _ => bind pop fun _ => bind (movePen _) fun _ => draw _
  | rotate | scale => exact bind pop fun _ => bind (movePen _) fun _ => draw _
  | color =>
    refine bind pop fun l => bind pop fun s => bind pop fun h => bind ?_ fun _ => draw _
    exact setPens fun pen saved => ({ pen with color := ⟨h, s, l⟩ }, saved)
  | save => exact setPens fun pen saved => (pen, pen :: saved)
  | restore => exact stepRestore

theorem loopSpan (left : Nat) : Elementary (loopSpan left : Exec σ (Nat × Nat)) :=
  bind pop fun _ => bind (attempt _) fun _ => bind pop fun _ => bind (attempt _) fun _ => pure _

theorem effect (f : Frame) (i : Instruction) (op : Opcode) :
    Elementary (f.effect i op : Exec σ (Option (List Frame))) := by
  by_cases hs : op = .stop
  · subst hs
    exact pure none
  by_cases hl : op = .loop
  · subst hl
    exact bind (loopSpan _) fun _ => pure _
  · rw [f.effect_other i hs hl]
    exact bind (step op _) fun _ => pure _

end Elementary

/-- The second machine with the count, the budget and the trace of the first. -/
def graft (o m : Machine σ) : Machine σ :=
  { o with
    surface := m.surface
    now := { o.now with pen := m.now.pen, stack := m.now.stack, saved := m.now.saved } }

def onMachine (h : Machine σ → Machine σ) :
    EStateM.Result Stop (Machine σ) α → EStateM.Result Stop (Machine σ) α
  | .ok a m => .ok a (h m)
  | .error e m => .error e (h m)

def IsHalt : EStateM.Result Stop (Machine σ) α → Prop
  | .error .halt _ => True
  | _ => False

def lastState {ε τ : Type} : EStateM.Result ε τ α → τ
  | .ok _ s => s
  | .error _ s => s

namespace Elementary

variable [Surface σ]

/-- The account of a run plays no part in elementary actions. -/
theorem run_graft {a : Exec σ α} (h : Elementary a) (o m : Machine σ) :
    a.run (graft o m) = onMachine (graft o) (a.run m) := by
  induction h generalizing m with
  | pure | push | setPens => rfl
  | @bind _ _ a next _ _ ih ih' =>
    rw [EStateM.run_bind, EStateM.run_bind, ih]
    cases a.run m with
    | ok x m' => exact ih' x m'
    | error e m' => rfl
  | attempt r => cases r <;> rfl
  | pop =>
    simp only [EStateM.run, Machine.pop, graft]
    cases hs : m.now.stack <;> simp [onMachine, graft, hs]
  | draw call =>
    simp only [EStateM.run, Machine.draw, graft]
    cases Surface.perform call m.surface <;> rfl
  | pens _ ih => exact ih m.now.pen m.now.saved m

theorem run_account {a : Exec σ α} (ha : Elementary a) {h : Machine σ → Machine σ}
    (hg : ∀ o m, h (graft o m) = graft (h o) m) (m : Machine σ) :
    a.run (h m) = onMachine h (a.run m) := by
  have hm : a.run (h m) = onMachine (graft (h m)) (a.run m) := by
    rw [← ha.run_graft, ← hg m m]
    rfl
  have hs : a.run m = onMachine (graft m) (a.run m) := ha.run_graft m m
  rw [hm]
  cases hr : a.run m with
  | ok x m' =>
    rw [hr] at hs
    have he : m' = graft m m' := (EStateM.Result.ok.inj hs).2
    rw [onMachine, onMachine, ← hg m m', ← he]
  | error e m' =>
    rw [hr] at hs
    have he : m' = graft m m' := (EStateM.Result.error.inj hs).2
    rw [onMachine, onMachine, ← hg m m', ← he]

theorem not_halt {a : Exec σ α} (h : Elementary a) (m : Machine σ) : ¬ IsHalt (a.run m) := by
  induction h generalizing m with
  | pure | push | setPens => exact fun h => h
  | @bind _ _ a next _ _ ih ih' =>
    have h := ih m
    rw [EStateM.run_bind]
    cases hr : a.run m with
    | ok x m' => exact ih' x m'
    | error e m' =>
      rw [hr] at h
      cases e <;> exact h
  | attempt r => cases r <;> exact fun h => h
  | pop =>
    simp only [EStateM.run, Machine.pop]
    cases m.now.stack <;> exact fun h => h
  | draw call =>
    simp only [EStateM.run, Machine.draw]
    cases Surface.perform call m.surface <;> exact fun h => h
  | pens _ ih => exact ih m.now.pen m.now.saved m

/-- What every drawing call keeps of a surface is kept by all elementary actions. -/
theorem surface_rel {R : σ → σ → Prop} (refl : ∀ s, R s s)
    (trans : ∀ s t u, R s t → R t u → R s u)
    (perform : ∀ call s, R s (lastState (Surface.perform call s))) {a : Exec σ α}
    (h : Elementary a) (m : Machine σ) : R m.surface (lastState (a.run m)).surface := by
  induction h generalizing m with
  | pure | push | setPens => exact refl _
  | @bind _ _ a next _ _ ih ih' =>
    have h := ih m
    rw [EStateM.run_bind]
    cases hr : a.run m with
    | ok x m' =>
      rw [hr] at h
      exact trans _ _ _ h (ih' x m')
    | error e m' =>
      rw [hr] at h
      exact h
  | attempt r => cases r <;> exact refl _
  | pop =>
    simp only [EStateM.run, Machine.pop]
    cases m.now.stack <;> exact refl _
  | draw call =>
    have h := perform call m.surface
    simp only [EStateM.run, Machine.draw]
    cases hr : Surface.perform call m.surface <;> rw [hr] at h <;> exact h
  | pens _ ih => exact ih m.now.pen m.now.saved m

end Elementary

end Triplet.Machine
