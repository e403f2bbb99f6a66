import Triplet.Proofs.SmallStep

/-! # Effects of instructions

An executed instruction changes the pens by the state before it alone, and then makes some calls,
which that state fixes too. What becomes of the surface is left to the calls.
-/

namespace Triplet

/-- The value that an instruction takes from a depth of the stack; below its bottom are zeros. -/
def Snapshot.operand (s : Snapshot) (depth : Nat) : Value :=
  match s.stack[depth]? with
  | some v => v.sanitize
  | none => .int 0

def Opcode.movesPen : Opcode → Bool
  | translate | rotate | scale | color | save | restore => true
  | _ => false

namespace Machine

inductive PenEffect (s : Snapshot) : Opcode → Pen → List Pen → Prop where
  | translate {x y : Value} : s.pen.placement.x.add (s.operand 1) = .ok x →
      s.pen.placement.y.add (s.operand 0) = .ok y →
      PenEffect s .translate
        ⟨{ s.pen.placement with x := x.sanitize, y := y.sanitize }, s.pen.color⟩ s.saved
  | rotate {rotation : Value} : s.pen.placement.rotation.add (s.operand 0) = .ok rotation →
      PenEffect s .rotate
        ⟨{ s.pen.placement with rotation := rotation.sanitize }, s.pen.color⟩ s.saved
  | scale {scale : Value} : rescale s.pen.placement.scale (s.operand 0) = .ok scale →
      PenEffect s .scale ⟨{ s.pen.placement with scale }, s.pen.color⟩ s.saved
  | color :
      PenEffect s .color ⟨s.pen.placement, ⟨s.operand 2, s.operand 1, s.operand 0⟩⟩ s.saved
  | save : PenEffect s .save s.pen (s.pen :: s.saved)
  | restore {pen : Pen} {rest : List Pen} : s.saved = pen :: rest → PenEffect s .restore pen rest
  | restoreNone : s.saved = [] → PenEffect s .restore s.pen s.saved
  | still {op : Opcode} : op.movesPen = false → PenEffect s op s.pen s.saved

def restoringCalls (pen : Pen) : List Call :=
  [.setPosition pen.placement.x pen.placement.y, .setRotation pen.placement.rotation,
    .setScale pen.placement.scale, .setColor pen.color.h pen.color.s pen.color.l]

def callsOf (s : Snapshot) : Opcode → List Call
  | .circle => [.circle (s.operand 0)]
  | .line => [.line (s.operand 0)]
  | .triangle => [.triangle (s.operand 0)]
  | .rect => [.rect (s.operand 1) (s.operand 0)]
  | .ellipse => [.ellipse (s.operand 1) (s.operand 0)]
  | .translate => [.translate (s.operand 1) (s.operand 0)]
  | .rotate => [.rotate (s.operand 0)]
  | .scale => [.scale (s.operand 0)]
  | .color => [.setColor (s.operand 2) (s.operand 1) (s.operand 0)]
  | .restore => (s.saved.take 1).flatMap restoringCalls
  | _ => []

variable {σ α β : Type}

def popped (m : Machine σ) : Machine σ := { m with now := { m.now with stack := m.now.stack.tail } }

theorem run_pop (m : Machine σ) :
    (pop : Exec σ Value).run m = .ok (m.now.operand 0) m.popped := by
  obtain ⟨surface, budget, ⟨pen, stack, saved, pointer, count, last?, seed⟩, truncated, trace⟩ := m
  cases stack <;> rfl

theorem run_pop_bind (next : Value → Exec σ α) (m : Machine σ) :
    (pop >>= next).run m = (next (m.now.operand 0)).run m.popped := by
  rw [EStateM.run_bind, run_pop]

theorem operand_popped (m : Machine σ) (depth : Nat) :
    m.popped.now.operand depth = m.now.operand (depth + 1) := by
  simp [Snapshot.operand, popped, List.getElem?_tail]

def pushed (m : Machine σ) (v : Value) : Machine σ :=
  { m with now := { m.now with stack := v :: m.now.stack } }

theorem run_bind_eq_ok {a : Exec σ α} {next : α → Exec σ β} {m m' : Machine σ} {y : β}
    (h : (a >>= next).run m = .ok y m') :
    ∃ x m₁, a.run m = .ok x m₁ ∧ (next x).run m₁ = .ok y m' := by
  rw [EStateM.run_bind] at h
  cases hr : a.run m with
  | ok x m₁ =>
    rw [hr] at h
    exact ⟨x, m₁, rfl, h⟩
  | error e m₁ =>
    rw [hr] at h
    cases h

theorem run_attempt_eq_ok {r : Except Fault α} {m m' : Machine σ} {x : α}
    (h : (attempt r).run m = .ok x m') : r = .ok x ∧ m' = m := by
  cases r with
  | ok y =>
    cases h
    exact ⟨rfl, rfl⟩
  | error e => cases h

theorem run_movePen_eq_ok {f : Placement → Except Fault Placement} {m m' : Machine σ} {u : Unit}
    (h : (movePen f).run m = .ok u m') :
    ∃ p, f m.now.pen.placement = .ok p ∧
      m' = { m with now := { m.now with pen := { m.now.pen with placement := p } } } := by
  rw [movePen, EStateM.run_bind, EStateM.run_get] at h
  obtain ⟨p, m₁, ha, hm⟩ := run_bind_eq_ok h
  obtain ⟨hp, rfl⟩ := run_attempt_eq_ok ha
  exact ⟨p, hp, (EStateM.Result.ok.inj hm).2.symm⟩

theorem bind_eq_ok {x : Except Fault α} {f : α → Except Fault β} {b : β} (h : x >>= f = .ok b) :
    ∃ a, x = .ok a ∧ f a = .ok b := by
  cases x with
  | ok a => exact ⟨a, rfl, h⟩
  | error e => cases h

variable [Surface σ]

theorem run_push_bind {v : Value} (hv : v.sanitize = v) (next : Exec σ α) (m : Machine σ) :
    (do step .push v; record; next).run m = next.run (m.pushed v).recorded := by
  change next.run (m.pushed v.sanitize).recorded = _
  rw [hv]

def performAll : List Call → EStateM Fault σ Unit
  | [] => pure ()
  | call :: calls => do
    Surface.perform call
    performAll calls

/-- What every call that succeeds keeps, some calls keep one after another. -/
theorem performAll_induct {P : List Call → σ → σ → Prop} (nil : ∀ s, P [] s s)
    (cons : ∀ {call calls s s₁ s'}, (Surface.perform call).run s = .ok () s₁ → P calls s₁ s' →
      P (call :: calls) s s')
    {calls : List Call} {s s' : σ} {u : Unit} (h : (performAll calls).run s = .ok u s') :
    P calls s s' := by
  induction calls generalizing s with
  | nil =>
    cases h
    exact nil _
  | cons call calls ih =>
    rw [performAll, EStateM.run_bind] at h
    cases hr : (Surface.perform call).run s with
    | ok _ s₁ =>
      rw [hr] at h
      exact cons hr (ih h)
    | error e s₁ =>
      rw [hr] at h
      cases h

theorem run_draw_eq_ok {call : Call} {m m' : Machine σ} {u : Unit}
    (h : (draw call).run m = .ok u m') :
    ∃ s, (Surface.perform call).run m.surface = .ok () s ∧ m' = { m with surface := s } := by
  simp only [EStateM.run, draw] at h ⊢
  cases hr : Surface.perform call m.surface with
  | ok u s =>
    rw [hr] at h
    cases h
    exact ⟨s, rfl, rfl⟩
  | error e s =>
    rw [hr] at h
    cases h

theorem run_draw_bind_eq_ok {call : Call} {next : Exec σ α} {m m' : Machine σ} {x : α}
    (h : (do draw call; next).run m = .ok x m') :
    ∃ s, (Surface.perform call).run m.surface = .ok () s ∧
      next.run { m with surface := s } = .ok x m' := by
  obtain ⟨_, m₁, hd, hn⟩ := run_bind_eq_ok h
  obtain ⟨s, hs, rfl⟩ := run_draw_eq_ok hd
  exact ⟨s, hs, hn⟩

theorem performAll_of_draw {call : Call} {m m' : Machine σ} {u : Unit}
    (h : (draw call).run m = .ok u m') :
    m'.now = m.now ∧ (performAll [call]).run m.surface = .ok () m'.surface := by
  obtain ⟨s, hs, rfl⟩ := run_draw_eq_ok h
  refine ⟨rfl, ?_⟩
  rw [performAll, EStateM.run_bind, hs]
  rfl

/-- What an instruction does where it does not fail. -/
structure Does (op : Opcode) (m m' : Machine σ) : Prop where
  pens : PenEffect m.now op m'.now.pen m'.now.saved
  calls : (performAll (callsOf m.now op)).run m.surface = .ok () m'.surface

theorem does_still {op : Opcode} {m m' : Machine σ} (ho : op.movesPen = false)
    (hc : callsOf m.now op = []) (hp : m'.now.pen = m.now.pen) (hs : m'.now.saved = m.now.saved)
    (hf : m'.surface = m.surface) : Does op m m' := by
  refine ⟨?_, ?_⟩
  · rw [hp, hs]
    exact .still ho
  · rw [hc, hf]
    rfl

theorem does_of_draw {op : Opcode} {call : Call} {m m₁ m' : Machine σ} {u : Unit}
    (h : (draw call).run m₁ = .ok u m') (hc : callsOf m.now op = [call])
    (hf : m₁.surface = m.surface) (hp : PenEffect m.now op m₁.now.pen m₁.now.saved) :
    Does op m m' := by
  obtain ⟨hn, hs⟩ := performAll_of_draw h
  refine ⟨?_, ?_⟩
  · rw [hn]
    exact hp
  · rw [hc, ← hf]
    exact hs

theorem does_of_movePen {op : Opcode} {f : Placement → Except Fault Placement} {call : Call}
    {m m₁ m' : Machine σ} {u : Unit} (h : (do movePen f; draw call).run m₁ = .ok u m')
    (hc : callsOf m.now op = [call]) (hf : m₁.surface = m.surface)
    (hp : ∀ p, f m₁.now.pen.placement = .ok p →
      PenEffect m.now op { m₁.now.pen with placement := p } m₁.now.saved) : Does op m m' := by
  obtain ⟨_, m₂, hm, h⟩ := run_bind_eq_ok h
  obtain ⟨p, he, rfl⟩ := run_movePen_eq_ok hm
  exact does_of_draw h hc hf (hp p he)

theorem does_shape {op : Opcode} {shape : Value → Call} {m m' : Machine σ} {u : Unit}
    (ho : op.movesPen = false) (hc : callsOf m.now op = [shape (m.now.operand 0)])
    (h : (stepShape shape).run m = .ok u m') : Does op m m' := by
  rw [stepShape, run_pop_bind] at h
  exact does_of_draw h hc rfl (.still ho)

theorem does_shapePair {op : Opcode} {shape : Value → Value → Call} {m m' : Machine σ} {u : Unit}
    (ho : op.movesPen = false)
    (hc : callsOf m.now op = [shape (m.now.operand 1) (m.now.operand 0)])
    (h : (stepShapePair shape).run m = .ok u m') : Does op m m' := by
  rw [stepShapePair, run_pop_bind, run_pop_bind, operand_popped] at h
  exact does_of_draw h hc rfl (.still ho)

theorem does_translate {m m' : Machine σ} {u : Unit} (h : stepTranslate.run m = .ok u m') :
    Does .translate m m' := by
  rw [stepTranslate, run_pop_bind, run_pop_bind, operand_popped] at h
  refine does_of_movePen h rfl rfl fun p hp => ?_
  obtain ⟨x, hx, hp⟩ := bind_eq_ok hp
  obtain ⟨y, hy, hp⟩ := bind_eq_ok hp
  cases hp
  exact .translate hx hy

theorem does_rotate {m m' : Machine σ} {u : Unit} (h : stepRotate.run m = .ok u m') :
    Does .rotate m m' := by
  rw [stepRotate, run_pop_bind] at h
  refine does_of_movePen h rfl rfl fun p hp => ?_
  obtain ⟨rotation, hr, hp⟩ := bind_eq_ok hp
  cases hp
  exact .rotate hr

theorem does_scale {m m' : Machine σ} {u : Unit} (h : stepScale.run m = .ok u m') :
    Does .scale m m' := by
  rw [stepScale, run_pop_bind] at h
  refine does_of_movePen h rfl rfl fun p hp => ?_
  obtain ⟨scale, hs, hp⟩ := bind_eq_ok hp
  cases hp
  exact .scale hs

theorem does_color {m m' : Machine σ} {u : Unit} (h : stepColor.run m = .ok u m') :
    Does .color m m' := by
  rw [stepColor, run_pop_bind, run_pop_bind, run_pop_bind, operand_popped, operand_popped,
    operand_popped] at h
  obtain ⟨_, m₁, hm, h⟩ := run_bind_eq_ok h
  cases hm
  exact does_of_draw h rfl rfl .color

theorem does_restore {m m' : Machine σ} {u : Unit} (h : stepRestore.run m = .ok u m') :
    Does .restore m m' := by
  have hr : stepRestore.run m = (Elementary.restoreFrom m.now.saved : Exec σ Unit).run m := rfl
  rw [hr] at h
  cases hs : m.now.saved with
  | nil =>
    rw [hs] at h
    cases h
    exact ⟨.restoreNone hs, by rw [callsOf, hs]; rfl⟩
  | cons pen rest =>
    rw [hs] at h
    obtain ⟨_, m₁, hm, h⟩ := run_bind_eq_ok h
    cases hm
    obtain ⟨s₁, h₁, h⟩ := run_draw_bind_eq_ok h
    obtain ⟨s₂, h₂, h⟩ := run_draw_bind_eq_ok h
    obtain ⟨s₃, h₃, h⟩ := run_draw_bind_eq_ok h
    obtain ⟨s₄, h₄, rfl⟩ := run_draw_eq_ok h
    refine ⟨.restore hs, ?_⟩
    have hc : callsOf m.now .restore = restoringCalls pen := by simp [callsOf, hs]
    rw [hc, restoringCalls]
    simp only [performAll, EStateM.run_bind, h₁, h₂, h₃, h₄]
    rfl

theorem does_step {op : Opcode} {operand : Value} {m m' : Machine σ} {u : Unit}
    (h : (step op operand).run m = .ok u m') : Does op m m' := by
  have hb {op : Opcode} (ho : op.movesPen = false) (hc : callsOf m.now op = [])
      (h : (stepBinary op).run m = .ok u m') : Does op m m' := by
    rw [stepBinary, run_pop_bind, run_pop_bind] at h
    obtain ⟨v, m₁, hv, hp⟩ := run_bind_eq_ok h
    obtain ⟨-, rfl⟩ := run_attempt_eq_ok hv
    cases hp
    exact does_still ho hc rfl rfl rfl
  cases op with
  | start | nop | stop | loop | push =>
    cases h
    exact does_still rfl rfl rfl rfl rfl
  | dup | pop =>
    rw [step, run_pop_bind] at h
    cases h
    exact does_still rfl rfl rfl rfl rfl
  | swap =>
    rw [step, run_pop_bind, run_pop_bind] at h
    cases h
    exact does_still rfl rfl rfl rfl rfl
  | add | sub | mul | div | eq | lt => exact hb rfl rfl h
  | circle | line | triangle => exact does_shape rfl rfl h
  | rect | ellipse => exact does_shapePair rfl rfl h
  | translate => exact does_translate h
  | rotate => exact does_rotate h
  | scale => exact does_scale h
  | color => exact does_color h
  | save =>
    cases h
    exact ⟨.save, rfl⟩
  | restore => exact does_restore h

theorem does_effect {f : Frame} {i : Instruction} {op : Opcode} {m m' : Machine σ}
    {frames? : Option (List Frame)} (h : (f.effect i op).run m = .ok frames? m') :
    Does op m m' := by
  by_cases hs : op = .stop
  · subst hs
    cases h
    exact does_still rfl rfl rfl rfl rfl
  by_cases hl : op = .loop
  · subst hl
    obtain ⟨span, m₁, hl, h⟩ := run_bind_eq_ok h
    cases h
    rw [loopSpan, run_pop_bind] at hl
    obtain ⟨count, m₂, hc, hl⟩ := run_bind_eq_ok hl
    obtain ⟨-, rfl⟩ := run_attempt_eq_ok hc
    rw [run_pop_bind] at hl
    obtain ⟨length, m₃, hn, hl⟩ := run_bind_eq_ok hl
    obtain ⟨-, rfl⟩ := run_attempt_eq_ok hn
    cases hl
    exact does_still rfl rfl rfl rfl rfl
  · rw [f.effect_other i hs hl] at h
    obtain ⟨_, m₁, h, hp⟩ := run_bind_eq_ok h
    cases hp
    exact does_step h

end Machine

end Triplet
