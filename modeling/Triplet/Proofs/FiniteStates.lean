import Triplet.Proofs.Doubles
import Triplet.Proofs.Effects

/-! # Finite states

Every number that is pushed or popped is finite, or becomes zero. On such numbers no instruction
fails by itself: it leaves the stack and the pens finite, and it fails exactly if one of its calls
on the surface does.
-/

namespace Triplet

namespace Number

theorem toDouble_of_isFinite {n : Number} (h : n.isFinite = true) : ∃ x, n.toDouble = .ok x := by
  cases n with
  | int n => exact ⟨nearestDouble n, if_pos h⟩
  | real x => exact ⟨x, rfl⟩

theorem combine_of_toDouble (onInt : Int → Int → Int) (onReal : Float → Float → Float)
    {a b : Number} (ha : ∃ x, a.toDouble = .ok x) (hb : ∃ y, b.toDouble = .ok y) :
    ∃ s, combine onInt onReal a b = .ok s := by
  obtain ⟨x, hx⟩ := ha
  obtain ⟨y, hy⟩ := hb
  have hr : ∃ s : Number,
      (do return real (onReal (← a.toDouble) (← b.toDouble)) : Except Fault Number) = .ok s :=
    ⟨real (onReal x y), by rw [hx, hy]; rfl⟩
  cases a with
  | int a =>
    cases b with
    | int b => exact ⟨int (onInt a b), rfl⟩
    | real b => exact hr
  | real a => exact hr

end Number

namespace Value

def IsNumber (v : Value) : Prop := ∃ n, v = number n

instance : (v : Value) → Decidable v.IsNumber
  | number n => .isTrue ⟨n, rfl⟩
  | missing | truth _ | text _ => .isFalse nofun

def IsFinite (v : Value) : Prop := ∃ n, v = number n ∧ n.isFinite = true

variable {v w : Value}

theorem IsFinite.isNumber (h : IsFinite v) : IsNumber v := by
  obtain ⟨n, rfl, -⟩ := h
  exact ⟨n, rfl⟩

theorem IsFinite.sanitize_eq (h : IsFinite v) : v.sanitize = v := by
  obtain ⟨n, rfl, hn⟩ := h
  exact if_pos hn

theorem isFinite_zero : IsFinite (int 0) := ⟨.int 0, rfl, by decide +kernel⟩

theorem IsNumber.isFinite_sanitize (h : IsNumber v) : IsFinite v.sanitize := by
  obtain ⟨n, rfl⟩ := h
  rw [sanitize]
  split
  · rename_i hn
    exact ⟨n, rfl, hn⟩
  · exact isFinite_zero

theorem IsFinite.combine (onInt : Int → Int → Int) (onReal : Float → Float → Float)
    {op : Value → Value → Except Fault Value}
    (hop : ∀ a b, op (number a) (number b) = do return number (← Number.combine onInt onReal a b))
    (hv : IsFinite v) (hw : IsFinite w) : ∃ s, op v w = .ok s ∧ IsNumber s := by
  obtain ⟨a, rfl, ha⟩ := hv
  obtain ⟨b, rfl, hb⟩ := hw
  obtain ⟨s, hs⟩ := Number.combine_of_toDouble onInt onReal (Number.toDouble_of_isFinite ha)
    (Number.toDouble_of_isFinite hb)
  have hr : op (number a) (number b) = .ok (number s) := by
    rw [hop, hs]
    rfl
  exact ⟨number s, hr, s, rfl⟩

theorem IsFinite.add (hv : IsFinite v) (hw : IsFinite w) : ∃ s, v.add w = .ok s ∧ IsNumber s :=
  combine (· + ·) (· + ·) (fun _ _ => rfl) hv hw

theorem IsFinite.sub (hv : IsFinite v) (hw : IsFinite w) : ∃ s, v.sub w = .ok s ∧ IsNumber s :=
  combine (· - ·) (· - ·) (fun _ _ => rfl) hv hw

theorem IsFinite.mul (hv : IsFinite v) (hw : IsFinite w) : ∃ s, v.mul w = .ok s ∧ IsNumber s :=
  combine (· * ·) (· * ·) (fun _ _ => rfl) hv hw

theorem IsFinite.floorDiv (hv : IsFinite v) (hw : IsFinite w) (hz : w.equal (int 0) = false) :
    ∃ s, v.floorDiv w = .ok s ∧ IsNumber s := by
  obtain ⟨a, rfl, ha⟩ := hv
  obtain ⟨b, rfl, hb⟩ := hw
  have hn : b.isZero = false := by
    by_contra hn
    exact Bool.false_ne_true (hz.symm.trans (Number.equal_zero_of_isZero (by simpa using hn)))
  obtain ⟨s, hs⟩ := Number.combine_of_toDouble Int.fdiv flooredDiv (Number.toDouble_of_isFinite ha)
    (Number.toDouble_of_isFinite hb)
  have hr : (number a).floorDiv (number b) = .ok (number s) := by
    simp only [Value.floorDiv, toNumber, bind, Except.bind, Number.floorDiv, hn, hs]
    rfl
  exact ⟨number s, hr, s, rfl⟩

theorem IsFinite.truncate (h : IsFinite v) : ∃ n, v.truncate = .ok n := by
  obtain ⟨n, rfl, hn⟩ := h
  exact Number.truncate_of_isFinite hn

theorem IsFinite.atLeast (h : IsFinite v) : ∃ s, v.atLeast leastScale = .ok s ∧ IsFinite s := by
  obtain ⟨n, rfl, hn⟩ := h
  refine ⟨if n.less (.real leastScale) then real leastScale else number n, rfl, ?_⟩
  split
  · exact ⟨.real leastScale, rfl, by decide +kernel⟩
  · exact ⟨n, rfl, hn⟩

theorem IsFinite.rescale (hv : IsFinite v) (hw : IsFinite w) :
    ∃ s, rescale v w = .ok s ∧ IsFinite s := by
  obtain ⟨p, hp, hn⟩ := hv.mul hw
  rw [Triplet.rescale, hp]
  exact hn.isFinite_sanitize.atLeast

end Value

namespace Machine

theorem binary_of_isFinite (op : Opcode) {v w : Value} (hv : v.IsFinite) (hw : w.IsFinite) :
    ∃ s, binary op v w = .ok s ∧ s.IsNumber := by
  have hl : ∃ s, (v.less w).map ofTruth = .ok s ∧ s.IsNumber := by
    obtain ⟨a, rfl, -⟩ := hv
    obtain ⟨b, rfl, -⟩ := hw
    exact ⟨ofTruth (a.less b), rfl, _, rfl⟩
  cases op with
  | add => exact hv.add hw
  | sub => exact hv.sub hw
  | mul => exact hv.mul hw
  | div =>
    rw [binary]
    split
    · exact ⟨.int 0, rfl, _, rfl⟩
    · rename_i hz
      exact hv.floorDiv hw (Bool.eq_false_iff.mpr hz)
  | eq => exact ⟨ofTruth (v.equal w), rfl, _, rfl⟩
  | _ => exact hl

/-- A kind of finite values that the binary opcodes do not leave. -/
structure Kind (K : Value → Prop) : Prop where
  zero : K (.int 0)
  isFinite : ∀ {v}, K v → v.IsFinite
  binary : ∀ {op a b s}, K a → K b → binary op a b = .ok s → K s.sanitize

theorem Kind.sanitize {K : Value → Prop} (hK : Kind K) {v : Value} (h : K v) : K v.sanitize := by
  rwa [(hK.isFinite h).sanitize_eq]

theorem kind_isFinite : Kind Value.IsFinite where
  zero := Value.isFinite_zero
  isFinite h := h
  binary {op a b s} ha hb h := by
    obtain ⟨s', hs, hn⟩ := binary_of_isFinite op ha hb
    obtain rfl : s' = s := Except.ok.inj (hs.symm.trans h)
    exact hn.isFinite_sanitize

end Machine

structure Pen.IsFinite (pen : Pen) : Prop where
  x : pen.placement.x.IsFinite
  y : pen.placement.y.IsFinite
  rotation : pen.placement.rotation.IsFinite
  scale : pen.placement.scale.IsFinite
  h : pen.color.h.IsFinite
  s : pen.color.s.IsFinite
  l : pen.color.l.IsFinite

namespace Snapshot

open Machine (Kind)

structure Numeric (K : Value → Prop) (s : Snapshot) : Prop where
  stack : ∀ v ∈ s.stack, K v
  pen : s.pen.IsFinite
  saved : ∀ pen ∈ s.saved, pen.IsFinite

variable {K : Value → Prop} {s : Snapshot}

theorem operand_of_stack (hK : Kind K) (h : ∀ v ∈ s.stack, K v) (depth : Nat) :
    K (s.operand depth) := by
  rw [Snapshot.operand]
  split
  · rename_i v hv
    exact hK.sanitize (h v (List.mem_of_getElem? hv))
  · exact hK.zero

theorem Numeric.operand (h : s.Numeric K) (hK : Kind K) (depth : Nat) : K (s.operand depth) :=
  operand_of_stack hK h.stack depth

theorem Numeric.push (h : s.Numeric K) {v : Value} (hv : K v) :
    Numeric K { s with stack := v :: s.stack } where
  stack := List.forall_mem_cons.mpr ⟨hv, h.stack⟩
  pen := h.pen
  saved := h.saved

theorem Numeric.withPen (h : s.Numeric K) {pen : Pen} (hp : pen.IsFinite) :
    Numeric K { s with pen } := ⟨h.stack, hp, h.saved⟩

end Snapshot

namespace Machine

variable {σ α β : Type} {K : Value → Prop} {m m' : Machine σ}

theorem numeric_popped (h : m.now.Numeric K) : m.popped.now.Numeric K where
  stack v hv := h.stack v (List.mem_of_mem_tail hv)
  pen := h.pen
  saved := h.saved

variable [Surface σ] {calls : List Call} {Q : α → Snapshot → Prop}

/-- A computation that performs some calls and fails exactly if they do. -/
structure Performs (calls : List Call) (Q : α → Snapshot → Prop) (a : Exec σ α) (m : Machine σ) :
    Prop where
  ok : ∀ s, (performAll calls).run m.surface = .ok () s →
    ∃ x m', a.run m = .ok x m' ∧ m'.surface = s ∧ Q x m'.now
  error : ∀ e s, (performAll calls).run m.surface = .error e s →
    ∃ m', a.run m = .error (.fault e) m'

theorem performs_nil {a : Exec σ α} {x : α} (h : a.run m = .ok x m') (hs : m'.surface = m.surface)
    (hq : Q x m'.now) : Performs [] Q a m where
  ok s hr := by
    cases hr
    exact ⟨x, m', h, hs, hq⟩
  error e s hr := by cases hr

theorem Performs.of_eq {a : Exec σ α} {b : Exec σ α} {m₁ : Machine σ} (h : Performs calls Q b m₁)
    (hr : a.run m = b.run m₁) (hs : m₁.surface = m.surface) : Performs calls Q a m where
  ok s hc := by
    rw [hr]
    exact h.ok s (hs ▸ hc)
  error e s hc := by
    rw [hr]
    exact h.error e s (hs ▸ hc)

theorem run_draw_of_ok {call : Call} {u : Unit} {s : σ}
    (h : (Surface.perform call).run m.surface = .ok u s) :
    (draw call).run m = .ok () { m with surface := s } := by
  change Surface.perform call m.surface = _ at h
  simp only [EStateM.run, draw, h]

theorem run_draw_of_error {call : Call} {e : Fault} {s : σ}
    (h : (Surface.perform call).run m.surface = .error e s) :
    (draw call).run m = .error (.fault e) { m with surface := s } := by
  change Surface.perform call m.surface = _ at h
  simp only [EStateM.run, draw, h]

theorem Performs.draw {call : Call} {next : Exec σ α}
    (h : ∀ s, Performs calls Q next { m with surface := s }) :
    Performs (call :: calls) Q (do draw call; next) m := by
  cases hp : (Surface.perform call).run m.surface with
  | ok u s₁ =>
    refine ⟨fun s hc => ?_, fun e s hc => ?_⟩ <;>
      rw [performAll, EStateM.run_bind, hp] at hc <;>
      rw [EStateM.run_bind, run_draw_of_ok hp]
    · exact (h s₁).ok s hc
    · exact (h s₁).error e s hc
  | error e₁ s₁ =>
    refine ⟨fun s hc => ?_, fun e s hc => ?_⟩ <;>
      rw [performAll, EStateM.run_bind, hp] at hc <;> cases hc
    exact ⟨_, by rw [EStateM.run_bind, run_draw_of_error hp]⟩

theorem performs_draw {Q : Unit → Snapshot → Prop} (call : Call) (h : Q () m.now) :
    Performs [call] Q (draw call) m := by
  rw [← bind_pure_unit (x := Machine.draw call)]
  exact .draw fun s => performs_nil rfl rfl h

theorem Performs.bind_pure {Q' : β → Snapshot → Prop} {a : Exec σ α} {f : α → β}
    (h : Performs calls Q a m) (hq : ∀ x s, Q x s → Q' (f x) s) :
    Performs calls Q' (do return f (← a)) m where
  ok s hc := by
    obtain ⟨x, m', hr, hs, hx⟩ := h.ok s hc
    exact ⟨f x, m', by rw [EStateM.run_bind, hr]; rfl, hs, hq x _ hx⟩
  error e s hc := by
    obtain ⟨m', hr⟩ := h.error e s hc
    exact ⟨m', by rw [EStateM.run_bind, hr]⟩

theorem Performs.pop_bind {next : Value → Exec σ α}
    (h : Performs calls Q (next (m.now.operand 0)) m.popped) :
    Performs calls Q (pop >>= next) m :=
  h.of_eq (run_pop_bind next m) rfl

theorem Performs.attempt_bind {r : Except Fault β} {next : β → Exec σ α} {x : β} (hr : r = .ok x)
    (h : Performs calls Q (next x) m) : Performs calls Q (attempt r >>= next) m :=
  h.of_eq (by rw [hr]; rfl) rfl

theorem Performs.movePen_bind {f : Placement → Except Fault Placement} {next : Exec σ α}
    {p : Placement} (hf : f m.now.pen.placement = .ok p)
    (h : Performs calls Q next
      { m with now := { m.now with pen := { m.now.pen with placement := p } } }) :
    Performs calls Q (do movePen f; next) m := by
  refine h.of_eq ?_ rfl
  rw [movePen, EStateM.run_bind, EStateM.run_bind, EStateM.run_get]
  simp only [hf]
  rfl

theorem Performs.modify_bind {g : Snapshot → Snapshot} {next : Exec σ α}
    (h : Performs calls Q next { m with now := g m.now }) :
    Performs calls Q (do modifyNow g; next) m := h.of_eq rfl rfl

section Steps

variable (hK : Kind K) (h : m.now.Numeric K)

include hK h

theorem performs_stepBinary (op : Opcode) :
    Performs [] (fun _ s => s.Numeric K) (stepBinary op) m := by
  have hb := h.operand hK 0
  have ha := (numeric_popped h).operand hK 0
  obtain ⟨s, hs, -⟩ := binary_of_isFinite op (hK.isFinite ha) (hK.isFinite hb)
  refine .pop_bind (.pop_bind (.attempt_bind hs (performs_nil rfl rfl ?_)))
  exact (numeric_popped (numeric_popped h)).push (hK.binary ha hb hs)

theorem performs_stepTranslate :
    Performs (callsOf m.now .translate) (fun _ s => s.Numeric K) stepTranslate m := by
  obtain ⟨x, hx, hnx⟩ := h.pen.x.add (hK.isFinite (h.operand hK 1))
  obtain ⟨y, hy, hny⟩ := h.pen.y.add (hK.isFinite (h.operand hK 0))
  have hp := numeric_popped (numeric_popped h)
  refine .pop_bind (.pop_bind ?_)
  rw [operand_popped]
  refine .movePen_bind (p := { m.now.pen.placement with x := x.sanitize, y := y.sanitize }) ?_ ?_
  · have hx' : m.popped.popped.now.pen.placement.x.add (m.now.operand (0 + 1)) = .ok x := hx
    have hy' : m.popped.popped.now.pen.placement.y.add (m.now.operand 0) = .ok y := hy
    rw [hx', hy']
    rfl
  · exact performs_draw _ (hp.withPen
      { h.pen with x := hnx.isFinite_sanitize, y := hny.isFinite_sanitize })

theorem performs_stepRotate :
    Performs (callsOf m.now .rotate) (fun _ s => s.Numeric K) stepRotate m := by
  obtain ⟨a, ha, hn⟩ := h.pen.rotation.add (hK.isFinite (h.operand hK 0))
  refine .pop_bind (.movePen_bind (p := { m.now.pen.placement with rotation := a.sanitize }) ?_ ?_)
  · have ha' : m.popped.now.pen.placement.rotation.add (m.now.operand 0) = .ok a := ha
    rw [ha']
    rfl
  · exact performs_draw _ ((numeric_popped h).withPen
      { h.pen with rotation := hn.isFinite_sanitize })

theorem performs_stepScale :
    Performs (callsOf m.now .scale) (fun _ s => s.Numeric K) stepScale m := by
  obtain ⟨a, ha, hn⟩ := h.pen.scale.rescale (hK.isFinite (h.operand hK 0))
  refine .pop_bind (.movePen_bind (p := { m.now.pen.placement with scale := a }) ?_ ?_)
  · have ha' : rescale m.popped.now.pen.placement.scale (m.now.operand 0) = .ok a := ha
    rw [ha']
    rfl
  · exact performs_draw _ ((numeric_popped h).withPen { h.pen with scale := hn })

theorem performs_stepColor :
    Performs (callsOf m.now .color) (fun _ s => s.Numeric K) stepColor m := by
  have hc (depth : Nat) := hK.isFinite (h.operand hK depth)
  have hp := numeric_popped (numeric_popped (numeric_popped h))
  have hq : Pen.IsFinite
      ⟨m.now.pen.placement, ⟨m.now.operand 2, m.now.operand 1, m.now.operand 0⟩⟩ :=
    { h.pen with h := hc 2, s := hc 1, l := hc 0 }
  refine .pop_bind (.pop_bind (.pop_bind ?_))
  rw [operand_popped, operand_popped, operand_popped]
  exact .modify_bind (performs_draw _ (hp.withPen hq))

omit hK in
theorem performs_stepRestore :
    Performs (callsOf m.now .restore) (fun _ s => s.Numeric K) stepRestore m := by
  suffices hr : Performs (callsOf m.now .restore) (fun _ s => s.Numeric K)
      (Elementary.restoreFrom m.now.saved) m from hr.of_eq rfl rfl
  cases hs : m.now.saved with
  | nil =>
    rw [callsOf, hs]
    exact performs_nil rfl rfl h
  | cons pen rest =>
    have hc : callsOf m.now .restore = restoringCalls pen := by simp [callsOf, hs]
    have hall := h.saved
    rw [hs, List.forall_mem_cons] at hall
    have hn : Snapshot.Numeric K { m.now with pen, saved := rest } := ⟨h.stack, hall.1, hall.2⟩
    rw [hc, Elementary.restoreFrom]
    refine .modify_bind ?_
    exact .draw fun _ => .draw fun _ => .draw fun _ => performs_draw _ hn

/-- In a state with finite numbers an instruction fails exactly if one of its calls does. -/
theorem performs_step (op : Opcode) {operand : Value} (ho : K operand.sanitize) :
    Performs (callsOf m.now op) (fun _ s => s.Numeric K) (step op operand) m := by
  have h₀ := hK.sanitize (h.operand hK 0)
  have h₁ := hK.sanitize ((numeric_popped h).operand hK 0)
  cases op with
  | start | nop | stop | loop => exact performs_nil rfl rfl h
  | push => exact performs_nil rfl rfl (h.push ho)
  | dup => exact .pop_bind (performs_nil rfl rfl (((numeric_popped h).push h₀).push h₀))
  | pop => exact .pop_bind (performs_nil rfl rfl (numeric_popped h))
  | swap =>
    have hp := numeric_popped (numeric_popped h)
    exact .pop_bind (.pop_bind (performs_nil rfl rfl ((hp.push h₀).push h₁)))
  | add | sub | mul | div | eq | lt => exact performs_stepBinary hK h _
  | circle | line | triangle => exact .pop_bind (performs_draw _ (numeric_popped h))
  | rect | ellipse =>
    refine .pop_bind (.pop_bind ?_)
    rw [operand_popped]
    exact performs_draw _ (numeric_popped (numeric_popped h))
  | translate => exact performs_stepTranslate hK h
  | rotate => exact performs_stepRotate hK h
  | scale => exact performs_stepScale hK h
  | color => exact performs_stepColor hK h
  | save => exact performs_nil rfl rfl ⟨h.stack, h.pen, List.forall_mem_cons.mpr ⟨h.pen, h.saved⟩⟩
  | restore => exact performs_stepRestore h

theorem performs_loopSpan (left : Nat) :
    Performs [] (fun _ s => s.Numeric K) (loopSpan left) m := by
  obtain ⟨count, hc⟩ := (hK.isFinite (h.operand hK 0)).truncate
  obtain ⟨length, hl⟩ := (hK.isFinite ((numeric_popped h).operand hK 0)).truncate
  refine .pop_bind (.attempt_bind hc (.pop_bind (.attempt_bind hl ?_)))
  exact performs_nil rfl rfl (numeric_popped (numeric_popped h))

theorem performs_effect (f : Frame) {i : Instruction} (op : Opcode) (ho : K i.operand.sanitize) :
    Performs (callsOf m.now op) (fun _ s => s.Numeric K) (f.effect i op) m := by
  by_cases hs : op = .stop
  · subst hs
    exact performs_nil rfl rfl h
  by_cases hl : op = .loop
  · subst hl
    exact (performs_loopSpan hK h _).bind_pure fun _ _ hn => hn
  · rw [f.effect_other i hs hl]
    exact (performs_step hK h op ho).bind_pure fun _ _ hn => hn

end Steps

end Machine

end Triplet
