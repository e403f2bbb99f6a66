import Triplet.Drawing.Canvas
import Triplet.Proofs.Alignment
import Triplet.Proofs.Products
import Triplet.Proofs.StackKinds

/-! # The scale of a canvas

A machine replaces a product of scales that is not finite by zero, and a canvas does not. So both
have the same scale until a product is too large: then the canvas becomes infinitely large. A
negative factor brings both to the least scale, and a pen that is brought back gives both its own;
but a zero leaves the canvas with a scale that is not a number.
-/

namespace Triplet

def keptScale (x : Float) : Float := if x < leastScale then leastScale else x

def penScale (x y : Float) : Float := if (x * y).isFinite then keptScale (x * y) else leastScale

namespace Value

/-- The double that a value counts as in a product with a double. -/
def double? : Value → Option Float
  | number n => n.toDouble.toOption
  | _ => none

theorem IsFinite.double? {v : Value} (h : IsFinite v) :
    ∃ y, v.double? = some y ∧ y.isFinite = true := by
  obtain ⟨n, rfl, hn⟩ := h
  cases n with
  | int n => exact ⟨nearestDouble n, congrArg Except.toOption (if_pos hn), hn⟩
  | real y => exact ⟨y, rfl, hn⟩

theorem mul_real {w : Value} {y : Float} (h : w.double? = some y) (x : Float) :
    (real x).mul w = .ok (real (x * y)) := by
  cases w with
  | number n =>
    have hn : n.toDouble = .ok y := by
      rw [double?] at h
      cases hd : n.toDouble with
      | ok z =>
        rw [hd] at h
        exact congrArg Except.ok (Option.some.inj h)
      | error e =>
        rw [hd] at h
        cases h
    have hm : Number.mul (.real x) n = .ok (.real (x * y)) := by
      rw [Number.mul, Number.combine]
      · rw [hn]
        rfl
      · nofun
    simp only [mul, toNumber, bind, Except.bind, hm]
    rfl
  | missing | truth | text => cases h

theorem less_real (x y : Float) : (real x).less (real y) = .ok (decide (x < y)) := by
  have hl : Number.less (.real x) (.real y) = decide (x < y) := by
    rw [Number.less, Number.compare?]
    by_cases h : x < y
    · simp [h]
    · rw [if_neg h, decide_eq_false h]
      split
      · rfl
      · split <;> rfl
  exact congrArg Except.ok hl

theorem atLeast_real (x : Float) : (real x).atLeast leastScale = .ok (real (keptScale x)) := by
  rw [atLeast, less_real, keptScale]
  by_cases h : x < leastScale
  · rw [if_pos h, decide_eq_true h]
    rfl
  · rw [if_neg h, decide_eq_false h]
    rfl

theorem rescale_real {w : Value} {y : Float} (h : w.double? = some y) (x : Float) :
    rescale (real x) w = .ok (real (penScale x y)) := by
  have hr : rescale (real x) w = (real (x * y)).sanitize.atLeast leastScale := by
    rw [rescale, mul_real h]
    rfl
  rw [hr, penScale]
  by_cases hf : (x * y).isFinite = true
  · have hs : (real (x * y)).sanitize = real (x * y) := if_pos hf
    rw [hs, atLeast_real, if_pos hf]
  · have hs : (real (x * y)).sanitize = int 0 := if_neg hf
    have hl : Number.less (.int 0) (.real leastScale) = true := by decide +kernel
    have hl' : (int 0).less (real leastScale) = .ok true := congrArg Except.ok hl
    rw [hs, if_neg hf, atLeast, hl']
    rfl

def IsPenScale (v : Value) : Prop := ∃ x, v = real x ∧ x.isFinite = true ∧ ¬ x < leastScale

end Value

theorem not_keptScale_lt (x : Float) : ¬ keptScale x < leastScale := by
  rw [keptScale]
  split
  · decide +kernel
  · assumption

theorem isPenScale_penScale (x y : Float) : (Value.real (penScale x y)).IsPenScale := by
  refine ⟨_, rfl, ?_⟩
  rw [penScale]
  by_cases hf : (x * y).isFinite = true
  · rw [if_pos hf]
    refine ⟨?_, not_keptScale_lt _⟩
    rw [keptScale]
    split
    · decide +kernel
    · exact hf
  · rw [if_neg hf]
    decide +kernel

/-- What has become of the scale of a canvas, compared with that of a pen. -/
inductive Drift where
  /-- Both scales are the same. -/
  | even
  /-- The canvas is infinitely large. -/
  | infinite
  /-- The canvas has a scale that is not a number. -/
  | undefined
  deriving DecidableEq

namespace Drift

def Relates : Drift → Value → Value → Prop
  | even, pen, canvas => canvas = pen
  | infinite, _, canvas => ∃ z, canvas = .real z ∧ positiveInfinite z = true
  | undefined, _, canvas => ∃ z, canvas = .real z ∧ z.isNaN = true

/-- Multiply both scales by `y`, where that of the pen is `x`. -/
def scaled (x y : Float) : Drift → Drift
  | even => if positiveInfinite (x * y) then infinite else even
  | infinite => if y < 0 then even else if y == 0 then undefined else infinite
  | undefined => undefined

theorem relates_iff {d : Drift} {pen canvas : Value} (h : d.Relates pen canvas)
    (hp : pen.IsPenScale) : canvas = pen ↔ d = even := by
  obtain ⟨x, rfl, hx, -⟩ := hp
  cases d with
  | even => exact iff_of_true h rfl
  | infinite =>
    obtain ⟨z, rfl, hz⟩ := h
    refine iff_of_false ?_ nofun
    rintro ⟨⟩
    exact not_isFinite_of_infinite hz hx
  | undefined =>
    obtain ⟨z, rfl, hz⟩ := h
    refine iff_of_false ?_ nofun
    rintro ⟨⟩
    exact not_isFinite_of_isNaN hz hx

section Scaled

variable {x y z : Float} (hx : x.isFinite = true) (hl : ¬ x < leastScale) (hy : y.isFinite = true)

include hx hl hy

theorem relates_even : (even.scaled x y).Relates (.real (penScale x y))
    (.real (keptScale (x * y))) := by
  rw [scaled]
  by_cases hp : positiveInfinite (x * y) = true
  · rw [if_pos hp, keptScale, if_neg (not_lt_leastScale_of_infinite hp)]
    exact ⟨_, rfl, hp⟩
  rw [if_neg hp, Relates, penScale]
  by_cases hf : (x * y).isFinite = true
  · rw [if_pos hf]
  · -- A product that is neither finite nor too large is below the least scale for both.
    have hlt := scale_mul_lt_of_not_isFinite hx hl hy (by simpa using hf) (by simpa using hp)
    rw [if_neg hf, keptScale, if_pos hlt]

theorem relates_infinite (hz : positiveInfinite z = true) :
    (infinite.scaled x y).Relates (.real (penScale x y)) (.real (keptScale (z * y))) := by
  have hm := infinite_mul hz hy
  rw [scaled]
  by_cases hn : y < 0
  · have hlt := scale_mul_lt_of_neg hx hl hy hn
    rw [if_pos hn] at hm ⊢
    rw [Relates, keptScale, if_pos hm, penScale, keptScale, if_pos hlt, ite_self]
  rw [if_neg hn] at hm ⊢
  by_cases h0 : (y == 0) = true
  · rw [if_pos h0] at hm ⊢
    rw [keptScale, if_neg (not_lt_of_isNaN hm)]
    exact ⟨_, rfl, hm⟩
  · rw [if_neg h0] at hm ⊢
    rw [keptScale, if_neg (not_lt_leastScale_of_infinite hm)]
    exact ⟨_, rfl, hm⟩

theorem Relates.scaled {d : Drift} {canvas : Value} (h : d.Relates (.real x) canvas) :
    ∃ z, canvas = .real z ∧
      (d.scaled x y).Relates (.real (penScale x y)) (.real (keptScale (z * y))) := by
  cases d with
  | even => exact ⟨x, h, relates_even hx hl hy⟩
  | infinite =>
    obtain ⟨z, hz, hi⟩ := h
    exact ⟨z, hz, relates_infinite hx hl hy hi⟩
  | undefined =>
    obtain ⟨z, hz, hn⟩ := h
    have hm := isNaN_mul hn y
    refine ⟨z, hz, ?_⟩
    rw [keptScale, if_neg (not_lt_of_isNaN hm)]
    exact ⟨_, rfl, hm⟩

end Scaled

end Drift

namespace Canvas

def scaleAfter (scale : Value) : Call → Except Fault Value
  | .scale factor => do (← scale.mul factor.sanitize).atLeast leastScale
  | .setScale scale => scale.sanitize.atLeast leastScale
  | _ => .ok scale

variable {c c' : Canvas} {u : Unit}

theorem run_step_eq_ok {f : Canvas → Except Fault Canvas} (h : (step f).run c = .ok u c') :
    f c = .ok c' := by
  simp only [EStateM.run, step] at h
  cases hf : f c with
  | ok d =>
    rw [hf] at h
    cases h
    rfl
  | error e =>
    rw [hf] at h
    cases h

theorem run_move_eq_ok {f : Placement → Except Fault Placement} (h : (move f).run c = .ok u c') :
    f c.placement = .ok c'.placement := by
  obtain ⟨p, hp, hc⟩ := Machine.bind_eq_ok (run_step_eq_ok h)
  cases hc
  exact hp

theorem placement_paint {sketch : Except Fault Sketch} (h : (paint sketch).run c = .ok u c') :
    c'.placement = c.placement := by
  have h := run_step_eq_ok h
  obtain ⟨sketch, -, h⟩ := Machine.bind_eq_ok h
  split at h
  · cases h
  obtain ⟨matrix, -, h⟩ := Machine.bind_eq_ok h
  obtain ⟨shape, -, h⟩ := Machine.bind_eq_ok h
  cases h
  rfl

theorem placement_scatter {seed intensity : Value}
    (h : (scatter seed intensity).run c = .ok u c') : c'.placement = c.placement := by
  have h := run_step_eq_ok h
  obtain ⟨points, -, h⟩ := Machine.bind_eq_ok h
  obtain ⟨matrix, -, h⟩ := Machine.bind_eq_ok h
  split at h
  · cases h
  · cases h
    rfl

theorem perform_eq_ok {call : Call} (h : (perform call).run c = .ok u c') :
    scaleAfter c.placement.scale call = .ok c'.placement.scale := by
  cases call with
  | circle | rect | line | triangle | ellipse => rw [placement_paint h]; rfl
  | noise => rw [placement_scatter h]; rfl
  | setColor hue s l =>
    obtain ⟨ink, -, h⟩ := Machine.bind_eq_ok (run_step_eq_ok h)
    cases h
    rfl
  | translate dx dy =>
    rw [perform, EStateM.run_bind] at h
    split at h
    · rename_i c₁ hm
      obtain ⟨x, -, hx⟩ := Machine.bind_eq_ok (run_move_eq_ok hm)
      obtain ⟨y, -, hy⟩ := Machine.bind_eq_ok (run_move_eq_ok h)
      rw [← Except.ok.inj hy, ← Except.ok.inj hx]
      rfl
    · cases h
  | rotate degrees =>
    rw [perform] at h
    obtain ⟨r, -, hr⟩ := Machine.bind_eq_ok (run_move_eq_ok h)
    rw [← Except.ok.inj hr]
    rfl
  | scale factor =>
    rw [perform] at h
    obtain ⟨product, hp, hs⟩ := Machine.bind_eq_ok (run_move_eq_ok h)
    obtain ⟨scale, hs, hm⟩ := Machine.bind_eq_ok hs
    rw [← Except.ok.inj hm, scaleAfter, hp]
    exact hs
  | setPosition | setRotation =>
    rw [perform] at h
    have hm := run_move_eq_ok h
    rw [← Except.ok.inj hm]
    rfl
  | setScale scale =>
    rw [perform] at h
    obtain ⟨scale, hs, hm⟩ := Machine.bind_eq_ok (run_move_eq_ok h)
    rw [← Except.ok.inj hm]
    exact hs

theorem performAll_eq_ok {calls : List Call} (h : (Machine.performAll calls).run c = .ok u c') :
    calls.foldlM scaleAfter c.placement.scale = .ok c'.placement.scale := by
  refine Machine.performAll_induct (P := fun calls c c' =>
    calls.foldlM scaleAfter c.placement.scale = .ok c'.placement.scale) (fun _ => rfl) ?_ h
  intro call calls c c₁ c' hc ih
  rw [List.foldlM_cons, perform_eq_ok hc]
  exact ih

end Canvas

namespace Machine

/-- The doubles that a turn multiplies, if it changes the scale by a factor. -/
def factors? (t : Snapshot × Snapshot) : Option (Float × Float) :=
  if t.2.last? = some .scale then do
    return (← t.1.pen.placement.scale.double?, ← (t.1.operand 0).double?)
  else none

/-- Whether a turn makes a scale that is greater than every finite double. -/
def scaleOverflows (t : Snapshot × Snapshot) : Bool :=
  (factors? t).any fun (x, y) => positiveInfinite (x * y)

def driftAfter (t : Snapshot × Snapshot) (d : Drift) : Drift :=
  match factors? t with
  | some (x, y) => d.scaled x y
  | none => d

/-- The drift after some turns, the latest first, from scales that were the same. -/
def drift (since : List (Snapshot × Snapshot)) : Drift := since.foldr driftAfter .even

theorem drift_cons_of_ne {s s' : Snapshot} {op : Opcode} (hl : s'.last? = some op)
    (ho : op ≠ .scale) (since : List (Snapshot × Snapshot)) :
    drift ((s, s') :: since) = drift since := by
  have hf : factors? (s, s') = none := if_neg (by simpa [hl] using ho)
  simp only [drift, List.foldr_cons, driftAfter, hf]

theorem drift_cons_scale {s s' : Snapshot} {x y : Float} (hl : s'.last? = some .scale)
    (hx : s.pen.placement.scale = .real x) (hy : (s.operand 0).double? = some y)
    (since : List (Snapshot × Snapshot)) :
    drift ((s, s') :: since) = (drift since).scaled x y := by
  have hx' : s.pen.placement.scale.double? = some x := by rw [hx]; rfl
  have hf : factors? (s, s') = some (x, y) := by
    rw [factors?, if_pos hl, hx', hy]
    rfl
  simp only [drift, List.foldr_cons, driftAfter, hf]

theorem drift_eq_even {since : List (Snapshot × Snapshot)}
    (h : ∀ t ∈ since, scaleOverflows t = false) : drift since = .even := by
  induction since with
  | nil => rfl
  | cons t since ih =>
    obtain ⟨ht, hs⟩ := List.forall_mem_cons.mp h
    have he : drift (t :: since) = driftAfter t .even := congrArg (driftAfter t) (ih hs)
    rw [he, driftAfter]
    rw [scaleOverflows] at ht
    cases hf : factors? t with
    | none => rfl
    | some p =>
      rw [hf] at ht
      exact if_neg (by simpa using ht)

theorem scaleAfter_callsOf {op : Opcode} (hs : op ≠ .scale) (hr : op ≠ .restore) (s : Snapshot)
    (scale : Value) : (callsOf s op).foldlM Canvas.scaleAfter scale = .ok scale := by
  cases op <;> first | rfl | contradiction

theorem scaleAfter_restoringCalls {pen : Pen} (h : pen.placement.scale.IsPenScale)
    (scale : Value) :
    (restoringCalls pen).foldlM Canvas.scaleAfter scale = .ok pen.placement.scale := by
  obtain ⟨x, hx, hf, hl⟩ := h
  have hs : (Value.real x).sanitize = .real x := if_pos hf
  have ha := Value.atLeast_real x
  rw [keptScale, if_neg hl] at ha
  simp only [restoringCalls, List.foldlM_cons, List.foldlM_nil, Canvas.scaleAfter, hx, hs, ha]
  rfl

theorem PenEffect.isPenScale {s : Snapshot} {op : Opcode} {pen : Pen} {saved : List Pen}
    (h : PenEffect s op pen saved) (ho : (s.operand 0).IsFinite)
    (hs : ∀ p ∈ s.pen :: s.saved, p.placement.scale.IsPenScale) :
    ∀ p ∈ pen :: saved, p.placement.scale.IsPenScale := by
  refine h.forall_scale ?_ hs
  intro v hv
  obtain ⟨x, hx, -, -⟩ := (List.forall_mem_cons.mp hs).1
  obtain ⟨y, hy, -⟩ := ho.double?
  rw [hx, Value.rescale_real hy] at hv
  rw [← Except.ok.inj hv]
  exact isPenScale_penScale x y

theorem relates_scale {s s' : Snapshot} {scale canvas canvas' : Value}
    {since : List (Snapshot × Snapshot)}
    (h : (drift since).Relates s.pen.placement.scale canvas) (ho : (s.operand 0).IsFinite)
    (hs : s.pen.placement.scale.IsPenScale) (hl : s'.last? = some .scale)
    (hp : rescale s.pen.placement.scale (s.operand 0) = .ok scale)
    (hc : Canvas.scaleAfter canvas (.scale (s.operand 0)) = .ok canvas') :
    (drift ((s, s') :: since)).Relates scale canvas' := by
  obtain ⟨x, hx, hf, hlt⟩ := hs
  obtain ⟨y, hy, hfy⟩ := ho.double?
  rw [hx] at h
  obtain ⟨z, rfl, hr⟩ := h.scaled hf hlt hfy
  have hz : Canvas.scaleAfter (.real z) (.scale (s.operand 0)) =
      .ok (.real (keptScale (z * y))) := by
    rw [Canvas.scaleAfter, ho.sanitize_eq, Value.mul_real hy]
    exact Value.atLeast_real (z * y)
  rw [hx, Value.rescale_real hy] at hp
  rw [hz] at hc
  rw [drift_cons_scale hl hx hy, ← Except.ok.inj hp, ← Except.ok.inj hc]
  exact hr

/-- The scales of a pen and of a canvas drift by the turn of every instruction. -/
theorem relates_turn {s s' : Snapshot} {op : Opcode} {c c' : Canvas} {pen : Pen}
    {saved : List Pen} {ts : List (Snapshot × Snapshot)}
    (h : (drift (sinceRestore ts)).Relates s.pen.placement.scale c.placement.scale)
    (ho : (s.operand 0).IsFinite) (hs : ∀ p ∈ s.pen :: s.saved, p.placement.scale.IsPenScale)
    (hl : s'.last? = some op) (hp : PenEffect s op pen saved)
    (hc : (performAll (callsOf s op)).run c = .ok () c') :
    (drift (sinceRestore (ts ++ [(s, s')]))).Relates pen.placement.scale c'.placement.scale := by
  have hm := Canvas.performAll_eq_ok hc
  -- Where the calls leave the canvas alone, the pen keeps its scale too.
  have still (hs : op ≠ .scale) (hr : op ≠ .restore)
      (he : pen.placement.scale = s.pen.placement.scale) :
      (drift (sinceRestore (ts ++ [(s, s')]))).Relates pen.placement.scale
        c'.placement.scale := by
    rw [scaleAfter_callsOf hs hr] at hm
    rw [sinceRestore_concat_of_ne hl (.inl hr), drift_cons_of_ne hl hs, he, ← Except.ok.inj hm]
    exact h
  cases hp with
  | translate | rotate | color | save => exact still (by decide) (by decide) rfl
  | still hm => exact still (by rintro rfl; cases hm) (by rintro rfl; cases hm) rfl
  | scale hz =>
    rw [sinceRestore_concat_of_ne hl (.inl (by decide))]
    exact relates_scale h ho (List.forall_mem_cons.mp hs).1 hl hz (by simpa [callsOf] using hm)
  | @restore pen rest hr =>
    have hcalls : callsOf s .restore = restoringCalls pen := by simp [callsOf, hr]
    have hb : bringsBack (s, s') = true := by simp [bringsBack, hl, hr]
    rw [hcalls, scaleAfter_restoringCalls (hs pen (by simp [hr]))] at hm
    rw [sinceRestore_concat, if_pos hb]
    exact (Except.ok.inj hm).symm
  | restoreNone hn =>
    rw [callsOf, hn] at hm
    rw [sinceRestore_concat_of_ne hl (.inr hn), drift_cons_of_ne hl (by decide)]
    have hc' : c.placement.scale = c'.placement.scale := Except.ok.inj hm
    exact hc' ▸ h

namespace Flat

structure Drifts (tokens : List Token) (m : Machine Canvas) (c : Flat Canvas) : Prop where
  reached : Reaches (start (Program.entry (Program.assemble tokens)) m.prepare) c
  account : Accounted m.prepare.now c
  scales : c.fault? = none →
    ∀ p ∈ c.machine.now.pen :: c.machine.now.saved, p.placement.scale.IsPenScale
  relates : c.fault? = none →
    (drift (sinceRestore (turns m.prepare.now c.machine.trace.toList))).Relates
      c.machine.now.pen.placement.scale c.machine.surface.placement.scale

variable {tokens : List Token} {m : Machine Canvas} {n : Nat} {c : Flat Canvas}

theorem Drifts.advance (ht : ∀ t ∈ tokens, ∀ v, t.operand? = some v → v.IsNumber)
    (h : Drifts tokens m c) : Drifts tokens m c.advance := by
  have hm := moves_advance c
  have ho (hc : c.fault? = none) : (c.machine.now.operand 0).IsFinite :=
    Snapshot.operand_of_stack kind_isFinite (Executed.holds
      (fun t ht' v hv => (ht t ht' v hv).isFinite_sanitize) kind_isFinite ⟨h.reached, hc, rfl⟩) 0
  refine ⟨h.reached.trans (.step rfl), h.account.moves hm, fun hf => ?_, fun hf => ?_⟩ <;>
    rcases h.account.quiet_or_executes hm with hq | ⟨i, op, he⟩
  · obtain ⟨hc, hn, -⟩ := hq.kept hf
    rw [hn]
    exact h.scales hc
  · have hc := h.account.fault_none (ne_nil_of_upcoming he.upcoming)
    exact he.turn.pens.isPenScale (ho hc) (h.scales hc)
  · obtain ⟨hc, hn, hs⟩ := hq.kept hf
    rw [hn, hs, hq.trace]
    exact h.relates hc
  · have hc := h.account.fault_none (ne_nil_of_upcoming he.upcoming)
    rw [he.turns_eq h.account]
    exact relates_turn (h.relates hc) (ho hc) (h.scales hc) he.turn.last he.turn.pens
      he.does.calls

theorem start_drifts (tokens : List Token) (m : Machine Canvas) :
    Drifts tokens m (start (Program.entry (Program.assemble tokens)) m.prepare) where
  reached := .refl _
  account := start_accounted _ rfl rfl rfl
  scales _ := by
    refine List.forall_mem_cons.mpr ⟨⟨1, rfl, ?_, ?_⟩, fun _ hp => (List.not_mem_nil hp).elim⟩
    · decide +kernel
    · decide +kernel
  relates _ := rfl

theorem Executed.drifts (ht : ∀ t ∈ tokens, ∀ v, t.operand? = some v → v.IsNumber)
    (h : Executed tokens m n c) : Drifts tokens m c :=
  h.reached.keeps (fun _ hc => hc.advance ht) (start_drifts tokens m)

end Flat

/-- Once some instructions of a run on numbers have been executed, the canvas has the scale of the
last snapshot exactly if their drift is even. In particular it has that scale, unless a product of
the scale has overflowed since the start or since a saved pen was last brought back. -/
theorem run_scale_drifts {tokens : List Token}
    (h : ∀ t ∈ tokens, ∀ v, t.operand? = some v → v.IsNumber) (m : Machine Canvas) {k : Nat}
    {s : Snapshot} (hk : (run tokens m).1.trace[k]? = some s) :
    (∃ c, Flat.Executed tokens m (k + 1) c) ∧
      ∀ c, Flat.Executed tokens m (k + 1) c →
        let since := sinceRestore (turns m.prepare.now ((run tokens m).1.trace.toList.take (k + 1)))
        let canvas := c.machine.surface.placement.scale
        (drift since).Relates s.pen.placement.scale canvas ∧
          (canvas = s.pen.placement.scale ↔ drift since = .even) ∧
          ((∀ t ∈ since, scaleOverflows t = false) → canvas = s.pen.placement.scale) := by
  refine ⟨Flat.exists_executed (Array.getElem?_eq_some_iff.mp hk).1, fun c hc => ?_⟩
  have hd := hc.drifts h
  have hr := hd.relates hc.fault
  have hs := (List.forall_mem_cons.mp (hd.scales hc.fault)).1
  rw [hc.trace_eq, hc.now_eq hk] at hr
  rw [hc.now_eq hk] at hs
  have hiff := Drift.relates_iff hr hs
  exact ⟨hr, hiff, fun ho => hiff.mpr (drift_eq_even ho)⟩

/-- A product that is too large makes the canvas infinite, and a negative factor brings both scales
together again. -/
theorem run_scale_drifts_back :
    let op (o : Opcode) : Token := ⟨[], .instruction o, 0, 0⟩
    let scale (v : Value) : List Token := [op .push, ⟨[], .operand v, 0, 0⟩, op .scale]
    let tokens := [op .start] ++ scale (.real 1e308) ++ scale (.int 10) ++ scale (.real (-0.5))
    let m := initial (Canvas.blank .default (32, 32)) defaultBudget (.int 0)
    let states := (run tokens m).1.trace
    (∀ t ∈ tokens, ∀ v, t.operand? = some v → v.IsNumber) ∧
      (∃ s c, states[4]? = some s ∧ Flat.Executed tokens m 5 c ∧
        c.machine.surface.placement.scale ≠ s.pen.placement.scale) ∧
      ∃ s c, states[6]? = some s ∧ Flat.Executed tokens m 7 c ∧
        c.machine.surface.placement.scale = s.pen.placement.scale := by
  intro op scale tokens m states
  have ht : ∀ t ∈ tokens, ∀ v, t.operand? = some v → v.IsNumber := by decide +kernel
  have h₄ : (states[4]?).isSome = true := by decide +kernel
  have h₆ : (states[6]?).isSome = true := by decide +kernel
  obtain ⟨s, hs⟩ := Option.isSome_iff_exists.mp h₄
  obtain ⟨s', hs'⟩ := Option.isSome_iff_exists.mp h₆
  obtain ⟨⟨c, hc⟩, hd⟩ := run_scale_drifts ht m hs
  obtain ⟨⟨c', hc'⟩, hd'⟩ := run_scale_drifts ht m hs'
  refine ⟨ht, ⟨s, c, hs, hc, ?_⟩, s', c', hs', hc', ?_⟩
  · rw [ne_eq, (hd c hc).2.1]
    decide +kernel
  · rw [(hd' c' hc').2.1]
    decide +kernel

/-- Not every canvas keeps the scale of the pen: it is infinitely large where the pen has the least
scale. -/
theorem run_scale_infinite :
    let op (o : Opcode) : Token := ⟨[], .instruction o, 0, 0⟩
    let scale (v : Value) : List Token := [op .push, ⟨[], .operand v, 0, 0⟩, op .scale]
    let tokens := [op .start] ++ scale (.real 1e308) ++ scale (.int 10)
    let outcome (c : Canvas) :=
      let ended := run tokens (initial c defaultBudget (.int 0))
      (ended.2, ended.1.now.pen.placement.scale, ended.1.surface.placement.scale)
    (∀ t ∈ tokens, ∀ v, t.operand? = some v → v.IsNumber) ∧
      (Canvas.ofSheet .default).toOption.map outcome =
        some (none, .real leastScale, .real (1.0 / 0.0)) := by
  decide +kernel

end Machine

end Triplet
