import Triplet.Proofs.Turns

/-! # The recorder in step with the pen

A machine keeps its pen, and the recorder follows it by the calls alone. Scale and color are the
same on both sides after every instruction. Position and rotation are, unless a sum that is not
finite was replaced on one side; a pen that is brought back brings both sides together again.
-/

namespace Triplet

namespace Value

theorem sanitize_sanitize (v : Value) : v.sanitize.sanitize = v.sanitize := by
  by_cases h : v.readsFinite
  · have hv : v.sanitize = v := if_pos h
    rw [hv, hv]
  · have hv : v.sanitize = int 0 := if_neg h
    rw [hv]
    decide +kernel

/-- Whether a sum is replaced by zero, because it does not read as a finite double. -/
def sumReplaced (v w : Value) : Bool :=
  match v.add w with
  | .ok sum => sum.sanitize ≠ sum
  | .error _ => false

theorem sanitize_sum {v w sum : Value} (hs : v.add w = .ok sum) (h : v.sumReplaced w = false) :
    sum.sanitize = sum := by
  simpa [sumReplaced, hs] using h

def IsScale (v : Value) : Prop := v.sanitize.atLeast leastScale = .ok v

theorem isScale_real {x : Float} (hf : x.isFinite)
    (hl : Number.less (.real x) (.real leastScale) = false) : (real x).IsScale := by
  have hs : (real x).sanitize = real x := if_pos hf
  have hl' : (real x).less (real leastScale) = .ok false := congrArg Except.ok hl
  rw [IsScale, hs, atLeast, hl']
  rfl

theorem isScale_of_atLeast {v scale : Value} (h : v.sanitize.atLeast leastScale = .ok scale) :
    scale.IsScale := by
  obtain ⟨low, hl, hs⟩ := Machine.bind_eq_ok h
  cases low with
  | true =>
    obtain rfl : real leastScale = scale := Except.ok.inj hs
    exact isScale_real (by decide +kernel) (by decide +kernel)
  | false =>
    obtain rfl : v.sanitize = scale := Except.ok.inj hs
    rw [IsScale, sanitize_sanitize]
    exact h

end Value

namespace Recorder

def moved (p : Placement) : Call → Except Fault Placement
  | .translate dx dy => do return { p with x := ← p.x.add dx, y := ← p.y.add dy }
  | .rotate degrees => do return { p with rotation := ← p.rotation.add degrees }
  | .scale factor => do return { p with scale := ← rescale p.scale factor }
  | .setPosition x y => .ok { p with x, y }
  | .setRotation degrees => .ok { p with rotation := degrees }
  | .setScale scale => do return { p with scale := ← scale.sanitize.atLeast leastScale }
  | _ => .ok p

def inked (color : Value × Value × Value) : Call → Value × Value × Value
  | .setColor h s l => (h, s, l)
  | _ => color

theorem run_move_bind_eq_ok {f : Placement → Except Fault Placement}
    {next : EStateM Fault Recorder Unit} {r r' : Recorder} {u : Unit}
    (h : (do move f; next).run r = .ok u r') :
    ∃ p, f r.placement = .ok p ∧ next.run { r with placement := p } = .ok u r' := by
  rw [EStateM.run_bind] at h
  cases hf : f r.placement with
  | ok p =>
    refine ⟨p, rfl, ?_⟩
    simpa only [EStateM.run, move, hf] using h
  | error e => simp only [EStateM.run, move, hf, reduceCtorEq] at h

theorem perform_eq_ok {call : Call} {r r' : Recorder} {u : Unit}
    (h : (perform call).run r = .ok u r') :
    moved r.placement call = .ok r'.placement ∧ r'.color = inked r.color call := by
  cases call with
  | circle | rect | line | triangle | ellipse | noise | setColor =>
    cases h
    exact ⟨rfl, rfl⟩
  | translate dx dy =>
    obtain ⟨p, hp, h⟩ := run_move_bind_eq_ok h
    obtain ⟨q, hq, h⟩ := run_move_bind_eq_ok h
    obtain ⟨x, hx, hp⟩ := Machine.bind_eq_ok hp
    cases hp
    obtain ⟨y, hy, hq⟩ := Machine.bind_eq_ok hq
    cases hq
    cases h
    have hy' : r.placement.y.add dy = .ok y := hy
    exact ⟨by rw [moved, hx, hy']; rfl, rfl⟩
  | rotate | scale | setPosition | setRotation | setScale =>
    obtain ⟨p, hp, h⟩ := run_move_bind_eq_ok h
    cases h
    exact ⟨hp, rfl⟩

theorem performAll_eq_ok {calls : List Call} {r r' : Recorder} {u : Unit}
    (h : (Machine.performAll calls).run r = .ok u r') :
    calls.foldlM moved r.placement = .ok r'.placement ∧ r'.color = calls.foldl inked r.color := by
  refine Machine.performAll_induct (P := fun calls r r' =>
    calls.foldlM moved r.placement = .ok r'.placement ∧ r'.color = calls.foldl inked r.color)
    (fun _ => ⟨rfl, rfl⟩) ?_ h
  rintro call calls r r₁ r' hr ⟨hm', hi'⟩
  obtain ⟨hm, hi⟩ := perform_eq_ok hr
  rw [List.foldlM_cons, hm, List.foldl_cons, ← hi]
  exact ⟨hm', hi'⟩

end Recorder

namespace Machine

def bringsBack (t : Snapshot × Snapshot) : Bool :=
  t.2.last? = some .restore && !t.1.saved.isEmpty

def replacesPosition (t : Snapshot × Snapshot) : Bool :=
  t.2.last? = some .translate &&
    (t.1.pen.placement.x.sumReplaced (t.1.operand 1) ||
      t.1.pen.placement.y.sumReplaced (t.1.operand 0))

def replacesRotation (t : Snapshot × Snapshot) : Bool :=
  t.2.last? = some .rotate && t.1.pen.placement.rotation.sumReplaced (t.1.operand 0)

/-- The turns after the last one in which a saved pen was brought back, the latest first. -/
def sinceRestore (ts : List (Snapshot × Snapshot)) : List (Snapshot × Snapshot) :=
  ts.reverse.takeWhile fun t => !bringsBack t

theorem sinceRestore_concat (ts : List (Snapshot × Snapshot)) (t : Snapshot × Snapshot) :
    sinceRestore (ts ++ [t]) = if bringsBack t then [] else t :: sinceRestore ts := by
  rw [sinceRestore, List.reverse_concat, List.takeWhile_cons]
  cases bringsBack t <;> rfl

theorem sinceRestore_concat_of_ne {s s' : Snapshot} {op : Opcode} (hl : s'.last? = some op)
    (hn : op ≠ .restore ∨ s.saved = []) (ts : List (Snapshot × Snapshot)) :
    sinceRestore (ts ++ [(s, s')]) = (s, s') :: sinceRestore ts := by
  rw [sinceRestore_concat, if_neg]
  rcases hn with hn | hn <;> simp [bringsBack, hl, hn]

/-- A recorder in step with a pen, where both were together before the given turns. -/
structure Aligned (pen : Pen) (r : Recorder) (since : List (Snapshot × Snapshot)) : Prop where
  scale : r.placement.scale = pen.placement.scale
  color : r.color = (pen.color.h, pen.color.s, pen.color.l)
  position : (∀ t ∈ since, replacesPosition t = false) →
    r.placement.x = pen.placement.x ∧ r.placement.y = pen.placement.y
  rotation : (∀ t ∈ since, replacesRotation t = false) →
    r.placement.rotation = pen.placement.rotation

namespace Aligned

variable {s s' : Snapshot} {r r' : Recorder} {since : List (Snapshot × Snapshot)}

theorem ink {pen : Pen} (h : Aligned pen r since) (t : Snapshot × Snapshot) {color : Color}
    (hp : r'.placement = r.placement) (hc : r'.color = (color.h, color.s, color.l)) :
    Aligned ⟨pen.placement, color⟩ r' (t :: since) where
  scale := hp ▸ h.scale
  color := hc
  position ht := hp ▸ h.position (List.forall_mem_cons.mp ht).2
  rotation ht := hp ▸ h.rotation (List.forall_mem_cons.mp ht).2

theorem still {pen : Pen} (h : Aligned pen r since) (t : Snapshot × Snapshot)
    (hp : r'.placement = r.placement) (hc : r'.color = r.color) : Aligned pen r' (t :: since) :=
  h.ink t hp (hc.trans h.color)

theorem translate (h : Aligned s.pen r since) (hl : s'.last? = some .translate) {x y : Value}
    (hx : s.pen.placement.x.add (s.operand 1) = .ok x)
    (hy : s.pen.placement.y.add (s.operand 0) = .ok y)
    (hm : Recorder.moved r.placement (.translate (s.operand 1) (s.operand 0)) = .ok r'.placement)
    (hc : r'.color = r.color) :
    Aligned ⟨{ s.pen.placement with x := x.sanitize, y := y.sanitize }, s.pen.color⟩ r'
      ((s, s') :: since) := by
  obtain ⟨rx, hrx, hm⟩ := bind_eq_ok hm
  obtain ⟨ry, hry, hm⟩ := bind_eq_ok hm
  have hp := (Except.ok.inj hm).symm
  refine ⟨hp ▸ h.scale, hc.trans h.color, fun ht => ?_, fun ht => ?_⟩
  · -- Where both were at one place, both sums are the same, and they are not replaced.
    obtain ⟨hn, ht⟩ := List.forall_mem_cons.mp ht
    obtain ⟨hpx, hpy⟩ := h.position ht
    rw [hpx, hx] at hrx
    rw [hpy, hy] at hry
    cases hrx
    cases hry
    obtain ⟨hnx, hny⟩ : s.pen.placement.x.sumReplaced (s.operand 1) = false ∧
        s.pen.placement.y.sumReplaced (s.operand 0) = false := by
      simpa [replacesPosition, hl] using hn
    rw [hp]
    exact ⟨(Value.sanitize_sum hx hnx).symm, (Value.sanitize_sum hy hny).symm⟩
  · exact hp ▸ h.rotation (List.forall_mem_cons.mp ht).2

theorem rotate (h : Aligned s.pen r since) (hl : s'.last? = some .rotate) {rotation : Value}
    (hr : s.pen.placement.rotation.add (s.operand 0) = .ok rotation)
    (hm : Recorder.moved r.placement (.rotate (s.operand 0)) = .ok r'.placement)
    (hc : r'.color = r.color) :
    Aligned ⟨{ s.pen.placement with rotation := rotation.sanitize }, s.pen.color⟩ r'
      ((s, s') :: since) := by
  obtain ⟨rr, hrr, hm⟩ := bind_eq_ok hm
  have hp := (Except.ok.inj hm).symm
  refine ⟨hp ▸ h.scale, hc.trans h.color, fun ht => ?_, fun ht => ?_⟩
  · exact hp ▸ h.position (List.forall_mem_cons.mp ht).2
  · obtain ⟨hn, ht⟩ := List.forall_mem_cons.mp ht
    rw [h.rotation ht, hr] at hrr
    cases hrr
    have hnr : s.pen.placement.rotation.sumReplaced (s.operand 0) = false := by
      simpa [replacesRotation, hl] using hn
    rw [hp]
    exact (Value.sanitize_sum hr hnr).symm

theorem scale_by (h : Aligned s.pen r since) {scale : Value}
    (hs : rescale s.pen.placement.scale (s.operand 0) = .ok scale)
    (hm : Recorder.moved r.placement (.scale (s.operand 0)) = .ok r'.placement)
    (hc : r'.color = r.color) :
    Aligned ⟨{ s.pen.placement with scale }, s.pen.color⟩ r' ((s, s') :: since) := by
  obtain ⟨rs, hrs, hm⟩ := bind_eq_ok hm
  have hp := (Except.ok.inj hm).symm
  rw [h.scale, hs] at hrs
  cases hrs
  refine ⟨by rw [hp], hc.trans h.color, fun ht => ?_, fun ht => ?_⟩
  · exact hp ▸ h.position (List.forall_mem_cons.mp ht).2
  · exact hp ▸ h.rotation (List.forall_mem_cons.mp ht).2

/-- The calls that bring a pen back put the recorder in step with it, wherever it was. -/
theorem restore {pen : Pen} (hs : pen.placement.scale.IsScale)
    (hm : (restoringCalls pen).foldlM Recorder.moved r.placement = .ok r'.placement)
    (hc : r'.color = (restoringCalls pen).foldl Recorder.inked r.color)
    (since : List (Snapshot × Snapshot)) : Aligned pen r' since := by
  have hs' : pen.placement.scale.sanitize.atLeast leastScale = .ok pen.placement.scale := hs
  have hp : r'.placement = pen.placement := by
    simp only [restoringCalls, List.foldlM_cons, List.foldlM_nil, Recorder.moved, hs'] at hm
    exact (Except.ok.inj hm).symm
  exact ⟨by rw [hp], hc, fun _ => by rw [hp]; exact ⟨rfl, rfl⟩, fun _ => by rw [hp]⟩

end Aligned

structure Scaled (pen : Pen) (saved : List Pen) : Prop where
  now : pen.placement.scale.IsScale
  saved : ∀ p ∈ saved, p.placement.scale.IsScale

/-- What holds of the scales of all pens and of every new scale holds of them after an
instruction. -/
theorem PenEffect.forall_scale {P : Value → Prop} {s : Snapshot} {op : Opcode} {pen : Pen}
    {saved : List Pen} (h : PenEffect s op pen saved)
    (hr : ∀ v, rescale s.pen.placement.scale (s.operand 0) = .ok v → P v)
    (hs : ∀ p ∈ s.pen :: s.saved, P p.placement.scale) :
    ∀ p ∈ pen :: saved, P p.placement.scale := by
  obtain ⟨hn, hall⟩ := List.forall_mem_cons.mp hs
  cases h with
  | translate | rotate | color => exact List.forall_mem_cons.mpr ⟨hn, hall⟩
  | scale h => exact List.forall_mem_cons.mpr ⟨hr _ h, hall⟩
  | save => exact List.forall_mem_cons.mpr ⟨hn, hs⟩
  | restore h => exact h ▸ hall
  | restoreNone | still => exact hs

theorem PenEffect.scaled {s : Snapshot} {op : Opcode} {pen : Pen} {saved : List Pen}
    (h : PenEffect s op pen saved) (hs : Scaled s.pen s.saved) : Scaled pen saved := by
  have hall := h.forall_scale (P := Value.IsScale) ?_ (List.forall_mem_cons.mpr ⟨hs.now, hs.saved⟩)
  · obtain ⟨hn, hr⟩ := List.forall_mem_cons.mp hall
    exact ⟨hn, hr⟩
  · intro v hv
    obtain ⟨product, -, hv⟩ := bind_eq_ok hv
    exact Value.isScale_of_atLeast hv

theorem calls_of_still {op : Opcode} (h : op.movesPen = false) (s : Snapshot) (p : Placement)
    (color : Value × Value × Value) :
    (callsOf s op).foldlM Recorder.moved p = .ok p ∧
      (callsOf s op).foldl Recorder.inked color = color := by
  cases op <;> first | exact ⟨rfl, rfl⟩ | cases h

theorem Aligned.turn {s s' : Snapshot} {op : Opcode} {r r' : Recorder} {pen : Pen}
    {saved : List Pen} {ts : List (Snapshot × Snapshot)} (h : Aligned s.pen r (sinceRestore ts))
    (hs : Scaled s.pen s.saved) (hl : s'.last? = some op) (hp : PenEffect s op pen saved)
    (hc : (performAll (callsOf s op)).run r = .ok () r') :
    Aligned pen r' (sinceRestore (ts ++ [(s, s')])) := by
  obtain ⟨hm, hk⟩ := Recorder.performAll_eq_ok hc
  have hback (hn : op ≠ .restore ∨ s.saved = []) := sinceRestore_concat_of_ne hl hn ts
  cases hp with
  | translate hx hy =>
    rw [hback (.inl (by decide))]
    exact h.translate hl hx hy (by simpa [callsOf] using hm) hk
  | rotate hr =>
    rw [hback (.inl (by decide))]
    exact h.rotate hl hr (by simpa [callsOf] using hm) hk
  | scale hz =>
    rw [hback (.inl (by decide))]
    exact h.scale_by hz (by simpa [callsOf] using hm) hk
  | color =>
    rw [hback (.inl (by decide))]
    exact h.ink (s, s') (Except.ok.inj hm).symm hk
  | save =>
    rw [hback (.inl (by decide))]
    exact h.still (s, s') (Except.ok.inj hm).symm hk
  | @restore pen rest hr =>
    have hcalls : callsOf s .restore = restoringCalls pen := by simp [callsOf, hr]
    rw [hcalls] at hm hk
    exact .restore (hs.saved pen (by simp [hr])) hm hk _
  | restoreNone hn =>
    rw [hback (.inr hn)]
    rw [callsOf, hn] at hm hk
    exact h.still (s, s') (Except.ok.inj hm).symm hk
  | still ho =>
    obtain ⟨hm', hk'⟩ := calls_of_still ho s r.placement r.color
    rw [hback (.inl (by rintro rfl; cases ho))]
    rw [hm'] at hm
    rw [hk'] at hk
    exact h.still (s, s') (Except.ok.inj hm).symm hk

namespace Flat

structure InStep (first : Snapshot) (c : Flat Recorder) : Prop where
  account : Accounted first c
  scaled : c.fault? = none → Scaled c.machine.now.pen c.machine.now.saved
  aligned : c.fault? = none → Aligned c.machine.now.pen c.machine.surface
    (sinceRestore (turns first c.machine.trace.toList))

theorem InStep.moves {first : Snapshot} {c d : Flat Recorder} (h : InStep first c)
    (hm : Moves c d) : InStep first d := by
  refine ⟨h.account.moves hm, fun hf => ?_, fun hf => ?_⟩ <;>
    rcases h.account.quiet_or_executes hm with hq | ⟨i, op, he⟩
  · obtain ⟨hc, hn, -⟩ := hq.kept hf
    rw [hn]
    exact h.scaled hc
  · have hc := h.account.fault_none (ne_nil_of_upcoming he.upcoming)
    exact he.turn.pens.scaled (h.scaled hc)
  · obtain ⟨hc, hn, hs⟩ := hq.kept hf
    rw [hn, hs, hq.trace]
    exact h.aligned hc
  · have hc := h.account.fault_none (ne_nil_of_upcoming he.upcoming)
    rw [he.turns_eq h.account]
    exact (h.aligned hc).turn (h.scaled hc) he.turn.last he.turn.pens he.does.calls

theorem start_inStep (program : List Instruction) (m : Machine Recorder) :
    InStep m.prepare.now (start program m.prepare) where
  account := start_accounted program rfl rfl rfl
  scaled _ := ⟨Value.isScale_real (by decide +kernel) (by decide +kernel),
    fun _ hp => (List.not_mem_nil hp).elim⟩
  aligned _ := ⟨rfl, rfl, fun _ => ⟨rfl, rfl⟩, fun _ => rfl⟩

theorem Executed.inStep {tokens : List Token} {m : Machine Recorder} {n : Nat} {c : Flat Recorder}
    (h : Executed tokens m n c) : InStep m.prepare.now c :=
  h.reached.keeps (fun c hc => hc.moves (moves_advance c)) (start_inStep _ m)

end Flat

/-- Once some instructions of a run have been executed, the recorder has the scale and the color of
the last snapshot, and its position and rotation too, unless a sum has been replaced since the start
of the run or since a saved pen was last brought back. -/
theorem run_aligned (tokens : List Token) (m : Machine Recorder) {k : Nat} {s : Snapshot}
    (hk : (run tokens m).1.trace[k]? = some s) :
    (∃ c, Flat.Executed tokens m (k + 1) c) ∧
      ∀ c, Flat.Executed tokens m (k + 1) c →
        Aligned s.pen c.machine.surface
          (sinceRestore (turns m.prepare.now ((run tokens m).1.trace.toList.take (k + 1)))) := by
  refine ⟨Flat.exists_executed (Array.getElem?_eq_some_iff.mp hk).1, fun c hc => ?_⟩
  rw [← hc.trace_eq, ← hc.now_eq hk]
  exact hc.inStep.aligned hc.fault

/-- A sum of coordinates is replaced, and then the pen saved before it is brought back. -/
theorem run_aligned_overflow :
    let op (o : Opcode) : Token := ⟨[], .instruction o, 0, 0⟩
    let push (v : Value) : List Token := [op .push, ⟨[], .operand v, 0, 0⟩]
    let far := push (.real 1e308) ++ push (.int 0) ++ [op .translate]
    let tokens := [op .start, op .save] ++ far ++ far ++ [op .restore]
    let m := initial Recorder.blank defaultBudget (.int 1)
    let states := (run tokens m).1.trace
    (turns m.prepare.now states.toList).any replacesPosition = true ∧
      ∃ s c, states[8]? = some s ∧ Flat.Executed tokens m 9 c ∧
        c.machine.surface.placement.x = s.pen.placement.x := by
  intro op push far tokens m states
  have hs : (states[8]?).isSome = true := by decide +kernel
  obtain ⟨s, hk⟩ := Option.isSome_iff_exists.mp hs
  obtain ⟨⟨c, hc⟩, ha⟩ := run_aligned tokens m hk
  have hsince : sinceRestore (turns m.prepare.now (states.toList.take 9)) = [] := by decide +kernel
  have hp := ((ha c hc).position fun t ht => by rw [hsince] at ht; cases ht).1
  exact ⟨by decide +kernel, s, c, hk, hc, hp⟩

end Machine

end Triplet
