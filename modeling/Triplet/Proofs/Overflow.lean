import Triplet.Proofs.Alignment
import Triplet.Proofs.StackKinds

/-! # Overflow of a recorder

A recorder adds up positions and rotations without keeping them finite. So a sum of integers can
become too large for a double, and then no double can be added to it. Nothing else fails in a run on
numbers; and it happens only if a sum of the pen was replaced, since the pen stays finite and the
recorder goes with it otherwise.
-/

namespace Triplet

namespace Value

/-- Whether a double would be added to an integer that is too large for a double. -/
def overflows : Value → Value → Bool
  | int n, real _ => !(Number.int n).isFinite
  | _, _ => false

variable {v w : Value}

theorem add_of_overflows (h : v.overflows w = true) : v.add w = .error .tooLarge := by
  rw [overflows.eq_def] at h
  split at h
  · rename_i n x
    have hn : (Number.int n).toDouble = .error .tooLarge :=
      if_neg (by simpa [Number.isFinite] using h)
    simp only [add, toNumber, Number.add, Number.combine, bind, Except.bind, hn]
  · cases h

theorem IsFinite.overflows_eq_false (h : IsFinite v) (w : Value) : v.overflows w = false := by
  obtain ⟨n, rfl, hn⟩ := h
  rw [overflows.eq_def]
  split
  · rename_i k x hk
    obtain rfl : n = .int k := by simpa using hk
    rw [hn]
    rfl
  · rfl

theorem IsNumber.add (hv : IsNumber v) (hw : IsFinite w) (h : v.overflows w = false) :
    ∃ s, v.add w = .ok s ∧ IsNumber s := by
  obtain ⟨a, rfl⟩ := hv
  obtain ⟨b, rfl, hb⟩ := hw
  have hs : ∃ s, a.add b = .ok s := by
    have hb' := Number.toDouble_of_isFinite hb
    cases a with
    | real x => exact Number.combine_of_toDouble _ _ ⟨x, rfl⟩ hb'
    | int n =>
      cases b with
      | int k => exact ⟨_, rfl⟩
      | real y =>
        have hn : (Number.int n).isFinite = true := by simpa [overflows] using h
        exact Number.combine_of_toDouble _ _ (Number.toDouble_of_isFinite hn) hb'
  obtain ⟨s, hs⟩ := hs
  have hr : (number a).add (number b) = .ok (number s) := by
    simp only [Value.add, toNumber, bind, Except.bind, hs]
    rfl
  exact ⟨number s, hr, s, rfl⟩

end Value

/-- A placement by numbers, of which the scale alone is kept finite. -/
structure Placement.IsSum (p : Placement) : Prop where
  x : p.x.IsNumber
  y : p.y.IsNumber
  rotation : p.rotation.IsNumber
  scale : p.scale.IsFinite

namespace Recorder

theorem run_move_bind_of_ok {f : Placement → Except Fault Placement}
    {next : EStateM Fault Recorder Unit} {r : Recorder} {p : Placement}
    (h : f r.placement = .ok p) : (do move f; next).run r = next.run { r with placement := p } := by
  rw [EStateM.run_bind]
  simp only [EStateM.run, move, h]

theorem run_move_bind_of_error {f : Placement → Except Fault Placement}
    {next : EStateM Fault Recorder Unit} {r : Recorder} {e : Fault}
    (h : f r.placement = .error e) : (do move f; next).run r = .error e r := by
  rw [EStateM.run_bind]
  simp only [EStateM.run, move, h]

theorem perform_of_moved {call : Call} {r : Recorder} {p : Placement}
    (h : moved r.placement call = .ok p) :
    (perform call).run r = .ok () ⟨p, inked r.color call, r.calls.push call⟩ := by
  cases call with
  | circle | rect | line | triangle | ellipse | noise | setColor =>
    cases h
    rfl
  | translate dx dy =>
    obtain ⟨x, hx, h⟩ := Machine.bind_eq_ok h
    obtain ⟨y, hy, h⟩ := Machine.bind_eq_ok h
    cases h
    rw [perform, run_move_bind_of_ok (p := { r.placement with x }) (by rw [hx]; rfl),
      run_move_bind_of_ok (p := { r.placement with x, y })]
    · rfl
    · change (do return Placement.mk _ (← r.placement.y.add dy) _ _) = _
      rw [hy]
      rfl
  | rotate | scale | setPosition | setRotation | setScale =>
    rw [perform, run_move_bind_of_ok h]
    rfl

theorem perform_of_moved_error {call : Call} {r : Recorder} {e : Fault}
    (h : moved r.placement call = .error e) : ∃ r', (perform call).run r = .error e r' := by
  cases call with
  | circle | rect | line | triangle | ellipse | noise | setColor | setPosition | setRotation =>
    cases h
  | translate dx dy =>
    rw [moved] at h
    cases hx : r.placement.x.add dx with
    | error e' =>
      rw [hx] at h
      cases h
      exact ⟨r, by rw [perform, run_move_bind_of_error (by rw [hx]; rfl)]⟩
    | ok x =>
      rw [hx] at h
      cases hy : r.placement.y.add dy with
      | ok y =>
        rw [hy] at h
        cases h
      | error e' =>
        rw [hy] at h
        cases h
        refine ⟨{ r with placement := { r.placement with x } }, ?_⟩
        rw [perform, run_move_bind_of_ok (p := { r.placement with x }) (by rw [hx]; rfl),
          run_move_bind_of_error]
        change (do return Placement.mk _ (← r.placement.y.add dy) _ _) = _
        rw [hy]
        rfl
  | rotate | scale | setScale => exact ⟨r, by rw [perform, run_move_bind_of_error h]⟩

theorem performAll_of_moved {calls : List Call} {r : Recorder} {p : Placement}
    (h : calls.foldlM moved r.placement = .ok p) :
    ∃ r', (Machine.performAll calls).run r = .ok () r' ∧ r'.placement = p := by
  induction calls generalizing r with
  | nil =>
    cases h
    exact ⟨r, rfl, rfl⟩
  | cons call calls ih =>
    rw [List.foldlM_cons] at h
    obtain ⟨q, hq, h⟩ := Machine.bind_eq_ok h
    obtain ⟨r', hr, hp⟩ := ih (r := ⟨q, inked r.color call, r.calls.push call⟩) h
    refine ⟨r', ?_, hp⟩
    rw [Machine.performAll, EStateM.run_bind, show (Surface.perform call).run r = _ from
      perform_of_moved hq]
    exact hr

end Recorder

namespace Machine

/-- Whether an instruction would add a double to a sum of the recorder that is too large for it. -/
def overflows (m : Machine Recorder) : Opcode → Bool
  | .translate => m.surface.placement.x.overflows (m.now.operand 1) ||
      m.surface.placement.y.overflows (m.now.operand 0)
  | .rotate => m.surface.placement.rotation.overflows (m.now.operand 0)
  | _ => false

variable {K : Value → Prop} {m : Machine Recorder} {op : Opcode}

section Calls

variable (hK : Kind K) (hn : m.now.Numeric K) (hp : m.surface.placement.IsSum)

include hK hn hp

theorem moved_callsOf (h : m.overflows op = false) :
    ∃ p, (callsOf m.now op).foldlM Recorder.moved m.surface.placement = .ok p ∧ p.IsSum := by
  have hf (depth : Nat) := hK.isFinite (hn.operand hK depth)
  by_cases hm : op.movesPen = false
  · exact ⟨_, (calls_of_still hm m.now _ (.int 0, .int 0, .int 0)).1, hp⟩
  cases op with
  | translate =>
    obtain ⟨hx, hy⟩ := Bool.or_eq_false_iff.mp h
    obtain ⟨x, hx, hnx⟩ := hp.x.add (hf 1) hx
    obtain ⟨y, hy, hny⟩ := hp.y.add (hf 0) hy
    refine ⟨{ m.surface.placement with x, y }, ?_, { hp with x := hnx, y := hny }⟩
    rw [callsOf, List.foldlM_cons, Recorder.moved, hx, hy]
    rfl
  | rotate =>
    obtain ⟨a, ha, hna⟩ := hp.rotation.add (hf 0) h
    refine ⟨{ m.surface.placement with rotation := a }, ?_, { hp with rotation := hna }⟩
    rw [callsOf, List.foldlM_cons, Recorder.moved, ha]
    rfl
  | scale =>
    obtain ⟨a, ha, hfa⟩ := hp.scale.rescale (hf 0)
    refine ⟨{ m.surface.placement with scale := a }, ?_, { hp with scale := hfa }⟩
    rw [callsOf, List.foldlM_cons, Recorder.moved, ha]
    rfl
  | color | save => exact ⟨_, rfl, hp⟩
  | restore =>
    cases hs : m.now.saved with
    | nil => exact ⟨m.surface.placement, by rw [callsOf, hs]; rfl, hp⟩
    | cons pen rest =>
      have hpen := hn.saved pen (by simp [hs])
      obtain ⟨a, ha, hfa⟩ := hpen.scale.atLeast
      rw [← hpen.scale.sanitize_eq] at ha
      refine ⟨{ pen.placement with scale := a }, ?_, hpen.x.isNumber, hpen.y.isNumber,
        hpen.rotation.isNumber, hfa⟩
      rw [callsOf, hs, List.take_succ_cons, List.take_zero, List.flatMap_singleton]
      simp only [restoringCalls, List.foldlM_cons, List.foldlM_nil, Recorder.moved, ha]
      rfl
  | _ => exact (hm rfl).elim

theorem moved_callsOf_overflow (h : m.overflows op = true) :
    ∃ call, callsOf m.now op = [call] ∧
      Recorder.moved m.surface.placement call = .error .tooLarge := by
  have hf (depth : Nat) := hK.isFinite (hn.operand hK depth)
  cases op with
  | translate =>
    refine ⟨_, rfl, ?_⟩
    rw [Recorder.moved]
    cases hx : m.surface.placement.x.overflows (m.now.operand 1) with
    | true =>
      rw [Value.add_of_overflows hx]
      rfl
    | false =>
      have hy : m.surface.placement.y.overflows (m.now.operand 0) = true := by
        simpa [overflows, hx] using h
      obtain ⟨x, hx, -⟩ := hp.x.add (hf 1) hx
      rw [hx, Value.add_of_overflows hy]
      rfl
  | rotate =>
    refine ⟨_, rfl, ?_⟩
    rw [Recorder.moved, Value.add_of_overflows h]
    rfl
  | _ => cases h

/-- An instruction of a run on numbers succeeds unless it makes the recorder overflow. -/
theorem effect_of_not_overflows (f : Frame) {i : Instruction} (ho : K i.operand.sanitize)
    (h : m.overflows op = false) :
    ∃ x m', (f.effect i op).run m = .ok x m' ∧ m'.now.Numeric K ∧ m'.surface.placement.IsSum := by
  obtain ⟨p, hm, hs⟩ := moved_callsOf hK hn hp h
  obtain ⟨r, hr, rfl⟩ := Recorder.performAll_of_moved hm
  obtain ⟨x, m', hx, rfl, hn'⟩ := (performs_effect hK hn f op ho).ok r hr
  exact ⟨x, m', hx, hn', hs⟩

theorem effect_of_overflows (f : Frame) {i : Instruction} (ho : K i.operand.sanitize)
    (h : m.overflows op = true) :
    ∃ m', (f.effect i op).run m = .error (.fault .tooLarge) m' := by
  obtain ⟨call, hc, hm⟩ := moved_callsOf_overflow hK hn hp h
  obtain ⟨r, hr⟩ := Recorder.perform_of_moved_error hm
  refine (performs_effect hK hn f op ho).error .tooLarge r ?_
  rw [hc, performAll, EStateM.run_bind, show (Surface.perform call).run m.surface = _ from hr]

end Calls

namespace Flat

structure Sound (K : Value → Prop) (c : Flat Recorder) : Prop where
  operands : Within (K ·.operand.sanitize) c
  numeric : c.machine.now.Numeric K
  recorder : c.machine.surface.placement.IsSum
  fault : c.fault? = none

/-- The recorder overflows at the next instruction, if the budget allows for it. -/
def Overflows (c : Flat Recorder) : Prop :=
  c.machine.now.count < c.machine.budget ∧
    ∃ op, upcomingOpcode c.frames = some op ∧ c.machine.overflows op = true

structure Overflowed (c d : Flat Recorder) : Prop where
  overflows : c.Overflows
  frames : d.frames = []
  fault : d.fault? = some .tooLarge
  trace : d.machine.trace = c.machine.trace

theorem overflows_counted (m : Machine Recorder) (pointer : Nat) (op op' : Opcode) :
    (m.counted pointer op).overflows op' = m.overflows op' := by
  cases op' <;> rfl

/-- A small step of a run on numbers fails exactly if the recorder overflows. -/
theorem Sound.moves {c d : Flat Recorder} (hK : Kind K) (h : Sound K c) (hm : Moves c d) :
    ¬ c.Overflows ∧ Sound K d ∨ Overflowed c d := by
  have hw := h.operands.moves hm
  have hn (pointer : Nat) (op : Opcode) : (c.machine.counted pointer op).now.Numeric K :=
    ⟨h.numeric.stack, h.numeric.pen, h.numeric.saved⟩
  have fails (f : Frame) {i : Instruction} {op : Opcode} (hi : upcoming c.frames = some i)
      (hv : c.machine.overflows op = true) :=
    effect_of_overflows hK (hn i.pointer op) h.recorder f (h.operands.upcoming hi)
      ((overflows_counted ..).trans hv)
  have works (f : Frame) {i : Instruction} {op : Opcode} (hi : upcoming c.frames = some i)
      (hv : c.machine.overflows op = false) :=
    effect_of_not_overflows hK (hn i.pointer op) h.recorder f (h.operands.upcoming hi)
      ((overflows_counted ..).trans hv)
  cases hm with
  | control hu =>
    refine .inl ⟨?_, hw, h.numeric, h.recorder, h.fault⟩
    rintro ⟨-, op, ho, -⟩
    simp [hu] at ho
  | truncated _ hb =>
    exact .inl ⟨fun hv => Nat.not_lt_of_le hb hv.1, hw, h.numeric, h.recorder, rfl⟩
  | @executed f _ _ i op _ _ hi ho _ he | @stopped f _ i op _ _ hi ho _ he =>
    cases hv : c.machine.overflows op with
    | true =>
      obtain ⟨m', hr⟩ := fails f hi hv
      cases he.symm.trans hr
    | false =>
      obtain ⟨x, m', hr, hn', hp'⟩ := works f hi hv
      cases he.symm.trans hr
      refine .inl ⟨?_, hw, hn', hp', rfl⟩
      rintro ⟨-, op', ho', hv'⟩
      obtain rfl := Option.some.inj ((upcomingOpcode_of_upcoming hi ho).symm.trans ho')
      exact Bool.false_ne_true (hv.symm.trans hv')
  | @failed f _ i op _ _ _ hi ho hb he =>
    cases hv : c.machine.overflows op with
    | true =>
      obtain ⟨m', hr⟩ := fails f hi hv
      have ht := ((Elementary.effect f i op).sameAccount he).trace
      cases he.symm.trans hr
      exact .inr ⟨⟨hb, op, upcomingOpcode_of_upcoming hi ho, hv⟩, rfl, rfl, ht⟩
    | false =>
      obtain ⟨x, m', hr, -⟩ := works f hi hv
      cases he.symm.trans hr

theorem start_sound {program : List Instruction}
    (h : ∀ i ∈ program, K i.operand.sanitize) (m : Machine Recorder) :
    Sound K (start program m.prepare) := by
  have hz : (Value.real 0).IsFinite := ⟨_, rfl, by decide +kernel⟩
  have ho : (Value.real 1).IsFinite := ⟨_, rfl, by decide +kernel⟩
  refine ⟨fun f hf i hi => ?_, ⟨?_, ⟨hz, hz, hz, ho, hz, hz, hz⟩, ?_⟩, ?_, rfl⟩
  · obtain rfl := List.mem_singleton.mp hf
    exact h i hi
  · exact fun _ hv => (List.not_mem_nil hv).elim
  · exact fun _ hp => (List.not_mem_nil hp).elim
  · exact ⟨hz.isNumber, hz.isNumber, hz.isNumber, ho⟩

structure Proceeds (K : Value → Prop) (tokens : List Token) (m : Machine Recorder)
    (c : Flat Recorder) : Prop where
  reached : Reaches (start (Program.entry (Program.assemble tokens)) m.prepare) c
  course : Sound K c ∨ ∃ n d, Executed tokens m n d ∧ Overflowed d c

variable {tokens : List Token} {n : Nat} {c : Flat Recorder}

theorem Proceeds.advance (hK : Kind K) (h : Proceeds K tokens m c) :
    Proceeds K tokens m c.advance := by
  refine ⟨h.reached.trans (.step rfl), ?_⟩
  rcases h.course with hs | ⟨n, d, hd, ho⟩
  · rcases hs.moves hK (moves_advance c) with ⟨-, hs'⟩ | ho
    · exact .inl hs'
    · exact .inr ⟨_, c, ⟨h.reached, hs.fault, rfl⟩, ho⟩
  · rw [advance_of_frames_nil ho.frames]
    exact .inr ⟨n, d, hd, ho⟩

theorem start_proceeds (h : ∀ t ∈ tokens, ∀ v, t.operand? = some v → K v.sanitize)
    (hK : Kind K) (m : Machine Recorder) :
    Proceeds K tokens m (start (Program.entry (Program.assemble tokens)) m.prepare) := by
  exact ⟨.refl _, .inl (start_sound (fun i hi => hK.operand_of_mem h hi) m)⟩

theorem Executed.sound (h : ∀ t ∈ tokens, ∀ v, t.operand? = some v → K v.sanitize) (hK : Kind K)
    (he : Executed tokens m n c) : Sound K c := by
  have hp : Proceeds K tokens m c := he.reached.keeps (fun c hc => hc.advance hK)
    (start_proceeds h hK m)
  rcases hp.course with hs | ⟨n, d, -, ho⟩
  · exact hs
  · cases he.fault.symm.trans ho.fault

theorem Executed.overflowed (h : ∀ t ∈ tokens, ∀ v, t.operand? = some v → K v.sanitize)
    (hK : Kind K) (he : Executed tokens m n c) (ho : c.Overflows) :
    Overflowed c ⟨[], (run tokens m).1, (run tokens m).2⟩ := by
  rcases (he.sound h hK).moves hK (moves_advance c) with ⟨hn, -⟩ | hd
  · exact (hn ho).elim
  · have hr := (he.reached.trans (.step rfl)).ended
    have hk := hr.keeps (P := fun d => d = c.advance)
      (fun d hd' => by rw [hd', advance_of_frames_nil hd.frames]) rfl
    rw [ended_eq_run] at hk
    rwa [hk]

end Flat

/-- A recorder that overflows is not in step with the pen, since the pen is finite. -/
theorem Aligned.exists_replaced {since : List (Snapshot × Snapshot)}
    (h : Aligned m.now.pen m.surface since) (hp : m.now.pen.IsFinite) (ho : m.overflows op = true) :
    ∃ t ∈ since, replacesPosition t = true ∨ replacesRotation t = true := by
  by_contra hn
  have hr (t : Snapshot × Snapshot) (ht : t ∈ since) :
      replacesPosition t = false ∧ replacesRotation t = false := by
    refine ⟨Bool.eq_false_iff.mpr fun h => ?_, Bool.eq_false_iff.mpr fun h => ?_⟩
    · exact hn ⟨t, ht, .inl h⟩
    · exact hn ⟨t, ht, .inr h⟩
  obtain ⟨hx, hy⟩ := h.position fun t ht => (hr t ht).1
  have hrot := h.rotation fun t ht => (hr t ht).2
  have hv : m.overflows op = false := by
    cases op with
    | translate => simp [overflows, hx, hy, hp.x.overflows_eq_false, hp.y.overflows_eq_false]
    | rotate => simp [overflows, hrot, hp.rotation.overflows_eq_false]
    | _ => rfl
  exact Bool.false_ne_true (hv.symm.trans ho)

/-- A run on numbers that fails does so because a recorder overflows, and every overflow makes it
fail; before that, and since a pen was last brought back, a sum of the pen has been replaced. -/
theorem run_fault_iff {tokens : List Token}
    (h : ∀ t ∈ tokens, ∀ v, t.operand? = some v → v.IsNumber) (m : Machine Recorder) (f : Fault) :
    ((run tokens m).2 = some f ↔
      f = .tooLarge ∧ ∃ n c, Flat.Executed tokens m n c ∧ c.Overflows) ∧
    ((run tokens m).2 = some f →
      ∃ t ∈ sinceRestore (turns m.prepare.now (run tokens m).1.trace.toList),
        replacesPosition t = true ∨ replacesRotation t = true) := by
  have h' (t : Token) (ht : t ∈ tokens) (v : Value) (hv : t.operand? = some v) :
      v.sanitize.IsFinite := (h t ht v hv).isFinite_sanitize
  have hK := kind_isFinite
  have hend := Flat.run_invariant tokens m (Flat.start_proceeds h' hK m)
    fun c hc => hc.advance hK
  have key (hf : (run tokens m).2 = some f) :
      f = .tooLarge ∧ ∃ n c, Flat.Executed tokens m n c ∧ c.Overflows ∧
        (run tokens m).1.trace = c.machine.trace := by
    rcases hend.course with hs | ⟨n, c, hc, ho⟩
    · cases hs.fault.symm.trans hf
    · exact ⟨Option.some.inj (hf.symm.trans ho.fault), n, c, hc, ho.overflows, ho.trace⟩
  refine ⟨⟨fun hf => ?_, ?_⟩, fun hf => ?_⟩
  · obtain ⟨he, n, c, hc, ho, -⟩ := key hf
    exact ⟨he, n, c, hc, ho⟩
  · rintro ⟨rfl, n, c, hc, ho⟩
    exact (hc.overflowed h' hK ho).fault
  · obtain ⟨-, n, c, hc, ⟨-, op, -, ho⟩, ht⟩ := key hf
    rw [ht]
    exact (hc.inStep.aligned hc.fault).exists_replaced (hc.sound h' hK).numeric.pen ho

/-- Both coordinates of a recorder add up to integers that are too large for a double, after sums of
the pen have been replaced by zeros and brought back. -/
theorem run_fault_iff_translate :
    let op (o : Opcode) : Token := ⟨[], .instruction o, 0, 0⟩
    let push (v : Value) : List Token := [op .push, ⟨[], .operand v, 0, 0⟩]
    let move (v : Value) : List Token := push v ++ push v ++ [op .translate]
    let far := move (.int (10 ^ 308 : Nat))
    let tokens := [op .start] ++ move (.real 1e308) ++ move (.real 1e308) ++
      [op .save, op .restore] ++ far ++ far ++ move (.real 0.5)
    let m := initial Recorder.blank defaultBudget (.int 1)
    (run tokens m).2 = some .tooLarge ∧
      (∃ n c, Flat.Executed tokens m n c ∧ c.Overflows) ∧
      ∃ t ∈ sinceRestore (turns m.prepare.now (run tokens m).1.trace.toList),
        replacesPosition t = true ∨ replacesRotation t = true := by
  intro op push move far tokens m
  have hf : (run tokens m).2 = some .tooLarge := by decide +kernel
  have ht : ∀ t ∈ tokens, ∀ v, t.operand? = some v → v.IsNumber := by decide +kernel
  have h := run_fault_iff ht m .tooLarge
  exact ⟨hf, (h.1.mp hf).2, h.2 hf⟩

/-- Not every run on numbers succeeds: a rotation that was replaced by zero and brought back adds up
to an integer that is too large for a double, and then meets a double. -/
theorem run_rotations_fault :
    let op (o : Opcode) : Token := ⟨[], .instruction o, 0, 0⟩
    let turn (v : Value) : List Token := [op .push, ⟨[], .operand v, 0, 0⟩, op .rotate]
    let far := turn (.int (10 ^ 308 : Nat))
    let tokens := [op .start] ++ turn (.real 1e308) ++ turn (.real 1e308) ++
      [op .save, op .restore] ++ far ++ far ++ turn (.real 0.5) ++ [op .save, op .restore]
    let m := initial Recorder.blank defaultBudget (.int 0)
    (∀ t ∈ tokens, ∀ v, t.operand? = some v → v.IsNumber) ∧
      (run tokens m).2 = some .tooLarge := by
  decide +kernel

end Machine

end Triplet
