import Triplet.Proofs.WholeNumbers

/-! # Numbers of a trace

Every number that a snapshot of a run holds, on the stack, in the pen or in a saved pen, is finite
and stays as it is where numbers are sanitized, whatever the operands are. No scale is less than the
least. In a run of a genome the stack holds integers alone.
-/

namespace Triplet

def Pen.values (p : Pen) : List Value :=
  [p.placement.x, p.placement.y, p.placement.rotation, p.placement.scale, p.color.h, p.color.s,
    p.color.l]

theorem Pen.IsFinite.of_mem_values {p : Pen} (h : p.IsFinite) {v : Value} (hv : v ∈ p.values) :
    v.IsFinite := by
  simp only [Pen.values, List.mem_cons, List.not_mem_nil, or_false] at hv
  rcases hv with rfl | rfl | rfl | rfl | rfl | rfl | rfl
  · exact h.x
  · exact h.y
  · exact h.rotation
  · exact h.scale
  · exact h.h
  · exact h.s
  · exact h.l

theorem Value.IsScale.not_less {v : Value} (h : v.IsScale) :
    v.less (real leastScale) = .ok false := by
  obtain ⟨low, hl, hv⟩ := Machine.bind_eq_ok h
  cases low with
  | true =>
    obtain rfl : real leastScale = v := Except.ok.inj hv
    decide +kernel
  | false =>
    have hs : v.sanitize = v := Except.ok.inj hv
    exact hs ▸ hl

namespace Snapshot

def pens (s : Snapshot) : List Pen := s.pen :: s.saved

def values (s : Snapshot) : List Value := s.stack ++ s.pens.flatMap Pen.values

structure Guarded (s : Snapshot) : Prop where
  sanitized : ∀ v ∈ s.values, v.sanitize = v
  finite : ∀ v ∈ s.values, v.IsFinite
  scales : ∀ p ∈ s.pens, p.placement.scale.less (.real leastScale) = .ok false

theorem Numeric.of_mem_values {K : Value → Prop} {s : Snapshot} (h : s.Numeric K)
    (hK : Machine.Kind K) {v : Value} (hv : v ∈ s.values) : v.IsFinite := by
  rcases List.mem_append.mp hv with hv | hv
  · exact hK.isFinite (h.stack v hv)
  · obtain ⟨p, hp, hv⟩ := List.mem_flatMap.mp hv
    rcases List.mem_cons.mp hp with rfl | hp
    · exact h.pen.of_mem_values hv
    · exact (h.saved p hp).of_mem_values hv

theorem Numeric.guarded {K : Value → Prop} {s : Snapshot} (h : s.Numeric K)
    (hK : Machine.Kind K) (hs : Machine.Scaled s.pen s.saved) : s.Guarded where
  sanitized _ hv := (h.of_mem_values hK hv).sanitize_eq
  finite _ hv := h.of_mem_values hK hv
  scales := by
    intro p hp
    rcases List.mem_cons.mp hp with rfl | hp
    · exact hs.now.not_less
    · exact (hs.saved p hp).not_less

end Snapshot

namespace Machine

theorem Flat.exists_executed_of_mem {σ : Type} [Surface σ] {tokens : List Token} {m : Machine σ}
    {s : Snapshot} (h : s ∈ (run tokens m).1.trace) :
    ∃ n c, Executed tokens m n c ∧ c.machine.now = s := by
  obtain ⟨k, hk⟩ := Array.getElem?_of_mem h
  obtain ⟨c, hc⟩ := exists_executed (Array.getElem?_eq_some_iff.mp hk).1
  exact ⟨k + 1, c, hc, hc.now_eq hk⟩

/-- Whatever numbers the operands are, every snapshot of a run holds finite numbers alone, which
need no sanitizing, and no scale below the least; and if the tokens are those of a text, then the
stack of every snapshot holds integers alone. -/
theorem run_guarded {tokens : List Token}
    (h : ∀ t ∈ tokens, ∀ v, t.operand? = some v → v.IsNumber) (m : Machine Recorder) :
    (∀ s ∈ (run tokens m).1.trace, s.Guarded) ∧
      ∀ text, tokens = Genome.tokens text →
        ∀ s ∈ (run tokens m).1.trace, ∀ v ∈ s.stack, v.IsInteger := by
  refine ⟨fun s hs => ?_, fun text ht s hs v hv => ?_⟩
  · obtain ⟨n, c, hc, rfl⟩ := Flat.exists_executed_of_mem hs
    have hn := (hc.sound (fun t ht v hv => (h t ht v hv).isFinite_sanitize) kind_isFinite).numeric
    exact hn.guarded kind_isFinite (hc.inStep.scaled hc.fault)
  · subst ht
    obtain ⟨n, c, hc, rfl⟩ := Flat.exists_executed_of_mem hs
    have hn := (hc.sound (fun t ht v hv => (Genome.operand_integer ht hv).isWhole_sanitize)
      kind_isWhole).numeric
    exact (hn.stack v hv).isInteger

/-- Operands that are no numbers at all, infinite or too large, a scale that overflows and one that
is brought back; and a text that divides by zero and multiplies in a loop. -/
theorem run_guarded_extremes :
    let op (o : Opcode) : Token := ⟨[], .instruction o, 0, 0⟩
    let push (v : Value) : List Token := [op .push, ⟨[], .operand v, 0, 0⟩]
    let tokens := [op .start] ++ push (.real (0.0 / 0.0)) ++ push (.int (10 ^ 400 : Nat)) ++
      [op .div] ++ push (.real 1e308) ++ [op .scale, op .save] ++ push (.real 1e308) ++
      [op .dup, op .mul] ++ push (.real (1.0 / 0.0)) ++ [op .color] ++ push (.real 1e308) ++
      [op .scale, op .restore]
    let m := initial Recorder.blank defaultBudget (.int 0)
    let read := Genome.tokens "ATG GAA TTT GAA AAA CAT GAA CCC GAA AAG GAA TTT CAA ATA CTT".toList
    (run tokens m).1.trace.size = 15 ∧ (∀ s ∈ (run tokens m).1.trace, s.Guarded) ∧
      (run read m).1.trace.size = 134 ∧ ∀ s ∈ (run read m).1.trace, ∀ v ∈ s.stack, v.IsInteger := by
  intro op push tokens m read
  have ht : ∀ t ∈ tokens, ∀ v, t.operand? = some v → v.IsNumber := by decide +kernel
  have hr : ∀ t ∈ read, ∀ v, t.operand? = some v → v.IsNumber := by decide +kernel
  refine ⟨by decide +kernel, (run_guarded ht m).1, by decide +kernel, ?_⟩
  exact (run_guarded hr m).2 _ rfl

end Machine

end Triplet
