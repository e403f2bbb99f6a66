import Triplet.Proofs.Alignment
import Triplet.Proofs.Recording

/-! # Calls dictated by a trace

What a run draws can be read off its trace alone: each snapshot names an opcode, and the stack and
the saved pens of the snapshot before it give the measures. The values on a stack are finite, so
that a machine that takes them off again leaves them as they are.
-/

namespace Triplet

namespace Recorder

theorem calls_performAll {calls : List Call} {r r' : Recorder} {u : Unit}
    (h : (Machine.performAll calls).run r = .ok u r') :
    r'.calls.toList = r.calls.toList ++ calls := by
  refine Machine.performAll_induct
    (P := fun calls r r' => r'.calls.toList = r.calls.toList ++ calls) (by simp) ?_ h
  intro call calls r r₁ r' hp ih
  have hr : Records call (Surface.perform call) := records_perform call
  specialize hr r
  rw [hp] at hr
  have hc : r₁.calls = r.calls.push call := hr
  rw [ih, hc, Array.toList_push, List.append_assoc, List.singleton_append]

end Recorder

namespace Machine

/-- The value at a depth of a stack; below its bottom are zeros. -/
def fromTop (stack : List Value) (depth : Nat) : Value := stack.getD depth (.int 0)

/-- The calls of an opcode, by the stack and the saved pens before it. -/
def dictated (stack : List Value) (saved : List Pen) : Option Opcode → List Call
  | some .circle => [.circle (fromTop stack 0)]
  | some .line => [.line (fromTop stack 0)]
  | some .triangle => [.triangle (fromTop stack 0)]
  | some .rotate => [.rotate (fromTop stack 0)]
  | some .scale => [.scale (fromTop stack 0)]
  | some .rect => [.rect (fromTop stack 1) (fromTop stack 0)]
  | some .ellipse => [.ellipse (fromTop stack 1) (fromTop stack 0)]
  | some .translate => [.translate (fromTop stack 1) (fromTop stack 0)]
  | some .color => [.setColor (fromTop stack 2) (fromTop stack 1) (fromTop stack 0)]
  | some .restore =>
    match saved with
    | [] => []
    | pen :: _ =>
      [.setPosition pen.placement.x pen.placement.y, .setRotation pen.placement.rotation,
        .setScale pen.placement.scale, .setColor pen.color.h pen.color.s pen.color.l]
  | _ => []

/-- The calls of a trace that begins with a stack and some saved pens. -/
def picture (stack : List Value) (saved : List Pen) : List Snapshot → List Call
  | [] => []
  | s :: states => dictated stack saved s.last? ++ picture s.stack s.saved states

def turnCalls (t : Snapshot × Snapshot) : List Call := dictated t.1.stack t.1.saved t.2.last?

theorem picture_eq_turns (first : Snapshot) (states : List Snapshot) :
    picture first.stack first.saved states = (turns first states).flatMap turnCalls := by
  induction states generalizing first with
  | nil => rfl
  | cons s states ih => rw [picture, ih s, turns, List.flatMap_cons, turnCalls]

def Settled {σ : Type} (m : Machine σ) : Prop := ∀ v ∈ m.now.stack, v.sanitize = v

theorem operand_eq_fromTop {s : Snapshot} (h : ∀ v ∈ s.stack, v.sanitize = v) (depth : Nat) :
    s.operand depth = fromTop s.stack depth := by
  rw [Snapshot.operand, fromTop, List.getD_eq_getElem?_getD]
  cases hv : s.stack[depth]? with
  | none => rfl
  | some v => exact h v (List.mem_of_getElem? hv)

theorem callsOf_eq_dictated {s : Snapshot} (h : ∀ v ∈ s.stack, v.sanitize = v) (op : Opcode) :
    callsOf s op = dictated s.stack s.saved (some op) := by
  cases op with
  | restore =>
    simp only [callsOf, dictated]
    cases s.saved with
    | nil => rfl
    | cons pen rest => simp [restoringCalls]
  | _ => simp only [callsOf, dictated, operand_eq_fromTop h]

variable {σ α : Type} [Surface σ]

theorem Elementary.settled {a : Exec σ α} (h : Elementary a) {m : Machine σ} (hs : m.Settled) :
    (lastState (a.run m)).Settled := by
  induction h generalizing m with
  | pure | setPens => exact hs
  | @bind _ _ a next _ _ ih ih' =>
    have h := ih hs
    rw [EStateM.run_bind]
    cases hr : a.run m with
    | ok x m' =>
      rw [hr] at h
      exact ih' x h
    | error e m' =>
      rw [hr] at h
      exact h
  | attempt r => cases r <;> exact hs
  | pop =>
    rw [run_pop]
    exact fun v hv => hs v (List.mem_of_mem_tail hv)
  | push v => exact List.forall_mem_cons.mpr ⟨v.sanitize_sanitize, hs⟩
  | draw call =>
    simp only [EStateM.run, Machine.draw]
    cases Surface.perform call m.surface <;> exact hs
  | pens _ ih => exact ih m.now.pen m.now.saved hs

namespace Flat

theorem Moves.settled {c d : Flat σ} (hm : Moves c d) (h : c.machine.Settled) :
    d.machine.Settled := by
  have key {f : Frame} {i : Instruction} {op : Opcode}
      {r : EStateM.Result Stop (Machine σ) (Option (List Frame))}
      (hr : (f.effect i op).run (c.machine.counted i.pointer op) = r) :
      (lastState r).Settled := by
    rw [← hr]
    exact (Elementary.effect f i op).settled h
  cases hm with
  | control | truncated => exact h
  | executed _ _ _ _ he | stopped _ _ _ _ he | failed _ _ _ _ he => exact key he

structure Pictured (first : Snapshot) (c : Flat Recorder) : Prop where
  account : Accounted first c
  settled : c.machine.Settled
  calls : c.fault? = none →
    c.machine.surface.calls.toList = (turns first c.machine.trace.toList).flatMap turnCalls

theorem Pictured.moves {first : Snapshot} {c d : Flat Recorder} (h : Pictured first c)
    (hm : Moves c d) : Pictured first d := by
  refine ⟨h.account.moves hm, hm.settled h.settled, fun hf => ?_⟩
  rcases h.account.quiet_or_executes hm with hq | ⟨i, op, he⟩
  · obtain ⟨hc, -, hs⟩ := hq.kept hf
    rw [hs, hq.trace]
    exact h.calls hc
  · -- The calls of the instruction are those that its turn dictates.
    have hc := h.account.fault_none (ne_nil_of_upcoming he.upcoming)
    have hl : d.machine.now.last? = some op := he.turn.last
    rw [Recorder.calls_performAll he.does.calls, h.calls hc, he.turns_eq h.account,
      callsOf_eq_dictated h.settled, List.flatMap_append, List.flatMap_singleton, turnCalls, hl]

theorem start_pictured (program : List Instruction) (m : Machine Recorder) :
    Pictured m.prepare.now (start program m.prepare) where
  account := start_accounted program rfl rfl rfl
  settled _ hv := (List.not_mem_nil hv).elim
  calls _ := rfl

end Flat

/-- The calls that a run records are dictated by its trace alone, and nothing else is recorded. -/
theorem run_picture (tokens : List Token) (m : Machine Recorder)
    (hf : (run tokens m).2 = none) :
    (run tokens m).1.surface.calls.toList = picture [] [] (run tokens m).1.trace.toList := by
  have h := Flat.run_invariant tokens m (Flat.start_pictured _ m)
    fun c h => h.moves (Flat.moves_advance c)
  rw [h.calls hf]
  exact (picture_eq_turns m.prepare.now _).symm

/-- A run that takes a measure from below the stack, passes over an unknown codon, brings a pen back
in each pass of a loop, and is truncated. -/
theorem run_picture_loop :
    let tokens := Genome.tokens
      "ATG GAA AAC CCA TCA GAA ACA GAA AAG CAA AGA NNN TCG TCA AAA TAA".toList
    let m := initial Recorder.blank 12 (.int 1)
    (run tokens m).2 = none ∧ (run tokens m).1.truncated = true ∧
      (run tokens m).1.surface.calls.toList = picture [] [] (run tokens m).1.trace.toList ∧
      (run tokens m).1.surface.calls.size = 11 := by
  intro tokens m
  have hf : (run tokens m).2 = none := by decide +kernel
  exact ⟨hf, by decide +kernel, run_picture tokens m hf, by decide +kernel⟩

end Machine

end Triplet
