import Mathlib.Data.List.Forall2
import Triplet.Proofs.Assembly
import Triplet.Proofs.Budget
import Triplet.Proofs.Effects
import Triplet.Proofs.Lockstep

/-! # Missing operands

An instruction that finds too few values on the stack goes on with zeros. So a program runs as it
would with zeros pushed right after its start codon: the two runs draw the same, and their stacks
differ by zeros at the bottom, of which every missing operand uses one up.
-/

namespace Triplet

namespace Snapshot

/-- Two states with the same pens and up to `k` zeros more at the bottom of the second stack. -/
structure Cushioned (k : Nat) (s s' : Snapshot) : Prop where
  pen : s'.pen = s.pen
  saved : s'.saved = s.saved
  stack : ∃ j ≤ k, s'.stack = s.stack ++ List.replicate j (.int 0)

/-- Two states at the same instruction, the second of them `k` instructions and `2 * k` tokens
later. -/
structure Delayed (k : Nat) (s s' : Snapshot) : Prop extends Cushioned k s s' where
  last? : s'.last? = s.last?
  seed : s'.seed = s.seed
  count : s'.count = s.count + k
  pointer : s'.pointer = s.pointer + 2 * k

/-- The states after each of some pushes of zeros, the first of which stands at a place. -/
def zeroed (s : Snapshot) (place : Nat) : Nat → List Snapshot
  | 0 => []
  | k + 1 =>
    let next := { s with
      stack := .int 0 :: s.stack, count := s.count + 1, pointer := place, last? := some .push }
    next :: next.zeroed (place + 2) k

theorem Cushioned.operand_zero {k : Nat} {s s' : Snapshot} (h : Cushioned k s s') :
    s'.operand 0 = s.operand 0 := by
  obtain ⟨j, -, hs⟩ := h.stack
  rw [operand, operand, hs]
  cases s.stack with
  | nil => cases j <;> rfl
  | cons v rest => rfl

end Snapshot

namespace Machine

open Program (assemble entry insertAfterStart pairs zeroPushes)

variable {σ α : Type}

structure Padded (k : Nat) (m m' : Machine σ) : Prop where
  surface : m'.surface = m.surface
  now : Snapshot.Cushioned k m.now m'.now

/-- The accounts of two runs: after `head` and `head'` their traces go together. -/
structure Accompanies (k : Nat) (head head' : List Snapshot) (m m' : Machine σ) : Prop where
  budget : m'.budget = m.budget + k
  truncated : m'.truncated = m.truncated
  seed : m'.now.seed = m.now.seed
  count : m'.now.count = m.now.count + k
  trace : ∃ states states', m.trace.toList = head ++ states ∧ m'.trace.toList = head' ++ states' ∧
    List.Forall₂ (Snapshot.Delayed k) states states'

structure Between (k : Nat) (head head' : List Snapshot) (m m' : Machine σ) : Prop where
  padded : Padded k m m'
  account : Accompanies k head head' m m'

structure Amid (k : Nat) (head head' : List Snapshot) (m m' : Machine σ) : Prop extends
    Between k head head' m m' where
  last? : m'.now.last? = m.now.last?
  pointer : m'.now.pointer = m.now.pointer + 2 * k

variable {k : Nat} {head head' : List Snapshot} {m m' m₁ m₁' : Machine σ}

/-- Where the first machine goes on with a zero, the second takes one of its own. -/
theorem Padded.popped (h : Padded k m m') : Padded k m.popped m'.popped := by
  obtain ⟨j, hj, hs⟩ := h.now.stack
  refine ⟨h.surface, h.now.pen, h.now.saved, ?_⟩
  cases hm : m.now.stack with
  | nil => exact ⟨j - 1, by omega, by simp [Machine.popped, hs, hm]⟩
  | cons v rest => exact ⟨j, hj, by simp [Machine.popped, hs, hm]⟩

theorem Padded.pushed (h : Padded k m m') (v : Value) : Padded k (m.pushed v) (m'.pushed v) := by
  obtain ⟨j, hj, hs⟩ := h.now.stack
  exact ⟨h.surface, h.now.pen, h.now.saved, j, hj, congrArg (v :: ·) hs⟩

theorem Elementary.lockstep_padded [Surface σ] {a : Exec σ α} (h : Elementary a) :
    Lockstep (fun _ => False) (Padded k) (Padded k) (Padded k) a a := by
  induction h with
  | pure x => exact .pure x
  | bind _ _ ih ih' => exact ih.bind ih'
  | attempt r =>
    intro m m' h
    cases r with
    | ok x => exact .ok h
    | error f => exact .stop h
  | pop =>
    intro m m' h
    rw [run_pop, run_pop, h.now.operand_zero]
    exact .ok h.popped
  | push v => exact fun m m' h => .ok (h.pushed v.sanitize)
  | draw call =>
    intro m m' h
    simp only [EStateM.run, Machine.draw, h.surface]
    cases Surface.perform call m.surface with
    | ok u s => exact .ok ⟨rfl, h.now⟩
    | error f s => exact .stop ⟨rfl, h.now⟩
  | @pens _ next _ ih =>
    intro m m' h
    change Follows _ _ _ _ ((next m'.now.pen m'.now.saved).run m')
    rw [h.now.pen, h.now.saved]
    exact ih m.now.pen m.now.saved m m' h
  | setPens g =>
    intro m m' h
    refine .ok ⟨h.surface, ?_, ?_, h.now.stack⟩
    · exact congrArg₂ (fun pen saved => (g pen saved).1) h.now.pen h.now.saved
    · exact congrArg₂ (fun pen saved => (g pen saved).2) h.now.pen h.now.saved

theorem Amid.congr (h : Amid k head head' m m') (hm : SameAccount m m₁) (hm' : SameAccount m' m₁')
    (hp : Padded k m₁ m₁') : Amid k head head' m₁ m₁' where
  padded := hp
  account := by
    refine ⟨?_, ?_, ?_, ?_, ?_⟩
    · rw [hm.budget, hm'.budget, h.account.budget]
    · rw [hm.truncated, hm'.truncated, h.account.truncated]
    · rw [hm.seed, hm'.seed, h.account.seed]
    · rw [hm.count, hm'.count, h.account.count]
    · rw [hm.trace, hm'.trace]
      exact h.account.trace
  last? := by rw [hm.last?, hm'.last?, h.last?]
  pointer := by rw [hm.pointer, hm'.pointer, h.pointer]

theorem Amid.recorded (h : Amid k head head' m m') :
    Between k head head' m.recorded m'.recorded where
  padded := ⟨h.padded.surface, h.padded.now⟩
  account := by
    refine ⟨h.account.budget, h.account.truncated, h.account.seed, h.account.count, ?_⟩
    obtain ⟨states, states', ht, ht', hs⟩ := h.account.trace
    refine ⟨states ++ [m.now], states' ++ [m'.now], ?_, ?_, ?_⟩
    · rw [Machine.recorded, Array.toList_push, ht, List.append_assoc]
    · rw [Machine.recorded, Array.toList_push, ht', List.append_assoc]
    · refine List.rel_append hs (.cons ⟨h.padded.now, h.last?, h.account.seed, ?_, h.pointer⟩ .nil)
      exact h.account.count

structure Zeroed (place k : Nat) (m m' : Machine σ) : Prop where
  surface : m'.surface = m.surface
  budget : m'.budget = m.budget
  truncated : m'.truncated = m.truncated
  pen : m'.now.pen = m.now.pen
  saved : m'.now.saved = m.now.saved
  seed : m'.now.seed = m.now.seed
  count : m'.now.count = m.now.count + k
  stack : m'.now.stack = List.replicate k (.int 0) ++ m.now.stack
  trace : m'.trace.toList = m.trace.toList ++ m.now.zeroed place k

theorem Zeroed.between {place : Nat} (h : Zeroed place k (m.withBudget (m.budget + k)) m')
    (hs : m.now.stack = []) (ht : m.trace.toList = [m.now]) :
    Between k [m.now] (m.now :: m.now.zeroed place k) m m' := by
  have hs' : m'.now.stack = m.now.stack ++ List.replicate k (.int 0) := by
    rw [h.stack, show (m.withBudget (m.budget + k)).now.stack = [] from hs, hs, List.append_nil,
      List.nil_append]
  have ht' : m'.trace.toList = m.now :: m.now.zeroed place k := by
    rw [h.trace, show (m.withBudget (m.budget + k)).trace.toList = [m.now] from ht]
    rfl
  exact ⟨⟨h.surface, h.pen, h.saved, k, Nat.le_refl k, hs'⟩, h.budget, h.truncated, h.seed, h.count,
    [], [], by rw [ht, List.append_nil], by rw [ht', List.append_nil], .nil⟩

variable [Surface σ]

/-- A program and the same program `2 * k` tokens later go together. -/
theorem coupling_padded : Coupling (fun _ : Machine σ => False) (Between k head head')
    (Amid k head head') (Instruction.shift (2 * k)) where
  opcode? _ := rfl
  operand _ := rfl
  tick i op m m' h := by
    have hb : m'.budget ≤ m'.now.count ↔ m.budget ≤ m.now.count := by
      rw [h.account.budget, h.account.count]
      omega
    have hc := h.account.count
    rw [run_tick, run_tick, if_congr hb rfl rfl]
    split
    · exact .stop ⟨⟨h.padded.surface, h.padded.now⟩, h.account.budget, rfl, h.account.seed, hc,
        h.account.trace⟩
    · refine .ok ⟨⟨⟨h.padded.surface, h.padded.now.pen, h.padded.now.saved, h.padded.now.stack⟩,
        h.account.budget, h.account.truncated, h.account.seed, ?_, h.account.trace⟩, rfl, rfl⟩
      rw [counted, counted, hc]
      exact Nat.add_right_comm ..
  elementary {_ a} ha m m' h := by
    have hc (hp : Padded k (lastState (a.run m)) (lastState (a.run m'))) :=
      h.congr (ha.sameAccount rfl) (ha.sameAccount rfl) hp
    exact (ha.lockstep_padded m m' h.padded).imp (fun hp => (hc hp).toBetween) hc
  record m m' h := .ok h.recorded

theorem run_exec_zeroPushes (codon : List Char) (rest : List Instruction) (k place : Nat)
    (m : Machine σ) (h : m.now.count + k ≤ m.budget) :
    ∃ m', Zeroed place k m m' ∧
      (exec (zeroPushes codon place k ++ rest)).run m = (exec rest).run m' := by
  induction k generalizing place m with
  | zero => exact ⟨m, by constructor <;> simp [Snapshot.zeroed], rfl⟩
  | succ k ih =>
    have hb : ¬ m.budget ≤ m.now.count := by omega
    let m₁ := ((m.counted place .push).pushed (.int 0)).recorded
    obtain ⟨m', hz, hr⟩ := ih (place + 2) m₁ (by
      change m.now.count + 1 + k ≤ m.budget
      omega)
    refine ⟨m', ⟨hz.surface, hz.budget, hz.truncated, hz.pen, hz.saved, hz.seed, ?_, ?_, ?_⟩, ?_⟩
    · rw [hz.count]
      exact Nat.add_right_comm ..
    · rw [hz.stack, List.replicate_succ']
      exact List.append_cons ..
    · have ht : m₁.trace.toList = m.trace.toList ++ [m₁.now] := Array.toList_push
      rw [hz.trace, ht, List.append_assoc]
      rfl
    · rw [zeroPushes, List.cons_append, exec_other rfl (by decide) (by decide), EStateM.run_bind,
        run_tick, if_neg hb, ← hr]
      exact run_push_bind rfl _ _

theorem run_exec_start {i : Instruction} (hi : i.opcode? = some .start) (rest : List Instruction)
    (hb : m.now.count < m.budget) :
    (exec (i :: rest)).run m = (exec rest).run (m.counted i.pointer .start).recorded := by
  rw [exec_other hi (by decide) (by decide), EStateM.run_bind, run_tick, if_neg (by omega)]
  rfl

theorem follows_insertAfterStart {tokens : List Token} {push zero : Token}
    (hp : push.opcode? = some .push) (hz : zero.operand? = some (.int 0))
    (hs : ∃ t ∈ tokens, t.opcode? = some .start) (k : Nat) (m : Machine σ) (hb : 0 < m.budget) :
    ∃ s : Snapshot, s.last? = some .start ∧
      Follows (fun _ => False) (Between k [s] (s :: s.zeroed (s.pointer + 1) k))
        (Between k [s] (s :: s.zeroed (s.pointer + 1) k))
        ((exec (entry (assemble tokens))).run m.prepare)
        ((exec (entry (assemble (insertAfterStart (pairs push zero k) tokens)))).run
          (m.withBudget (m.budget + k)).prepare) := by
  obtain ⟨i, rest, hi, he, he'⟩ := Program.entry_insertAfterStart hp hz k hs
  let first := (m.prepare.counted i.pointer .start).recorded
  have hc : m.prepare.now.count < m.prepare.budget := hb
  have hc' : (m.withBudget (m.budget + k)).prepare.now.count <
      (m.withBudget (m.budget + k)).prepare.budget := Nat.add_pos_left hb k
  have hk : 1 + k ≤ m.budget + k := by omega
  obtain ⟨after, hza, hra⟩ := run_exec_zeroPushes push.codon
    (rest.map (Instruction.shift (2 * k))) k (i.pointer + 1) (first.withBudget (m.budget + k)) hk
  refine ⟨first.now, rfl, ?_⟩
  rw [he, he', run_exec_start hi _ hc, run_exec_start hi _ hc']
  have hf := coupling_padded.exec rest first after (hza.between rfl rfl)
  rw [← hra] at hf
  exact hf

/-- Missing operands are zeros at the bottom of the stack. With `k` zeros pushed right after its
first start codon, and a budget for these pushes, a program makes the same calls; its trace goes
through the pushes and then with that of the program alone, and the stacks differ by zeros at the
bottom. -/
theorem run_insertAfterStart {tokens : List Token} {push zero : Token}
    (hp : push.opcode? = some .push) (hz : zero.operand? = some (.int 0))
    (hs : ∃ t ∈ tokens, t.opcode? = some .start) (k : Nat) (m : Machine σ) (hb : 0 < m.budget) :
    let alone := run tokens m
    let padded := run (insertAfterStart (pairs push zero k) tokens) (m.withBudget (m.budget + k))
    padded.2 = alone.2 ∧ padded.1.surface = alone.1.surface ∧
      padded.1.truncated = alone.1.truncated ∧
      ∃ s states states', alone.1.trace.toList = s :: states ∧ s.last? = some .start ∧
        padded.1.trace.toList = s :: (s.zeroed (s.pointer + 1) k ++ states') ∧
        List.Forall₂ (Snapshot.Delayed k) states states' := by
  intro alone padded
  obtain ⟨s, hl, hf⟩ := follows_insertAfterStart hp hz hs k m hb
  obtain ⟨hfault, hend⟩ := run_of_follows hf
  obtain ⟨states, states', ht, ht', hd⟩ := hend.account.trace
  exact ⟨hfault, hend.padded.surface, hend.account.truncated, s, states, states', ht, hl, ht', hd⟩

/-- Three zeros stand in for the length of a loop's window, for a side of a rectangle, and for one
of two values that are compared; the other one is missing in both runs. -/
theorem run_insertAfterStart_loop :
    let known (op : Opcode) : Token := ⟨[], .instruction op, 0, 0⟩
    let value (v : Value) : Token := ⟨[], .operand v, 0, 0⟩
    let tokens := [known .circle, known .start, known .push, value (.int 2), known .loop,
      known .push, value (.real 1.5), known .rect, known .eq, known .dup, known .loop,
      known .triangle, known .translate, known .stop]
    let m := initial Recorder.blank 9 (.int 1)
    let alone := run tokens m
    let padded := run (insertAfterStart (pairs (known .push) (value (.int 0)) 3) tokens)
      (m.withBudget 12)
    (padded.2 = alone.2 ∧ padded.1.surface = alone.1.surface ∧
      padded.1.truncated = alone.1.truncated ∧
      ∃ s states states', alone.1.trace.toList = s :: states ∧ s.last? = some .start ∧
        padded.1.trace.toList = s :: (s.zeroed (s.pointer + 1) 3 ++ states') ∧
        List.Forall₂ (Snapshot.Delayed 3) states states') ∧
      alone.1.surface.calls.size = 2 ∧ padded.1.truncated = true ∧
      padded.1.now.stack = alone.1.now.stack := by
  intro known value tokens m alone padded
  exact ⟨run_insertAfterStart rfl rfl ⟨known .start, by simp [tokens], rfl⟩ 3 m (by decide),
    by decide +kernel, by decide +kernel, by decide +kernel⟩

end Machine

end Triplet
