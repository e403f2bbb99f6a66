import Triplet.Proofs.Alignment

/-! # Saved pens

The saved pens are a stack: as long as it is at least as deep as right after a pen was saved, what
was saved then is still its lower part. So the instruction that first takes the pen from there
brings back what was saved, and the recorder is then where it was.
-/

namespace Triplet.Machine

/-- A trace in which a pen is saved and later brought back, and no state in between has fewer saved
pens than there were right after it was saved. -/
structure Bracket (states : List Snapshot) (i j : Nat) (a b : Snapshot) : Prop where
  before : i < j
  first : states[i]? = some a
  last : states[j]? = some b
  saves : a.last? = some .save
  restores : b.last? = some .restore
  depth : b.saved.length = a.saved.length - 1
  above : ∀ s ∈ (states.take j).drop i, a.saved.length ≤ s.saved.length

namespace PenEffect

variable {s : Snapshot} {op : Opcode} {pen : Pen} {saved base : List Pen}

theorem retains (h : PenEffect s op pen saved) (hb : base <:+ s.saved)
    (hl : base.length ≤ saved.length) : base <:+ saved := by
  cases h with
  | translate | rotate | scale | color | restoreNone | still => exact hb
  | save => exact hb.trans (List.suffix_cons ..)
  | restore hr =>
    rw [hr] at hb
    rcases List.suffix_cons_iff.mp hb with rfl | hb
    · exact absurd hl (Nat.not_succ_le_self _)
    · exact hb

theorem saved_of_save (h : PenEffect s .save pen saved) : saved = pen :: s.saved := by
  cases h with
  | save => rfl
  | still h => cases h

/-- An instruction that takes a pen away from a lower part of the saved pens found nothing above
that part, so that it brings back its top. -/
theorem saved_of_restore (h : PenEffect s .restore pen saved) (hb : base <:+ s.saved)
    (hl : saved.length < base.length) : base = pen :: saved ∧ s.saved = pen :: saved := by
  cases h with
  | restore hr =>
    rw [hr] at hb
    exact ⟨hb.eq_of_length_le hl, hr⟩
  | restoreNone | still => exact absurd hb.length_le (Nat.not_le_of_lt hl)

end PenEffect

namespace Bracket

variable {first s : Snapshot} {states : List Snapshot} {i j k : Nat} {a b : Snapshot}

theorem length_le (h : Bracket states i j a b) (hi : i ≤ k) (hj : k < j)
    (hk : states[k]? = some s) : a.saved.length ≤ s.saved.length := by
  refine h.above s (List.mem_of_getElem? (i := k - i) ?_)
  rw [List.getElem?_drop, Nat.add_sub_cancel' hi, List.getElem?_take, if_pos hj, hk]

variable {program : List Instruction}
  (ht : ∀ t ∈ turns first states, ∃ i ∈ program, ∃ op, Turn i op t.1 t.2)

include ht

theorem suffix (h : Bracket states i j a b) (hi : i ≤ k) (hj : k < j)
    (hk : states[k]? = some s) : a.saved <:+ s.saved := by
  -- The induction is on the states since the pen was saved: none of them is too low, so that each
  -- turn between them keeps the lower part.
  induction hi generalizing s with
  | refl =>
    obtain rfl : a = s := Option.some.inj (h.first.symm.trans hk)
    exact List.suffix_rfl
  | @step k hi ih =>
    obtain ⟨hk', -⟩ := List.getElem?_eq_some_iff.mp hk
    have hs := List.getElem?_eq_getElem (Nat.lt_of_succ_lt hk')
    obtain ⟨_, -, op, hturn⟩ := ht _ (List.mem_of_getElem? (getElem?_turns first hs hk))
    have hl := h.length_le (Nat.le_succ_of_le hi) hj hk
    exact hturn.pens.retains (ih (Nat.lt_of_succ_lt hj) hs) hl

theorem saved_cons (h : Bracket states i j a b) : ∃ rest, a.saved = a.pen :: rest := by
  obtain ⟨before, hb⟩ := exists_turn_of_mem first (List.mem_of_getElem? h.first)
  obtain ⟨_, -, op, hturn⟩ := ht _ hb
  obtain rfl : op = .save := Option.some.inj (hturn.last.symm.trans h.saves)
  exact ⟨before.saved, hturn.pens.saved_of_save⟩

/-- The last turn of a bracket brings back the pen that was saved in the first. -/
theorem exists_turn (h : Bracket states i j a b) :
    b.pen = a.pen ∧ ∃ s, (turns first states)[j]? = some (s, b) ∧ bringsBack (s, b) = true := by
  obtain ⟨rest, ha⟩ := h.saved_cons ht
  have hl : b.saved.length < a.saved.length := by
    have := h.depth
    simp only [ha, List.length_cons] at this ⊢
    omega
  obtain ⟨k, rfl⟩ := Nat.exists_eq_add_of_lt h.before
  obtain ⟨hk, -⟩ := List.getElem?_eq_some_iff.mp h.last
  have hs := List.getElem?_eq_getElem (Nat.lt_of_succ_lt hk)
  have hturn := getElem?_turns first hs h.last
  obtain ⟨_, -, op, hb⟩ := ht _ (List.mem_of_getElem? hturn)
  obtain rfl : op = .restore := Option.some.inj (hb.last.symm.trans h.restores)
  have hsuffix := h.suffix ht (Nat.le_add_right i k) (Nat.lt_succ_self _) hs
  obtain ⟨hpen, hsaved⟩ := hb.pens.saved_of_restore hsuffix hl
  refine ⟨(List.cons.inj (ha.symm.trans hpen)).1.symm, _, hturn, ?_⟩
  rw [bringsBack, hsaved, h.restores]
  rfl

end Bracket

theorem Aligned.placement_eq {pen : Pen} {r : Recorder} (h : Aligned pen r []) :
    r.placement = pen.placement := by
  obtain ⟨hx, hy⟩ := h.position fun t ht => (List.not_mem_nil ht).elim
  have hr := h.rotation fun t ht => (List.not_mem_nil ht).elim
  rw [Placement.mk.injEq]
  exact ⟨hx, hy, hr, h.scale⟩

/-- Where a saved pen is brought back, the pen is the one that was saved, and so is the recorder's,
whatever happened in between. -/
theorem run_bracket (tokens : List Token) (m : Machine Recorder) {i j : Nat} {a b : Snapshot}
    (h : Bracket (run tokens m).1.trace.toList i j a b) :
    b.pen = a.pen ∧ (∃ c, Flat.Executed tokens m (j + 1) c) ∧
      ∀ c, Flat.Executed tokens m (j + 1) c →
        c.machine.surface.placement = a.pen.placement ∧
          c.machine.surface.color = (a.pen.color.h, a.pen.color.s, a.pen.color.l) := by
  obtain ⟨hpen, s, hs, hb⟩ := h.exists_turn (Flat.run_kept tokens m).turns
  have hj : (run tokens m).1.trace[j]? = some b := by
    rw [← Array.getElem?_toList]
    exact h.last
  refine ⟨hpen, Flat.exists_executed (Array.getElem?_eq_some_iff.mp hj).1, fun c hc => ?_⟩
  have ha := hc.inStep.aligned hc.fault
  rw [hc.now_eq hj, hpen, hc.trace_eq, turns_take, List.take_add_one, hs, Option.toList_some,
    sinceRestore_concat, if_pos hb] at ha
  exact ⟨ha.placement_eq, ha.color⟩

/-- A bracket around a sum that is replaced and a loop that saves in each pass. -/
theorem run_bracket_loop :
    let op (o : Opcode) : Token := ⟨[], .instruction o, 0, 0⟩
    let push (v : Value) : List Token := [op .push, ⟨[], .operand v, 0, 0⟩]
    let far := push (.real 1e308) ++ push (.int 0) ++ [op .translate]
    let twice := push (.int 1) ++ push (.int 2) ++ [op .loop, op .save]
    let restores := [op .restore, op .restore, op .restore]
    let tokens := [op .start, op .save] ++ far ++ far ++ twice ++ restores
    let m := initial Recorder.blank defaultBudget (.int 1)
    let states := (run tokens m).1.trace.toList
    ∃ a b c, Bracket states 1 15 a b ∧ Flat.Executed tokens m 16 c ∧
      (turns m.prepare.now states).any replacesPosition = true ∧
      c.machine.surface.placement = a.pen.placement := by
  intro op push far twice restores tokens m states
  have h : Bracket states 1 15 (states.getD 1 m.now) (states.getD 15 m.now) :=
    ⟨by decide, by decide +kernel, by decide +kernel, by decide +kernel, by decide +kernel,
      by decide +kernel, by decide +kernel⟩
  obtain ⟨-, ⟨c, hc⟩, hr⟩ := run_bracket tokens m h
  exact ⟨_, _, c, h, hc, by decide +kernel, (hr c hc).1⟩

end Triplet.Machine
