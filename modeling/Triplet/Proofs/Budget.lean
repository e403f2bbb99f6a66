import Triplet.Proofs.Recording

/-! # The budget of a run

Two runs that differ in their budgets go together until the smaller budget is used up. So the
shorter run is a beginning of the longer one, and it is truncated exactly if the longer one goes on.
-/

namespace Triplet.Machine

variable {σ α : Type}

def withBudget (budget : Nat) (m : Machine σ) : Machine σ := { m with budget }

theorem Elementary.run_withBudget [Surface σ] {a : Exec σ α} (h : Elementary a) (budget : Nat)
    (m : Machine σ) : a.run (m.withBudget budget) = onMachine (withBudget budget) (a.run m) :=
  h.run_account (fun _ _ => rfl) m

/-- What has been recorded so far with a smaller budget, beside what has been with a larger. -/
structure Beginning (small : Nat) (short long : Machine Recorder) : Prop where
  trace : short.trace.toList = long.trace.toList.take small
  calls : short.surface.calls.toList <+: long.surface.calls.toList
  truncated : short.truncated = true ↔ small < long.trace.size

namespace Flat

def withBudget (budget : Nat) (c : Flat σ) : Flat σ :=
  { c with machine := c.machine.withBudget budget }

theorem resume_onMachine {frames : α → List Frame} {r : EStateM.Result Stop (Machine σ) α}
    (budget : Nat) :
    resume frames (onMachine (Machine.withBudget budget) r) =
      (resume frames r).withBudget budget := by
  cases r <;> rfl

section Steps

variable [Surface σ]

theorem run_execute_withBudget {f : Frame} {i : Instruction} {op : Opcode} {m : Machine σ}
    {budget : Nat} (hm : m.now.count < m.budget) (hb : m.now.count < budget) :
    (f.execute i op).run (m.withBudget budget) =
      onMachine (Machine.withBudget budget) ((f.execute i op).run m) := by
  have hm' : ¬ m.budget ≤ m.now.count := by omega
  have hb' : ¬ (m.withBudget budget).budget ≤ (m.withBudget budget).now.count := by
    simpa [Machine.withBudget] using hb
  rw [Frame.execute, EStateM.run_bind, EStateM.run_bind, run_tick, run_tick, if_neg hm', if_neg hb']
  simp only [run_act]
  have he := (Elementary.effect f i op).run_withBudget budget (m.counted i.pointer op)
  rw [show (m.withBudget budget).counted i.pointer op =
    (m.counted i.pointer op).withBudget budget from rfl, he]
  cases (f.effect i op).run (m.counted i.pointer op) with
  | ok frames? m' => cases frames? <;> rfl
  | error e m' => rfl

/-- As long as neither budget is used up, it plays no part in a small step. -/
theorem advance_withBudget {c : Flat σ} {budget : Nat}
    (h : upcomingOpcode c.frames ≠ none →
      c.machine.now.count < c.machine.budget ∧ c.machine.now.count < budget) :
    (c.withBudget budget).advance = c.advance.withBudget budget := by
  cases ho : upcomingOpcode c.frames with
  | none =>
    obtain ⟨frames, -, ha⟩ := advance_control (σ := σ) ho
    rw [ha c rfl]
    exact ha (c.withBudget budget) rfl
  | some op =>
    obtain ⟨hc, hb⟩ := h (by simp [ho])
    obtain ⟨i, hi, ho⟩ := Option.bind_eq_some_iff.mp ho
    obtain ⟨f, below, -, ha⟩ := advance_execute (σ := σ) hi ho
    rw [ha c rfl, ← resume_onMachine, ← run_execute_withBudget hc hb]
    exact ha (c.withBudget budget) rfl

theorem Moves.within {c d : Flat σ} (hm : Moves c d)
    (h : c.machine.now.count < c.machine.budget) :
    d.machine.now.count ≤ c.machine.now.count + 1 ∧
      d.machine.truncated = c.machine.truncated := by
  cases hm with
  | control => exact ⟨Nat.le_succ _, rfl⟩
  | truncated _ hb => omega
  | executed _ _ _ _ he | stopped _ _ _ _ he | failed _ _ _ _ he =>
    have ha := (Elementary.effect _ _ _).sameAccount he
    exact ⟨Nat.le_of_eq ha.count, ha.truncated⟩

theorem Moves.budget_eq {c d : Flat σ} (h : Moves c d) : d.machine.budget = c.machine.budget := by
  cases h with
  | control | truncated => rfl
  | executed _ _ _ _ he | stopped _ _ _ _ he | failed _ _ _ _ he =>
    exact ((Elementary.effect _ _ _).sameAccount he).budget

end Steps

/-- A run with a smaller budget that is still the same as one with a larger budget. -/
structure Together (first : Snapshot) (small : Nat) (c d : Flat σ) : Prop where
  same : c = d.withBudget small
  account : Accounted first d
  count : d.machine.now.count ≤ small
  budget : small < d.machine.budget
  truncated : d.machine.truncated = false

/-- A run that has used up its budget beside one that goes on. -/
structure CutOff (small : Nat) (c d : Flat Recorder) : Prop where
  frames : c.frames = []
  fault : c.fault? = none
  truncated : c.machine.truncated = true
  size : c.machine.trace.size = small
  trace : c.machine.trace.toList <+: d.machine.trace.toList
  calls : c.machine.surface.calls.toList <+: d.machine.surface.calls.toList
  beyond : small < d.machine.trace.size ∨ d.fault? ≠ none ∧ d.frames = []

theorem CutOff.advance {small : Nat} {c d : Flat Recorder} (h : CutOff small c d) :
    CutOff small c.advance d.advance := by
  rw [advance_of_frames_nil h.frames]
  have ht := (moves_advance d).trace_grows
  refine { h with
    trace := h.trace.trans ht, calls := h.calls.trans ((moves_advance d).calls_grow), beyond := ?_ }
  rcases h.beyond with hs | ⟨he, hn⟩
  · have hl := ht.length_le
    simp only [Array.length_toList] at hl
    exact .inl (Nat.lt_of_lt_of_le hs hl)
  · rw [advance_of_frames_nil hn]
    exact .inr ⟨he, hn⟩

theorem Together.advance [Surface σ] {first : Snapshot} {small : Nat} {c d : Flat σ}
    (h : Together first small c d)
    (hs : upcomingOpcode d.frames ≠ none → d.machine.now.count < small) :
    Together first small c.advance d.advance := by
  have hb : d.machine.now.count < d.machine.budget := Nat.lt_of_le_of_lt h.count h.budget
  obtain ⟨hc, ht⟩ := (moves_advance d).within hb
  refine ⟨?_, h.account.moves (moves_advance d), ?_, ?_, ht.trans h.truncated⟩
  · rw [h.same]
    exact advance_withBudget fun ho => ⟨hb, hs ho⟩
  · -- Only a known opcode is counted, and then there was budget for it.
    by_cases ho : upcomingOpcode d.frames = none
    · obtain ⟨frames, -, ha⟩ := advance_control (σ := σ) ho
      rw [ha d rfl]
      exact h.count
    · exact Nat.le_trans hc (hs ho)
  · rw [(moves_advance d).budget_eq]
    exact h.budget

/-- A run that meets a known opcode at the end of its budget is cut off there. -/
theorem Together.advance_cutOff {first : Snapshot} {small : Nat} {c d : Flat Recorder}
    (h : Together first small c d) (ho : upcomingOpcode d.frames ≠ none)
    (hs : small ≤ d.machine.now.count) : CutOff small c.advance d.advance := by
  have hb : d.machine.now.count < d.machine.budget := Nat.lt_of_le_of_lt h.count h.budget
  obtain ⟨i, hi, hk⟩ := upcomingOpcode_ne_none_iff.mp ho
  have hz : d.machine.trace.size = small := by
    rw [h.account.size (h.account.fault_none (ne_nil_of_upcoming hi))]
    exact Nat.le_antisymm h.count hs
  rw [h.same, (moves_advance (d.withBudget small)).eq_truncated ho hs]
  refine ⟨rfl, rfl, rfl, hz, (moves_advance d).trace_grows, (moves_advance d).calls_grow, ?_⟩
  rcases (moves_advance d).snapshot hi hk hb with ⟨s, -, ht⟩ | hf
  · have hl := congrArg List.length ht
    simp only [Array.length_toList, List.length_append, List.length_singleton] at hl
    exact .inl (by omega)
  · exact .inr hf

/-- A run beside one with a larger budget is the same so far, or it has been cut off. -/
def Tracks (first : Snapshot) (small : Nat) (c d : Flat Recorder) : Prop :=
  Together first small c d ∨ CutOff small c d

theorem Tracks.advance {first : Snapshot} {small : Nat} {c d : Flat Recorder}
    (h : Tracks first small c d) : Tracks first small c.advance d.advance := by
  rcases h with h | h
  · by_cases hs : upcomingOpcode d.frames ≠ none ∧ small ≤ d.machine.now.count
    · exact .inr (h.advance_cutOff hs.1 hs.2)
    · refine .inl (h.advance fun ho => ?_)
      exact Nat.lt_of_not_le fun hle => hs ⟨ho, hle⟩
  · exact .inr h.advance

theorem start_tracks (program : List Instruction) (m : Machine Recorder) {small large : Nat}
    (hb : small < large) :
    Tracks m.prepare.now small (start program (m.withBudget small).prepare)
      (start program (m.withBudget large).prepare) :=
  .inl {
    same := rfl
    account := start_accounted (m := (m.withBudget large).prepare) program rfl rfl rfl
    count := Nat.zero_le small
    budget := hb
    truncated := rfl }

theorem Tracks.beginning {first : Snapshot} {small : Nat} {c d : Flat Recorder}
    (h : Tracks first small c d) (hd : d.fault? = none) :
    c.fault? = none ∧ Beginning small c.machine d.machine := by
  rcases h with h | h
  · have hz : d.machine.trace.size ≤ small := h.account.size hd ▸ h.count
    rw [h.same]
    refine ⟨hd, ?_, List.prefix_rfl, ?_⟩
    · exact (List.take_of_length_le hz).symm
    · simp [withBudget, Machine.withBudget, h.truncated, hz]
  · have hz : small < d.machine.trace.size := h.beyond.resolve_right fun he => he.1 hd
    refine ⟨h.fault, ?_, h.calls, ?_⟩
    · rw [List.prefix_iff_eq_take.mp h.trace, Array.length_toList, h.size]
    · simp [h.truncated, hz]

end Flat

/-- With a smaller budget a run is the beginning of the run with a larger one, and it is truncated
exactly if the larger run is longer. -/
theorem run_beginning (tokens : List Token) (m : Machine Recorder) {small large : Nat}
    (hb : small < large) (hl : (run tokens (m.withBudget large)).2 = none) :
    (run tokens (m.withBudget small)).2 = none ∧
      Beginning small (run tokens (m.withBudget small)).1 (run tokens (m.withBudget large)).1 := by
  have ht := Flat.run_simulation tokens tokens (m.withBudget small) (m.withBudget large)
    (Flat.start_tracks _ m hb) fun _ _ => Flat.Tracks.advance
  exact ht.beginning hl

/-- A run of eleven instructions is cut off in the middle of its loop. -/
theorem run_beginning_loop :
    let tokens := Genome.tokens "ATG GAA AAG GAA AAT CAA GAA AAC GGA TAA".toList
    let m := initial Recorder.blank defaultBudget (.int 1)
    (run tokens (m.withBudget 100)).2 = none ∧
      Beginning 7 (run tokens (m.withBudget 7)).1 (run tokens (m.withBudget 100)).1 ∧
      (run tokens (m.withBudget 7)).1.truncated = true := by
  intro tokens m
  have hl : (run tokens (m.withBudget 100)).2 = none := by decide +kernel
  have hs : 7 < (run tokens (m.withBudget 100)).1.trace.size := by decide +kernel
  have hb := (run_beginning tokens m (show 7 < 100 by decide) hl).2
  exact ⟨hl, hb, hb.truncated.mpr hs⟩

end Triplet.Machine
