import Triplet.Proofs.Relabelling

/-! # Stop codons written over instructions

A program with a stop codon at a place runs like the program without it until the place is met.
There it takes one snapshot more and halts; where the place is never met, the runs are the same.
-/

namespace Triplet.Machine

variable {σ : Type}

/-- The snapshot that a stop codon at a place leaves after some others. -/
def stopSnapshot (first : Snapshot) (place : Nat) (before : List Snapshot) : Snapshot :=
  { before.getLastD first with pointer := place, count := before.length + 1, last? := some .stop }

/-- A machine that has run like another until the latter met a place, and has stopped there. -/
structure CutAt (first : Snapshot) (place : Nat) (long short : Machine σ) : Prop where
  met {k : Nat} : long.trace.toList.findIdx? (·.pointer = place) = some k →
    short.trace.toList =
      long.trace.toList.take k ++ [stopSnapshot first place (long.trace.toList.take k)] ∧
    short.truncated = false
  missed : long.trace.toList.findIdx? (·.pointer = place) = none → short = long

namespace Flat

/-- A run with a stop codon that is still the same as the run without it. -/
structure Unstopped (first : Snapshot) (place : Nat) (c d : Flat σ) : Prop where
  same : d = c.map (Program.stopAt place)
  account : Accounted first c
  known : Within (fun i => i.pointer = place → i.opcode? ≠ none) c
  unseen : ∀ s ∈ c.machine.trace.toList, s.pointer ≠ place

structure Stopped (first : Snapshot) (place : Nat) (c d : Flat σ) : Prop where
  frames : d.frames = []
  fault : d.fault? = none
  truncated : d.machine.truncated = false
  cut : ∃ before s after, c.machine.trace.toList = before ++ s :: after ∧ s.pointer = place ∧
    (∀ t ∈ before, t.pointer ≠ place) ∧
    d.machine.trace.toList = before ++ [stopSnapshot first place before]

theorem Unstopped.upcoming_stop {first : Snapshot} {place : Nat} {c d : Flat σ}
    (h : Unstopped first place c d) {i : Instruction}
    (hi : upcoming c.frames = some i) (hp : i.pointer = place) :
    upcoming d.frames = some ⟨place, some .stop, [], .int 0⟩ := by
  rw [h.same]
  refine (upcoming_map c.frames).trans ?_
  rw [hi, Option.map_some, Program.stopAt, if_pos hp]

theorem Accounted.stopSnapshot_eq {first : Snapshot} {c : Flat σ} (h : Accounted first c)
    (hf : c.fault? = none) (place : Nat) :
    stopSnapshot first place c.machine.trace.toList = (c.machine.counted place .stop).now := by
  have hl : c.machine.trace.toList.getLastD first = c.machine.now := by
    rw [h.now hf, List.getLastD_eq_getLast?, Array.getLast?_toList]
  rw [stopSnapshot, hl, Array.length_toList, h.size hf]
  rfl

variable [Surface σ] {first : Snapshot} {place : Nat} {c d : Flat σ}

theorem Stopped.advance (h : Stopped first place c d) :
    Stopped first place c.advance d.advance := by
  rw [advance_of_frames_nil h.frames]
  obtain ⟨before, s, after, hc, hs, hb, hd⟩ := h.cut
  obtain ⟨more, hm⟩ := (moves_advance c).trace_grows
  refine { h with cut := ⟨before, s, after ++ more, ?_, hs, hb, hd⟩ }
  rw [← hm, hc, List.append_assoc, List.cons_append]

theorem Unstopped.advance (h : Unstopped first place c d)
    (hn : ∀ i, upcoming c.frames = some i → i.pointer ≠ place) :
    Unstopped first place c.advance d.advance where
  same := by
    rw [h.same]
    refine advance_map fun i hi => ?_
    rw [Program.stopAt_of_ne (hn i hi)]
    exact ⟨rfl, rfl, rfl⟩
  account := h.account.moves (moves_advance c)
  known := h.known.moves (moves_advance c)
  unseen s hs := by
    rcases (moves_advance c).mem_trace hs with hs | ⟨i, hi, hp⟩
    · exact h.unseen s hs
    · rw [hp]
      exact hn i hi

theorem Unstopped.advance_truncated (h : Unstopped first place c d) {i : Instruction}
    (hi : upcoming c.frames = some i) (hp : i.pointer = place)
    (hb : c.machine.budget ≤ c.machine.now.count) :
    Unstopped first place c.advance d.advance := by
  have ho := upcomingOpcode_ne_none_iff.mpr ⟨i, hi, h.known.upcoming hi hp⟩
  have hd := upcomingOpcode_ne_none_iff.mpr ⟨_, h.upcoming_stop hi hp, by simp⟩
  have hdb : d.machine.budget ≤ d.machine.now.count := h.same ▸ hb
  have hc := (moves_advance c).eq_truncated ho hb
  refine ⟨?_, h.account.moves (moves_advance c), h.known.moves (moves_advance c), ?_⟩
  · rw [(moves_advance d).eq_truncated hd hdb, hc, h.same]
    rfl
  · rw [hc]
    exact h.unseen

theorem advance_stop {i : Instruction} (hi : upcoming c.frames = some i)
    (ho : i.opcode? = some .stop) (hb : c.machine.now.count < c.machine.budget) :
    c.advance = ⟨[], (c.machine.counted i.pointer .stop).recorded, none⟩ := by
  obtain ⟨f, below, -, ha⟩ := advance_execute (σ := σ) hi ho
  have hb' : ¬ c.machine.budget ≤ c.machine.now.count := by omega
  rw [ha c rfl, Frame.execute, EStateM.run_bind, run_tick, if_neg hb']
  rfl

theorem Unstopped.advance_stopped (h : Unstopped first place c d) {i : Instruction}
    (hi : upcoming c.frames = some i) (hp : i.pointer = place)
    (hb : c.machine.now.count < c.machine.budget) :
    Stopped first place c.advance d.advance ∨ c.advance.fault? ≠ none ∧ c.advance.frames = [] := by
  have hn := ne_nil_of_upcoming hi
  have hf := h.account.fault_none hn
  rcases (moves_advance c).snapshot hi (h.known.upcoming hi hp) hb with ⟨s, hs, ht⟩ | hf'
  · refine .inl ?_
    have hdb : d.machine.now.count < d.machine.budget := h.same ▸ hb
    rw [Flat.advance_stop (h.upcoming_stop hi hp) rfl hdb]
    refine ⟨rfl, rfl, ?_, c.machine.trace.toList, s, [], ht, hs.trans hp, h.unseen, ?_⟩
    · rw [h.same]
      exact h.account.running hn
    · rw [h.same, h.account.stopSnapshot_eq hf, recorded, Array.toList_push]
      rfl
  · exact .inr hf'

/-- A run beside one with a stop codon is the same so far, or the stop codon has been met, or it has
failed. -/
def Follows (first : Snapshot) (place : Nat) (c d : Flat σ) : Prop :=
  Unstopped first place c d ∨ Stopped first place c d ∨ c.fault? ≠ none ∧ c.frames = []

theorem Follows.advance (h : Follows first place c d) :
    Follows first place c.advance d.advance := by
  rcases h with h | h | ⟨hf, hn⟩
  · by_cases hm : ∃ i, upcoming c.frames = some i ∧ i.pointer = place
    · obtain ⟨i, hi, hp⟩ := hm
      rcases Nat.lt_or_ge c.machine.now.count c.machine.budget with hb | hb
      · exact .inr (h.advance_stopped hi hp hb)
      · exact .inl (h.advance_truncated hi hp hb)
    · exact .inl (h.advance fun i hi hp => hm ⟨i, hi, hp⟩)
  · exact .inr (.inl h.advance)
  · rw [advance_of_frames_nil hn]
    exact .inr (.inr ⟨hf, hn⟩)

omit [Surface σ] in
theorem Follows.cutAt (h : Follows first place c d) (hc : c.fault? = none) :
    d.fault? = none ∧ CutAt first place c.machine d.machine := by
  rcases h with h | h | ⟨hf, -⟩
  · have hn : c.machine.trace.toList.findIdx? (·.pointer = place) = none := by
      simpa using h.unseen
    rw [h.same]
    refine ⟨hc, fun {k} hk => ?_, fun _ => rfl⟩
    rw [hn] at hk
    cases hk
  · obtain ⟨before, s, after, ht, hs, hb, hd⟩ := h.cut
    have hi : c.machine.trace.toList.findIdx? (·.pointer = place) = some before.length := by
      have hn : before.findIdx? (·.pointer = place) = none := by simpa using hb
      rw [ht, List.findIdx?_append, hn, List.findIdx?_cons]
      simp [hs]
    refine ⟨h.fault, fun {k} hk => ?_, fun hn => ?_⟩
    · obtain rfl : before.length = k := Option.some.inj (hi.symm.trans hk)
      rw [ht, List.take_left, hd]
      exact ⟨rfl, h.truncated⟩
    · rw [hi] at hn
      cases hn
  · exact (hf hc).elim

theorem start_follows {program : List Instruction}
    (h : ∀ i ∈ program, i.pointer = place → i.opcode? ≠ none) (m : Machine σ) :
    Follows m.prepare.now place (start program m.prepare)
      (start (program.map (Program.stopAt place)) m.prepare) := by
  refine .inl ⟨rfl, start_accounted program rfl rfl rfl, fun f hf => ?_, fun s hs => ?_⟩
  · obtain rfl := List.mem_singleton.mp hf
    exact h
  · exact (List.not_mem_nil hs).elim

end Flat

variable [Surface σ]

/-- A stop codon over an instruction other than `START` and `PUSH` cuts the run where it is met. -/
theorem run_set_stop {tokens : List Token} {place : Nat} {t : Token} {op : Opcode}
    (ht : tokens[place]? = some t) (ho : t.meaning = .instruction op) (hs : op ≠ .start)
    (hp : op ≠ .push) (m : Machine σ) (hf : (run tokens m).2 = none) :
    (run (tokens.set place Program.stopToken) m).2 = none ∧
      CutAt m.prepare.now place (run tokens m).1
        (run (tokens.set place Program.stopToken) m).1 := by
  have hk (i : Instruction) (hi : i ∈ Program.assemble tokens) (hpi : i.pointer = place) :
      i.opcode? = some op := by
    obtain ⟨k, t', hk, ht', ho'⟩ := Program.exists_token_of_mem hi
    obtain rfl : place = k := by omega
    obtain rfl : t = t' := Option.some.inj (ht.symm.trans ht')
    rw [← ho', Token.opcode?, ho]
  have ha : Program.entry (Program.assemble (tokens.set place Program.stopToken)) =
      (Program.entry (Program.assemble tokens)).map (Program.stopAt place) := by
    rw [Program.assemble, Program.assembleFrom_set_stop ht ho hp, Nat.zero_add]
    refine Program.entry_map fun i hi => ?_
    by_cases hpi : i.pointer = place
    · simp [Program.stopAt, hpi, hk i hi hpi, hs]
    · rw [Program.stopAt_of_ne hpi]
  have h := Flat.run_simulation tokens (tokens.set place Program.stopToken) m m
    (R := Flat.Follows m.prepare.now place) (by
      rw [ha]
      refine Flat.start_follows (fun i hi hpi => ?_) m
      simp [hk i (Program.entry_subset _ hi) hpi]) fun _ _ => Flat.Follows.advance
  exact h.cutAt hf

end Triplet.Machine
