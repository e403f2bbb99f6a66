import Triplet.Proofs.Locality

/-! # Small steps

What one small step of the flat machine can do, and the account that it keeps: as long as nothing
fails, there is one snapshot for each counted instruction, and the last is the present state.
-/

namespace Triplet.Machine

variable {σ α : Type}

def counted (m : Machine σ) (pointer : Nat) (op : Opcode) : Machine σ :=
  { m with now := { m.now with count := m.now.count + 1, pointer, last? := some op } }

def recorded (m : Machine σ) : Machine σ := { m with trace := m.trace.push m.now }

theorem run_tick (m : Machine σ) (pointer : Nat) (op : Opcode) :
    (tick pointer op : Exec σ Unit).run m =
      if m.budget ≤ m.now.count then .error .halt { m with truncated := true }
      else .ok () (m.counted pointer op) := rfl

structure SameAccount (m m' : Machine σ) : Prop where
  budget : m'.budget = m.budget
  truncated : m'.truncated = m.truncated
  trace : m'.trace = m.trace
  count : m'.now.count = m.now.count
  pointer : m'.now.pointer = m.now.pointer
  last? : m'.now.last? = m.now.last?
  seed : m'.now.seed = m.now.seed

theorem sameAccount_of_graft {m m' : Machine σ} (h : graft m m' = m') : SameAccount m m' := by
  rw [← h]
  exact ⟨rfl, rfl, rfl, rfl, rfl, rfl, rfl⟩

theorem Elementary.sameAccount [Surface σ] {a : Exec σ α} (h : Elementary a) {m : Machine σ}
    {r : EStateM.Result Stop (Machine σ) α} (hr : a.run m = r) : SameAccount m (lastState r) := by
  have hg := h.run_graft m m
  rw [show graft m m = m from rfl, hr] at hg
  cases r with
  | ok x m' => exact sameAccount_of_graft (EStateM.Result.ok.inj hg).2.symm
  | error e m' => exact sameAccount_of_graft (EStateM.Result.error.inj hg).2.symm

namespace Flat

structure Accounted (first : Snapshot) (c : Flat σ) : Prop where
  fault : c.fault? ≠ none → c.frames = []
  running : c.frames ≠ [] → c.machine.truncated = false
  size : c.fault? = none → c.machine.trace.size = c.machine.now.count
  now : c.fault? = none → c.machine.now = c.machine.trace.back?.getD first

theorem accounted_recorded {first : Snapshot} {frames : List Frame} {m m' : Machine σ}
    {pointer : Nat} {op : Opcode} (h : SameAccount (m.counted pointer op) m')
    (ht : m.truncated = false) (hs : m.trace.size = m.now.count) :
    Accounted first ⟨frames, m'.recorded, none⟩ where
  fault h := (h rfl).elim
  running _ := h.truncated.trans ht
  size _ := by
    have hc : m'.now.count = m.now.count + 1 := h.count
    have ht : m'.trace = m.trace := h.trace
    simp [recorded, hc, ht, hs]
  now _ := by simp [recorded]

theorem Accounted.fault_none {first : Snapshot} {c : Flat σ} (h : Accounted first c)
    (hf : c.frames ≠ []) : c.fault? = none := by
  by_contra he
  exact hf (h.fault he)

theorem start_accounted (program : List Instruction) {m : Machine σ} (hc : m.now.count = 0)
    (ht : m.trace = #[]) (hn : m.truncated = false) : Accounted m.now (start program m) where
  fault h := (h rfl).elim
  running _ := hn
  size _ := by simp [start, hc, ht]
  now _ := by simp [start, ht]

end Flat

variable [Surface σ]

theorem run_act (f : Frame) (i : Instruction) (op : Opcode) (m : Machine σ) :
    (f.act i op).run m = match (f.effect i op).run m with
      | .ok (some frames) m' => .ok frames m'.recorded
      | .ok none m' => .error .halt m'.recorded
      | .error e m' => .error e m' := by
  rw [Frame.act, EStateM.run_bind]
  cases (f.effect i op).run m with
  | ok frames? m' => cases frames? <;> rfl
  | error e m' => rfl

def upcoming : List Frame → Option Instruction
  | [] => none
  | f :: _ => if f.passes = 0 then none else f.window[f.next]?

def upcomingOpcode (frames : List Frame) : Option Opcode := (upcoming frames).bind (·.opcode?)

theorem upcomingOpcode_of_upcoming {frames : List Frame} {i : Instruction} {op : Opcode}
    (hi : upcoming frames = some i) (ho : i.opcode? = some op) :
    upcomingOpcode frames = some op := by
  rw [upcomingOpcode, hi, Option.bind_some, ho]

theorem upcomingOpcode_ne_none_iff {frames : List Frame} :
    upcomingOpcode frames ≠ none ↔ ∃ i, upcoming frames = some i ∧ i.opcode? ≠ none := by
  rw [upcomingOpcode]
  cases upcoming frames <;> simp

theorem ne_nil_of_upcoming {frames : List Frame} {i : Instruction}
    (h : upcoming frames = some i) : frames ≠ [] := by
  rintro rfl
  simp [upcoming] at h

theorem ne_nil_of_upcomingOpcode {frames : List Frame} {op : Opcode}
    (h : upcomingOpcode frames = some op) : frames ≠ [] := by
  obtain ⟨i, hi, -⟩ := Option.bind_eq_some_iff.mp h
  exact ne_nil_of_upcoming hi

def Narrows (frames frames' : List Frame) : Prop :=
  ∀ f ∈ frames, ∃ f' ∈ frames', f.window ⊆ f'.window

theorem Narrows.eq_nil {frames : List Frame} (h : Narrows frames []) : frames = [] := by
  refine List.eq_nil_iff_forall_not_mem.mpr fun f hf => ?_
  obtain ⟨f', hf', -⟩ := h f hf
  cases hf'

theorem narrows_below (f : Frame) (below : List Frame) : Narrows below (f :: below) :=
  fun f' hf' => ⟨f', List.mem_cons_of_mem f hf', List.Subset.refl _⟩

theorem Narrows.cons {f f' : Frame} {below : List Frame} (h : f'.window ⊆ f.window) :
    Narrows (f' :: below) (f :: below) := by
  intro f'' hf''
  rcases List.mem_cons.mp hf'' with rfl | hf''
  · exact ⟨f, by simp, h⟩
  · exact narrows_below f below f'' hf''

namespace Flat

/-- Without a known opcode only the frames change, in the same way on every machine, and no new
windows come in. -/
theorem advance_control {frames : List Frame} (h : upcomingOpcode frames = none) :
    ∃ frames', Narrows frames' frames ∧
      ∀ c : Flat σ, c.frames = frames → c.advance = { c with frames := frames' } := by
  cases frames with
  | nil =>
    refine ⟨[], by simp [Narrows], ?_⟩
    rintro ⟨_, m, e⟩ rfl
    rfl
  | cons f below =>
    by_cases hp : f.passes = 0
    · refine ⟨below, narrows_below f below, ?_⟩
      rintro ⟨_, m, e⟩ rfl
      exact advance_left hp
    have hp' : 0 < f.passes := by omega
    simp only [upcomingOpcode, upcoming, if_neg hp] at h
    cases hi : f.window[f.next]? with
    | none =>
      refine ⟨{ f with next := 0, passes := f.passes - 1 } :: below, .cons (List.Subset.refl _), ?_⟩
      rintro ⟨_, m, e⟩ rfl
      exact advance_rewind hp' (by simpa using hi)
    | some i =>
      rw [hi, Option.bind_some] at h
      refine ⟨f.moveOn 1 :: below, .cons (List.Subset.refl _), ?_⟩
      rintro ⟨_, m, e⟩ rfl
      exact advance_unknown hp' hi h

theorem advance_execute {frames : List Frame} {i : Instruction} {op : Opcode}
    (hi : upcoming frames = some i) (ho : i.opcode? = some op) :
    ∃ f below, frames = f :: below ∧ ∀ c : Flat σ, c.frames = frames →
      c.advance = resume (· ++ below) ((f.execute i op).run c.machine) := by
  cases frames with
  | nil => simp [upcoming] at hi
  | cons f below =>
    by_cases hp : f.passes = 0
    · simp [upcoming, hp] at hi
    have hp' : 0 < f.passes := by omega
    rw [upcoming, if_neg hp] at hi
    refine ⟨f, below, rfl, ?_⟩
    rintro ⟨_, m, e⟩ rfl
    exact advance_known hp' hi ho

inductive Moves (c : Flat σ) : Flat σ → Prop where
  | control {frames : List Frame} : upcomingOpcode c.frames = none →
      Narrows frames c.frames → Moves c { c with frames }
  | truncated {op : Opcode} : upcomingOpcode c.frames = some op →
      c.machine.budget ≤ c.machine.now.count →
      Moves c ⟨[], { c.machine with truncated := true }, none⟩
  | executed {f : Frame} {below frames : List Frame} {i : Instruction} {op : Opcode}
      {m : Machine σ} : c.frames = f :: below → upcoming c.frames = some i →
      i.opcode? = some op → c.machine.now.count < c.machine.budget →
      (f.effect i op).run (c.machine.counted i.pointer op) = .ok (some frames) m →
      Moves c ⟨frames ++ below, m.recorded, none⟩
  | stopped {f : Frame} {below : List Frame} {i : Instruction} {op : Opcode}
      {m : Machine σ} : c.frames = f :: below → upcoming c.frames = some i →
      i.opcode? = some op → c.machine.now.count < c.machine.budget →
      (f.effect i op).run (c.machine.counted i.pointer op) = .ok none m →
      Moves c ⟨[], m.recorded, none⟩
  | failed {f : Frame} {below : List Frame} {i : Instruction} {op : Opcode} {e : Fault}
      {m : Machine σ} : c.frames = f :: below → upcoming c.frames = some i →
      i.opcode? = some op → c.machine.now.count < c.machine.budget →
      (f.effect i op).run (c.machine.counted i.pointer op) = .error (.fault e) m →
      Moves c ⟨[], m, some e⟩

theorem moves_execute {c : Flat σ} {f : Frame} {below : List Frame} {i : Instruction}
    {op : Opcode} (hf : c.frames = f :: below) (hi : upcoming c.frames = some i)
    (ho : i.opcode? = some op) :
    Moves c (resume (· ++ below) ((f.execute i op).run c.machine)) := by
  rw [Frame.execute, EStateM.run_bind, run_tick]
  by_cases hb : c.machine.budget ≤ c.machine.now.count
  · rw [if_pos hb]
    exact .truncated (upcomingOpcode_of_upcoming hi ho) hb
  rw [if_neg hb]
  simp only [run_act]
  have hb' : c.machine.now.count < c.machine.budget := by omega
  cases hr : (f.effect i op).run (c.machine.counted i.pointer op) with
  | ok frames? m =>
    cases frames? with
    | some frames => exact .executed hf hi ho hb' hr
    | none => exact .stopped hf hi ho hb' hr
  | error e m =>
    cases e with
    | halt =>
      have hn := (Elementary.effect f i op).not_halt (c.machine.counted i.pointer op)
      rw [hr] at hn
      exact (hn trivial).elim
    | fault e => exact .failed hf hi ho hb' hr

theorem moves_advance (c : Flat σ) : Moves c c.advance := by
  cases ho : upcomingOpcode c.frames with
  | none =>
    obtain ⟨frames, hn, ha⟩ := advance_control (σ := σ) ho
    rw [ha c rfl]
    exact .control ho hn
  | some op =>
    obtain ⟨i, hi, ho⟩ := Option.bind_eq_some_iff.mp ho
    obtain ⟨f, below, hf, ha⟩ := advance_execute (σ := σ) hi ho
    rw [ha c rfl]
    exact moves_execute hf hi ho

theorem narrows_effect {f : Frame} {i : Instruction} {op : Opcode} {m m' : Machine σ}
    {frames : List Frame} (h : (f.effect i op).run m = .ok (some frames) m') :
    ∀ f' ∈ frames, f'.window ⊆ f.window := by
  by_cases hs : op = .stop
  · subst hs
    cases h
  by_cases hl : op = .loop
  · subst hl
    simp only [Frame.effect, EStateM.run_bind] at h
    split at h
    · cases h
      intro f' hf'
      simp only [List.mem_cons, List.not_mem_nil, or_false] at hf'
      rcases hf' with rfl | rfl
      · exact ((List.take_sublist _ _).trans (List.drop_sublist _ _)).subset
      · exact List.Subset.refl _
    · cases h
  · rw [f.effect_other i hs hl, EStateM.run_bind] at h
    split at h
    · cases h
      intro f' hf'
      obtain rfl := List.mem_singleton.mp hf'
      exact List.Subset.refl _
    · cases h

theorem Moves.narrows {c d : Flat σ} (h : Moves c d) : Narrows d.frames c.frames := by
  cases h with
  | control _ hw => exact hw
  | truncated | stopped | failed => simp [Narrows]
  | executed hf _ _ _ he =>
    intro f' hf'
    rw [hf]
    rcases List.mem_append.mp hf' with hm | hm
    · exact ⟨_, by simp, narrows_effect he f' hm⟩
    · exact narrows_below _ _ f' hm

def Within (P : Instruction → Prop) (c : Flat σ) : Prop := ∀ f ∈ c.frames, ∀ i ∈ f.window, P i

theorem Within.moves {P : Instruction → Prop} {c d : Flat σ} (h : Within P c) (hm : Moves c d) :
    Within P d := by
  intro f hf i hi
  obtain ⟨f', hf', hw⟩ := hm.narrows f hf
  exact h f' hf' i (hw hi)

omit [Surface σ] in
theorem Within.upcoming {P : Instruction → Prop} {c : Flat σ} (h : Within P c) {i : Instruction}
    (hi : upcoming c.frames = some i) : P i := by
  cases hf : c.frames with
  | nil => simp [hf, Machine.upcoming] at hi
  | cons f below =>
    rw [hf, Machine.upcoming] at hi
    split at hi
    · cases hi
    · exact h f (by simp [hf]) i (List.mem_of_getElem? hi)

theorem advance_of_frames_nil {c : Flat σ} (h : c.frames = []) : c.advance = c := by
  rw [advance, h]

theorem Moves.eq_truncated {c d : Flat σ} (h : Moves c d) (ho : upcomingOpcode c.frames ≠ none)
    (hb : c.machine.budget ≤ c.machine.now.count) :
    d = ⟨[], { c.machine with truncated := true }, none⟩ := by
  cases h with
  | control hn => exact (ho hn).elim
  | truncated => rfl
  | executed _ _ _ hb' | stopped _ _ _ hb' | failed _ _ _ hb' => omega

/-- Within the budget a known opcode leaves one more snapshot, which points at it, or a fault that
ends the run. -/
theorem Moves.snapshot {c d : Flat σ} (h : Moves c d) {i : Instruction}
    (hi : upcoming c.frames = some i) (ho : i.opcode? ≠ none)
    (hb : c.machine.now.count < c.machine.budget) :
    (∃ s, s.pointer = i.pointer ∧ d.machine.trace.toList = c.machine.trace.toList ++ [s]) ∨
    d.fault? ≠ none ∧ d.frames = [] := by
  cases h with
  | control hn => exact (upcomingOpcode_ne_none_iff.mpr ⟨i, hi, ho⟩ hn).elim
  | truncated _ hb' => omega
  | @executed _ _ _ j _ m _ hj _ _ he | @stopped _ _ j _ m _ hj _ _ he =>
    obtain rfl : i = j := Option.some.inj (hi.symm.trans hj)
    have ha := (Elementary.effect _ _ _).sameAccount he
    have ht : m.trace = c.machine.trace := ha.trace
    exact .inl ⟨m.now, ha.pointer, by simp [recorded, ht]⟩
  | failed => exact .inr ⟨by simp, rfl⟩

theorem Accounted.moves {first : Snapshot} {c d : Flat σ} (h : Accounted first c)
    (hm : Moves c d) : Accounted first d := by
  cases hm with
  | control _ hw =>
    have hf (he : c.frames = []) := (he ▸ hw).eq_nil
    exact ⟨fun he => hf (h.fault he), fun hn => h.running fun he => hn (hf he), h.size, h.now⟩
  | truncated ho =>
    have he := h.fault_none (ne_nil_of_upcomingOpcode ho)
    exact ⟨fun hn => (hn rfl).elim, fun hn => (hn rfl).elim, fun _ => h.size he, fun _ => h.now he⟩
  | executed _ hi _ _ he | stopped _ hi _ _ he =>
    have hn := ne_nil_of_upcoming hi
    exact accounted_recorded ((Elementary.effect _ _ _).sameAccount he) (h.running hn)
      (h.size (h.fault_none hn))
  | failed => exact ⟨fun _ => rfl, fun hn => (hn rfl).elim, nofun, nofun⟩

theorem Moves.trace_grows {c d : Flat σ} (h : Moves c d) :
    c.machine.trace.toList <+: d.machine.trace.toList := by
  cases h with
  | control | truncated => exact List.prefix_rfl
  | @executed _ _ _ _ _ m _ _ _ _ he | @stopped _ _ _ _ m _ _ _ _ he =>
    have ht : m.trace = c.machine.trace := ((Elementary.effect _ _ _).sameAccount he).trace
    simp only [recorded, Array.toList_push, ht]
    exact List.prefix_append _ _
  | @failed _ _ _ _ _ m _ _ _ _ he =>
    have ht : m.trace = c.machine.trace := ((Elementary.effect _ _ _).sameAccount he).trace
    exact ht ▸ List.prefix_rfl

theorem Moves.mem_trace {c d : Flat σ} (hm : Moves c d) {s : Snapshot}
    (h : s ∈ d.machine.trace.toList) :
    s ∈ c.machine.trace.toList ∨ ∃ i, upcoming c.frames = some i ∧ s.pointer = i.pointer := by
  cases hm with
  | control | truncated => exact .inl h
  | @executed _ _ _ i _ m _ hi _ _ he | @stopped _ _ i _ m _ hi _ _ he =>
    have ha := (Elementary.effect _ _ _).sameAccount he
    have ht : m.trace = c.machine.trace := ha.trace
    rw [recorded, Array.toList_push, List.mem_append, List.mem_singleton, ht] at h
    rcases h with h | rfl
    · exact .inl h
    · exact .inr ⟨i, hi, ha.pointer⟩
  | @failed _ _ _ _ _ m _ _ _ _ he =>
    have ht : m.trace = c.machine.trace := ((Elementary.effect _ _ _).sameAccount he).trace
    exact .inl (ht ▸ h)

end Flat

end Triplet.Machine
