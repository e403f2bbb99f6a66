import Triplet.Drawing.Recorder
import Triplet.Proofs.Assembly
import Triplet.Proofs.Effects

/-! # Turns of a run

A trace goes on by turns, one for each executed instruction, and each of its states follows from the
one before it. So the snapshots of a run are numbered, each points at its instruction, and a stop
codon can only have left the last.
-/

namespace Triplet.Machine

variable {σ : Type}

/-- The executed instructions of a trace, each by the states before and after it. -/
def turns (first : Snapshot) : List Snapshot → List (Snapshot × Snapshot)
  | [] => []
  | s :: states => (first, s) :: turns s states

theorem turns_concat (first : Snapshot) (states : List Snapshot) (s : Snapshot) :
    turns first (states ++ [s]) = turns first states ++ [(states.getLastD first, s)] := by
  induction states generalizing first with
  | nil => rfl
  | cons t states ih =>
    rw [List.cons_append, turns, turns, ih, List.getLastD_cons, List.cons_append]

theorem getElem?_turns (first : Snapshot) {s s' : Snapshot} {states : List Snapshot} {k : Nat}
    (hs : states[k]? = some s) (hs' : states[k + 1]? = some s') :
    (turns first states)[k + 1]? = some (s, s') := by
  induction states generalizing first k with
  | nil => simp at hs
  | cons t states ih =>
    cases k with
    | zero =>
      obtain rfl : t = s := by simpa using hs
      cases states with
      | nil => simp at hs'
      | cons u states => simpa [turns] using hs'
    | succ k => exact ih t hs hs'

theorem turns_take (first : Snapshot) (states : List Snapshot) (n : Nat) :
    turns first (states.take n) = (turns first states).take n := by
  induction states generalizing first n with
  | nil => simp [turns]
  | cons t states ih =>
    cases n with
    | zero => rfl
    | succ n => simp only [List.take_succ_cons, turns, ih]

theorem count_of_turns {first s : Snapshot} {states : List Snapshot} {k : Nat}
    (h : ∀ t ∈ turns first states, t.2.count = t.1.count + 1) (hk : states[k]? = some s) :
    s.count = first.count + k + 1 := by
  induction states generalizing first k with
  | nil => simp at hk
  | cons t states ih =>
    have ht : t.count = first.count + 1 := h (first, t) (by simp [turns])
    cases k with
    | zero =>
      obtain rfl : t = s := by simpa using hk
      exact ht
    | succ k =>
      have hs := @ih t k (fun u hu => h u (List.mem_cons_of_mem _ hu)) (by simpa using hk)
      omega

theorem exists_turn_of_mem (first : Snapshot) {s : Snapshot} {states : List Snapshot}
    (h : s ∈ states) : ∃ before, (before, s) ∈ turns first states := by
  induction states generalizing first with
  | nil => cases h
  | cons t states ih =>
    rcases List.mem_cons.mp h with rfl | h
    · exact ⟨first, by simp [turns]⟩
    · obtain ⟨before, hb⟩ := ih t h
      exact ⟨before, List.mem_cons_of_mem _ hb⟩

/-- What a turn changes of a state, apart from the stack. -/
structure Turn (i : Instruction) (op : Opcode) (before after : Snapshot) : Prop where
  opcode : i.opcode? = some op
  pointer : after.pointer = i.pointer
  last : after.last? = some op
  count : after.count = before.count + 1
  pens : PenEffect before op after.pen after.saved

theorem PenEffect.congr {s s' : Snapshot} {op : Opcode} {pen : Pen} {saved : List Pen}
    (h : PenEffect s op pen saved) (hp : s'.pen = s.pen) (hs : s'.saved = s.saved)
    (ho : s'.operand = s.operand) : PenEffect s' op pen saved := by
  cases h <;> simp only [← hp, ← hs, ← ho] at *
  case translate hx hy => exact .translate hx hy
  case rotate h => exact .rotate h
  case scale h => exact .scale h
  case color => exact .color
  case save => exact .save
  case restore h => exact .restore h
  case restoreNone h => exact .restoreNone h
  case still h => exact .still h

theorem Does.of_counted [Surface σ] {op : Opcode} {pointer : Nat} {m m' : Machine σ}
    (h : Does op (m.counted pointer op) m') : Does op m m' :=
  ⟨h.pens.congr rfl rfl rfl, by cases op <;> exact h.calls⟩

namespace Flat

variable [Surface σ] {c d : Flat σ} {i : Instruction} {op : Opcode}

/-- A small step without a snapshot. Unless it fails, it keeps the state and the surface. -/
structure Quiet (c d : Flat σ) : Prop where
  budget : d.machine.budget = c.machine.budget
  trace : d.machine.trace = c.machine.trace
  frames : d.frames ≠ [] → c.frames ≠ []
  kept : d.fault? = none →
    c.fault? = none ∧ d.machine.now = c.machine.now ∧ d.machine.surface = c.machine.surface

structure Executes (c d : Flat σ) (i : Instruction) (op : Opcode) : Prop where
  upcoming : upcoming c.frames = some i
  turn : Turn i op c.machine.now d.machine.now
  does : Does op c.machine d.machine
  within : c.machine.now.count < c.machine.budget
  budget : d.machine.budget = c.machine.budget
  trace : d.machine.trace = c.machine.trace.push d.machine.now
  fault : d.fault? = none
  stop : op = .stop → d.frames = []

theorem executes_of_effect {f : Frame} {m : Machine σ} {frames? : Option (List Frame)}
    (hi : upcoming c.frames = some i) (ho : i.opcode? = some op)
    (hb : c.machine.now.count < c.machine.budget)
    (he : (f.effect i op).run (c.machine.counted i.pointer op) = .ok frames? m)
    {frames : List Frame} (hs : op = .stop → frames = []) :
    Executes c ⟨frames, m.recorded, none⟩ i op := by
  have ha := (Elementary.effect f i op).sameAccount he
  have hd := (does_effect he).of_counted
  have ht : m.trace = c.machine.trace := ha.trace
  refine ⟨hi, ⟨ho, ha.pointer, ha.last?, ha.count, hd.pens⟩, ⟨hd.pens, hd.calls⟩, hb, ha.budget, ?_,
    rfl, hs⟩
  simp only [recorded, ht]

theorem Accounted.quiet_or_executes {first : Snapshot} (h : Accounted first c) (hm : Moves c d) :
    Quiet c d ∨ ∃ i op, Executes c d i op := by
  cases hm with
  | control _ hn =>
    refine .inl ⟨rfl, rfl, ?_, fun he => ⟨he, rfl, rfl⟩⟩
    rintro hd hc
    exact hd (hc ▸ hn).eq_nil
  | truncated ho =>
    have he := h.fault_none (ne_nil_of_upcomingOpcode ho)
    exact .inl ⟨rfl, rfl, fun hn => (hn rfl).elim, fun _ => ⟨he, rfl, rfl⟩⟩
  | @executed f below frames i op m _ hi ho hb he =>
    refine .inr ⟨i, op, executes_of_effect hi ho hb he ?_⟩
    rintro rfl
    cases he
  | stopped _ hi ho hb he => exact .inr ⟨_, _, executes_of_effect hi ho hb he fun _ => rfl⟩
  | failed _ _ _ _ he =>
    have ha := (Elementary.effect _ _ _).sameAccount he
    exact .inl ⟨ha.budget, ha.trace, fun hn => (hn rfl).elim, nofun⟩

theorem Executes.turns_eq {first : Snapshot} (h : Executes c d i op) (ha : Accounted first c) :
    turns first d.machine.trace.toList =
      turns first c.machine.trace.toList ++ [(c.machine.now, d.machine.now)] := by
  have hf := ha.fault_none (ne_nil_of_upcoming h.upcoming)
  have hl : c.machine.trace.toList.getLastD first = c.machine.now := by
    rw [ha.now hf, List.getLastD_eq_getLast?, Array.getLast?_toList]
  rw [h.trace, Array.toList_push, turns_concat, hl]

/-- The account of the turns of a run: each is the turn of an instruction of the program, and only
the last can be that of a stop codon. -/
structure Kept (program : List Instruction) (first : Snapshot) (limit : Nat) (c : Flat σ) :
    Prop where
  account : Accounted first c
  inside : Within (· ∈ program) c
  budget : c.machine.budget = limit
  size : c.machine.trace.size ≤ limit
  turns : ∀ t ∈ turns first c.machine.trace.toList, ∃ i ∈ program, ∃ op, Turn i op t.1 t.2
  running : c.frames ≠ [] → ∀ s ∈ c.machine.trace.toList, s.last? ≠ some .stop
  stopLast : ∀ s ∈ c.machine.trace.toList.dropLast, s.last? ≠ some .stop

variable {program : List Instruction} {first : Snapshot} {limit : Nat}

theorem Kept.quiet (h : Kept program first limit c) (hm : Moves c d) (hq : Quiet c d) :
    Kept program first limit d where
  account := h.account.moves hm
  inside := h.inside.moves hm
  budget := hq.budget.trans h.budget
  size := hq.trace ▸ h.size
  turns := hq.trace ▸ h.turns
  running hn := hq.trace ▸ h.running (hq.frames hn)
  stopLast := hq.trace ▸ h.stopLast

theorem Kept.executes (h : Kept program first limit c) (hm : Moves c d)
    (he : Executes c d i op) : Kept program first limit d := by
  have hc := ne_nil_of_upcoming he.upcoming
  have hz := h.account.size (h.account.fault_none hc)
  refine ⟨h.account.moves hm, h.inside.moves hm, he.budget.trans h.budget, ?_, ?_, ?_, ?_⟩
  · rw [he.trace, Array.size_push, hz, ← h.budget]
    exact he.within
  · rw [he.turns_eq h.account]
    intro t ht
    rcases List.mem_append.mp ht with ht | ht
    · exact h.turns t ht
    · obtain rfl := List.mem_singleton.mp ht
      exact ⟨i, h.inside.upcoming he.upcoming, op, he.turn⟩
  · rw [he.trace, Array.toList_push]
    intro hd s hs
    rcases List.mem_append.mp hs with hs | hs
    · exact h.running hc s hs
    · obtain rfl := List.mem_singleton.mp hs
      rw [he.turn.last]
      exact fun ho => hd (he.stop (Option.some.inj ho))
  · rw [he.trace, Array.toList_push, List.dropLast_concat]
    exact h.running hc

theorem Kept.moves (h : Kept program first limit c) (hm : Moves c d) :
    Kept program first limit d := by
  rcases h.account.quiet_or_executes hm with hq | ⟨i, op, he⟩
  · exact h.quiet hm hq
  · exact h.executes hm he

theorem start_kept (program : List Instruction) (m : Machine σ) :
    Kept program m.prepare.now m.budget (start program m.prepare) where
  account := start_accounted program rfl rfl rfl
  inside f hf := by
    obtain rfl := List.mem_singleton.mp hf
    exact fun _ hi => hi
  budget := rfl
  size := Nat.zero_le _
  turns _ ht := (List.not_mem_nil ht).elim
  running _ _ hs := (List.not_mem_nil hs).elim
  stopLast _ hs := (List.not_mem_nil hs).elim

theorem run_kept (tokens : List Token) (m : Machine σ) :
    Kept (Program.entry (Program.assemble tokens)) m.prepare.now m.budget
      ⟨[], (run tokens m).1, (run tokens m).2⟩ :=
  run_invariant tokens m (start_kept _ m) fun c h => h.moves (moves_advance c)

theorem Reaches.keeps {P : Flat σ → Prop} (step : ∀ c, P c → P c.advance) (h : Reaches c d)
    (hc : P c) : P d := by
  obtain ⟨n, rfl⟩ := h
  exact Function.Iterate.rec P hc step n

theorem Reaches.ended {m : Machine σ} (h : Reaches (start program m) c) :
    Reaches c (ended ((exec program).run m)) := by
  obtain ⟨n, rfl⟩ := h
  obtain ⟨k, hk⟩ := reaches_exec program m
  refine ⟨k, ?_⟩
  rw [← Function.iterate_add_apply, Nat.add_comm, Function.iterate_add_apply, hk, iterate_ended]

/-- A state of a run in which a number of instructions has been executed, and none has failed. -/
structure Executed (tokens : List Token) (m : Machine σ) (n : Nat) (c : Flat σ) : Prop where
  reached : Reaches (start (Program.entry (Program.assemble tokens)) m.prepare) c
  fault : c.fault? = none
  size : c.machine.trace.size = n

variable {tokens : List Token} {m : Machine σ} {n : Nat}

theorem Executed.kept (h : Executed tokens m n c) :
    Kept (Program.entry (Program.assemble tokens)) m.prepare.now m.budget c :=
  h.reached.keeps (fun c hc => hc.moves (moves_advance c)) (start_kept _ m)

theorem Executed.trace_eq (h : Executed tokens m n c) :
    c.machine.trace.toList = (run tokens m).1.trace.toList.take n := by
  have hr := h.reached.ended
  rw [ended_eq_run] at hr
  have hp := hr.keeps (P := fun d => c.machine.trace.toList <+: d.machine.trace.toList)
    (fun d hd => hd.trans (moves_advance d).trace_grows) List.prefix_rfl
  rw [List.prefix_iff_eq_take.mp hp, Array.length_toList, h.size]

theorem Executed.now_eq {k : Nat} {s : Snapshot} (h : Executed tokens m (k + 1) c)
    (hs : (run tokens m).1.trace[k]? = some s) : c.machine.now = s := by
  have hb : c.machine.trace.back? = some s := by
    rw [← Array.getLast?_toList, List.getLast?_eq_getElem?, Array.length_toList, h.size, h.trace_eq,
      List.getElem?_take, if_pos (by omega), Array.getElem?_toList, Nat.add_sub_cancel, hs]
  rw [h.kept.account.now h.fault, hb, Option.getD_some]

/-- A run goes through every number of executed instructions up to the size of its trace. -/
theorem exists_executed (h : n ≤ (run tokens m).1.trace.size) : ∃ c, Executed tokens m n c := by
  have hr : Reaches (start (Program.entry (Program.assemble tokens)) m.prepare)
        ⟨[], (run tokens m).1, (run tokens m).2⟩ ∧
      ∀ n ≤ (run tokens m).1.trace.size, ∃ c, Executed tokens m n c := by
    refine run_invariant (P := fun c => Reaches (start _ m.prepare) c ∧
      ∀ n ≤ c.machine.trace.size, ∃ c, Executed tokens m n c) tokens m ⟨.refl _, ?_⟩ ?_
    · intro n hn
      exact ⟨_, .refl _, rfl, (Nat.le_zero.mp hn).symm⟩
    · rintro c ⟨hc, hn⟩
      have ha : Accounted m.prepare.now c :=
        hc.keeps (fun c hc => hc.moves (moves_advance c)) (start_accounted _ rfl rfl rfl)
      have hd := hc.trans (.step rfl)
      refine ⟨hd, fun n hle => ?_⟩
      rcases ha.quiet_or_executes (moves_advance c) with hq | ⟨i, op, he⟩
      · exact hn n (hq.trace ▸ hle)
      · rw [he.trace, Array.size_push] at hle
        rcases Nat.lt_or_eq_of_le hle with hlt | rfl
        · exact hn n (Nat.le_of_lt_succ hlt)
        · exact ⟨c.advance, hd, he.fault, by rw [he.trace, Array.size_push]⟩
  exact hr.2 n h

end Flat

structure TraceAccount (tokens : List Token) (budget : Nat) (m : Machine σ) : Prop where
  size : m.trace.size = m.now.count
  within : m.now.count ≤ budget
  numbered : ∀ k s, m.trace[k]? = some s → s.count = k + 1
  /-- Each snapshot points at a token with its opcode. -/
  token : ∀ s ∈ m.trace, ∃ t op, tokens[s.pointer]? = some t ∧ t.meaning = .instruction op ∧
    s.last? = some op
  stopLast : ∀ k s, m.trace[k]? = some s → s.last? = some .stop → k + 1 = m.trace.size
  now : m.trace ≠ #[] → m.trace.back? = some m.now

theorem exists_token_of_turn {tokens : List Token} {i : Instruction} {op : Opcode}
    {before after : Snapshot} (hi : i ∈ Program.entry (Program.assemble tokens))
    (h : Turn i op before after) :
    ∃ t op, tokens[after.pointer]? = some t ∧ t.meaning = .instruction op ∧
      after.last? = some op := by
  obtain ⟨k, t, hp, ht, ho⟩ := Program.exists_token_of_mem (Program.entry_subset _ hi)
  refine ⟨t, op, ?_, ?_, h.last⟩
  · rw [h.pointer, hp, Nat.zero_add, ht]
  · rw [h.opcode, Token.opcode?] at ho
    split at ho
    · rename_i hm
      rw [hm, Option.some.inj ho]
    · cases ho

/-- A run that does not fail leaves one snapshot for each counted instruction, in order, each of
which points at a token with its opcode; only the last can be that of a stop codon, and the last is
the state in which the run ends. -/
theorem run_traceAccount [Surface σ] (tokens : List Token) (m : Machine σ)
    (hf : (run tokens m).2 = none) : TraceAccount tokens m.budget (run tokens m).1 := by
  have h := Flat.run_kept tokens m
  have hz := h.account.size hf
  have hc (t : Snapshot × Snapshot) (ht : t ∈ turns m.prepare.now (run tokens m).1.trace.toList) :
      t.2.count = t.1.count + 1 := by
    obtain ⟨i, -, op, hi⟩ := h.turns t ht
    exact hi.count
  refine ⟨hz, hz ▸ h.size, fun k s hk => ?_, fun s hs => ?_, fun k s hk hs => ?_, fun hn => ?_⟩
  · rw [← Array.getElem?_toList] at hk
    rw [count_of_turns hc hk]
    exact congrArg (· + 1) (Nat.zero_add k)
  · obtain ⟨before, hb⟩ := exists_turn_of_mem m.prepare.now (Array.mem_toList_iff.mpr hs)
    obtain ⟨i, hi, op, ht⟩ := h.turns _ hb
    exact exists_token_of_turn hi ht
  · -- A stop codon before the end would be among the snapshots without the last.
    by_contra hlt
    have hk' := (Array.getElem?_eq_some_iff.mp hk).1
    refine h.stopLast s (List.mem_of_getElem? (i := k) ?_) hs
    rw [List.getElem?_dropLast, if_pos (by simp; omega), Array.getElem?_toList, hk]
  · rw [h.account.now hf]
    cases hb : (run tokens m).1.trace.back? with
    | none => exact (hn (by simpa using hb)).elim
    | some s => rfl

/-- A run that is truncated inside a loop. -/
theorem run_traceAccount_cut :
    let tokens := Genome.tokens "ATG GAA AAG GAA AAT CAA GAA AAC GGA TAA".toList
    let m := initial Recorder.blank 7 (.int 1)
    (run tokens m).2 = none ∧ TraceAccount tokens 7 (run tokens m).1 ∧
      (run tokens m).1.truncated = true := by
  intro tokens m
  have hf : (run tokens m).2 = none := by decide +kernel
  exact ⟨hf, run_traceAccount tokens m hf, by decide +kernel⟩

end Triplet.Machine
