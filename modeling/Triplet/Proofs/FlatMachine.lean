import Mathlib.Logic.Function.Iterate
import Triplet.Machine.Run

/-! # Runs as a flat machine

A block runs by recursion into the windows of its loops. The flat machine keeps these windows on a
stack of frames instead and takes one small step at a time. Both end in the same state, although the
flat machine enters every window, also one that holds nothing but unknown codons.
-/

namespace Triplet

def Stop.fault? : Stop → Option Fault
  | .halt => none
  | .fault f => some f

namespace Machine

variable {σ : Type}

/-- Pop the count of a loop and the length of its window, both without their fractions, and clamp
them. -/
def loopSpan (left : Nat) : Exec σ (Nat × Nat) := do
  let count ← attempt (← pop).truncate
  let length ← attempt (← pop).truncate
  return ((max 0 count).toNat, (max 0 (min length left)).toNat)

theorem loopSpan_le {left : Nat} {m m' : Machine σ} {span : Nat × Nat}
    (h : (loopSpan left).run m = .ok span m') : span.2 ≤ left := by
  simp only [loopSpan, EStateM.run_bind, EStateM.run_pure] at h
  repeat' split at h
  all_goals cases h
  omega

theorem times_pure (n : Nat) : times (pure () : Exec σ Unit) n = pure () := by
  induction n with
  | zero => rfl
  | succ n ih => rw [times, pure_bind, ih]

section Blocks

variable [Surface σ] {i : Instruction} {op : Opcode}

theorem exec_nil : exec ([] : List Instruction) = (pure () : Exec σ Unit) := by
  rw [exec]

theorem exec_unknown (h : i.opcode? = none) (rest : List Instruction) :
    (exec (i :: rest) : Exec σ Unit) = exec rest := by
  rw [exec]
  simp [h]

theorem exec_of_unknown {block : List Instruction} (h : ∀ i ∈ block, i.opcode? = none) :
    (exec block : Exec σ Unit) = pure () := by
  induction block with
  | nil => exact exec_nil
  | cons i rest ih =>
    rw [exec_unknown (h i (by simp))]
    exact ih fun j hj => h j (by simp [hj])

/-- Passing over a window without known opcodes is the same as running it. -/
theorem window_shortcut (window : List Instruction) (count : Nat) (next : Exec σ Unit) :
    (if window.any (·.opcode?.isSome) then do times (exec window) count; next else next) =
      (do times (exec window) count; next) := by
  split
  · rfl
  · rename_i h
    have hu : ∀ i ∈ window, i.opcode? = none := by simpa using h
    rw [exec_of_unknown hu, times_pure, pure_bind]

theorem exec_stop (h : i.opcode? = some .stop) (rest : List Instruction) :
    (exec (i :: rest) : Exec σ Unit) = (do
      tick i.pointer .stop
      record
      throw .halt) := by
  rw [exec]
  simp only [h]

theorem exec_loop (h : i.opcode? = some .loop) (rest : List Instruction) :
    (exec (i :: rest) : Exec σ Unit) = (do
      tick i.pointer .loop
      let span ← loopSpan rest.length
      record
      times (exec (rest.take span.2)) span.1
      exec (rest.drop span.2)) := by
  have hc (count : Int) : (max 0 count).toNat = count.toNat := by omega
  have hl (length : Int) (left : Nat) : (min length left).toNat = min length.toNat left := by omega
  rw [exec]
  simp only [h, window_shortcut, loopSpan, loopHead, hc, hl, bind_assoc, pure_bind]

theorem exec_other (h : i.opcode? = some op) (hs : op ≠ .stop) (hl : op ≠ .loop)
    (rest : List Instruction) :
    (exec (i :: rest) : Exec σ Unit) = (do
      tick i.pointer op
      step op i.operand
      record
      exec rest) := by
  rw [exec]
  simp only [h]

end Blocks

/-- A window of instructions, the index of the next, and the passes through it that are left. -/
structure Frame where
  window : List Instruction
  next : Nat
  passes : Nat

namespace Frame

def moveOn (f : Frame) (count : Nat) : Frame := { f with next := f.next + count }

def rest (f : Frame) : List Instruction := f.window.drop (f.next + 1)

theorem drop_next {f : Frame} {i : Instruction} (h : f.window[f.next]? = some i) :
    f.window.drop f.next = i :: f.rest := by
  obtain ⟨hlt, rfl⟩ := List.getElem?_eq_some_iff.mp h
  exact List.drop_eq_getElem_cons hlt

theorem drop_moveOn (f : Frame) (length : Nat) :
    (f.moveOn (1 + length)).window.drop (f.moveOn (1 + length)).next = f.rest.drop length := by
  rw [rest, List.drop_drop, Nat.add_assoc]
  rfl

/-- The effect of the next instruction of a frame, and the frames that take the place of this one:
a loop puts its window before it, and a stop codon leaves no frames. -/
def effect [Surface σ] (f : Frame) (i : Instruction) : Opcode → Exec σ (Option (List Frame))
  | .stop => return none
  | .loop => do
    let span ← loopSpan f.rest.length
    return some [⟨f.rest.take span.2, 0, span.1⟩, f.moveOn (1 + span.2)]
  | op => do
    step op i.operand
    return some [f.moveOn 1]

def act [Surface σ] (f : Frame) (i : Instruction) (op : Opcode) : Exec σ (List Frame) := do
  let frames? ← f.effect i op
  record
  match frames? with
  | some frames => return frames
  | none => throw .halt

def execute [Surface σ] (f : Frame) (i : Instruction) (op : Opcode) : Exec σ (List Frame) := do
  tick i.pointer op
  f.act i op

theorem act_loop [Surface σ] (f : Frame) (i : Instruction) :
    (f.act i .loop : Exec σ (List Frame)) = (do
      let span ← loopSpan f.rest.length
      record
      return [⟨f.rest.take span.2, 0, span.1⟩, f.moveOn (1 + span.2)]) := by
  simp only [act, effect, bind_assoc, pure_bind]

theorem effect_other [Surface σ] (f : Frame) (i : Instruction) {op : Opcode} (hs : op ≠ .stop)
    (hl : op ≠ .loop) :
    (f.effect i op : Exec σ (Option (List Frame))) = (do
      step op i.operand
      return some [f.moveOn 1]) := by
  cases op <;> first | rfl | contradiction

theorem act_other [Surface σ] (f : Frame) (i : Instruction) {op : Opcode} (hs : op ≠ .stop)
    (hl : op ≠ .loop) :
    (f.act i op : Exec σ (List Frame)) = (do
      step op i.operand
      record
      return [f.moveOn 1]) := by
  simp only [act, f.effect_other i hs hl, bind_assoc, pure_bind]

end Frame

/-- A machine with the frames that it is in, the innermost first, and the fault that ended its run,
if any. Without frames the run is over. -/
structure Flat (σ : Type) where
  frames : List Frame
  machine : Machine σ
  fault? : Option Fault

namespace Flat

/-- Go on with some frames after a computation; one that halts or fails drops all frames. -/
def resume {α : Type} (frames : α → List Frame) : EStateM.Result Stop (Machine σ) α → Flat σ
  | .ok a m => ⟨frames a, m, none⟩
  | .error e m => ⟨[], m, e.fault?⟩

variable [Surface σ]

/-- One small step. A frame without passes is left, and one at its end starts its next pass. -/
def advance (c : Flat σ) : Flat σ :=
  match c.frames with
  | [] => c
  | f :: below =>
    if f.passes = 0 then { c with frames := below }
    else
      match f.window[f.next]? with
      | none => { c with frames := { f with next := 0, passes := f.passes - 1 } :: below }
      | some i =>
        match i.opcode? with
        | none => { c with frames := f.moveOn 1 :: below }
        | some op => resume (· ++ below) ((f.execute i op).run c.machine)

def start (program : List Instruction) (m : Machine σ) : Flat σ := ⟨[⟨program, 0, 1⟩], m, none⟩

def Reaches (c d : Flat σ) : Prop := ∃ n, advance^[n] c = d

namespace Reaches

theorem refl (c : Flat σ) : Reaches c c := ⟨0, rfl⟩

theorem trans {c d e : Flat σ} (h : Reaches c d) (h' : Reaches d e) : Reaches c e := by
  obtain ⟨n, rfl⟩ := h
  obtain ⟨n', rfl⟩ := h'
  exact ⟨n' + n, Function.iterate_add_apply _ _ _ _⟩

theorem step {c d : Flat σ} (h : advance c = d) : Reaches c d := ⟨1, h⟩

theorem bind {α : Type} {c : Flat σ} {frames : α → List Frame} {frames' : List Frame}
    {a : Exec σ α} {next : α → Exec σ Unit} {m : Machine σ}
    (h : Reaches c (resume frames (a.run m)))
    (h' : ∀ x m', a.run m = .ok x m' →
      Reaches ⟨frames x, m', none⟩ (resume (fun _ => frames') ((next x).run m'))) :
    Reaches c (resume (fun _ => frames') ((a >>= next).run m)) := by
  rw [EStateM.run_bind]
  cases hr : a.run m with
  | ok x m' =>
    rw [hr] at h
    exact h.trans (h' x m' hr)
  | error e m' =>
    rw [hr] at h
    exact h

theorem bind_bind {α β : Type} {frames : β → List Frame} {frames' : List Frame} {a : Exec σ α}
    {next : α → Exec σ β} {next' : α → Exec σ Unit} {m : Machine σ}
    (h : ∀ x m', a.run m = .ok x m' → Reaches (resume frames ((next x).run m'))
      (resume (fun _ => frames') ((next' x).run m'))) :
    Reaches (resume frames ((a >>= next).run m))
      (resume (fun _ => frames') ((a >>= next').run m)) := by
  rw [EStateM.run_bind, EStateM.run_bind]
  cases hr : a.run m with
  | ok x m' => exact h x m' hr
  | error e m' => exact .refl _

end Reaches

variable {m : Machine σ} {f : Frame} {below : List Frame} {i : Instruction} {op : Opcode}
  {e : Option Fault}

theorem advance_left (h : f.passes = 0) : advance ⟨f :: below, m, e⟩ = ⟨below, m, e⟩ := by
  simp [advance, h]

theorem advance_rewind (hp : 0 < f.passes) (h : f.window.length ≤ f.next) :
    advance ⟨f :: below, m, e⟩ = ⟨{ f with next := 0, passes := f.passes - 1 } :: below, m, e⟩ := by
  have hn : f.passes ≠ 0 := by omega
  simp [advance, hn, List.getElem?_eq_none h]

theorem advance_unknown (hp : 0 < f.passes) (hi : f.window[f.next]? = some i)
    (h : i.opcode? = none) :
    advance ⟨f :: below, m, e⟩ = ⟨f.moveOn 1 :: below, m, e⟩ := by
  have hn : f.passes ≠ 0 := by omega
  simp [advance, hn, hi, h]

theorem advance_known (hp : 0 < f.passes) (hi : f.window[f.next]? = some i)
    (h : i.opcode? = some op) :
    advance ⟨f :: below, m, e⟩ = resume (· ++ below) ((f.execute i op).run m) := by
  have hn : f.passes ≠ 0 := by omega
  simp [advance, hn, hi, h]

def RunsBlock (σ : Type) [Surface σ] (f : Frame) : Prop :=
  ∀ (m : Machine σ) (below : List Frame), Reaches ⟨f :: below, m, none⟩
    (resume (fun _ => { f with next := f.window.length } :: below)
      ((exec (f.window.drop f.next)).run m))

/-- If a frame runs its window as a block, then a loop over the window is a number of passes. -/
theorem reaches_times {window : List Instruction}
    (h : ∀ passes, 0 < passes → RunsBlock σ ⟨window, 0, passes⟩) (count : Nat) (m : Machine σ)
    (below : List Frame) :
    Reaches ⟨⟨window, 0, count⟩ :: below, m, none⟩
      (resume (fun _ => below) ((times (exec window) count).run m)) := by
  induction count generalizing m with
  | zero => exact .step (advance_left rfl)
  | succ count ih =>
    rw [times]
    refine .bind (h (count + 1) (by simp) m below) fun _ m' _ => ?_
    refine (Reaches.step (advance_rewind (by simp) (Nat.le_refl _))).trans ?_
    exact ih m'

theorem runsBlock_unknown (hp : 0 < f.passes) (hi : f.window[f.next]? = some i)
    (h : i.opcode? = none) (hr : RunsBlock σ (f.moveOn 1)) : RunsBlock σ f := by
  intro m below
  rw [f.drop_next hi, exec_unknown h]
  exact (Reaches.step (advance_unknown hp hi h)).trans (hr m below)

theorem runsBlock_stop (hp : 0 < f.passes) (hi : f.window[f.next]? = some i)
    (h : i.opcode? = some .stop) : RunsBlock σ f := by
  intro m below
  rw [f.drop_next hi, exec_stop h]
  refine (Reaches.step (advance_known hp hi h)).trans ?_
  exact .bind_bind fun _ m₁ _ => .refl _

theorem runsBlock_loop (hp : 0 < f.passes) (hi : f.window[f.next]? = some i)
    (h : i.opcode? = some .loop)
    (hw : ∀ length passes, 0 < passes → RunsBlock σ ⟨f.rest.take length, 0, passes⟩)
    (hr : ∀ length, length ≤ f.rest.length → RunsBlock σ (f.moveOn (1 + length))) :
    RunsBlock σ f := by
  intro m below
  rw [f.drop_next hi, exec_loop h]
  refine (Reaches.step (advance_known hp hi h)).trans ?_
  refine .bind_bind fun _ m₁ _ => ?_
  rw [f.act_loop]
  refine .bind_bind fun span m₂ hspan => .bind_bind fun _ m₃ _ => ?_
  refine .bind (reaches_times (hw span.2) span.1 m₃ _) fun _ m₄ _ => ?_
  rw [← f.drop_moveOn]
  exact hr span.2 (loopSpan_le hspan) m₄ below

theorem runsBlock_other (hp : 0 < f.passes) (hi : f.window[f.next]? = some i)
    (h : i.opcode? = some op) (hs : op ≠ .stop) (hl : op ≠ .loop) (hr : RunsBlock σ (f.moveOn 1)) :
    RunsBlock σ f := by
  intro m below
  rw [f.drop_next hi, exec_other h hs hl]
  refine (Reaches.step (advance_known hp hi h)).trans ?_
  refine .bind_bind fun _ m₁ _ => ?_
  rw [f.act_other i hs hl]
  exact .bind_bind fun _ m₂ _ => .bind_bind fun _ m₃ _ => hr m₃ below

theorem runsBlock (f : Frame) (hp : 0 < f.passes) (hn : f.next ≤ f.window.length) :
    RunsBlock σ f := by
  -- The measure is what is left of the window, since a loop enters any part of it.
  induction hs : f.window.length - f.next using Nat.strongRecOn generalizing f with
  | _ size ih =>
    cases hi : f.window[f.next]? with
    | none =>
      have he : f.next = f.window.length := by
        have := List.getElem?_eq_none_iff.mp hi
        omega
      intro m below
      rw [he, List.drop_length, exec_nil, ← he]
      exact .refl _
    | some i =>
      have hlt := (List.getElem?_eq_some_iff.mp hi).1
      have hl : f.rest.length = f.window.length - (f.next + 1) := by simp [Frame.rest]
      have hr (length : Nat) (h : length ≤ f.rest.length) :
          RunsBlock σ (f.moveOn (1 + length)) := by
        refine ih _ ?_ _ hp ?_ rfl <;> simp only [Frame.moveOn] <;> omega
      cases ho : i.opcode? with
      | none => exact runsBlock_unknown hp hi ho (hr 0 (by omega))
      | some op =>
        by_cases hs : op = .stop
        · exact runsBlock_stop hp hi (hs ▸ ho)
        by_cases hl : op = .loop
        · refine runsBlock_loop hp hi (hl ▸ ho) (fun length passes hp => ?_) hr
          exact ih _ (by simp; omega) _ hp (by simp) rfl
        · exact runsBlock_other hp hi ho hs hl (hr 0 (by omega))

def ended (r : EStateM.Result Stop (Machine σ) Unit) : Flat σ := resume (fun _ => []) r

theorem reaches_exec (program : List Instruction) (m : Machine σ) :
    Reaches (start program m) (ended ((exec program).run m)) := by
  have h := reaches_times (fun passes hp => runsBlock ⟨program, 0, passes⟩ hp (by simp)) 1 m []
  have ht : times (exec program) 1 = (exec program : Exec σ Unit) := by
    rw [times, times, bind_pure_unit]
  rwa [ht] at h

theorem iterate_ended (r : EStateM.Result Stop (Machine σ) Unit) (n : Nat) :
    advance^[n] (ended r) = ended r :=
  Function.iterate_fixed (by cases r <;> rfl) n

/-- What holds at the start of a run and is kept by every small step holds at its end. -/
theorem exec_invariant {P : Flat σ → Prop} {program : List Instruction} {m : Machine σ}
    (h : P (start program m)) (step : ∀ c, P c → P c.advance) :
    P (ended ((exec program).run m)) := by
  obtain ⟨n, hn⟩ := reaches_exec program m
  rw [← hn]
  exact Function.Iterate.rec P h step n

/-- What relates the starts of two runs and is kept by every pair of small steps relates their
ends. -/
theorem exec_simulation {τ : Type} [Surface τ] {R : Flat σ → Flat τ → Prop}
    {program program' : List Instruction} {m : Machine σ} {m' : Machine τ}
    (h : R (start program m) (start program' m'))
    (step : ∀ c d, R c d → R c.advance d.advance) :
    R (ended ((exec program).run m)) (ended ((exec program').run m')) := by
  obtain ⟨n, hn⟩ := reaches_exec program m
  obtain ⟨n', hn'⟩ := reaches_exec program' m'
  -- A run that has ended stays as it is, so both may take as many steps as they need together.
  have hc : advance^[n' + n] (start program m) = ended ((exec program).run m) := by
    rw [Function.iterate_add_apply, hn, iterate_ended]
  have hd : advance^[n' + n] (start program' m') = ended ((exec program').run m') := by
    rw [Nat.add_comm, Function.iterate_add_apply, hn', iterate_ended]
  rw [← hc, ← hd]
  induction n' + n with
  | zero => exact h
  | succ k ih =>
    rw [Function.iterate_succ_apply', Function.iterate_succ_apply']
    exact step _ _ ih

theorem ended_eq_run (tokens : List Token) (m : Machine σ) :
    ended ((exec (Program.entry (Program.assemble tokens))).run m.prepare) =
      ⟨[], (run tokens m).1, (run tokens m).2⟩ := by
  simp only [run, ended, EStateM.run]
  rcases exec (Program.entry (Program.assemble tokens)) m.prepare with ⟨_, _⟩ | ⟨_ | _, _⟩ <;> rfl

theorem run_invariant {P : Flat σ → Prop} (tokens : List Token) (m : Machine σ)
    (h : P (start (Program.entry (Program.assemble tokens)) m.prepare))
    (step : ∀ c, P c → P c.advance) : P ⟨[], (run tokens m).1, (run tokens m).2⟩ := by
  rw [← ended_eq_run]
  exact exec_invariant h step

theorem run_simulation {τ : Type} [Surface τ] {R : Flat σ → Flat τ → Prop}
    (tokens tokens' : List Token) (m : Machine σ) (m' : Machine τ)
    (h : R (start (Program.entry (Program.assemble tokens)) m.prepare)
      (start (Program.entry (Program.assemble tokens')) m'.prepare))
    (step : ∀ c d, R c d → R c.advance d.advance) :
    R ⟨[], (run tokens m).1, (run tokens m).2⟩ ⟨[], (run tokens' m').1, (run tokens' m').2⟩ := by
  rw [← ended_eq_run, ← ended_eq_run]
  exact exec_simulation h step

/-- From some step on, the flat machine stays in the state in which the recursive run ends: with the
same trace, stack, pens, surface and truncation, and with the same fault, if any. -/
theorem eventually_ended (program : List Instruction) (m : Machine σ) :
    ∃ n, ∀ k, n ≤ k → advance^[k] (start program m) = ended ((exec program).run m) := by
  obtain ⟨n, hn⟩ := reaches_exec program m
  refine ⟨n, fun k hk => ?_⟩
  obtain ⟨extra, rfl⟩ := Nat.exists_eq_add_of_le' hk
  rw [Function.iterate_add_apply, hn, iterate_ended]

end Flat

end Machine

end Triplet
