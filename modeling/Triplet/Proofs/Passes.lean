import Mathlib.Data.List.Nodup
import Mathlib.Logic.Function.Iterate
import Triplet.Proofs.Assembly
import Triplet.Proofs.SmallStep

/-! # Passes through windows

A run is a course of tasks: blocks to run to their ends, and windows to pass through some more
times. Every pass that is entered counts an instruction of its own, unless the budget is used up
right there. So the budget bounds the number of passes, and with it the number of small steps,
whatever the counts of the loops are.
-/

namespace Triplet

namespace Machine

variable {σ : Type}

/-- What a run has still to do. Every block is run in a pass through a window, which has a number;
the program itself is run in pass 0. -/
inductive Task where
  | block (pass : Nat) (rest : List Instruction)
  | passes (window : List Instruction) (left : Nat)

/-- The task that a loop makes of its window. One without known opcodes is passed over. -/
def windowTasks (window : List Instruction) (count : Nat) : List Task :=
  if window.any (·.opcode?.isSome) then [.passes window count] else []

namespace Task

def IsDone : Task → Prop
  | block _ rest => rest = []
  | passes _ left => left = 0

/-- A task within a size. A window that is passed through holds a known opcode. -/
def Fits (size : Nat) : Task → Prop
  | block _ rest => rest.length ≤ size
  | passes window _ => window.length ≤ size ∧ window.any (·.opcode?.isSome)

/-- The small steps of some tasks, without those of the passes that they enter. -/
def workload : List Task → Nat
  | [] => 0
  | block _ rest :: below => rest.length + 1 + workload below
  | passes _ _ :: below => 1 + workload below

theorem workload_append (tasks below : List Task) :
    workload (tasks ++ below) = workload tasks + workload below := by
  induction tasks with
  | nil => simp [workload]
  | cons t tasks ih => cases t <;> simp only [List.cons_append, workload, ih] <;> omega

theorem workload_of_isDone {t : Task} (h : t.IsDone) (below : List Task) :
    workload (t :: below) = 1 + workload below := by
  cases t with
  | block pass rest =>
    obtain rfl : rest = [] := h
    simp [workload]
  | passes window left => rfl

/-- A window and what comes after it are not more work than both in one block. -/
theorem workload_windowTasks_le (rest : List Instruction) (length count : Nat) :
    workload (windowTasks (rest.take length) count) + (rest.drop length).length ≤ rest.length := by
  rw [windowTasks]
  split
  · cases rest with
    | nil => simp_all
    | cons i rest =>
      cases length with
      | zero => simp_all
      | succ length =>
        simp only [workload, List.drop_succ_cons, List.length_drop, List.length_cons]
        omega
  · simp [workload]

theorem fits_windowTasks {rest : List Instruction} {size : Nat} (h : rest.length ≤ size)
    (length count : Nat) : ∀ t ∈ windowTasks (rest.take length) count, t.Fits size := by
  intro t ht
  rw [windowTasks] at ht
  split at ht
  · rename_i hk
    obtain rfl := List.mem_singleton.mp ht
    exact ⟨by simp; omega, hk⟩
  · cases ht

variable [Surface σ]

/-- The effect of an instruction, and the tasks that take the place of its block: a stop codon
leaves none. -/
def effect (pass : Nat) (i : Instruction) (rest : List Instruction) :
    Opcode → Exec σ (Option (List Task))
  | .stop => return none
  | .loop => do
    let span ← loopHead rest.length
    return some (windowTasks (rest.take span.2) span.1 ++ [block pass (rest.drop span.2)])
  | op => do
    step op i.operand
    return some [block pass rest]

def act (pass : Nat) (i : Instruction) (rest : List Instruction) (op : Opcode) :
    Exec σ (List Task) := do
  let tasks? ← effect pass i rest op
  record
  match tasks? with
  | some tasks => return tasks
  | none => throw .halt

def exec : Task → Exec σ Unit
  | block _ rest => Machine.exec rest
  | passes window left => times (Machine.exec window) left

def execAll : List Task → Exec σ Unit
  | [] => pure ()
  | t :: below => do
    t.exec
    execAll below

theorem execAll_append (tasks below : List Task) :
    (execAll (tasks ++ below) : Exec σ Unit) = (do execAll tasks; execAll below) := by
  induction tasks with
  | nil => simp [execAll]
  | cons t tasks ih => simp [execAll, ih]

theorem execAll_windowTasks (window : List Instruction) (count : Nat) (below : List Task) :
    (execAll (windowTasks window count ++ below) : Exec σ Unit) =
      if window.any (·.opcode?.isSome) then do times (Machine.exec window) count; execAll below
      else execAll below := by
  rw [windowTasks]
  split <;> rfl

theorem effect_other (pass : Nat) (i : Instruction) (rest : List Instruction) {op : Opcode}
    (hs : op ≠ .stop) (hl : op ≠ .loop) :
    (effect pass i rest op : Exec σ (Option (List Task))) = (do
      step op i.operand
      return some [block pass rest]) := by
  cases op <;> first | rfl | contradiction

theorem elementary_effect (pass : Nat) (i : Instruction) (rest : List Instruction) (op : Opcode) :
    Elementary (effect pass i rest op : Exec σ (Option (List Task))) := by
  have hl (left : Nat) : Elementary (loopHead left : Exec σ (Nat × Nat)) :=
    .bind .pop fun _ => .bind (.attempt _) fun _ => .bind .pop fun _ => .bind (.attempt _)
      fun _ => .pure _
  by_cases hs : op = .stop
  · subst hs
    exact .pure none
  by_cases hl' : op = .loop
  · subst hl'
    exact .bind (hl _) fun _ => .pure _
  · rw [effect_other pass i rest hs hl']
    exact .bind (.step op _) fun _ => .pure _

def Replaces (pass : Nat) (rest : List Instruction) (tasks : List Task) : Prop :=
  ∃ length count, tasks = windowTasks (rest.take length) count ++ [block pass (rest.drop length)]

theorem replaces_effect {pass : Nat} {i : Instruction} {rest : List Instruction} {op : Opcode}
    {tasks : List Task} {m m' : Machine σ}
    (h : (effect pass i rest op).run m = .ok (some tasks) m') : Replaces pass rest tasks := by
  by_cases hs : op = .stop
  · subst hs
    cases h
  by_cases hl : op = .loop
  · subst hl
    simp only [effect, EStateM.run_bind] at h
    split at h
    · cases h
      exact ⟨_, _, rfl⟩
    · cases h
  · rw [effect_other pass i rest hs hl, EStateM.run_bind] at h
    split at h
    · cases h
      exact ⟨0, 0, by simp [windowTasks]⟩
    · cases h

theorem run_act (pass : Nat) (i : Instruction) (rest : List Instruction) (op : Opcode)
    (m : Machine σ) :
    (act pass i rest op).run m = match (effect pass i rest op).run m with
      | .ok (some tasks) m' => .ok tasks m'.recorded
      | .ok none m' => .error .halt m'.recorded
      | .error e m' => .error e m' := by
  rw [act, EStateM.run_bind]
  cases (effect pass i rest op).run m with
  | ok tasks? m' => cases tasks? <;> rfl
  | error e m' => rfl

/-- A block is its first instruction and then the tasks that take its place. -/
theorem exec_eq_act (pass : Nat) {i : Instruction} {op : Opcode} (h : i.opcode? = some op)
    (rest : List Instruction) :
    (Machine.exec (i :: rest) : Exec σ Unit) = (do
      tick i.pointer op
      execAll (← act pass i rest op)) := by
  by_cases hs : op = .stop
  · subst hs
    rw [exec_stop h]
    rfl
  by_cases hl : op = .loop
  · subst hl
    rw [Machine.exec]
    simp only [h, act, effect, bind_assoc, pure_bind, execAll_windowTasks]
    simp only [execAll, exec, bind_pure_unit]
  · rw [exec_other h hs hl]
    simp only [act, effect_other pass i rest hs hl, bind_assoc, pure_bind, execAll, exec,
      bind_pure_unit]

end Task

/-- A run with the tasks that are left, the next one first, and with its account of passes. Without
tasks the run is over. -/
structure Course (σ : Type) where
  tasks : List Task
  machine : Machine σ
  fault? : Option Fault
  /-- The number of passes that have been entered. -/
  entered : Nat
  /-- The pass of each instruction that has been counted, the last one first. -/
  owners : List Nat

namespace Course

def start (program : List Instruction) (m : Machine σ) : Course σ :=
  ⟨[.block 0 program], m, none, 0, []⟩

/-- Go on with some tasks after a computation; one that halts or fails drops all tasks. -/
def resume (c : Course σ) (below : List Task) :
    EStateM.Result Stop (Machine σ) (List Task) → Course σ
  | .ok tasks m => { c with tasks := tasks ++ below, machine := m }
  | .error e m => { c with tasks := [], machine := m, fault? := e.fault? }

def settle (fault? : Option Fault) :
    EStateM.Result Stop (Machine σ) Unit → Machine σ × Option Fault
  | .ok _ m => (m, fault?)
  | .error e m => (m, e.fault?)

inductive Moves (c : Course σ) : Course σ → Prop where
  | ended : c.tasks = [] → Moves c c
  | leave {t : Task} {below : List Task} : c.tasks = t :: below → t.IsDone →
      Moves c { c with tasks := below }
  | enter {window : List Instruction} {left : Nat} {below : List Task} :
      c.tasks = .passes window (left + 1) :: below →
      Moves c { c with
        tasks := .block (c.entered + 1) window :: .passes window left :: below
        entered := c.entered + 1 }
  | skip {pass : Nat} {i : Instruction} {rest : List Instruction} {below : List Task} :
      c.tasks = .block pass (i :: rest) :: below → i.opcode? = none →
      Moves c { c with tasks := .block pass rest :: below }
  | truncate {pass : Nat} {i : Instruction} {rest : List Instruction} {below : List Task} :
      c.tasks = .block pass (i :: rest) :: below →
      Moves c { c with
        tasks := []
        machine := { c.machine with truncated := true }
        fault? := none }
  | count {pass : Nat} {i : Instruction} {rest : List Instruction} {below tasks : List Task}
      {m : Machine σ} {e : Option Fault} : c.tasks = .block pass (i :: rest) :: below →
      c.machine.now.count < c.machine.budget → m.now.count = c.machine.now.count + 1 →
      m.budget = c.machine.budget →
      (tasks = [] ∨ ∃ first, Task.Replaces pass rest first ∧ tasks = first ++ below) →
      Moves c ⟨tasks, m, e, c.entered, pass :: c.owners⟩

def PaidTo (n : Nat) (c : Course σ) : Prop := ∀ k, 0 < k → k ≤ n → k ∈ c.owners

theorem PaidTo.le_length {n : Nat} {c : Course σ} (h : PaidTo n c) : n ≤ c.owners.length := by
  have hs : List.range' 1 n ⊆ c.owners := by
    intro k hk
    rw [List.mem_range'_1] at hk
    exact h k (by omega) (by omega)
  simpa using (List.nodup_range' (s := 1) (n := n)).length_le_of_subset hs

/-- All passes have counted an instruction, or all but the last, which is about to count one or has
been cut off by the end of the budget. -/
inductive Standing (c : Course σ) : Prop where
  | paid : PaidTo c.entered c → Standing c
  | due {rest : List Instruction} {below : List Task} : c.tasks = .block c.entered rest :: below →
      rest.any (·.opcode?.isSome) → PaidTo (c.entered - 1) c → Standing c
  | cut : c.tasks = [] → c.machine.truncated = true → PaidTo (c.entered - 1) c → Standing c

theorem Standing.moves {c d : Course σ} (h : Standing c)
    (hk : ∀ t ∈ c.tasks, ∀ window left, t = .passes window left → window.any (·.opcode?.isSome))
    (hm : Moves c d) : Standing d := by
  cases h with
  | paid hp =>
    cases hm with
    | ended | leave | skip | truncate => exact .paid hp
    | @enter window left below ht =>
      have hw := hk (.passes window (left + 1)) (by simp [ht]) window (left + 1) rfl
      exact .due rfl hw hp
    | count => exact .paid fun k h₀ hn => List.mem_cons_of_mem _ (hp k h₀ hn)
  | @due rest below ht hr hp =>
    cases hm with
    | ended hn => simp [ht] at hn
    | leave ht' hd =>
      -- The block holds a known opcode, so that it is not at its end.
      obtain ⟨rfl, rfl⟩ := List.cons.inj (ht.symm.trans ht')
      obtain rfl : rest = [] := hd
      simp at hr
    | enter ht' => simp [ht] at ht'
    | skip ht' ho =>
      obtain ⟨hb, rfl⟩ := List.cons.inj (ht.symm.trans ht')
      obtain ⟨rfl, rfl⟩ := Task.block.inj hb
      exact .due rfl (by simpa [ho] using hr) hp
    | truncate => exact .cut rfl rfl hp
    | count ht' =>
      obtain ⟨hb, rfl⟩ := List.cons.inj (ht.symm.trans ht')
      obtain ⟨rfl, rfl⟩ := Task.block.inj hb
      refine .paid fun k h₀ hn => ?_
      by_cases he : k = c.entered
      · simp [he]
      · exact List.mem_cons_of_mem _ (hp k h₀ (by change k ≤ c.entered at hn; omega))
  | cut ht hc hp =>
    cases hm with
    | ended => exact .cut ht hc hp
    | leave ht' | enter ht' | skip ht' | truncate ht' | count ht' => simp [ht] at ht'

structure Orderly (size budget : Nat) (c : Course σ) : Prop where
  fits : ∀ t ∈ c.tasks, t.Fits size
  standing : Standing c
  owners : c.owners.length = c.machine.now.count
  within : c.machine.now.count ≤ budget
  budget : c.machine.budget = budget

theorem fits_of_replaces {size pass : Nat} {rest : List Instruction} {first : List Task}
    (h : Task.Replaces pass rest first) (hr : rest.length ≤ size) : ∀ t ∈ first, t.Fits size := by
  obtain ⟨length, count, rfl⟩ := h
  intro t ht
  rcases List.mem_append.mp ht with ht | ht
  · exact Task.fits_windowTasks hr length count t ht
  · obtain rfl := List.mem_singleton.mp ht
    simp only [Task.Fits, List.length_drop]
    omega

theorem Moves.fits {size : Nat} {c d : Course σ} (hm : Moves c d)
    (h : ∀ t ∈ c.tasks, t.Fits size) : ∀ t ∈ d.tasks, t.Fits size := by
  cases hm with
  | ended => exact h
  | leave ht => exact fun t hd => h t (by simp [ht, show t ∈ _ from hd])
  | @enter window left below ht =>
    simp only [ht, List.forall_mem_cons] at h ⊢
    exact ⟨h.1.1, h.1, h.2⟩
  | skip ht =>
    simp only [ht, List.forall_mem_cons] at h ⊢
    exact ⟨Nat.le_of_succ_le h.1, h.2⟩
  | truncate => simp
  | count ht _ _ _ hr =>
    rw [ht, List.forall_mem_cons] at h
    rcases hr with rfl | ⟨first, hr, rfl⟩
    · simp
    · intro t hd
      rcases List.mem_append.mp hd with hd | hd
      · exact fits_of_replaces hr (Nat.le_of_succ_le h.1) t hd
      · exact h.2 t hd

theorem Orderly.moves {size budget : Nat} {c d : Course σ} (h : Orderly size budget c)
    (hm : Moves c d) : Orderly size budget d := by
  have hk (t : Task) (ht : t ∈ c.tasks) (window : List Instruction) (left : Nat)
      (he : t = .passes window left) : window.any (·.opcode?.isSome) := by
    subst he
    exact (h.fits _ ht).2
  have hf := hm.fits h.fits
  have hs := h.standing.moves hk hm
  cases hm with
  | ended | leave | enter | skip | truncate => exact ⟨hf, hs, h.owners, h.within, h.budget⟩
  | count _ hb hc he =>
    refine ⟨hf, hs, ?_, ?_, he.trans h.budget⟩
    · simp [h.owners, hc]
    · rw [hc, ← h.budget]
      exact hb

/-- A bound on the small steps that are left: those of the tasks, and those of all passes for which
there is budget. -/
def potential (size : Nat) (c : Course σ) : Nat :=
  (c.machine.budget + 1 - c.entered) * (size + 2) + Task.workload c.tasks

theorem Orderly.potential_enter {size budget left : Nat} {c : Course σ} (h : Orderly size budget c)
    {window : List Instruction} {below : List Task}
    (ht : c.tasks = .passes window (left + 1) :: below) :
    potential size { c with
      tasks := .block (c.entered + 1) window :: .passes window left :: below
      entered := c.entered + 1 } < potential size c := by
  have hw : window.length ≤ size := (h.fits (.passes window (left + 1)) (by simp [ht])).1
  have he : c.entered ≤ c.machine.budget := by
    cases h.standing with
    | paid hp => exact Nat.le_trans hp.le_length (by rw [h.owners, h.budget]; exact h.within)
    | due ht' => simp [ht] at ht'
    | cut ht' => simp [ht] at ht'
  obtain ⟨more, hmore⟩ := Nat.exists_eq_add_of_le he
  have h₁ : c.machine.budget + 1 - c.entered = more + 1 := by omega
  have h₂ : c.machine.budget + 1 - (c.entered + 1) = more := by omega
  simp only [potential, ht, Task.workload, h₁, h₂, Nat.succ_mul]
  omega

/-- Every small step of a run that is not over lowers the bound. -/
theorem Orderly.potential_lt {size budget : Nat} {c d : Course σ} (h : Orderly size budget c)
    (hn : c.tasks ≠ []) (hm : Moves c d) : d.potential size < c.potential size := by
  cases hm with
  | ended ht => exact (hn ht).elim
  | leave ht hd =>
    simp only [potential, ht, Task.workload_of_isDone hd]
    omega
  | enter ht => exact h.potential_enter ht
  | skip ht =>
    simp only [potential, ht, Task.workload, List.length_cons]
    omega
  | truncate ht =>
    simp only [potential, ht, Task.workload]
    omega
  | @count pass i rest below tasks m e ht _ _ hb hr =>
    have hw : Task.workload tasks ≤ rest.length + 1 + Task.workload below := by
      rcases hr with rfl | ⟨first, ⟨length, count, rfl⟩, rfl⟩
      · simp [Task.workload]
      · have := Task.workload_windowTasks_le rest length count
        simp only [Task.workload_append, Task.workload]
        omega
    simp only [potential, ht, hb, Task.workload, List.length_cons]
    omega

variable [Surface σ]

def execute (c : Course σ) (pass : Nat) (i : Instruction) (op : Opcode) (rest : List Instruction)
    (below : List Task) : Course σ :=
  match (tick i.pointer op).run c.machine with
  | .ok _ m =>
    { c with owners := pass :: c.owners }.resume below ((Task.act pass i rest op).run m)
  | .error e m => c.resume below (.error e m)

/-- One small step: leave a task that is done, enter the next pass, or go on with a block. -/
def advance (c : Course σ) : Course σ :=
  match c.tasks with
  | [] => c
  | .passes _ 0 :: below => { c with tasks := below }
  | .passes window (left + 1) :: below =>
    { c with
      tasks := .block (c.entered + 1) window :: .passes window left :: below
      entered := c.entered + 1 }
  | .block _ [] :: below => { c with tasks := below }
  | .block pass (i :: rest) :: below =>
    match i.opcode? with
    | none => { c with tasks := .block pass rest :: below }
    | some op => c.execute pass i op rest below

def outcome (c : Course σ) : Machine σ × Option Fault :=
  settle c.fault? ((Task.execAll c.tasks).run c.machine)

theorem outcome_of_tasks_nil {c : Course σ} (h : c.tasks = []) :
    c.outcome = (c.machine, c.fault?) := by
  rw [outcome, h]
  rfl

theorem outcome_start (tokens : List Token) (m : Machine σ) :
    (start (Program.entry (Program.assemble tokens)) m.prepare).outcome = run tokens m := by
  have he (program : List Instruction) :
      Task.execAll [.block 0 program] = (exec program : Exec σ Unit) := by
    simp only [Task.execAll, Task.exec, bind_pure_unit]
  simp only [outcome, settle, start, he, run, EStateM.run]
  rcases exec (Program.entry (Program.assemble tokens)) m.prepare with ⟨_, _⟩ | ⟨_ | _, _⟩ <;> rfl

theorem outcome_resume (c : Course σ) (below : List Task) (a : Exec σ (List Task))
    (m : Machine σ) :
    (c.resume below (a.run m)).outcome =
      settle c.fault? (EStateM.run (do Task.execAll (← a); Task.execAll below) m) := by
  rw [EStateM.run_bind]
  cases a.run m with
  | ok tasks m' => simp only [resume, outcome, Task.execAll_append]
  | error e m' => rfl

theorem outcome_execute {c : Course σ} {pass : Nat} {i : Instruction} {op : Opcode}
    {rest : List Instruction} {below : List Task} (ht : c.tasks = .block pass (i :: rest) :: below)
    (ho : i.opcode? = some op) : (c.execute pass i op rest below).outcome = c.outcome := by
  have hc : c.outcome = settle c.fault? (EStateM.run (do
      tick i.pointer op
      Task.execAll (← Task.act pass i rest op)
      Task.execAll below) c.machine) := by
    rw [outcome, ht, Task.execAll, Task.exec, Task.exec_eq_act pass ho]
    simp only [bind_assoc]
  rw [hc, execute, EStateM.run_bind]
  cases (tick i.pointer op).run c.machine with
  | ok _ m => exact outcome_resume _ below _ m
  | error e m => rfl

theorem outcome_advance (c : Course σ) : c.advance.outcome = c.outcome := by
  have key {tasks : List Task} {entered : Nat}
      (h : (Task.execAll tasks : Exec σ Unit) = Task.execAll c.tasks) :
      outcome { c with tasks, entered } = c.outcome := by
    simp only [outcome, h]
  rw [advance]
  split
  · rfl
  · rename_i window below ht
    exact key (by rw [ht]; simp [Task.execAll, Task.exec, times])
  · rename_i window left below ht
    exact key (by rw [ht]; simp [Task.execAll, Task.exec, times])
  · rename_i pass below ht
    exact key (by rw [ht]; simp [Task.execAll, Task.exec, exec_nil])
  · rename_i pass i rest below ht
    split
    · rename_i ho
      exact key (by rw [ht]; simp only [Task.execAll, Task.exec, exec_unknown ho])
    · rename_i op ho
      exact outcome_execute ht ho

theorem moves_execute {c : Course σ} {pass : Nat} {i : Instruction} {rest : List Instruction}
    {below : List Task} (ht : c.tasks = .block pass (i :: rest) :: below) (op : Opcode) :
    Moves c (c.execute pass i op rest below) := by
  rw [execute, run_tick]
  by_cases hb : c.machine.budget ≤ c.machine.now.count
  · rw [if_pos hb]
    exact .truncate ht
  rw [if_neg hb]
  simp only [Task.run_act]
  have hb' : c.machine.now.count < c.machine.budget := by omega
  cases hr : (Task.effect pass i rest op).run (c.machine.counted i.pointer op) with
  | ok tasks? m =>
    have ha := (Task.elementary_effect pass i rest op).sameAccount hr
    cases tasks? with
    | some tasks =>
      exact .count ht hb' ha.count ha.budget (.inr ⟨tasks, Task.replaces_effect hr, rfl⟩)
    | none => exact .count ht hb' ha.count ha.budget (.inl rfl)
  | error e m =>
    have ha := (Task.elementary_effect pass i rest op).sameAccount hr
    exact .count ht hb' ha.count ha.budget (.inl rfl)

theorem moves_advance (c : Course σ) : Moves c c.advance := by
  rw [advance]
  split
  · rename_i ht
    exact .ended ht
  · rename_i window below ht
    exact .leave ht rfl
  · rename_i window left below ht
    exact .enter ht
  · rename_i pass below ht
    exact .leave ht rfl
  · rename_i pass i rest below ht
    split
    · rename_i ho
      exact .skip ht ho
    · rename_i op ho
      exact moves_execute ht op

theorem iterate_ends {size budget : Nat} {c : Course σ} (h : Orderly size budget c) :
    ∃ n ≤ c.potential size, (advance^[n] c).tasks = [] ∧ Orderly size budget (advance^[n] c) ∧
      (advance^[n] c).outcome = c.outcome := by
  induction hp : c.potential size using Nat.strongRecOn generalizing c with
  | _ p ih =>
    by_cases ht : c.tasks = []
    · exact ⟨0, Nat.zero_le _, ht, h, rfl⟩
    have hlt := h.potential_lt ht (moves_advance c)
    obtain ⟨n, hn, he, ho, hc⟩ := ih _ (by omega) (h.moves (moves_advance c)) rfl
    refine ⟨n + 1, by omega, ?_⟩
    rw [Function.iterate_succ_apply]
    exact ⟨he, ho, hc.trans (outcome_advance c)⟩

theorem start_orderly {program : List Instruction} {size : Nat} (h : program.length ≤ size)
    (m : Machine σ) : Orderly size m.budget (start program m.prepare) where
  fits t ht := by
    obtain rfl := List.mem_singleton.mp ht
    exact h
  standing := .paid fun k h₀ hn => absurd hn (by simp [start]; omega)
  owners := rfl
  within := Nat.zero_le _
  budget := rfl

structure Settled (budget : Nat) (c : Course σ) : Prop where
  tasks : c.tasks = []
  /-- Every counted instruction has its pass. -/
  owners : c.owners.length = c.machine.now.count
  within : c.machine.now.count ≤ budget
  /-- Every pass has counted an instruction, or it is the last and the budget was used up. -/
  own : ∀ k, 0 < k → k ≤ c.entered → k ∈ c.owners ∨ k = c.entered ∧ c.machine.truncated = true
  entered : c.entered ≤ budget + 1

omit [Surface σ] in
theorem Orderly.settled {size budget : Nat} {c : Course σ} (h : Orderly size budget c)
    (ht : c.tasks = []) : Settled budget c := by
  have hw : c.owners.length ≤ budget := h.owners ▸ h.within
  cases h.standing with
  | paid hp =>
    have hl := hp.le_length
    exact ⟨ht, h.owners, h.within, fun k h₀ hn => .inl (hp k h₀ hn), by omega⟩
  | due ht' => simp [ht] at ht'
  | cut _ hc hp =>
    have hl := hp.le_length
    refine ⟨ht, h.owners, h.within, fun k h₀ hn => ?_, by omega⟩
    by_cases he : k = c.entered
    · exact .inr ⟨he, hc⟩
    · exact .inl (hp k h₀ (by omega))

end Course

/-- Every run is over after a number of small steps that depends on its budget and its length alone,
and not on the counts of its loops. All passes but the last have counted an instruction of their
own, and at most one pass more than the budget has been entered. -/
theorem run_settles [Surface σ] (tokens : List Token) (m : Machine σ) :
    ∃ n ≤ (m.budget + 2) * (tokens.length + 2), ∃ c : Course σ,
      Course.advance^[n] (.start (Program.entry (Program.assemble tokens)) m.prepare) = c ∧
      (c.machine, c.fault?) = run tokens m ∧ c.Settled m.budget := by
  have hl : (Program.entry (Program.assemble tokens)).length ≤ tokens.length :=
    Nat.le_trans (Program.length_entry_le _) (Program.length_assembleFrom_le 0 tokens)
  obtain ⟨n, hn, ht, ho, hc⟩ := Course.iterate_ends (Course.start_orderly hl m)
  refine ⟨n, Nat.le_trans hn ?_, _, rfl, ?_, ho.settled ht⟩
  · change (m.budget + 1) * (tokens.length + 2) + Task.workload [.block 0 _] ≤ _
    simp only [Task.workload, Nat.succ_mul]
    omega
  · rw [← Course.outcome_of_tasks_nil ht, hc, Course.outcome_start]

end Machine

end Triplet
