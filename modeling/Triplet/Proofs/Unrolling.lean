import Triplet.Proofs.Budget
import Triplet.Proofs.Doubles
import Triplet.Proofs.Effects
import Triplet.Proofs.Lockstep

/-! # Loops written out

A loop over a window without loops draws what the window draws when it is written out as often as
the loop repeats it. The two executions count their instructions differently, so that they are
compared where neither runs out of its budget.
-/

namespace Triplet

namespace Program

/-- Some instructions made into the head of a loop: push the length of the window, push the number
of its passes, and loop. -/
def loopOpening (i j l : Instruction) (window : List Instruction) (count : Nat) :
    List Instruction :=
  [{ i with opcode? := some .push, operand := .int window.length },
    { j with opcode? := some .push, operand := .int count }, { l with opcode? := some .loop }]

def writtenOut (window : List Instruction) (count : Nat) : List Instruction :=
  (List.replicate count window).flatten

theorem writtenOut_succ (window : List Instruction) (count : Nat) :
    writtenOut window (count + 1) = window ++ writtenOut window count := by
  rw [writtenOut, List.replicate_succ, List.flatten_cons, writtenOut]

end Program

namespace Machine

open Program (loopOpening writtenOut writtenOut_succ)

variable {σ α : Type}

structure SameDrawing (m m' : Machine σ) : Prop where
  surface : m'.surface = m.surface
  stack : m'.now.stack = m.now.stack
  pen : m'.now.pen = m.now.pen
  saved : m'.now.saved = m.now.saved

namespace SameDrawing

variable {m m' m'' : Machine σ}

theorem refl (m : Machine σ) : SameDrawing m m := ⟨rfl, rfl, rfl, rfl⟩

theorem symm (h : SameDrawing m m') : SameDrawing m' m :=
  ⟨h.surface.symm, h.stack.symm, h.pen.symm, h.saved.symm⟩

theorem trans (h : SameDrawing m m') (h' : SameDrawing m' m'') : SameDrawing m m'' :=
  ⟨h'.surface.trans h.surface, h'.stack.trans h.stack, h'.pen.trans h.pen, h'.saved.trans h.saved⟩

theorem graft_eq (h : SameDrawing m m') : graft m' m = m' := by
  simp only [graft, ← h.surface, ← h.stack, ← h.pen, ← h.saved]

end SameDrawing

/-- The ends of two executions that both reach the end of their blocks, both halt, or both fail for
the same cause, with the same stack, pens and surface. -/
inductive SameEnd :
    EStateM.Result Stop (Machine σ) α → EStateM.Result Stop (Machine σ) α → Prop where
  | ok {x x' : α} {m m' : Machine σ} : SameDrawing m m' → SameEnd (.ok x m) (.ok x' m')
  | stop {e : Stop} {m m' : Machine σ} : SameDrawing m m' → SameEnd (.error e m) (.error e m')

namespace SameEnd

variable {r r' r'' : EStateM.Result Stop (Machine σ) α}

theorem refl (r : EStateM.Result Stop (Machine σ) α) : SameEnd r r := by
  cases r with
  | ok x m => exact .ok (.refl m)
  | error e m => exact .stop (.refl m)

theorem symm (h : SameEnd r r') : SameEnd r' r := by
  cases h with
  | ok h => exact .ok h.symm
  | stop h => exact .stop h.symm

theorem trans (h : SameEnd r r') (h' : SameEnd r' r'') : SameEnd r r'' := by
  cases h with
  | ok h =>
    cases h' with
    | ok h' => exact .ok (h.trans h')
  | stop h =>
    cases h' with
    | stop h' => exact .stop (h.trans h')

end SameEnd

def lowered (m : Machine σ) : Machine σ := { m with truncated := false }

def raised (m : Machine σ) : Machine σ := { m with truncated := true }

def RunsOut (a : Exec σ α) (m : Machine σ) : Prop := (lastState (a.run m.lowered)).truncated = true

instance (a : Exec σ α) (m : Machine σ) : Decidable (RunsOut a m) :=
  inferInstanceAs (Decidable (_ = true))

theorem Follows.sameEnd {excused : Machine σ → Prop} {P Q : Machine σ → Machine σ → Prop}
    {r r' : EStateM.Result Stop (Machine σ) α} (h : Follows excused P Q r r')
    (hp : ∀ m m', P m m' → SameDrawing m m') (hq : ∀ m m', Q m m' → SameDrawing m m')
    (hr : ¬ excused (lastState r)) (hr' : ¬ excused (lastState r')) : SameEnd r r' := by
  cases h with
  | ok h => exact .ok (hq _ _ h)
  | stop h => exact .stop (hp _ _ h)
  | left h => exact (hr h).elim
  | right h => exact (hr' h).elim

theorem run_loopSpan {m : Machine σ} {count length : Int} {stack : List Value}
    (hc : (Value.int count).sanitize = .int count) (hl : (Value.int length).sanitize = .int length)
    (h : m.now.stack = .int count :: .int length :: stack) (left : Nat) :
    (loopSpan left).run m =
      .ok ((max 0 count).toNat, (max 0 (min length left)).toNat) m.popped.popped := by
  have h₀ : m.now.operand 0 = .int count := by simp [Snapshot.operand, h, hc]
  have h₁ : m.popped.now.operand 0 = .int length := by
    rw [operand_popped]
    simp [Snapshot.operand, h, hl]
  rw [loopSpan, run_pop_bind, h₀]
  change (pop >>= _).run m.popped = _
  rw [run_pop_bind, h₁]
  rfl

theorem follows_tick {m : Machine σ} {P Q : Machine σ → Machine σ → Prop} {pointer : Nat}
    {op : Opcode} {next : Unit → Exec σ α} {r : EStateM.Result Stop (Machine σ) α}
    (h : Follows (fun m => m.truncated = true) P Q ((next ()).run (m.counted pointer op)) r) :
    Follows (fun m => m.truncated = true) P Q ((tick pointer op >>= next).run m) r := by
  rw [EStateM.run_bind, run_tick]
  by_cases hb : m.budget ≤ m.now.count
  · rw [if_pos hb]
    exact .left rfl
  · rw [if_neg hb]
    exact h

variable [Surface σ] {m m' : Machine σ}

theorem Elementary.follows {excused : Machine σ → Prop} {P : Machine σ → Machine σ → Prop}
    {a : Exec σ α} (ha : Elementary a) (hm : SameDrawing m m')
    (hP : ∀ m₁, SameAccount m m₁ → P m₁ (graft m' m₁)) :
    Follows excused P P (a.run m) (a.run m') := by
  have hg := ha.run_graft m' m
  rw [hm.graft_eq] at hg
  rw [hg]
  cases hr : a.run m with
  | ok x m₁ => exact .ok (hP m₁ (ha.sameAccount hr))
  | error e m₁ => exact .stop (hP m₁ (ha.sameAccount hr))

structure Unhindered (m m' : Machine σ) : Prop where
  drawing : SameDrawing m m'
  left : m.truncated = false
  right : m'.truncated = false

/-- Whatever was counted before, a block does the same, unless one of the budgets runs out. -/
theorem coupling_unhindered :
    Coupling (fun m : Machine σ => m.truncated = true) Unhindered Unhindered id where
  opcode? _ := rfl
  operand _ := rfl
  tick i op m m' h := by
    rw [run_tick, run_tick]
    split
    · exact .left rfl
    · split
      · exact .right rfl
      · exact .ok ⟨{ h.drawing with }, h.left, h.right⟩
  elementary ha m m' h := ha.follows h.drawing fun m₁ hm₁ =>
    ⟨⟨rfl, rfl, rfl, rfl⟩, hm₁.truncated.trans h.left, h.right⟩
  record m m' h := .ok ⟨{ h.drawing with }, h.left, h.right⟩

theorem coupling_raised :
    Coupling (fun _ : Machine σ => False) (fun m m' => m' = m.raised) (fun m m' => m' = m.raised)
      id where
  opcode? _ := rfl
  operand _ := rfl
  tick i op m m' h := by
    subst h
    rw [run_tick, run_tick]
    split
    · rw [if_pos ‹_›]
      exact .stop rfl
    · rw [if_neg ‹_›]
      exact .ok rfl
  elementary {_ a} ha m m' h := by
    subst h
    rw [ha.run_account (h := raised) (fun _ _ => rfl)]
    cases a.run m with
    | ok x m₁ => exact .ok rfl
    | error e m₁ => exact .stop rfl
  record m m' h := by
    subst h
    exact .ok rfl

theorem sameEnd_lowered (block : List Instruction) (m : Machine σ) :
    SameEnd ((exec block).run m) ((exec block).run m.lowered) := by
  cases ht : m.truncated with
  | false =>
    rw [show m.lowered = m by rw [lowered, ← ht]]
    exact .refl _
  | true =>
    have hm : m = m.lowered.raised := by rw [raised, ← ht, lowered]
    have h := coupling_raised.exec block m.lowered m hm
    rw [List.map_id] at h
    have hd (m m' : Machine σ) (h : m' = m.raised) : SameDrawing m m' := by
      subst h
      exact ⟨rfl, rfl, rfl, rfl⟩
    exact (h.sameEnd hd hd id id).symm

theorem exec_append {block rest : List Instruction} (h : ∀ i ∈ block, i.opcode? ≠ some .loop) :
    (exec (block ++ rest) : Exec σ Unit) = (do exec block; exec rest) := by
  induction block with
  | nil => rw [List.nil_append, exec_nil, pure_bind]
  | cons i block ih =>
    specialize ih fun j hj => h j (List.mem_cons_of_mem i hj)
    rw [List.cons_append]
    cases ho : i.opcode? with
    | none => rw [exec_unknown ho, exec_unknown ho, ih]
    | some op =>
      have hl : op ≠ .loop := fun hl => h i (by simp) (hl ▸ ho)
      by_cases hs : op = .stop
      · subst hs
        rw [exec_stop ho, exec_stop ho]
        simp only [bind_assoc]
        rfl
      · rw [exec_other ho hs hl, exec_other ho hs hl, ih]
        simp only [bind_assoc]

theorem exec_writtenOut {window rest : List Instruction}
    (h : ∀ i ∈ window, i.opcode? ≠ some .loop) (count : Nat) :
    (exec (writtenOut window count ++ rest) : Exec σ Unit) =
      (do times (exec window) count; exec rest) := by
  induction count with
  | zero =>
    rw [times, pure_bind, writtenOut, List.replicate_zero, List.flatten_nil, List.nil_append]
  | succ count ih => rw [writtenOut_succ, List.append_assoc, exec_append h, ih, times, bind_assoc]

theorem follows_loopOpening {window rest : List Instruction} {count : Nat}
    (hl : window.length < 2 ^ 1023) (hc : count < 2 ^ 1023) (i j l : Instruction)
    {P Q : Machine σ → Machine σ → Prop} {r : EStateM.Result Stop (Machine σ) Unit}
    (h : ∀ m', SameDrawing m m' → m'.truncated = m.truncated →
      Follows (fun m => m.truncated = true) P Q
        ((do times (exec window) count; exec rest : Exec σ Unit).run m') r) :
    Follows (fun m => m.truncated = true) P Q
      ((exec (loopOpening i j l window count ++ (window ++ rest))).run m) r := by
  have hl' := Value.sanitize_int_of_lt hl
  have hc' := Value.sanitize_int_of_lt hc
  rw [loopOpening, List.cons_append, List.cons_append, List.cons_append, List.nil_append,
    exec_other rfl (by decide) (by decide), exec_other rfl (by decide) (by decide), exec_loop rfl]
  refine follows_tick ?_
  rw [run_push_bind hl']
  refine follows_tick ?_
  rw [run_push_bind hc']
  refine follows_tick ?_
  rw [EStateM.run_bind, run_loopSpan hc' hl' rfl]
  have hcount : (max 0 (count : Int)).toNat = count := by omega
  have hlength : (max 0 (min (window.length : Int) (window ++ rest).length)).toNat =
      window.length := by
    rw [List.length_append]
    omega
  simp only [hcount, hlength, List.take_left, List.drop_left]
  refine h _ ⟨?_, ?_, ?_, ?_⟩ ?_ <;>
    simp only [counted, pushed, recorded, popped, List.tail_cons]

/-- Where neither execution runs out of its budget, a loop over a window without loops ends like the
window written out as often as the loop repeats it: with the same stack, pens and surface, and both
halt or both go on to the end. The length and the number of passes are pushed as they are, since
both have a double near them; no list in any memory is longer. -/
theorem exec_loop_sameEnd {window rest : List Instruction} {count : Nat}
    (hw : ∀ i ∈ window, i.opcode? ≠ some .loop)
    (hl : window.length < 2 ^ 1023) (hc : count < 2 ^ 1023) (i j l : Instruction)
    (m : Machine σ) {budget budget' : Nat}
    (h : ¬ RunsOut (exec (loopOpening i j l window count ++ (window ++ rest)))
      (m.withBudget budget))
    (h' : ¬ RunsOut (exec (writtenOut window count ++ rest)) (m.withBudget budget')) :
    SameEnd ((exec (loopOpening i j l window count ++ (window ++ rest))).run
        (m.withBudget budget))
      ((exec (writtenOut window count ++ rest)).run (m.withBudget budget')) := by
  refine (sameEnd_lowered _ _).trans (SameEnd.trans ?_ (sameEnd_lowered _ _).symm)
  have hd (m m' : Machine σ) (h : Unhindered m m') : SameDrawing m m' := h.drawing
  refine Follows.sameEnd (follows_loopOpening hl hc i j l fun m' hm ht => ?_) hd hd h h'
  have hb := coupling_unhindered (σ := σ)
  have he := ((hb.exec window).times count).bind fun _ => hb.exec rest
  rw [List.map_id, List.map_id] at he
  rw [exec_writtenOut hw]
  exact he m' _ ⟨⟨hm.surface.symm, hm.stack.symm, hm.pen.symm, hm.saved.symm⟩, ht, rfl⟩

/-- A window that saves and brings back a pen in each pass, before a loop that halts. -/
theorem exec_loop_sameEnd_halt :
    let known (op : Opcode) (v : Value) : Instruction := ⟨0, some op, [], v⟩
    let unknown : Instruction := ⟨0, none, [], .int 0⟩
    let window := [known .save (.int 0), known .push (.int 7), unknown, known .rotate (.int 0),
      known .circle (.int 0), known .restore (.int 0), known .dup (.int 0)]
    let rest := [known .push (.int 2), known .push (.int 1), known .loop (.int 0),
      known .line (.int 0), known .stop (.int 0), known .circle (.int 0)]
    let m := initial Recorder.blank defaultBudget (.int 1)
    let looped := (exec (loopOpening unknown unknown unknown window 3 ++ (window ++ rest))).run
      (m.withBudget 26)
    let written := (exec (writtenOut window 3 ++ rest)).run (m.withBudget 23)
    SameEnd looped written ∧ (lastState looped).surface.calls.size = 19 ∧
      (lastState looped).now.last? = some .stop := by
  intro known unknown window rest m looped written
  have h : ¬ RunsOut (exec (loopOpening unknown unknown unknown window 3 ++ (window ++ rest)))
      (m.withBudget 26) := by decide +kernel
  have h' : ¬ RunsOut (exec (writtenOut window 3 ++ rest)) (m.withBudget 23) := by decide +kernel
  refine ⟨?_, by decide +kernel, by decide +kernel⟩
  exact exec_loop_sameEnd (by decide) (by decide +kernel) (by decide +kernel) _ _ _ m h h'

end Machine

end Triplet
