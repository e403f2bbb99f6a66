import Triplet.Drawing.Recorder
import Triplet.Proofs.Assembly
import Triplet.Proofs.Lockstep
import Triplet.Proofs.SmallStep

/-! # Code before the start

A run begins at the first start codon, and nothing before it plays a part: no operand is folded
across it, for it is no operand itself, and a loop sees only what follows it. So a program runs as
it does without the tokens before its start codon, but that its pointers are larger by their number.
-/

namespace Triplet

namespace Program

variable {before after rest : List Token} {start : Token}

/-- Programs are assembled piece by piece, if the second piece begins with no operand. -/
theorem assembleFrom_append (index : Nat) (before : List Token)
    (h : ∀ t ∈ after.head?, t.operand? = none) :
    assembleFrom index (before ++ after) =
      assembleFrom index before ++ assembleFrom (index + before.length) after := by
  fun_induction assembleFrom index before with
  | case1 => rfl
  | case2 index t =>
    rw [List.singleton_append, assembleFrom_cons fun _ => h]
    rfl
  | case3 index t next rest v hv ho ih =>
    have hl : index + (t :: next :: rest).length = index + 2 + rest.length := by
      simp only [List.length_cons]
      omega
    rw [List.cons_append, List.cons_append, assembleFrom_push ho hv, ih, List.cons_append, hl]
  | case4 index t next rest hn ih =>
    have hl : index + (t :: next :: rest).length = index + 1 + (next :: rest).length := by
      simp only [List.length_cons]
      omega
    rw [List.cons_append, List.cons_append, assembleFrom_next hn, ← List.cons_append, ih,
      List.cons_append, hl]

theorem assemble_start (hs : start.opcode? = some .start) (rest : List Token) :
    ∃ i block, i.opcode? = some .start ∧ assemble (start :: rest) = i :: block :=
  ⟨_, _, hs, assembleFrom_cons (by simp [hs])⟩

theorem entry_start (hs : start.opcode? = some .start) (rest : List Token) :
    entry (assemble (start :: rest)) = assemble (start :: rest) := by
  obtain ⟨i, block, hi, ha⟩ := assemble_start hs rest
  rw [ha]
  simp [entry, hi]

/-- The program from its first start codon on is that of the tokens from there on, with larger
pointers. -/
theorem entry_append_start (hb : ∀ t ∈ before, t.opcode? ≠ some .start)
    (hs : start.opcode? = some .start) :
    entry (assemble (before ++ start :: rest)) =
      (assemble (start :: rest)).map (Instruction.shift before.length) := by
  have hn : ∀ i ∈ assembleFrom 0 before, decide (i.opcode? ≠ some .start) = true := by
    intro i hi
    obtain ⟨k, t, -, ht, ho⟩ := exists_token_of_mem hi
    exact decide_eq_true (ho ▸ hb t (List.mem_of_getElem? ht))
  -- A `PUSH` right before the start codon finds no operand there.
  have hz : start.operand? = none :=
    Option.eq_none_iff_forall_ne_some.mpr fun v hv => opcode?_ne_of_operand? hv _ hs
  obtain ⟨i, block, hi, ha⟩ := assemble_start hs rest
  have ha' : assembleFrom (0 + before.length) (start :: rest) =
      i.shift before.length :: block.map (Instruction.shift before.length) := by
    rw [assembleFrom_add, ← assemble, ha, List.map_cons]
  have hi' : (i.shift before.length).opcode? = some .start := hi
  rw [assemble, assembleFrom_append 0 before (by simpa using hz), ha', entry,
    List.dropWhile_append_of_pos hn, ha, List.map_cons]
  simp [hi']

end Program

def Snapshot.shift (distance : Nat) (s : Snapshot) : Snapshot :=
  { s with pointer := s.pointer + distance }

namespace Machine

variable {σ : Type} {distance : Nat}

def pointing (pointer : Nat) (m : Machine σ) : Machine σ := { m with now := { m.now with pointer } }

def shift (distance : Nat) (m : Machine σ) : Machine σ :=
  { m with now := m.now.shift distance, trace := m.trace.map (Snapshot.shift distance) }

theorem shift_graft (o m : Machine σ) :
    (graft o m).shift distance = graft (o.shift distance) m := rfl

theorem shift_recorded (m : Machine σ) :
    m.recorded.shift distance = (m.shift distance).recorded := by
  simp only [shift, recorded, Array.map_push]

variable [Surface σ]

/-- A program and the same program some tokens further on go together. Between two instructions the
machines may point anywhere, since a run does not begin at the first token that it executes. -/
theorem coupling_shift :
    Coupling (fun _ : Machine σ => False)
      (fun m m' => ∃ pointer, m' = (m.shift distance).pointing pointer)
      (fun m m' => m' = m.shift distance) (Instruction.shift distance) where
  opcode? _ := rfl
  operand _ := rfl
  tick i op := by
    rintro m _ ⟨pointer, rfl⟩
    rw [run_tick, run_tick]
    have hc : ((m.shift distance).pointing pointer).budget ≤
        ((m.shift distance).pointing pointer).now.count ↔ m.budget ≤ m.now.count := Iff.rfl
    rw [if_congr hc rfl rfl]
    split
    · exact .stop ⟨pointer, rfl⟩
    · exact .ok rfl
  elementary {_ a} ha := by
    rintro m _ rfl
    rw [ha.run_account shift_graft]
    cases a.run m with
    | ok x m' => exact .ok rfl
    | error e m' => exact .stop ⟨_, rfl⟩
  record := by
    rintro m _ rfl
    exact .ok ⟨_, (shift_recorded m).symm⟩

/-- Nothing before the first start codon plays a part. With the tokens before it a program makes the
same calls and ends for the same cause as without them, and its trace is the same but for the
pointers, which are larger by the number of these tokens. -/
theorem run_append_start {before rest : List Token} {start : Token}
    (hb : ∀ t ∈ before, t.opcode? ≠ some .start) (hs : start.opcode? = some .start)
    (m : Machine σ) :
    let whole := run (before ++ start :: rest) m
    let live := run (start :: rest) m
    whole.2 = live.2 ∧ whole.1.surface = live.1.surface ∧ whole.1.truncated = live.1.truncated ∧
      whole.1.trace = live.1.trace.map (Snapshot.shift before.length) := by
  intro whole live
  -- Both runs begin with the same machine: it has no trace yet and points at the first token.
  have hp : m.prepare = (m.prepare.shift before.length).pointing 0 := by
    rw [pointing, shift, show m.prepare.trace = #[] from rfl, Array.map_empty]
    rfl
  have hf := coupling_shift.exec (Program.assemble (start :: rest)) m.prepare m.prepare ⟨0, hp⟩
  rw [← Program.entry_append_start hb hs, ← Program.entry_start hs rest] at hf
  obtain ⟨hfault, pointer, hm⟩ := run_of_follows hf
  have hm : whole.1 = (live.1.shift before.length).pointing pointer := hm
  rw [hm]
  exact ⟨hfault, rfl, rfl, rfl⟩

/-- A stray operand, a loop, a stop codon, an unknown codon and a `PUSH` stand before a program with
a loop in a loop, which uses up its budget. -/
theorem run_append_start_loop :
    let known (op : Opcode) : Token := ⟨[], .instruction op, 0, 0⟩
    let value (v : Value) : Token := ⟨[], .operand v, 0, 0⟩
    let before := [value (.int 7), known .push, value (.int 9), known .loop, known .stop,
      ⟨[], .unknown, 0, 0⟩, known .push]
    let rest := [known .push, value (.int 4), known .push, value (.int 2), known .loop,
      known .push, value (.int 1), known .push, value (.real 3.5), known .loop, known .circle,
      known .rotate, known .stop]
    let m := initial Recorder.blank 17 (.int 1)
    let whole := run (before ++ known .start :: rest) m
    let live := run (known .start :: rest) m
    (whole.2 = live.2 ∧ whole.1.surface = live.1.surface ∧
      whole.1.truncated = live.1.truncated ∧
      whole.1.trace = live.1.trace.map (Snapshot.shift 7)) ∧
      live.1.truncated = true ∧ live.1.surface.calls.size = 7 ∧
      (whole.1.trace.toList.take 6).map (·.pointer) = [7, 8, 10, 12, 13, 15] := by
  intro known value before rest m whole live
  have hb : ∀ t ∈ before, t.opcode? ≠ some .start := by
    simp [before, known, value, Token.opcode?]
  exact ⟨run_append_start hb rfl m, by decide +kernel, by decide +kernel, by decide +kernel⟩

end Machine

end Triplet
