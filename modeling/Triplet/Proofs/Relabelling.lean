import Triplet.Proofs.Assembly
import Triplet.Proofs.SmallStep

/-! # Relabelled instructions

A machine executes an instruction by its pointer, its opcode and its operand. A change of the
program that keeps these for the instruction that comes next commutes with the next small step. So
the letters of the codons play no part in a run.
-/

namespace Triplet

structure Instruction.SameEffect (i j : Instruction) : Prop where
  pointer : j.pointer = i.pointer
  opcode? : j.opcode? = i.opcode?
  operand : j.operand = i.operand

namespace Machine

variable {σ : Type} {g : Instruction → Instruction}

def Frame.map (g : Instruction → Instruction) (f : Frame) : Frame :=
  { f with window := f.window.map g }

def Flat.map (g : Instruction → Instruction) (c : Flat σ) : Flat σ :=
  { c with frames := c.frames.map (Frame.map g) }

theorem Frame.rest_map (f : Frame) : (f.map g).rest = f.rest.map g := by
  simp [rest, map]

theorem upcoming_map (frames : List Frame) :
    upcoming (frames.map (Frame.map g)) = (upcoming frames).map g := by
  cases frames with
  | nil => rfl
  | cons f below =>
    by_cases h : f.passes = 0 <;> simp [upcoming, Frame.map, h]

namespace Flat

theorem resume_map {α : Type} (h : α → List Frame) (r : EStateM.Result Stop (Machine σ) α) :
    resume (fun a => (h a).map (Frame.map g)) r = (resume h r).map g := by
  cases r <;> rfl

end Flat

variable [Surface σ]

theorem Frame.effect_map (f : Frame) {i j : Instruction} (h : i.SameEffect j) (op : Opcode) :
    ((f.map g).effect j op : Exec σ _) =
      (Option.map (List.map (Frame.map g)) <$> f.effect i op) := by
  by_cases hs : op = .stop
  · subst hs
    simp [effect]
  by_cases hl : op = .loop
  · subst hl
    simp only [effect, map_bind, map_pure, rest_map, List.length_map]
    simp [map, moveOn]
  · rw [effect_other _ _ hs hl, effect_other _ _ hs hl, h.operand]
    simp only [map_bind, map_pure]
    rfl

theorem Frame.execute_map (f : Frame) {i j : Instruction} (h : i.SameEffect j) (op : Opcode) :
    ((f.map g).execute j op : Exec σ _) = (List.map (Frame.map g) <$> f.execute i op) := by
  rw [execute, execute, act, act, f.effect_map h, h.pointer]
  simp only [map_bind, bind_map_left]
  congr 1
  funext _
  congr 1
  funext frames?
  cases frames? with
  | none => rfl
  | some frames => simp

namespace Flat

/-- A change that keeps the effect of the upcoming instruction commutes with a small step. -/
theorem advance_map {c : Flat σ} (h : ∀ i, upcoming c.frames = some i → i.SameEffect (g i)) :
    (c.map g).advance = c.advance.map g := by
  obtain ⟨frames, m, e⟩ := c
  cases frames with
  | nil => rfl
  | cons f below =>
    by_cases hp : f.passes = 0
    · rw [advance_left hp]
      exact advance_left hp
    have hp' : 0 < f.passes := by omega
    simp only [upcoming, if_neg hp] at h
    have hw : (f.map g).window[(f.map g).next]? = (f.window[f.next]?).map g := by simp [Frame.map]
    cases hi : f.window[f.next]? with
    | none =>
      have hl : f.window.length ≤ f.next := by simpa using hi
      rw [advance_rewind hp' hl]
      exact advance_rewind hp' (by simpa [Frame.map] using hl)
    | some i =>
      have hs := h i hi
      rw [hi, Option.map_some] at hw
      cases ho : i.opcode? with
      | none =>
        rw [advance_unknown hp' hi ho]
        exact advance_unknown hp' hw (hs.opcode?.trans ho)
      | some op =>
        rw [advance_known hp' hi ho, ← resume_map]
        refine (advance_known (f := f.map g) hp' hw (hs.opcode?.trans ho)).trans ?_
        rw [f.execute_map hs, ← bind_pure_comp, EStateM.run_bind]
        cases (f.execute i op).run m <;> simp [resume]

end Flat

/-- The letters of the codons play no part in a run. -/
theorem run_bare (tokens : List Token) (m : Machine σ) :
    run (tokens.map Token.bare) m = run tokens m := by
  have hs (i : Instruction) : i.SameEffect i.bare := ⟨rfl, rfl, rfl⟩
  have he : Program.entry (Program.assemble (tokens.map Token.bare)) =
      (Program.entry (Program.assemble tokens)).map Instruction.bare := by
    rw [Program.assemble, Program.assembleFrom_bare]
    exact Program.entry_map fun _ _ => Iff.rfl
  have h := Flat.run_simulation (R := fun c d => d = c.map Instruction.bare) tokens
    (tokens.map Token.bare) m m (by rw [he]; rfl) fun c d hd => by
      rw [hd, Flat.advance_map fun i _ => hs i]
  rw [Flat.mk.injEq] at h
  exact Prod.ext h.2.1 h.2.2

theorem run_eq_of_meaning {ts ts' : List Token}
    (h : ts'.map (·.meaning) = ts.map (·.meaning)) (m : Machine σ) : run ts' m = run ts m := by
  have hb (ts : List Token) :
      ts.map Token.bare = (ts.map (·.meaning)).map fun d => ⟨[], d, 0, 0⟩ := by
    rw [List.map_map]
    rfl
  rw [← run_bare ts', hb, h, ← hb, run_bare]

end Machine

end Triplet
