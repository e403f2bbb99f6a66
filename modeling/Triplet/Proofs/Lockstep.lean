import Triplet.Proofs.Locality

/-! # Computations in lockstep

Two computations are in lockstep if they lead related machines to the same value, or to a stop for
the same cause, and to related machines again. A relation that counting, elementary actions and
snapshots keep in lockstep is kept by whole blocks, with all the windows of their loops.
-/

namespace Triplet.Machine

variable {σ α β : Type} {excused : Machine σ → Prop} {P Q Q' Q'' : Machine σ → Machine σ → Prop}

/-- The ends of two computations: one value in machines that `Q` relates, or one cause to stop in
machines that `P` relates. A machine that has stopped with an excuse goes with any end. -/
inductive Follows (excused : Machine σ → Prop) (P Q : Machine σ → Machine σ → Prop) :
    EStateM.Result Stop (Machine σ) α → EStateM.Result Stop (Machine σ) α → Prop where
  | ok {x : α} {m m' : Machine σ} : Q m m' → Follows excused P Q (.ok x m) (.ok x m')
  | stop {e : Stop} {m m' : Machine σ} : P m m' → Follows excused P Q (.error e m) (.error e m')
  | left {e : Stop} {m : Machine σ} {r : EStateM.Result Stop (Machine σ) α} :
      excused m → Follows excused P Q (.error e m) r
  | right {e : Stop} {m : Machine σ} {r : EStateM.Result Stop (Machine σ) α} :
      excused m → Follows excused P Q r (.error e m)

theorem Follows.imp {P' Q' : Machine σ → Machine σ → Prop}
    {r r' : EStateM.Result Stop (Machine σ) α} (h : Follows excused P Q r r')
    (hp : P (lastState r) (lastState r') → P' (lastState r) (lastState r'))
    (hq : Q (lastState r) (lastState r') → Q' (lastState r) (lastState r')) :
    Follows excused P' Q' r r' := by
  cases h with
  | ok h => exact .ok (hq h)
  | stop h => exact .stop (hp h)
  | left h => exact .left h
  | right h => exact .right h

/-- Two computations that lead machines related by `Q` to machines related by `Q'`. -/
def Lockstep (excused : Machine σ → Prop) (P Q Q' : Machine σ → Machine σ → Prop)
    (a a' : Exec σ α) : Prop :=
  ∀ m m', Q m m' → Follows excused P Q' (a.run m) (a'.run m')

namespace Lockstep

theorem pure (x : α) : Lockstep excused P Q Q (pure x) (pure x) := fun _ _ h => .ok h

theorem throw (h : ∀ m m', Q m m' → P m m') (e : Stop) :
    Lockstep excused P Q Q' (throw e : Exec σ α) (throw e) := fun m m' hm => .stop (h m m' hm)

theorem bind {a a' : Exec σ α} {next next' : α → Exec σ β} (ha : Lockstep excused P Q Q' a a')
    (hn : ∀ x, Lockstep excused P Q' Q'' (next x) (next' x)) :
    Lockstep excused P Q Q'' (a >>= next) (a' >>= next') := by
  intro m m' hm
  have h := ha m m' hm
  rw [EStateM.run_bind, EStateM.run_bind]
  generalize a.run m = r at h
  generalize a'.run m' = r' at h
  cases h with
  | ok hq => exact hn _ _ _ hq
  | stop hp => exact .stop hp
  | left he => exact .left he
  | right he => exact .right he

theorem times {a a' : Exec σ Unit} (h : Lockstep excused P Q Q a a') (n : Nat) :
    Lockstep excused P Q Q (times a n) (times a' n) := by
  induction n with
  | zero => exact .pure ()
  | succ n ih => exact h.bind fun _ => ih

end Lockstep

variable [Surface σ]

/-- Relations between two machines that run a program and its image under a change of instructions:
`P` between the instructions and `Q` in the middle of one. -/
structure Coupling (excused : Machine σ → Prop) (P Q : Machine σ → Machine σ → Prop)
    (g : Instruction → Instruction) : Prop where
  opcode? : ∀ i, (g i).opcode? = i.opcode?
  operand : ∀ i, (g i).operand = i.operand
  tick : ∀ i op, Lockstep excused P P Q (tick i.pointer op) (tick (g i).pointer op)
  elementary : ∀ {α : Type} {a : Exec σ α}, Elementary a → Lockstep excused P Q Q a a
  record : Lockstep excused P Q P record record

theorem Coupling.exec {g : Instruction → Instruction} (h : Coupling excused P Q g)
    (block : List Instruction) : Lockstep excused P P P (exec block) (exec (block.map g)) := by
  induction hn : block.length using Nat.strongRecOn generalizing block with
  | _ n ih =>
    cases block with
    | nil =>
      rw [List.map_nil, exec_nil]
      exact .pure ()
    | cons i rest =>
      have ih' (block : List Instruction) (hb : block.length ≤ rest.length) :
          Lockstep excused P P P (Machine.exec block) (Machine.exec (block.map g)) :=
        ih block.length (by rw [← hn, List.length_cons]; omega) block rfl
      rw [List.map_cons]
      cases ho : i.opcode? with
      | none =>
        rw [exec_unknown ho, exec_unknown ((h.opcode? i).trans ho)]
        exact ih' rest (Nat.le_refl _)
      | some op =>
        have ho' := (h.opcode? i).trans ho
        by_cases hs : op = .stop
        · subst hs
          rw [exec_stop ho, exec_stop ho']
          exact (h.tick i .stop).bind fun _ => h.record.bind fun _ => .throw (fun _ _ hp => hp) _
        by_cases hl : op = .loop
        · subst hl
          rw [exec_loop ho, exec_loop ho', List.length_map]
          refine (h.tick i .loop).bind fun _ => (h.elementary (.loopSpan _)).bind fun span =>
            h.record.bind fun _ => ?_
          rw [← List.map_take, ← List.map_drop]
          have hw := ih' (rest.take span.2) (List.take_sublist ..).length_le
          exact (hw.times span.1).bind fun _ => ih' _ (List.drop_sublist ..).length_le
        · rw [exec_other ho hs hl, exec_other ho' hs hl, h.operand]
          exact (h.tick i op).bind fun _ => (h.elementary (.step _ _)).bind fun _ =>
            h.record.bind fun _ => ih' rest (Nat.le_refl _)

/-- Runs of programs that nothing excuses from lockstep end with the same fault, if any. -/
theorem run_of_follows {tokens tokens' : List Token} {m m' : Machine σ}
    (h : Follows (fun _ => False) P P
      ((exec (Program.entry (Program.assemble tokens))).run m.prepare)
      ((exec (Program.entry (Program.assemble tokens'))).run m'.prepare)) :
    (run tokens' m').2 = (run tokens m).2 ∧ P (run tokens m).1 (run tokens' m').1 := by
  simp only [run]
  change Follows _ _ _ (exec _ _) (exec _ _) at h
  generalize exec (Program.entry (Program.assemble tokens)) m.prepare = r at h
  generalize exec (Program.entry (Program.assemble tokens')) m'.prepare = r' at h
  cases h with
  | ok h => exact ⟨rfl, h⟩
  | @stop e _ _ h => cases e <;> exact ⟨rfl, h⟩
  | left h => exact h.elim
  | right h => exact h.elim

end Triplet.Machine
