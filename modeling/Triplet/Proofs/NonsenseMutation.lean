import Triplet.Proofs.CodonChange
import Triplet.Proofs.EarlyStop
import Triplet.Proofs.WholeNumbers

/-! # Nonsense mutations

A nonsense mutation writes a stop codon over an instruction codon. Where the codon was no `START`
and no `PUSH`, this changes one instruction alone, and the run is cut at the first time it is met.
-/

namespace Triplet

open Genome Triplet.Random

namespace Mutation

/-- A nonsense mutation over another opcode than `PUSH` gives its token the meaning of a stop codon
and keeps the others. -/
theorem map_bare_nonsense {genome codon : List Char} {place? : Option Int} {g : Generator}
    {n : Mutation} {op : Opcode} (hs : SingleCase genome) (hy : Yields (nonsense genome place?) g n)
    (hc : (split genome)[n.place]? = some codon) (ho : Codon.opcode? codon = some op)
    (hp : op ≠ .push) :
    ((tokens genome).map Token.bare)[n.place]? = some ⟨[], .instruction op, 0, 0⟩ ∧
      (tokens n.mutated).map Token.bare =
        ((tokens genome).map Token.bare).set n.place Program.stopToken := by
  obtain ⟨-, hn, hm⟩ := nonsense_spec hy
  obtain ⟨old, hr, rfl⟩ := Option.map_eq_some_iff.mp ho
  obtain rfl := eq_toText_of_read? (settled_split (List.mem_of_getElem? hc)) hr
  have hb {text : List Char} (h : SingleCase text) : (tokens text).map Token.bare =
      (readings false (split text)).map fun r => ⟨[], r.2, 0, 0⟩ := by
    rw [← tokens_readings h, List.map_map]
    rfl
  have hs' := singleCase_replaced genome n.place Codon.stop
  have hpush : Codon.stop.opcode = .push ↔ old.opcode = .push := iff_of_false (by decide) hp
  constructor
  · rw [hb hs, List.getElem?_map, split, getElem?_readings hc hn]
    rfl
  · rw [hm, hb hs', split_replaced, readings_set hc hn hpush, List.map_set, hb hs]
    rfl

/-- A nonsense mutation of another codon than `START` and `PUSH` cuts the run at the first time that
the codon is met, and changes no run that does not meet it. -/
theorem nonsense_cuts_run {genome codon : List Char} {place? : Option Int} {g : Generator}
    {n : Mutation} {op : Opcode} (hs : SingleCase genome) (hy : Yields (nonsense genome place?) g n)
    (hc : (split genome)[n.place]? = some codon) (ho : Codon.opcode? codon = some op)
    (hstart : op ≠ .start) (hpush : op ≠ .push) (m : Machine Recorder) :
    (m.run (tokens genome)).2 = none ∧ (m.run (tokens n.mutated)).2 = none ∧
      Machine.CutAt m.prepare.now n.place (m.run (tokens genome)).1
        (m.run (tokens n.mutated)).1 := by
  obtain ⟨ht, hm⟩ := map_bare_nonsense hs hy hc ho hpush
  have hf := Machine.run_tokens_fault_none genome m
  refine ⟨hf, ?_⟩
  rw [← Machine.run_bare (tokens genome)] at hf ⊢
  rw [← Machine.run_bare (tokens n.mutated), hm]
  exact Machine.run_set_stop ht rfl hstart hpush m hf

/-- A circle in a loop is replaced: the run is cut at the first pass. -/
theorem nonsense_cuts_run_loop :
    let genome := "ATG GAA AAG GAA AAT CAA GAA AAC GGA TAA".toList
    let n : Mutation :=
      ⟨"ATG GAA AAG GAA AAT CAA GAA AAC TAA TAA".toList, 8, .nonsense "GGA".toList⟩
    let m := Machine.initial Recorder.blank defaultBudget (.int 1)
    SingleCase genome ∧ Yields (nonsense genome (some 8)) (.ofSeed 1) n ∧
      Codon.opcode? "GGA".toList = some .circle ∧
      Machine.CutAt m.prepare.now n.place (m.run (tokens genome)).1
        (m.run (tokens n.mutated)).1 ∧
      (m.run (tokens n.mutated)).1.trace.size = 6 := by
  intro genome n m
  have hs : SingleCase genome := by decide +kernel
  have hy : Yields (nonsense genome (some 8)) (.ofSeed 1) n := by decide +kernel
  have hc : (split genome)[n.place]? = some "GGA".toList := by decide +kernel
  have ho : Codon.opcode? "GGA".toList = some .circle := by decide +kernel
  have hcut := (nonsense_cuts_run hs hy hc ho (by decide) (by decide) m).2.2
  exact ⟨hs, hy, ho, hcut, by decide +kernel⟩

end Mutation

end Triplet
