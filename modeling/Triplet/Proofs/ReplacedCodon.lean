import Triplet.Genome.Comparison
import Triplet.Proofs.CodonChange

/-! # One codon replaced

Laid beside the text that a mutation of a codon makes, a genome differs from it in one codon: the
one at the place of the mutation, which is no operand. A silent mutation keeps the opcode there, a
missense mutation brings another that is no stop, and a nonsense mutation brings a stop codon. Each
is refused exactly if there is no such codon to change.
-/

namespace Triplet

open Genome Triplet.Random

namespace Genome

theorem differencesFrom_self (place : Nat) (codons : List (List Char)) :
    differencesFrom place codons codons = [] := by
  induction codons generalizing place with
  | nil => rw [differencesFrom]
  | cons codon rest ih => rw [differencesFrom, ih, differencesFrom.at?, if_pos rfl, List.nil_append]

theorem differencesFrom_set (place : Nat) {codons : List (List Char)} {i : Nat} {old : List Char}
    (h : codons[i]? = some old) (new : List Char) :
    differencesFrom place codons (codons.set i new) =
      if old = new then [] else [⟨place + i, old, new⟩] := by
  induction codons generalizing place i with
  | nil => simp at h
  | cons codon rest ih =>
    cases i with
    | zero =>
      obtain rfl : codon = old := by simpa using h
      rw [List.set_cons_zero, differencesFrom, differencesFrom_self, List.append_nil]
      rfl
    | succ i =>
      rw [List.set_cons_succ, differencesFrom, differencesFrom.at?, if_pos rfl, List.nil_append,
        ih (place + 1) (by simpa using h), Nat.add_assoc, Nat.add_comm 1]

end Genome

def IsCodon (codon : List Char) : Prop := ∃ c : Codon, codon = c.toText

def HasSynonym (codon : List Char) : Prop :=
  ∃ c d : Codon, codon = c.toText ∧ d ≠ c ∧ d.opcode = c.opcode

/-- A whole codon after the first that neither starts nor stops a program. -/
def Stoppable (place : Nat) (codon : List Char) : Prop :=
  0 < place ∧ codon.length = 3 ∧ codon ≠ Codon.start.toText ∧
    ∀ c : Codon, c.opcode = .stop → codon ≠ c.toText

namespace Mutation

section Conditions

variable {codon : List Char}

theorem options_ne_nil_iff (f : Codon → List Codon) (hs : ∀ c ∈ codon, Settled c) :
    options f codon ≠ [] ↔ ∃ c : Codon, codon = c.toText ∧ f c ≠ [] := by
  rw [options]
  cases hr : Codon.read? codon with
  | none =>
    have hno := (read?_eq_none_iff hs).mp hr
    simp [hno]
  | some c =>
    obtain rfl := eq_toText_of_read? hs hr
    constructor
    · exact fun h => ⟨c, rfl, h⟩
    · rintro ⟨d, hd, h⟩
      exact toText_inj.mp hd ▸ h

theorem hasSynonym_iff (hs : ∀ c ∈ codon, Settled c) :
    options Codon.synonyms codon ≠ [] ↔ HasSynonym codon := by
  rw [options_ne_nil_iff _ hs]
  refine exists_congr fun c => ?_
  simp only [Codon.synonyms, ne_eq, List.filter_eq_nil_iff, decide_eq_true_eq]
  grind [Codon.mem_all]

theorem missense_ne_nil (c : Codon) : c.missense ≠ [] := by
  rcases c with ⟨x, y, z⟩
  cases x <;> cases y <;> cases z <;> decide

theorem isCodon_iff (hs : ∀ c ∈ codon, Settled c) :
    options Codon.missense codon ≠ [] ↔ IsCodon codon := by
  rw [options_ne_nil_iff _ hs, IsCodon]
  exact exists_congr fun c => and_iff_left (missense_ne_nil c)

theorem stoppable_iff (place : Nat) (codon : List Char) :
    admitsNonsense place codon = true ↔ Stoppable place codon := by
  have hstop : (Codon.ofText? codon).map Codon.opcode ≠ some .stop ↔
      ∀ c : Codon, c.opcode = .stop → codon ≠ c.toText := by
    rw [ne_eq, Option.map_eq_some_iff]
    constructor
    · rintro h c hc rfl
      exact h ⟨c, Codon.ofText?_toText c, hc⟩
    · rintro h ⟨c, hc, ho⟩
      exact h c ho (toText_of_ofText? hc)
  simp only [admitsNonsense, Stoppable, Bool.and_eq_true, decide_eq_true_eq, bne_iff_ne, hstop,
    and_assoc]

end Conditions

theorem unsuited_congr {codons : List (List Char)} {place? : Option Int}
    {drawn drawn' : Nat → List Char → Prop} {given given' : List Char → Prop}
    (hd : ∀ i, ∀ codon ∈ codons, drawn i codon ↔ drawn' i codon)
    (hg : ∀ codon ∈ codons, given codon ↔ given' codon) :
    Unsuited codons place? drawn given ↔ Unsuited codons place? drawn' given' := by
  cases place? with
  | none =>
    simp only [Unsuited]
    refine forall_congr' fun i => forall_congr' fun codon => forall_congr' fun hc => ?_
    rw [hd i codon (List.mem_of_getElem? hc)]
  | some p =>
    simp only [Unsuited]
    by_cases hr : p < 0 ∨ codons.length ≤ p
    · constructor <;> intro <;> omega
    · have hlt : p.toNat < codons.length := by omega
      rw [hg (codons.getD p.toNat []) (by simp [hlt])]

/-- Laid beside its genome, the text of a mutation has the differences given; its place is that of
an instruction codon, and the one that was asked for, if any. -/
structure Differs (genome : List Char) (place? : Option Int) (m : Mutation)
    (differences : List Difference) : Prop where
  asAsked : AsAsked place? m.place
  instruction : m.place ∉ operandPlaces (split genome)
  eq : (Comparison.ofTexts genome m.mutated).differences = differences

section Differs

variable {genome : List Char} {place? : Option Int} {drawn : Nat → List Char → Prop}
  {m : Mutation} {old : List Char} {new : Codon}

theorem differs_replaced (h : Suited (split genome) place? drawn m.place)
    (hold : (split genome)[m.place]? = some old)
    (hm : m.mutated = joinCodons ((split genome).set m.place new.toText)) :
    Differs genome place? m (if old = new.toText then [] else [⟨m.place, old, new.toText⟩]) where
  asAsked := h.asAsked
  instruction := h.instruction
  eq := by
    have hd := differencesFrom_set 0 hold new.toText
    rw [Nat.zero_add] at hd
    rw [Comparison.ofTexts, hm, split_replaced, hd]

end Differs

theorem meets_drawn_differs {f : Codon → List Codon} {admits : List Char → Prop}
    (hf : ∀ old, ∀ new ∈ f old, new ≠ old)
    (hadmits : ∀ codon, (∀ c ∈ codon, Settled c) → (options f codon ≠ [] ↔ admits codon))
    (genome : List Char) (place? : Option Int) (none? : Refusal) (refusal : Nat → Refusal)
    (change : Nat → Codon → Change) (g : Generator) :
    Meets (do
      let place ← codonPlace (split genome) place? (fun _ codon => !(options f codon).isEmpty) none?
      let new ← choose (refusal place) (options f ((split genome).getD place []))
      return replaceCodon (split genome) place new (change place new)) g
      (Unsuited (split genome) place? (fun _ => admits) admits)
      fun m => ∃ old new : Codon, new ∈ f old ∧
        Differs genome place? m [⟨m.place, old.toText, new.toText⟩] := by
  have hiff (codon : List Char) (hc : codon ∈ split genome) := hadmits codon (settled_split hc)
  refine (meets_drawn f genome place? none? refusal change g).imp
    (unsuited_congr (fun _ => hiff) hiff) ?_
  rintro m ⟨hs, old, new, hold, hnew, hm⟩
  have hd := differs_replaced hs hold hm
  rw [if_neg fun h => hf old new hnew (toText_inj.mp h).symm] at hd
  exact ⟨old, new, hnew, hd⟩

/-- A mutation of a codon is refused exactly if no codon can be changed that way, whatever is drawn.
Otherwise its text differs from the genome in one codon, which is no operand. Only a nonsense
mutation that is asked for where the stop codon stands already makes no difference. -/
theorem codon_mutations_exact (genome : List Char) (place? : Option Int) (g : Generator) :
    Meets (silent genome place?) g
        (Unsuited (split genome) place? (fun _ => HasSynonym) HasSynonym)
        (fun m => ∃ old new : Codon, new.opcode = old.opcode ∧
          Differs genome place? m [⟨m.place, old.toText, new.toText⟩]) ∧
      Meets (missense genome place?) g
        (Unsuited (split genome) place? (fun _ => IsCodon) IsCodon)
        (fun m => ∃ old new : Codon, new.opcode ≠ old.opcode ∧ new.opcode ≠ .stop ∧
          Differs genome place? m [⟨m.place, old.toText, new.toText⟩]) ∧
      Meets (nonsense genome place?) g
        (Unsuited (split genome) place? Stoppable fun _ => True)
        (fun m => ∃ old, (split genome)[m.place]? = some old ∧
          (old ≠ Codon.stop.toText ∧
              Differs genome place? m [⟨m.place, old, Codon.stop.toText⟩] ∨
            old = Codon.stop.toText ∧ place?.isSome ∧ Differs genome place? m [])) := by
  refine ⟨?_, ?_, ?_⟩
  · refine (meets_drawn_differs ne_of_mem_synonyms (fun _ => hasSynonym_iff) genome place?
      .noSynonyms _ _ g).imp .rfl ?_
    rintro m ⟨old, new, hn, hd⟩
    exact ⟨old, new, (of_decide_eq_true (List.mem_filter.mp hn).2).1, hd⟩
  · refine (meets_drawn_differs ne_of_mem_missense (fun _ => isCodon_iff) genome place?
      .noMissense _ _ g).imp .rfl ?_
    rintro m ⟨old, new, hn, hd⟩
    obtain ⟨ho, hstop⟩ := of_decide_eq_true (List.mem_filter.mp hn).2
    exact ⟨old, new, ho, hstop, hd⟩
  · refine (meets_nonsense genome place? g).imp
      (unsuited_congr (fun i codon _ => stoppable_iff i codon) fun _ _ => .rfl) ?_
    rintro m ⟨hs, hm⟩
    have hd := differs_replaced hs hs.getElem? hm
    refine ⟨_, hs.getElem?, ?_⟩
    by_cases h : (split genome).getD m.place [] = Codon.stop.toText
    · rw [if_pos h] at hd
      refine .inr ⟨h, ?_, hd⟩
      -- A place that is drawn never holds a stop codon.
      rw [Option.isSome_iff_ne_none]
      intro hnone
      obtain ⟨-, -, -, hstop⟩ := (stoppable_iff _ _).mp (hs.drawn hnone)
      exact hstop Codon.stop rfl h
    · rw [if_neg h] at hd
      exact .inl ⟨h, hd⟩

/-- A stop codon written over itself makes no difference. -/
theorem nonsense_stop_unchanged :
    let genome := "ATG TAA".toList
    let m : Mutation := ⟨"ATG TAA".toList, 1, .nonsense "TAA".toList⟩
    Yields (nonsense genome (some 1)) (.ofSeed 0) m ∧
      (Comparison.ofTexts genome m.mutated).differences = [] := by
  intro genome m
  exact ⟨by decide +kernel, differencesFrom_self 0 (split genome)⟩

end Mutation

end Triplet
