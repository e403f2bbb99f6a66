import Triplet.Proofs.BaseChange
import Triplet.Proofs.DistanceRows

/-! # What a mutation costs

The cost of a mutation is the edit distance from the strand before it to the strand after it. The
kind of the mutation bounds it, since no letter changes but those that the mutation is about.
Along a chain of mutations the costs add up to no less than the distance between its ends.
-/

namespace Triplet

open Genome Triplet.Random

theorem Genome.length_le_of_mem_triples {α : Type} {strand codon : List α}
    (h : codon ∈ triples strand) : codon.length ≤ 3 := by
  fun_induction triples strand with
  | case1 a b c rest ih =>
    rcases List.mem_cons.mp h with rfl | h
    · exact Nat.le_refl 3
    · exact ih h
  | case2 => cases h
  | case3 rest hlong hnil =>
    obtain rfl := List.mem_singleton.mp h
    obtain ⟨a, rfl⟩ | ⟨a, b, rfl⟩ := one_or_two hlong hnil <;> simp

def strandDistance (text text' : List Char) : Nat := editDistance (clean text) (clean text')

def MutationKind.Costs (length : Int) (edits : Nat) : MutationKind → Prop
  | point => edits = 1
  | insertion | deletion => (edits : Int) = length
  | frameshift => edits = 1 ∨ edits = 2
  | silent | missense => 1 ≤ edits ∧ edits ≤ 3
  | nonsense => edits ≤ 3

namespace Mutation

variable {genome : List Char} {place? : Option Int} {length : Int} {g : Generator} {m : Mutation}

theorem strandDistance_point (h : Yields (point genome place?) g m) :
    strandDistance genome m.mutated = 1 := by
  obtain ⟨i, hi, x, hx, hm⟩ := point_spec h
  rw [strandDistance, hm]
  exact editDistance_set _ hi hx

theorem Inserted.editDistance_eq {place count : Nat} {strand strand' : List Char}
    (h : Inserted place count strand strand') : editDistance strand strand' = count := by
  obtain ⟨-, added, rfl, rfl⟩ := h
  have hd := editDistance_insert (added.map Base.toChar) (strand.take place) (strand.drop place)
  rwa [List.take_append_drop, List.length_map] at hd

theorem Deleted.editDistance_eq {place count : Nat} {strand strand' : List Char}
    (h : Deleted place count strand strand') : editDistance strand strand' = count := by
  obtain ⟨hle, rfl⟩ := h
  have hd := editDistance_insert ((strand.drop place).take count) (strand.take place)
    (strand.drop (place + count))
  have hs : strand.take place ++ (strand.drop place).take count ++ strand.drop (place + count) =
      strand := by
    rw [List.append_assoc, ← List.drop_drop, List.take_append_drop, List.take_append_drop]
  rw [hs, editDistance_comm] at hd
  rw [hd, List.length_take, List.length_drop]
  omega

theorem strandDistance_insertion (h : Yields (insertion genome place? length) g m) :
    (strandDistance genome m.mutated : Int) = length := by
  obtain ⟨hr, -, strand, hs, hm⟩ := (meets_insertion genome place? length g).of_yields h
  rw [strandDistance, hm, clean_format hs.settled, hs.editDistance_eq]
  omega

theorem strandDistance_deletion (h : Yields (deletion genome place? length) g m) :
    (strandDistance genome m.mutated : Int) = length := by
  obtain ⟨hr, -, strand, hs, hm⟩ := (meets_deletion genome place? length g).of_yields h
  rw [strandDistance, hm, clean_format hs.settled, hs.editDistance_eq]
  omega

theorem strandDistance_frameshift (h : Yields (frameshift genome place?) g m) :
    strandDistance genome m.mutated = 1 ∨ strandDistance genome m.mutated = 2 := by
  obtain ⟨-, -, strand, hs, hm⟩ := (meets_frameshift genome place? g).of_yields h
  rw [strandDistance, hm, clean_format hs.settled]
  obtain ⟨hcount, ⟨-, hs⟩ | ⟨-, hs⟩⟩ := hs
  · rwa [hs.editDistance_eq]
  · rwa [hs.editDistance_eq]

theorem strandDistance_replaced_le {place : Nat} (h : place < (split genome).length) (new : Codon) :
    strandDistance genome (joinCodons ((split genome).set place new.toText)) ≤ 3 := by
  have hg : clean genome = (split genome).flatten := (flatten_triples (clean genome)).symm
  have hl : (split genome)[place].length ≤ 3 := length_le_of_mem_triples (List.getElem_mem h)
  calc strandDistance genome (joinCodons ((split genome).set place new.toText))
    _ = editDistance (split genome).flatten ((split genome).set place new.toText).flatten := by
      rw [strandDistance, clean_replaced, hg]
    _ ≤ editDistance (split genome)[place] new.toText := editDistance_flatten_set_le _ h
    _ ≤ max (split genome)[place].length new.toText.length := editDistance_le_max _ _
    _ ≤ 3 := by
      rw [length_toText]
      omega

theorem strandDistance_nonsense (h : Yields (nonsense genome place?) g m) :
    strandDistance genome m.mutated ≤ 3 := by
  obtain ⟨hp, -, hm⟩ := nonsense_spec h
  rw [hm]
  exact strandDistance_replaced_le hp Codon.stop

theorem strandDistance_replaced_pos {place : Nat} {old new : Codon}
    (hc : (split genome)[place]? = some old.toText) (hne : new ≠ old) :
    1 ≤ strandDistance genome (joinCodons ((split genome).set place new.toText)) := by
  rw [Nat.one_le_iff_ne_zero, strandDistance, ne_eq, editDistance_eq_zero_iff]
  intro he
  -- Equal strands have equal codons, the changed one among them.
  have hs : split genome = (split genome).set place new.toText :=
    (congrArg triples he).trans (split_replaced genome place new)
  obtain ⟨hp, -⟩ := List.getElem?_eq_some_iff.mp hc
  have ht : some new.toText = some old.toText := by
    rw [← hc, hs, List.getElem?_set_self hp]
  exact hne (toText_inj.mp (Option.some.inj ht))

theorem strandDistance_drawn {f : Codon → List Codon} (hf : ∀ old, ∀ new ∈ f old, new ≠ old)
    (h : ∃ old new : Codon, (split genome)[m.place]? = some old.toText ∧
      m.place ∉ operandPlaces (split genome) ∧ new ∈ f old ∧
      m.mutated = joinCodons ((split genome).set m.place new.toText)) :
    1 ≤ strandDistance genome m.mutated ∧ strandDistance genome m.mutated ≤ 3 := by
  obtain ⟨old, new, hc, -, hn, hm⟩ := h
  obtain ⟨hp, -⟩ := List.getElem?_eq_some_iff.mp hc
  rw [hm]
  exact ⟨strandDistance_replaced_pos hc (hf old new hn), strandDistance_replaced_le hp new⟩

theorem costs_ofKind {kind : MutationKind} (h : Yields (ofKind kind genome place? length) g m) :
    kind.Costs length (strandDistance genome m.mutated) := by
  cases kind with
  | silent => exact strandDistance_drawn ne_of_mem_synonyms (drawn_spec h)
  | missense => exact strandDistance_drawn ne_of_mem_missense (drawn_spec h)
  | nonsense => exact strandDistance_nonsense h
  | point => exact strandDistance_point h
  | insertion => exact strandDistance_insertion h
  | deletion => exact strandDistance_deletion h
  | frameshift => exact strandDistance_frameshift h

/-- Texts that come from a genome by mutations of any kinds, and what these cost together. -/
inductive Chain (genome : List Char) : List Char → Nat → Prop where
  | refl : Chain genome genome 0
  | step {text : List Char} {edits : Nat} {kind : MutationKind} {place? : Option Int}
      {length : Int} {g : Generator} {m : Mutation} :
      Chain genome text edits → Yields (ofKind kind text place? length) g m →
        Chain genome m.mutated (edits + strandDistance text m.mutated)

theorem Chain.strandDistance_le {text : List Char} {edits : Nat} (h : Chain genome text edits) :
    strandDistance genome text ≤ edits := by
  induction h with
  | refl => rw [strandDistance, editDistance_self]
  | @step text edits kind place? length g m _ _ ih =>
    have ht : strandDistance genome m.mutated ≤
        strandDistance genome text + strandDistance text m.mutated := editDistance_triangle _ _ _
    omega

/-- Every mutation costs what its kind allows, and a chain of mutations leads no further than its
costs. -/
theorem mutation_costs (genome : List Char) :
    (∀ (kind : MutationKind) (place? : Option Int) (length : Int) (g : Generator) (m : Mutation),
      Yields (ofKind kind genome place? length) g m →
        kind.Costs length (strandDistance genome m.mutated)) ∧
      ∀ (text : List Char) (edits : Nat), Chain genome text edits →
        strandDistance genome text ≤ edits :=
  ⟨fun _ _ _ _ _ => costs_ofKind, fun _ _ => Chain.strandDistance_le⟩

/-- Four bases are put into a text with a letter that is two in upper case, and then one of them is
taken out again. -/
theorem mutation_costs_twice :
    let genome := "aug GAa ccu ; notes\nGGA aau gß".toList
    let first : Mutation :=
      ⟨"ATG GAA CTG ACC TGG AAA TGS S".toList, 5, .edit (.insertion [.a, .c, .t, .g])⟩
    let second : Mutation :=
      ⟨"ATG GAA TGA CCT GGA AAT GSS".toList, 6, .frameshift (.deletion ['C'])⟩
    Yields (ofKind .insertion genome none 4) (.ofSeed 2) first ∧
      Yields (ofKind .frameshift first.mutated none 1) (.ofSeed 4) second ∧
      (strandDistance genome first.mutated : Int) = 4 ∧
      Chain genome second.mutated 5 ∧ strandDistance genome second.mutated ≤ 5 := by
  intro genome first second
  have h₁ : Yields (ofKind .insertion genome none 4) (.ofSeed 2) first := by decide +kernel
  have h₂ : Yields (ofKind .frameshift first.mutated none 1) (.ofSeed 4) second := by
    decide +kernel
  have he : 0 + strandDistance genome first.mutated +
      strandDistance first.mutated second.mutated = 5 := by decide +kernel
  have hc : Chain genome second.mutated 5 := he ▸ .step (.step .refl h₁) h₂
  obtain ⟨hcosts, hchain⟩ := mutation_costs genome
  exact ⟨h₁, h₂, hcosts _ _ _ _ _ h₁, hc, hchain _ _ hc⟩

end Mutation

end Triplet
