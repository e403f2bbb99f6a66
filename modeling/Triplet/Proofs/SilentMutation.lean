import Triplet.Proofs.CodonChange
import Triplet.Proofs.Relabelling
import Triplet.Usage.Basic

/-! # Silent mutations

A silent mutation writes a codon over another with the same opcode. However many of them are made
one after another, the tokens keep their meanings, the runs of the genome are the same in every
state, and so are all figures about its opcodes.
-/

namespace Triplet

open Genome Triplet.Random

/-- The opcode that the letters of a token name, and what it means where it stands. -/
def sense (reading : List Char × Meaning) : Option Opcode × Meaning :=
  (Codon.opcode? (Codon.normalize reading.1), reading.2)

theorem sense_toText (c : Codon) : sense (c.toText, .instruction c.opcode) =
    (some c.opcode, .instruction c.opcode) := by
  rw [sense, normalize_of_settled (settled_toText c), Codon.opcode?, read?_toText]
  rfl

/-- A codon keeps the sense of all readings if it takes the place of one with the same opcode. -/
theorem sense_readings_set {codons : List (List Char)} {place : Nat} {old new : Codon}
    (hc : codons[place]? = some old.toText) (hp : place ∉ operandPlaces codons)
    (ho : new.opcode = old.opcode) :
    (readings false (codons.set place new.toText)).map sense =
      (readings false codons).map sense := by
  have key {c : Codon} (hc' : c.opcode = old.opcode) :
      (readings false (codons.set place c.toText)).map sense =
        ((readings false codons).map sense).set place
          (some old.opcode, .instruction old.opcode) := by
    rw [readings_set hc hp (by rw [hc']), List.map_set, sense_toText, hc']
  -- The old codon, written over itself, has the same effect as the new one.
  calc (readings false (codons.set place new.toText)).map sense
    _ = (readings false (codons.set place old.toText)).map sense := (key ho).trans (key rfl).symm
    _ = (readings false codons).map sense := by rw [set_getElem?_self hc]

def Token.sense (t : Token) : Option Opcode × Meaning := Triplet.sense (t.codon, t.meaning)

theorem map_sense_tokens {text : List Char} (h : SingleCase text) :
    (tokens text).map Token.sense = (readings false (split text)).map sense := by
  rw [← tokens_readings h, List.map_map]
  rfl

section SameSenses

variable {ts ts' : List Token} (h : ts'.map Token.sense = ts.map Token.sense)
include h

theorem map_meaning_eq : ts'.map (·.meaning) = ts.map (·.meaning) := by
  simpa [Function.comp_def, Token.sense, sense] using congrArg (List.map Prod.snd) h

theorem opcodes_eq : (Usage.ofTokens ts').opcodes = (Usage.ofTokens ts).opcodes := by
  have hf (ts : List Token) : (ts.map fun t => Codon.normalize t.codon).filterMap Codon.opcode? =
      (ts.map Token.sense).filterMap Prod.fst := by
    rw [List.filterMap_map, List.filterMap_map]
    rfl
  simp only [Usage.ofTokens, Usage.ofCodons, hf, h]

theorem total_eq : (Usage.ofTokens ts').total = (Usage.ofTokens ts).total := by
  simpa [Usage.ofTokens, Usage.ofCodons] using congrArg List.length h

end SameSenses

structure Usage.SameOpcodeFigures (u v : Usage) : Prop where
  opcodes : u.opcodes = v.opcodes
  families (f : Family) : (u.familyShare f : Float) = v.familyShare f
  top : (u.opcodes.top topLength).map (fun e => (e.1, e.2, (percent e.2 u.total : Float))) =
    (v.opcodes.top topLength).map (fun e => (e.1, e.2, (percent e.2 v.total : Float)))
  signature : (u.signature : List (String × Float)) = v.signature

theorem Usage.sameOpcodeFigures {u v : Usage} (ht : u.total = v.total)
    (ho : u.opcodes = v.opcodes) : SameOpcodeFigures u v where
  opcodes := ho
  families f := by rw [familyShare, familyShare, familyCount, familyCount, ht, ho]
  top := by rw [ht, ho]
  signature := by
    simp only [signature, familyShare, familyCount, complexity, redundancy, variety, ht, ho]

namespace Mutation

/-- Texts that come from a genome by silent mutations, each at any place and with any generator. -/
inductive SilentChain (genome : List Char) : List Char → Prop where
  | refl : SilentChain genome genome
  | step {text : List Char} {place? : Option Int} {g : Generator} {m : Mutation} :
      SilentChain genome text → Yields (silent text place?) g m → SilentChain genome m.mutated

theorem sense_silent {genome : List Char} (hs : SingleCase genome) {place? : Option Int}
    {g : Generator} {m : Mutation} (h : Yields (silent genome place?) g m) :
    SingleCase m.mutated ∧
      (tokens m.mutated).map Token.sense = (tokens genome).map Token.sense := by
  obtain ⟨old, new, hc, hp, hn, hm⟩ := drawn_spec h
  have ho : new.opcode = old.opcode := (of_decide_eq_true (List.mem_filter.mp hn).2).1
  have hs' := singleCase_replaced genome m.place new
  rw [hm]
  refine ⟨hs', ?_⟩
  rw [map_sense_tokens hs', split_replaced, map_sense_tokens hs]
  exact sense_readings_set hc hp ho

theorem SilentChain.sense {genome text : List Char} (hs : SingleCase genome)
    (h : SilentChain genome text) :
    SingleCase text ∧ (tokens text).map Token.sense = (tokens genome).map Token.sense := by
  induction h with
  | refl => exact ⟨hs, rfl⟩
  | step _ hy ih =>
    obtain ⟨hs', he⟩ := sense_silent ih.1 hy
    exact ⟨hs', he.trans ih.2⟩

/-- Silent mutations keep the meaning of every token, the whole course of every run and the figures
about opcodes. -/
theorem silentChain_keeps {genome text : List Char} (hs : SingleCase genome)
    (h : SilentChain genome text) :
    (tokens text).map (·.meaning) = (tokens genome).map (·.meaning) ∧
      (∀ (σ : Type) [Surface σ] (m : Machine σ), m.run (tokens text) = m.run (tokens genome)) ∧
      (Usage.ofTokens (tokens text)).SameOpcodeFigures (Usage.ofTokens (tokens genome)) := by
  obtain ⟨-, he⟩ := h.sense hs
  have hm := map_meaning_eq he
  refine ⟨hm, fun σ _ m => Machine.run_eq_of_meaning hm m, ?_⟩
  exact Usage.sameOpcodeFigures (total_eq he) (opcodes_eq he)

/-- Two silent mutations of a text with small letters, a comment and two letters to spare. -/
theorem silentChain_keeps_twice :
    let genome := "aug GAa ccu ; notes\nGGA aau gaa GA".toList
    let text := "ATG GAA CCT GGT AAA GAA GA".toList
    SingleCase genome ∧ SilentChain genome text ∧
      (tokens text).map (·.meaning) = (tokens genome).map (·.meaning) := by
  intro genome text
  have hs : SingleCase genome := by decide +kernel
  let first : Mutation :=
    ⟨"ATG GAA CCT GGT AAT GAA GA".toList, 3, .silent "GGA".toList ⟨.g, .g, .t⟩⟩
  let second : Mutation := ⟨text, 4, .silent "AAT".toList ⟨.a, .a, .a⟩⟩
  have h₁ : Yields (silent genome (some 3)) (.ofSeed 1) first := by decide +kernel
  have h₂ : Yields (silent first.mutated none) (.ofSeed 7) second := by decide +kernel
  have hc : SilentChain genome text := .step (.step .refl h₁) h₂
  exact ⟨hs, hc, (silentChain_keeps hs hc).1⟩

end Mutation

end Triplet
