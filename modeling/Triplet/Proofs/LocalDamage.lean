import Triplet.Proofs.BaseChange
import Triplet.Proofs.FrameAgreement

/-! # Damage is local

A mutation that keeps the frame changes one codon. If a `PUSH` comes or goes with it, then operands
and instructions change places in the run of `PUSH` codons behind it, up to the first codon that is
no `PUSH`: whether this one is read as an operand or not, no operand follows it, and from there on
all is read as before.
-/

namespace Triplet

/-- What a token says, wherever it stands: its codon, its opcode and its value. -/
def Token.content (t : Token) : List Char × Option Opcode × Option Value :=
  (t.codon, t.opcode?, t.operand?)

namespace Genome

/-- The second list has the pieces of the first but for one place, and there one as long. -/
structure SameBut (place : Nat) (codons codons' : List (List Char)) : Prop where
  lengths : codons'.map List.length = codons.map List.length
  getElem? : ∀ i, i ≠ place → codons'[i]? = codons[i]?

theorem sameBut_set {codons : List (List Char)} {place : Nat} {old new : List Char}
    (h : codons[place]? = some old) (hl : new.length = old.length) :
    SameBut place codons (codons.set place new) where
  lengths := by
    rw [List.map_set, hl]
    exact set_getElem?_self (by simp [h])
  getElem? i hi := List.getElem?_set_ne hi.symm

namespace SameBut

variable {codons codons' : List (List Char)} {place i k : Nat} (h : SameBut place codons codons')
include h

theorem length_eq : codons'.length = codons.length := by
  simpa using congrArg List.length h.lengths

theorem mem_operandPlaces_of_le (hk : k ∈ operandPlaces codons' ↔ k ∈ operandPlaces codons)
    (hi : k ≤ i) (hp : place < k ∨ i ≤ place) :
    i ∈ operandPlaces codons' ↔ i ∈ operandPlaces codons := by
  induction hi with
  | refl => exact hk
  | @step j hj ih =>
    -- What follows a codon depends on this codon and on how it is read, and on nothing else.
    have hj : k ≤ j := hj
    rw [succ_mem_operandPlaces_iff, succ_mem_operandPlaces_iff, ih (by omega), h.length_eq,
      h.getElem? j (by omega)]

theorem mem_operandPlaces_before (hi : i ≤ place) :
    i ∈ operandPlaces codons' ↔ i ∈ operandPlaces codons := by
  refine h.mem_operandPlaces_of_le (k := 0) ?_ (Nat.zero_le i) (.inr hi)
  simp [zero_notMem_operandPlaces]

/-- After a codon that is no `PUSH`, the operands agree whatever was read before it. -/
theorem mem_operandPlaces_after (hk : place < k)
    (hn : codons[k]?.bind Codon.opcode? ≠ some .push) (hi : k < i) :
    i ∈ operandPlaces codons' ↔ i ∈ operandPlaces codons := by
  -- Neither list has an operand right after it.
  refine h.mem_operandPlaces_of_le (k := k + 1) ?_ hi (.inl (by omega))
  simp [succ_mem_operandPlaces_iff, h.getElem? k (by omega), hn]

/-- No operand follows another, so an operand may be changed without any effect on the rest. -/
theorem mem_operandPlaces_of_operand (hp : place ∈ operandPlaces codons) :
    i ∈ operandPlaces codons' ↔ i ∈ operandPlaces codons := by
  rcases Nat.lt_or_ge place i with hi | hi
  · have hp' : place ∈ operandPlaces codons' :=
      (h.mem_operandPlaces_before (Nat.le_refl place)).mpr hp
    refine h.mem_operandPlaces_of_le (k := place + 1) ?_ hi (.inl (by omega))
    simp [succ_mem_operandPlaces_iff, hp, hp']
  · exact h.mem_operandPlaces_before hi

end SameBut

theorem SameBut.length_clean {text text' : List Char} {place : Nat}
    (h : SameBut place (split text) (split text')) :
    (clean text').length = (clean text).length := by
  rw [← flatten_triples (clean text'), ← flatten_triples (clean text), List.length_flatten,
    List.length_flatten, ← split, ← split, h.lengths]

section Tokens

variable {text text' : List Char} {i : Nat} (hs : SingleCase text) (hs' : SingleCase text')
include hs hs'

theorem content_eq (hl : (tokens text').length = (tokens text).length)
    (hc : (split text')[i]? = (split text)[i]?)
    (hp : i ∈ operandPlaces (split text') ↔ i ∈ operandPlaces (split text)) :
    (tokens text')[i]?.map Token.content = (tokens text)[i]?.map Token.content := by
  rcases Nat.lt_or_ge i (tokens text).length with hi | hi
  · have ht := List.getElem?_eq_getElem hi
    have ht' := List.getElem?_eq_getElem (hl ▸ hi)
    have hcodon : (tokens text')[i].codon = (tokens text)[i].codon := by
      rw [getElem?_split_of_tokens hs ht, getElem?_split_of_tokens hs' ht'] at hc
      exact Option.some.inj hc
    rw [ht, ht', Option.map_some, Option.map_some, Token.content, Token.content,
      opcode?_of_getElem?_tokens hs ht, opcode?_of_getElem?_tokens hs' ht',
      operand?_of_getElem?_tokens hs ht, operand?_of_getElem?_tokens hs' ht', hcodon]
    simp only [hp]
  · rw [List.getElem?_eq_none hi, List.getElem?_eq_none (hl ▸ hi)]

end Tokens

/-- The first place after another whose codon is no `PUSH`, or else the number of codons. -/
def recovery (codons : List (List Char)) (place : Nat) : Nat :=
  codons.zipIdx.findIdx fun c => place < c.2 && Codon.opcode? c.1 != some .push

theorem recovery_spec {codons : List (List Char)} {place : Nat}
    (h : recovery codons place < codons.length) :
    place < recovery codons place ∧
      codons[recovery codons place]?.bind Codon.opcode? ≠ some .push := by
  unfold recovery at h ⊢
  have hf := List.findIdx_getElem (w := by rwa [List.length_zipIdx])
  rw [List.getElem_zipIdx, Nat.zero_add] at hf
  simpa [List.getElem?_eq_getElem h] using hf

theorem triples_set_letter {α : Type} (strand : List α) {i : Nat} (h : i < strand.length) (x : α) :
    ∃ piece, (triples strand)[i / 3]? = some piece ∧
      triples (strand.set i x) = (triples strand).set (i / 3) (piece.set (i % 3) x) := by
  fun_induction triples strand generalizing i with
  | case1 a b c rest ih =>
    rcases i with _ | _ | _ | i
    · exact ⟨[a, b, c], rfl, rfl⟩
    · exact ⟨[a, b, c], rfl, rfl⟩
    · exact ⟨[a, b, c], rfl, rfl⟩
    · obtain ⟨piece, hp, ht⟩ := ih (by simpa using h)
      have hd : (i + 3) / 3 = i / 3 + 1 := by omega
      have hm : (i + 3) % 3 = i % 3 := by omega
      refine ⟨piece, by rw [hd]; exact hp, ?_⟩
      rw [hd, hm, List.set_cons_succ, List.set_cons_succ, List.set_cons_succ, triples,
        ht, List.set_cons_succ]
  | case2 => simp at h
  | case3 rest hlong hnil =>
    obtain ⟨a, rfl⟩ | ⟨a, b, rfl⟩ := one_or_two hlong hnil
    · obtain rfl : i = 0 := by simpa using h
      exact ⟨[a], rfl, rfl⟩
    · obtain rfl | rfl : i = 0 ∨ i = 1 := by
        simp only [List.length_cons, List.length_nil] at h
        omega
      · exact ⟨[a, b], rfl, rfl⟩
      · exact ⟨[a, b], rfl, rfl⟩

end Genome

open Genome Triplet.Random

/-- The place of the codon that a mutation changes, from the place that it names: that of a codon,
or of a letter if it is a point mutation. -/
def MutationKind.codonPlace (kind : MutationKind) (place : Nat) : Nat :=
  if kind = .point then place / 3 else place

namespace Mutation

variable {genome mutated : List Char} {place i : Nat} {kind : MutationKind} {place? : Option Int}
  {length : Int} {g : Generator} {m : Mutation}

/-- The second text has the codons of the first but for one of the same length. -/
structure ChangesCodon (genome mutated : List Char) (place : Nat) : Prop where
  singleCase : SingleCase mutated
  codons : SameBut place (split genome) (split mutated)

theorem changesCodon_replaced {old : List Char} (hc : (split genome)[place]? = some old)
    (hl : old.length = 3) (new : Codon) :
    ChangesCodon genome (joinCodons ((split genome).set place new.toText)) place where
  singleCase := singleCase_replaced genome place new
  codons := by
    rw [split_replaced]
    exact sameBut_set hc (by rw [length_toText, hl])

theorem changesCodon_drawn {f : Codon → List Codon}
    (h : ∃ old new : Codon, (split genome)[m.place]? = some old.toText ∧
      m.place ∉ operandPlaces (split genome) ∧ new ∈ f old ∧
      m.mutated = joinCodons ((split genome).set m.place new.toText)) :
    ChangesCodon genome m.mutated m.place := by
  obtain ⟨old, new, hc, -, -, hm⟩ := h
  rw [hm]
  exact changesCodon_replaced hc (length_toText old) new

theorem changesCodon_point (h : Yields (point genome place?) g m) :
    ChangesCodon genome m.mutated (m.place / 3) := by
  obtain ⟨hi, new, -, hm⟩ := point_written h
  have hs := settled_set_clean genome m.place new
  obtain ⟨piece, hp, ht⟩ := triples_set_letter (clean genome) hi new.toChar
  have hsplit : split m.mutated =
      (split genome).set (m.place / 3) (piece.set (m.place % 3) new.toChar) := by
    rw [hm, split, clean_format hs, ht, split]
  refine ⟨hm ▸ singleCase_format hs, ?_⟩
  rw [hsplit]
  exact sameBut_set hp List.length_set

theorem changesCodon_ofKind (hk : kind ∈ [MutationKind.silent, .missense, .nonsense, .point])
    (h : Yields (ofKind kind genome place? length) g m)
    (hf : kind = .nonsense → ∃ codon, (split genome)[m.place]? = some codon ∧ codon.length = 3) :
    ChangesCodon genome m.mutated (kind.codonPlace m.place) := by
  cases kind with
  | silent => exact changesCodon_drawn (drawn_spec h)
  | missense => exact changesCodon_drawn (drawn_spec h)
  | nonsense =>
    obtain ⟨codon, hc, hl⟩ := hf rfl
    obtain ⟨-, -, hm⟩ := nonsense_spec h
    rw [hm]
    exact changesCodon_replaced hc hl Codon.stop
  | point => exact changesCodon_point h
  | insertion | deletion | frameshift => simp at hk

namespace ChangesCodon

variable (h : ChangesCodon genome mutated place) (hs : SingleCase genome)
include h hs

theorem length_tokens : (tokens mutated).length = (tokens genome).length := by
  rw [Genome.length_tokens hs, Genome.length_tokens h.singleCase, h.codons.length_clean]

theorem content_eq (hi : i ≠ place)
    (hp : i ∈ operandPlaces (split mutated) ↔ i ∈ operandPlaces (split genome)) :
    (tokens mutated)[i]?.map Token.content = (tokens genome)[i]?.map Token.content :=
  Genome.content_eq hs h.singleCase (h.length_tokens hs) (h.codons.getElem? i hi) hp

theorem codon_eq (hi : i ≠ place) :
    (tokens mutated)[i]?.map (·.codon) = (tokens genome)[i]?.map (·.codon) := by
  rw [← List.getElem?_map, ← List.getElem?_map, map_codon_tokens hs, map_codon_tokens h.singleCase,
    h.codons.length_clean, List.getElem?_take, List.getElem?_take, h.codons.getElem? i hi]

theorem content_eq_of_recovery (hi : recovery ((tokens genome).map (·.codon)) place < i) :
    (tokens mutated)[i]?.map Token.content = (tokens genome)[i]?.map Token.content := by
  generalize hq : recovery ((tokens genome).map (·.codon)) place = q at hi
  rcases Nat.lt_or_ge q (tokens genome).length with hlt | hge
  · obtain ⟨hp, hn⟩ := recovery_spec (by rwa [hq, List.length_map])
    rw [hq] at hp hn
    have hc : ((tokens genome).map (·.codon))[q]? = (split genome)[q]? := by
      rw [map_codon_tokens hs, List.getElem?_take_of_lt (by rwa [← Genome.length_tokens hs])]
    rw [hc] at hn
    exact h.content_eq hs (by omega) (h.codons.mem_operandPlaces_after hp hn hi)
  · -- All codons after the changed one are `PUSH` codons, and the tokens end before `i`.
    have hl := h.length_tokens hs
    rw [List.getElem?_eq_none (by omega), List.getElem?_eq_none (by omega)]

end ChangesCodon

/-- A mutation that keeps the frame does its damage between the codon that it changes and the first
codon after it that is no `PUSH`. If it changes an operand, then the damage is this one token. -/
theorem mutation_damage (hs : SingleCase genome)
    (hk : kind ∈ [MutationKind.silent, .missense, .nonsense, .point])
    (h : Yields (ofKind kind genome place? length) g m)
    (hf : kind = .nonsense → ∃ codon, (split genome)[m.place]? = some codon ∧ codon.length = 3) :
    let p := kind.codonPlace m.place
    let q := recovery ((tokens genome).map (·.codon)) p
    (tokens m.mutated).length = (tokens genome).length ∧
      (∀ i, i < p ∨ q < i →
        (tokens m.mutated)[i]?.map Token.content = (tokens genome)[i]?.map Token.content) ∧
      (∀ i, i ≠ p → (tokens m.mutated)[i]?.map (·.codon) = (tokens genome)[i]?.map (·.codon)) ∧
      (p ∈ operandPlaces (split genome) → ∀ i, i ≠ p →
        (tokens m.mutated)[i]?.map Token.content = (tokens genome)[i]?.map Token.content) := by
  intro p q
  have hc : ChangesCodon genome m.mutated p := changesCodon_ofKind hk h hf
  refine ⟨hc.length_tokens hs, ?_, fun i => hc.codon_eq hs, fun hp i hi => ?_⟩
  · rintro i (hi | hi)
    · have hp := hc.codons.mem_operandPlaces_before (Nat.le_of_lt hi)
      exact hc.content_eq hs (Nat.ne_of_lt hi) hp
    · exact hc.content_eq_of_recovery hs hi
  · exact hc.content_eq hs hi (hc.codons.mem_operandPlaces_of_operand hp)

/-- A loop becomes a `PUSH` before a run of them: each of the next codons is now an operand if it
was none, up to the first that is no `PUSH`. -/
theorem mutation_damage_run :
    let genome := "aug Caa gaa ; a run\ngag gac ggg uaa gg".toList
    let m : Mutation := ⟨"ATG GAA GAA GAG GAC GGG TAA GG".toList, 3, .point 'C' .g⟩
    let p := MutationKind.point.codonPlace m.place
    let q := recovery ((tokens genome).map (·.codon)) p
    SingleCase genome ∧ Yields (ofKind .point genome (some 3) 1) (.ofSeed 0) m ∧ p = 1 ∧ q = 5 ∧
      (tokens m.mutated).length = (tokens genome).length ∧
      (∀ i, i < p ∨ q < i →
        (tokens m.mutated)[i]?.map Token.content = (tokens genome)[i]?.map Token.content) ∧
      ∀ i ∈ [1, 2, 3, 4, 5],
        (tokens m.mutated)[i]?.map Token.content ≠ (tokens genome)[i]?.map Token.content := by
  intro genome m p q
  have hs : SingleCase genome := by decide +kernel
  have hy : Yields (ofKind .point genome (some 3) 1) (.ofSeed 0) m := by decide +kernel
  obtain ⟨hl, ho, -, -⟩ := mutation_damage hs (by decide) hy nofun
  exact ⟨hs, hy, by decide, by decide +kernel, hl, ho, by decide +kernel⟩

end Mutation

end Triplet
