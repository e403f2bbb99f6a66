import Triplet.Proofs.Outcomes
import Triplet.Proofs.ReadingFrame

/-! # Changed codons

A mutation of a codon writes one of the 64 codons over an instruction codon, and it is refused
exactly if there is none that may be changed. The text that it makes has the codons of the old one
but for this place, and if no `PUSH` comes or goes, then all other codons are read as before.
-/

namespace Triplet

open Genome Triplet.Random

namespace Genome

@[simp] theorem length_toText (c : Codon) : c.toText.length = 3 := rfl

theorem toText_inj {c d : Codon} : c.toText = d.toText ↔ c = d := by
  constructor
  · intro h
    have hr := congrArg Codon.read? h
    rwa [read?_toText, read?_toText, Option.some.injEq] at hr
  · rintro rfl
    rfl

theorem meaning_toText (c : Codon) : meaning false c.toText = .instruction c.opcode := by
  simp [meaning]

/-- A codon written over an instruction codon changes no other reading, unless one of them is a
`PUSH`. -/
theorem readings_set_of_notMem {codons : List (List Char)} {place index : Nat} {afterPush : Bool}
    {old new : Codon} (hc : codons[place]? = some old.toText)
    (hp : index + place ∉ operandPlaces.go afterPush index codons)
    (ho : new.opcode = .push ↔ old.opcode = .push) :
    readings afterPush (codons.set place new.toText) =
      (readings afterPush codons).set place (new.toText, .instruction new.opcode) := by
  induction codons generalizing place index afterPush with
  | nil => simp at hc
  | cons codon rest ih =>
    cases place with
    | zero =>
      obtain rfl : codon = old.toText := by simpa using hc
      cases afterPush with
      | true => simp [operandPlaces.go] at hp
      | false => simp [readings, meaning_toText, ho]
    | succ place =>
      -- Readings and operand places take the same codons for a `PUSH`.
      have hn : index + 1 + place ∉
          operandPlaces.go (meaning afterPush codon = .instruction .push) (index + 1) rest := by
        rwa [Nat.add_comm place, ← Nat.add_assoc, mem_operandPlaces_succ (by omega)] at hp
      rw [List.set_cons_succ, readings, readings, ih (by simpa using hc) hn]
      split <;> rfl

theorem readings_set {codons : List (List Char)} {place : Nat} {old new : Codon}
    (hc : codons[place]? = some old.toText) (hp : place ∉ operandPlaces codons)
    (ho : new.opcode = .push ↔ old.opcode = .push) :
    readings false (codons.set place new.toText) =
      (readings false codons).set place (new.toText, .instruction new.opcode) :=
  readings_set_of_notMem hc (by rwa [Nat.zero_add]) ho

theorem set_getElem?_self {α : Type} {l : List α} {i : Nat} {a : α} (h : l[i]? = some a) :
    l.set i a = l := by
  obtain ⟨hlt, rfl⟩ := List.getElem?_eq_some_iff.mp h
  exact List.set_getElem_self hlt

theorem getElem?_readings {strand : List Char} {place : Nat} {c : Codon}
    (hc : (triples strand)[place]? = some c.toText)
    (hp : place ∉ operandPlaces (triples strand)) :
    (readings false (triples strand))[place]? = some (c.toText, .instruction c.opcode) := by
  have hs := readings_set hc hp Iff.rfl
  rw [set_getElem?_self hc] at hs
  rw [hs, List.getElem?_set_self (lt_length_readings hc (length_toText c) false)]

section Replaced

variable (text : List Char) (place : Nat) (new : Codon)

theorem settled_set : ∀ codon ∈ (split text).set place new.toText, ∀ c ∈ codon, Settled c := by
  intro codon hcodon
  rcases List.mem_or_eq_of_mem_set hcodon with hm | rfl
  · exact settled_split hm
  · exact settled_toText new

theorem singleCase_replaced : SingleCase (joinCodons ((split text).set place new.toText)) :=
  singleCase_joinCodons (settled_set text place new)

theorem clean_replaced : clean (joinCodons ((split text).set place new.toText)) =
    ((split text).set place new.toText).flatten :=
  clean_joinCodons (settled_set text place new)

theorem split_replaced :
    split (joinCodons ((split text).set place new.toText)) = (split text).set place new.toText := by
  obtain ⟨strand, hs⟩ := triples_set (clean text) place new.first.toChar new.second.toChar
    new.third.toChar
  have ht : (split text).set place new.toText = triples strand := hs
  rw [split, clean_replaced, ht, flatten_triples]

end Replaced

end Genome

namespace Mutation

/-- No codon can be changed. Where no place is asked for, no instruction codon may be drawn; where
one is, it has no codon, or an operand, or a codon that may not be given. -/
def Unsuited (codons : List (List Char)) (place? : Option Int) (drawn : Nat → List Char → Prop)
    (given : List Char → Prop) : Prop :=
  match place? with
  | none => ∀ i codon, codons[i]? = some codon → i ∉ operandPlaces codons → ¬ drawn i codon
  | some p => p < 0 ∨ codons.length ≤ p ∨ p.toNat ∈ operandPlaces codons ∨
      ¬ given (codons.getD p.toNat [])

/-- The place of an instruction codon, as it was asked for or one that may be drawn. -/
structure Suited (codons : List (List Char)) (place? : Option Int)
    (drawn : Nat → List Char → Prop) (place : Nat) : Prop where
  lt : place < codons.length
  instruction : place ∉ operandPlaces codons
  asAsked : AsAsked place? place
  drawn : place? = none → drawn place (codons.getD place [])

section Places

variable {codons : List (List Char)} {place? : Option Int} {drawn : Nat → List Char → Prop}
  {place : Nat}

theorem Suited.getElem? (h : Suited codons place? drawn place) :
    codons[place]? = some (codons.getD place []) := by
  rw [List.getD_eq_getElem?_getD, List.getElem?_eq_getElem h.lt, Option.getD_some]

theorem Unsuited.of_true (h : Unsuited codons place? drawn fun _ => True)
    (given : List Char → Prop) : Unsuited codons place? drawn given := by
  cases place? with
  | none => exact h
  | some p =>
    rcases h with h | h | h | h
    · exact .inl h
    · exact .inr (.inl h)
    · exact .inr (.inr (.inl h))
    · exact absurd trivial h

theorem Suited.unsuited_iff (h : Suited codons place? drawn place) (given : List Char → Prop)
    (hd : drawn place (codons.getD place []) → given (codons.getD place [])) :
    Unsuited codons place? drawn given ↔ ¬ given (codons.getD place []) := by
  cases place? with
  | none =>
    have hdrawn := h.drawn rfl
    constructor
    · exact fun hn => absurd hdrawn (hn place _ h.getElem? h.instruction)
    · exact fun hg => absurd (hd hdrawn) hg
  | some p =>
    obtain rfl : (place : Int) = p := h.asAsked p rfl
    have hlt := h.lt
    have hi := h.instruction
    rw [Unsuited, Int.toNat_natCast]
    constructor
    · rintro (hn | hn | hn | hn)
      · omega
      · omega
      · exact absurd hn hi
      · exact hn
    · exact fun hg => .inr (.inr (.inr hg))

theorem mem_candidates {admits : Nat → List Char → Bool} {i : Nat} :
    i ∈ candidates codons admits ↔
      ∃ codon, codons[i]? = some codon ∧ i ∉ operandPlaces codons ∧ admits i codon = true := by
  simp [candidates, List.mem_zipIdx_iff_getElem?]

theorem meets_codonPlace (codons : List (List Char)) (place? : Option Int)
    (admits : Nat → List Char → Bool) (none? : Refusal) (g : Generator) :
    Meets (codonPlace codons place? admits none?) g
      (Unsuited codons place? (admits · · = true) fun _ => True)
      (Suited codons place? (admits · · = true)) := by
  cases place? with
  | none =>
    refine (meets_choose none? (candidates codons admits) g).imp ?_ ?_
    · simp only [List.eq_nil_iff_forall_not_mem, mem_candidates, Unsuited]
      grind
    · intro i hi
      obtain ⟨codon, hc, ho, ha⟩ := mem_candidates.mp hi
      obtain ⟨hlt, rfl⟩ := List.getElem?_eq_some_iff.mp hc
      exact ⟨hlt, ho, by simp [AsAsked], fun _ => by simpa [hlt] using ha⟩
  | some p =>
    simp only [codonPlace, Unsuited]
    refine .ite (fun h => .refuse (by omega)) fun hr => .ite (fun h => .refuse ?_) fun ho => ?_
    · exact .inr (.inr (.inl (List.contains_iff_mem.mp h)))
    · rw [List.contains_iff_mem] at ho
      refine .yield ?_ ⟨by omega, ho, ?_, fun h => absurd h (Option.some_ne_none p)⟩
      · simp only [ho, not_true_eq_false, or_false]
        omega
      · intro q hq
        obtain rfl := Option.mem_some.mp hq
        omega

end Places

theorem exists_of_mem_options {f : Codon → List Codon} {codon : List Char} {new : Codon}
    (h : new ∈ options f codon) : ∃ old, Codon.read? codon = some old ∧ new ∈ f old := by
  rw [options] at h
  cases hr : Codon.read? codon with
  | none => simp [hr] at h
  | some old => exact ⟨old, rfl, by simpa [hr] using h⟩

theorem ne_of_mem_synonyms (old : Codon) : ∀ new ∈ old.synonyms, new ≠ old := by
  intro new hn
  exact (of_decide_eq_true (List.mem_filter.mp hn).2).2

theorem ne_of_mem_missense (old : Codon) : ∀ new ∈ old.missense, new ≠ old := by
  intro new hn
  have ho := (of_decide_eq_true (List.mem_filter.mp hn).2).1
  rintro rfl
  exact ho rfl

theorem meets_drawn (f : Codon → List Codon) (genome : List Char) (place? : Option Int)
    (none? : Refusal) (refusal : Nat → Refusal) (change : Nat → Codon → Change) (g : Generator) :
    Meets (do
      let place ← codonPlace (split genome) place? (fun _ codon => !(options f codon).isEmpty) none?
      let new ← choose (refusal place) (options f ((split genome).getD place []))
      return replaceCodon (split genome) place new (change place new)) g
      (Unsuited (split genome) place? (fun _ codon => options f codon ≠ []) (options f · ≠ []))
      fun m => Suited (split genome) place? (fun _ codon => options f codon ≠ []) m.place ∧
        ∃ old new : Codon, (split genome)[m.place]? = some old.toText ∧ new ∈ f old ∧
          m.mutated = joinCodons ((split genome).set m.place new.toText) := by
  have hplace := meets_codonPlace (split genome) place?
    (fun _ codon => !(options f codon).isEmpty) none? g
  simp only [Bool.not_eq_true', List.isEmpty_eq_false_iff] at hplace
  refine hplace.bind (·.of_true _) fun place g₁ _ hs => ?_
  -- A place that was drawn has options; one that was asked for may have none.
  have hu := hs.unsuited_iff (options f · ≠ []) id
  refine (meets_choose _ _ g₁).bind (fun hnil => hu.mpr (not_not.mpr hnil)) ?_
  intro new g₂ hne hnew
  obtain ⟨old, hr, hf⟩ := exists_of_mem_options hnew
  have hold := eq_toText_of_read? (settled_split (List.mem_of_getElem? hs.getElem?)) hr
  exact .yield (fun h => hu.mp h hne) ⟨hs, old, new, hold ▸ hs.getElem?, hf, rfl⟩

theorem meets_nonsense (genome : List Char) (place? : Option Int) (g : Generator) :
    Meets (nonsense genome place?) g
      (Unsuited (split genome) place? (admitsNonsense · · = true) fun _ => True)
      fun m => Suited (split genome) place? (admitsNonsense · · = true) m.place ∧
        m.mutated = joinCodons ((split genome).set m.place Codon.stop.toText) := by
  simp only [nonsense]
  refine (meets_codonPlace (split genome) place? admitsNonsense .noNonsense g).bind id ?_
  intro place g₁ hu hs
  exact .yield hu ⟨hs, rfl⟩

theorem drawn_spec {f : Codon → List Codon} {genome : List Char} {place? : Option Int}
    {none? : Refusal} {refusal : Nat → Refusal} {change : Nat → Codon → Change} {g : Generator}
    {m : Mutation}
    (h : Yields (do
      let place ← codonPlace (split genome) place? (fun _ codon => !(options f codon).isEmpty) none?
      let new ← choose (refusal place) (options f ((split genome).getD place []))
      return replaceCodon (split genome) place new (change place new)) g m) :
    ∃ old new : Codon, (split genome)[m.place]? = some old.toText ∧
      m.place ∉ operandPlaces (split genome) ∧ new ∈ f old ∧
      m.mutated = joinCodons ((split genome).set m.place new.toText) := by
  obtain ⟨-, hs, old, new, hc, hf, hm⟩ :=
    (meets_drawn f genome place? none? refusal change g).of_yields h
  exact ⟨old, new, hc, hs.instruction, hf, hm⟩

theorem nonsense_spec {genome : List Char} {place? : Option Int} {g : Generator} {n : Mutation}
    (h : Yields (nonsense genome place?) g n) :
    n.place < (split genome).length ∧ n.place ∉ operandPlaces (split genome) ∧
      n.mutated = joinCodons ((split genome).set n.place Codon.stop.toText) := by
  obtain ⟨-, hs, hm⟩ := (meets_nonsense genome place? g).of_yields h
  exact ⟨hs.lt, hs.instruction, hm⟩

end Mutation

end Triplet
