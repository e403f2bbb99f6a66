import Triplet.Genome.Problem
import Triplet.Proofs.BaseChange

/-! # The normal form of a genome

A text in normal form is its own strand, written out in threes with one space between. Its codons
are what stands between the spaces, and no space breaks a codon. Every mutation writes its text in
normal form, whether it puts codons together or cuts a strand into threes. So the bases that an
insertion puts in can be taken out again, and what remains is the normal form of the genome.
-/

namespace Triplet

open Genome Triplet.Random Text

namespace Genome

/-- A text that is its strand in threes. Codons can be read off it at the spaces, and it has no
problem with the reading frame but a last piece that may be short. -/
structure NormalForm (text : List Char) : Prop where
  eq_format : text = format (clean text)
  split_eq : split text = if text = [] then [] else text.splitOn ' '
  frameProblems_eq : frameProblems text =
    if (clean text).length % 3 = 0 then [] else [.trailingBases (clean text).length]

section Breaks

variable (number column count : Nat) (afterBlank : Bool)

theorem breaks_cons_letter {c : Char} (h : isBlank c = false) (rest : List Char) :
    breaks number column count afterBlank (c :: rest) =
      breaks number (column + 1) (count + 1) false rest := by
  simp [breaks, h]

theorem breaks_cons_space (h : count % 3 = 0) (rest : List Char) :
    breaks number column count afterBlank (' ' :: rest) =
      breaks number (column + 1) count true rest := by
  have hb : isBlank ' ' = true := by decide
  simp [breaks, hb, h]

theorem breaks_of_no_blank {text : List Char} (h : ∀ c ∈ text, isBlank c = false) :
    breaks number column count afterBlank text = [] := by
  induction text generalizing column count afterBlank with
  | nil => rfl
  | cons c text ih =>
    rw [breaks_cons_letter _ _ _ _ (h c (by simp))]
    exact ih _ _ _ fun d hd => h d (by simp [hd])

theorem breaks_format {strand : List Char} (hs : ∀ c ∈ strand, isBlank c = false)
    (hc : count % 3 = 0) : breaks number column count afterBlank (format strand) = [] := by
  rw [format]
  fun_induction triples strand generalizing column count afterBlank with
  | case1 a b c rest ih =>
    have ha := hs a (by simp)
    have hb := hs b (by simp)
    have hc' := hs c (by simp)
    cases ht : triples rest with
    | nil => exact breaks_of_no_blank _ _ _ _ (by simp [joinCodons, ha, hb, hc'])
    | cons next pieces =>
      rw [joinCodons_cons_cons, ← ht]
      simp only [List.cons_append, List.nil_append]
      rw [breaks_cons_letter _ _ _ _ ha, breaks_cons_letter _ _ _ _ hb,
        breaks_cons_letter _ _ _ _ hc', breaks_cons_space _ _ _ _ (by omega)]
      exact ih _ _ _ (fun d hd => hs d (by simp [hd])) (by omega)
  | case2 => rfl
  | case3 rest => exact breaks_of_no_blank _ _ _ _ (by simpa [joinCodons] using hs)

end Breaks

theorem triples_eq_nil_iff {α : Type} {strand : List α} : triples strand = [] ↔ strand = [] := by
  constructor
  · intro h
    rw [← flatten_triples strand, h, List.flatten_nil]
  · rintro rfl
    rfl

/-- A strand of settled letters, written out in threes, is in normal form. -/
theorem normalForm_format {strand : List Char} (hs : ∀ c ∈ strand, Settled c) :
    NormalForm (format strand) := by
  have hclean := clean_format hs
  refine ⟨by rw [hclean], ?_, ?_⟩
  · rw [split, hclean]
    by_cases hnil : strand = []
    · subst hnil
      rfl
    · have hne : triples strand ≠ [] := mt triples_eq_nil_iff.mp hnil
      have hspace : ∀ codon ∈ triples strand, ' ' ∉ codon := fun codon hcodon hm =>
        absurd (settled_of_mem_triples hs hcodon _ hm).blank (by decide)
      have hformat : format strand ≠ [] := by
        intro h
        rw [h] at hclean
        exact hnil hclean.symm
      rw [if_neg hformat, format, joinCodons, List.splitOn_intercalate ' ' hspace hne]
  · have hmem : ∀ c ∈ format strand, c = ' ' ∨ Settled c := fun c =>
      settled_of_mem_joinCodons fun _ => settled_of_mem_triples hs
    have hb : breaks 1 0 0 false (format strand) = [] :=
      breaks_format _ _ _ _ (fun c hc => (hs c hc).blank) rfl
    rw [frameProblems, lines_of_no_newline (no_newline_of_settled hmem), breaksFrom, breaksFrom,
      code_of_settled hmem, hb]
    rfl

end Genome

namespace Mutation

section Written

variable {genome : List Char} {place? : Option Int} {length : Int} {g : Generator} {m : Mutation}

theorem exists_replaced (genome : List Char) (place : Nat) (new : Codon) :
    ∃ strand, (∀ c ∈ strand, Settled c) ∧
      joinCodons ((split genome).set place new.toText) = format strand := by
  obtain ⟨strand, hs⟩ := triples_set (clean genome) place new.first.toChar new.second.toChar
    new.third.toChar
  have hset : (split genome).set place new.toText = triples strand := hs
  refine ⟨strand, ?_, by rw [hset, format]⟩
  intro c hc
  rw [← flatten_triples strand, ← hset] at hc
  obtain ⟨codon, hcodon, hc⟩ := List.mem_flatten.mp hc
  exact settled_set genome place new codon hcodon c hc

/-- Every mutation writes a strand out in threes. -/
theorem exists_written {kind : MutationKind} (h : Yields (ofKind kind genome place? length) g m) :
    ∃ strand, (∀ c ∈ strand, Settled c) ∧ m.mutated = format strand := by
  cases kind with
  | silent =>
    obtain ⟨old, new, -, -, -, hm⟩ := drawn_spec h
    exact hm ▸ exists_replaced genome m.place new
  | missense =>
    obtain ⟨old, new, -, -, -, hm⟩ := drawn_spec h
    exact hm ▸ exists_replaced genome m.place new
  | nonsense =>
    obtain ⟨-, -, hm⟩ := nonsense_spec h
    exact hm ▸ exists_replaced genome m.place Codon.stop
  | point =>
    obtain ⟨-, new, -, hm⟩ := point_written h
    exact ⟨_, settled_set_clean genome m.place new, hm⟩
  | insertion =>
    obtain ⟨-, -, strand, hs, hm⟩ := (meets_insertion genome place? length g).of_yields h
    exact ⟨strand, hs.settled, hm⟩
  | deletion =>
    obtain ⟨-, -, strand, hs, hm⟩ := (meets_deletion genome place? length g).of_yields h
    exact ⟨strand, hs.settled, hm⟩
  | frameshift =>
    obtain ⟨-, -, strand, hs, hm⟩ := (meets_frameshift genome place? g).of_yields h
    exact ⟨strand, hs.settled, hm⟩

end Written

theorem Inserted.eq_of_deleted {place count : Nat} {strand strand' strand'' : List Char}
    (hi : Inserted place count strand strand') (hd : Deleted place count strand' strand'') :
    strand'' = strand := by
  obtain ⟨hle, added, rfl, rfl⟩ := hi
  obtain ⟨-, rfl⟩ := hd
  have hl : (strand.take place).length = place := List.length_take_of_le hle
  have htake : (strand.take place ++ added.map Base.toChar ++ strand.drop place).take place =
      strand.take place := by
    rw [List.append_assoc, List.take_left' hl]
  have hdrop : (strand.take place ++ added.map Base.toChar ++ strand.drop place).drop
      (place + added.length) = strand.drop place := by
    rw [List.drop_left' (by simp [hl])]
  rw [htake, hdrop, List.take_append_drop]

theorem Inserted.length_eq {place count : Nat} {strand strand' : List Char}
    (h : Inserted place count strand strand') : strand'.length = strand.length + count := by
  obtain ⟨hle, added, rfl, rfl⟩ := h
  simp only [List.length_append, List.length_take, List.length_map, List.length_drop]
  omega

theorem deletion_of_insertion {genome : List Char} {place count : Nat}
    (hp : place ≤ (clean genome).length) (hc : 1 ≤ count) (g g' : Generator) :
    ∃ m m', Yields (insertion genome (some place) count) g m ∧
      Yields (deletion m.mutated (some place) count) g' m' ∧
      m'.mutated = format (clean genome) := by
  have hout (last : Int) : Outside (some (place : Int)) last ↔ last < place := by
    simp only [Outside, Option.mem_some_iff, exists_eq_left']
    omega
  obtain ⟨m, hm, ha, strand, hi, hw⟩ := (meets_insertion genome (some place) count g).yields (by
    rw [hout]
    omega)
  have hclean : clean m.mutated = strand := by rw [hw, clean_format hi.settled]
  have hl := hi.length_eq
  rw [Int.toNat_natCast] at hl
  obtain ⟨m', hm', ha', strand', hd, hw'⟩ :=
    (meets_deletion m.mutated (some place) count g').yields (by
      rw [hout, hclean]
      omega)
  have hplace : m'.place = m.place := by
    have h := ha place rfl
    have h' := ha' place rfl
    omega
  rw [hclean, hplace] at hd
  exact ⟨m, m', hm, hm', by rw [hw', hi.eq_of_deleted hd]⟩

/-- Bases that are put in can be taken out again, which leaves the normal form of the genome; and
the text of every mutation is in normal form. -/
theorem mutated_normalForm (genome : List Char) :
    (∀ (place count : Nat) (g g' : Generator), place ≤ (clean genome).length → 1 ≤ count →
      ∃ m m', Yields (insertion genome (some place) count) g m ∧
        Yields (deletion m.mutated (some place) count) g' m' ∧
        m'.mutated = format (clean genome)) ∧
      ∀ (kind : MutationKind) (place? : Option Int) (length : Int) (g : Generator) (m : Mutation),
        Yields (ofKind kind genome place? length) g m → NormalForm m.mutated := by
  refine ⟨fun _ _ g g' hp hc => deletion_of_insertion hp hc g g', ?_⟩
  intro kind place? length g m h
  obtain ⟨strand, hs, hm⟩ := exists_written h
  exact hm ▸ normalForm_format hs

/-- Five bases go in and out of a text with a comment, a letter that is two in upper case and a
short last piece, which a missense mutation keeps. -/
theorem mutated_normalForm_short :
    let genome := "aug gaß ; notes\n ccu g".toList
    let m : Mutation := ⟨"CCC GAS SCC TG".toList, 0, .missense "ATG".toList ⟨.c, .c, .c⟩⟩
    4 ≤ (clean genome).length ∧
      (∃ m m', Yields (insertion genome (some 4) 5) (.ofSeed 5) m ∧
        Yields (deletion m.mutated (some 4) 5) (.ofSeed 7) m' ∧
        m'.mutated = format (clean genome)) ∧
      Yields (ofKind .missense genome none 1) (.ofSeed 5) m ∧ NormalForm m.mutated := by
  intro genome m
  have hp : 4 ≤ (clean genome).length := by decide +kernel
  have hm : Yields (ofKind .missense genome none 1) (.ofSeed 5) m := by decide +kernel
  obtain ⟨hback, hform⟩ := mutated_normalForm genome
  exact ⟨hp, hback 4 5 _ _ hp (by decide), hm, hform _ _ _ _ _ hm⟩

end Mutation

end Triplet
