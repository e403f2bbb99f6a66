import Triplet.Proofs.ExactShares
import Triplet.Proofs.ReadingFrame
import Triplet.Proofs.Tallies
import Triplet.Usage.Basic

/-! # Counts of codons

The tables of a usage are tallied separately from one list of codons, and they agree: the count of
an opcode is that of its codons, the count of a box that of the codons with its two letters, and the
shares of the families make up the share of the codons that are known.
-/

namespace Triplet

namespace Codon

variable {text : List Char}

theorem normalize_eq_self (h : ∀ c ∈ text, Text.upper c = [c] ∧ c ≠ 'U') :
    normalize text = text := by
  have hm : text.map Text.upper = text.map fun c => [c] :=
    List.map_congr_left fun c hc => (h c hc).1
  have hu : Text.upperAll text = text := by
    rw [Text.upperAll, List.flatMap_def, hm, ← List.flatMap_def, List.flatMap_singleton']
  rw [normalize, hu]
  exact List.map_congr_left (fun c hc => if_neg (h c hc).2) |>.trans (List.map_id _)

theorem normalize_normalize (text : List Char) : normalize (normalize text) = normalize text := by
  apply normalize_eq_self
  intro c hc
  obtain ⟨d, hd, rfl⟩ := List.mem_map.mp hc
  obtain ⟨e, -, hd⟩ := List.mem_flatMap.mp hd
  by_cases hU : d = 'U'
  · rw [if_pos hU]
    decide +kernel
  · rw [if_neg hU]
    exact ⟨Text.upper_of_mem_upper hd, hU⟩

theorem read?_normalize (text : List Char) : read? (normalize text) = read? text := by
  rw [read?, normalize_normalize, read?]

theorem opcode?_normalize (text : List Char) : opcode? (normalize text) = opcode? text := by
  rw [opcode?, read?_normalize, opcode?]

theorem opcode?_eq_some_iff (h : normalize text = text) (op : Opcode) :
    opcode? text = some op ↔ text ∈ op.codons.map toText := by
  rw [opcode?, read?, h, Option.map_eq_some_iff, List.mem_map]
  constructor
  · rintro ⟨c, hc, rfl⟩
    refine ⟨c, ?_, (Genome.toText_of_ofText? hc).symm⟩
    exact List.mem_filter.mpr ⟨mem_all c, decide_eq_true rfl⟩
  · rintro ⟨c, hc, rfl⟩
    exact ⟨c, ofText?_toText c, of_decide_eq_true (List.mem_filter.mp hc).2⟩

end Codon

theorem Opcode.nodup_codons (op : Opcode) : (op.codons.map Codon.toText).Nodup := by
  cases op <;> decide +kernel

namespace Tally

variable {α : Type} [DecidableEq α]

/-- The first entries of the ranking of a tally: those that are left out have no greater count. -/
structure Leads (t leaders : Tally α) (count : Nat) : Prop where
  ranked : ∃ ranking, t.Ranking ranking ∧ leaders = ranking.take count
  unlisted : ∀ e ∈ t, e ∉ leaders → ∀ e' ∈ leaders, e.2 ≤ e'.2

theorem leads_top (items : List α) (count : Nat) :
    (ofList items).Leads ((ofList items).top count) count := by
  have hr := ranking_mergeSort (nodup_ofList items)
  exact ⟨⟨_, hr, rfl⟩, fun _ he hn _ he' => hr.le_of_notMem_take he hn he'⟩

end Tally

namespace Usage

def codonsOf (tokens : List Token) : List (List Char) := tokens.map fun t => Codon.normalize t.codon

/-- The tables and figures of a usage agree with the tokens and with each other. -/
structure Conserves (u : Usage) (tokens : List Token) : Prop where
  total : u.total = tokens.length
  codons : u.codons.Counts (codonsOf tokens)
  codons_total : u.codons.total = u.total
  opcodes : u.opcodes.Counts (tokens.filterMap fun t => Codon.opcode? t.codon)
  opcodes_get (op : Opcode) : u.opcodes.get op = u.codons.sumOf (op.codons.map Codon.toText)
  opcodes_mem (op : Opcode) :
    op ∈ u.opcodes.map Prod.fst ↔ u.codons.sumOf (op.codons.map Codon.toText) ≠ 0
  boxes : u.boxes.Counts ((codonsOf tokens).map (·.take 2))
  boxes_total : u.boxes.total = u.total
  boxes_count : ∀ e ∈ u.boxes, e.2 = Tally.total (u.codons.filter (·.1.take 2 = e.1))
  families : Family.all.foldr (fun f share => u.familyShare f + share) (0 : ℚ) =
    100 * (tokens.countP (fun t => (Codon.read? t.codon).isSome) / tokens.length)
  topCodons : u.codons.Leads (u.codons.top topLength) 5
  topOpcodes : u.opcodes.Leads (u.opcodes.top topLength) 5
  contents : (∃ c ∈ (codonsOf tokens).flatten, c ∈ ['A', 'C', 'G', 'T']) →
    (u.gcContent + u.atContent : ℚ) = 100

variable (tokens : List Token)

theorem filterMap_codonsOf : (codonsOf tokens).filterMap Codon.opcode? =
    tokens.filterMap fun t => Codon.opcode? t.codon := by
  rw [codonsOf, List.filterMap_map]
  exact congrArg (tokens.filterMap ·) (funext fun t => Codon.opcode?_normalize t.codon)

theorem length_codonsOf : (codonsOf tokens).length = tokens.length := List.length_map _

theorem opcodes_eq_ofList : (ofTokens tokens).opcodes =
    .ofList (tokens.filterMap fun t => Codon.opcode? t.codon) := by
  rw [← filterMap_codonsOf]
  rfl

theorem get_opcodes (op : Opcode) : (ofTokens tokens).opcodes.get op =
    (ofTokens tokens).codons.sumOf (op.codons.map Codon.toText) := by
  have hp (codon : List Char) (h : codon ∈ codonsOf tokens) :
      decide (Codon.opcode? codon = some op) = true ↔ codon ∈ op.codons.map Codon.toText := by
    obtain ⟨t, -, rfl⟩ := List.mem_map.mp h
    rw [decide_eq_true_iff, Codon.opcode?_eq_some_iff (Codon.normalize_normalize t.codon)]
  calc (ofTokens tokens).opcodes.get op
    _ = (codonsOf tokens).countP fun codon => Codon.opcode? codon = some op :=
      Tally.get_filterMap (codonsOf tokens) op Codon.opcode?
    _ = (ofTokens tokens).codons.sumOf (op.codons.map Codon.toText) :=
      (Tally.sumOf_ofList (codonsOf tokens) op.nodup_codons hp).symm

theorem boxes_count {e : List Char × Nat} (he : e ∈ (ofTokens tokens).boxes) :
    e.2 = Tally.total ((ofTokens tokens).codons.filter (·.1.take 2 = e.1)) := by
  calc e.2
    _ = (ofTokens tokens).boxes.get e.1 := (Tally.get_of_mem _ he).symm
    _ = (codonsOf tokens).countP (·.take 2 = e.1) := Tally.get_map (codonsOf tokens) e.1 (·.take 2)
    _ = Tally.total ((ofTokens tokens).codons.filter (·.1.take 2 = e.1)) :=
      (Tally.total_filter_ofList (codonsOf tokens) (·.take 2 = e.1)).symm

section Families

theorem familyCount_eq (f : Family) : (ofTokens tokens).familyCount f =
    (Tally.ofList ((tokens.filterMap fun t => Codon.opcode? t.codon).map Opcode.family)).get f := by
  rw [Tally.get_map, familyCount, opcodes_eq_ofList]
  exact Tally.total_filter_ofList _ fun op : Opcode => op.family = f

theorem sum_percent {β : Type} (count : β → Nat) (whole : Nat) (parts : List β) :
    parts.foldr (fun b share => percent (count b) whole + share) (0 : ℚ) =
      percent (parts.foldr (fun b n => count b + n) 0) whole := by
  induction parts with
  | nil => simp [percent_eq]
  | cons b parts ih => rw [List.foldr_cons, List.foldr_cons, ih, percent_add]

theorem sum_familyShare :
    Family.all.foldr (fun f share => (ofTokens tokens).familyShare f + share) (0 : ℚ) =
      100 * (tokens.countP (fun t => (Codon.read? t.codon).isSome) / tokens.length) := by
  let ops := tokens.filterMap fun t => Codon.opcode? t.codon
  have hsum : Family.all.foldr (fun f n => (ofTokens tokens).familyCount f + n) 0 = ops.length := by
    have hall (f : Family) (_ : f ∈ ops.map Opcode.family) : true = true ↔ f ∈ Family.all := by
      cases f <;> decide
    have h := Tally.sumOf_ofList (ops.map Opcode.family) (by decide) hall
    rw [List.countP_true, List.length_map] at h
    simp only [familyCount_eq]
    exact h
  have hknown : ops.length = tokens.countP fun t => (Codon.read? t.codon).isSome := by
    rw [← List.countP_true, List.countP_filterMap]
    refine List.countP_congr ?_
    intro t _
    rw [Codon.opcode?]
    cases Codon.read? t.codon <;> simp
  have hshare := sum_percent (ofTokens tokens).familyCount (ofTokens tokens).total Family.all
  rw [hsum, hknown, percent_eq, mul_comm] at hshare
  rw [← length_codonsOf tokens]
  exact hshare

end Families

theorem gcContent_add_atContent {c : Char} (hc : c ∈ (codonsOf tokens).flatten)
    (hb : c ∈ ['A', 'C', 'G', 'T']) :
    ((ofTokens tokens).gcContent + (ofTokens tokens).atContent : ℚ) = 100 := by
  have hpos : 0 < (ofTokens tokens).strong + (ofTokens tokens).weak := by
    have hstrong : (c = 'G' ∨ c = 'C') → 0 < (ofTokens tokens).strong := by
      intro h
      exact List.countP_pos_iff.mpr ⟨c, hc, by simpa using h⟩
    have hweak : (c = 'A' ∨ c = 'T') → 0 < (ofTokens tokens).weak := by
      intro h
      exact List.countP_pos_iff.mpr ⟨c, hc, by simpa using h⟩
    simp only [List.mem_cons, List.not_mem_nil, or_false] at hb
    rcases hb with rfl | rfl | rfl | rfl
    · exact Nat.add_pos_right _ (hweak (.inl rfl))
    · exact Nat.add_pos_left (hstrong (.inr rfl)) _
    · exact Nat.add_pos_left (hstrong (.inl rfl)) _
    · exact Nat.add_pos_right _ (hweak (.inr rfl))
  rw [gcContent, atContent, ← percent_add, Nat.max_eq_left hpos, percent_eq, div_self, one_mul]
  exact Nat.cast_ne_zero.mpr (by omega)

/-- Whatever the codons of a token stream are, its tables count every one of them. -/
theorem conserves_ofTokens : (ofTokens tokens).Conserves tokens where
  total := length_codonsOf tokens
  codons := Tally.counts_ofList _
  codons_total := Tally.total_ofList _
  opcodes := by
    rw [opcodes_eq_ofList]
    exact Tally.counts_ofList _
  opcodes_get := get_opcodes tokens
  opcodes_mem op := by
    rw [← get_opcodes, opcodes_eq_ofList, (Tally.counts_ofList _).mem_iff, Tally.get_ofList,
      ← List.count_pos_iff, Nat.pos_iff_ne_zero]
  boxes := Tally.counts_ofList _
  boxes_total := (Tally.total_ofList _).trans (List.length_map _)
  boxes_count _ := boxes_count tokens
  families := sum_familyShare tokens
  topCodons := Tally.leads_top _ _
  topOpcodes := Tally.leads_top _ _
  contents := by
    rintro ⟨c, hc, hb⟩
    exact gcContent_add_atContent tokens hc hb

end Usage

end Triplet
