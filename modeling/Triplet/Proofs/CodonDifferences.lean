import Triplet.Genome.Comparison
import Triplet.Proofs.DistanceRows
import Triplet.Proofs.ReadingFrame
import Triplet.Similarity.Basic

/-! # The differences of two genomes

The codons of two genomes are compared place by place, with an empty codon where one genome has
ended. A strand is never cut into an empty piece, so that an empty codon stands for the end and for
nothing else. Hence the differences are all that is needed to make the second genome from the first,
there are none exactly if the strands are equal, and then no edit leads from one to the other.
-/

namespace Triplet

namespace Genome

/-- The codon at a place, empty where the genome has ended. -/
def codonAt (codons : List (List Char)) (place : Nat) : List Char := codons[place]?.getD []

def Difference.swap (d : Difference) : Difference := ⟨d.place, d.after, d.before⟩

/-- Write the later codon of every difference over what stands at its place. -/
def overwrite (codons : List (List Char)) (differences : List Difference) : List (List Char) :=
  differences.foldl (fun codons d => codons.set d.place d.after) codons

/-- A comparison lists the differences of its codons by place: each place where the codons differ,
with both of them. Written over the first codons, they give the second ones. -/
structure Comparison.Exact (c : Comparison) : Prop where
  increasing : c.differences.Pairwise (·.place < ·.place)
  below : ∀ d ∈ c.differences, d.place < c.length
  mem_iff : ∀ d, d ∈ c.differences ↔
    d.before = codonAt c.before d.place ∧ d.after = codonAt c.after d.place ∧ d.before ≠ d.after
  overwritten : (overwrite (c.before.rightpad c.length []) c.differences).filter (· ≠ []) = c.after

section Listing

variable (a b : List (List Char)) (place : Nat)

def differenceAt : Difference := ⟨place, codonAt a place, codonAt b place⟩

theorem codonAt_drop : codonAt (a.drop place) 0 = codonAt a place := by
  simp [codonAt]

theorem differencesFrom_step (h : 0 < max a.length b.length) :
    differencesFrom place a b =
      differencesFrom.at? place (codonAt a 0) (codonAt b 0) ++
        differencesFrom (place + 1) a.tail b.tail := by
  rcases a with _ | ⟨x, a⟩
  · rcases b with _ | ⟨y, b⟩
    · simp at h
    · rw [differencesFrom]
      rfl
  · rcases b with _ | ⟨y, b⟩ <;> rw [differencesFrom] <;> rfl

theorem differencesFrom_drop {count : Nat} (h : place + count = max a.length b.length) :
    differencesFrom place (a.drop place) (b.drop place) =
      ((List.range' place count).filter fun i => codonAt a i ≠ codonAt b i).map
        (differenceAt a b) := by
  induction count generalizing place with
  | zero =>
    rw [List.drop_eq_nil_of_le (by omega), List.drop_eq_nil_of_le (by omega), differencesFrom]
    rfl
  | succ count ih =>
    have hpos : 0 < max (a.drop place).length (b.drop place).length := by
      simp only [List.length_drop]
      omega
    rw [differencesFrom_step _ _ _ hpos, codonAt_drop, codonAt_drop, List.tail_drop,
      List.tail_drop, ih (place + 1) (by omega), List.range'_succ, List.filter_cons]
    by_cases hd : codonAt a place = codonAt b place
    · rw [differencesFrom.at?, if_pos hd, if_neg (by simpa using hd), List.nil_append]
    · rw [differencesFrom.at?, if_neg hd, if_pos (by simpa using hd)]
      rfl

variable {a b} {i : Nat} {d : Difference}

theorem lt_of_codonAt_ne (h : codonAt a i ≠ codonAt b i) : i < max a.length b.length := by
  apply Nat.lt_of_not_le
  intro hle
  have ha : a[i]? = none := List.getElem?_eq_none (by omega)
  have hb : b[i]? = none := List.getElem?_eq_none (by omega)
  simp [codonAt, ha, hb] at h

theorem differencesFrom_zero :
    differencesFrom 0 a b = ((List.range' 0 (max a.length b.length)).filter
      fun i => codonAt a i ≠ codonAt b i).map (differenceAt a b) :=
  differencesFrom_drop a b 0 (Nat.zero_add _)

theorem pairwise_differences : (differencesFrom 0 a b).Pairwise (·.place < ·.place) := by
  rw [differencesFrom_zero, List.pairwise_map]
  exact List.Pairwise.filter _ List.pairwise_lt_range'

theorem mem_differences_iff :
    d ∈ differencesFrom 0 a b ↔
      d.before = codonAt a d.place ∧ d.after = codonAt b d.place ∧ d.before ≠ d.after := by
  simp only [differencesFrom_zero, List.mem_map, List.mem_filter, List.mem_range'_1,
    decide_eq_true_eq]
  constructor
  · rintro ⟨i, ⟨-, hne⟩, rfl⟩
    exact ⟨rfl, rfl, hne⟩
  · rintro ⟨hb, ha, hne⟩
    rw [hb, ha] at hne
    have hlt := lt_of_codonAt_ne hne
    exact ⟨d.place, ⟨by omega, hne⟩, by rw [differenceAt, ← hb, ← ha]⟩

theorem swap_differences : (differencesFrom 0 a b).map Difference.swap = differencesFrom 0 b a := by
  rw [differencesFrom_zero, differencesFrom_zero, List.map_map, Nat.max_comm]
  simp only [ne_comm]
  rfl

end Listing

section Overwriting

variable {codons : List (List Char)} {ds : List Difference} {d : Difference} {i : Nat}

theorem getElem?_overwrite_of_ne (h : ∀ d ∈ ds, d.place ≠ i) :
    (overwrite codons ds)[i]? = codons[i]? := by
  induction ds generalizing codons with
  | nil => rfl
  | cons e ds ih =>
    have he : (codons.set e.place e.after)[i]? = codons[i]? :=
      List.getElem?_set_ne (h e (by simp))
    rw [← he]
    exact ih fun d hd => h d (by simp [hd])

/-- No later difference is written over an earlier one. -/
theorem getElem?_overwrite_of_mem (hp : ds.Pairwise (·.place < ·.place)) (hd : d ∈ ds)
    (hl : d.place < codons.length) : (overwrite codons ds)[d.place]? = some d.after := by
  induction ds generalizing codons with
  | nil => cases hd
  | cons e ds ih =>
    obtain ⟨he, hp⟩ := List.pairwise_cons.mp hp
    rcases List.mem_cons.mp hd with rfl | hd
    · have hset : (codons.set d.place d.after)[d.place]? = some d.after := by
        simp [hl]
      rw [← hset]
      exact getElem?_overwrite_of_ne fun e hmem => (he e hmem).ne'
    · exact ih hp hd (by simpa using hl)

theorem getElem?_rightpad {n : Nat} (h : codons.length ≤ n) :
    (codons.rightpad n [])[i]? = if i < n then some (codonAt codons i) else none := by
  unfold List.rightpad codonAt
  by_cases hi : i < codons.length
  · have hn : i < n := Nat.lt_of_lt_of_le hi h
    rw [List.getElem?_append_left hi]
    simp [hi, hn]
  · rw [List.getElem?_append_right (by omega), List.getElem?_replicate,
      List.getElem?_eq_none (by omega)]
    by_cases hn : i < n
    · rw [if_pos (by omega), if_pos hn]
      rfl
    · rw [if_neg (by omega), if_neg hn]

/-- With the ends filled up, the differences turn the codons of one genome into those of another. -/
theorem overwrite_differences (a b : List (List Char)) :
    overwrite (a.rightpad (max a.length b.length) []) (differencesFrom 0 a b) =
      b.rightpad (max a.length b.length) [] := by
  apply List.ext_getElem?
  intro i
  -- A place that is not listed keeps its codon, and the other genome has the same one there.
  by_cases h : codonAt a i = codonAt b i
  · rw [getElem?_overwrite_of_ne, getElem?_rightpad (Nat.le_max_left _ _),
      getElem?_rightpad (Nat.le_max_right _ _), h]
    rintro d hd rfl
    obtain ⟨ha, hb, hne⟩ := mem_differences_iff.mp hd
    exact hne (ha.trans (h.trans hb.symm))
  · have hi := lt_of_codonAt_ne h
    have hd : differenceAt a b i ∈ differencesFrom 0 a b := mem_differences_iff.mpr ⟨rfl, rfl, h⟩
    rw [getElem?_rightpad (Nat.le_max_right _ _), if_pos hi]
    refine getElem?_overwrite_of_mem pairwise_differences hd ?_
    change i < _
    rw [List.rightpad, List.length_append, List.length_replicate]
    omega

theorem filter_rightpad (h : ∀ codon ∈ codons, codon ≠ []) (n : Nat) :
    (codons.rightpad n []).filter (· ≠ []) = codons := by
  rw [List.rightpad, List.filter_append, List.filter_eq_self.mpr (by simpa using h),
    List.filter_replicate]
  simp

end Overwriting

theorem ne_nil_of_mem_triples {α : Type} {strand codon : List α} (h : codon ∈ triples strand) :
    codon ≠ [] := by
  fun_induction triples strand with
  | case1 a b c rest ih =>
    rcases List.mem_cons.mp h with rfl | h
    · simp
    · exact ih h
  | case2 => cases h
  | case3 rest hlong hnil =>
    obtain rfl := List.mem_singleton.mp h
    exact hnil

theorem ne_nil_of_mem_split {text codon : List Char} (h : codon ∈ split text) : codon ≠ [] :=
  ne_nil_of_mem_triples h

theorem split_eq_iff {text text' : List Char} :
    split text = split text' ↔ clean text = clean text' := by
  constructor
  · intro h
    have hf := congrArg List.flatten h
    rwa [split, split, flatten_triples, flatten_triples] at hf
  · intro h
    rw [split, split, h]

theorem filter_overwritten (a b : List Char) :
    (overwrite ((split a).rightpad (max (split a).length (split b).length) [])
      (differencesFrom 0 (split a) (split b))).filter (· ≠ []) = split b := by
  rw [overwrite_differences, filter_rightpad fun _ => ne_nil_of_mem_split]

theorem exact_ofTexts (a b : List Char) : (Comparison.ofTexts a b).Exact where
  increasing := pairwise_differences
  below d hd := by
    obtain ⟨hb, ha, hne⟩ := mem_differences_iff.mp hd
    rw [hb, ha] at hne
    exact lt_of_codonAt_ne hne
  mem_iff _ := mem_differences_iff
  overwritten := filter_overwritten a b

theorem differences_eq_nil_iff (a b : List Char) :
    differencesFrom 0 (split a) (split b) = [] ↔ clean a = clean b := by
  rw [← split_eq_iff]
  constructor
  · intro h
    -- With nothing to write over, the codons of the first genome are those of the second.
    have ho := filter_overwritten a b
    rw [h] at ho
    exact (filter_rightpad (fun _ => ne_nil_of_mem_split) _).symm.trans ho
  · intro h
    rw [List.eq_nil_iff_forall_not_mem]
    intro d hd
    obtain ⟨hb, ha, hne⟩ := mem_differences_iff.mp hd
    exact hne (by rw [hb, ha, h])

/-- The differences of two genomes are exactly the places where the codons differ. They turn the
codons of the first genome into those of the second, and are the same the other way round. There are
none exactly if the strands are equal, which is to say that their edit distance is zero. -/
theorem comparison_exact (a b : List Char) :
    ((Comparison.ofTexts a b).before = split a ∧ (Comparison.ofTexts a b).after = split b) ∧
      (Comparison.ofTexts a b).Exact ∧
      (Comparison.ofTexts b a).differences =
        (Comparison.ofTexts a b).differences.map Difference.swap ∧
      ((Comparison.ofTexts a b).differences = [] ↔ clean a = clean b) ∧
      (clean a = clean b ↔ (Similarity.ofTexts a b).distance = 0) :=
  ⟨⟨rfl, rfl⟩, exact_ofTexts a b, swap_differences.symm, differences_eq_nil_iff a b,
    (editDistance_eq_zero_iff _ _).symm⟩

end Genome

end Triplet
