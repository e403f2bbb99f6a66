import Triplet.Proofs.DistanceRows
import Triplet.Proofs.ExactShares
import Triplet.Proofs.LongestRun
import Triplet.Proofs.Thresholds

/-! # Similar genomes

The edit distance and the longest common run are computed from rows that treat the two strands
differently, and of several longest runs the one is taken that comes first in the first strand. Its
length does not depend on the order all the same, as it is the greatest length of a common run; so
the similarity of two genomes is the same both ways. The common run is the whole of a strand exactly
if the other strand contains it.
-/

namespace Triplet

section CommonRun

variable {α : Type} [DecidableEq α] (a b : List α)

theorem length_commonRun_comm : (commonRun a b).length = (commonRun b a).length := by
  have hab := longestRun_commonRun a b
  have hba := longestRun_commonRun b a
  exact Nat.le_antisymm (hba.longest _ hab.right hab.left) (hab.longest _ hba.right hba.left)

example : commonRun "ACGT".toList "GTAC".toList = "AC".toList ∧
    commonRun "GTAC".toList "ACGT".toList = "GT".toList := by
  decide

theorem length_commonRun_eq_iff : (commonRun a b).length = a.length ↔ a <:+: b := by
  have hrun := longestRun_commonRun a b
  constructor
  · intro h
    rw [← hrun.left.eq_of_length h]
    exact hrun.right
  · intro h
    exact Nat.le_antisymm hrun.left.length_le (hrun.longest a List.infix_rfl h)

end CommonRun

namespace Similarity

open Genome

variable (a b : List Char)

theorem greater_eq_max (x y : ℚ) : greater x y = max x y := by
  unfold greater
  split
  · exact (max_eq_right (le_of_lt ‹_›)).symm
  · exact (max_eq_left (le_of_not_gt ‹_›)).symm

section Symmetry

structure Agrees (s s' : Similarity) : Prop where
  distance : s.distance = s'.distance
  common : s.common.length = s'.common.length
  editSimilarity : (s.editSimilarity : ℚ) = s'.editSimilarity
  commonRatio : (s.commonRatio : ℚ) = s'.commonRatio
  isSimilar : ∀ threshold : ℚ, s.isSimilar threshold = s'.isSimilar threshold

theorem length_common_comm : (ofTexts a b).common.length = (ofTexts b a).common.length :=
  length_commonRun_comm (clean a) (clean b)

theorem editSimilarity_comm :
    ((ofTexts a b).editSimilarity : ℚ) = (ofTexts b a).editSimilarity := by
  have hd : (ofTexts a b).distance = (ofTexts b a).distance := editDistance_comm _ _
  have hl : (ofTexts a b).longest = (ofTexts b a).longest := Nat.max_comm _ _
  rw [Similarity.editSimilarity, Similarity.editSimilarity, hd, hl]

theorem commonRatio_comm : ((ofTexts a b).commonRatio : ℚ) = (ofTexts b a).commonRatio := by
  unfold Similarity.commonRatio
  rw [greater_eq_max, greater_eq_max, length_common_comm, max_comm]
  rfl

theorem agrees_ofTexts : (ofTexts a b).Agrees (ofTexts b a) where
  distance := editDistance_comm _ _
  common := length_common_comm a b
  editSimilarity := editSimilarity_comm a b
  commonRatio := commonRatio_comm a b
  isSimilar threshold := by
    unfold Similarity.isSimilar
    rw [editSimilarity_comm, commonRatio_comm]

end Symmetry

section Bounds

theorem distance_le_longest : (ofTexts a b).distance ≤ (ofTexts a b).longest :=
  editDistance_le_max (clean a) (clean b)

theorem editSimilarity_eq :
    ((ofTexts a b).editSimilarity : ℚ) =
      1 - ratio (ofTexts a b).distance (ofTexts a b).longest := by
  rw [editSimilarity, decimal_one]

theorem editSimilarity_mem : 0 ≤ ((ofTexts a b).editSimilarity : ℚ) ∧
    ((ofTexts a b).editSimilarity : ℚ) ≤ 1 := by
  rw [editSimilarity_eq]
  have hle := ratio_le_one (distance_le_longest a b)
  have hnn := zero_le_ratio (ofTexts a b).distance (ofTexts a b).longest
  exact ⟨sub_nonneg.mpr hle, sub_le_self 1 hnn⟩

theorem editSimilarity_eq_one_iff :
    ((ofTexts a b).editSimilarity : ℚ) = 1 ↔ clean a = clean b := by
  have hle := distance_le_longest a b
  rw [editSimilarity_eq, sub_eq_self, ratio_eq_zero_iff, ← editDistance_eq_zero_iff]
  constructor
  · rintro (h | h)
    · exact h
    · exact Nat.le_zero.mp (h ▸ hle)
  · exact .inl

theorem length_common_le : (ofTexts a b).common.length ≤ (ofTexts a b).lengthA ∧
    (ofTexts a b).common.length ≤ (ofTexts a b).lengthB :=
  have hrun := longestRun_commonRun (clean a) (clean b)
  ⟨hrun.left.length_le, hrun.right.length_le⟩

theorem commonRatio_mem : 0 ≤ ((ofTexts a b).commonRatio : ℚ) ∧
    ((ofTexts a b).commonRatio : ℚ) ≤ 1 := by
  obtain ⟨hA, hB⟩ := length_common_le a b
  rw [commonRatio, greater_eq_max]
  exact ⟨le_max_of_le_left (zero_le_ratio _ _), max_le (ratio_le_one hA) (ratio_le_one hB)⟩

theorem commonRatio_eq_one_iff :
    ((ofTexts a b).commonRatio : ℚ) = 1 ↔
      clean a ≠ [] ∧ clean a <:+: clean b ∨ clean b ≠ [] ∧ clean b <:+: clean a := by
  obtain ⟨hA, hB⟩ := length_common_le a b
  have hleft : (ratio (ofTexts a b).common.length (ofTexts a b).lengthA : ℚ) = 1 ↔
      clean a ≠ [] ∧ clean a <:+: clean b := by
    rw [ratio_eq_one_iff, ← length_commonRun_eq_iff, ← List.length_eq_zero_iff.ne]
    rfl
  have hright : (ratio (ofTexts a b).common.length (ofTexts a b).lengthB : ℚ) = 1 ↔
      clean b ≠ [] ∧ clean b <:+: clean a := by
    rw [ratio_eq_one_iff, length_common_comm, ← length_commonRun_eq_iff,
      ← List.length_eq_zero_iff.ne]
    rfl
  rw [commonRatio, greater_eq_max, ← hleft, ← hright]
  constructor
  · intro h
    rcases max_choice (ratio (ofTexts a b).common.length (ofTexts a b).lengthA : ℚ)
      (ratio (ofTexts a b).common.length (ofTexts a b).lengthB) with hm | hm
    · exact .inl (hm ▸ h)
    · exact .inr (hm ▸ h)
  · rintro (h | h)
    · rw [h, max_eq_left (ratio_le_one hB)]
    · rw [h, max_eq_right (ratio_le_one hA)]

end Bounds

/-- Every number from zero to one is accepted as a threshold. Similarity does not depend on the
order of the genomes, and its ratios are parts of one. The common run is a whole strand exactly if
one of two strands with letters contains the other; and the genomes need no edit exactly if their
strands are equal. -/
theorem ofTexts_comm_and_contains :
    (∀ (v : Value) (n : Number) (q : ℚ), v.toNumber = .ok n → n.rational? = some q → 0 ≤ q → q ≤ 1 →
        ∃ t, readThreshold v = .ok (.ok t) ∧ (Number.real t).rational? = some q) ∧
      (ofTexts a b).Agrees (ofTexts b a) ∧
      (0 ≤ ((ofTexts a b).editSimilarity : ℚ) ∧ ((ofTexts a b).editSimilarity : ℚ) ≤ 1) ∧
      (0 ≤ ((ofTexts a b).commonRatio : ℚ) ∧ ((ofTexts a b).commonRatio : ℚ) ≤ 1) ∧
      (((ofTexts a b).commonRatio : ℚ) = 1 ↔ clean a ≠ [] ∧ clean b ≠ [] ∧
        (clean a <:+: clean b ∨ clean b <:+: clean a)) ∧
      (((ofTexts a b).editSimilarity : ℚ) = 1 ↔ clean a = clean b) := by
  refine ⟨fun _ _ _ => readThreshold_of_rational, agrees_ofTexts a b, editSimilarity_mem a b,
    commonRatio_mem a b, ?_, editSimilarity_eq_one_iff a b⟩
  rw [commonRatio_eq_one_iff]
  constructor
  · rintro (⟨ha, h⟩ | ⟨hb, h⟩)
    · exact ⟨ha, h.ne_nil ha, .inl h⟩
    · exact ⟨h.ne_nil hb, hb, .inr h⟩
  · rintro ⟨ha, hb, h | h⟩
    · exact .inl ⟨ha, h⟩
    · exact .inr ⟨hb, h⟩

end Similarity

end Triplet
