import Mathlib.Tactic.Ring
import Triplet.Proofs.UsageCounts

/-! # Likeness of usages

Two usages are compared by some of their figures: shares in percent, and the number of different
opcodes for each codon, which is at most one. The likeness is one hundred less a mean of the
differences with positive weights; so it does not depend on the order, lies between zero and one
hundred, and is one hundred only if all differences are zero.
-/

namespace Triplet

theorem length_firstSeen_le {α : Type} [DecidableEq α] (items : List α) :
    (firstSeen items).length ≤ items.length := by
  induction items with
  | nil => exact Nat.le_refl 0
  | cons a rest ih =>
    rw [firstSeen, List.length_cons, List.length_cons]
    exact Nat.succ_le_succ ((List.length_filter_le _ _).trans ih)

theorem abs_sub_le_of_mem {x y bound : ℚ} (hx : 0 ≤ x ∧ x ≤ bound) (hy : 0 ≤ y ∧ y ≤ bound) :
    |x - y| ≤ bound := by
  rw [abs_le]
  constructor <;> linarith

namespace Usage

section Bounds

variable (tokens : List Token)

theorem familyCount_le_total (f : Family) :
    (ofTokens tokens).familyCount f ≤ (ofTokens tokens).total := by
  rw [familyCount_eq, Tally.get_ofList]
  refine List.count_le_length.trans ?_
  rw [List.length_map]
  exact (List.length_filterMap_le _ _).trans_eq (length_codonsOf tokens).symm

theorem variety_le_total : (ofTokens tokens).variety ≤ (ofTokens tokens).total := by
  have hlength : (ofTokens tokens).variety =
      (firstSeen ((codonsOf tokens).filterMap Codon.opcode?)).length := List.length_map _
  rw [hlength]
  exact (length_firstSeen_le _).trans (List.length_filterMap_le _ _)

theorem familyShare_mem (f : Family) : 0 ≤ ((ofTokens tokens).familyShare f : ℚ) ∧
    ((ofTokens tokens).familyShare f : ℚ) ≤ 100 :=
  ⟨zero_le_percent _ _, percent_le_hundred (familyCount_le_total tokens f)⟩

theorem gcContent_mem : 0 ≤ ((ofTokens tokens).gcContent : ℚ) ∧
    ((ofTokens tokens).gcContent : ℚ) ≤ 100 :=
  ⟨zero_le_percent _ _, percent_le_hundred (by omega)⟩

theorem complexity_mem : 0 ≤ ((ofTokens tokens).complexity : ℚ) ∧
    ((ofTokens tokens).complexity : ℚ) ≤ 1 :=
  ⟨zero_le_ratio _ _, ratio_le_one (variety_le_total tokens)⟩

end Bounds

section Weights

variable (a b : Usage)

def shareGap (f : Family) : ℚ := |a.familyShare f - b.familyShare f|

def contentGap : ℚ := |a.gcContent - b.gcContent|

def complexityGap : ℚ := |a.complexity - b.complexity|

theorem likeness_eq : (likeness a b : ℚ) = 100 -
    (27 / 100 * shareGap a b .drawing + 19 / 100 * shareGap a b .transform +
      1 / 10 * shareGap a b .stack + 3 / 40 * shareGap a b .control +
      3 / 40 * shareGap a b .utility + 1 / 5 * contentGap a b + 9 * complexityGap a b) := by
  simp only [likeness, nearness, gap_eq, shareGap, contentGap, complexityGap]
  norm_num
  ring

theorem likeness_comm : (likeness a b : ℚ) = likeness b a := by
  have hf (f : Family) : shareGap a b f = shareGap b a f := abs_sub_comm _ _
  have hg : contentGap a b = contentGap b a := abs_sub_comm _ _
  have hx : complexityGap a b = complexityGap b a := abs_sub_comm _ _
  simp only [likeness_eq, hf, hg, hx]

structure SameProfile : Prop where
  drawing : (a.familyShare .drawing : ℚ) = b.familyShare .drawing
  transform : (a.familyShare .transform : ℚ) = b.familyShare .transform
  stack : (a.familyShare .stack : ℚ) = b.familyShare .stack
  control : (a.familyShare .control : ℚ) = b.familyShare .control
  utility : (a.familyShare .utility : ℚ) = b.familyShare .utility
  content : (a.gcContent : ℚ) = b.gcContent
  complexity : (a.complexity : ℚ) = b.complexity

theorem shareGap_nonneg (f : Family) : 0 ≤ shareGap a b f := abs_nonneg _

theorem contentGap_nonneg : 0 ≤ contentGap a b := abs_nonneg _

theorem complexityGap_nonneg : 0 ≤ complexityGap a b := abs_nonneg _

theorem likeness_le_hundred : (likeness a b : ℚ) ≤ 100 := by
  rw [likeness_eq]
  have hf := shareGap_nonneg a b
  linarith [hf .drawing, hf .transform, hf .stack, hf .control, hf .utility,
    contentGap_nonneg a b, complexityGap_nonneg a b]

theorem likeness_eq_hundred_iff : (likeness a b : ℚ) = 100 ↔ SameProfile a b := by
  have hf := shareGap_nonneg a b
  have hg := contentGap_nonneg a b
  have hx := complexityGap_nonneg a b
  rw [likeness_eq]
  constructor
  · intro h
    -- A sum of terms that are not negative is zero only if all of them are.
    have zero {x y : ℚ} (h : |x - y| ≤ 0) : x = y := sub_eq_zero.mp (abs_nonpos_iff.mp h)
    have hd := hf .drawing
    have ht := hf .transform
    have hs := hf .stack
    have hc := hf .control
    have hu := hf .utility
    exact {
      drawing := zero (show shareGap a b .drawing ≤ 0 by linarith)
      transform := zero (show shareGap a b .transform ≤ 0 by linarith)
      stack := zero (show shareGap a b .stack ≤ 0 by linarith)
      control := zero (show shareGap a b .control ≤ 0 by linarith)
      utility := zero (show shareGap a b .utility ≤ 0 by linarith)
      content := zero (show contentGap a b ≤ 0 by linarith)
      complexity := zero (show complexityGap a b ≤ 0 by linarith) }
  · intro h
    simp only [shareGap, contentGap, complexityGap, h.drawing, h.transform, h.stack, h.control,
      h.utility, h.content, h.complexity, sub_self, abs_zero]
    norm_num

end Weights

variable (s t : List Token)

theorem zero_le_likeness : 0 ≤ ((ofTokens s).likeness (ofTokens t) : ℚ) := by
  have hf (f : Family) : shareGap (ofTokens s) (ofTokens t) f ≤ 100 :=
    abs_sub_le_of_mem (familyShare_mem s f) (familyShare_mem t f)
  have hg : contentGap (ofTokens s) (ofTokens t) ≤ 100 :=
    abs_sub_le_of_mem (gcContent_mem s) (gcContent_mem t)
  have hx : complexityGap (ofTokens s) (ofTokens t) ≤ 1 :=
    abs_sub_le_of_mem (complexity_mem s) (complexity_mem t)
  rw [likeness_eq]
  linarith [hf .drawing, hf .transform, hf .stack, hf .control, hf .utility]

/-- The likeness of the usages of two token streams is symmetric and lies between zero and one
hundred; it is one hundred exactly if the compared figures agree. -/
theorem likeness_symmetric_bounded :
    ((ofTokens s).likeness (ofTokens t) : ℚ) = (ofTokens t).likeness (ofTokens s) ∧
      0 ≤ ((ofTokens s).likeness (ofTokens t) : ℚ) ∧
      ((ofTokens s).likeness (ofTokens t) : ℚ) ≤ 100 ∧
      (((ofTokens s).likeness (ofTokens t) : ℚ) = 100 ↔
        SameProfile (ofTokens s) (ofTokens t)) :=
  ⟨likeness_comm _ _, zero_le_likeness s t, likeness_le_hundred _ _, likeness_eq_hundred_iff _ _⟩

end Usage

end Triplet
