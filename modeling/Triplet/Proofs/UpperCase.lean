import Triplet.Text.Blank
import Triplet.Text.Case

/-! # Raised characters

A character that occurs in the upper case of another is its own upper case, and it is no blank
unless the other was one. The tables of cases are checked as a whole: the codes that they lead to
and the codes that they start from are sets of bits without a common bit.
-/

namespace Triplet.Text

/-- A set of codes as the bits of a number. -/
def bits (codes : List Nat) : Nat := codes.foldr (fun n m => 1 <<< n ||| m) 0

theorem testBit_bits (codes : List Nat) (n : Nat) :
    (bits codes).testBit n = decide (n ∈ codes) := by
  induction codes with
  | nil => simp [bits]
  | cons a codes ih =>
    have h : bits (a :: codes) = 1 <<< a ||| bits codes := rfl
    rw [h, Nat.testBit_or, ih, Nat.one_shiftLeft, Nat.testBit_two_pow]
    simp [eq_comm]

theorem disjoint_of_bits {codes codes' : List Nat} (h : bits codes &&& bits codes' = 0) {n : Nat}
    (hn : n ∈ codes) : n ∉ codes' := by
  intro hn'
  have ht : (bits codes &&& bits codes').testBit n = true := by
    rw [Nat.testBit_and, testBit_bits, testBit_bits]
    simp [hn, hn']
  simp [h] at ht

namespace CaseRun

def codes (r : CaseRun) : List Nat :=
  (List.range ((r.last - r.first) / r.step + 1)).map (r.first + r.step * ·)

theorem mem_codes_of_covers {r : CaseRun} {n : Nat} (h : r.covers n = true) : n ∈ r.codes := by
  simp only [covers, Bool.and_eq_true, decide_eq_true_eq, beq_iff_eq] at h
  obtain ⟨⟨hf, hl⟩, hm⟩ := h
  refine List.mem_map.mpr ⟨(n - r.first) / r.step, ?_, ?_⟩
  · rw [List.mem_range, Nat.lt_succ_iff]
    exact Nat.div_le_div_right (by omega)
  · have hd := Nat.div_add_mod (n - r.first) r.step
    omega

end CaseRun

def runCodes : List Nat := caseRuns.flatMap CaseRun.codes

def raisedCodes : List Nat :=
  (caseRuns.flatMap fun r => r.codes.map r.shifted) ++ caseExpansions.flatMap (·.2)

/-- The codes that no raised character has: those of characters that are raised themselves, of
blanks and of the semicolon. -/
def unraisedCodes : List Nat :=
  runCodes ++ caseExpansions.map (·.1) ++ List.range' 97 26 ++ List.range 33 ++
    [0x85, 0xA0, 0x1680] ++ List.range' 0x2000 11 ++
    [0x2028, 0x2029, 0x202F, 0x205F, 0x3000, 59]

theorem bits_raisedCodes : bits raisedCodes &&& bits unraisedCodes = 0 := by decide +kernel

theorem valid_raisedCodes : ∀ n ∈ raisedCodes, n.isValidChar := by decide +kernel

theorem mem_unraisedCodes_of_blank {c : Char} (h : isBlank c = true) :
    c.toNat ∈ unraisedCodes := by
  simp only [isBlank, Bool.or_eq_true, Bool.and_eq_true, decide_eq_true_eq, beq_iff_eq] at h
  simp only [unraisedCodes, List.mem_append, List.mem_range, List.mem_range'_1, List.mem_cons]
  omega

theorem upper_eq_self {c : Char} (h : c.toNat ∉ unraisedCodes) : upper c = [c] := by
  simp only [unraisedCodes, List.mem_append, not_or] at h
  obtain ⟨⟨⟨⟨⟨⟨hr, he⟩, ha⟩, -⟩, -⟩, -⟩, -⟩ := h
  have hz : ¬ (c.val ≥ 'a'.val ∧ c.val ≤ 'z'.val) := by
    rintro ⟨hl, hh⟩
    have hl : 97 ≤ c.toNat := hl
    have hh : c.toNat ≤ 122 := hh
    exact ha (List.mem_range'_1.mpr ⟨hl, by omega⟩)
  have hu : c.toUpper = c := dif_neg hz
  have hl : caseExpansions.lookup c.toNat = none := by
    rw [List.lookup_eq_none_iff]
    rintro ⟨n, codes⟩ hn
    simp only [bne_iff_ne]
    rintro rfl
    exact he (List.mem_map.mpr ⟨_, hn, rfl⟩)
  have hf : caseRuns.find? (·.covers c.toNat) = none := by
    rw [List.find?_eq_none]
    intro r hr' hc
    exact hr (List.mem_flatMap.mpr ⟨r, hr', CaseRun.mem_codes_of_covers hc⟩)
  rw [upper, hu, hl, hf]
  simp

/-- A character that is its own upper case and has a meaning in a line. -/
structure Raised (c : Char) : Prop where
  upper : upper c = [c]
  blank : isBlank c = false
  semicolon : c ≠ ';'

theorem raised_of_mem_raisedCodes {n : Nat} (h : n ∈ raisedCodes) : Raised (Char.ofNat n) := by
  have hn : (Char.ofNat n).toNat = n := by
    rw [Char.ofNat, dif_pos (valid_raisedCodes n h)]
    rfl
  have hu : (Char.ofNat n).toNat ∉ unraisedCodes := by
    rw [hn]
    exact disjoint_of_bits bits_raisedCodes h
  refine ⟨upper_eq_self hu, ?_, ?_⟩
  · rw [Bool.eq_false_iff]
    exact fun hb => hu (mem_unraisedCodes_of_blank hb)
  · intro hs
    rw [hs] at hu
    exact hu (List.mem_append_right _ (by decide))

theorem raised_toUpper {c : Char} (h : c.toNat < 128) (hb : isBlank c = false) (hs : c ≠ ';') :
    Raised c.toUpper := by
  -- Few enough characters to go through all of them.
  have key : ∀ n < 128, isBlank (Char.ofNat n) = false → Char.ofNat n ≠ ';' →
      upper (Char.ofNat n).toUpper = [(Char.ofNat n).toUpper] ∧
      isBlank (Char.ofNat n).toUpper = false ∧ (Char.ofNat n).toUpper ≠ ';' := by
    decide +kernel
  have h' := key c.toNat h
  rw [Char.ofNat_toNat] at h'
  obtain ⟨h₁, h₂, h₃⟩ := h' hb hs
  exact ⟨h₁, h₂, h₃⟩

theorem mem_caseExpansions_of_lookup {n : Nat} {codes : List Nat}
    (h : caseExpansions.lookup n = some codes) : (n, codes) ∈ caseExpansions := by
  obtain ⟨before, after, he, -⟩ := List.lookup_eq_some_iff.mp h
  simp [he]

theorem raised_of_mem_upper {c d : Char} (h : d ∈ upper c) (hb : isBlank c = false)
    (hs : c ≠ ';') : Raised d := by
  by_cases ha : c.toNat < 128
  · rw [upper, if_pos ha, List.mem_singleton] at h
    exact h ▸ raised_toUpper ha hb hs
  cases hl : caseExpansions.lookup c.toNat with
  | some codes =>
    rw [upper, if_neg ha, hl] at h
    obtain ⟨n, hn, rfl⟩ := List.mem_map.mp h
    have hm : n ∈ caseExpansions.flatMap (·.2) :=
      List.mem_flatMap.mpr ⟨_, mem_caseExpansions_of_lookup hl, hn⟩
    exact raised_of_mem_raisedCodes (List.mem_append_right _ hm)
  | none =>
    cases hf : caseRuns.find? (·.covers c.toNat) with
    | some r =>
      have hc : r.covers c.toNat = true := by simpa using List.find?_some hf
      have hm : r.shifted c.toNat ∈ r.codes.map r.shifted :=
        List.mem_map.mpr ⟨_, CaseRun.mem_codes_of_covers hc, rfl⟩
      rw [upper, if_neg ha, hl, hf] at h
      obtain rfl := List.mem_singleton.mp h
      exact raised_of_mem_raisedCodes
        (List.mem_append_left _ (List.mem_flatMap.mpr ⟨r, List.mem_of_find?_eq_some hf, hm⟩))
    | none =>
      have hu : upper c = [c] := by rw [upper, if_neg ha, hl, hf]
      obtain rfl : d = c := by simpa [hu] using h
      exact ⟨hu, hb, hs⟩

def dividerCodes : List Nat :=
  List.range 33 ++ [59, 0x85, 0xA0, 0x1680] ++ List.range' 0x2000 11 ++
    [0x2028, 0x2029, 0x202F, 0x205F, 0x3000]

theorem upper_dividers : ∀ n ∈ dividerCodes, upper (Char.ofNat n) = [Char.ofNat n] := by
  decide +kernel

theorem upper_of_divider {c : Char} (h : isBlank c = true ∨ c = ';') : upper c = [c] := by
  have hc : c.toNat ∈ dividerCodes := by
    rcases h with h | rfl
    · simp only [isBlank, Bool.or_eq_true, Bool.and_eq_true, decide_eq_true_eq, beq_iff_eq] at h
      simp only [dividerCodes, List.mem_append, List.mem_range, List.mem_range'_1, List.mem_cons]
      omega
    · decide
  have hu := upper_dividers c.toNat hc
  rwa [Char.ofNat_toNat] at hu

theorem upper_of_mem_upper {c d : Char} (h : d ∈ upper c) : upper d = [d] := by
  by_cases hc : isBlank c = true ∨ c = ';'
  · have hu := upper_of_divider hc
    obtain rfl : d = c := by simpa [hu] using h
    exact hu
  · rw [not_or, Bool.not_eq_true] at hc
    exact (raised_of_mem_upper h hc.1 hc.2).upper

/-- What no expansion holds, a character is raised to alone or not at all. -/
theorem upper_eq_singleton {c d : Char}
    (hd : ∀ e ∈ caseExpansions, ∀ n ∈ e.2, Char.ofNat n ≠ d) (h : d ∈ upper c) :
    upper c = [d] := by
  by_cases ha : c.toNat < 128
  · rw [upper, if_pos ha] at h ⊢
    rw [List.mem_singleton.mp h]
  cases hl : caseExpansions.lookup c.toNat with
  | some codes =>
    rw [upper, if_neg ha, hl] at h
    obtain ⟨n, hn, hu⟩ := List.mem_map.mp h
    exact (hd _ (mem_caseExpansions_of_lookup hl) n hn hu).elim
  | none =>
    cases hf : caseRuns.find? (·.covers c.toNat) <;>
    · rw [upper, if_neg ha, hl, hf] at h ⊢
      rw [List.mem_singleton.mp h]

theorem ofNat_ne_of_mem_caseExpansions :
    ∀ e ∈ caseExpansions, ∀ n ∈ e.2, Char.ofNat n ≠ 'U' := by decide +kernel

theorem upper_eq_of_mem {c : Char} (h : 'U' ∈ upper c) : upper c = ['U'] :=
  upper_eq_singleton ofNat_ne_of_mem_caseExpansions h

end Triplet.Text
