import Triplet.Proofs.ShortestDecimals
import Triplet.Proofs.WrittenTexts

/-! # Decimal literals

A reader of decimal literals: a sign, digits, a fraction and a power of ten. A number that is
written as an integer or in the layout of doubles is read back as the decimal that was written.
-/

namespace Triplet.Literal

/-- The digits after a point, if a text begins with one, and what is left. -/
def fraction : List Char → List Char × List Char
  | '.' :: rest => (rest.takeWhile Char.isDigit, rest.dropWhile Char.isDigit)
  | rest => ([], rest)

def number? (digits : List Char) : Option Nat :=
  if digits ≠ [] ∧ digits.all Char.isDigit = true then some (Nat.ofDigitChars 10 digits 0) else none

def power? : List Char → Option Int
  | [] => some 0
  | 'e' :: '+' :: digits => (number? digits).map fun n : Nat => (n : Int)
  | 'e' :: '-' :: digits => (number? digits).map fun n : Nat => -(n : Int)
  | _ => none

def unsigned? (text : List Char) : Option ℚ :=
  let whole := text.takeWhile Char.isDigit
  let tail := fraction (text.dropWhile Char.isDigit)
  if whole = [] then none
  else (power? tail.2).map fun p =>
    Decimal.toRat ⟨Nat.ofDigitChars 10 (whole ++ tail.1) 0, p - tail.1.length⟩

def literal? : List Char → Option ℚ
  | '-' :: rest => (unsigned? rest).map fun v => -v
  | rest => unsigned? rest

section Unsigned

variable {whole part tail digits : List Char} {p : Int}

theorem number?_of_forall (hne : digits ≠ []) (h : ∀ c ∈ digits, c.isDigit = true) :
    number? digits = some (Nat.ofDigitChars 10 digits 0) :=
  if_pos ⟨hne, List.all_eq_true.mpr h⟩

theorem power?_nil : power? [] = some 0 := rfl

theorem eq_nil_or_of_power? (h : power? tail = some p) :
    tail = [] ∨ ∃ rest, tail = 'e' :: rest := by
  fun_cases power? tail with
  | case1 => exact .inl rfl
  | case2 digits => exact .inr ⟨_, rfl⟩
  | case3 digits => exact .inr ⟨_, rfl⟩
  | case4 => simp_all [power?]

theorem takeWhile_of_power? (h : power? tail = some p) : tail.takeWhile Char.isDigit = [] := by
  obtain rfl | ⟨rest, rfl⟩ := eq_nil_or_of_power? h <;> rfl

theorem dropWhile_of_power? (h : power? tail = some p) : tail.dropWhile Char.isDigit = tail := by
  obtain rfl | ⟨rest, rfl⟩ := eq_nil_or_of_power? h <;> rfl

theorem fraction_of_power? (h : power? tail = some p) : fraction tail = ([], tail) := by
  obtain rfl | ⟨rest, rfl⟩ := eq_nil_or_of_power? h <;> rfl

theorem unsigned?_append (hne : whole ≠ []) (hw : ∀ c ∈ whole, c.isDigit = true)
    (hp : power? tail = some p) :
    unsigned? (whole ++ tail) = some (Decimal.toRat ⟨Nat.ofDigitChars 10 whole 0, p⟩) := by
  simp [unsigned?, List.takeWhile_append_of_pos hw, List.dropWhile_append_of_pos hw,
    takeWhile_of_power? hp, dropWhile_of_power? hp, fraction_of_power? hp, hp, hne]

theorem unsigned?_point (hne : whole ≠ []) (hw : ∀ c ∈ whole, c.isDigit = true)
    (hf : ∀ c ∈ part, c.isDigit = true) (hp : power? tail = some p) :
    unsigned? (whole ++ '.' :: (part ++ tail)) =
      some (Decimal.toRat ⟨Nat.ofDigitChars 10 (whole ++ part) 0, p - part.length⟩) := by
  have hpoint : ('.' :: (part ++ tail)).takeWhile Char.isDigit = [] := rfl
  have hpoint' : ('.' :: (part ++ tail)).dropWhile Char.isDigit = '.' :: (part ++ tail) := rfl
  have hfraction : fraction ('.' :: (part ++ tail)) = (part, tail) := by
    simp [fraction, List.takeWhile_append_of_pos hf, List.dropWhile_append_of_pos hf,
      takeWhile_of_power? hp, dropWhile_of_power? hp]
  simp [unsigned?, List.takeWhile_append_of_pos hw, List.dropWhile_append_of_pos hw, hpoint,
    hpoint', hfraction, hp, hne]

theorem literal?_of_unsigned? {text : List Char} {v : ℚ} (h : unsigned? text = some v) :
    literal? text = some v := by
  fun_cases literal? text with
  | case1 rest => cases h
  | case2 => exact h

end Unsigned

/-! ## Digits -/

section Digits

theorem toList_zeros (k : Nat) : (DoubleLayout.zeros k).toList = List.replicate k '0' :=
  String.toList_ofList

theorem isDigit_of_mem_replicate {c : Char} {k : Nat} (h : c ∈ List.replicate k '0') :
    c.isDigit = true := by
  rw [List.eq_of_mem_replicate h]
  rfl

theorem isDigit_of_mem_zero {c : Char} (h : c ∈ ['0']) : c.isDigit = true :=
  isDigit_of_mem_replicate (k := 1) h

theorem ofDigitChars_toString (n : Nat) : Nat.ofDigitChars 10 (toString n).toList 0 = n := by
  rw [Nat.toString_eq_ofList_toDigits, String.toList_ofList, Nat.ofDigitChars_ten_toDigits]

theorem toList_toString_ne_nil (n : Nat) : (toString n).toList ≠ [] := by
  rw [Nat.toString_eq_ofList_toDigits, String.toList_ofList]
  exact Nat.toDigits_ne_nil

theorem isDigit_zeros_append {c : Char} {k : Nat} {digits : List Char}
    (hd : ∀ c ∈ digits, c.isDigit = true) (h : c ∈ List.replicate k '0' ++ digits) :
    c.isDigit = true := by
  rcases List.mem_append.mp h with h | h
  · exact isDigit_of_mem_replicate h
  · exact hd c h

theorem ofDigitChars_zeros (k : Nat) (digits : List Char) :
    Nat.ofDigitChars 10 (List.replicate k '0' ++ digits) 0 = Nat.ofDigitChars 10 digits 0 := by
  rw [Nat.ofDigitChars_append, Nat.ofDigitChars_replicate_zero, Nat.mul_zero]

theorem number?_zeros_toString (k n : Nat) :
    number? (List.replicate k '0' ++ (toString n).toList) = some n := by
  rw [number?_of_forall _ fun c => isDigit_zeros_append fun c => Text.isDigit_of_mem_toString,
    ofDigitChars_zeros, ofDigitChars_toString]
  exact List.append_ne_nil_of_right_ne_nil _ (toList_toString_ne_nil n)

variable {digits tail : List Char} {p : Int}

theorem unsigned?_zeros (hne : digits ≠ []) (hd : ∀ c ∈ digits, c.isDigit = true) (k : Nat) :
    unsigned? (digits ++ List.replicate k '0' ++ ['.', '0']) =
      some (Decimal.toRat ⟨Nat.ofDigitChars 10 digits 0, k⟩) := by
  have hwhole : ∀ c ∈ digits ++ List.replicate k '0', c.isDigit = true := by
    intro c hc
    rcases List.mem_append.mp hc with hc | hc
    · exact hd c hc
    · exact isDigit_of_mem_replicate hc
  have hvalue : Nat.ofDigitChars 10 (digits ++ List.replicate k '0' ++ ['0']) 0 =
      10 ^ (k + 1) * Nat.ofDigitChars 10 digits 0 := by
    rw [List.append_assoc, ← List.replicate_succ', Nat.ofDigitChars_append,
      Nat.ofDigitChars_replicate_zero]
  have h := unsigned?_point (List.append_ne_nil_of_left_ne_nil hne _) hwhole
    (fun c => isDigit_of_mem_zero) power?_nil
  rw [hvalue] at h
  rw [show ['.', '0'] = '.' :: (['0'] ++ []) from rfl, h, Decimal.toRat_eq, Decimal.toRat_eq]
  simp [zpow_neg, pow_succ]
  ring

theorem unsigned?_inner (hd : ∀ c ∈ digits, c.isDigit = true) {k : Nat} (hk : 0 < k)
    (hl : k ≤ digits.length) :
    unsigned? (digits.take k ++ '.' :: digits.drop k) =
      some (Decimal.toRat ⟨Nat.ofDigitChars 10 digits 0, k - digits.length⟩) := by
  have hne : digits.take k ≠ [] := by
    rw [← List.length_pos_iff, List.length_take]
    omega
  have hpart : ∀ c ∈ digits.drop k, c.isDigit = true := fun c hc => hd c (List.mem_of_mem_drop hc)
  have h := unsigned?_point hne (fun c hc => hd c (List.mem_of_mem_take hc)) hpart power?_nil
  rw [List.append_nil, List.take_append_drop, List.length_drop] at h
  rw [h]
  congr 3
  omega

theorem unsigned?_below (hd : ∀ c ∈ digits, c.isDigit = true) (k : Nat) :
    unsigned? ('0' :: '.' :: (List.replicate k '0' ++ digits)) =
      some (Decimal.toRat ⟨Nat.ofDigitChars 10 digits 0, -(k + digits.length)⟩) := by
  have hpart : ∀ c ∈ List.replicate k '0' ++ digits, c.isDigit = true :=
    fun c => isDigit_zeros_append hd
  have h := unsigned?_point (List.cons_ne_nil '0' []) (fun c => isDigit_of_mem_zero) hpart
    power?_nil
  rw [List.append_nil, ← List.append_assoc, show ['0'] ++ List.replicate k '0' =
    List.replicate (k + 1) '0' from rfl, ofDigitChars_zeros, List.length_append,
    List.length_replicate] at h
  refine h.trans ?_
  congr 3
  omega

theorem unsigned?_leading (hne : digits ≠ []) (hd : ∀ c ∈ digits, c.isDigit = true)
    (hp : power? tail = some p) :
    unsigned? (digits.take 1 ++
        ((if digits.drop 1 = [] then [] else '.' :: digits.drop 1) ++ tail)) =
      some (Decimal.toRat ⟨Nat.ofDigitChars 10 digits 0, p - (digits.length - 1 : Nat)⟩) := by
  have hpos := List.length_pos_iff.mpr hne
  have htake : digits.take 1 ≠ [] := by
    rw [← List.length_pos_iff, List.length_take]
    omega
  have hwhole : ∀ c ∈ digits.take 1, c.isDigit = true := fun c hc => hd c (List.mem_of_mem_take hc)
  have hpart : ∀ c ∈ digits.drop 1, c.isDigit = true := fun c hc => hd c (List.mem_of_mem_drop hc)
  -- A single digit is written without a point.
  split
  · rename_i hdrop
    have hall : digits.take 1 = digits := by
      rw [← List.take_append_drop 1 digits, hdrop]
      simp
    have hlength := congrArg List.length hdrop
    rw [List.length_drop, List.length_nil] at hlength
    rw [List.nil_append, unsigned?_append htake hwhole hp, hall, hlength, Int.natCast_zero,
      Int.sub_zero]
  · rw [List.cons_append, unsigned?_point htake hwhole hpart hp, List.take_append_drop,
      List.length_drop]

end Digits

/-! ## Written numbers -/

section Written

theorem unsigned?_toString (n : Nat) : unsigned? (toString n).toList = some (n : ℚ) := by
  have h := unsigned?_append (toList_toString_ne_nil n) (fun c => Text.isDigit_of_mem_toString)
    power?_nil
  rw [List.append_nil, ofDigitChars_toString] at h
  rw [h, Decimal.toRat_eq, zpow_zero, mul_one]

theorem literal?_toString (n : Int) : literal? (toString n).toList = some (n : ℚ) := by
  rw [Int.toString_eq_repr, Int.repr_eq_if]
  split
  · rename_i hn
    have hcast : ((n.toNat : Nat) : ℚ) = n := by
      exact_mod_cast Int.toNat_of_nonneg hn
    rw [← hcast]
    exact literal?_of_unsigned? (unsigned?_toString _)
  · have hcast : ((-n).toNat : ℚ) = -n := by
      exact_mod_cast Int.toNat_of_nonneg (by omega : 0 ≤ -n)
    have hminus : ("-" ++ (-n).toNat.repr).toList = '-' :: (toString (-n).toNat).toList := by
      rw [String.toList_append]
      rfl
    rw [hminus, literal?, unsigned?_toString, hcast, Option.map_some, neg_neg]

theorem unsigned?_positional (n : Nat) (e : Int) :
    unsigned? (DoubleLayout.positional (toString n) e).toList = some (Decimal.toRat ⟨n, e⟩) := by
  have hlength : (toString n).toList.length = (toString n).length := String.length_toList
  have hdigits : ∀ c ∈ (toString n).toList, c.isDigit = true :=
    fun c => Text.isDigit_of_mem_toString
  have hvalue := ofDigitChars_toString n
  simp only [DoubleLayout.positional]
  split
  · rename_i he
    obtain ⟨k, rfl⟩ := Int.eq_ofNat_of_zero_le he
    have h := unsigned?_zeros (toList_toString_ne_nil n) hdigits k
    rw [hvalue] at h
    rw [← h, String.toList_append, String.toList_append, toList_zeros]
    rfl
  · split
    · rename_i he hpoint
      have h := unsigned?_inner hdigits (k := ((toString n).length + e).toNat) (by omega) (by omega)
      rw [hvalue, hlength, show (((toString n).length + e).toNat : Int) - (toString n).length = e
        by omega] at h
      simp only [← h, String.toList_append, String.toList_ofList, List.append_assoc]
      rfl
    · rename_i he hpoint
      have h := unsigned?_below hdigits (-((toString n).length + e)).toNat
      rw [hvalue, hlength, show
        -(((-((toString n).length + e)).toNat : Int) + (toString n).length) = e by omega] at h
      rw [← h, String.toList_append, String.toList_append, toList_zeros, List.append_assoc]
      rfl

theorem power?_written (k : Int) (z : Nat) :
    power? ("e" ++ (if k < 0 then "-" else "+") ++ DoubleLayout.zeros z ++
      toString k.natAbs).toList = some k := by
  have hnumber := number?_zeros_toString z k.natAbs
  have hsign (sign : Char) : ("e" ++ String.singleton sign ++ DoubleLayout.zeros z ++
      toString k.natAbs).toList =
      'e' :: sign :: (List.replicate z '0' ++ (toString k.natAbs).toList) := by
    simp only [String.toList_append, toList_zeros]
    simp
  split
  · rename_i hk
    refine (congrArg power? (hsign '-')).trans ?_
    rw [power?, hnumber, Option.map_some]
    congr 1
    omega
  · rename_i hk
    refine (congrArg power? (hsign '+')).trans ?_
    rw [power?, hnumber, Option.map_some]
    congr 1
    omega

theorem toList_point (part : List Char) :
    (if (String.ofList part).isEmpty then "" else "." ++ String.ofList part).toList =
      if part = [] then [] else '.' :: part := by
  cases part <;> simp

theorem unsigned?_scientific (layout : DoubleLayout) (n : Nat) (e : Int) :
    unsigned? (layout.scientific (toString n) e).toList = some (Decimal.toRat ⟨n, e⟩) := by
  have hlength : (toString n).toList.length = (toString n).length := String.length_toList
  have hdigits : ∀ c ∈ (toString n).toList, c.isDigit = true :=
    fun c => Text.isDigit_of_mem_toString
  have hne := toList_toString_ne_nil n
  have hpos := List.length_pos_iff.mpr hne
  have hpower := power?_written ((toString n).length + e - 1)
    (layout.exponentDigits - (toString ((toString n).length + e - 1).natAbs).length)
  have h := unsigned?_leading hne hdigits hpower
  rw [ofDigitChars_toString, show ((toString n).length : Int) + e - 1 -
    ((toString n).toList.length - 1 : Nat) = e by omega] at h
  rw [← h]
  simp only [DoubleLayout.scientific, String.toList_append, String.toList_ofList, List.append_assoc,
    toList_point]

/-- A double other than zero is read back as its shortest decimal. -/
theorem literal?_write (layout : DoubleLayout) {x : Float} {d : Dyadic}
    (h : Dyadic.ofFloat? x = some d) (hm : d.mantissa ≠ 0) :
    literal? (layout.write x).toList =
      some (if d.negative then -(Decimal.shortest d).toRat else (Decimal.shortest d).toRat) := by
  simp only [DoubleLayout.write, h, if_neg hm]
  generalize htext : (if layout.leastPositional ≤ _ ∧ _ < layout.firstScientific then
    DoubleLayout.positional _ _ else layout.scientific _ _) = text
  have hread : unsigned? text.toList = some (Decimal.shortest d).toRat := by
    rw [← htext]
    split
    · exact unsigned?_positional ..
    · exact unsigned?_scientific ..
  cases d.negative
  · exact literal?_of_unsigned? (by simpa using hread)
  · simp [literal?, hread]

theorem literal?_write_zero (layout : DoubleLayout) {x : Float} {d : Dyadic}
    (h : Dyadic.ofFloat? x = some d) (hm : d.mantissa = 0) :
    literal? (layout.write x).toList = some 0 := by
  have hread := unsigned?_zeros (List.cons_ne_nil _ _) (fun c => isDigit_of_mem_zero) 0
  rw [show Nat.ofDigitChars 10 ['0'] 0 = 0 from rfl, Decimal.toRat_eq, Nat.cast_zero, zero_mul]
    at hread
  have hread' : unsigned? "0.0".toList = some 0 := hread
  simp only [DoubleLayout.write, h, if_pos hm]
  cases d.negative
  · exact literal?_of_unsigned? (by simpa using hread')
  · simpa [literal?] using hread'

theorem exists_literal?_write (layout : DoubleLayout) {x : Float} (h : x.isFinite = true) :
    ∃ v, literal? (layout.write x).toList = some v := by
  rw [← Dyadic.isSome_ofFloat?, Option.isSome_iff_exists] at h
  obtain ⟨d, hd⟩ := h
  by_cases hm : d.mantissa = 0
  · exact ⟨_, literal?_write_zero layout hd hm⟩
  · exact ⟨_, literal?_write layout hd hm⟩

/-- An integer that is written as a double is read back with a relative error of at most `2 ^ -51`,
and exactly if it has at most 53 bits. -/
theorem literal?_nearestDouble (layout : DoubleLayout) {n : Int} (hl : n.natAbs.log2 < 1023) :
    ∃ v : ℚ, literal? (layout.write (nearestDouble n)).toList = some v ∧
      (n.natAbs < 2 ^ 53 → v = n) ∧ (2 ^ 51 : Nat) * |v - n| ≤ |(n : ℚ)| := by
  by_cases hn : n = 0
  · subst hn
    exact ⟨0, literal?_write_zero layout Dyadic.ofFloat?_nearestDouble_zero rfl, fun _ => rfl,
      by simp⟩
  refine ⟨_, literal?_write layout (Dyadic.ofFloat?_nearestDouble hn hl)
    (Dyadic.nearest_mantissa_ne_zero hn), ?_⟩
  have hexact := Decimal.shortest_nearest hn
  have hnear := Decimal.shortest_nearest_near (n := n)
  rw [Dyadic.nearest_negative]
  generalize (Decimal.shortest (Dyadic.nearest n)).toRat = v at hexact hnear ⊢
  have hbound : (2 ^ 51 : Nat) * |v - n.natAbs| ≤ (n.natAbs : ℚ) := by
    by_cases hsmall : n.natAbs < 2 ^ 53
    · rw [hexact hsmall, sub_self, abs_zero, mul_zero]
      exact Nat.cast_nonneg _
    · exact hnear (Nat.le_of_not_lt hsmall)
  -- The sign is written by itself, and what follows it is the text of the size.
  by_cases hneg : n < 0
  · have hcast : (n.natAbs : ℚ) = -n := by
      rw [Nat.cast_natAbs, abs_of_neg hneg, Int.cast_neg]
    have hn' : (n : ℚ) < 0 := Int.cast_lt_zero.mpr hneg
    rw [hcast] at hexact hbound
    rw [if_pos (decide_eq_true hneg), abs_of_neg hn', show -v - n = -(v - -n) by ring, abs_neg]
    exact ⟨fun hsmall => by rw [hexact hsmall, neg_neg], hbound⟩
  · have hcast : (n.natAbs : ℚ) = n := by
      rw [Nat.cast_natAbs, abs_of_nonneg (Int.not_lt.mp hneg)]
    rw [hcast] at hexact hbound
    rw [if_neg (by simpa using hneg), abs_of_nonneg (Int.cast_nonneg (Int.not_lt.mp hneg))]
    exact ⟨hexact, hbound⟩

end Written

/-! ## Characters -/

section Characters

variable {c : Char} {text digits : List Char} {v : ℚ}

def IsMark (c : Char) : Prop := c.isDigit = true ∨ c ∈ ['-', '+', '.', 'e']

theorem isDigit_of_number? {n : Nat} (h : number? digits = some n) (hc : c ∈ digits) :
    c.isDigit = true := by
  rw [number?] at h
  split at h
  · rename_i hd
    exact List.all_eq_true.mp hd.2 c hc
  · cases h

theorem isDigit_of_mem_takeWhile (h : c ∈ text.takeWhile Char.isDigit) : c.isDigit = true :=
  List.all_eq_true.mp List.all_takeWhile c h

theorem isMark_of_power? {p : Int} (h : power? text = some p) (hc : c ∈ text) : IsMark c := by
  revert h
  fun_cases power? text with
  | case1 => cases hc
  | case2 digits | case3 digits =>
    intro h
    obtain ⟨n, hn, -⟩ := Option.map_eq_some_iff.mp h
    rcases List.mem_cons.mp hc with rfl | hc
    · exact .inr (by simp)
    · rcases List.mem_cons.mp hc with rfl | hc
      · exact .inr (by simp)
      · exact .inl (isDigit_of_number? hn hc)
  | case4 => exact fun h => nomatch h

theorem isMark_of_fraction {p : Int} (h : power? (fraction text).2 = some p) (hc : c ∈ text) :
    IsMark c := by
  revert h
  fun_cases fraction text with
  | case1 rest =>
    intro h
    rcases List.mem_cons.mp hc with rfl | hc
    · exact .inr (by simp)
    · rw [← List.takeWhile_append_dropWhile (p := Char.isDigit) (l := rest), List.mem_append] at hc
      rcases hc with hc | hc
      · exact .inl (isDigit_of_mem_takeWhile hc)
      · exact isMark_of_power? h hc
  | case2 hne => exact fun h => isMark_of_power? h hc

theorem isMark_of_unsigned? (h : unsigned? text = some v) (hc : c ∈ text) : IsMark c := by
  rw [← List.takeWhile_append_dropWhile (p := Char.isDigit) (l := text), List.mem_append] at hc
  simp only [unsigned?] at h
  split at h
  · cases h
  · obtain ⟨p, hp, -⟩ := Option.map_eq_some_iff.mp h
    rcases hc with hc | hc
    · exact .inl (isDigit_of_mem_takeWhile hc)
    · exact isMark_of_fraction hp hc

theorem isMark_of_literal? (h : literal? text = some v) (hc : c ∈ text) : IsMark c := by
  revert h
  fun_cases literal? text with
  | case1 rest =>
    intro h
    obtain ⟨w, hw, -⟩ := Option.map_eq_some_iff.mp h
    rcases List.mem_cons.mp hc with rfl | hc
    · exact .inr (by simp)
    · exact isMark_of_unsigned? hw hc
  | case2 hne => exact fun h => isMark_of_unsigned? h hc

end Characters

end Triplet.Literal
