import Mathlib.Data.List.Infix
import Triplet.Similarity.CommonRun

/-! # The longest common run

A cell of the table is the length of the longest run that ends two prefixes, so the greatest cell of
a row is the length of the longest common run that ends with the letter of the row. A run that was
noted gives way to a longer one alone. Since the rows follow the letters of the first text, it is
the first among the longest common runs.
-/

namespace Triplet

section Letters

variable {α : Type} {a : List α} {found : FoundRun}

theorem FoundRun.length_letters (hl : found.length ≤ found.stop) (hs : found.stop ≤ a.length) :
    (found.letters a).length = found.length := by
  rw [letters, List.length_drop, List.length_take]
  omega

theorem FoundRun.letters_append (h : found.stop ≤ a.length) (c : List α) :
    found.letters (a ++ c) = found.letters a := by
  rw [letters, letters, List.take_append_of_le_length h]

theorem FoundRun.letters_of_isSuffix {s : List α} (h : s <:+ a) :
    letters ⟨s.length, a.length⟩ a = s := by
  rw [letters, List.take_length]
  exact (List.suffix_iff_eq_drop.mp h).symm

end Letters

variable {α : Type} [DecidableEq α]

section SharedEnds

def shared : List α → List α → Nat
  | x :: a, y :: b => if x = y then shared a b + 1 else 0
  | _, _ => 0

theorem shared_le_length (a b : List α) : shared a b ≤ a.length := by
  fun_induction shared a b with
  | case1 x a b ih => simpa using ih
  | case2 | case3 => exact Nat.zero_le _

theorem take_shared_isPrefix (a b : List α) : a.take (shared a b) <+: b := by
  fun_induction shared a b with
  | case1 x a b ih => simpa using ih
  | case2 | case3 => exact List.nil_prefix

theorem length_le_shared {s a b : List α} (ha : s <+: a) (hb : s <+: b) :
    s.length ≤ shared a b := by
  induction s generalizing a b with
  | nil => exact Nat.zero_le _
  | cons z s ih =>
    obtain ⟨a, rfl⟩ := ha
    obtain ⟨b, rfl⟩ := hb
    simpa [shared] using ih (s.prefix_append a) (s.prefix_append b)

def sharedEnd (a b : List α) : Nat := shared a.reverse b.reverse

theorem sharedEnd_nil_left (b : List α) : sharedEnd [] b = 0 := rfl

theorem sharedEnd_nil_right (a : List α) : sharedEnd a [] = 0 := by
  rw [sharedEnd]
  cases a.reverse <;> rfl

theorem sharedEnd_concat_concat (a b : List α) (x y : α) :
    sharedEnd (a ++ [x]) (b ++ [y]) = if x = y then sharedEnd a b + 1 else 0 := by
  rw [sharedEnd, List.reverse_concat, List.reverse_concat]
  rfl

theorem length_le_sharedEnd {s a b : List α} (ha : s <:+ a) (hb : s <:+ b) :
    s.length ≤ sharedEnd a b := by
  rw [← List.length_reverse]
  exact length_le_shared (List.reverse_prefix.mpr ha) (List.reverse_prefix.mpr hb)

theorem exists_sharedEnd (a b : List α) :
    ∃ s, s <:+ a ∧ s <:+ b ∧ s.length = sharedEnd a b := by
  refine ⟨(a.reverse.take (sharedEnd a b)).reverse, ?_, ?_, ?_⟩
  · rw [← List.reverse_prefix, List.reverse_reverse]
    exact List.take_prefix _ _
  · rw [← List.reverse_prefix, List.reverse_reverse]
    exact take_shared_isPrefix _ _
  · rw [List.length_reverse]
    exact List.length_take_of_le (shared_le_length _ _)

end SharedEnds

section Places

variable {s a : List α}

def firstPlace (s a : List α) : Nat := a.tails.findIdx s.isPrefixOf

theorem firstPlace_eq_zero (h : s <+: a) : firstPlace s a = 0 := by
  cases a <;> simp [firstPlace, List.findIdx_cons, List.isPrefixOf_iff_prefix.mpr h]

theorem firstPlace_cons {x : α} (h : ¬ s <+: x :: a) :
    firstPlace s (x :: a) = firstPlace s a + 1 := by
  have hp : s.isPrefixOf (x :: a) = false := by
    rwa [← List.isPrefixOf_iff_prefix, Bool.not_eq_true] at h
  rw [firstPlace, List.tails_cons, List.findIdx_cons, hp]
  rfl

theorem prefix_drop_firstPlace (h : s <:+: a) : s <+: a.drop (firstPlace s a) := by
  induction a with
  | nil =>
    rw [List.infix_nil.mp h]
    exact List.nil_prefix
  | cons x a ih =>
    by_cases hp : s <+: x :: a
    · rwa [firstPlace_eq_zero hp]
    · rw [firstPlace_cons hp]
      exact ih ((List.infix_cons_iff.mp h).resolve_left hp)

theorem firstPlace_add_length_le (h : s <:+: a) : firstPlace s a + s.length ≤ a.length := by
  induction a with
  | nil =>
    rw [List.infix_nil.mp h]
    exact Nat.le_refl 0
  | cons x a ih =>
    by_cases hp : s <+: x :: a
    · rw [firstPlace_eq_zero hp, Nat.zero_add]
      exact hp.length_le
    · have hle := ih ((List.infix_cons_iff.mp h).resolve_left hp)
      rw [firstPlace_cons hp, List.length_cons]
      omega

theorem firstPlace_append (h : s <:+: a) (c : List α) : firstPlace s (a ++ c) = firstPlace s a := by
  induction a with
  | nil =>
    rw [List.infix_nil.mp h, firstPlace_eq_zero List.nil_prefix, firstPlace_eq_zero List.nil_prefix]
  | cons x a ih =>
    by_cases hp : s <+: x :: a
    · rw [firstPlace_eq_zero hp, firstPlace_eq_zero (hp.trans (List.prefix_append _ c))]
    · have hp' : ¬ s <+: x :: (a ++ c) := fun hs =>
        hp (List.prefix_of_prefix_length_le hs (List.prefix_append (x :: a) c) h.length_le)
      rw [List.cons_append, firstPlace_cons hp, firstPlace_cons hp',
        ih ((List.infix_cons_iff.mp h).resolve_left hp)]

theorem length_lt_firstPlace_concat {x : α} (h : s <:+: a ++ [x]) (hno : ¬ s <:+: a) :
    a.length < firstPlace s (a ++ [x]) + s.length := by
  by_contra hle
  have hp := prefix_drop_firstPlace h
  rw [List.drop_append_of_le_length (by omega)] at hp
  have hs : s <+: a.drop (firstPlace s (a ++ [x])) := by
    refine List.prefix_of_prefix_length_le hp (List.prefix_append _ _) ?_
    rw [List.length_drop]
    omega
  exact hno (hs.isInfix.trans (List.drop_suffix _ _).isInfix)

end Places

/-- A run that two texts have in common, such that no other is longer and none of the same length
comes first in the first text. -/
structure LongestRun (a b run : List α) : Prop where
  left : run <:+: a
  right : run <:+: b
  longest : ∀ s, s <:+: a → s <:+: b → s.length ≤ run.length
  earliest : ∀ s, s <:+: a → s <:+: b → s.length = run.length → s ≠ run →
    firstPlace run a < firstPlace s a

namespace LongestRun

variable {a b run : List α} {x : α}

theorem nil_left (b : List α) : LongestRun [] b [] where
  left := List.infix_rfl
  right := List.nil_infix
  longest s ha _ := by rw [List.infix_nil.mp ha]
  earliest s ha _ _ hne := absurd (List.infix_nil.mp ha) hne

theorem nil_right (a : List α) : LongestRun a [] [] where
  left := List.nil_infix
  right := List.infix_rfl
  longest s _ hb := by rw [List.infix_nil.mp hb]
  earliest s _ hb _ hne := absurd (List.infix_nil.mp hb) hne

theorem concat_take (h : LongestRun a b run) {s : List α} (hs : s <:+ a ++ [x]) (hb : s <:+: b)
    (hlt : run.length < s.length)
    (hmax : ∀ t, t <:+ a ++ [x] → t <:+: b → t.length ≤ s.length) :
    LongestRun (a ++ [x]) b s := by
  refine ⟨hs.isInfix, hb, ?_, ?_⟩
  · intro t ha hb'
    rcases List.infix_concat_iff.mp ha with ha | ha
    · exact hmax t ha hb'
    · exact (h.longest t ha hb').trans hlt.le
  · intro t ha hb' hl hne
    rcases List.infix_concat_iff.mp ha with ha | ha
    · exact absurd ((List.suffix_of_suffix_length_le ha hs hl.le).eq_of_length hl) hne
    · have hle := h.longest t ha hb'
      omega

theorem concat_keep (h : LongestRun a b run)
    (hmax : ∀ t, t <:+ a ++ [x] → t <:+: b → t.length ≤ run.length) :
    LongestRun (a ++ [x]) b run := by
  refine ⟨h.left.trans (List.prefix_append a [x]).isInfix, h.right, ?_, ?_⟩
  · intro t ha hb
    rcases List.infix_concat_iff.mp ha with ha | ha
    · exact hmax t ha hb
    · exact h.longest t ha hb
  · intro t ha hb hl hne
    rw [firstPlace_append h.left]
    by_cases hin : t <:+: a
    · rw [firstPlace_append hin]
      exact h.earliest t hin hb hl hne
    · have hrun := firstPlace_add_length_le h.left
      have ht := length_lt_firstPlace_concat ha hin
      omega

theorem unique {run' : List α} (h : LongestRun a b run) (h' : LongestRun a b run') :
    run = run' := by
  have hl : run.length = run'.length :=
    Nat.le_antisymm (h'.longest run h.left h.right) (h.longest run' h'.left h'.right)
  by_contra hne
  have hlt := h.earliest run' h'.left h'.right hl.symm (Ne.symm hne)
  have hgt := h'.earliest run h.left h.right hl hne
  omega

end LongestRun

section Rows

/-- How many last letters `a` shares with `before` and its extensions by the letters of `b`. -/
def sharedRow (a before b : List α) : List Nat := b.inits.map fun t => sharedEnd a (before ++ t)

theorem sharedRow_cons (a before : List α) (y : α) (b : List α) :
    sharedRow a before (y :: b) = sharedEnd a before :: sharedRow a (before ++ [y]) b := by
  simp [sharedRow]

theorem sharedRow_eq_cons (a before b : List α) :
    sharedRow a before b = sharedEnd a before :: (sharedRow a before b).tail := by
  cases b <;> simp [sharedRow]

/-- A filled row has the cells of one letter more. -/
theorem fillRow_sharedRow (a before b : List α) (x : α) (i : Nat) (found : FoundRun) :
    (fillRow x i b (sharedRow a before b) found).1 = (sharedRow (a ++ [x]) before b).tail := by
  induction b generalizing before found with
  | nil => rfl
  | cons y b ih =>
    rw [sharedRow_cons, sharedRow_cons, List.tail_cons, sharedRow_eq_cons (a ++ [x]),
      sharedEnd_concat_concat, fillRow]
    split
    · exact congrArg _ (ih (before ++ [y]) _)
    · exact congrArg _ (ih (before ++ [y]) _)

/-- A row of cells leaves the run that was noted, or the greatest of its cells is noted instead. -/
inductive Notes (i : Nat) (cells : List Nat) (found : FoundRun) : FoundRun → Prop where
  | keep : (∀ n ∈ cells, n ≤ found.length) → Notes i cells found found
  | take {n : Nat} : n ∈ cells → found.length < n → (∀ m ∈ cells, m ≤ n) →
      Notes i cells found ⟨n, i⟩

section Notes

variable {i n : Nat} {cells : List Nat} {found noted : FoundRun}

theorem Notes.cons_of_le (h : Notes i cells found noted) (hn : n ≤ found.length) :
    Notes i (n :: cells) found noted := by
  cases h with
  | keep hle => exact .keep (List.forall_mem_cons.mpr ⟨hn, hle⟩)
  | take hm hlt hle =>
    exact .take (List.mem_cons_of_mem _ hm) hlt (List.forall_mem_cons.mpr ⟨by omega, hle⟩)

theorem Notes.cons_of_lt (h : Notes i cells ⟨n, i⟩ noted) (hn : found.length < n) :
    Notes i (n :: cells) found noted := by
  cases h with
  | keep hle =>
    exact .take List.mem_cons_self hn (List.forall_mem_cons.mpr ⟨Nat.le_refl n, hle⟩)
  | take hm hlt hle =>
    have hlt : n < _ := hlt
    exact .take (List.mem_cons_of_mem _ hm) (by omega) (List.forall_mem_cons.mpr ⟨by omega, hle⟩)

theorem notes_fillRow (x : α) (i : Nat) (b : List α) (above : List Nat) (found : FoundRun) :
    Notes i (fillRow x i b above found).1 found (fillRow x i b above found).2 := by
  fun_induction fillRow x i b above found with
  | case1 b n above found noted rest ih =>
    have ih : Notes i rest.1 noted rest.2 := ih
    by_cases hn : found.length < n + 1
    · rw [show noted = ⟨n + 1, i⟩ from if_pos hn] at ih
      exact ih.cons_of_lt hn
    · rw [show noted = found from if_neg hn] at ih
      exact ih.cons_of_le (Nat.le_of_not_lt hn)
  | case2 y b n above found hxy rest ih => exact ih.cons_of_le (Nat.zero_le _)
  | case3 => exact .keep (List.forall_mem_nil _)

end Notes

section Cells

variable {a b s : List α} {n : Nat}

theorem length_le_of_row (h : ∀ m ∈ (sharedRow a [] b).tail, m ≤ n) (ha : s <:+ a)
    (hb : s <:+: b) : s.length ≤ n := by
  obtain ⟨t, hst, htb⟩ := List.infix_iff_suffix_prefix.mp hb
  have hle := length_le_sharedEnd ha hst
  have hm : sharedEnd a t ∈ sharedRow a [] b :=
    List.mem_map.mpr ⟨t, (List.mem_inits t b).mpr htb, rfl⟩
  rw [sharedRow_eq_cons, sharedEnd_nil_right] at hm
  rcases List.mem_cons.mp hm with hm | hm
  · omega
  · exact hle.trans (h _ hm)

theorem exists_of_mem_row (h : n ∈ (sharedRow a [] b).tail) :
    ∃ s, s <:+ a ∧ s <:+: b ∧ s.length = n := by
  obtain ⟨t, ht, rfl⟩ := List.mem_map.mp (List.mem_of_mem_tail h)
  obtain ⟨s, ha, hb, hl⟩ := exists_sharedEnd a t
  exact ⟨s, ha, List.infix_iff_suffix_prefix.mpr ⟨t, hb, (List.mem_inits t b).mp ht⟩, hl⟩

end Cells

end Rows

section Table

variable {a b : List α} {found noted : FoundRun} {table : RunTable} {x : α}

/-- The run that is noted lies in the text, and it is the first of the longest common runs. -/
structure IsLongest (a b : List α) (found : FoundRun) : Prop where
  length_le : found.length ≤ found.stop
  stop_le : found.stop ≤ a.length
  longest : LongestRun a b (found.letters a)

theorem IsLongest.notes (h : IsLongest a b found)
    (hn : Notes (a.length + 1) (sharedRow (a ++ [x]) [] b).tail found noted) :
    IsLongest (a ++ [x]) b noted := by
  have hl : (found.letters a).length = found.length :=
    FoundRun.length_letters h.length_le h.stop_le
  have ha : (a ++ [x]).length = a.length + 1 := List.length_append
  cases hn with
  | keep hle =>
    refine ⟨h.length_le, ?_, ?_⟩
    · rw [ha]
      exact Nat.le_succ_of_le h.stop_le
    · rw [FoundRun.letters_append h.stop_le]
      exact h.longest.concat_keep fun t hta htb => hl ▸ length_le_of_row hle hta htb
  | take hm hlt hle =>
    obtain ⟨s, hsa, hsb, rfl⟩ := exists_of_mem_row hm
    refine ⟨?_, ?_, ?_⟩
    · exact ha ▸ hsa.length_le
    · exact Nat.le_of_eq ha.symm
    · rw [← ha, FoundRun.letters_of_isSuffix hsa]
      exact h.longest.concat_take hsa hsb (hl ▸ hlt) fun t hta htb => length_le_of_row hle hta htb

structure Tabulates (a b : List α) (table : RunTable) : Prop where
  rows : table.rows = (a.inits.map fun s => sharedRow s [] b).reverse
  found : IsLongest a b table.found

theorem tabulates_nil (b : List α) :
    Tabulates [] b ⟨[List.replicate (b.length + 1) 0], ⟨0, 0⟩⟩ where
  rows := by simp [sharedRow, sharedEnd_nil_left, List.map_const']
  found := ⟨Nat.le_refl 0, Nat.le_refl 0, .nil_left b⟩

theorem Tabulates.headD_rows (h : Tabulates a b table) :
    table.rows.headD [] = sharedRow a [] b := by
  rw [h.rows]
  induction a using List.reverseRecOn with
  | nil => rfl
  | append_singleton a x => simp [List.inits_append]

theorem Tabulates.next (h : Tabulates a b table) (x : α) :
    Tabulates (a ++ [x]) b (table.next b x (a.length + 1)) := by
  have hcells := fillRow_sharedRow a [] b x (a.length + 1) table.found
  have hnotes := notes_fillRow x (a.length + 1) b (sharedRow a [] b) table.found
  have hrow : 0 :: (sharedRow (a ++ [x]) [] b).tail = sharedRow (a ++ [x]) [] b := by
    rw [← sharedEnd_nil_right (a ++ [x]), ← sharedRow_eq_cons]
  rw [hcells] at hnotes
  rw [RunTable.next, h.headD_rows, hcells, hrow]
  refine ⟨?_, h.found.notes hnotes⟩
  rw [h.rows]
  simp [List.inits_append]

theorem runTable_concat (a b : List α) (x : α) :
    runTable (a ++ [x]) b = (runTable a b).next b x (a.length + 1) := by
  simp [runTable, List.zipIdx_append, Nat.add_comm]

theorem tabulates_runTable (a b : List α) : Tabulates a b (runTable a b) := by
  induction a using List.reverseRecOn with
  | nil => exact tabulates_nil b
  | append_singleton a x ih =>
    rw [runTable_concat]
    exact ih.next x

end Table

theorem longestRun_commonRun (a b : List α) : LongestRun a b (commonRun a b) := by
  rw [commonRun]
  split
  · rename_i hempty
    rcases Bool.or_eq_true_iff.mp hempty with ha | hb
    · rw [List.isEmpty_iff.mp ha]
      exact .nil_left b
    · rw [List.isEmpty_iff.mp hb]
      exact .nil_right a
  · exact (tabulates_runTable a b).found.longest

/-- The common run of two texts is the one longest run that they have in common and that comes first
in the first text. It is empty exactly if they have no letter in common. -/
theorem commonRun_longest_first (a b : List α) :
    (∀ run, run = commonRun a b ↔ LongestRun a b run) ∧
      (commonRun a b = [] ↔ ∀ x ∈ a, x ∉ b) := by
  have hrun := longestRun_commonRun a b
  refine ⟨fun run => ⟨fun h => h ▸ hrun, fun h => h.unique hrun⟩, ?_, ?_⟩
  · intro hnil x ha hb
    -- A letter in common would be a common run of one letter.
    have hle := hrun.longest [x] ((List.singleton_infix_iff x a).mpr ha)
      ((List.singleton_infix_iff x b).mpr hb)
    simp [hnil] at hle
  · intro hno
    rw [List.eq_nil_iff_forall_not_mem]
    intro x hx
    exact hno x (hrun.left.subset hx) (hrun.right.subset hx)

example : commonRun "GATTACA".toList "TACTGATA".toList = "GAT".toList ∧
    firstPlace "GAT".toList "GATTACA".toList = 0 ∧
    firstPlace "TAC".toList "GATTACA".toList = 3 := by
  decide

end Triplet
