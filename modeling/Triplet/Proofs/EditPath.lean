/-! # Edits one after another

A path of edits puts in, takes out or replaces one letter at a time. The length of the shortest path
between two texts follows from those between their tails. A path can be read backwards, so it
follows from those between the texts without their last letters just as well.
-/

namespace Triplet

section Paths

variable {α : Type}

inductive EditStep : List α → List α → Prop where
  | insert (x : α) (a : List α) : EditStep a (x :: a)
  | delete (x : α) (a : List α) : EditStep (x :: a) a
  | replace (x y : α) (a : List α) : EditStep (x :: a) (y :: a)
  | cons (x : α) {a b : List α} : EditStep a b → EditStep (x :: a) (x :: b)

/-- A number of edits that turn one text into another. -/
inductive EditPath : Nat → List α → List α → Prop where
  | refl (a : List α) : EditPath 0 a a
  | head {n : Nat} {a b c : List α} : EditStep a b → EditPath n b c → EditPath (n + 1) a c

theorem EditStep.symm {a b : List α} (h : EditStep a b) : EditStep b a := by
  induction h with
  | insert x a => exact .delete x a
  | delete x a => exact .insert x a
  | replace x y a => exact .replace y x a
  | cons x _ ih => exact .cons x ih

theorem EditStep.length_le {a b : List α} (h : EditStep a b) : b.length ≤ a.length + 1 := by
  induction h with
  | insert | delete | replace =>
    simp only [List.length_cons]
    omega
  | cons x _ ih => simpa using ih

theorem EditStep.append_right {a b : List α} (h : EditStep a b) (c : List α) :
    EditStep (a ++ c) (b ++ c) := by
  induction h with
  | insert x a => exact .insert x _
  | delete x a => exact .delete x _
  | replace x y a => exact .replace x y _
  | cons x _ ih => exact .cons x ih

theorem EditStep.append_left {a b : List α} (c : List α) (h : EditStep a b) :
    EditStep (c ++ a) (c ++ b) := by
  induction c with
  | nil => exact h
  | cons x c ih => exact .cons x ih

theorem EditStep.reverse {a b : List α} (h : EditStep a b) : EditStep a.reverse b.reverse := by
  induction h with
  | insert x a =>
    have hs := (EditStep.insert x []).append_left a.reverse
    rwa [List.append_nil, ← List.reverse_cons] at hs
  | delete x a =>
    have hs := (EditStep.delete x []).append_left a.reverse
    rwa [List.append_nil, ← List.reverse_cons] at hs
  | replace x y a =>
    rw [List.reverse_cons, List.reverse_cons]
    exact (EditStep.replace x y []).append_left a.reverse
  | cons x _ ih =>
    rw [List.reverse_cons, List.reverse_cons]
    exact ih.append_right [x]

theorem editStep_set {a : List α} {i : Nat} (h : i < a.length) (x : α) :
    EditStep a (a.set i x) := by
  induction a generalizing i with
  | nil => simp at h
  | cons y a ih =>
    cases i with
    | zero => exact .replace y x a
    | succ i => exact .cons y (ih (by simpa using h))

namespace EditPath

variable {m n : Nat} {a b c : List α}

theorem trans (h : EditPath m a b) (h' : EditPath n b c) : EditPath (m + n) a c := by
  induction h with
  | refl a => rwa [Nat.zero_add]
  | head hs _ ih =>
    rw [Nat.add_right_comm]
    exact .head hs (ih h')

theorem symm (h : EditPath n a b) : EditPath n b a := by
  induction h with
  | refl a => exact .refl a
  | head hs _ ih => exact ih.trans (.head hs.symm (.refl _))

theorem cons (x : α) (h : EditPath n a b) : EditPath n (x :: a) (x :: b) := by
  induction h with
  | refl a => exact .refl _
  | head hs _ ih => exact .head (.cons x hs) ih

theorem append_left (c : List α) (h : EditPath n a b) : EditPath n (c ++ a) (c ++ b) := by
  induction c with
  | nil => exact h
  | cons x c ih => exact ih.cons x

theorem reverse (h : EditPath n a b) : EditPath n a.reverse b.reverse := by
  induction h with
  | refl a => exact .refl _
  | head hs _ ih => exact .head hs.reverse ih

theorem append_right (h : EditPath n a b) (c : List α) : EditPath n (a ++ c) (b ++ c) := by
  induction h with
  | refl a => exact .refl _
  | head hs _ ih => exact .head (hs.append_right c) ih

theorem length_le (h : EditPath n a b) : b.length ≤ a.length + n := by
  induction h with
  | refl a => simp
  | head hs _ ih =>
    have hl := hs.length_le
    omega

theorem eq_of_zero (h : EditPath 0 a b) : a = b := by
  cases h
  rfl

theorem min (h : EditPath m a b) (h' : EditPath n a b) : EditPath (min m n) a b := by
  rw [Nat.min_def]
  split <;> assumption

theorem insert_all (b a : List α) : EditPath b.length a (b ++ a) := by
  induction b with
  | nil => exact .refl a
  | cons x b ih => exact .head (.insert x a) (ih.cons x)

end EditPath

end Paths

section Least

variable {α : Type} [DecidableEq α]

/-- The least number of edits, as the first letters decide on it. -/
def leastEdits : List α → List α → Nat
  | [], b => b.length
  | x :: a, [] => (x :: a).length
  | x :: a, y :: b =>
    min (min (leastEdits a (y :: b) + 1) (leastEdits a b + if y = x then 0 else 1))
      (leastEdits (x :: a) b + 1)
  termination_by a b => a.length + b.length

@[simp] theorem leastEdits_nil_left (b : List α) : leastEdits [] b = b.length := by
  rw [leastEdits]

@[simp] theorem leastEdits_nil_right (a : List α) : leastEdits a [] = a.length := by
  cases a <;> rw [leastEdits]

theorem leastEdits_cons_cons (x y : α) (a b : List α) :
    leastEdits (x :: a) (y :: b) =
      min (min (leastEdits a (y :: b) + 1) (leastEdits a b + if y = x then 0 else 1))
        (leastEdits (x :: a) b + 1) := by
  rw [leastEdits]

theorem editPath_leastEdits (a b : List α) : EditPath (leastEdits a b) a b := by
  fun_induction leastEdits a b with
  | case1 b => simpa using EditPath.insert_all b []
  | case2 x a => simpa using (EditPath.insert_all (x :: a) []).symm
  | case3 x a y b ihdelete ihreplace ihinsert =>
    have hdelete := EditPath.head (.delete x a) ihdelete
    have hinsert := EditPath.head (.insert y (x :: a)) (ihinsert.cons y)
    have hreplace : EditPath (leastEdits a b + if y = x then 0 else 1) (x :: a) (y :: b) := by
      by_cases hxy : y = x
      · rw [if_pos hxy, hxy]
        exact ihreplace.cons x
      · rw [if_neg hxy]
        exact .head (.replace x y a) (ihreplace.cons y)
    exact (hdelete.min hreplace).min hinsert

theorem leastEdits_cons_left_le (x : α) (a b : List α) :
    leastEdits (x :: a) b ≤ leastEdits a b + 1 := by
  cases b with
  | nil => simp
  | cons y b =>
    rw [leastEdits_cons_cons]
    omega

theorem EditStep.leastEdits_le {b b' : List α} (h : EditStep b b') (a : List α) :
    leastEdits a b' ≤ leastEdits a b + 1 := by
  induction h generalizing a with
  | insert y b =>
    cases a with
    | nil => simp
    | cons x a =>
      rw [leastEdits_cons_cons]
      omega
  | delete y b =>
    induction a with
    | nil =>
      simp only [leastEdits_nil_left, List.length_cons]
      omega
    | cons x a ih =>
      have hx := leastEdits_cons_left_le x a b
      rw [leastEdits_cons_cons]
      omega
  | replace y y' b =>
    induction a with
    | nil => simp
    | cons x a ih =>
      simp only [leastEdits_cons_cons]
      split <;> split <;> omega
  | cons y h ih =>
    rename_i b b'
    induction a with
    | nil =>
      have hl := h.length_le
      simpa using hl
    | cons x a iha =>
      have hb := ih a
      have hx := ih (x :: a)
      simp only [leastEdits_cons_cons]
      omega

theorem EditPath.leastEdits_le {n : Nat} {b c : List α} (h : EditPath n b c) (a : List α) :
    leastEdits a c ≤ leastEdits a b + n := by
  induction h with
  | refl b => exact Nat.le_refl _
  | head hs _ ih =>
    have hb := hs.leastEdits_le a
    omega

theorem leastEdits_self (a : List α) : leastEdits a a = 0 := by
  induction a with
  | nil => simp
  | cons x a ih => simp [leastEdits_cons_cons, ih]

theorem leastEdits_le_of_path {n : Nat} {a b : List α} (h : EditPath n a b) :
    leastEdits a b ≤ n := by
  have hn := h.leastEdits_le a
  rwa [leastEdits_self, Nat.zero_add] at hn

theorem leastEdits_le_max (a b : List α) : leastEdits a b ≤ max a.length b.length := by
  fun_induction leastEdits a b with
  | case1 b => simp
  | case2 x a => simp
  | case3 x a y b _ ih _ =>
    simp only [List.length_cons]
    split <;> omega

theorem leastEdits_reverse (a b : List α) : leastEdits a.reverse b.reverse = leastEdits a b := by
  apply Nat.le_antisymm
  · exact leastEdits_le_of_path (editPath_leastEdits a b).reverse
  · have hp := (editPath_leastEdits a.reverse b.reverse).reverse
    rw [List.reverse_reverse, List.reverse_reverse] at hp
    exact leastEdits_le_of_path hp

theorem leastEdits_concat_concat (a b : List α) (x y : α) :
    leastEdits (a ++ [x]) (b ++ [y]) =
      min (min (leastEdits a (b ++ [y]) + 1) (leastEdits a b + if y = x then 0 else 1))
        (leastEdits (a ++ [x]) b + 1) := by
  rw [← leastEdits_reverse (a ++ [x]), ← leastEdits_reverse a (b ++ [y]), ← leastEdits_reverse a b,
    ← leastEdits_reverse (a ++ [x]) b, List.reverse_concat, List.reverse_concat]
  exact leastEdits_cons_cons x y a.reverse b.reverse

end Least

end Triplet
