import Mathlib.Data.List.Infix
import Triplet.Proofs.EditPath
import Triplet.Similarity.Distance

/-! # Rows of distances

A row holds the least numbers of edits that lead from the letters read so far to the prefixes of the
second text. The next row takes the costs of taking out and of replacing the new letter from the row
before; what is left is the cost of putting in the last letter of a prefix, which needs the entry to
the left in its final form. So the edit distance is the length of the shortest path of edits. It is
symmetric, it obeys the triangle inequality, and the lengths of the texts bound it.
-/

namespace Triplet

variable {α : Type} [DecidableEq α]

section Rows

/-- The least numbers of edits from `a` to `before` and to its extensions by the letters of `b`. -/
def editsRow (a before b : List α) : List Nat := b.inits.map fun t => leastEdits a (before ++ t)

theorem editsRow_cons (a before : List α) (y : α) (b : List α) :
    editsRow a before (y :: b) = leastEdits a before :: editsRow a (before ++ [y]) b := by
  simp [editsRow]

theorem editsRow_eq_cons (a before b : List α) :
    editsRow a before b = leastEdits a before :: (editsRow a before b).tail := by
  cases b <;> simp [editsRow]

theorem getLastD_editsRow (a before b : List α) (n : Nat) :
    (editsRow a before b).getLastD n = leastEdits a (before ++ b) := by
  induction b generalizing before n with
  | nil => simp [editsRow]
  | cons y b ih =>
    rw [editsRow_cons, List.getLastD_cons, ih, List.append_assoc]
    rfl

theorem editsRow_nil_left (before b : List α) :
    editsRow [] before b = List.range' before.length (b.length + 1) := by
  induction b generalizing before with
  | nil => simp [editsRow]
  | cons y b ih =>
    rw [editsRow_cons, ih, List.length_cons, List.range'_succ, leastEdits_nil_left,
      List.length_append]
    rfl

theorem replaceRow_cons_cons (x y : α) (b : List α) (n m : Nat) (row : List Nat) :
    replaceRow x (y :: b) (n :: m :: row) =
      min (m + 1) (n + if y = x then 0 else 1) :: replaceRow x b (m :: row) := rfl

theorem insertRow_cons (left n : Nat) (row : List Nat) :
    insertRow left (n :: row) = min n (left + 1) :: insertRow (min n (left + 1)) row := by
  have hmin : (if left + 1 < n then left + 1 else n) = min n (left + 1) := by split <;> omega
  rw [insertRow, hmin]

/-- The pass from left to right completes a row: the entries that it comes to are the costs of taking
out and of replacing, and the entry to their left is the least number of edits already. -/
theorem insertRow_replaceRow (a before b : List α) (x : α) :
    insertRow (leastEdits (a ++ [x]) before) (replaceRow x b (editsRow a before b)) =
      (editsRow (a ++ [x]) before b).tail := by
  induction b generalizing before with
  | nil => rfl
  | cons y b ih =>
    have hrest := ih (before ++ [y])
    rw [editsRow_eq_cons a (before ++ [y])] at hrest
    rw [editsRow_cons, editsRow_cons, List.tail_cons, editsRow_eq_cons a (before ++ [y]),
      editsRow_eq_cons (a ++ [x]) (before ++ [y]), replaceRow_cons_cons, insertRow_cons,
      ← leastEdits_concat_concat, hrest]

theorem nextRow_editsRow (a b : List α) (x : α) :
    nextRow b (editsRow a [] b) x (a.length + 1) = editsRow (a ++ [x]) [] b := by
  have hlength : a.length + 1 = leastEdits (a ++ [x]) [] := by simp
  rw [editsRow_eq_cons (a ++ [x]), ← insertRow_replaceRow, nextRow, hlength]

theorem distanceRow_concat (a b : List α) (x : α) :
    distanceRow (a ++ [x]) b = nextRow b (distanceRow a b) x (a.length + 1) := by
  simp [distanceRow, List.zipIdx_append, Nat.add_comm]

theorem distanceRow_eq (a b : List α) : distanceRow a b = editsRow a [] b := by
  induction a using List.reverseRecOn with
  | nil =>
    rw [editsRow_nil_left, List.length_nil, ← List.range_eq_range']
    rfl
  | append_singleton a x ih => rw [distanceRow_concat, ih, nextRow_editsRow]

theorem editDistance_eq_leastEdits (a b : List α) : editDistance a b = leastEdits a b := by
  rw [editDistance, distanceRow_eq, getLastD_editsRow]
  rfl

end Rows

section Distance

variable (a b c : List α)

theorem editPath_editDistance : EditPath (editDistance a b) a b := by
  rw [editDistance_eq_leastEdits]
  exact editPath_leastEdits a b

theorem editDistance_le_of_path {n : Nat} {a b : List α} (h : EditPath n a b) :
    editDistance a b ≤ n := by
  rw [editDistance_eq_leastEdits]
  exact leastEdits_le_of_path h

@[simp] theorem editDistance_self : editDistance a a = 0 :=
  Nat.le_zero.mp (editDistance_le_of_path (.refl a))

theorem editDistance_comm : editDistance a b = editDistance b a :=
  Nat.le_antisymm (editDistance_le_of_path (editPath_editDistance b a).symm)
    (editDistance_le_of_path (editPath_editDistance a b).symm)

theorem editDistance_triangle : editDistance a c ≤ editDistance a b + editDistance b c :=
  editDistance_le_of_path ((editPath_editDistance a b).trans (editPath_editDistance b c))

theorem editDistance_eq_zero_iff : editDistance a b = 0 ↔ a = b := by
  constructor
  · intro h
    have hp := editPath_editDistance a b
    rw [h] at hp
    exact hp.eq_of_zero
  · rintro rfl
    exact editDistance_self a

theorem length_le_add_editDistance : b.length ≤ a.length + editDistance a b :=
  (editPath_editDistance a b).length_le

theorem editDistance_le_max : editDistance a b ≤ max a.length b.length := by
  rw [editDistance_eq_leastEdits]
  exact leastEdits_le_max a b

theorem editDistance_between_le (before after : List α) :
    editDistance (before ++ a ++ after) (before ++ b ++ after) ≤ editDistance a b :=
  editDistance_le_of_path (((editPath_editDistance a b).append_left before).append_right after)

theorem editDistance_set {i : Nat} (h : i < a.length) {x : α} (hx : a[i] ≠ x) :
    editDistance a (a.set i x) = 1 := by
  have hle := editDistance_le_of_path (.head (editStep_set h x) (.refl _))
  have hne : editDistance a (a.set i x) ≠ 0 := by
    rw [ne_eq, editDistance_eq_zero_iff]
    intro he
    have hi := congrArg (·[i]?) he
    simp only [List.getElem?_set_self h, List.getElem?_eq_getElem h] at hi
    exact hx (Option.some.inj hi)
  omega

theorem editDistance_insert (before after : List α) :
    editDistance (before ++ after) (before ++ a ++ after) = a.length := by
  apply Nat.le_antisymm
  · rw [List.append_assoc]
    exact editDistance_le_of_path ((EditPath.insert_all a after).append_left before)
  · have hl := length_le_add_editDistance (before ++ after) (before ++ a ++ after)
    simp only [List.length_append] at hl
    omega

theorem editDistance_flatten_set_le {pieces : List (List α)} {i : Nat} (h : i < pieces.length) :
    editDistance pieces.flatten (pieces.set i a).flatten ≤ editDistance pieces[i] a := by
  have hp : pieces = pieces.take i ++ pieces[i] :: pieces.drop (i + 1) := by
    rw [← List.drop_eq_getElem_cons h, List.take_append_drop]
  have hs : pieces.set i a = pieces.take i ++ a :: pieces.drop (i + 1) := by
    rw [List.set_eq_take_append_cons_drop, if_pos h]
  have hf := congrArg List.flatten hp
  rw [List.flatten_append, List.flatten_cons, ← List.append_assoc] at hf
  rw [hf, hs, List.flatten_append, List.flatten_cons, ← List.append_assoc]
  exact editDistance_between_le pieces[i] a _ _

theorem editDistance_map {β : Type} [DecidableEq β] {f : α → β} (hf : f.Injective) :
    editDistance (a.map f) (b.map f) = editDistance a b := by
  rw [editDistance_eq_leastEdits, editDistance_eq_leastEdits]
  fun_induction leastEdits a b with
  | case1 b => simp
  | case2 x a => simp
  | case3 x a y b ihdelete ihreplace ihinsert =>
    simp only [List.map_cons, leastEdits_cons_cons, hf.eq_iff] at ihdelete ihinsert ⊢
    rw [ihdelete, ihreplace, ihinsert]

end Distance

end Triplet
