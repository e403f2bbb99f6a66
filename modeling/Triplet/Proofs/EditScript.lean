import Triplet.Proofs.DistanceRows

/-! # Edit scripts

A script is a list of edits, each of which names the place of one letter. The texts that a script
goes through are a path of edits, and every path is that of a script. So the edit distance is the
length of the shortest script that turns one text into another.
-/

namespace Triplet

variable {α : Type}

/-- One letter is put in before a place, or the letter at a place is taken out or replaced. -/
inductive LetterEdit (α : Type) where
  | insert (place : Nat) (x : α)
  | delete (place : Nat)
  | replace (place : Nat) (x : α)
  deriving DecidableEq, Repr

namespace LetterEdit

/-- The text after an edit, if it has the place that the edit names. -/
def after? (a : List α) : LetterEdit α → Option (List α)
  | insert place x => if place ≤ a.length then some (a.insertIdx place x) else none
  | delete place => if place < a.length then some (a.eraseIdx place) else none
  | replace place x => if place < a.length then some (a.set place x) else none

def later : LetterEdit α → LetterEdit α
  | insert place x => insert (place + 1) x
  | delete place => delete (place + 1)
  | replace place x => replace (place + 1) x

theorem after?_later (x : α) (a : List α) (e : LetterEdit α) :
    e.later.after? (x :: a) = (e.after? a).map (x :: ·) := by
  cases e with
  | insert place y =>
    by_cases h : place ≤ a.length <;> simp [later, after?, h, List.insertIdx_succ_cons]
  | delete place => by_cases h : place < a.length <;> simp [later, after?, h]
  | replace place y => by_cases h : place < a.length <;> simp [later, after?, h]

end LetterEdit

def edited (a : List α) : List (LetterEdit α) → Option (List α)
  | [] => some a
  | e :: script => (e.after? a).bind fun b => edited b script

theorem editStep_insertIdx {a : List α} {i : Nat} (h : i ≤ a.length) (x : α) :
    EditStep a (a.insertIdx i x) := by
  induction a generalizing i with
  | nil =>
    obtain rfl : i = 0 := by simpa using h
    exact .insert x []
  | cons y a ih =>
    cases i with
    | zero => exact .insert x (y :: a)
    | succ i => exact .cons y (ih (by simpa using h))

theorem editStep_eraseIdx {a : List α} {i : Nat} (h : i < a.length) :
    EditStep a (a.eraseIdx i) := by
  induction a generalizing i with
  | nil => simp at h
  | cons y a ih =>
    cases i with
    | zero => exact .delete y a
    | succ i => exact .cons y (ih (by simpa using h))

theorem editStep_iff {a b : List α} : EditStep a b ↔ ∃ e : LetterEdit α, e.after? a = some b := by
  constructor
  · intro h
    induction h with
    | insert x a => exact ⟨.insert 0 x, rfl⟩
    | delete x a => exact ⟨.delete 0, rfl⟩
    | replace x y a => exact ⟨.replace 0 y, rfl⟩
    | cons x _ ih =>
      obtain ⟨e, he⟩ := ih
      exact ⟨e.later, by rw [LetterEdit.after?_later, he]; rfl⟩
  · rintro ⟨e, he⟩
    cases e with
    | insert place x =>
      obtain ⟨hp, ⟨⟩⟩ := Option.ite_none_right_eq_some.mp he
      exact editStep_insertIdx hp x
    | delete place =>
      obtain ⟨hp, ⟨⟩⟩ := Option.ite_none_right_eq_some.mp he
      exact editStep_eraseIdx hp
    | replace place x =>
      obtain ⟨hp, ⟨⟩⟩ := Option.ite_none_right_eq_some.mp he
      exact editStep_set hp x

theorem editPath_iff {n : Nat} {a b : List α} :
    EditPath n a b ↔
      ∃ script : List (LetterEdit α), script.length = n ∧ edited a script = some b := by
  constructor
  · intro h
    induction h with
    | refl a => exact ⟨[], rfl, rfl⟩
    | head hs _ ih =>
      obtain ⟨e, he⟩ := editStep_iff.mp hs
      obtain ⟨script, hl, hb⟩ := ih
      exact ⟨e :: script, by rw [List.length_cons, hl], by rw [edited, he]; exact hb⟩
  · rintro ⟨script, rfl, hb⟩
    induction script generalizing a with
    | nil =>
      obtain rfl := Option.some.inj hb
      exact .refl a
    | cons e script ih =>
      obtain ⟨c, hc, hb⟩ := Option.bind_eq_some_iff.mp hb
      exact .head (editStep_iff.mpr ⟨e, hc⟩) (ih hb)

theorem exists_script_editDistance [DecidableEq α] (a b : List α) :
    ∃ script : List (LetterEdit α), edited a script = some b ∧ script.length = editDistance a b := by
  obtain ⟨script, hl, hb⟩ := editPath_iff.mp (editPath_editDistance a b)
  exact ⟨script, hb, hl⟩

theorem editDistance_le_of_script [DecidableEq α] {a b : List α} {script : List (LetterEdit α)}
    (h : edited a script = some b) : editDistance a b ≤ script.length :=
  editDistance_le_of_path (editPath_iff.mpr ⟨script, rfl, h⟩)

example : editDistance "kitten".toList "sitting".toList = 3 ∧
    edited "kitten".toList [.replace 0 's', .replace 4 'i', .insert 6 'g'] =
      some "sitting".toList := by
  decide

namespace CodePoint

theorem code_char_ne (c : Char) (n : Fin 0x800) : (char c).code ≠ (surrogate n).code := by
  have hc := c.valid
  have hn := n.isLt
  simp only [code, Char.toNat]
  rcases hc with hc | hc <;> omega

theorem code_injective : code.Injective := by
  intro c d h
  cases c with
  | char c =>
    cases d with
    | char d => rw [Char.toNat_inj.mp h]
    | surrogate n => exact absurd h (code_char_ne c n)
  | surrogate m =>
    cases d with
    | char d => exact absurd h.symm (code_char_ne d m)
    | surrogate n =>
      have hmn : (m : Nat) = n := Nat.add_left_cancel h
      rw [Fin.ext hmn]

variable {a b : List CodePoint}

theorem distance_of_findIdx?_eq_some {place : Nat} (h : b.findIdx? isSurrogate = some place) :
    distance a b = .error ⟨place⟩ := by
  rw [distance, utf32, h]
  rfl

theorem distance_of_findIdx?_eq_none (h : b.findIdx? isSurrogate = none) :
    distance a b = .ok (editDistance a b) := by
  rw [← editDistance_map a b code_injective, distance, utf32, h]
  rfl

theorem distance_chars (s t : List Char) :
    distance (s.map char) (t.map char) = .ok (editDistance s t) := by
  have hchars : (t.map char).findIdx? isSurrogate = none := by simp [isSurrogate]
  rw [distance_of_findIdx?_eq_none hchars, editDistance_map s t fun c d h => char.inj h]

example : distance [.surrogate 0] [.char 'A'] = .ok 1 ∧
    distance [.char 'A'] [.char 'A', .surrogate 0] = .error ⟨1⟩ := by
  decide

end CodePoint

end Triplet
