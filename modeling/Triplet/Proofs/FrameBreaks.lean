import Triplet.Genome.Problem

/-! # Breaks of the reading frame

The lines of a text are searched for breaks with a counter of letters and a flag for the blank
before. A break has a meaning without either: a blank right after a letter, where the letters of
the line so far are no multiple of three. The search reports exactly the breaks, by line and column,
and after them the letters that are left over at the end of the strand.
-/

namespace Triplet

def Problem.Precedes : Problem → Problem → Prop
  | brokenTriplet line column _, brokenTriplet line' column' _ =>
    line < line' ∨ line = line' ∧ column < column'
  | _, _ => False

namespace Genome

open Text

def lettersBefore (line : List Char) (column : Nat) : Nat :=
  (line.take column).countP (!isBlank ·)

/-- In a line of characters, a blank right after a letter, where the letters so far are no multiple
of three. -/
def BrokenAt (cs : List Char) (column : Nat) : Prop :=
  cs[column]?.any isBlank ∧ (0 < column ∧ cs[column - 1]?.any (!isBlank ·)) ∧
    lettersBefore cs column % 3 ≠ 0

instance (line : List Char) : DecidablePred (BrokenAt line) := fun _ =>
  inferInstanceAs (Decidable (_ ∧ _ ∧ _))

def breakAt (number : Nat) (line : List Char) (column : Nat) : Problem :=
  .brokenTriplet number column (lettersBefore line column % 3)

section Line

variable (number : Nat) (seen rest : List Char)

theorem lettersBefore_append :
    lettersBefore (seen ++ rest) seen.length = seen.countP (!isBlank ·) := by
  rw [lettersBefore, List.take_left]

theorem brokenAt_length_iff (c : Char) :
    BrokenAt (seen ++ c :: rest) seen.length ↔
      isBlank c ∧ seen.countP (!isBlank ·) % 3 ≠ 0 ∧ seen.getLast?.any isBlank = false := by
  unfold BrokenAt
  rw [lettersBefore_append]
  rcases List.eq_nil_or_concat seen with rfl | ⟨seen, last, rfl⟩
  · simp
  · simp [and_comm]

theorem breaks_cons (column count : Nat) (afterBlank : Bool) (c : Char) :
    breaks number column count afterBlank (c :: rest) =
      (if isBlank c ∧ count % 3 ≠ 0 ∧ afterBlank = false then
        [.brokenTriplet number column (count % 3)] else []) ++
      breaks number (column + 1) (count + if isBlank c then 0 else 1) (isBlank c) rest := by
  by_cases hc : isBlank c <;> simp [breaks, hc]

/-- The counter holds the letters that were seen, and the flag tells whether the last character was
a blank; so the search lists the columns of all breaks in what is left. -/
theorem breaks_eq :
    breaks number seen.length (seen.countP (!isBlank ·)) (seen.getLast?.any isBlank) rest =
      ((List.range' seen.length rest.length).filter (BrokenAt (seen ++ rest) ·)).map
        (breakAt number (seen ++ rest)) := by
  induction rest generalizing seen with
  | nil => rfl
  | cons c rest ih =>
    -- The next character is seen, and both the counter and the flag keep their meaning.
    have hcount : (seen ++ [c]).countP (!isBlank ·) =
        seen.countP (!isBlank ·) + if isBlank c then 0 else 1 := by
      by_cases hc : isBlank c <;> simp [hc]
    have hi := ih (seen ++ [c])
    rw [hcount, List.getLast?_concat, List.length_append, List.append_assoc] at hi
    rw [breaks_cons, List.length_cons, List.range'_succ, List.filter_cons]
    have hiff := brokenAt_length_iff seen rest c
    by_cases h : BrokenAt (seen ++ c :: rest) seen.length
    · rw [if_pos (hiff.mp h), if_pos (decide_eq_true h), List.map_cons, breakAt,
        lettersBefore_append]
      exact congrArg (List.cons _) hi
    · rw [if_neg (mt hiff.mpr h), if_neg (mt of_decide_eq_true h)]
      exact hi

variable {number} {line : List Char} {p : Problem}

theorem BrokenAt.lt_length {column : Nat} (h : BrokenAt line column) : column < line.length := by
  apply Nat.lt_of_not_le
  intro hle
  simp [BrokenAt, List.getElem?_eq_none hle] at h

theorem mem_breaks_iff :
    p ∈ breaks number 0 0 false line ↔
      ∃ column, BrokenAt line column ∧ p = breakAt number line column := by
  have h : breaks number 0 0 false line = _ := breaks_eq number [] line
  rw [h]
  simp only [List.nil_append, List.length_nil, List.mem_map, List.mem_filter, List.mem_range'_1,
    decide_eq_true_eq]
  constructor
  · rintro ⟨column, ⟨-, hb⟩, rfl⟩
    exact ⟨column, hb, rfl⟩
  · rintro ⟨column, hb, rfl⟩
    have hlt := hb.lt_length
    exact ⟨column, ⟨by omega, hb⟩, rfl⟩

theorem pairwise_breaks (number : Nat) (line : List Char) :
    (breaks number 0 0 false line).Pairwise Problem.Precedes := by
  have h : breaks number 0 0 false line = _ := breaks_eq number [] line
  rw [h, List.pairwise_map]
  refine List.Pairwise.imp ?_ (List.Pairwise.filter _ List.pairwise_lt_range')
  intro column column' hlt
  exact .inr ⟨rfl, hlt⟩

end Line

section Lines

theorem mem_breaksFrom_iff {number : Nat} {ls : List (List Char)} {p : Problem} :
    p ∈ breaksFrom number ls ↔ ∃ i line column, ls[i]? = some line ∧
      BrokenAt (code line) column ∧ p = breakAt (number + i) (code line) column := by
  induction ls generalizing number with
  | nil => simp [breaksFrom]
  | cons first ls ih =>
    rw [breaksFrom, List.mem_append, mem_breaks_iff, ih]
    constructor
    · rintro (⟨column, hb, rfl⟩ | ⟨i, line, column, hl, hb, rfl⟩)
      · exact ⟨0, first, column, rfl, hb, rfl⟩
      · exact ⟨i + 1, line, column, hl, hb, by rw [Nat.add_right_comm, Nat.add_assoc]⟩
    · rintro ⟨i, line, column, hl, hb, rfl⟩
      cases i with
      | zero =>
        obtain rfl := Option.some.inj hl
        exact .inl ⟨column, hb, rfl⟩
      | succ i =>
        exact .inr ⟨i, line, column, hl, hb, by rw [Nat.add_right_comm, Nat.add_assoc]⟩

theorem pairwise_breaksFrom (number : Nat) (ls : List (List Char)) :
    (breaksFrom number ls).Pairwise Problem.Precedes := by
  induction ls generalizing number with
  | nil => exact .nil
  | cons line ls ih =>
    rw [breaksFrom, List.pairwise_append]
    refine ⟨pairwise_breaks number _, ih (number + 1), ?_⟩
    intro p hp q hq
    obtain ⟨column, -, rfl⟩ := mem_breaks_iff.mp hp
    obtain ⟨i, line', column', -, -, rfl⟩ := mem_breaksFrom_iff.mp hq
    refine .inl ?_
    omega

end Lines

/-- The warnings about the reading frame of a text are one for each break, by line and then by
column, with the letters of the line before it that make no whole codon; and, if the strand has
letters left over, one more where these begin. -/
theorem frameProblems_exact (text : List Char) :
    (∃ broken, frameProblems text = broken ++
        (if (clean text).length % 3 = 0 then [] else [.trailingBases (clean text).length]) ∧
      broken.Pairwise Problem.Precedes ∧
      ∀ p : Problem, p ∈ broken ↔ ∃ (i : Nat) (line : List Char) (column : Nat),
        (lines text)[i]? = some line ∧ BrokenAt (code line) column ∧ p.position = column ∧
        p = .brokenTriplet (i + 1) column (lettersBefore (code line) column % 3)) ∧
      (Problem.trailingBases (clean text).length).position =
        ((clean text).length - (clean text).length % 3 : Nat) ∧
      ∀ p ∈ frameProblems text, p.severity = .warning := by
  refine ⟨⟨breaksFrom 1 (lines text), rfl, pairwise_breaksFrom 1 _, ?_⟩, rfl, ?_⟩
  · intro p
    rw [mem_breaksFrom_iff]
    constructor
    · rintro ⟨i, line, column, hl, hb, rfl⟩
      exact ⟨i, line, column, hl, hb, rfl, by rw [breakAt, Nat.add_comm]⟩
    · rintro ⟨i, line, column, hl, hb, -, rfl⟩
      exact ⟨i, line, column, hl, hb, by rw [breakAt, Nat.add_comm]⟩
  · intro p hp
    rcases List.mem_append.mp hp with hp | hp
    · obtain ⟨i, line, column, -, -, rfl⟩ := mem_breaksFrom_iff.mp hp
      rfl
    · split at hp
      · cases hp
      · rw [List.mem_singleton.mp hp]
        rfl

example : frameProblems "AT G\rTAA ;A T\n\tUAC CC\n A  T ".toList =
    [.brokenTriplet 1 2 2, .brokenTriplet 3 2 1, .brokenTriplet 3 5 2, .trailingBases 13] := by
  decide +kernel

end Genome

end Triplet
