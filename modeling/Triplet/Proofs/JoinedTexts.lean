import Triplet.Proofs.ReadingFrame

/-! # Texts joined at a line end

A line end closes a comment and is no letter, so the letters of two texts with a newline between
them are those of the one and then those of the other, further down. Where the first text ends with
a whole codon, the frame starts anew, and the tokens of the second text are read as they are read
alone, unless a `PUSH` is still waiting for its operand.
-/

namespace Triplet

def Token.shift (letters lines : Nat) (t : Token) : Token :=
  { t with position := t.position + letters, line := t.line + lines }

namespace Genome

open Text

/-- The characters of a text that are neither blank nor in a comment. -/
def bases (text : List Char) : List Char := ((lines text).flatMap code).filter (!isBlank ·)

section Lines

theorem lines_ne_nil (text : List Char) : lines text ≠ [] := by
  cases text with
  | nil => simp [lines]
  | cons c text =>
    unfold lines
    split
    · simp
    · split <;> simp

theorem lines_cons_of_ne {c : Char} (h : c ≠ '\n') {text line : List Char}
    {rest : List (List Char)} (ht : lines text = line :: rest) :
    lines (c :: text) = (c :: line) :: rest := by
  rw [lines, if_neg h, ht]

theorem lines_append_newline (before after : List Char) :
    lines (before ++ '\n' :: after) = lines before ++ lines after := by
  induction before with
  | nil => simp [lines]
  | cons c before ih =>
    by_cases hc : c = '\n'
    · subst hc
      simp [lines, ih]
    · obtain ⟨line, rest, hb⟩ := List.exists_cons_of_ne_nil (lines_ne_nil before)
      rw [hb] at ih
      rw [List.cons_append, lines_cons_of_ne hc ih, lines_cons_of_ne hc hb]
      rfl

theorem length_lines (text : List Char) : (lines text).length = text.count '\n' + 1 := by
  induction text with
  | nil => rfl
  | cons c text ih =>
    by_cases hc : c = '\n'
    · subst hc
      simp [lines, ih]
    · obtain ⟨line, rest, ht⟩ := List.exists_cons_of_ne_nil (lines_ne_nil text)
      rw [lines_cons_of_ne hc ht, List.count_cons_of_ne hc, ← ih, ht]
      rfl

end Lines

section Letters

def Letter.down (count : Nat) (l : Letter) : Letter := { l with line := l.line + count }

theorem lettersFrom_append (number : Nat) (ls ls' : List (List Char)) :
    lettersFrom number (ls ++ ls') =
      lettersFrom number ls ++ lettersFrom (number + ls.length) ls' := by
  induction ls generalizing number with
  | nil => rfl
  | cons line ls ih =>
    rw [List.cons_append, lettersFrom, lettersFrom, ih, List.append_assoc, List.length_cons,
      Nat.add_comm ls.length, Nat.add_assoc]

theorem lettersFrom_add (number count : Nat) (ls : List (List Char)) :
    lettersFrom (number + count) ls = (lettersFrom number ls).map (Letter.down count) := by
  induction ls generalizing number with
  | nil => rfl
  | cons line ls ih =>
    rw [lettersFrom, lettersFrom, List.map_append, List.map_map, Nat.add_right_comm, ih]
    rfl

theorem letters_append_newline (before after : List Char) :
    letters (before ++ '\n' :: after) =
      letters before ++ (letters after).map (Letter.down (before.count '\n' + 1)) := by
  rw [letters, lines_append_newline, lettersFrom_append, length_lines, lettersFrom_add]
  rfl

theorem length_lettersFrom (number : Nat) (ls : List (List Char)) :
    (lettersFrom number ls).length = ((ls.flatMap code).filter (!isBlank ·)).length := by
  induction ls generalizing number with
  | nil => rfl
  | cons line ls ih =>
    rw [lettersFrom, List.length_append, List.length_map, ih, List.flatMap_cons,
      List.filter_append, List.length_append]

theorem length_letters (text : List Char) : (letters text).length = (bases text).length :=
  length_lettersFrom 1 (lines text)

end Letters

section Tokens

def awaitsOperand (afterPush : Bool) (ts : List Token) : Bool :=
  ts.getLast?.elim afterPush (·.opcode? = some .push)

theorem awaitsOperand_cons (afterPush : Bool) (t : Token) (ts : List Token) :
    awaitsOperand afterPush (t :: ts) = awaitsOperand (t.opcode? = some .push) ts := by
  unfold awaitsOperand
  rw [List.getLast?_cons]
  cases ts.getLast? <;> rfl

/-- After whole codons the reading goes on with what the last of them awaits. -/
theorem tokensFrom_append (afterPush : Bool) (position : Nat) {ls : List Letter}
    (h : 3 ∣ ls.length) (ls' : List Letter) :
    tokensFrom afterPush position (ls ++ ls') =
      tokensFrom afterPush position ls ++
        tokensFrom (awaitsOperand afterPush (tokensFrom afterPush position ls))
          (position + ls.length) ls' := by
  fun_induction tokensFrom afterPush position ls with
  | case1 afterPush position a b c rest codon token ih =>
    have hl : (a :: b :: c :: rest).length = rest.length + 3 := rfl
    have hr : 3 ∣ rest.length := by omega
    have hp : position + 3 + rest.length = position + (rest.length + 3) := by omega
    rw [awaitsOperand_cons, hl, ← hp]
    exact congrArg (token :: ·) (ih hr)
  | case2 ls afterPush position hs =>
    -- One or two letters are no whole codons.
    have hnil : ls = [] := by
      by_contra hne
      obtain ⟨a, rfl⟩ | ⟨a, b, rfl⟩ := one_or_two hs hne <;> simp at h
    subst hnil
    rfl

theorem tokensFrom_shift (afterPush : Bool) (position letters lines : Nat) (ls : List Letter) :
    tokensFrom afterPush (position + letters) (ls.map (Letter.down lines)) =
      (tokensFrom afterPush position ls).map (Token.shift letters lines) := by
  fun_induction tokensFrom afterPush position ls with
  | case1 afterPush position a b c rest codon token ih =>
    have ht : token.shift letters lines =
        ⟨codon, meaning afterPush codon, (position + letters : Nat), (a.line + lines : Nat)⟩ := by
      simp [token, Token.shift]
    rw [Nat.add_right_comm] at ih
    exact congrArg₂ List.cons ht.symm ih
  | case2 ls afterPush position hs =>
    rcases ls with _ | ⟨a, _ | ⟨b, _ | ⟨c, rest⟩⟩⟩
    · rfl
    · rfl
    · rfl
    · exact (hs a b c rest rfl).elim

/-- The tokens of two texts with a newline between them are those of the first and then those of the
second, further on and further down, if the first has whole codons only and no `PUSH` at its end. -/
theorem tokens_append_newline {before : List Char} (hb : 3 ∣ (bases before).length)
    (hp : ∀ t ∈ (tokens before).getLast?, t.opcode? ≠ some .push) (after : List Char) :
    tokens (before ++ '\n' :: after) = tokens before ++
      (tokens after).map (Token.shift (bases before).length (before.count '\n' + 1)) := by
  rw [← length_letters] at hb ⊢
  have hlast : awaitsOperand false (tokens before) = false := by
    unfold awaitsOperand
    cases hl : (tokens before).getLast? with
    | none => rfl
    | some t => exact decide_eq_false (hp t hl)
  calc tokens (before ++ '\n' :: after)
    _ = tokens before ++ tokensFrom (awaitsOperand false (tokens before))
          (0 + (letters before).length)
          ((letters after).map (Letter.down (before.count '\n' + 1))) := by
      rw [tokens, letters_append_newline, tokensFrom_append false 0 hb]
      rfl
    _ = _ := by
      rw [hlast, tokensFrom_shift]
      rfl

/-- A codon that goes over three lines, a `PUSH` codon that is itself an operand at the end,
comments on both sides of the seam, unknown codons and a last one that is incomplete. -/
theorem tokens_append_newline_operand :
    let before := "au ; ATG\r\n\n g Gß; \t\nx gaa gac ; GAA".toList
    let after := " ;; \nuaa 12\t3 GA".toList
    (bases before).length = 12 ∧ (∀ t ∈ (tokens before).getLast?, t.opcode? ≠ some .push) ∧
      tokens (before ++ '\n' :: after) =
        tokens before ++ (tokens after).map (Token.shift 12 4) ∧
      (tokens (before ++ '\n' :: after)).map (fun t => (t.codon, t.position, t.line)) =
        [("ATG".toList, 0, 1), ("GSSX".toList, 3, 3), ("GAA".toList, 6, 4), ("GAC".toList, 9, 4),
          ("TAA".toList, 12, 6), ("123".toList, 15, 6)] := by
  intro before after
  have hl : (bases before).length = 12 := by decide +kernel
  have hp : ∀ t ∈ (tokens before).getLast?, t.opcode? ≠ some .push := by decide +kernel
  have hc : before.count '\n' = 3 := by decide +kernel
  have h := tokens_append_newline (by rw [hl]; decide) hp after
  rw [hl, hc] at h
  exact ⟨hl, hp, h, by decide +kernel⟩

end Tokens

end Genome

end Triplet
