import Mathlib.Data.List.TakeWhile
import Triplet.Genome.Token
import Triplet.Proofs.UpperCase

/-! # The reading frame

The strand of a genome text has raised letters only, and so a text that is put together from codons
has them for its strand. If every letter is raised to one character, then the tokens are the whole
codons of the strand.
-/

namespace Triplet.Genome

open Text

def SingleCase (text : List Char) : Prop :=
  ∀ line ∈ lines text, ∀ c ∈ code line, isBlank c = false → (upper c).length = 1

theorem all_singleCase_iff {text : List Char} :
    ((lines text).all fun line => (code line).all fun c => isBlank c || (upper c).length == 1) =
      true ↔ SingleCase text := by
  simp [SingleCase, or_iff_not_imp_left]

instance (text : List Char) : Decidable (SingleCase text) := decidable_of_iff _ all_singleCase_iff

structure Settled (c : Char) : Prop extends Raised c where
  base : c ≠ 'U'

namespace Settled

variable {c : Char} (h : Settled c)
include h

theorem raise_eq : raise c = [c] := by
  simp [raise, h.upper, h.base]

theorem comment : isComment c = false := by
  simp [isComment, h.semicolon]

end Settled

theorem settled_toChar (b : Base) : Settled b.toChar := by
  cases b <;> exact ⟨⟨by decide, by decide, by decide⟩, by decide⟩

theorem settled_of_mem_raise {c d : Char} (h : d ∈ raise c) (hb : isBlank c = false)
    (hc : isComment c = false) : Settled d := by
  by_cases hu : upper c = ['U']
  · rw [raise, hu, if_pos rfl, List.mem_singleton] at h
    exact h ▸ settled_toChar .t
  · rw [raise, if_neg hu] at h
    refine ⟨raised_of_mem_upper h hb (by simpa [isComment] using hc), ?_⟩
    rintro rfl
    exact hu (upper_eq_of_mem h)

theorem exists_of_mem_lettersFrom {number : Nat} {ls : List (List Char)} {l : Letter}
    (h : l ∈ lettersFrom number ls) :
    ∃ line ∈ ls, ∃ c ∈ code line, isBlank c = false ∧ l.text = raise c := by
  induction ls generalizing number with
  | nil => simp [lettersFrom] at h
  | cons line rest ih =>
    rw [lettersFrom, List.mem_append] at h
    rcases h with h | h
    · obtain ⟨c, hc, rfl⟩ := List.mem_map.mp h
      obtain ⟨hc, hb⟩ := List.mem_filter.mp hc
      exact ⟨line, by simp, c, hc, by simpa using hb, rfl⟩
    · obtain ⟨line', hl, hr⟩ := ih h
      exact ⟨line', by simp [hl], hr⟩

theorem not_isComment_of_mem_code {line : List Char} {c : Char} (h : c ∈ code line) :
    isComment c = false := by
  simpa using List.mem_takeWhile_imp h

theorem settled_clean {text : List Char} {c : Char} (h : c ∈ clean text) : Settled c := by
  obtain ⟨l, hl, hc⟩ := List.mem_flatMap.mp h
  obtain ⟨line, -, d, hd, hb, hr⟩ := exists_of_mem_lettersFrom hl
  exact settled_of_mem_raise (hr ▸ hc) hb (not_isComment_of_mem_code hd)

theorem SingleCase.letter {text : List Char} (h : SingleCase text) {l : Letter}
    (hl : l ∈ letters text) : ∃ d, l.text = [d] := by
  obtain ⟨line, hline, c, hc, hb, hr⟩ := exists_of_mem_lettersFrom hl
  rw [hr, raise]
  split
  · exact ⟨'T', rfl⟩
  · exact List.length_eq_one_iff.mp (h line hline c hc hb)

theorem one_or_two {α : Type} {rest : List α}
    (hlong : ∀ (a b c : α) (l : List α), rest = a :: b :: c :: l → False)
    (hnil : rest = [] → False) : (∃ a, rest = [a]) ∨ ∃ a b, rest = [a, b] := by
  rcases rest with _ | ⟨a, _ | ⟨b, _ | ⟨c, l⟩⟩⟩
  · exact (hnil rfl).elim
  · exact .inl ⟨a, rfl⟩
  · exact .inr ⟨a, b, rfl⟩
  · exact (hlong a b c l rfl).elim

theorem flatten_triples {α : Type} (strand : List α) : (triples strand).flatten = strand := by
  fun_induction triples strand with
  | case1 a b c rest ih => simp [ih]
  | case2 => rfl
  | case3 rest => simp

theorem settled_of_mem_triples {strand codon : List Char} (hs : ∀ c ∈ strand, Settled c)
    (h : codon ∈ triples strand) : ∀ c ∈ codon, Settled c := by
  intro c hc
  apply hs
  rw [← flatten_triples strand]
  exact List.mem_flatten.mpr ⟨codon, h, hc⟩

theorem settled_split {text codon : List Char} (h : codon ∈ split text) :
    ∀ c ∈ codon, Settled c :=
  settled_of_mem_triples (fun _ => settled_clean) h

theorem triples_set {α : Type} (strand : List α) (place : Nat) (x y z : α) :
    ∃ strand', (triples strand).set place [x, y, z] = triples strand' := by
  fun_induction triples strand generalizing place with
  | case1 a b c rest ih =>
    cases place with
    | zero => exact ⟨x :: y :: z :: rest, rfl⟩
    | succ place =>
      obtain ⟨strand', h⟩ := ih place
      exact ⟨a :: b :: c :: strand', by simp [triples, h]⟩
  | case2 => exact ⟨[], rfl⟩
  | case3 rest h₁ h₂ =>
    cases place with
    | zero => exact ⟨[x, y, z], rfl⟩
    | succ place => exact ⟨rest, by rw [triples]; rfl; all_goals assumption⟩

theorem lines_of_no_newline {text : List Char} (h : '\n' ∉ text) : lines text = [text] := by
  induction text with
  | nil => rfl
  | cons c text ih =>
    simp only [List.mem_cons, not_or] at h
    rw [lines, if_neg (Ne.symm h.1), ih h.2]

theorem no_newline_of_settled {text : List Char} (h : ∀ c ∈ text, c = ' ' ∨ Settled c) :
    '\n' ∉ text := by
  intro hn
  rcases h _ hn with hs | hs
  · exact absurd hs (by decide)
  · exact absurd hs.blank (by decide)

theorem code_of_settled {text : List Char} (h : ∀ c ∈ text, c = ' ' ∨ Settled c) :
    code text = text := by
  rw [code, List.takeWhile_eq_self_iff]
  intro c hc
  rcases h c hc with rfl | hs
  · rfl
  · simp [hs.comment]

theorem letters_of_settled {text : List Char} (h : ∀ c ∈ text, c = ' ' ∨ Settled c) :
    letters text = (text.filter (· ≠ ' ')).map fun c => ⟨[c], 1⟩ := by
  have hf : text.filter (!isBlank ·) = text.filter (· ≠ ' ') := by
    refine List.filter_congr fun c hc => ?_
    rcases h c hc with rfl | hs
    · rfl
    · have hne : c ≠ ' ' := by
        rintro rfl
        exact absurd hs.blank (by decide)
      simp [hs.blank, hne]
  rw [letters, lines_of_no_newline (no_newline_of_settled h), lettersFrom, lettersFrom,
    List.append_nil, code_of_settled h, hf]
  refine List.map_congr_left fun c hm => ?_
  obtain ⟨hm, hne⟩ := List.mem_filter.mp hm
  have hs := (h c hm).resolve_left (by simpa using hne)
  rw [hs.raise_eq]

theorem joinCodons_cons_cons (codon next : List Char) (rest : List (List Char)) :
    joinCodons (codon :: next :: rest) = codon ++ ' ' :: joinCodons (next :: rest) := by
  simp [joinCodons, List.intercalate]

theorem filter_joinCodons {codons : List (List Char)} (h : ∀ codon ∈ codons, ' ' ∉ codon) :
    (joinCodons codons).filter (· ≠ ' ') = codons.flatten := by
  have hf {codon : List Char} (h : ' ' ∉ codon) : codon.filter (· ≠ ' ') = codon := by
    rw [List.filter_eq_self]
    intro c hc
    simpa using fun hs : c = ' ' => h (hs ▸ hc)
  induction codons with
  | nil => rfl
  | cons codon rest ih =>
    have hr := ih fun c hc => h c (by simp [hc])
    cases rest with
    | nil => simpa [joinCodons, List.intercalate] using hf (h codon (by simp))
    | cons next rest =>
      rw [joinCodons_cons_cons, List.filter_append, hf (h codon (by simp)),
        List.filter_cons_of_neg (by simp), hr]
      rfl

section Codons

variable {codons : List (List Char)} (h : ∀ codon ∈ codons, ∀ c ∈ codon, Settled c)
include h

theorem filter_joinCodons_of_settled : (joinCodons codons).filter (· ≠ ' ') = codons.flatten := by
  refine filter_joinCodons fun codon hc hs => ?_
  exact absurd (h codon hc _ hs).blank (by decide)

theorem settled_of_mem_joinCodons {c : Char} (hc : c ∈ joinCodons codons) :
    c = ' ' ∨ Settled c := by
  by_cases hs : c = ' '
  · exact .inl hs
  · have hm : c ∈ (joinCodons codons).filter (· ≠ ' ') := by simp [hc, hs]
    rw [filter_joinCodons_of_settled h] at hm
    obtain ⟨codon, hcodon, hc⟩ := List.mem_flatten.mp hm
    exact .inr (h codon hcodon c hc)

theorem clean_joinCodons : clean (joinCodons codons) = codons.flatten := by
  have hs (c : Char) (hc : c ∈ joinCodons codons) := settled_of_mem_joinCodons h hc
  rw [clean, letters_of_settled hs, filter_joinCodons_of_settled h, List.flatMap_map]
  exact List.flatMap_singleton' _

theorem singleCase_joinCodons : SingleCase (joinCodons codons) := by
  intro line hline c hc hb
  have hs (c : Char) (hc : c ∈ joinCodons codons) := settled_of_mem_joinCodons h hc
  rw [lines_of_no_newline (no_newline_of_settled hs), List.mem_singleton] at hline
  have hm : c ∈ joinCodons codons := by
    rw [← hline]
    exact (List.takeWhile_prefix _).subset hc
  rcases hs c hm with rfl | hs
  · exact absurd hb (by decide)
  · simp [hs.upper]

end Codons

/-- Read codons one after another; a piece that is no whole codon ends the reading. -/
def readings (afterPush : Bool) : List (List Char) → List (List Char × Meaning)
  | [] => []
  | codon :: rest =>
    if codon.length = 3 then
      (codon, meaning afterPush codon) ::
        readings (meaning afterPush codon = .instruction .push) rest
    else []

theorem lt_length_readings {strand codon : List Char} {place : Nat}
    (h : (triples strand)[place]? = some codon) (hl : codon.length = 3) (afterPush : Bool) :
    place < (readings afterPush (triples strand)).length := by
  fun_induction triples strand generalizing place afterPush with
  | case1 a b c rest ih =>
    rw [readings, if_pos (show [a, b, c].length = 3 from rfl), List.length_cons]
    cases place with
    | zero => exact Nat.succ_pos _
    | succ place => exact Nat.succ_lt_succ (ih (by simpa using h) _)
  | case2 => simp at h
  | case3 rest h₁ h₂ =>
    cases place with
    | zero =>
      obtain rfl : rest = codon := by simpa using h
      simp [readings, hl]
    | succ place => simp at h

theorem opcode?_eq_push_iff {t : Token} :
    t.opcode? = some .push ↔ t.meaning = .instruction .push := by
  cases h : t.meaning <;> simp [Token.opcode?, h]

theorem meaning_of_mem_tokensFrom {afterPush : Bool} {position : Nat} {ls : List Letter} {t : Token}
    (h : t ∈ tokensFrom afterPush position ls) : ∃ b, t.meaning = meaning b t.codon := by
  fun_induction tokensFrom afterPush position ls with
  | case1 afterPush position a b c rest codon token ih =>
    rcases List.mem_cons.mp h with rfl | h
    · exact ⟨afterPush, rfl⟩
    · exact ih h
  | case2 => cases h

theorem meaning_eq_push_iff (afterPush : Bool) (codon : List Char) :
    meaning afterPush codon = .instruction .push ↔
      afterPush = false ∧ Codon.opcode? codon = some .push := by
  cases afterPush <;> cases h : Codon.read? codon <;> simp [meaning, Codon.opcode?, h]

theorem le_of_mem_operandPlaces {operand : Bool} {index place : Nat} {codons : List (List Char)}
    (h : place ∈ operandPlaces.go operand index codons) : index ≤ place := by
  induction codons generalizing operand index with
  | nil => simp [operandPlaces.go] at h
  | cons codon rest ih =>
    rw [operandPlaces.go] at h
    split at h
    · rcases List.mem_cons.mp h with rfl | h
      · exact Nat.le_refl _
      · exact Nat.le_of_succ_le (ih h)
    · exact Nat.le_of_succ_le (ih h)

theorem mem_operandPlaces_self {operand : Bool} {index : Nat} {codon : List Char}
    {rest : List (List Char)} :
    index ∈ operandPlaces.go operand index (codon :: rest) ↔ operand = true := by
  have hn {operand : Bool} : index ∉ operandPlaces.go operand (index + 1) rest := fun h =>
    Nat.not_succ_le_self index (le_of_mem_operandPlaces h)
  cases operand <;> simp [operandPlaces.go, hn]

/-- Operand places take the same codons for a `PUSH` as tokens do. -/
theorem mem_operandPlaces_succ {operand : Bool} {index place : Nat} {codon : List Char}
    {rest : List (List Char)} (h : index < place) :
    place ∈ operandPlaces.go operand index (codon :: rest) ↔
      place ∈ operandPlaces.go (meaning operand codon = .instruction .push) (index + 1) rest := by
  cases operand <;> simp [operandPlaces.go, meaning_eq_push_iff, Nat.ne_of_gt h]

theorem meaning_of_getElem?_tokensFrom (afterPush : Bool) (position : Nat) (ls : List Letter) :
    ∀ (index i : Nat) (t : Token), (tokensFrom afterPush position ls)[i]? = some t →
      t.meaning = meaning (decide (index + i ∈ operandPlaces.go afterPush index
        ((tokensFrom afterPush position ls).map (·.codon)))) t.codon := by
  fun_induction tokensFrom afterPush position ls with
  | case1 afterPush position a b c rest codon token ih =>
    intro index i t h
    rw [List.map_cons]
    cases i with
    | zero =>
      obtain rfl : token = t := by simpa using h
      simp [mem_operandPlaces_self, token]
    | succ i =>
      have hp : token.opcode? = some .push ↔ meaning afterPush token.codon = .instruction .push :=
        opcode?_eq_push_iff
      have hi : index < index + 1 + i := by omega
      rw [Nat.add_comm i, ← Nat.add_assoc]
      simp only [mem_operandPlaces_succ hi, ← hp]
      exact ih (index + 1) i t (by simpa using h)
  | case2 =>
    intro index i t h
    simp at h

theorem meaning_of_getElem?_tokens {text : List Char} {i : Nat} {t : Token}
    (h : (tokens text)[i]? = some t) :
    t.meaning = meaning (decide (i ∈ operandPlaces ((tokens text).map (·.codon)))) t.codon := by
  have hm := meaning_of_getElem?_tokensFrom false 0 (letters text) 0 i t h
  rwa [Nat.zero_add] at hm

theorem zero_notMem_operandPlaces (codons : List (List Char)) : 0 ∉ operandPlaces codons := by
  cases codons with
  | nil => simp [operandPlaces, operandPlaces.go]
  | cons codon rest =>
    intro h
    exact Bool.false_ne_true (mem_operandPlaces_self.mp h)

theorem position_of_getElem?_tokensFrom (afterPush : Bool) (position : Nat) (ls : List Letter) :
    ∀ (i : Nat) (t : Token), (tokensFrom afterPush position ls)[i]? = some t →
      t.position = (position + 3 * i : Nat) := by
  fun_induction tokensFrom afterPush position ls with
  | case1 afterPush position a b c rest codon token ih =>
    intro i t h
    cases i with
    | zero =>
      obtain rfl : token = t := by simpa using h
      rfl
    | succ i =>
      rw [ih i t (by simpa using h), Nat.mul_succ, Nat.add_assoc, Nat.add_comm 3]
  | case2 =>
    intro i t h
    simp at h

/-- Letters of one character each are read as the codons of their strand. -/
theorem tokensFrom_readings {ls : List Letter} (h : ∀ l ∈ ls, ∃ c, l.text = [c]) (afterPush : Bool)
    (position : Nat) :
    (tokensFrom afterPush position ls).map (fun t => (t.codon, t.meaning)) =
      readings afterPush (triples (ls.flatMap (·.text))) := by
  fun_induction tokensFrom afterPush position ls with
  | case1 afterPush position a b c rest codon token ih =>
    obtain ⟨x, hx⟩ := h a (by simp)
    obtain ⟨y, hy⟩ := h b (by simp)
    obtain ⟨z, hz⟩ := h c (by simp)
    have hc : codon = [x, y, z] := by simp [codon, hx, hy, hz]
    have hr := ih fun l hl => h l (by simp [hl])
    simp only [List.map_cons, List.flatMap_cons, hx, hy, hz, List.cons_append, List.nil_append,
      triples, readings, List.length_cons, List.length_nil, if_true, hr]
    simp only [token, hc, opcode?_eq_push_iff]
  | case2 ls afterPush position hs =>
    -- Fewer than three letters make no token, and their piece is no whole codon.
    match ls, hs with
    | [], _ => rfl
    | [a], _ =>
      obtain ⟨x, hx⟩ := h a (by simp)
      simp [hx, triples, readings]
    | [a, b], _ =>
      obtain ⟨x, hx⟩ := h a (by simp)
      obtain ⟨y, hy⟩ := h b (by simp)
      simp [hx, hy, triples, readings]
    | a :: b :: c :: rest, hs => exact (hs a b c rest rfl).elim

theorem tokens_readings {text : List Char} (h : SingleCase text) :
    (tokens text).map (fun t => (t.codon, t.meaning)) = readings false (split text) :=
  tokensFrom_readings (fun _ hl => h.letter hl) false 0

theorem normalize_of_settled {codon : List Char} (h : ∀ c ∈ codon, Settled c) :
    Codon.normalize codon = codon := by
  induction codon with
  | nil => rfl
  | cons c codon ih =>
    have hc := h c (by simp)
    have hr := ih fun d hd => h d (by simp [hd])
    simp only [Codon.normalize, upperAll, List.flatMap_cons, List.map_append] at hr ⊢
    rw [hr, hc.upper]
    simp [hc.base]

theorem toText_of_ofText? {codon : List Char} {c : Codon} (h : Codon.ofText? codon = some c) :
    codon = c.toText := by
  unfold Codon.ofText? at h
  split at h
  · rename_i x y z
    simp only [bind, Option.bind_eq_some_iff] at h
    obtain ⟨first, hf, second, hs, third, ht, hc⟩ := h
    cases hc
    simp [Codon.toText, Base.toChar_of_ofChar? hf, Base.toChar_of_ofChar? hs,
      Base.toChar_of_ofChar? ht]
  · cases h

theorem eq_toText_of_read? {codon : List Char} {c : Codon} (h : ∀ ch ∈ codon, Settled ch)
    (hc : Codon.read? codon = some c) : codon = c.toText := by
  rw [Codon.read?, normalize_of_settled h] at hc
  exact toText_of_ofText? hc

theorem settled_toText (c : Codon) : ∀ ch ∈ c.toText, Settled ch := by
  intro ch hch
  simp only [Codon.toText, List.mem_cons, List.not_mem_nil, or_false] at hch
  rcases hch with rfl | rfl | rfl <;> exact settled_toChar _

@[simp] theorem read?_toText (c : Codon) : Codon.read? c.toText = some c := by
  rw [Codon.read?, normalize_of_settled (settled_toText c), Codon.ofText?_toText]

theorem read?_eq_none_iff {codon : List Char} (hs : ∀ c ∈ codon, Settled c) :
    Codon.read? codon = none ↔ ∀ c : Codon, codon ≠ c.toText := by
  rw [Option.eq_none_iff_forall_ne_some]
  constructor
  · rintro h c rfl
    exact h c (read?_toText c)
  · intro h c hc
    exact h c (eq_toText_of_read? hs hc)

end Triplet.Genome
