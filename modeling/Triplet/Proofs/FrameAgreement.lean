import Triplet.Proofs.Assembly
import Triplet.Proofs.ReadingFrame

/-! # One reading frame

Which codons are operands is found three times: where tokens are read, where the operand places of
a strand are listed, and where operands are folded into a program. A codon is an operand exactly if
the one before it is a `PUSH` and no operand itself, and from this law the three agree on every
text, through runs of `PUSH` codons, unknown operands and a last piece of fewer than three letters.
-/

namespace Triplet

namespace Genome

theorem length_triples {α : Type} (strand : List α) :
    (triples strand).length = (strand.length + 2) / 3 := by
  fun_induction triples strand with
  | case1 a b c rest ih =>
    simp only [List.length_cons, ih]
    omega
  | case2 => simp
  | case3 rest hlong hnil =>
    obtain ⟨a, rfl⟩ | ⟨a, b, rfl⟩ := one_or_two hlong hnil <;> simp

theorem map_fst_readings (afterPush : Bool) (strand : List Char) :
    (readings afterPush (triples strand)).map (·.1) =
      (triples strand).take (strand.length / 3) := by
  fun_induction triples strand generalizing afterPush with
  | case1 a b c rest ih =>
    have hl : (a :: b :: c :: rest).length / 3 = rest.length / 3 + 1 := by
      simp only [List.length_cons]
      omega
    rw [readings, if_pos (show [a, b, c].length = 3 from rfl), List.map_cons, ih, hl,
      List.take_succ_cons]
  | case2 => rfl
  | case3 rest hlong hnil =>
    obtain ⟨a, rfl⟩ | ⟨a, b, rfl⟩ := one_or_two hlong hnil <;> simp [readings]

theorem length_of_mem_readings {afterPush : Bool} {codons : List (List Char)}
    {reading : List Char × Meaning} (h : reading ∈ readings afterPush codons) :
    reading.1.length = 3 := by
  induction codons generalizing afterPush with
  | nil => cases h
  | cons codon rest ih =>
    rw [readings] at h
    split at h
    · rename_i hl
      rcases List.mem_cons.mp h with rfl | h
      · exact hl
      · exact ih h
    · cases h

theorem mem_operandPlaces_go_succ_iff (operand : Bool) (index i : Nat)
    (codons : List (List Char)) :
    index + (i + 1) ∈ operandPlaces.go operand index codons ↔
      i + 1 < codons.length ∧ index + i ∉ operandPlaces.go operand index codons ∧
        codons[i]?.bind Codon.opcode? = some .push := by
  induction codons generalizing operand index i with
  | nil => simp [operandPlaces.go]
  | cons codon rest ih =>
    rw [mem_operandPlaces_succ (by omega)]
    cases i with
    | zero =>
      -- The reading of the first codon decides, if there is a second one.
      cases rest with
      | nil => simp [operandPlaces.go]
      | cons next rest => simp [mem_operandPlaces_self, meaning_eq_push_iff]
    | succ i =>
      have hi : index + (i + 1) = index + 1 + i := by omega
      have hi' : index + (i + 1 + 1) = index + 1 + (i + 1) := by omega
      rw [mem_operandPlaces_succ (by omega), hi', hi, ih]
      simp

theorem succ_mem_operandPlaces_iff {codons : List (List Char)} {i : Nat} :
    i + 1 ∈ operandPlaces codons ↔ i + 1 < codons.length ∧ i ∉ operandPlaces codons ∧
      codons[i]?.bind Codon.opcode? = some .push := by
  have h := mem_operandPlaces_go_succ_iff false 0 i codons
  rwa [Nat.zero_add, Nat.zero_add] at h

theorem mem_operandPlaces_take {codons : List (List Char)} {i n : Nat} (h : i < n) :
    i ∈ operandPlaces (codons.take n) ↔ i ∈ operandPlaces codons := by
  induction i with
  | zero => simp [zero_notMem_operandPlaces]
  | succ i ih =>
    have hl : i + 1 < (codons.take n).length ↔ i + 1 < codons.length := by
      rw [List.length_take]
      omega
    rw [succ_mem_operandPlaces_iff, succ_mem_operandPlaces_iff, ih (by omega), hl,
      List.getElem?_take_of_lt (by omega)]

section Tokens

variable {text : List Char} {t : Token} {i : Nat}

theorem map_codon_tokens (h : SingleCase text) :
    (tokens text).map (·.codon) = (split text).take ((clean text).length / 3) := by
  have hr := congrArg (List.map (·.1)) (tokens_readings h)
  rw [List.map_map] at hr
  exact hr.trans (map_fst_readings false (clean text))

theorem length_tokens (h : SingleCase text) : (tokens text).length = (clean text).length / 3 := by
  have hl := congrArg List.length (map_codon_tokens h)
  rw [List.length_map, List.length_take, split, length_triples] at hl
  omega

/-- Letters that make no whole codon are one more piece. -/
theorem length_split (h : SingleCase text) :
    (split text).length =
      (tokens text).length + if (clean text).length % 3 = 0 then 0 else 1 := by
  rw [length_tokens h, split, length_triples]
  split <;> omega

theorem length_codon_of_mem_tokens (h : SingleCase text) (ht : t ∈ tokens text) :
    t.codon.length = 3 := by
  have hm : (t.codon, t.meaning) ∈ readings false (split text) := by
    rw [← tokens_readings h]
    exact List.mem_map.mpr ⟨t, ht, rfl⟩
  exact length_of_mem_readings hm

theorem getElem?_split_of_tokens (h : SingleCase text) (ht : (tokens text)[i]? = some t) :
    (split text)[i]? = some t.codon := by
  have hc := congrArg (·[i]?) (map_codon_tokens h)
  simp only [List.getElem?_map, ht, Option.map_some] at hc
  obtain ⟨hlt, -⟩ := List.getElem?_eq_some_iff.mp ht
  rw [length_tokens h] at hlt
  rw [hc, List.getElem?_take_of_lt hlt]

/-- A token means what its codon means, as an operand where the strand has an operand place. -/
theorem meaning_of_getElem?_split (h : SingleCase text) (ht : (tokens text)[i]? = some t) :
    t.meaning = meaning (decide (i ∈ operandPlaces (split text))) t.codon := by
  obtain ⟨hlt, -⟩ := List.getElem?_eq_some_iff.mp ht
  rw [length_tokens h] at hlt
  have hm := meaning_of_getElem?_tokens ht
  simp only [map_codon_tokens h, mem_operandPlaces_take hlt] at hm
  exact hm

theorem opcode?_of_getElem?_tokens (h : SingleCase text) (ht : (tokens text)[i]? = some t) :
    t.opcode? = if i ∈ operandPlaces (split text) then none else Codon.opcode? t.codon := by
  rw [Token.opcode?, meaning_of_getElem?_split h ht, meaning, Codon.opcode?]
  by_cases hp : i ∈ operandPlaces (split text) <;> cases Codon.read? t.codon <;> simp [hp]

theorem operand?_of_getElem?_tokens (h : SingleCase text) (ht : (tokens text)[i]? = some t) :
    t.operand? = if i ∈ operandPlaces (split text) then
      (Codon.read? t.codon).map fun c => .int c.value else none := by
  rw [Token.operand?, meaning_of_getElem?_split h ht, meaning]
  by_cases hp : i ∈ operandPlaces (split text) <;> cases Codon.read? t.codon <;> simp [hp]

theorem toOption_operand {codon : List Char} (hs : ∀ c ∈ codon, Settled c)
    (hl : codon.length = 3) :
    (Codon.operand codon).toOption = (Codon.read? codon).map Codon.value := by
  obtain ⟨x, y, z, rfl⟩ : ∃ x y z, codon = [x, y, z] := by
    rcases codon with _ | ⟨x, _ | ⟨y, _ | ⟨z, _ | ⟨w, rest⟩⟩⟩⟩ <;> simp at hl ⊢
  rw [Codon.operand, Codon.read?, normalize_of_settled hs, Codon.ofText?]
  simp only [Codon.digits]
  cases Base.ofChar? x with
  | none => rfl
  | some first =>
    cases Base.ofChar? y with
    | none => rfl
    | some second =>
      cases Base.ofChar? z with
      | none => rfl
      | some third =>
        refine congrArg some (?_ : 4 * (4 * (4 * 0 + first.digit) + second.digit) + third.digit =
          first.digit * 16 + second.digit * 4 + third.digit)
        omega

theorem operand?_of_mem_operandPlaces (h : SingleCase text) (ht : (tokens text)[i]? = some t)
    (hp : i ∈ operandPlaces (split text)) :
    t.operand? = (Codon.operand t.codon).toOption.map (fun n => .int n) ∧
      (t.operand? = none ↔ ∀ c : Codon, t.codon ≠ c.toText) := by
  have hs : ∀ c ∈ t.codon, Settled c :=
    settled_split (List.mem_of_getElem? (getElem?_split_of_tokens h ht))
  have hl := length_codon_of_mem_tokens h (List.mem_of_getElem? ht)
  rw [operand?_of_getElem?_tokens h ht, if_pos hp, toOption_operand hs hl]
  constructor
  · rw [Option.map_map]
    rfl
  · rw [Option.map_eq_none_iff, read?_eq_none_iff hs]

end Tokens

end Genome

namespace Program

/-- The operand of an instruction: for a `PUSH` that of the next token, if it has one, else zero. -/
def carried (t : Token) (next? : Option Token) : Value :=
  if t.opcode? = some .push then (next?.bind Token.operand?).getD (.int 0) else .int 0

def instructionAt (ts : List Token) (t : Token × Nat) : Instruction :=
  ⟨t.2, t.1.opcode?, t.1.codon, carried t.1 ts[t.2 + 1]?⟩

/-- The tokens that are no operands, each as an instruction that points at it. -/
def listing (ts : List Token) : List Instruction :=
  (ts.zipIdx.filter fun t => !t.1.isOperand).map (instructionAt ts)

def OperandsPlaced (afterPush : Bool) : List Token → Prop
  | [] => True
  | t :: rest => (t.isOperand → afterPush) ∧ OperandsPlaced (t.opcode? = some .push) rest

theorem operandsPlaced_tokensFrom (afterPush : Bool) (position : Nat) (ls : List Genome.Letter) :
    OperandsPlaced afterPush (Genome.tokensFrom afterPush position ls) := by
  fun_induction Genome.tokensFrom afterPush position ls with
  | case1 afterPush position a b c rest codon token ih =>
    refine ⟨?_, ih⟩
    cases afterPush with
    | true => exact fun _ => rfl
    | false =>
      cases h : Codon.read? codon <;>
        simp [token, Token.isOperand, Token.operand?, Genome.meaning, h]
  | case2 => trivial

theorem assembleFrom_eq_listing {index : Nat} {ts : List Token} (h : OperandsPlaced false ts)
    (before : List Token) (hb : before.length = index) :
    assembleFrom index ts =
      ((ts.zipIdx index).filter fun t => !t.1.isOperand).map (instructionAt (before ++ ts)) := by
  fun_induction assembleFrom index ts generalizing before with
  | case1 => rfl
  | case2 index t =>
    have ht : t.isOperand = false := by simpa using h.1
    simp [instructionAt, carried, ht, hb]
  | case3 index t next rest v hv ho ih =>
    have ht : t.isOperand = false := by simpa using h.1
    have hn : next.isOperand = true := by rw [Token.isOperand, hv]; rfl
    -- An operand is no `PUSH`, so that none follows it.
    have hr : OperandsPlaced false rest := by
      have hp := h.2.2
      rwa [decide_eq_false (opcode?_ne_of_operand? hv _)] at hp
    have hi := ih hr (before ++ [t, next]) (by simp [hb])
    rw [List.append_assoc] at hi
    rw [hi]
    simp [instructionAt, carried, ht, hn, ho, hv, ← hb]
  | case4 index t next rest hn ih =>
    have ht : t.isOperand = false := by simpa using h.1
    have hno (ho : t.opcode? = some .push) : next.operand? = none :=
      Option.eq_none_iff_forall_ne_some.mpr fun v hv => hn v ho hv
    -- The next token is no operand: it would have been folded into this one.
    have hr : OperandsPlaced false (next :: rest) := by
      refine ⟨fun hop => ?_, h.2.2⟩
      rw [Token.isOperand, hno (of_decide_eq_true (h.2.1 hop))] at hop
      exact hop
    have hc : carried t (some next) = .int 0 := by
      by_cases ho : t.opcode? = some .push
      · simp [carried, hno ho]
      · simp [carried, ho]
    have hi := ih hr (before ++ [t]) (by simp [hb])
    rw [List.append_assoc] at hi
    rw [hi]
    simp [instructionAt, hc, ht, ← hb]

theorem assemble_eq_listing {ts : List Token} (h : OperandsPlaced false ts) :
    assemble ts = listing ts :=
  assembleFrom_eq_listing h [] rfl

end Program

namespace Genome

/-- Tokens, operand places and programs have one reading frame. The tokens of a text are its whole
codons, an operand where the strand has an operand place and an instruction elsewhere, and its
program is the list of the tokens that are no operands. -/
theorem tokens_inFrame {text : List Char} (h : SingleCase text) :
    let codons := split text
    let ts := tokens text
    ts.length = (clean text).length / 3 ∧
      codons.length = ts.length + (if (clean text).length % 3 = 0 then 0 else 1) ∧
      (∀ (i : Nat) (t : Token), ts[i]? = some t →
        codons[i]? = some t.codon ∧ t.position = 3 * i ∧
          (i ∉ operandPlaces codons → t.opcode? = Codon.opcode? t.codon ∧ t.operand? = none) ∧
          (i ∈ operandPlaces codons → t.opcode? = none ∧
            t.operand? = (Codon.operand t.codon).toOption.map (fun n => .int n) ∧
            (t.operand? = none ↔ ∀ c : Codon, t.codon ≠ c.toText))) ∧
      Program.assemble ts = Program.listing ts := by
  intro codons ts
  refine ⟨length_tokens h, length_split h, fun i t ht => ?_,
    Program.assemble_eq_listing (Program.operandsPlaced_tokensFrom false 0 (letters text))⟩
  have hpos := position_of_getElem?_tokensFrom false 0 (letters text) i t ht
  have hop := opcode?_of_getElem?_tokens h ht
  have hval := operand?_of_getElem?_tokens h ht
  refine ⟨getElem?_split_of_tokens h ht, by simpa using hpos, fun hp => ?_, fun hp => ?_⟩
  · rw [if_neg hp] at hop hval
    exact ⟨hop, hval⟩
  · rw [if_pos hp] at hop
    exact ⟨hop, operand?_of_mem_operandPlaces h ht hp⟩

/-- A `PUSH` as an operand, an unknown operand, and a last `PUSH` before an incomplete codon. -/
theorem tokens_inFrame_pushes :
    let text := "aug GAA gac ; no push\nGAT xyé gag GAC gaa gu".toList
    SingleCase text ∧ (tokens text).length = (clean text).length / 3 ∧
      (split text).length = (tokens text).length + 1 ∧
      operandPlaces (split text) = [2, 4, 6, 8] ∧
      Program.assemble (tokens text) = Program.listing (tokens text) ∧
      (Program.listing (tokens text)).map (fun i => (i.pointer, i.opcode?, i.operand)) =
        [(0, some .start, .int 0), (1, some .push, .int 33), (3, some .push, .int 0),
          (4, none, .int 0), (5, some .push, .int 33), (7, some .push, .int 0)] := by
  intro text
  have hs : SingleCase text := by decide +kernel
  obtain ⟨hl, hc, -, ha⟩ := tokens_inFrame hs
  exact ⟨hs, hl, hc.trans (congrArg _ (if_neg (by decide +kernel))), by decide +kernel, ha,
    by decide +kernel⟩

end Genome

end Triplet
