import Triplet.Program

/-! # Assembled programs

Every instruction of a program points at a token with its opcode. Without the letters of their
codons, programs depend on the meanings of the tokens alone, and a stop codon written over an
instruction that is no `PUSH` changes this instruction alone. Zeros that are pushed after the first
start codon move the instructions behind it to later tokens, and leave them as they are otherwise.
-/

namespace Triplet

def Instruction.bare (i : Instruction) : Instruction := { i with codon := [] }

def Instruction.shift (distance : Nat) (i : Instruction) : Instruction :=
  { i with pointer := i.pointer + distance }

def Token.bare (t : Token) : Token := ⟨[], t.meaning, 0, 0⟩

namespace Program

variable {t next : Token} {rest tokens : List Token} {index : Nat}

theorem assembleFrom_push {v : Value} (ho : t.opcode? = some .push) (hv : next.operand? = some v) :
    assembleFrom index (t :: next :: rest) =
      ⟨index, some .push, t.codon, v⟩ :: assembleFrom (index + 2) rest := by
  simp only [assembleFrom, ho, hv]

theorem assembleFrom_cons
    (h : t.opcode? = some .push → ∀ next ∈ rest.head?, next.operand? = none) :
    assembleFrom index (t :: rest) =
      ⟨index, t.opcode?, t.codon, .int 0⟩ :: assembleFrom (index + 1) rest := by
  cases rest with
  | nil => rfl
  | cons next rest =>
    rw [assembleFrom]
    split
    · rename_i v ho hv
      rw [h ho next (by simp)] at hv
      cases hv
    · rfl

theorem assembleFrom_next
    (h : ∀ v, t.opcode? = some .push → next.operand? = some v → False) :
    assembleFrom index (t :: next :: rest) =
      ⟨index, t.opcode?, t.codon, .int 0⟩ :: assembleFrom (index + 1) (next :: rest) := by
  refine assembleFrom_cons fun ho next' hm => ?_
  obtain rfl : next = next' := by simpa using hm
  exact Option.eq_none_iff_forall_ne_some.mpr fun v hv => h v ho hv

theorem assembleFrom_bare (index : Nat) (tokens : List Token) :
    assembleFrom index (tokens.map Token.bare) =
      (assembleFrom index tokens).map Instruction.bare := by
  fun_induction assembleFrom index tokens with
  | case1 => rfl
  | case2 => rfl
  | case3 index t next rest v hv ho ih =>
    have hv' : next.bare.operand? = some v := hv
    have ho' : t.bare.opcode? = some .push := ho
    rw [List.map_cons, List.map_cons, assembleFrom_push ho' hv', ih]
    rfl
  | case4 index t next rest hn ih =>
    have hn' : ∀ v, t.bare.opcode? = some .push → next.bare.operand? = some v → False := hn
    rw [List.map_cons, List.map_cons, assembleFrom_next hn', ← List.map_cons, ih]
    rfl

theorem exists_token_of_mem {i : Instruction} (h : i ∈ assembleFrom index tokens) :
    ∃ k t, i.pointer = index + k ∧ tokens[k]? = some t ∧ t.opcode? = i.opcode? := by
  fun_induction assembleFrom index tokens with
  | case1 => cases h
  | case2 index t =>
    obtain rfl := List.mem_singleton.mp h
    exact ⟨0, t, rfl, rfl, rfl⟩
  | case3 index t next rest v hv ho ih =>
    rcases List.mem_cons.mp h with rfl | h
    · exact ⟨0, t, rfl, rfl, ho⟩
    · obtain ⟨k, t', hp, ht, ho'⟩ := ih h
      exact ⟨k + 2, t', by omega, ht, ho'⟩
  | case4 index t next rest hn ih =>
    rcases List.mem_cons.mp h with rfl | h
    · exact ⟨0, t, rfl, rfl, rfl⟩
    · obtain ⟨k, t', hp, ht, ho'⟩ := ih h
      exact ⟨k + 1, t', by omega, ht, ho'⟩

theorem operand_of_mem {i : Instruction} (h : i ∈ assembleFrom index tokens) :
    i.operand = .int 0 ∨ ∃ t ∈ tokens, t.operand? = some i.operand := by
  fun_induction assembleFrom index tokens with
  | case1 => cases h
  | case2 index t =>
    obtain rfl := List.mem_singleton.mp h
    exact .inl rfl
  | case3 index t next rest v hv ho ih =>
    rcases List.mem_cons.mp h with rfl | h
    · exact .inr ⟨next, by simp, hv⟩
    · rcases ih h with hz | ⟨t', ht', hv'⟩
      · exact .inl hz
      · exact .inr ⟨t', by simp [ht'], hv'⟩
  | case4 index t next rest hn ih =>
    rcases List.mem_cons.mp h with rfl | h
    · exact .inl rfl
    · rcases ih h with hz | ⟨t', ht', hv'⟩
      · exact .inl hz
      · exact .inr ⟨t', List.mem_cons_of_mem _ ht', hv'⟩

theorem length_assembleFrom_le (index : Nat) (tokens : List Token) :
    (assembleFrom index tokens).length ≤ tokens.length := by
  fun_induction assembleFrom index tokens with
  | case1 => simp
  | case2 => simp
  | case3 index t next rest v hv ho ih =>
    simp only [List.length_cons]
    omega
  | case4 index t next rest hn ih =>
    simp only [List.length_cons] at ih ⊢
    omega

theorem entry_map {g : Instruction → Instruction} {program : List Instruction}
    (h : ∀ i ∈ program, (g i).opcode? = some .start ↔ i.opcode? = some .start) :
    entry (program.map g) = (entry program).map g := by
  have hd : (program.map g).dropWhile (·.opcode? ≠ some .start) =
      (program.dropWhile (·.opcode? ≠ some .start)).map g := by
    induction program with
    | nil => rfl
    | cons i rest ih =>
      have hi := h i (by simp)
      have hr := ih fun j hj => h j (by simp [hj])
      by_cases hs : i.opcode? = some .start
      · simp [hs, hi]
      · simp only [ne_eq, List.map_cons, List.dropWhile_cons, hi, hs] at hr ⊢
        simpa using hr
  rw [entry, hd, entry]
  cases program.dropWhile (·.opcode? ≠ some .start) <;> rfl

theorem entry_subset (program : List Instruction) : entry program ⊆ program := by
  rw [entry]
  split
  · exact List.Subset.refl _
  · rename_i rest hr
    exact (List.dropWhile_suffix _).subset

theorem length_entry_le (program : List Instruction) : (entry program).length ≤ program.length := by
  rw [entry]
  split
  · exact Nat.le_refl _
  · exact (List.dropWhile_suffix _).length_le

def stopToken : Token := ⟨[], .instruction .stop, 0, 0⟩

/-- Write a stop codon over the instruction that points at a place. -/
def stopAt (place : Nat) (i : Instruction) : Instruction :=
  if i.pointer = place then ⟨place, some .stop, [], .int 0⟩ else i

theorem stopAt_of_ne {place : Nat} {i : Instruction} (h : i.pointer ≠ place) : stopAt place i = i :=
  if_neg h

theorem map_stopAt_of_lt {place : Nat} (h : place < index) :
    (assembleFrom index tokens).map (stopAt place) = assembleFrom index tokens := by
  refine (List.map_congr_left fun i hi => ?_).trans (List.map_id _)
  obtain ⟨k, -, hk, -⟩ := exists_token_of_mem hi
  exact stopAt_of_ne (by omega)

theorem assembleFrom_set_stop {place : Nat} {op : Opcode} (ht : tokens[place]? = some t)
    (ho : t.meaning = .instruction op) (hp : op ≠ .push) :
    assembleFrom index (tokens.set place stopToken) =
      (assembleFrom index tokens).map (stopAt (index + place)) := by
  have hop : t.opcode? ≠ some .push := by simpa [Token.opcode?, ho] using hp
  have hval : t.operand? = none := by simp [Token.operand?, ho]
  fun_induction assembleFrom index tokens generalizing place with
  | case1 => simp at ht
  | case2 index t' =>
    cases place with
    | zero => simp [assembleFrom, stopAt, stopToken, Token.opcode?]
    | succ place => simp at ht
  | case3 index t' next rest v hv hpush ih =>
    -- The instruction takes two tokens, and the place is neither of them.
    match place, ht with
    | 0, ht =>
      obtain rfl : t' = t := by simpa using ht
      exact (hop hpush).elim
    | 1, ht =>
      obtain rfl : next = t := by simpa using ht
      rw [hval] at hv
      cases hv
    | place + 2, ht =>
      rw [List.set_cons_succ, List.set_cons_succ, assembleFrom_push hpush hv,
        ih (by simpa using ht), List.map_cons, stopAt_of_ne (by simp)]
      simp only [Nat.add_comm, Nat.add_left_comm]
  | case4 index t' next rest hn ih =>
    cases place with
    | zero =>
      rw [List.set_cons_zero, assembleFrom_cons (by simp [stopToken, Token.opcode?]),
        List.map_cons, map_stopAt_of_lt (by omega)]
      simp [stopAt, stopToken, Token.opcode?]
    | succ place =>
      rw [List.set_cons_succ, assembleFrom_cons, ih (by simpa using ht), List.map_cons,
        stopAt_of_ne (by simp), Nat.add_right_comm, Nat.add_assoc]
      intro hpush next' hm
      cases place with
      | zero =>
        obtain rfl : stopToken = next' := by simpa using hm
        rfl
      | succ place =>
        obtain rfl : next = next' := by simpa using hm
        exact Option.eq_none_iff_forall_ne_some.mpr fun v hv => hn v hpush hv

theorem assembleFrom_add (index distance : Nat) (tokens : List Token) :
    assembleFrom (index + distance) tokens =
      (assembleFrom index tokens).map (Instruction.shift distance) := by
  fun_induction assembleFrom index tokens with
  | case1 => rfl
  | case2 => rfl
  | case3 index t next rest v hv ho ih =>
    rw [assembleFrom_push ho hv, List.map_cons, ← ih, Nat.add_right_comm]
    rfl
  | case4 index t next rest hn ih =>
    rw [assembleFrom_next hn, List.map_cons, ← ih, Nat.add_right_comm]
    rfl

def pairs (push zero : Token) : Nat → List Token
  | 0 => []
  | k + 1 => push :: zero :: pairs push zero k

/-- Put tokens right after the first start codon. -/
def insertAfterStart (extra : List Token) : List Token → List Token
  | [] => []
  | t :: rest =>
    if t.opcode? = some .start then t :: (extra ++ rest) else t :: insertAfterStart extra rest

theorem head?_insertAfterStart (extra tokens : List Token) :
    (insertAfterStart extra tokens).head? = tokens.head? := by
  cases tokens with
  | nil => rfl
  | cons t rest =>
    rw [insertAfterStart]
    split <;> rfl

theorem opcode?_ne_of_operand? {v : Value} (h : t.operand? = some v) (op : Opcode) :
    t.opcode? ≠ some op := by
  cases hm : t.meaning <;> simp [Token.operand?, Token.opcode?, hm] at h ⊢

/-- Instructions that push zeros, the first of which points at a place. -/
def zeroPushes (codon : List Char) (place : Nat) : Nat → List Instruction
  | 0 => []
  | k + 1 => ⟨place, some .push, codon, .int 0⟩ :: zeroPushes codon (place + 2) k

section Insertion

variable {push zero : Token} (hp : push.opcode? = some .push) (hz : zero.operand? = some (.int 0))

include hp hz

theorem assembleFrom_pairs (k index : Nat) (rest : List Token) :
    assembleFrom index (pairs push zero k ++ rest) =
      zeroPushes push.codon index k ++
        (assembleFrom index rest).map (Instruction.shift (2 * k)) := by
  induction k generalizing index with
  | zero =>
    rw [← assembleFrom_add]
    rfl
  | succ k ih =>
    rw [pairs, List.cons_append, List.cons_append, assembleFrom_push hp hz, ih, zeroPushes,
      List.cons_append, ← assembleFrom_add, ← assembleFrom_add]
    congr 3
    omega

theorem dropWhile_insertAfterStart_cons (ht : t.opcode? = some .start) (k : Nat) :
    (assembleFrom index (insertAfterStart (pairs push zero k) (t :: rest))).dropWhile
        (·.opcode? ≠ some .start) =
      ⟨index, t.opcode?, t.codon, .int 0⟩ :: (zeroPushes push.codon (index + 1) k ++
        (assembleFrom (index + 1) rest).map (Instruction.shift (2 * k))) := by
  rw [insertAfterStart, if_pos ht, assembleFrom_cons (by simp [ht]), assembleFrom_pairs hp hz]
  simp [ht]

/-- From the first start codon on, a program with inserted zeros has this codon, the pushes, and the
further instructions moved on. -/
theorem dropWhile_insertAfterStart (k index : Nat) {tokens : List Token}
    (h : ∃ t ∈ tokens, t.opcode? = some .start) :
    ∃ i rest, i.opcode? = some .start ∧
      (assembleFrom index tokens).dropWhile (·.opcode? ≠ some .start) = i :: rest ∧
      (assembleFrom index (insertAfterStart (pairs push zero k) tokens)).dropWhile
          (·.opcode? ≠ some .start) =
        i :: (zeroPushes push.codon (i.pointer + 1) k ++
          rest.map (Instruction.shift (2 * k))) := by
  fun_induction assembleFrom index tokens with
  | case1 => simp at h
  | case2 index t =>
    have ht : t.opcode? = some .start := by simpa using h
    exact ⟨_, [], ht, by simp [ht], dropWhile_insertAfterStart_cons hp hz ht k⟩
  | case3 index t next rest v hv ho ih =>
    have hn : next.opcode? ≠ some .start := opcode?_ne_of_operand? hv _
    obtain ⟨i, after, hi, hd, hd'⟩ := ih (by simpa [ho, hn] using h)
    refine ⟨i, after, hi, by simpa using hd, ?_⟩
    rw [insertAfterStart, if_neg (by simp [ho]), insertAfterStart, if_neg hn,
      assembleFrom_push ho hv]
    simpa using hd'
  | case4 index t next rest hn ih =>
    by_cases ht : t.opcode? = some .start
    · exact ⟨_, _, ht, by simp [ht], dropWhile_insertAfterStart_cons hp hz ht k⟩
    · obtain ⟨i, after, hi, hd, hd'⟩ := ih (by simpa [ht] using h)
      refine ⟨i, after, hi, by simpa [ht] using hd, ?_⟩
      rw [insertAfterStart, if_neg ht, assembleFrom_cons]
      · simpa [ht] using hd'
      · rw [head?_insertAfterStart]
        intro ho next' hm
        obtain rfl : next = next' := by simpa using hm
        exact Option.eq_none_iff_forall_ne_some.mpr fun v hv => hn v ho hv

theorem entry_insertAfterStart (k : Nat) {tokens : List Token}
    (h : ∃ t ∈ tokens, t.opcode? = some .start) :
    ∃ i rest, i.opcode? = some .start ∧ entry (assemble tokens) = i :: rest ∧
      entry (assemble (insertAfterStart (pairs push zero k) tokens)) =
        i :: (zeroPushes push.codon (i.pointer + 1) k ++
          rest.map (Instruction.shift (2 * k))) := by
  obtain ⟨i, rest, hi, hd, hd'⟩ := dropWhile_insertAfterStart hp hz k 0 h
  refine ⟨i, rest, hi, ?_, ?_⟩
  · rw [entry, assemble, hd]
  · rw [entry, assemble, hd']

end Insertion

end Program

end Triplet
