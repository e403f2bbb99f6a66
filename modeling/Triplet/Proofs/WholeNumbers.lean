import Triplet.Proofs.Overflow
import Triplet.Proofs.ReadingFrame

/-! # Runs on whole numbers

As long as all operands are integers, the stack holds integers alone, each of which rounds to a
finite double. No double is ever added to a sum of the recorder, so that it cannot overflow. Hence
no run of a genome on a recorder fails.
-/

namespace Triplet

namespace Value

def IsInteger (v : Value) : Prop := ∃ n, v = int n

def IsWhole (v : Value) : Prop := ∃ n, v = int n ∧ (Number.int n).isFinite = true

variable {v w : Value}

theorem IsWhole.isInteger (h : IsWhole v) : IsInteger v := by
  obtain ⟨n, rfl, -⟩ := h
  exact ⟨n, rfl⟩

theorem IsInteger.isWhole_sanitize (h : IsInteger v) : IsWhole v.sanitize := by
  obtain ⟨n, rfl⟩ := h
  rw [sanitize]
  split
  · rename_i hf
    exact ⟨n, rfl, hf⟩
  · exact ⟨0, rfl, by decide +kernel⟩

theorem IsInteger.overflows_eq_false (h : IsInteger w) (v : Value) : v.overflows w = false := by
  obtain ⟨n, rfl⟩ := h
  rw [overflows.eq_def]
  split
  · rename_i hk
    cases hk
  · rfl

end Value

theorem Machine.binary_integer (op : Opcode) {v w : Value} (hv : v.IsInteger) (hw : w.IsInteger) :
    ∃ s, binary op v w = .ok s ∧ s.IsInteger := by
  obtain ⟨a, rfl⟩ := hv
  obtain ⟨b, rfl⟩ := hw
  have hd : ∃ s, binary .div (.int a) (.int b) = .ok s ∧ s.IsInteger := by
    by_cases hb : b = 0
    · subst hb
      exact ⟨.int 0, rfl, 0, rfl⟩
    have hz : (Number.int b).isZero = false := by simp [Number.isZero, hb]
    rw [binary]
    split
    · exact ⟨.int 0, rfl, 0, rfl⟩
    · refine ⟨.int (a.fdiv b), ?_, a.fdiv b, rfl⟩
      simp only [Value.floorDiv, Value.toNumber, bind, Except.bind, Number.floorDiv, hz]
      rfl
  cases op with
  | add | sub | mul => exact ⟨_, rfl, _, rfl⟩
  | div => exact hd
  | _ => exact ⟨_, rfl, _, rfl⟩

namespace Machine

theorem kind_isWhole : Kind Value.IsWhole where
  zero := ⟨0, rfl, by decide +kernel⟩
  isFinite h := by
    obtain ⟨n, rfl, hn⟩ := h
    exact ⟨.int n, rfl, hn⟩
  binary {op a b s} ha hb h := by
    obtain ⟨s', hs, hi⟩ := binary_integer op ha.isInteger hb.isInteger
    obtain rfl : s' = s := Except.ok.inj (hs.symm.trans h)
    exact hi.isWhole_sanitize

theorem overflows_of_isWhole {m : Machine Recorder} (h : m.now.Numeric Value.IsWhole)
    (op : Opcode) : m.overflows op = false := by
  have ho (depth : Nat) := (h.operand kind_isWhole depth).isInteger
  cases op with
  | translate => rw [overflows, (ho 1).overflows_eq_false, (ho 0).overflows_eq_false, Bool.or_false]
  | rotate => exact (ho 0).overflows_eq_false _
  | _ => rfl

theorem run_fault_none {tokens : List Token}
    (h : ∀ t ∈ tokens, ∀ v, t.operand? = some v → v.IsInteger) (m : Machine Recorder) :
    (run tokens m).2 = none := by
  have h' (t : Token) (ht : t ∈ tokens) (v : Value) (hv : t.operand? = some v) :
      v.sanitize.IsWhole := (h t ht v hv).isWhole_sanitize
  have hend := Flat.run_invariant tokens m (Flat.start_proceeds h' kind_isWhole m)
    fun c hc => hc.advance kind_isWhole
  rcases hend.course with hs | ⟨n, c, hc, ho⟩
  · exact hs.fault
  · obtain ⟨-, op, -, hv⟩ := ho.overflows
    rw [overflows_of_isWhole (hc.sound h' kind_isWhole).numeric] at hv
    cases hv

end Machine

theorem Genome.operand_integer {text : List Char} {t : Token} (h : t ∈ tokens text) {v : Value}
    (hv : t.operand? = some v) : v.IsInteger := by
  obtain ⟨b, hb⟩ := meaning_of_mem_tokensFrom h
  rw [Token.operand?, hb, meaning] at hv
  cases hr : Codon.read? t.codon with
  | none => simp [hr] at hv
  | some c =>
    cases b with
    | false => simp [hr] at hv
    | true =>
      obtain rfl : Value.int c.value = v := by simpa [hr] using hv
      exact ⟨_, rfl⟩

theorem Machine.run_tokens_fault_none (text : List Char) (m : Machine Recorder) :
    (run (Genome.tokens text) m).2 = none :=
  run_fault_none (fun _ ht _ hv => Genome.operand_integer ht hv) m

end Triplet
