import Triplet.Execution
import Triplet.Proofs.WholeNumbers

/-! # Accepted genomes

Whether a text is accepted depends on its codons alone: the first is a start codon, each is one of
the 64, and one that is no operand is a stop codon. A text that is not accepted shows exactly the
errors that are reported when it is run nevertheless.
-/

namespace Triplet

namespace Genome

def HasStop (codons : List (List Char)) : Prop :=
  ∃ place codon, codons[place]? = some codon ∧ place ∉ operandPlaces codons ∧
    Codon.opcode? codon = some .stop

theorem any_hasStop_iff {codons : List (List Char)} :
    ((List.range codons.length).any fun place =>
      !(operandPlaces codons).contains place &&
        decide (codons[place]?.bind Codon.opcode? = some .stop)) = true ↔ HasStop codons := by
  simp only [List.any_eq_true, List.mem_range, Bool.and_eq_true, Bool.not_eq_true',
    List.contains_eq_mem, decide_eq_false_iff_not, decide_eq_true_eq, Option.bind_eq_some_iff]
  constructor
  · rintro ⟨place, -, hp, codon, hc, ho⟩
    exact ⟨place, codon, hc, hp, ho⟩
  · rintro ⟨place, codon, hc, hp, ho⟩
    exact ⟨place, (List.getElem?_eq_some_iff.mp hc).1, hp, codon, hc, ho⟩

instance (codons : List (List Char)) : Decidable (HasStop codons) :=
  decidable_of_iff _ any_hasStop_iff

structure WellFormed (codons : List (List Char)) : Prop where
  nonempty : codons ≠ []
  start : codons.head?.bind Codon.opcode? = some .start
  /-- Each codon is one of the 64, operands included. -/
  known : ∀ codon ∈ codons, ∃ c : Codon, codon = c.toText
  stop : HasStop codons

/-- The errors of a genome: a first codon that is no start codon, each unknown codon in its place,
and at the last token that there is no stop codon. -/
def errorsOf (ts : List Token) : List Problem :=
  let codons := ts.map (·.codon)
  (if codons.head?.bind Codon.opcode? = some .start then [] else [.noStart 0]) ++
    (ts.filter fun t => Codon.read? t.codon = none).map
      (fun t => .unknownCodon t.codon t.line t.position) ++
    if HasStop codons then [] else (ts.getLast?.map fun t => .noStop t.position).toList

section Tokens

variable {text : List Char} {t : Token}

theorem exists_letters_of_mem_tokensFrom {afterPush : Bool} {position : Nat} {ls : List Letter}
    (h : t ∈ tokensFrom afterPush position ls) :
    ∃ a ∈ ls, ∃ b ∈ ls, ∃ c ∈ ls, t.codon = a.text ++ b.text ++ c.text := by
  fun_induction tokensFrom afterPush position ls with
  | case1 afterPush position a b c rest codon token ih =>
    rcases List.mem_cons.mp h with rfl | h
    · exact ⟨a, by simp, b, by simp, c, by simp, rfl⟩
    · obtain ⟨a', ha, b', hb, c', hc, ht⟩ := ih h
      exact ⟨a', by simp [ha], b', by simp [hb], c', by simp [hc], ht⟩
  | case2 => cases h

theorem settled_of_mem_tokens (h : t ∈ tokens text) : ∀ c ∈ t.codon, Settled c := by
  obtain ⟨l₁, h₁, l₂, h₂, l₃, h₃, ht⟩ := exists_letters_of_mem_tokensFrom h
  have hs (l : Letter) (hl : l ∈ letters text) (c : Char) (hc : c ∈ l.text) : Settled c :=
    settled_clean (List.mem_flatMap.mpr ⟨l, hl, hc⟩)
  intro c hc
  rw [ht, List.mem_append, List.mem_append] at hc
  rcases hc with (hc | hc) | hc
  · exact hs l₁ h₁ c hc
  · exact hs l₂ h₂ c hc
  · exact hs l₃ h₃ c hc

theorem read?_ne_none_iff (h : t ∈ tokens text) :
    Codon.read? t.codon ≠ none ↔ ∃ c : Codon, t.codon = c.toText := by
  rw [ne_eq, read?_eq_none_iff (settled_of_mem_tokens h)]
  simp

theorem isUnknown_iff (h : t ∈ tokens text) :
    t.isUnknown = true ↔ Codon.read? t.codon = none := by
  obtain ⟨b, hb⟩ := meaning_of_mem_tokensFrom h
  rw [Token.isUnknown, hb, meaning]
  cases Codon.read? t.codon <;> cases b <;> simp

theorem opcode?_of_notMem {place : Nat} (h : (tokens text)[place]? = some t)
    (hp : place ∉ operandPlaces ((tokens text).map (·.codon))) :
    t.opcode? = Codon.opcode? t.codon := by
  rw [Token.opcode?, meaning_of_getElem?_tokens h, decide_eq_false hp, meaning, Codon.opcode?]
  cases Codon.read? t.codon <;> rfl

theorem opcode?_of_mem {place : Nat} (h : (tokens text)[place]? = some t)
    (hp : place ∈ operandPlaces ((tokens text).map (·.codon))) : t.opcode? = none := by
  rw [Token.opcode?, meaning_of_getElem?_tokens h, decide_eq_true hp, meaning]
  cases Codon.read? t.codon <;> rfl

/-- The tokens have the opcode of a stop codon exactly where a stop codon is no operand. -/
theorem any_stop_iff :
    (tokens text).any (·.opcode? = some .stop) = true ↔
      HasStop ((tokens text).map (·.codon)) := by
  rw [List.any_eq_true]
  constructor
  · rintro ⟨t, ht, ho⟩
    obtain ⟨place, hp⟩ := List.getElem?_of_mem ht
    have ho : t.opcode? = some .stop := by simpa using ho
    by_cases hm : place ∈ operandPlaces ((tokens text).map (·.codon))
    · simp [opcode?_of_mem hp hm] at ho
    · exact ⟨place, t.codon, by simp [hp], hm, opcode?_of_notMem hp hm ▸ ho⟩
  · rintro ⟨place, codon, hc, hm, ho⟩
    obtain ⟨t, ht, rfl⟩ : ∃ t, (tokens text)[place]? = some t ∧ t.codon = codon := by
      simpa using hc
    exact ⟨t, List.mem_of_getElem? ht, by simp [opcode?_of_notMem ht hm, ho]⟩

theorem startProblems_tokens (h : tokens text ≠ []) :
    startProblems (tokens text) =
      if ((tokens text).map (·.codon)).head?.bind Codon.opcode? = some .start then []
      else [.noStart 0] := by
  obtain ⟨first, rest, ht⟩ := List.exists_cons_of_ne_nil h
  have hf : (tokens text)[0]? = some first := by rw [ht]; rfl
  have ho := opcode?_of_notMem hf (zero_notMem_operandPlaces _)
  have hn : first.isOperand = false := by
    rw [Token.isOperand, Token.operand?, meaning_of_getElem?_tokens hf,
      decide_eq_false (zero_notMem_operandPlaces _), meaning]
    cases Codon.read? first.codon <;> rfl
  have hp : first.position = 0 := position_of_getElem?_tokensFrom false 0 (letters text) 0 first hf
  simp [startProblems, ht, hn, ho, hp]

theorem unknownProblems_tokens :
    unknownProblems (tokens text) =
      ((tokens text).filter fun t => Codon.read? t.codon = none).map
        fun t => .unknownCodon t.codon t.line t.position := by
  have hf : (tokens text).filter Token.isUnknown =
      (tokens text).filter fun t => Codon.read? t.codon = none := by
    refine List.filter_congr fun t ht => ?_
    rw [Bool.eq_iff_iff, isUnknown_iff ht, decide_eq_true_eq]
  rw [unknownProblems, hf]

theorem stopProblems_tokens :
    stopProblems (tokens text) =
      if HasStop ((tokens text).map (·.codon)) then []
      else ((tokens text).getLast?.map fun t => .noStop t.position).toList := by
  rw [stopProblems]
  cases (tokens text).getLast? with
  | none => simp
  | some last => simp only [any_stop_iff, Option.map_some, Option.toList_some]

end Tokens

section Errors

theorem filter_isError_breaks (number column count : Nat) (afterBlank : Bool) (line : List Char) :
    (breaks number column count afterBlank line).filter Problem.isError = [] := by
  induction line generalizing column count afterBlank with
  | nil => rfl
  | cons c line ih =>
    rw [breaks]
    split
    · simp only [List.filter_append, ih, List.append_nil]
      split <;> rfl
    · exact ih _ _ _

theorem filter_isError_breaksFrom (number : Nat) (lines : List (List Char)) :
    (breaksFrom number lines).filter Problem.isError = [] := by
  induction lines generalizing number with
  | nil => rfl
  | cons line lines ih => rw [breaksFrom, List.filter_append, filter_isError_breaks, ih]; rfl

theorem filter_isError_frameProblems (text : List Char) :
    (frameProblems text).filter Problem.isError = [] := by
  simp only [frameProblems, List.filter_append, filter_isError_breaksFrom, List.nil_append]
  split <;> rfl

theorem exists_noStart {ts : List Token} {p : Problem} (h : p ∈ startProblems ts) :
    ∃ position, p = .noStart position := by
  rw [startProblems] at h
  split at h
  · exact ⟨0, List.mem_singleton.mp h⟩
  · rename_i first _
    split at h
    · cases h
    · exact ⟨first.position, List.mem_singleton.mp h⟩

theorem exists_noStop {ts : List Token} {p : Problem} (h : p ∈ stopProblems ts) :
    ∃ position, p = .noStop position := by
  rw [stopProblems] at h
  split at h
  · cases h
  · rename_i last _
    split at h
    · cases h
    · exact ⟨last.position, List.mem_singleton.mp h⟩

theorem filter_isError_structureProblems {text : List Char} (h : tokens text ≠ []) :
    (structureProblems (tokens text)).filter Problem.isError = errorsOf (tokens text) := by
  have hs : (startProblems (tokens text)).filter Problem.isError = startProblems (tokens text) := by
    refine List.filter_eq_self.mpr fun p hp => ?_
    obtain ⟨position, rfl⟩ := exists_noStart hp
    rfl
  have hu : (unknownProblems (tokens text)).filter Problem.isError =
      unknownProblems (tokens text) := by
    refine List.filter_eq_self.mpr fun p hp => ?_
    obtain ⟨t, -, rfl⟩ := List.mem_map.mp hp
    rfl
  have hr : (unreachableProblems (tokens text)).filter Problem.isError = [] := by
    refine List.filter_eq_nil_iff.mpr fun p hp => ?_
    obtain ⟨t, -, rfl⟩ := List.mem_map.mp hp
    simp [Problem.isError, Problem.severity]
  have hl : (stopProblems (tokens text)).filter Problem.isError = stopProblems (tokens text) := by
    refine List.filter_eq_self.mpr fun p hp => ?_
    obtain ⟨position, rfl⟩ := exists_noStop hp
    rfl
  rw [structureProblems, if_neg (by simpa using h), List.filter_append, List.filter_append,
    List.filter_append, hs, hu, hr, hl, List.append_nil, startProblems_tokens h,
    unknownProblems_tokens, stopProblems_tokens, errorsOf]

theorem errorsOf_eq_nil_iff {text : List Char} (h : tokens text ≠ []) :
    errorsOf (tokens text) = [] ↔ WellFormed ((tokens text).map (·.codon)) := by
  have hstart (p : Prop) [Decidable p] :
      (if p then ([] : List Problem) else [.noStart 0]) = [] ↔ p := by
    by_cases hp : p <;> simp [hp]
  have hknown : (((tokens text).filter fun t => Codon.read? t.codon = none).map
      fun t => Problem.unknownCodon t.codon t.line t.position) = [] ↔
      ∀ codon ∈ (tokens text).map (·.codon), ∃ c : Codon, codon = c.toText := by
    rw [List.map_eq_nil_iff, List.filter_eq_nil_iff, List.forall_mem_map]
    refine forall₂_congr fun t ht => ?_
    rw [decide_eq_true_eq, ← ne_eq, read?_ne_none_iff ht]
  have hstop : (if HasStop ((tokens text).map (·.codon)) then ([] : List Problem)
      else ((tokens text).getLast?.map fun t => .noStop t.position).toList) = [] ↔
      HasStop ((tokens text).map (·.codon)) := by
    by_cases hs : HasStop ((tokens text).map (·.codon)) <;> simp [hs, h]
  simp only [errorsOf, List.append_eq_nil_iff, hstart, hknown, hstop]
  constructor
  · rintro ⟨⟨hs, hk⟩, ht⟩
    exact ⟨by simpa using h, hs, hk, ht⟩
  · rintro ⟨-, hs, hk, ht⟩
    exact ⟨⟨hs, hk⟩, ht⟩

theorem parse_of_nil {text : List Char} (h : tokens text = []) :
    parse text = .error [.empty] := by
  simp [parse, h]

theorem parse_of_ne_nil {text : List Char} (h : tokens text ≠ []) :
    parse text = if errorsOf (tokens text) = [] then .ok (tokens text)
      else .error (errorsOf (tokens text)) := by
  have he : (tokens text).isEmpty = false := by simpa using h
  simp only [parse, he, Bool.false_eq_true, if_false, filter_isError_structureProblems h]
  cases errorsOf (tokens text) <;> rfl

theorem errors_ofText {σ : Type} [Surface σ] (settings : Settings) (surface : σ)
    {text : List Char} (h : tokens text ≠ []) :
    (Execution.ofText settings surface text).1.errors = errorsOf (tokens text) := by
  change (problems text).filter Problem.isError = _
  rw [problems, List.filter_append, filter_isError_frameProblems,
    filter_isError_structureProblems h, List.nil_append]

end Errors

/-- A text is accepted with its tokens exactly if its codons are well-formed. Otherwise its only
error is that it is empty, if it has no tokens, or else it has the errors that are reported by every
execution on a recorder; no such execution fails, and it is in order exactly if the text is
accepted. -/
theorem parse_eq_ok_iff (text : List Char) :
    (parse text = .ok (tokens text) ↔ WellFormed ((tokens text).map (·.codon))) ∧
      (¬ WellFormed ((tokens text).map (·.codon)) →
        parse text = .error (if tokens text = [] then [.empty] else errorsOf (tokens text))) ∧
      ∀ (settings : Settings) (r : Recorder),
        (Execution.ofText settings r text).2 = none ∧
        (tokens text ≠ [] →
          (Execution.ofText settings r text).1.errors = errorsOf (tokens text) ∧
          ((Execution.ofText settings r text).1.isOk = true ↔ parse text = .ok (tokens text))) := by
  have hok : parse text = .ok (tokens text) ↔ WellFormed ((tokens text).map (·.codon)) := by
    by_cases h : tokens text = []
    · rw [parse_of_nil h]
      exact iff_of_false nofun fun hw => hw.nonempty (by simp [h])
    · rw [parse_of_ne_nil h, ← errorsOf_eq_nil_iff h]
      split <;> simp [*]
  refine ⟨hok, fun hw => ?_, fun settings r => ⟨?_, fun h => ?_⟩⟩
  · by_cases h : tokens text = []
    · rw [parse_of_nil h, if_pos h]
    · rw [parse_of_ne_nil h, if_neg h, if_neg (mt (errorsOf_eq_nil_iff h).mp hw)]
  · exact Machine.run_tokens_fault_none text _
  · have he := errors_ofText settings r h
    refine ⟨he, ?_⟩
    rw [Execution.isOk, he, List.isEmpty_iff, hok, errorsOf_eq_nil_iff h]

/-- A start codon and a stop codon that are operands do not count. -/
theorem parse_eq_ok_iff_operands :
    let text := "GAA ATG gau uaa c".toList
    let codons := (tokens text).map (·.codon)
    let errors : List Problem := [.noStart 0, .noStop 9]
    tokens text ≠ [] ∧ ¬ WellFormed codons ∧ parse text = .error errors ∧
      (Execution.ofText .default Recorder.blank text).1.errors = errors := by
  intro text codons errors
  have ht : tokens text ≠ [] := by decide +kernel
  have he : errorsOf (tokens text) = errors := by decide +kernel
  obtain ⟨hok, herror, hrun⟩ := parse_eq_ok_iff text
  have hw : ¬ WellFormed codons := by
    rw [← hok]
    decide +kernel
  have hp := herror hw
  rw [if_neg ht, he] at hp
  exact ⟨ht, hw, hp, he ▸ ((hrun .default Recorder.blank).2 ht).1⟩

end Genome

end Triplet
