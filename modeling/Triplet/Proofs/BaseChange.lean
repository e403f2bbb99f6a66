import Triplet.Mutation.Bases
import Triplet.Proofs.CodonChange

/-! # Changed bases

A mutation of bases makes a new strand and writes it out in threes; read again, the text is that
strand. A point mutation sets one letter to another, an insertion puts bases between a beginning and
the rest, a deletion leaves a piece out, and a frameshift does one of the last two. Each is refused
where there is no room for it, and nowhere else.
-/

namespace Triplet

open Genome Triplet.Random

section Format

variable {strand : List Char} (h : ∀ c ∈ strand, Settled c)
include h

theorem Genome.clean_format : clean (format strand) = strand := by
  have hs : ∀ codon ∈ triples strand, ∀ c ∈ codon, Settled c := fun _ => settled_of_mem_triples h
  rw [format, clean_joinCodons hs, flatten_triples]

theorem Genome.singleCase_format : SingleCase (format strand) :=
  singleCase_joinCodons fun _ => settled_of_mem_triples h

end Format

namespace Mutation

section Strands

variable (place count : Nat) (strand strand' : List Char)

structure Substituted : Prop where
  length_eq : strand'.length = strand.length
  differs : ∀ i, strand'[i]? ≠ strand[i]? ↔ i = place
  base : ∃ new : Base, strand'[place]? = some new.toChar

def Inserted : Prop :=
  place ≤ strand.length ∧ ∃ added : List Base, added.length = count ∧
    strand' = strand.take place ++ added.map Base.toChar ++ strand.drop place

def Deleted : Prop :=
  place + count ≤ strand.length ∧ strand' = strand.take place ++ strand.drop (place + count)

end Strands

section Settled

variable {place count : Nat} {genome strand : List Char}

theorem substituted_set (hi : place < strand.length) {new : Base}
    (hne : strand[place] ≠ new.toChar) :
    Substituted place strand (strand.set place new.toChar) := by
  refine ⟨List.length_set, fun i => ?_, new, List.getElem?_set_self hi⟩
  by_cases h : i = place
  · subst h
    simpa [hi] using Ne.symm hne
  · simp [List.getElem?_set_ne (Ne.symm h), h]

theorem settled_set_clean (text : List Char) (i : Nat) (b : Base) :
    ∀ c ∈ (clean text).set i b.toChar, Settled c := by
  intro c hc
  rcases List.mem_or_eq_of_mem_set hc with hm | rfl
  · exact settled_clean hm
  · exact settled_toChar b

theorem Inserted.settled (h : Inserted place count (clean genome) strand) :
    ∀ c ∈ strand, Settled c := by
  obtain ⟨-, added, -, rfl⟩ := h
  intro c hc
  simp only [List.mem_append, List.mem_map] at hc
  rcases hc with (hc | ⟨b, -, rfl⟩) | hc
  · exact settled_clean (List.mem_of_mem_take hc)
  · exact settled_toChar b
  · exact settled_clean (List.mem_of_mem_drop hc)

theorem Deleted.settled (h : Deleted place count (clean genome) strand) :
    ∀ c ∈ strand, Settled c := by
  obtain ⟨-, rfl⟩ := h
  intro c hc
  rcases List.mem_append.mp hc with hc | hc
  · exact settled_clean (List.mem_of_mem_take hc)
  · exact settled_clean (List.mem_of_mem_drop hc)

end Settled

theorem length_many {α : Type} (count : Nat) (draw : Draw α) (g : Generator) :
    ((many count draw).run g).1.length = count := by
  induction count generalizing g with
  | zero => rfl
  | succ n ih => exact congrArg (· + 1) (ih _)

theorem exists_other_base (letter : Char) : ∃ b : Base, b.toChar ≠ letter := by
  by_cases h : letter = 'A'
  · exact ⟨.c, h ▸ by decide⟩
  · exact ⟨.a, Ne.symm h⟩

section Meets

variable (genome : List Char) (place? : Option Int) (length : Int) (g : Generator)

theorem meets_point :
    Meets (point genome place?) g
      (clean genome = [] ∨ Outside place? ((clean genome).length - 1))
      fun m => AsAsked place? m.place ∧
        ∃ (hi : m.place < (clean genome).length) (new : Base),
          (clean genome)[m.place] ≠ new.toChar ∧
          m.mutated = format ((clean genome).set m.place new.toChar) := by
  simp only [point]
  refine .ite (fun h => .refuse_bind (.inl (List.isEmpty_iff.mp h))) fun hne => .draw ?_
  rw [List.isEmpty_iff] at hne
  have hpos : 0 < (clean genome).length := List.length_pos_iff.mpr hne
  have hp := placed_positionOr place? (fun _ => hpos) g
  generalize ((positionOr place? (clean genome).length).run g).1 = p at hp
  have ho := hp.outside_iff ((clean genome).length - 1) fun _ => by omega
  refine .ite (fun h => .refuse_bind (.inr (ho.mpr (.inl h)))) fun h₀ => ?_
  cases hold : (clean genome)[p.toNat]? with
  | none =>
    have hle := List.getElem?_eq_none_iff.mp hold
    exact .refuse (.inr (ho.mpr (.inr (by omega))))
  | some old =>
    obtain ⟨hi, rfl⟩ := List.getElem?_eq_some_iff.mp hold
    have hin : ¬ Outside place? ((clean genome).length - 1) := by
      rw [ho]
      omega
    have hsome : Base.all.filter (·.toChar ≠ (clean genome)[p.toNat]) ≠ [] := by
      obtain ⟨b, hb⟩ := exists_other_base (clean genome)[p.toNat]
      have hm : b ∈ Base.all := by cases b <;> decide
      exact List.ne_nil_of_mem (List.mem_filter.mpr ⟨hm, decide_eq_true hb⟩)
    refine (meets_choose _ _ _).bind (absurd · hsome) fun new _ _ hn => ?_
    have hnew := of_decide_eq_true (List.mem_filter.mp hn).2
    exact .yield (not_or.mpr ⟨hne, hin⟩)
      ⟨hp.asAsked (by omega), hi, new, fun he => hnew he.symm, rfl⟩

theorem meets_insertion :
    Meets (insertion genome place? length) g
      (length < 1 ∨ Outside place? (clean genome).length)
      fun m => AsAsked place? m.place ∧
        ∃ strand, Inserted m.place length.toNat (clean genome) strand ∧
          m.mutated = format strand := by
  simp only [insertion]
  refine .ite (fun h => .refuse_bind (.inl h)) fun hl => .draw ?_
  have hp := placed_positionOr place? (fun _ => Nat.succ_pos (clean genome).length) g
  generalize ((positionOr place? ((clean genome).length + 1)).run g).1 = p at hp
  have ho := hp.outside_iff (clean genome).length fun _ => by omega
  refine .ite (fun h => .refuse_bind (.inr (ho.mpr h))) fun h => .draw ?_
  have hle : p.toNat ≤ (clean genome).length := by omega
  exact .yield (not_or.mpr ⟨hl, mt ho.mp h⟩)
    ⟨hp.asAsked (by omega), _, ⟨hle, _, length_many _ _ _, rfl⟩, rfl⟩

theorem meets_deletion :
    Meets (deletion genome place? length) g
      (length < 1 ∨ (clean genome).length < length ∨
        Outside place? ((clean genome).length - length))
      fun m => AsAsked place? m.place ∧
        ∃ strand, Deleted m.place length.toNat (clean genome) strand ∧
          m.mutated = format strand := by
  simp only [deletion]
  refine .ite (fun h => .refuse_bind (.inl h)) fun hl =>
    .ite (fun h => .refuse_bind (.inr (.inl h.2))) fun hlong => .draw ?_
  have hp := placed_positionOr place?
    (fun _ => Nat.succ_pos ((clean genome).length - length.toNat)) g
  generalize ((positionOr place? ((clean genome).length - length.toNat + 1)).run g).1 = p at hp
  have ho := hp.outside_iff ((clean genome).length - length) fun hnone => by
    have hfits : ¬ (clean genome).length < length := fun h => hlong ⟨by simp [hnone], h⟩
    omega
  refine .ite (fun h => .refuse_bind (.inr (.inr (ho.mpr (by omega))))) fun h => ?_
  have hle : p.toNat + length.toNat ≤ (clean genome).length := by omega
  exact .yield (not_or.mpr ⟨hl, not_or.mpr ⟨by omega, mt ho.mp (by omega)⟩⟩)
    ⟨hp.asAsked (by omega), _, ⟨hle, rfl⟩, rfl⟩

/-- The number of bases and the coin that a frameshift draws first. -/
def frameshiftDraw : Draw (Nat × Bool) := do
  let count ← below 2
  return (1 + count, ← coin)

/-- Letters cannot be taken out: a strand is too short, or it ends before the last of them. -/
def Overruns (place? : Option Int) (count available : Nat) : Prop :=
  available < count ∨ ∃ p ∈ place?, (available : Int) < p + count

/-- One base or two are put into a strand or taken out of it, as the coin falls. What cannot be
taken out is put in. -/
def Shifted (drawn : Nat × Bool) (place? : Option Int) (place : Nat) (strand strand' : List Char) :
    Prop :=
  (drawn.1 = 1 ∨ drawn.1 = 2) ∧
    ((drawn.2 = true ∨ Overruns place? drawn.1 strand.length) ∧
        Inserted place drawn.1 strand strand' ∨
      ¬ (drawn.2 = true ∨ Overruns place? drawn.1 strand.length) ∧
        Deleted place drawn.1 strand strand')

theorem mutated_asFrameshift (m : Mutation) : m.asFrameshift.mutated = m.mutated := by
  rw [asFrameshift]
  split <;> rfl

theorem place_asFrameshift (m : Mutation) : m.asFrameshift.place = m.place := by
  rw [asFrameshift]
  split <;> rfl

theorem outside_sub_iff {place? : Option Int} {count available : Nat}
    (h : ¬ Overruns place? count available) :
    Outside place? (available - count) ↔ Outside place? available := by
  unfold Overruns at h
  unfold Outside
  cases place? with
  | none => simp
  | some p =>
    simp only [Option.mem_some_iff, exists_eq_left'] at h ⊢
    omega

theorem overruns_iff {place? : Option Int} {count available : Nat} {heads : Bool} :
    (heads || (decide (available < count) ||
      place?.any fun p => (available : Int) < p + count)) = true ↔
      heads = true ∨ Overruns place? count available := by
  cases place? <;> simp [Overruns]

/-- A frameshift is refused at a place that would be refused for an insertion. -/
theorem meets_frameshift :
    Meets (frameshift genome place?) g (Outside place? (clean genome).length)
      fun m => AsAsked place? m.place ∧
        ∃ strand, Shifted (frameshiftDraw.run g).1 place? m.place (clean genome) strand ∧
          m.mutated = format strand := by
  have hd : (frameshiftDraw.run g).1 =
      (1 + ((below 2).run g).1, (coin.run ((below 2).run g).2).1) := rfl
  have hlt := below_lt 2 (by decide) g
  simp only [frameshift, Shifted, hd]
  refine .draw (.draw ?_)
  generalize ((below 2).run g).1 = k at hlt
  have hcount : 1 + k = 1 ∨ 1 + k = 2 := by omega
  refine .ite (fun hin => ?_) fun hout => ?_
  · refine (meets_insertion genome place? _ _).bind (·.resolve_left (by omega)) ?_
    rintro m _ hr ⟨ha, strand, hs, hm⟩
    refine .yield (fun ho => hr (.inr ho)) ?_
    rw [place_asFrameshift, mutated_asFrameshift]
    exact ⟨ha, strand, ⟨hcount, .inl ⟨overruns_iff.mp hin, hs⟩⟩, hm⟩
  · rw [overruns_iff] at hout
    have hroom := not_or.mp hout
    have hiff := outside_sub_iff hroom.2
    have hfits : ¬ (clean genome).length < 1 + k := fun h => hroom.2 (.inl h)
    refine (meets_deletion genome place? _ _).bind ?_ ?_
    · rintro (h | h | h)
      · omega
      · omega
      · exact hiff.mp h
    · rintro m _ hr ⟨ha, strand, hs, hm⟩
      refine .yield (fun ho => hr (.inr (.inr (hiff.mpr ho)))) ?_
      rw [place_asFrameshift, mutated_asFrameshift]
      exact ⟨ha, strand, ⟨hcount, .inr ⟨hout, hs⟩⟩, hm⟩

end Meets

section Written

variable {genome : List Char} {place? : Option Int} {g : Generator} {m : Mutation}

theorem Shifted.settled {drawn : Nat × Bool} {place : Nat} {strand : List Char}
    (h : Shifted drawn place? place (clean genome) strand) : ∀ c ∈ strand, Settled c := by
  obtain ⟨-, ⟨-, h⟩ | ⟨-, h⟩⟩ := h
  · exact h.settled
  · exact h.settled

theorem point_written (h : Yields (point genome place?) g m) :
    ∃ (hi : m.place < (clean genome).length) (new : Base), (clean genome)[m.place] ≠ new.toChar ∧
      m.mutated = format ((clean genome).set m.place new.toChar) :=
  ((meets_point genome place? g).of_yields h).2.2

theorem point_spec (h : Yields (point genome place?) g m) :
    ∃ (i : Nat) (hi : i < (clean genome).length) (x : Char), (clean genome)[i] ≠ x ∧
      clean m.mutated = (clean genome).set i x := by
  obtain ⟨hi, new, hne, hm⟩ := point_written h
  refine ⟨m.place, hi, new.toChar, hne, ?_⟩
  rw [hm, clean_format (settled_set_clean genome m.place new)]

end Written

/-- A mutation of bases is refused exactly if there is no letter for it or the place asked for lies
outside, whatever is drawn. Otherwise the strand of its text is the old one with the change made at
the place, and nothing else. -/
theorem base_mutations_exact (genome : List Char) (place? : Option Int) (length : Int)
    (g : Generator) :
    Meets (point genome place?) g
        (clean genome = [] ∨ Outside place? ((clean genome).length - 1))
        (fun m => AsAsked place? m.place ∧
          Substituted m.place (clean genome) (clean m.mutated)) ∧
      Meets (insertion genome place? length) g
        (length < 1 ∨ Outside place? (clean genome).length)
        (fun m => AsAsked place? m.place ∧
          Inserted m.place length.toNat (clean genome) (clean m.mutated)) ∧
      Meets (deletion genome place? length) g
        (length < 1 ∨ (clean genome).length < length ∨
          Outside place? ((clean genome).length - length))
        (fun m => AsAsked place? m.place ∧
          Deleted m.place length.toNat (clean genome) (clean m.mutated)) ∧
      Meets (frameshift genome place?) g
        (Outside place? (clean genome).length)
        (fun m => AsAsked place? m.place ∧
          Shifted (frameshiftDraw.run g).1 place? m.place (clean genome) (clean m.mutated)) := by
  refine ⟨(meets_point genome place? g).imp .rfl ?_,
    (meets_insertion genome place? length g).imp .rfl ?_,
    (meets_deletion genome place? length g).imp .rfl ?_,
    (meets_frameshift genome place? g).imp .rfl ?_⟩
  · rintro m ⟨ha, hi, new, hne, hm⟩
    rw [hm, clean_format (settled_set_clean genome m.place new)]
    exact ⟨ha, substituted_set hi hne⟩
  all_goals
    rintro m ⟨ha, strand, hs, hm⟩
    rw [hm, clean_format hs.settled]
    exact ⟨ha, hs⟩

end Mutation

end Triplet
