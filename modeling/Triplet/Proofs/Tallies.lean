import Triplet.Usage.Tally

/-! # What a tally says

A tally lists every item of a list once, in the order in which the items are first seen, and its
counts add up: those of a class of items to the number of items of that class. The entries with the
greatest counts begin the ranking of a tally, in which a greater count comes first and the tally
decides between equal counts.
-/

namespace Triplet

variable {α : Type} [DecidableEq α]

theorem idxOf_cons_of_ne {a b : α} {rest : List α} (h : a ≠ b) :
    (a :: rest).idxOf b = rest.idxOf b + 1 := by
  rw [List.idxOf_cons, beq_false_of_ne h, cond_false]

theorem pairwise_firstSeen (items : List α) :
    (firstSeen items).Pairwise fun a b => items.idxOf a < items.idxOf b := by
  induction items with
  | nil => exact .nil
  | cons a rest ih =>
    rw [firstSeen, List.pairwise_cons]
    constructor
    · intro b hb
      have hne : a ≠ b := by
        rintro rfl
        simp at hb
      rw [List.idxOf_cons_self, idxOf_cons_of_ne hne]
      omega
    · refine (ih.filter _).imp_of_mem ?_
      intro b c hb hc h
      have hb : b ≠ a := of_decide_eq_true (List.mem_filter.mp hb).2
      have hc : c ≠ a := of_decide_eq_true (List.mem_filter.mp hc).2
      rw [idxOf_cons_of_ne hb.symm, idxOf_cons_of_ne hc.symm]
      omega

section Pairs

omit [DecidableEq α]

variable {a b : α} {l : List α}

theorem pair_sublist_or (ha : a ∈ l) (hb : b ∈ l) (hne : a ≠ b) :
    [a, b].Sublist l ∨ [b, a].Sublist l := by
  induction l with
  | nil => cases ha
  | cons c l ih =>
    rcases List.mem_cons.mp ha with rfl | ha'
    · have hb' : b ∈ l := (List.mem_cons.mp hb).resolve_left hne.symm
      exact .inl ((List.singleton_sublist.mpr hb').cons_cons a)
    · rcases List.mem_cons.mp hb with rfl | hb'
      · exact .inr ((List.singleton_sublist.mpr ha').cons_cons b)
      · exact (ih ha' hb').imp (·.cons c) (·.cons c)

theorem not_pair_sublist_of_pair (hl : l.Nodup) (h : [a, b].Sublist l) : ¬ [b, a].Sublist l := by
  induction l with
  | nil => cases h
  | cons c l ih =>
    obtain ⟨hc, hl⟩ := List.nodup_cons.mp hl
    intro h'
    have mem {x y : α} (h : [x, y].Sublist (c :: l)) : y ∈ l := by
      rcases List.sublist_cons_iff.mp h with h | ⟨r, hr, h⟩
      · exact h.subset (by simp)
      · obtain ⟨-, rfl⟩ := List.cons.inj hr
        exact h.subset (by simp)
    have tail {x y : α} (h : [x, y].Sublist (c :: l)) (hx : x ∈ l) : [x, y].Sublist l := by
      rcases List.sublist_cons_iff.mp h with h | ⟨r, hr, -⟩
      · exact h
      · exact (hc ((List.cons.inj hr).1 ▸ hx)).elim
    exact ih hl (tail h (mem h')) (tail h' (mem h))

end Pairs

namespace Tally

def get (t : Tally α) (a : α) : Nat := (t.lookup a).getD 0

def sumOf (t : Tally α) (items : List α) : Nat := items.foldr (fun a n => t.get a + n) 0

/-- The tally lists the items of a list, each once with the number of its occurrences, in the order
in which they are first seen. -/
structure Counts (t : Tally α) (items : List α) : Prop where
  mem_iff (a : α) : a ∈ t.map Prod.fst ↔ a ∈ items
  ordered : (t.map Prod.fst).Pairwise fun a b => items.idxOf a < items.idxOf b
  count_eq : ∀ e ∈ t, e.2 = items.count e.1

/-- All entries of a tally, a greater count first, and equal counts in the order of the tally. -/
structure Ranking (t ranking : Tally α) : Prop where
  perm : ranking.Perm t
  ordered : ranking.Pairwise fun e e' => e'.2 < e.2 ∨ e'.2 = e.2 ∧ [e, e'].Sublist t

variable (items : List α)

theorem map_fst_ofList : (ofList items).map Prod.fst = firstSeen items := by
  rw [ofList, List.map_map]
  exact List.map_id _

theorem counts_ofList : Counts (ofList items) items where
  mem_iff a := by rw [map_fst_ofList, mem_firstSeen]
  ordered := by
    rw [map_fst_ofList]
    exact pairwise_firstSeen items
  count_eq e he := by
    obtain ⟨a, -, rfl⟩ := List.mem_map.mp he
    rfl

theorem nodup_ofList : (ofList items).Nodup := by
  have h : ((ofList items).map Prod.fst).Nodup := by
    rw [map_fst_ofList]
    exact nodup_firstSeen items
  exact List.Pairwise.of_map Prod.fst (fun _ _ => mt (congrArg Prod.fst)) h

theorem lookup_map_of_mem {keys : List α} (f : α → Nat) {a : α} (h : a ∈ keys) :
    (keys.map fun b => (b, f b)).lookup a = some (f a) := by
  induction keys with
  | nil => cases h
  | cons b keys ih =>
    rw [List.map_cons, List.lookup_cons]
    by_cases hb : a = b
    · subst hb
      rw [beq_self_eq_true]
    · rw [beq_false_of_ne hb]
      exact ih ((List.mem_cons.mp h).resolve_left hb)

theorem get_ofList (a : α) : (ofList items).get a = items.count a := by
  by_cases h : a ∈ items
  · rw [get, ofList, lookup_map_of_mem _ (mem_firstSeen.mpr h), Option.getD_some]
  · have hl : (ofList items).lookup a = none := by
      rw [List.lookup_eq_none_iff]
      intro e he
      rw [bne_iff_ne]
      rintro rfl
      exact h (((counts_ofList items).mem_iff e.1).mp (List.mem_map_of_mem he))
    rw [get, hl, List.count_eq_zero.mpr h, Option.getD_none]

theorem get_of_mem {e : α × Nat} (he : e ∈ ofList items) : (ofList items).get e.1 = e.2 := by
  rw [get_ofList, (counts_ofList items).count_eq e he]

theorem countP_eq_of_ne (p : α → Bool) (a : α) : items.countP p =
    (if p a then items.count a else 0) + items.countP fun b => p b && b ≠ a := by
  induction items with
  | nil => simp
  | cons b rest ih =>
    simp only [List.countP_cons, List.count_cons, ih]
    by_cases hb : b = a
    · subst hb
      cases p b <;> simp
      omega
    · cases p a <;> cases p b <;> simp [hb]
      omega

theorem total_filter_ofList (p : α → Bool) :
    total ((ofList items).filter fun e => p e.1) = items.countP p := by
  induction items generalizing p with
  | nil => rfl
  | cons a rest ih =>
    -- The counts of the other items do not change by the first one.
    have hrest : (((firstSeen rest).filter (· ≠ a)).map fun b => (b, (a :: rest).count b)) =
        (ofList rest).filter fun e => e.1 ≠ a := by
      rw [ofList, List.filter_map]
      refine List.map_congr_left ?_
      intro b hb
      have hb : b ≠ a := of_decide_eq_true (List.mem_filter.mp hb).2
      rw [List.count_cons_of_ne hb.symm]
    have hcons : ofList (a :: rest) =
        (a, (a :: rest).count a) :: (ofList rest).filter fun e => e.1 ≠ a := by
      rw [← hrest]
      rfl
    have ih := ih fun b => p b && b ≠ a
    rw [hcons, List.filter_cons, List.filter_filter, List.countP_cons, countP_eq_of_ne rest p a,
      ← ih, List.count_cons_self]
    cases p a <;> simp [total]
    omega

theorem total_ofList : total (ofList items) = items.length := by
  have h := total_filter_ofList items fun _ => true
  rwa [List.filter_eq_self.mpr fun _ _ => rfl, List.countP_true] at h

theorem sumOf_ofList {keys : List α} (hk : keys.Nodup) {p : α → Bool}
    (hp : ∀ a ∈ items, p a = true ↔ a ∈ keys) : (ofList items).sumOf keys = items.countP p := by
  have key : (ofList items).sumOf keys = items.countP (· ∈ keys) := by
    clear hp
    induction keys with
    | nil => simp [sumOf]
    | cons a keys ih =>
      obtain ⟨ha, hk⟩ := List.nodup_cons.mp hk
      have hsum : (ofList items).sumOf (a :: keys) =
          (ofList items).get a + (ofList items).sumOf keys := rfl
      rw [hsum, get_ofList, ih hk, countP_eq_of_ne items (fun b => b ∈ a :: keys) a,
        if_pos (by simp)]
      congr 1
      refine List.countP_congr ?_
      intro b hb
      simp only [decide_eq_true_eq, Bool.and_eq_true, List.mem_cons]
      constructor
      · intro h
        exact ⟨.inr h, fun hb => ha (hb ▸ h)⟩
      · rintro ⟨h, hne⟩
        exact h.resolve_left hne
  rw [key]
  refine List.countP_congr ?_
  intro a ha
  rw [hp a ha, decide_eq_true_iff]

section Images

omit [DecidableEq α]

variable {β : Type} [DecidableEq β] (items : List α) (b : β) (f : α → β) (f? : α → Option β)

theorem get_map : (ofList (items.map f)).get b = items.countP fun a => f a = b := by
  rw [get_ofList, List.count, List.countP_map]
  rfl

theorem get_filterMap :
    (ofList (items.filterMap f?)).get b = items.countP fun a => f? a = some b := by
  rw [get_ofList, List.count, List.countP_filterMap]
  refine List.countP_congr ?_
  intro a _
  cases f? a <;> simp

end Images

section Ranking

omit [DecidableEq α]

variable {t : Tally α}

theorem ranking_mergeSort (ht : t.Nodup) : Ranking t (t.mergeSort fun a b => b.2 ≤ a.2) := by
  have htrans (a b c : α × Nat) : decide (b.2 ≤ a.2) → decide (c.2 ≤ b.2) → decide (c.2 ≤ a.2) := by
    simp only [decide_eq_true_eq]
    omega
  have htotal (a b : α × Nat) : decide (b.2 ≤ a.2) || decide (a.2 ≤ b.2) := by
    simp only [Bool.or_eq_true, decide_eq_true_eq]
    omega
  have hperm := t.mergeSort_perm fun a b => b.2 ≤ a.2
  refine ⟨hperm, ?_⟩
  rw [List.pairwise_iff_forall_sublist]
  intro e e' h
  have hnodup := hperm.nodup_iff.mpr ht
  have hle := List.pairwise_iff_forall_sublist.mp (List.pairwise_mergeSort htrans htotal t) h
  rcases Nat.lt_or_eq_of_le (of_decide_eq_true hle) with hlt | heq
  · exact .inl hlt
  · have hne : e ≠ e' := by
      rintro rfl
      simpa using h.nodup hnodup
    have hmem (x : α × Nat) (hx : x ∈ [e, e']) : x ∈ t := hperm.mem_iff.mp (h.subset hx)
    refine .inr ⟨heq, (pair_sublist_or (hmem e (by simp)) (hmem e' (by simp)) hne).resolve_right ?_⟩
    -- The sort is stable, so the other order would be that of the ranking too.
    intro h'
    have hle' : decide (e.2 ≤ e'.2) = true := decide_eq_true (by omega)
    exact not_pair_sublist_of_pair hnodup h (List.pair_sublist_mergeSort htrans htotal hle' h')

theorem Ranking.le_of_notMem_take {ranking : Tally α} (h : Ranking t ranking) {count : Nat}
    {e e' : α × Nat} (he : e ∈ t) (hn : e ∉ ranking.take count) (he' : e' ∈ ranking.take count) :
    e.2 ≤ e'.2 := by
  have hd : e ∈ ranking.drop count := by
    have hr := h.perm.mem_iff.mpr he
    rw [← List.take_append_drop count ranking, List.mem_append] at hr
    exact hr.resolve_left hn
  have hp := h.ordered
  rw [← List.take_append_drop count ranking, List.pairwise_append] at hp
  rcases hp.2.2 e' he' e hd with hlt | ⟨heq, -⟩
  · omega
  · omega

end Ranking

end Tally

end Triplet
