import Triplet.Command.Validation
import Triplet.Proofs.Acceptance
import Triplet.Proofs.FrameBreaks
import Triplet.Proofs.MarkupTags
import Triplet.Proofs.WrittenTexts

/-! # Lines about problems

A problem is printed in a line with markup, where a codon that is not known stands as it is. Such a
codon adds a tag to the line only if it is one, a sign between two brackets: a letter that is raised
to more than one character has no part in a tag.
-/

namespace Triplet

open Text

/-- A bracket with a tag behind it that is closed in the text itself. -/
def Console.HasTag (text : List Char) : Prop :=
  ∃ before x after, text = before ++ '[' :: x :: after ∧ beginsTag x = true ∧ ']' ∈ after

namespace Genome

def isTagMark (c : Char) : Bool := ['[', ']', '#', '/', '@'].contains c

theorem isTagMark_of_mem_caseExpansions :
    ∀ e ∈ caseExpansions, ∀ n ∈ e.2, isTagMark (Char.ofNat n) = false := by decide +kernel

theorem raise_eq_singleton {c d : Char} (hd : isTagMark d = true) (h : d ∈ raise c) :
    raise c = [d] := by
  rw [raise] at h ⊢
  split at h
  · rename_i hu
    rw [if_pos hu, List.mem_singleton.mp h]
  · rename_i hu
    rw [if_neg hu]
    refine upper_eq_singleton (fun e he n hn hne => ?_) h
    simp [hne ▸ isTagMark_of_mem_caseExpansions e he n hn] at hd

section Codon

variable {text : List Char} {t : Token}

theorem countP_isTagMark {l : Letter} (h : l ∈ letters text) :
    l.text.countP isTagMark = 0 ∨ l.text.length = 1 := by
  obtain ⟨line, -, c, -, -, hl⟩ := exists_of_mem_lettersFrom h
  by_cases hm : ∃ d ∈ l.text, isTagMark d = true
  · obtain ⟨d, hd, hm⟩ := hm
    rw [hl] at hd ⊢
    exact .inr (by rw [raise_eq_singleton hm hd]; rfl)
  · refine .inl (List.countP_eq_zero.mpr fun d hd hm' => hm ⟨d, hd, hm'⟩)

theorem length_of_three_marks (h : t ∈ tokens text) (hm : 3 ≤ t.codon.countP isTagMark) :
    t.codon.length = 3 := by
  obtain ⟨a, ha, b, hb, c, hc, ht⟩ := exists_letters_of_mem_tokensFrom h
  rw [ht, List.countP_append, List.countP_append] at hm
  rw [ht, List.length_append, List.length_append]
  have la := List.countP_le_length (p := isTagMark) (l := a.text)
  have lb := List.countP_le_length (p := isTagMark) (l := b.text)
  have lc := List.countP_le_length (p := isTagMark) (l := c.text)
  have ma := countP_isTagMark ha
  have mb := countP_isTagMark hb
  have mc := countP_isTagMark hc
  omega

theorem upper_small : ∀ n ∈ List.range' 97 26, upper (Char.ofNat n) ≠ [Char.ofNat n] := by
  decide +kernel

/-- A tag that begins with a raised letter begins with a sign. -/
theorem sign_of_beginsTag {c : Char} (hs : Settled c) (hb : Console.beginsTag c = true) :
    c = '#' ∨ c = '/' ∨ c = '@' := by
  simp only [Console.beginsTag, Bool.or_eq_true, Bool.and_eq_true, decide_eq_true_eq] at hb
  rcases hb with (((⟨ha, hz⟩ | hb) | hb) | hb)
  · have ha : 97 ≤ c.toNat := ha
    have hz : c.toNat ≤ 122 := hz
    have hu := upper_small c.toNat (List.mem_range'_1.mpr ⟨ha, by omega⟩)
    rw [Char.ofNat_toNat] at hu
    exact (hu hs.upper).elim
  · exact .inl hb
  · exact .inr (.inl hb)
  · exact .inr (.inr hb)

theorem codon_eq_tag (h : t ∈ tokens text) (ht : Console.HasTag t.codon) :
    ∃ x, t.codon = ['[', x, ']'] ∧ (x = '#' ∨ x = '/' ∨ x = '@') := by
  obtain ⟨before, x, after, hc, hb, he⟩ := ht
  have hx := sign_of_beginsTag (settled_of_mem_tokens h x (by simp [hc])) hb
  have hsub : ['[', x, ']'].Sublist t.codon := by
    rw [hc]
    refine List.Sublist.trans ?_ (List.sublist_append_right ..)
    exact .cons_cons _ (.cons_cons _ (List.singleton_sublist.mpr he))
  have hthree : ['[', x, ']'].countP isTagMark = 3 := by
    rcases hx with rfl | rfl | rfl <;> decide
  have hlen := length_of_three_marks h (hthree ▸ hsub.countP_le)
  exact ⟨x, (hsub.eq_of_length (by rw [hlen]; rfl)).symm, hx⟩

end Codon

end Genome

namespace Console

section Lines

variable {lead style body rest codon : List Char}

def lineStyles : List (List Char) := ["red", "yellow", "green", "dim"].map String.toList

theorem mem_lineStyles_iff :
    style ∈ lineStyles ↔ style = ['r', 'e', 'd'] ∨ style = ['y', 'e', 'l', 'l', 'o', 'w'] ∨
      style = ['g', 'r', 'e', 'e', 'n'] ∨ style = ['d', 'i', 'm'] := by
  simp [lineStyles]

theorem isName_colors : isName ['r', 'e', 'd'] = true ∧
    isName ['y', 'e', 'l', 'l', 'o', 'w'] = true ∧ isName ['g', 'r', 'e', 'e', 'n'] = true := by
  decide

theorem isName_sign : isName ['#'] = true ∧ isName ['@'] = true := by decide

theorem isStyle_of_mem (h : style ∈ lineStyles) : IsStyle style := by
  rcases mem_lineStyles_iff.mp h with rfl | rfl | rfl | rfl
  · exact ⟨rfl, by decide, by decide, by decide, rfl, styleName_of_isName isName_colors.1⟩
  · exact ⟨rfl, by decide, by decide, by decide, rfl, styleName_of_isName isName_colors.2.1⟩
  · exact ⟨rfl, by decide, by decide, by decide, rfl, styleName_of_isName isName_colors.2.2⟩
  · exact ⟨rfl, by decide, by decide, by decide, rfl, rfl⟩

theorem failure?_render_enclosed (hs : style ∈ lineStyles) (hl : '[' ∉ lead)
    (hl' : lead.getLast? ≠ some '\\') (hb : '[' ∉ body) (hb' : body.getLast? ≠ some '\\') :
    failure? (render (enclosed lead style body)) = none := by
  have hstyle := isStyle_of_mem hs
  have ht : Tagged (body ++ closingTag style) ['/' :: style] :=
    (tagged_closingTag hstyle).append (.of_notMem hb) hb'
  rw [(tagged_enclosed hstyle hl hl' ht).failure?_render]
  exact hstyle.failure?_pair

structure IsTrail (rest : List Char) : Prop where
  quote : rest.head? = some '\''
  opening : '[' ∉ rest
  closing : ']' ∉ rest
  last : rest.getLast? ≠ some '\\'

theorem noTag_codon (hr : IsTrail rest) (hc : ¬HasTag codon) :
    NoTag codon (rest ++ closingTag style) := by
  obtain ⟨rest, rfl⟩ := List.head?_eq_some_iff.mp hr.quote
  intro before after hcodon
  cases after with
  | nil => rfl
  | cons x after =>
    rw [List.cons_append, tag?]
    split
    · rename_i hb
      have hclose : ']' ∉ after ++ '\'' :: rest := by
        rw [List.mem_append, not_or]
        exact ⟨fun he => hc ⟨before, x, after, hcodon, hb, he⟩, hr.closing⟩
      rw [← List.append_assoc, closingTag, List.cons_append, tagEnd?_eq_none hclose]
      rfl
    · rfl

section Tags

variable (hs : IsStyle style) (hr : IsTrail rest)
include hs hr

theorem tagged_codon_of_notHasTag (hc : ¬HasTag codon) :
    Tagged (codon ++ rest ++ closingTag style) ['/' :: style] := by
  have hlast : (codon ++ rest).getLast? ≠ some '\\' := by
    obtain ⟨rest, rfl⟩ := List.head?_eq_some_iff.mp hr.quote
    simpa [List.getLast?_append] using hr.last
  have hno : NoTag (codon ++ rest) (closingTag style) :=
    (noTag_codon hr hc).append (.of_notMem hr.opening)
  exact (tagged_closingTag hs).append hno hlast

theorem tagged_codon_of_sign {x : Char} (hx : beginsTag x = true) :
    Tagged (['[', x, ']'] ++ rest ++ closingTag style) [[x], '/' :: style] := by
  have hclosing : Tagged (rest ++ closingTag style) ['/' :: style] :=
    (tagged_closingTag hs).append (.of_notMem hr.opening) hr.last
  rw [List.append_assoc]
  exact .tag (tag?_append hx List.not_mem_nil List.not_mem_nil) hclosing

end Tags

/-- The codon of a token in a line: the line cannot be printed exactly if the codon is the tag that
closes whatever is open. -/
theorem failure?_render_codon {text : List Char} {t : Token} (ht : t ∈ Genome.tokens text)
    (hl : '[' ∉ lead) (hl' : lead.getLast? ≠ some '\\') (hb : '[' ∉ body)
    (hb' : body.getLast? ≠ some '\\') (hr : IsTrail rest) :
    failure? (render (enclosed lead "red".toList (body ++ (t.codon ++ rest)))) =
      if t.codon = ['[', '/', ']'] then some (.unmatched "/red".toList) else none := by
  have hstyle : IsStyle "red".toList := isStyle_of_mem (by simp [lineStyles])
  have hline {tags : List (List Char)}
      (h : Tagged (t.codon ++ rest ++ closingTag "red".toList) tags) :
      Tagged (enclosed lead "red".toList (body ++ (t.codon ++ rest))) ("red".toList :: tags) := by
    refine tagged_enclosed hstyle hl hl' ?_
    rw [List.append_assoc]
    exact h.append (.of_notMem hb) hb'
  by_cases hc : HasTag t.codon
  · obtain ⟨x, htag, hsign⟩ := Genome.codon_eq_tag ht hc
    have hx : beginsTag x = true := by rcases hsign with rfl | rfl | rfl <;> rfl
    rw [(hline (htag ▸ tagged_codon_of_sign hstyle hr hx)).failure?_render, htag]
    rcases hsign with rfl | rfl | rfl
    · rw [if_neg (by simp)]
      exact hstyle.failure?_between (by decide) (by decide) (styleName_of_isName isName_sign.1)
    · rw [if_pos rfl]
      exact hstyle.failure?_slash
    · rw [if_neg (by simp)]
      exact hstyle.failure?_between (by decide) (by decide) (styleName_of_isName isName_sign.2)
  · have hne : t.codon ≠ ['[', '/', ']'] := fun h => hc ⟨[], '/', [']'], h, rfl, by simp⟩
    rw [(hline (tagged_codon_of_notHasTag hstyle hr hc)).failure?_render, if_neg hne]
    exact hstyle.failure?_pair

end Lines

end Console

namespace Problem

open Console

def quoted? : Problem → Option (List Char)
  | unknownCodon codon _ _ => some codon
  | unreadable reason => some reason.toList
  | _ => none

def closesTag (p : Problem) : Bool := p.quoted? = some ['[', '/', ']']

theorem toString_text (text : String) : toString text = text := rfl

theorem notMem_int (n : Int) : '[' ∉ n.repr.toList := by
  rw [← Int.toString_eq_repr]
  exact notMem_toString_int (by decide) (by decide) n

theorem notMem_digits {c : Char} (hc : c.isDigit = false) (n : Nat) : c ∉ Nat.toDigits 10 n := by
  intro h
  simp [Nat.isDigit_of_mem_toDigits (by decide) (by decide) h] at hc

theorem notMem_fix {p : Problem} {fix : String} (h : p.fix? = some fix) :
    '[' ∉ fix.toList ∧ '\\' ∉ fix.toList := by
  have ho := notMem_digits (c := '[') (by decide)
  have hs := notMem_digits (c := '\\') (by decide)
  cases p <;> cases h <;> simp [String.toList_append, toString_text, ho, hs]

theorem notMem_message {p : Problem} (h : p.quoted? = none) : '[' ∉ p.message.toList := by
  cases p with
  | unknownCodon => cases h
  | unreadable => cases h
  | _ =>
    have hd := notMem_digits (c := '[') (by decide)
    unfold message
    simp [String.toList_append, toString_text, hd, notMem_int]

theorem quoted?_of_mem_frameProblems {text : List Char} {p : Problem}
    (h : p ∈ Genome.frameProblems text) : p.quoted? = none := by
  rcases List.mem_append.mp h with h | h
  · obtain ⟨i, line, column, -, -, rfl⟩ := Genome.mem_breaksFrom_iff.mp h
    rfl
  · split at h
    · cases h
    · rw [List.mem_singleton.mp h]
      rfl

/-- The problems of a text quote the unknown codons of its tokens and nothing else. -/
theorem mem_problems {text : List Char} {p : Problem} (h : p ∈ Genome.problems text) :
    (∃ t ∈ Genome.tokens text, p = .unknownCodon t.codon t.line t.position) ∨
      p.quoted? = none := by
  rcases List.mem_append.mp h with h | h
  · exact .inr (quoted?_of_mem_frameProblems h)
  rw [Genome.structureProblems] at h
  split at h
  · cases h
  simp only [List.mem_append] at h
  rcases h with ((h | h) | h) | h
  · obtain ⟨position, rfl⟩ := Genome.exists_noStart h
    exact .inr rfl
  · obtain ⟨t, ht, rfl⟩ := List.mem_map.mp h
    exact .inl ⟨t, (List.mem_filter.mp ht).1, rfl⟩
  · obtain ⟨t, -, rfl⟩ := List.mem_map.mp h
    exact .inr rfl
  · obtain ⟨position, rfl⟩ := Genome.exists_noStop h
    exact .inr rfl

theorem any_closesTag_iff {text : List Char} :
    (Genome.problems text).any closesTag = true ↔
      ∃ t ∈ Genome.tokens text, t.codon = ['[', '/', ']'] := by
  rw [List.any_eq_true]
  constructor
  · rintro ⟨p, hp, hc⟩
    rcases mem_problems hp with ⟨t, ht, rfl⟩ | hq
    · exact ⟨t, ht, by simpa [closesTag, quoted?] using hc⟩
    · simp [closesTag, hq] at hc
  · rintro ⟨t, ht, hc⟩
    have hu : t.isUnknown = true := by
      rw [Genome.isUnknown_iff ht, hc]
      decide
    have hm : Problem.unknownCodon t.codon t.line t.position ∈
        Genome.unknownProblems (Genome.tokens text) :=
      List.mem_map.mpr ⟨t, List.mem_filter.mpr ⟨ht, hu⟩, rfl⟩
    refine ⟨.unknownCodon t.codon t.line t.position, List.mem_append_right _ ?_,
      by simp [closesTag, quoted?, hc]⟩
    rw [Genome.structureProblems, if_neg (by simpa using List.ne_nil_of_mem ht)]
    simp [hm]

section Line

variable {text : List Char} {p : Problem} {indent icon color : String}

theorem toList_line (indent color icon message : String) (position : Int) :
    (s!"{indent}[{color}]{icon} {message} (position {position})[/{color}]").toList =
      enclosed indent.toList color.toList
        (s!"{icon} {message} (position {position})").toList := by
  simp [enclosed, closingTag, String.toList_append, toString_text]

theorem toList_unknown (icon : String) (codon : List Char) (line position : Int) :
    (s!"{icon} {(unknownCodon codon line position).message} (position {position})").toList =
      (icon ++ " Unknown codon '").toList ++
        (codon ++ (s!"' at line {line} (position {position})").toList) := by
  unfold message
  simp [String.toList_append, toString_text]

theorem getLast?_append_ne (text : String) {last : String}
    (h : last.toList.getLast?.any (· ≠ '\\') = true) :
    (text ++ last).toList.getLast? ≠ some '\\' := by
  rw [String.toList_append, List.getLast?_append]
  cases hl : last.toList.getLast? with
  | none => simp [hl] at h
  | some c => simpa [hl] using h

theorem isTrail_unknown (line position : Int) :
    IsTrail (s!"' at line {line} (position {position})").toList where
  quote := by simp [String.toList_append, toString_text]
  opening := by simp [String.toList_append, toString_text, notMem_int]
  closing := by
    have hn (n : Int) : ']' ∉ n.repr.toList := by
      rw [← Int.toString_eq_repr]
      exact notMem_toString_int (by decide) (by decide) n
    simp [String.toList_append, toString_text, hn]
  last := getLast?_append_ne _ (by decide)

variable (hi : '[' ∉ indent.toList)
include hi

theorem failure?_fixLine {fix : String} (h : p.fix? = some fix) :
    failure? (render (s!"{indent}  [dim]Fix: {fix}[/dim]").toList) = none := by
  have hline : (s!"{indent}  [dim]Fix: {fix}[/dim]").toList =
      enclosed (indent ++ "  ").toList "dim".toList (s!"Fix: {fix}").toList := by
    simp [enclosed, closingTag, String.toList_append, toString_text]
  rw [hline]
  refine failure?_render_enclosed (by simp [lineStyles]) ?_ ?_ ?_ ?_
  · simp [String.toList_append, hi]
  · simp [String.toList_append]
  · simp [String.toList_append, toString_text, (notMem_fix h).1]
  · intro hlast
    have hmem := List.mem_of_getLast? hlast
    simp [String.toList_append, toString_text, (notMem_fix h).2] at hmem

variable (hl : indent.toList.getLast? ≠ some '\\')
include hl

theorem failure?_line (h : p ∈ Genome.problems text)
    (hs : (icon, color) = if p.isError then ("✗", "red") else ("⚠", "yellow")) :
    failure? (render
      (s!"{indent}[{color}]{icon} {p.message} (position {p.position})[/{color}]").toList) =
      if p.closesTag then some (.unmatched "/red".toList) else none := by
  rw [toList_line]
  rcases mem_problems h with ⟨t, ht, rfl⟩ | hq
  · obtain ⟨rfl, rfl⟩ := Prod.mk.inj hs
    have hlead : '[' ∉ ("✗" ++ " Unknown codon '").toList := by decide
    have hlast : ("✗" ++ " Unknown codon '").toList.getLast? ≠ some '\\' := by decide
    have hline := failure?_render_codon ht hi hl hlead hlast
      (isTrail_unknown t.line t.position)
    rw [← toList_unknown] at hline
    simp only [closesTag, quoted?, Option.some.injEq, decide_eq_true_eq]
    exact hline
  · have hstyle : color.toList ∈ lineStyles := by
      cases hp : p.isError
      all_goals
        rw [hp] at hs
        obtain ⟨-, rfl⟩ := Prod.mk.inj hs
        simp [lineStyles]
    have hicon : '[' ∉ icon.toList := by
      cases hp : p.isError
      all_goals
        rw [hp] at hs
        obtain ⟨rfl, -⟩ := Prod.mk.inj hs
        decide
    have hc : p.closesTag = false := by simp [closesTag, hq]
    rw [hc, failure?_render_enclosed hstyle hi hl]
    · rfl
    · simp [String.toList_append, toString_text, notMem_int, hicon, notMem_message hq]
    · exact getLast?_append_ne _ (by decide)

end Line

end Problem

end Triplet
