import Triplet.Console.Line

/-! # Tags of a markup text

Whether a text with markup can be printed depends on its tags alone, which are opened and closed one
after another. Plain text between them adds none, unless one of its brackets opens a tag.
-/

namespace Triplet.Console

def failure? {ε α : Type} : Except ε α → Option ε
  | .ok _ => none
  | .error e => some e

theorem failure?_bind {ε α β γ : Type} {x : Except ε α} {f : α → Except ε β}
    {g : α → Except ε γ} (h : ∀ a, failure? (f a) = failure? (g a)) :
    failure? (x >>= f) = failure? (x >>= g) := by
  cases x with
  | error e => rfl
  | ok a => exact h a

theorem mapError_ok {ε ε' α : Type} (f : ε → ε') (a : α) :
    (Except.ok a : Except ε α).mapError f = .ok a := rfl

section Print

def passTag (openTags : List OpenTag) (inside : List Char) : Except MarkupError (List OpenTag) :=
  let name := inside.takeWhile (· ≠ '=')
  if name.head? = some '/' then closeTag inside name.tail openTags
  else do
    let style ← (styleName name).mapError .color
    return ⟨style, inside.drop (name.length + 1)⟩ :: openTags

def tagsOf : List Piece → List (List Char)
  | [] => []
  | .plain _ :: rest => tagsOf rest
  | .tag inside :: rest => inside :: tagsOf rest

theorem print_tag (openTags : List OpenTag) (inside : List Char) (rest : List Piece) :
    print openTags (.tag inside :: rest) =
      passTag openTags inside >>= fun openTags => print openTags rest := by
  rw [print, passTag]
  generalize inside.takeWhile (· ≠ '=') = name
  split
  · rfl
  · rename_i hname
    have hhead : name.head? ≠ some '/' := by
      intro h
      obtain ⟨closing, rfl⟩ := List.head?_eq_some_iff.mp h
      exact hname closing rfl
    rw [if_neg hhead]
    cases styleName name <;> rfl

theorem failure?_print (openTags : List OpenTag) (ps : List Piece) :
    failure? (print openTags ps) = failure? ((tagsOf ps).foldlM passTag openTags) := by
  induction ps generalizing openTags with
  | nil => rfl
  | cons p ps ih =>
    cases p with
    | plain text =>
      rw [print, tagsOf, ← ih]
      cases print openTags ps <;> rfl
    | tag inside =>
      rw [print_tag, tagsOf, List.foldlM_cons]
      exact failure?_bind ih

theorem tagsOf_append (ps ps' : List Piece) : tagsOf (ps ++ ps') = tagsOf ps ++ tagsOf ps' := by
  induction ps with
  | nil => rfl
  | cons p ps ih => cases p <;> simp [tagsOf, ih]

@[simp] theorem tagsOf_passed (text : List Char) : tagsOf (passed text) = [] := by
  rw [passed]
  split <;> rfl

end Print

section Tagged

/-- The tags of a text, in which no tag is escaped. A bracket that opens no tag is plain, with all
backslashes before it. -/
inductive Tagged : List Char → List (List Char) → Prop where
  | nil : Tagged [] []
  | char {c : Char} {rest : List Char} {tags : List (List Char)} :
      c ≠ '\\' → c ≠ '[' → Tagged rest tags → Tagged (c :: rest) tags
  | slashes {c : Char} {rest : List Char} {tags : List (List Char)} (count : Nat) :
      c ≠ '\\' → c ≠ '[' → Tagged (c :: rest) tags →
      Tagged (List.replicate (count + 1) '\\' ++ c :: rest) tags
  | bracket {rest : List Char} {tags : List (List Char)} (count : Nat) :
      tag? rest = none → Tagged rest tags →
      Tagged (List.replicate count '\\' ++ '[' :: rest) tags
  | tag {inside rest : List Char} {tags : List (List Char)} :
      tag? (inside ++ ']' :: rest) = some (inside, rest) → Tagged rest tags →
      Tagged ('[' :: inside ++ ']' :: rest) (inside :: tags)

variable {text rest : List Char} {tags : List (List Char)}

theorem pieces_char {c : Char} (hs : c ≠ '\\') (hb : c ≠ '[') (before : List Char) (n : Nat) :
    pieces before (n + 1) (c :: rest) = pieces (c :: before) n rest := by
  rw [pieces, if_neg (by simp [hs, hb])]

section Slashes

variable {c : Char} (count : Nat) (before : List Char) (n : Nat)

theorem takeWhile_slashes (hc : c ≠ '\\') (rest : List Char) :
    (List.replicate count '\\' ++ c :: rest).takeWhile (· = '\\') =
      List.replicate count '\\' := by
  rw [List.takeWhile_append_of_pos (by simp), List.takeWhile_cons_of_neg (by simpa using hc),
    List.append_nil]

theorem drop_slashes (c : Char) (rest : List Char) :
    (List.replicate count '\\' ++ c :: rest).drop count = c :: rest := by
  rw [List.drop_append_of_le_length (by simp), List.drop_eq_nil_of_le (by simp), List.nil_append]

theorem head_slashes : (List.replicate (count + 1) '\\' ++ c :: rest) =
    '\\' :: (List.replicate count '\\' ++ c :: rest) := rfl

theorem pieces_slashes (hs : c ≠ '\\') (hb : c ≠ '[') :
    pieces before (n + 1) (List.replicate (count + 1) '\\' ++ c :: rest) =
      pieces (List.replicate (count + 1) '\\' ++ before) n (c :: rest) := by
  have hrun := takeWhile_slashes (count + 1) hs rest
  have hafter := drop_slashes (count + 1) c rest
  rw [head_slashes] at hrun hafter ⊢
  rw [pieces, if_pos (by simp)]
  simp only [hrun, hafter, List.length_replicate]
  split
  · rename_i h
    exact (hb (List.cons.inj h).1).elim
  · rfl

theorem pieces_bracket (ht : tag? rest = none) :
    pieces before (n + 1) (List.replicate count '\\' ++ '[' :: rest) =
      pieces ('[' :: (List.replicate count '\\' ++ before)) n rest := by
  have hrun := takeWhile_slashes (c := '[') count (by decide) rest
  have hafter := drop_slashes count '[' rest
  cases count with
  | zero =>
    rw [List.replicate_zero, List.nil_append] at hrun hafter ⊢
    rw [pieces, if_pos (by simp)]
    simp only [hrun, hafter, ht, List.length_nil]
    rfl
  | succ count =>
    rw [head_slashes] at hrun hafter ⊢
    rw [pieces, if_pos (by simp)]
    simp only [hrun, hafter, ht, List.length_replicate]

theorem pieces_tag {inner inside following : List Char}
    (ht : tag? inner = some (inside, following)) :
    pieces before (n + 1) ('[' :: inner) =
      passed before ++ .tag inside :: pieces [] n following := by
  have hrun := takeWhile_slashes (c := '[') 0 (by decide) inner
  rw [List.replicate_zero, List.nil_append] at hrun
  rw [pieces, if_pos (by simp)]
  simp only [hrun, List.length_nil, List.drop_zero, ht]
  simp

end Slashes

theorem Tagged.tagsOf_pieces (h : Tagged text tags) (before : List Char) {n : Nat}
    (hn : text.length ≤ n) : tagsOf (pieces before n text) = tags := by
  induction h generalizing before n with
  | nil => cases n <;> simp [pieces]
  | char hs hb _ ih =>
    obtain ⟨n, rfl⟩ : ∃ m, n = m + 1 := ⟨n - 1, by simp at hn; omega⟩
    rw [pieces_char hs hb]
    exact ih _ (by simpa using hn)
  | slashes count hs hb _ ih =>
    obtain ⟨n, rfl⟩ : ∃ m, n = m + 1 := ⟨n - 1, by simp at hn; omega⟩
    rw [pieces_slashes count before n hs hb]
    exact ih _ (by simp at hn ⊢; omega)
  | bracket count ht _ ih =>
    obtain ⟨n, rfl⟩ : ∃ m, n = m + 1 := ⟨n - 1, by simp at hn; omega⟩
    rw [pieces_bracket count before n ht]
    exact ih _ (by simp at hn; omega)
  | tag ht _ ih =>
    obtain ⟨n, rfl⟩ : ∃ m, n = m + 1 := ⟨n - 1, by simp at hn; omega⟩
    rw [List.cons_append, pieces_tag before n ht, tagsOf_append, tagsOf_passed, List.nil_append,
      tagsOf, ih _ (by simp at hn; omega)]

theorem Tagged.eq_nil_of_notMem (h : Tagged text tags) (hb : '[' ∉ text) : tags = [] := by
  induction h with
  | nil => rfl
  | char _ _ _ ih => exact ih (by simp_all)
  | slashes _ _ _ _ ih => exact ih (by simp_all)
  | bracket => simp at hb
  | tag => simp at hb

/-- A text is printed exactly if its tags can be opened and closed in their order. -/
theorem Tagged.failure?_render (h : Tagged text tags) :
    failure? (render text) = failure? (tags.foldlM passTag []) := by
  rw [render]
  split
  · rw [failure?_print, h.tagsOf_pieces [] (Nat.le_refl _)]
  · rename_i hb
    rw [h.eq_nil_of_notMem (by simpa using hb)]
    rfl

def NoTag (text rest : List Char) : Prop :=
  ∀ before after, text = before ++ '[' :: after → tag? (after ++ rest) = none

theorem NoTag.of_append {before after : List Char} (h : NoTag (before ++ after) rest) :
    NoTag after rest := by
  rintro u v rfl
  exact h (before ++ u) v (List.append_assoc ..).symm

theorem NoTag.of_notMem (h : '[' ∉ text) : NoTag text rest := by
  rintro u v rfl
  simp at h

theorem NoTag.append {text' : List Char} (h : NoTag text (text' ++ rest)) (h' : NoTag text' rest) :
    NoTag (text ++ text') rest := by
  intro before after ht
  rcases List.append_eq_append_iff.mp ht with ⟨middle, -, ht'⟩ | ⟨middle, htext, ht'⟩
  · exact h' middle after ht'
  · cases middle with
    | nil => exact h' [] after ht'.symm
    | cons c middle =>
      rw [List.cons_append] at ht'
      obtain ⟨rfl, rfl⟩ := List.cons.inj ht'
      rw [List.append_assoc]
      exact h before middle htext

theorem exists_slashes (h : ('\\' :: text).getLast? ≠ some '\\') :
    ∃ count c after, c ≠ '\\' ∧ text = List.replicate count '\\' ++ c :: after := by
  induction text with
  | nil => simp at h
  | cons c text ih =>
    by_cases hc : c = '\\'
    · subst hc
      obtain ⟨count, d, after, hd, rfl⟩ := ih (by simpa using h)
      exact ⟨count + 1, d, after, hd, rfl⟩
    · exact ⟨0, c, text, hc, rfl⟩

theorem Tagged.append (hr : Tagged rest tags) (hn : NoTag text rest)
    (hl : text.getLast? ≠ some '\\') : Tagged (text ++ rest) tags := by
  -- A run of backslashes is passed over at once, so the induction is on the length.
  generalize hlen : text.length = n
  induction n using Nat.strongRecOn generalizing text with
  | ind n ih =>
  have next (before : List Char) {after : List Char} (ht : text = before ++ after)
      (hb : before ≠ []) : Tagged (after ++ rest) tags := by
    subst ht
    have hpos := List.length_pos_iff.mpr hb
    refine ih after.length ?_ hn.of_append ?_ rfl
    · rw [← hlen, List.length_append]
      omega
    · intro ha
      exact hl (by simp [List.getLast?_append, ha])
  cases text with
  | nil => exact hr
  | cons c text =>
    by_cases hb : c = '['
    · subst hb
      exact .bracket 0 (hn [] text rfl) (next ['['] rfl (by simp))
    by_cases hs : c = '\\'
    · subst hs
      obtain ⟨count, d, after, hd, rfl⟩ := exists_slashes hl
      have htext : '\\' :: (List.replicate count '\\' ++ d :: after) ++ rest =
          List.replicate (count + 1) '\\' ++ d :: (after ++ rest) := by
        simp [List.replicate_succ]
      rw [htext]
      by_cases hb : d = '['
      · subst hb
        refine .bracket (count + 1) (hn (List.replicate (count + 1) '\\') after rfl) ?_
        exact next (List.replicate (count + 1) '\\' ++ ['[']) (by simp [List.replicate_succ])
          (by simp)
      · exact .slashes count hd hb (next (List.replicate (count + 1) '\\') rfl (by simp))
    · exact .char hs hb (next [c] rfl (by simp))

end Tagged

section Names

variable {name : List Char}

def isName (name : List Char) : Bool :=
  words name = [name] && Text.trim name = name && Text.lowerAll name = name &&
    name ≠ "none".toList && name ≠ "on".toList && name ≠ "not".toList && name ≠ "link".toList &&
    attribute? name = none && argument? "color(" name = none && argument? "rgb(" name = none

theorem exists_isColor (hc : argument? "color(" name = none) (hr : argument? "rgb(" name = none) :
    ∃ b, isColor name = .ok b := by
  by_cases hn : colorNames.contains name = true
  · exact ⟨true, if_pos hn⟩
  · have he : isColor name = _ := if_neg hn
    rw [he]
    split
    · exact ⟨_, rfl⟩
    · rw [hc, hr]
      exact ⟨false, rfl⟩

theorem styleName_of_isName (h : isName name = true) : styleName name = .ok name := by
  simp only [isName, Bool.and_eq_true, decide_eq_true_eq] at h
  obtain ⟨⟨⟨⟨⟨⟨⟨⟨⟨hwords, htrim⟩, hlower⟩, hnone⟩, hon⟩, hnot⟩, hlink⟩, ha⟩, hc⟩, hr⟩ := h
  obtain ⟨b, hb⟩ := exists_isColor hc hr
  rw [styleName, htrim, if_neg hnone, hwords, Style.ofWords, hlower, if_neg hon, if_neg hnot,
    if_neg hlink, ha, hb]
  cases b with
  | true =>
    have hset : (attributes.filterMap fun _ => (none : Option (List Char))) = [] := by
      simp
    have ht : Style.toText ⟨[], some name, none, none⟩ = name := by simp [Style.toText, hset]
    exact congrArg Except.ok ht
  | false => rfl

end Names

section Brackets

variable {text inside rest : List Char}

theorem tagEnd?_append (ho : '[' ∉ inside) (hc : ']' ∉ inside) :
    tagEnd? (inside ++ ']' :: rest) = some (inside, rest) := by
  induction inside with
  | nil => rfl
  | cons c inside ih =>
    simp only [List.mem_cons, not_or] at ho hc
    rw [List.cons_append, tagEnd?, if_neg (Ne.symm hc.1), if_neg (Ne.symm ho.1), ih ho.2 hc.2]
    rfl

theorem tagEnd?_eq_none (hc : ']' ∉ text) : tagEnd? (text ++ '[' :: rest) = none := by
  induction text with
  | nil => rfl
  | cons c text ih =>
    simp only [List.mem_cons, not_or] at hc
    rw [List.cons_append, tagEnd?, if_neg (Ne.symm hc.1), ih hc.2]
    split <;> rfl

theorem tag?_append {c : Char} (hb : beginsTag c = true) (ho : '[' ∉ inside) (hc : ']' ∉ inside) :
    tag? (c :: inside ++ ']' :: rest) = some (c :: inside, rest) := by
  rw [List.cons_append, tag?, if_pos hb, tagEnd?_append ho hc]
  rfl

def closingTag (style : List Char) : List Char := '[' :: ('/' :: style) ++ [']']

/-- A text between a tag and the closing tag of the same style, behind some plain text. -/
def enclosed (lead style body : List Char) : List Char :=
  lead ++ ('[' :: style ++ ']' :: (body ++ closingTag style))

/-- The name of a style as it may stand in a tag: its own normal form, and no action. -/
structure IsStyle (style : List Char) : Prop where
  begins : (style.head?.any fun c => beginsTag c && c ≠ '/' && c ≠ '@') = true
  opening : '[' ∉ style
  closing : ']' ∉ style
  equals : '=' ∉ style
  trimmed : Text.trim style = style
  named : styleName style = .ok style

variable {style : List Char} (hs : IsStyle style)
include hs

theorem tagged_closingTag : Tagged (closingTag style) ['/' :: style] :=
  .tag (tag?_append rfl hs.opening hs.closing) .nil

theorem IsStyle.exists_cons :
    ∃ c rest, style = c :: rest ∧ beginsTag c = true ∧ c ≠ '/' ∧ c ≠ '@' := by
  have hbegin := hs.begins
  cases style with
  | nil => cases hbegin
  | cons c rest =>
    simp only [List.head?_cons, Option.any_some, Bool.and_eq_true, decide_eq_true_eq] at hbegin
    exact ⟨c, rest, rfl, hbegin.1.1, hbegin.1.2, hbegin.2⟩

theorem tagged_enclosed {lead body : List Char} {tags : List (List Char)} (hl : '[' ∉ lead)
    (hl' : lead.getLast? ≠ some '\\') (hb : Tagged (body ++ closingTag style) tags) :
    Tagged (enclosed lead style body) (style :: tags) := by
  have hopen (rest : List Char) : tag? (style ++ ']' :: rest) = some (style, rest) := by
    obtain ⟨c, name, rfl, hc, -, -⟩ := hs.exists_cons
    have ho := hs.opening
    have hc' := hs.closing
    simp only [List.mem_cons, not_or] at ho hc'
    exact tag?_append hc ho.2 hc'.2
  exact Tagged.append (.tag (hopen _) hb) (.of_notMem hl) hl'

end Brackets

section Pairs

variable {openTags : List OpenTag} {tag : OpenTag} {style : List Char}

theorem foldlM_passTag {openTags' : List OpenTag} {inside : List Char} {tags : List (List Char)}
    (h : passTag openTags inside = .ok openTags') :
    (inside :: tags).foldlM passTag openTags = tags.foldlM passTag openTags' := by
  rw [List.foldlM_cons, h]
  rfl

theorem failure?_last (openTags : List OpenTag) (inside : List Char) :
    failure? ([inside].foldlM passTag openTags) = failure? (passTag openTags inside) := by
  rw [List.foldlM_cons]
  cases passTag openTags inside <;> rfl

theorem takeWhile_equals {inside : List Char} (h : '=' ∉ inside) :
    inside.takeWhile (· ≠ '=') = inside := by
  induction inside with
  | nil => rfl
  | cons c inside ih =>
    simp only [List.mem_cons, not_or] at h
    rw [List.takeWhile_cons_of_pos (by simpa using Ne.symm h.1), ih h.2]

theorem close?_eq_none {name : List Char} (h : ∀ tag ∈ openTags, tag.name ≠ name) :
    close? name openTags = none := by
  induction openTags with
  | nil => rfl
  | cons tag rest ih =>
    rw [close?, if_neg (h tag (by simp)), ih fun tag ht => h tag (by simp [ht])]
    rfl

theorem exists_close? {name : List Char} (h : ∃ tag ∈ openTags, tag.name = name) :
    ∃ tag rest, close? name openTags = some (tag, rest) ∧ tag.name = name := by
  induction openTags with
  | nil => simp at h
  | cons first rest ih =>
    rw [close?]
    split
    · rename_i hf
      exact ⟨first, rest, rfl, hf⟩
    · rename_i hf
      obtain ⟨tag, ht, hn⟩ := h
      rcases List.mem_cons.mp ht with rfl | ht
      · exact (hf hn).elim
      · obtain ⟨found, rest', hc, hn'⟩ := ih ⟨tag, ht, hn⟩
        exact ⟨found, first :: rest', by rw [hc]; rfl, hn'⟩

theorem passTag_open {c : Char} {name : List Char} (hc : c ≠ '/') (he : '=' ∉ c :: name)
    (hn : styleName (c :: name) = .ok (c :: name)) :
    passTag openTags (c :: name) = .ok (⟨c :: name, []⟩ :: openTags) := by
  rw [passTag]
  simp only [takeWhile_equals he, List.head?_cons, Option.some.injEq, if_neg hc, hn,
    List.drop_eq_nil_of_le (Nat.le_succ (c :: name).length)]
  rfl

theorem passTag_slash (h : tag.name.head? ≠ some '@') :
    passTag (tag :: openTags) ['/'] = .ok openTags := by
  change closeTag ['/'] [] (tag :: openTags) = _
  unfold closeTag
  simp only [show Text.trim [] = [] from rfl, pure_bind, h, decide_false, Bool.false_and,
    Bool.false_eq_true, if_false]
  rfl

section Style

variable (hs : IsStyle style)
include hs

theorem IsStyle.passTag_eq : passTag openTags style = .ok (⟨style, []⟩ :: openTags) := by
  obtain ⟨c, name, rfl, -, hc, -⟩ := hs.exists_cons
  exact passTag_open hc hs.equals hs.named

theorem IsStyle.passTag_closing :
    passTag openTags ('/' :: style) = closeTag ('/' :: style) style openTags := by
  have he : '=' ∉ '/' :: style := by simp [hs.equals]
  rw [passTag, takeWhile_equals he]
  rfl

theorem IsStyle.passTag_unmatched (h : ∀ tag ∈ openTags, tag.name ≠ style) :
    passTag openTags ('/' :: style) = .error (.unmatched ('/' :: style)) := by
  obtain ⟨c, name, hname, -⟩ := hs.exists_cons
  rw [hs.passTag_closing]
  unfold closeTag
  subst hname
  simp only [hs.trimmed, hs.named, mapError_ok, bind, Except.bind, pure, Except.pure,
    close?_eq_none h]
  rfl

theorem IsStyle.passTag_matched (h : ∃ tag ∈ openTags, tag.name = style) :
    failure? (passTag openTags ('/' :: style)) = none := by
  obtain ⟨c, name, hname, -, -, hc⟩ := hs.exists_cons
  obtain ⟨tag, rest, hclose, ht⟩ := exists_close? h
  have haction : tag.name.head? ≠ some '@' := by simpa [ht, hname] using hc
  rw [hs.passTag_closing]
  unfold closeTag
  subst hname
  simp only [hs.trimmed, hs.named, mapError_ok, bind, Except.bind, pure, Except.pure, hclose,
    haction, decide_false, Bool.false_and, Bool.false_eq_true, if_false]
  rfl

theorem IsStyle.failure?_pair : failure? ([style, '/' :: style].foldlM passTag []) = none := by
  rw [foldlM_passTag hs.passTag_eq, failure?_last]
  exact hs.passTag_matched ⟨_, List.mem_cons_self, rfl⟩

/-- Another tag that is not closed does no harm. -/
theorem IsStyle.failure?_between {c : Char} {name : List Char} (hc : c ≠ '/')
    (he : '=' ∉ c :: name) (hn : styleName (c :: name) = .ok (c :: name)) :
    failure? ([style, c :: name, '/' :: style].foldlM passTag []) = none := by
  rw [foldlM_passTag hs.passTag_eq, foldlM_passTag (passTag_open hc he hn), failure?_last]
  exact hs.passTag_matched ⟨_, List.mem_cons_of_mem _ List.mem_cons_self, rfl⟩

/-- A slash ends the style, so that its end matches nothing. -/
theorem IsStyle.failure?_slash :
    failure? ([style, ['/'], '/' :: style].foldlM passTag []) =
      some (.unmatched ('/' :: style)) := by
  obtain ⟨c, name, hname, -, -, hc⟩ := hs.exists_cons
  have haction : style.head? ≠ some '@' := by simpa [hname] using hc
  rw [foldlM_passTag hs.passTag_eq, foldlM_passTag (passTag_slash haction), failure?_last,
    hs.passTag_unmatched (by simp)]
  rfl

end Style

end Pairs

end Triplet.Console
