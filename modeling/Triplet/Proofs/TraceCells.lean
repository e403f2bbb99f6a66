import Triplet.Proofs.DecimalTexts
import Triplet.Proofs.NumericTrace
import Triplet.Report.Trace

/-! # Cells of trace tables

A reader of trace tables, and what it finds in the column of the tops of the stacks. In a table of a
run of a genome nothing is quoted, so that lines end at newlines and cells at commas. The cell of an
empty stack is empty. The cell of any other stack is the top of the stack, but where the whole
column is written as doubles it is the top only up to the precision of doubles.
-/

namespace Triplet.Trace

open Literal

/-- The cells of a table that quotes nothing, line by line. -/
def cells (csv : List Char) : List (List (List Char)) :=
  (Text.split '\n' csv).dropLast.map (Text.split ',')

/-- The cell in the column with a given name and in a row below the header, counted from zero. -/
def cell? (csv : List Char) (name : String) (k : Nat) : Option (List Char) := do
  let header ← (cells csv)[0]?
  let row ← (cells csv)[k + 1]?
  row[header.idxOf name.toList]?

structure Clean (s : String) : Prop where
  comma : ',' ∉ s.toList
  newline : '\n' ∉ s.toList
  quote : '"' ∉ s.toList

section Clean

variable {s : String} {v : Value}

theorem clean_of_literal? {w : ℚ} (h : literal? s.toList = some w) : Clean s where
  comma hc := absurd (isMark_of_literal? h hc) (by simp [IsMark, Char.isDigit])
  newline hc := absurd (isMark_of_literal? h hc) (by simp [IsMark, Char.isDigit])
  quote hc := absurd (isMark_of_literal? h hc) (by simp [IsMark, Char.isDigit])

theorem clean_empty : Clean "" := ⟨by simp, by simp, by simp⟩

theorem clean_name (op : Opcode) : Clean op.name := by
  cases op <;> exact ⟨by decide, by decide, by decide⟩

theorem field_of_clean (h : Clean s) : field s = s := by
  refine if_neg ?_
  rw [String.any, String.contains_prop_eq, List.any_eq_true]
  rintro ⟨c, hc, hq⟩
  rcases of_decide_eq_true hq with rfl | rfl | rfl
  · exact h.comma hc
  · exact h.quote hc
  · exact h.newline hc

theorem clean_write (x : Float) : Clean (DoubleLayout.standard.write x) := by
  cases hx : Dyadic.ofFloat? x with
  | some d =>
    obtain ⟨w, hw⟩ := exists_literal?_write DoubleLayout.standard
      (by rw [← Dyadic.isSome_ofFloat?, hx, Option.isSome_some] : x.isFinite = true)
    exact clean_of_literal? hw
  | none =>
    simp only [DoubleLayout.write, hx]
    split
    · exact ⟨by decide, by decide, by decide⟩
    · split
      · exact ⟨by decide, by decide, by decide⟩
      · exact ⟨by decide, by decide, by decide⟩

theorem clean_cell_of_isNumber (style : Style) (h : v.IsNumber) : Clean (cell style v) := by
  obtain ⟨n, rfl⟩ := h
  cases n with
  | int n =>
    cases style with
    | plain => exact clean_of_literal? (literal?_toString n)
    | doubles => exact clean_write _
  | real x =>
    rw [cell]
    split
    · exact clean_empty
    · exact clean_write x

end Clean

section Reading

def rows (states : List Snapshot) : List (List Value) := states.zipIdx.map fun p => row p.2 p.1

def styles (states : List Snapshot) : List Style :=
  (List.range columns.length).map fun j => style ((rows states).map (·.getD j .missing))

def fields (states : List Snapshot) : List (List String) :=
  columns :: (rows states).map (List.zipWith cell (styles states))

theorem toList_table (states : List Snapshot) :
    (table states).toList = ((fields states).map line).flatMap String.toList := by
  have hbody : table states = line columns ++
    String.join ((rows states).map fun r => line (List.zipWith cell (styles states) r)) := rfl
  rw [hbody, fields, List.map_cons, List.map_map, List.flatMap_cons, String.toList_append,
    String.toList_join]
  rfl

theorem toList_line (fields : List String) :
    (line fields).toList = [','].intercalate (fields.map String.toList) ++ ['\n'] := by
  rw [line, String.toList_append, String.toList_intercalate]
  rfl

theorem mem_joined {c : Char} {fields : List String}
    (h : c ∈ [','].intercalate (fields.map String.toList)) :
    c = ',' ∨ ∃ s ∈ fields, c ∈ s.toList := by
  rcases Text.mem_intercalate h with h | ⟨piece, hp, hc⟩
  · exact .inl (List.mem_singleton.mp h)
  · obtain ⟨s, hs, rfl⟩ := List.mem_map.mp hp
    exact .inr ⟨s, hs, hc⟩

theorem cells_lines {lines : List (List String)} (hne : ∀ fields ∈ lines, fields ≠ [])
    (h : ∀ fields ∈ lines, ∀ s ∈ fields, Clean s) :
    cells ((lines.map line).flatMap String.toList) = lines.map (·.map String.toList) := by
  have htext : (lines.map line).flatMap String.toList =
      (lines.map fun fields => [','].intercalate (fields.map String.toList)).flatMap
        (· ++ ['\n']) := by
    rw [List.flatMap_map, List.flatMap_map]
    simp only [toList_line]
  have hnewline : ∀ piece ∈ lines.map fun fields => [','].intercalate (fields.map String.toList),
      '\n' ∉ piece := by
    intro piece hp hc
    obtain ⟨fields, hf, rfl⟩ := List.mem_map.mp hp
    rcases mem_joined hc with hc | ⟨s, hs, hc⟩
    · cases hc
    · exact (h fields hf s hs).newline hc
  rw [cells, htext, Text.split_flatMap hnewline, List.dropLast_concat, List.map_map]
  refine List.map_congr_left fun fields hf => Text.split_intercalate ?_ fun piece hp => ?_
  · rw [ne_eq, List.map_eq_nil_iff]
    exact hne fields hf
  · obtain ⟨s, hs, rfl⟩ := List.mem_map.mp hp
    exact (h fields hf s hs).comma

end Reading

/-! ## Tables of whole numbers -/

section Table

variable {states : List Snapshot} {s : Snapshot} {k : Nat}

theorem clean_of_mem_row (h : s.Numeric Value.IsWhole) {i : Nat} {v : Value} (hv : v ∈ row i s)
    (style : Style) : Clean (cell style v) := by
  have hint (n : Int) : Clean (cell style (.int n)) := clean_cell_of_isNumber style ⟨_, rfl⟩
  have hpen {w : Value} (hw : w.IsFinite) : Clean (cell style w) :=
    clean_cell_of_isNumber style hw.isNumber
  simp only [row, List.mem_cons, List.not_mem_nil, or_false] at hv
  rcases hv with rfl | rfl | rfl | rfl | rfl | rfl | rfl | rfl | rfl | rfl | rfl | rfl | rfl
  · exact hint _
  · exact hint _
  · cases s.last? with
    | none => exact clean_empty
    | some op =>
      have hname : Clean (field op.name) := by
        rw [field_of_clean (clean_name op)]
        exact clean_name op
      exact hname
  · exact hpen h.pen.x
  · exact hpen h.pen.y
  · exact hpen h.pen.rotation
  · exact hpen h.pen.scale
  · exact hpen h.pen.h
  · exact hpen h.pen.s
  · exact hpen h.pen.l
  · exact hint _
  · cases hs : s.stack with
    | nil => exact clean_empty
    | cons v rest =>
      obtain ⟨n, rfl, -⟩ := h.stack v (by simp [hs])
      exact hint n
  · exact hint _

theorem clean_of_mem_columns {name : String} (h : name ∈ columns) : Clean name := by
  simp only [columns, List.mem_cons, List.not_mem_nil, or_false] at h
  rcases h with rfl | rfl | rfl | rfl | rfl | rfl | rfl | rfl | rfl | rfl | rfl | rfl | rfl <;>
    exact ⟨by decide, by decide, by decide⟩

theorem clean_of_mem_fields (h : ∀ s ∈ states, s.Numeric Value.IsWhole) {line : List String}
    (hl : line ∈ fields states) {text : String} (ht : text ∈ line) : Clean text := by
  rcases List.mem_cons.mp hl with rfl | hl
  · exact clean_of_mem_columns ht
  · obtain ⟨r, hr, rfl⟩ := List.mem_map.mp hl
    obtain ⟨p, hp, rfl⟩ := List.mem_map.mp hr
    rw [← List.map_uncurry_zip_eq_zipWith] at ht
    obtain ⟨⟨style, v⟩, hv, rfl⟩ := List.mem_map.mp ht
    exact clean_of_mem_row (h _ (List.fst_mem_of_mem_zipIdx hp)) (List.of_mem_zip hv).2 style

theorem ne_nil_of_mem_fields {line : List String} (h : line ∈ fields states) : line ≠ [] := by
  rcases List.mem_cons.mp h with rfl | h
  · exact List.cons_ne_nil _ _
  · obtain ⟨r, hr, rfl⟩ := List.mem_map.mp h
    obtain ⟨p, -, rfl⟩ := List.mem_map.mp hr
    exact List.cons_ne_nil _ _

theorem cells_table (h : ∀ s ∈ states, s.Numeric Value.IsWhole) :
    cells (table states).toList = (fields states).map (·.map String.toList) := by
  rw [toList_table]
  exact cells_lines (fun _ hl => ne_nil_of_mem_fields hl)
    fun _ hl _ ht => clean_of_mem_fields h hl ht

theorem quote_notMem_table (h : ∀ s ∈ states, s.Numeric Value.IsWhole) :
    '"' ∉ (table states).toList := by
  rw [toList_table, List.mem_flatMap]
  rintro ⟨text, ht, hc⟩
  obtain ⟨fields, hf, rfl⟩ := List.mem_map.mp ht
  rw [toList_line, List.mem_append] at hc
  rcases hc with hc | hc
  · rcases mem_joined hc with hc | ⟨s, hs, hc⟩
    · cases hc
    · exact (clean_of_mem_fields h hf hs).quote hc
  · simp at hc

def top (s : Snapshot) : Value := s.stack.head?.getD .missing

theorem cell?_stack_top (h : ∀ s ∈ states, s.Numeric Value.IsWhole) (hk : states[k]? = some s) :
    cell? (table states).toList "stack_top" k =
      some (cell (style (states.map top)) (top s)).toList := by
  -- The column is the twelfth in the header and in every row.
  have hindex : (columns.map String.toList).idxOf "stack_top".toList = 11 := by decide
  have hcolumn : (rows states).map (·.getD 11 .missing) = states.map top := by
    rw [rows, List.map_map]
    conv_rhs => rw [← List.zipIdx_map_fst 0 states, List.map_map]
    rfl
  have hstyle : (styles states)[11]? = some (style (states.map top)) := by
    rw [← hcolumn]
    rfl
  have hrow : (rows states)[k]? = some (row k s) := by
    simp [rows, hk]
  have hfield : (List.zipWith cell (styles states) (row k s))[11]? =
      some (cell (style (states.map top)) (top s)) :=
    List.getElem?_zipWith_eq_some.mpr ⟨_, _, hstyle, rfl, rfl⟩
  simp only [cell?, cells_table h, fields, List.map_cons, List.map_map, List.getElem?_cons_zero,
    List.getElem?_cons_succ, List.getElem?_map, hrow, Option.map_some, Option.bind_eq_bind,
    Option.bind_some, Function.comp_apply, hindex, hfield]

end Table

/-! ## The style of a column of integers -/

section Style

variable {states : List Snapshot}

def HasTop (p : Int → Prop) (states : List Snapshot) : Prop :=
  ∃ s ∈ states, ∃ n, s.stack.head? = some (.int n) ∧ p n

/-- The tops of the stacks are written one by one: no stack is empty, or some top is no word of 64
bits, or there are tops that are words only with a sign and tops that are words only without one,
whether or not a stack is empty as well. -/
def KeepsDigits (states : List Snapshot) : Prop :=
  (∀ s ∈ states, s.stack ≠ []) ∨
    HasTop (fun n => n < -0x8000000000000000 ∨ 0x10000000000000000 ≤ n) states ∨
    HasTop (fun n => n < 0) states ∧ HasTop (fun n => 0x8000000000000000 ≤ n) states

theorem any_top_iff (h : ∀ s ∈ states, s.Numeric Value.IsWhole) {q : Value → Bool}
    (hq : q .missing = false) :
    (states.map top).any q = true ↔ HasTop (fun n => q (.int n) = true) states := by
  rw [List.any_map, List.any_eq_true]
  refine exists_congr fun s => and_congr_right fun hs => ?_
  cases hstack : s.stack with
  | nil => simp [top, hstack, hq]
  | cons v rest =>
    obtain ⟨n, rfl, -⟩ := (h s hs).stack v (by simp [hstack])
    simp [top, hstack]

theorem any_needsDoubles_iff (h : ∀ s ∈ states, s.Numeric Value.IsWhole) :
    (states.map top).any needsDoubles = false ↔ ∀ s ∈ states, s.stack ≠ [] := by
  rw [List.any_map, List.any_eq_false]
  refine forall₂_congr fun s hs => ?_
  cases hstack : s.stack with
  | nil => simp [top, hstack, needsDoubles]
  | cons v rest =>
    obtain ⟨n, rfl, -⟩ := (h s hs).stack v (by simp [hstack])
    simp [top, hstack, needsDoubles]

theorem style_eq_plain_iff (h : ∀ s ∈ states, s.Numeric Value.IsWhole) :
    style (states.map top) = .plain ↔ KeepsDigits states := by
  have hword (n : Int) : needsPlain (.int n) = true ↔
      n < -0x8000000000000000 ∨ 0x10000000000000000 ≤ n := by
    simp [needsPlain, isWord]
  have hnegative (n : Int) : isNegative (.int n) = true ↔ n < 0 := decide_eq_true_iff
  have hunsigned (n : Int) : isUnsigned (.int n) = true ↔ 0x8000000000000000 ≤ n :=
    decide_eq_true_iff
  have hplain := any_top_iff h (q := needsPlain) rfl
  have hneg := any_top_iff h (q := isNegative) rfl
  have huns := any_top_iff h (q := isUnsigned) rfl
  simp only [hword, hnegative, hunsigned] at hplain hneg huns
  rw [style, KeepsDigits, ← hplain, ← hneg, ← huns, ← any_needsDoubles_iff h, ← Bool.and_eq_true,
    ← Bool.or_eq_true]
  split
  · rename_i hp
    exact iff_of_true rfl (.inr hp)
  · rename_i hp
    split
    · rename_i hd
      exact iff_of_false (by decide) (not_or.mpr ⟨by simp [hd], hp⟩)
    · rename_i hd
      exact iff_of_true rfl (.inl (Bool.eq_false_of_not_eq_true hd))

example : style [.missing, .int (-5), .int 0xffffffffffffffff] = .plain := by decide

example : style [.missing, .int 5, .int 0xffffffffffffffff] = .doubles := by decide

theorem style_eq_doubles (h : ∀ s ∈ states, s.Numeric Value.IsWhole) (hk : ¬KeepsDigits states) :
    style (states.map top) = .doubles := by
  cases hs : style (states.map top) with
  | plain => exact absurd ((style_eq_plain_iff h).mp hs) hk
  | doubles => rfl

end Style

/-! ## The tops of the stacks -/

section Tops

variable {states : List Snapshot} {s : Snapshot} {n : Int}

/-- Where the tops are written as doubles, they are words, and so their doubles are finite. -/
theorem log2_natAbs_lt (hk : ¬KeepsDigits states) (hs : s ∈ states)
    (hn : s.stack.head? = some (.int n)) : n.natAbs.log2 < 1023 := by
  have hword : -0x8000000000000000 ≤ n ∧ n < 0x10000000000000000 := by
    by_contra hw
    exact hk (.inr (.inl ⟨s, hs, n, hn, by omega⟩))
  have hlog : n.natAbs.log2 < 65 := Dyadic.log2_lt_of_lt (by decide) (by omega)
  omega

theorem literal?_cell_top (h : ∀ s ∈ states, s.Numeric Value.IsWhole) (hs : s ∈ states)
    (hn : s.stack.head? = some (.int n)) :
    ∃ w : ℚ, literal? (cell (style (states.map top)) (top s)).toList = some w ∧
      (KeepsDigits states ∨ n.natAbs < 2 ^ 53 → w = n) ∧
      (2 ^ 51 : Nat) * |w - n| ≤ |(n : ℚ)| := by
  have htop : top s = .int n := by
    rw [top, hn, Option.getD_some]
  rw [htop]
  by_cases hk : KeepsDigits states
  · rw [(style_eq_plain_iff h).mpr hk]
    exact ⟨n, literal?_toString n, fun _ => rfl, by simp⟩
  · rw [style_eq_doubles h hk]
    obtain ⟨w, hw, hexact, hnear⟩ :=
      literal?_nearestDouble DoubleLayout.standard (log2_natAbs_lt hk hs hn)
    exact ⟨w, hw, fun hor => hexact (hor.resolve_left hk), hnear⟩

theorem cell_top_eq_empty_iff (h : ∀ s ∈ states, s.Numeric Value.IsWhole) (hs : s ∈ states) :
    (cell (style (states.map top)) (top s)).toList = [] ↔ s.stack = [] := by
  cases hstack : s.stack with
  | nil => simp [top, hstack, cell]
  | cons v rest =>
    obtain ⟨n, rfl, -⟩ := (h s hs).stack v (by simp [hstack])
    obtain ⟨w, hw, -⟩ := literal?_cell_top h hs (n := n) (by simp [hstack])
    refine iff_of_false (fun hnil => ?_) (List.cons_ne_nil _ _)
    rw [hnil] at hw
    cases hw

end Tops

theorem numeric_of_mem_trace {text : List Char} {m : Machine Recorder} {s : Snapshot}
    (h : s ∈ (Machine.run (Genome.tokens text) m).1.trace.toList) : s.Numeric Value.IsWhole := by
  obtain ⟨n, c, hc, rfl⟩ := Machine.Flat.exists_executed_of_mem (Array.mem_toList_iff.mp h)
  exact (hc.sound (fun t ht v hv => (Genome.operand_integer ht hv).isWhole_sanitize)
    Machine.kind_isWhole).numeric

/-- The table of a run of a genome has one row for every snapshot, and its cell for the top of the
stack is empty just when the stack is. Otherwise the top is an integer, and the cell is a literal
for it, with a relative error of at most `2 ^ -51`. The literal is exact if the tops are written one
by one or if the integer has at most 53 bits; if they are not written one by one, it is the text of
the double nearest to the integer. -/
theorem run_stack_top_cells (text : List Char) (m : Machine Recorder) :
    let states := (Machine.run (Genome.tokens text) m).1.trace.toList
    let csv := (table states).toList
    (Machine.run (Genome.tokens text) m).2 = none ∧ '"' ∉ csv ∧
      (cells csv).length = states.length + 1 ∧
      ∀ k s, states[k]? = some s → ∃ shown, cell? csv "stack_top" k = some shown ∧
        (shown = [] ↔ s.stack = []) ∧
        ∀ v, s.stack.head? = some v → ∃ (n : Int) (w : ℚ), v = .int n ∧ literal? shown = some w ∧
          (KeepsDigits states ∨ n.natAbs < 2 ^ 53 → w = n) ∧
          (2 ^ 51 : Nat) * |w - n| ≤ |(n : ℚ)| ∧
          (¬KeepsDigits states →
            shown = (DoubleLayout.standard.write (nearestDouble n)).toList) := by
  intro states csv
  have h : ∀ s ∈ states, s.Numeric Value.IsWhole := fun s hs => numeric_of_mem_trace hs
  refine ⟨Machine.run_tokens_fault_none text m, quote_notMem_table h, ?_, ?_⟩
  · simp [csv, cells_table h, fields, rows]
  · intro k s hk
    have hs : s ∈ states := List.mem_of_getElem? hk
    refine ⟨_, cell?_stack_top h hk, cell_top_eq_empty_iff h hs, ?_⟩
    intro v hv
    obtain ⟨n, rfl, -⟩ := (h s hs).stack v (List.mem_of_mem_head? hv)
    obtain ⟨w, hw, hexact, hnear⟩ := literal?_cell_top h hs hv
    refine ⟨n, w, rfl, hw, hexact, hnear, fun hd => ?_⟩
    rw [style_eq_doubles h hd, top, hv]
    rfl

/-- Squares of squares of 63 have at most 53 bits, up to the eighth power. -/
theorem run_stack_top_cells_powers :
    let states := (Machine.run
      (Genome.tokens "ATG GAA TTT ATA CTT ATA CTT ATA CTT GAA TTT CTT TAA".toList)
      (Machine.initial Recorder.blank defaultBudget (.int 0))).1.trace.toList
    ∃ s shown, states[7]? = some s ∧ s.stack.head? = some (.int 248155780267521) ∧
      cell? (table states).toList "stack_top" 7 = some shown ∧
      literal? shown = some 248155780267521 := by
  intro states
  have htop : states[7]?.bind (·.stack.head?) = some (.int 248155780267521) := by decide +kernel
  obtain ⟨s, hs, hv⟩ := Option.bind_eq_some_iff.mp htop
  obtain ⟨-, -, -, hcells⟩ := run_stack_top_cells
    "ATG GAA TTT ATA CTT ATA CTT ATA CTT GAA TTT CTT TAA".toList
    (Machine.initial Recorder.blank defaultBudget (.int 0))
  obtain ⟨shown, hshown, -, htops⟩ := hcells 7 s hs
  obtain ⟨n, w, hn, hw, hexact, -⟩ := htops _ hv
  cases hn
  have hsmall : w = (248155780267521 : Int) := hexact (.inr (by decide))
  exact ⟨s, shown, hs, hv, hshown, by rw [hw, hsmall]; rfl⟩

/-- The ninth power of 63 is written as the double next to it, since the first stack is empty. -/
theorem stack_top_cell_loses_digits :
    let states := (Machine.run
      (Genome.tokens "ATG GAA TTT ATA CTT ATA CTT ATA CTT GAA TTT CTT TAA".toList)
      (Machine.initial Recorder.blank defaultBudget (.int 0))).1.trace.toList
    ∃ s shown, states[9]? = some s ∧ s.stack.head? = some (.int 15633814156853823) ∧
      cell? (table states).toList "stack_top" 9 = some shown ∧
      shown = "1.5633814156853824e+16".toList ∧ literal? shown = some 15633814156853824 := by
  intro states
  have hstates : states[9]?.bind (·.stack.head?) = some (.int 15633814156853823) ∧
      style (states.map top) = .doubles := by decide +kernel
  have hwrite : DoubleLayout.standard.write (nearestDouble 15633814156853823) =
      "1.5633814156853824e+16" := by decide +kernel
  obtain ⟨s, hs, hv⟩ := Option.bind_eq_some_iff.mp hstates.1
  refine ⟨s, _, hs, hv, cell?_stack_top (fun s hs => numeric_of_mem_trace hs) hs, ?_⟩
  rw [hstates.2, top, hv, Option.getD_some, cell, hwrite]
  exact ⟨rfl, by decide +kernel⟩

end Triplet.Trace
