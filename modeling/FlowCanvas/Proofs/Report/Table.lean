import FlowCanvas.Proofs.Text.Separator
import FlowCanvas.Report.Table
import Mathlib.Data.List.Forall2
import Mathlib.Data.List.Induction

/-!
# Columns of a table

The columns of a table line up: each of them starts at one place, which is the same in the line of
headers, in the rule and in every row that goes as far. A column is as wide as its widest cell
(`Table.getElem?_widths`), so no cell is cut and none runs into the next column.

How a line has to look is told place by place (`Table.Shows`), apart from the joins by which lines
are made. The place of a column depends on the columns before it only, so a line that gets one
column more at its end keeps what it shows (`Table.Shows.concat`), and by induction on its columns a
line shows all of its cells (`Table.shows_line`). The main statement is `Table.columns_line_up`.
-/

namespace FlowCanvas

open Text

universe u

/-! ### Places in a text -/

theorem getElem?_append_eq_some_iff {α : Type u} {l r : List α} {i : Nat} {a : α} :
    (l ++ r)[i]? = some a ↔ l[i]? = some a ∨ l.length ≤ i ∧ r[i - l.length]? = some a := by
  rw [List.getElem?_append]
  split
  case isTrue inside => simp [Nat.not_le_of_lt inside]
  case isFalse behind => simp [Nat.le_of_not_lt behind]

theorem getElem?_concat_eq_some_iff {α : Type u} {l : List α} {i : Nat} {a b : α} :
    (l ++ [b])[i]? = some a ↔ l[i]? = some a ∨ i = l.length ∧ a = b := by
  have last : l.length ≤ i ∧ i - l.length = 0 ↔ i = l.length := by omega
  rw [getElem?_append_eq_some_iff, List.getElem?_singleton, Option.ite_none_right_eq_some,
    ← and_assoc, last, Option.some.injEq, eq_comm (a := b)]

/-- A stretch of blanks has nothing but blanks. -/
theorem eq_blank_of_getElem? {m i : Nat} {c : Char} (h : (List.replicate m ' ')[i]? = some c) :
    c = ' ' :=
  List.eq_of_mem_replicate (List.mem_of_getElem? h)

namespace Table

/-! ### Places of columns -/

/-- The cells of a column, from its header down. -/
def column (t : Table) (j : Nat) : List String := (t.headers :: t.rows).filterMap (·[j]?)

/-- The width of the widest cell of a column. -/
def breadth (t : Table) (j : Nat) : Nat := ((t.column j).map String.length).max?.getD 0

/-- Where a column starts, among columns of given widths behind an indent. -/
def offset (width : Nat → Nat) (indent : Nat) : Nat → Nat
  | 0 => indent
  | j + 1 => offset width indent j + width j + gap.length

/-- Where a line with a number of columns ends. -/
def extent (width : Nat → Nat) (indent : Nat) : Nat → Nat
  | 0 => indent
  | k + 1 => offset width indent k + width k

/-- A line shows texts in columns of given widths: each text stands whole in its own column, the
line ends where its last column does, and all else is blank. -/
structure Shows (width : Nat → Nat) (indent : Nat) (texts : List (List Char)) (chars : List Char) :
    Prop where
  /-- a text is not wider than its column -/
  fits : ∀ {j text}, texts[j]? = some text → text.length ≤ width j
  /-- a text stands where its column starts -/
  stands : ∀ {j text}, texts[j]? = some text → text <+: chars.drop (offset width indent j)
  /-- the line ends with its last column -/
  ends : chars.length = extent width indent texts.length
  /-- what is not blank belongs to a text -/
  blank : ∀ {i c}, chars[i]? = some c → c ≠ ' ' →
    ∃ j text, texts[j]? = some text ∧
      offset width indent j ≤ i ∧ i < offset width indent j + text.length

/-- The cells of a row that are shown: those that have a header. -/
def shown (t : Table) (row : List String) : List (List Char) :=
  (row.take t.headers.length).map String.toList

/-- The bars of the rule, each as wide as its column. -/
def bars (t : Table) : List (List Char) :=
  (List.range t.headers.length).map fun j => List.replicate (t.breadth j) '─'

/-- A table without the cells that have no header. -/
def cropped (t : Table) : Table := { t with rows := t.rows.map (List.take t.headers.length) }

/-! ### A line, column by column -/

/-- Texts filled up with blanks to the widths of their columns. -/
def padded (width : Nat → Nat) (texts : List (List Char)) : List (List Char) :=
  texts.mapIdx fun j text => padRight (width j) ' ' text

variable {width : Nat → Nat} {indent : Nat} {texts : List (List Char)}

/-- A column more is joined to a line by blanks that reach from the end of the line to the place
where the column starts. -/
theorem exists_line_concat (width : Nat → Nat) (indent : Nat) (texts : List (List Char))
    (text : List Char) :
    ∃ m, extent width indent texts.length + m = offset width indent texts.length ∧
      line indent (padded width (texts ++ [text])) =
        line indent (padded width texts) ++ List.replicate m ' ' ++
          padRight (width texts.length) ' ' text := by
  cases texts with
  | nil => exact ⟨0, rfl, by simp [padded, line]⟩
  | cons first rest =>
    refine ⟨gap.length, rfl, ?_⟩
    have start : padded width (first :: rest) ≠ [] := by simp [padded]
    rw [padded, List.mapIdx_concat, line, ← padded, intercalate_concat _ _ start]
    simp [line, gap]

/-- The empty line behind an indent. -/
theorem Shows.nil (width : Nat → Nat) (indent : Nat) :
    Shows width indent [] (List.replicate indent ' ') where
  fits h := nomatch h
  stands h := nomatch h
  ends := List.length_replicate
  blank h hc := absurd (eq_blank_of_getElem? h) hc

/-- **One column more.** A line that is continued with blanks up to the next column, and with a text
that fits there, shows this text as well. -/
theorem Shows.concat {line text : List Char} {m : Nat} (h : Shows width indent texts line)
    (fits : text.length ≤ width texts.length)
    (place : line.length + m = offset width indent texts.length) :
    Shows width indent (texts ++ [text])
      (line ++ List.replicate m ' ' ++ padRight (width texts.length) ' ' text) := by
  have start : (line ++ List.replicate m ' ').length = offset width indent texts.length := by
    rw [List.length_append, List.length_replicate, place]
  refine { fits := ?fits, stands := ?stands, ends := ?ends, blank := ?blank }
  case fits =>
    intro j s hs
    obtain hs | ⟨rfl, rfl⟩ := getElem?_concat_eq_some_iff.mp hs
    · exact h.fits hs
    · exact fits
  case stands =>
    intro j s hs
    obtain hs | ⟨rfl, rfl⟩ := getElem?_concat_eq_some_iff.mp hs
    · rw [List.append_assoc, List.drop_append]
      exact (h.stands hs).trans (List.prefix_append ..)
    · rw [← start, List.drop_left]
      exact List.prefix_append ..
  case ends =>
    rw [List.length_append, start, length_padRight, Nat.max_eq_left fits, List.length_append]
    rfl
  case blank =>
    -- four stretches, two of them blank: the line so far, the gap, the text and its padding
    intro i c hi hc
    obtain hi | ⟨low, hi⟩ := getElem?_append_eq_some_iff.mp hi
    · obtain hi | ⟨-, hi⟩ := getElem?_append_eq_some_iff.mp hi
      · obtain ⟨j, s, hs, place⟩ := h.blank hi hc
        exact ⟨j, s, getElem?_concat_eq_some_iff.mpr (.inl hs), place⟩
      · exact absurd (eq_blank_of_getElem? hi) hc
    · rw [start] at low hi
      obtain hi | ⟨-, hi⟩ := getElem?_append_eq_some_iff.mp hi
      · obtain ⟨high, -⟩ := List.getElem?_eq_some_iff.mp hi
        exact ⟨texts.length, text, List.getElem?_concat_length, low, by omega⟩
      · exact absurd (eq_blank_of_getElem? hi) hc

/-- **A whole line.** Texts that fit into their columns are all shown. -/
theorem shows_line (width : Nat → Nat) (indent : Nat) (texts : List (List Char))
    (fits : ∀ {j text}, texts[j]? = some text → text.length ≤ width j) :
    Shows width indent texts (line indent (padded width texts)) := by
  -- from the right, as a column more leaves the places of the others as they are
  induction texts using List.reverseRecOn with
  | nil => simpa [line, padded] using Shows.nil width indent
  | append_singleton texts text ih =>
    have before : Shows width indent texts (line indent (padded width texts)) :=
      ih fun hs => fits (getElem?_concat_eq_some_iff.mpr (.inl hs))
    obtain ⟨m, place, joined⟩ := exists_line_concat width indent texts text
    rw [joined]
    exact before.concat (fits List.getElem?_concat_length) (before.ends ▸ place)

/-! ### The widths of the columns -/

/-- A row widens a column to its own cell there, if it has one. -/
theorem getElem?_widen (ws : List Nat) (row : List String) (j : Nat) :
    (widen ws row)[j]? = ws[j]?.map fun w => (row[j]?.toList.map String.length).foldl max w := by
  induction ws generalizing row j with
  | nil => rfl
  | cons w ws ih =>
    cases row with
    | nil => simp [widen]
    | cons cell row =>
      cases j with
      | zero => rfl
      | succ j => exact ih row j

/-- Rows widen a column to the widest of their cells. -/
theorem getElem?_foldl_widen (rows : List (List String)) (ws : List Nat) (j : Nat) :
    (rows.foldl widen ws)[j]? =
      ws[j]?.map fun w => ((rows.filterMap (·[j]?)).map String.length).foldl max w := by
  induction rows generalizing ws with
  | nil => simp
  | cons row rows ih =>
    rw [List.foldl_cons, ih, getElem?_widen, Option.map_map]
    congr 1
    funext w
    cases hj : row[j]? <;> simp [hj]

/-- **Widths.** A column with a header is as wide as its widest cell. -/
theorem getElem?_widths (t : Table) (j : Nat) :
    t.widths[j]? = t.headers[j]?.map fun _ => t.breadth j := by
  rw [widths, getElem?_foldl_widen, List.getElem?_map, Option.map_map]
  cases hj : t.headers[j]? with
  | none => rfl
  | some header =>
    simp only [breadth, column, List.filterMap_cons, hj, List.map_cons, List.max?_cons']
    rfl

/-- No cell is wider than its column. -/
theorem length_le_breadth {t : Table} {row : List String} (h : row ∈ t.headers :: t.rows) {j : Nat}
    {cell : String} (hj : row[j]? = some cell) : cell.length ≤ t.breadth j :=
  List.le_max?_getD_of_mem
    (List.mem_map_of_mem (List.mem_filterMap.mpr ⟨row, h, hj⟩))

/-! ### The lines of a table -/

/-- Where there is no cell, or no header above it, nothing is shown. -/
theorem getElem?_shown (t : Table) (row : List String) (j : Nat) :
    (t.shown row)[j]? = if j < t.headers.length then row[j]?.map String.toList else none := by
  rw [shown, List.getElem?_map, List.getElem?_take]
  split <;> rfl

theorem shown_headers (t : Table) : t.shown t.headers = t.headers.map String.toList := by
  rw [shown, List.take_length]

theorem cells_widths (t : Table) (row : List String) :
    cells t.widths row = padded t.breadth (t.shown row) := by
  refine List.ext_getElem? fun j => ?_
  rw [cells, List.getElem?_zipWith, getElem?_widths, padded, List.getElem?_mapIdx, getElem?_shown]
  by_cases headed : j < t.headers.length
  · rw [List.getElem?_eq_getElem headed, if_pos headed]
    cases row[j]? <;> rfl
  · rw [List.getElem?_eq_none (Nat.le_of_not_lt headed), if_neg headed]
    rfl

theorem getElem?_bars (t : Table) (j : Nat) :
    t.bars[j]? =
      if j < t.headers.length then some (List.replicate (t.breadth j) '─') else none := by
  rw [bars, List.getElem?_map]
  by_cases headed : j < t.headers.length
  · simp [headed]
  · simp [headed]

theorem rule_widths (t : Table) : rule t.widths = padded t.breadth t.bars := by
  refine List.ext_getElem? fun j => ?_
  rw [rule, List.getElem?_map, getElem?_widths, padded, List.getElem?_mapIdx, getElem?_bars]
  by_cases headed : j < t.headers.length
  · simp [headed, padRight]
  · simp [headed]

theorem lines_of_ne_nil {t : Table} (h : t.rows ≠ []) (indent : Nat) :
    t.lines indent =
      line indent (padded t.breadth (t.headers.map String.toList)) ::
        line indent (padded t.breadth t.bars) ::
          t.rows.map fun row => line indent (padded t.breadth (t.shown row)) := by
  rw [lines, if_neg h]
  simp [cells_widths, shown_headers, rule_widths]

theorem shows_row {t : Table} {row : List String} (h : row ∈ t.headers :: t.rows) (indent : Nat) :
    Shows t.breadth indent (t.shown row) (line indent (padded t.breadth (t.shown row))) := by
  refine shows_line _ _ _ fun {j text} hj => ?_
  rw [getElem?_shown, Option.ite_none_right_eq_some, Option.map_eq_some_iff] at hj
  obtain ⟨-, cell, hcell, rfl⟩ := hj
  exact length_le_breadth h hcell

theorem shows_bars (t : Table) (indent : Nat) :
    Shows t.breadth indent t.bars (line indent (padded t.breadth t.bars)) := by
  refine shows_line _ _ _ fun {j text} hj => ?_
  rw [getElem?_bars, Option.ite_none_right_eq_some, Option.some.injEq] at hj
  obtain ⟨-, rfl⟩ := hj
  exact Nat.le_of_eq List.length_replicate

/-- Lines that show the same number of texts are equally long. -/
theorem Shows.length_eq {texts' : List (List Char)} {line line' : List Char}
    (h : Shows width indent texts line) (h' : Shows width indent texts' line')
    (same : texts.length = texts'.length) : line.length = line'.length := by
  rw [h.ends, h'.ends, same]

theorem length_bars (t : Table) : t.bars.length = t.headers.length := by simp [bars]

/-- A row that has a cell for each header shows as many. -/
theorem length_shown {t : Table} {row : List String} (h : t.headers.length ≤ row.length) :
    (t.shown row).length = t.headers.length := by
  rw [shown, List.length_map, List.length_take, Nat.min_eq_left h]

/-! ### Cells without a header -/

@[simp] theorem cropped_headers (t : Table) : t.cropped.headers = t.headers := rfl

@[simp] theorem cropped_rows (t : Table) :
    t.cropped.rows = t.rows.map (List.take t.headers.length) := rfl

theorem breadth_cropped {t : Table} {j : Nat} (h : j < t.headers.length) :
    t.cropped.breadth j = t.breadth j := by
  have same : t.cropped.column j = t.column j := by
    simp [column, List.filterMap_map, h]
  rw [breadth, same, breadth]

theorem widths_cropped (t : Table) : t.cropped.widths = t.widths := by
  refine List.ext_getElem? fun j => ?_
  rw [getElem?_widths, getElem?_widths, cropped_headers]
  by_cases headed : j < t.headers.length
  · rw [breadth_cropped headed]
  · rw [List.getElem?_eq_none (Nat.le_of_not_lt headed)]
    rfl

/-- **Cells without a header are dropped.** They neither show nor widen a column. -/
theorem lines_cropped (t : Table) (indent : Nat) : t.cropped.lines indent = t.lines indent := by
  have dropped (row : List String) :
      cells t.widths (row.take t.headers.length) = cells t.widths row := by
    rw [cells_widths, cells_widths, shown, List.take_take, Nat.min_self, shown]
  simp [lines, widths_cropped, dropped, Function.comp_def]

/-! ### The main statement -/

/-- **Columns line up.** In the lines of a table with rows, each column starts at one place in all
the lines that have it, and no cell with a header is cut. The line of headers, the rule and the rows
that have a cell for each header are equally long. Cells without a header are dropped. -/
theorem columns_line_up (t : Table) (indent : Nat) (h : t.rows ≠ []) :
    ∃ header rule lines,
      t.lines indent = header :: rule :: lines ∧
        Shows t.breadth indent (t.headers.map String.toList) header ∧
        Shows t.breadth indent t.bars rule ∧
        rule.length = header.length ∧
        List.Forall₂ (fun row line => Shows t.breadth indent (t.shown row) line ∧
          (t.headers.length ≤ row.length → line.length = header.length)) t.rows lines ∧
        t.cropped.lines indent = t.lines indent := by
  have header : Shows t.breadth indent (t.headers.map String.toList) _ :=
    t.shown_headers ▸ shows_row (List.mem_cons_self ..) indent
  have rule := t.shows_bars indent
  refine ⟨_, _, _, lines_of_ne_nil h indent, header, rule, ?_, ?_, t.lines_cropped indent⟩
  · exact rule.length_eq header (by rw [length_bars, List.length_map])
  · refine List.forall₂_map_right_iff.mpr (List.forall₂_same.mpr fun row hrow => ?_)
    have body := shows_row (List.mem_cons_of_mem t.headers hrow) indent
    exact ⟨body, fun whole =>
      body.length_eq header (by rw [length_shown whole, List.length_map])⟩

/-- A table with an empty header, a row without cells, a short row, and one with a cell too many. -/
theorem columns_line_up_ragged :
    let t : Table := ⟨["Id", "", "Label"], [[], ["a", "é"], ["long-id", "", "T", "dropped"]]⟩
    t.rows ≠ [] ∧
      (List.range 3).map (offset t.breadth 2) = [2, 11, 14] ∧
      t.cropped.lines 2 = t.lines 2 ∧
      ∃ header rule bare short full,
        t.lines 2 = [header, rule, bare, short, full] ∧
          "Label".toList <+: header.drop 14 ∧ "─────".toList <+: rule.drop 14 ∧
          "T".toList <+: full.drop 14 ∧ "é".toList <+: short.drop 11 ∧
          bare.length = 2 ∧ short.length = 12 ∧
          rule.length = header.length ∧ full.length = header.length := by
  intro t
  have hrows : t.rows ≠ [] := by decide
  obtain ⟨header, rule, lines, hlines, top, bars, level, body, dropped⟩ :=
    columns_line_up t 2 hrows
  obtain _ | ⟨⟨first, -⟩, body⟩ := body
  obtain _ | ⟨⟨second, -⟩, body⟩ := body
  obtain _ | ⟨⟨third, whole⟩, body⟩ := body
  obtain _ | _ := body
  have places : (List.range 3).map (offset t.breadth 2) = [2, 11, 14] := by decide
  refine ⟨hrows, places, dropped, header, rule, _, _, _, hlines, ?_, ?_, ?_, ?_, ?_, ?_, level, ?_⟩
  · exact top.stands (j := 2) rfl
  · exact bars.stands (j := 2) rfl
  · exact third.stands (j := 2) rfl
  · exact second.stands (j := 1) rfl
  · exact first.ends.trans (by decide)
  · exact second.ends.trans (by decide)
  · exact whole (by decide)

end Table

end FlowCanvas
