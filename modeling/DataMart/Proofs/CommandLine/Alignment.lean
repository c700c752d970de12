import Mathlib.Data.List.MinMax
import DataMart.CommandLine.Run
import DataMart.Proofs.Text.Bytes
import DataMart.Proofs.Text.Joined

/-!
# The columns of a result table

The lines of a table are taken as rows of columns: the names, the rule below them, and the records
(`rows`). A column has one width in all of them, so the lines are of one length and the bars between
two columns stand below each other (`table_aligned`), whatever characters the names and the cells
have.

A cell counts by its characters and a name by its bytes, of which it has no fewer. So no name is ever
cut, but a name outside of ASCII may make its column wider than anything in it
(`column_width`).
-/

namespace DataMart.CommandLine

/-! ## Printed lines -/

/-- A printed text is read line by line as it was written. -/
theorem Outcome.splitOn_unlines {ls : List String} (h : ∀ l ∈ ls, '\n' ∉ l.toList) :
    (unlines ls).toList.splitOn '\n' = ls.map String.toList ++ [[]] := by
  induction ls with
  | nil => rfl
  | cons l ls ih =>
      obtain ⟨hl, hls⟩ := List.forall_mem_cons.1 h
      have htext : (unlines (l :: ls)).toList = l.toList ++ '\n' :: (unlines ls).toList := by
        simp [unlines, String.toList_join]
      rw [htext, List.splitOn_append_cons_self_of_not_mem hl, ih hls, List.map_cons,
        List.cons_append]

namespace ResultTable

variable {first : Record} {rest records : List Record} {ws : List Nat} {cs : List String}

/-! ## Widths -/

/-- The characters of a record's cell in a column; none where there is no cell. -/
def cellLength (r : Record) (i : Nat) : Nat := ((cells r)[i]?.map measure).getD 0

/-- The characters of the longest cell of a column. -/
def longestCell (records : List Record) (i : Nat) : Nat :=
  (records.map fun r => cellLength r i).foldr max 0

theorem le_longestCell {r : Record} (hr : r ∈ records) (i : Nat) :
    cellLength r i ≤ longestCell records i :=
  List.le_max_of_le' 0 (List.mem_map_of_mem hr) le_rfl

theorem getElem?_widen (ws : List Nat) (cs : List String) (i : Nat) :
    (widen ws cs)[i]? = ws[i]?.map (max · ((cs[i]?.map measure).getD 0)) := by
  induction ws, cs using widen.induct generalizing i with
  | case1 cs => rfl
  | case2 ws => cases ws <;> simp [widen]
  | case3 w ws c cs ih =>
      cases i with
      | zero => rfl
      | succ i => exact ih i

/-- Each record widens a column to its cell. -/
theorem getElem?_foldl_widen (records : List Record) (ws : List Nat) (i : Nat) :
    (records.foldl (fun ws r => widen ws (cells r)) ws)[i]? =
      ws[i]?.map (max · (longestCell records i)) := by
  induction records generalizing ws with
  | nil => simp [longestCell]
  | cons r records ih =>
      have hlongest : longestCell (r :: records) i =
          max (cellLength r i) (longestCell records i) := rfl
      rw [List.foldl_cons, ih, getElem?_widen, Option.map_map, hlongest]
      congr 1
      funext w
      exact Nat.max_assoc w (cellLength r i) (longestCell records i)

/-- **A column is as wide as its name in bytes and its longest cell in characters.** -/
theorem getElem?_widths (names : List String) (records : List Record) (i : Nat) :
    (widths names records)[i]? =
      names[i]?.map fun name => max name.utf8ByteSize (longestCell records i) := by
  rw [widths, getElem?_foldl_widen, List.getElem?_map, Option.map_map]
  rfl

theorem length_widths (names : List String) (records : List Record) :
    (widths names records).length = names.length := by
  have hwidths : widths names records =
      names.mapIdx fun i name => max name.utf8ByteSize (longestCell records i) := by
    refine List.ext_getElem? fun i => ?_
    rw [getElem?_widths, List.getElem?_mapIdx]
  rw [hwidths, List.length_mapIdx]

theorem length_widths_columns (first : Record) (records : List Record) :
    (widths first.columns records).length = first.size := by
  rw [length_widths, Record.columns, List.length_map, Record.size]

/-! ## Rows -/

/-- A line of a table: what stands in its columns, and the bar between two of them. -/
structure Row where
  bar : String
  shown : List String

namespace Row

variable {row : Row}

/-- The line itself. -/
def text (row : Row) : String := Text.joinWith row.bar row.shown

/-- Cells, each filled up to the width of its column. -/
def filled (ws : List Nat) (cs : List String) : Row where
  bar := " │ "
  shown := List.zipWith (fun c w => Text.padTo w c) cs ws

/-- The line between the names and the records. -/
def rule (ws : List Nat) : Row where
  bar := "─┼─"
  shown := ws.map fun w => Text.repeated w "─"

/-- A row keeps to columns of these widths. -/
structure Fits (row : Row) (ws : List Nat) : Prop where
  bar : measure row.bar = 3
  shown : row.shown.map measure = ws

/-- The length of a line with columns of these widths. -/
def lineLength (ws : List Nat) : Nat := ws.sum + (ws.length - 1) * 3

/-- What stands before the bar behind column `i`, with columns of these widths. -/
def barOffset (ws : List Nat) (i : Nat) : Nat := lineLength (ws.take (i + 1))

/-- The bar behind column `i` of a row stands behind `n` characters: those of the columns up to it. -/
structure BarAt (row : Row) (i n : Nat) : Prop where
  parted : row.text = Text.joinWith row.bar (row.shown.take (i + 1)) ++ row.bar ++
    Text.joinWith row.bar (row.shown.drop (i + 1))
  before : measure (Text.joinWith row.bar (row.shown.take (i + 1))) = n

theorem measure_joinWith (bar : String) (hbar : measure bar = 3) (shown : List String) :
    measure (Text.joinWith bar shown) = lineLength (shown.map measure) := by
  rw [measure, Text.length_joinWith, lineLength, List.length_map, ← measure, hbar]
  rfl

/-- Lines with columns of the same widths are of the same length. -/
theorem Fits.measure_text (h : row.Fits ws) : measure row.text = lineLength ws := by
  rw [text, measure_joinWith row.bar h.bar, h.shown]

/-- Lines with columns of the same widths have their bars at the same places. -/
theorem Fits.barAt (h : row.Fits ws) {i : Nat} (hi : i + 1 < ws.length) :
    row.BarAt i (barOffset ws i) := by
  have hlength : row.shown.length = ws.length := by rw [← h.shown, List.length_map]
  constructor
  · have htake : row.shown.take (i + 1) ≠ [] := by
      rw [← List.length_pos_iff, List.length_take]
      omega
    have hdrop : row.shown.drop (i + 1) ≠ [] := by
      rw [← List.length_pos_iff, List.length_drop]
      omega
    rw [text, ← Text.joinWith_append row.bar htake hdrop, List.take_append_drop]
  · rw [measure_joinWith row.bar h.bar, List.map_take, h.shown, barOffset]

theorem fits_rule (ws : List Nat) : (rule ws).Fits ws where
  bar := (by decide : measure "─┼─" = 3)
  shown := by
    rw [rule, List.map_map]
    refine (List.map_congr_left fun w _ => ?_).trans (List.map_id ws)
    exact (Text.length_repeated w "─").trans (Nat.mul_one w)

/-- Cells that are no longer than the columns are wide fit them. -/
theorem fits_filled (hlength : cs.length = ws.length)
    (hle : ∀ (i : Nat) c w, cs[i]? = some c → ws[i]? = some w → measure c ≤ w) :
    (filled ws cs).Fits ws where
  bar := (by decide : measure " │ " = 3)
  shown := by
    have hboth : ((filled ws cs).shown.map measure).length = ws.length := by
      simp [filled, hlength]
    refine List.ext_getElem hboth fun i _ hi => ?_
    have hcs : i < cs.length := hlength ▸ hi
    have hcell := hle i cs[i] ws[i] (List.getElem?_eq_getElem hcs) (List.getElem?_eq_getElem hi)
    rw [List.getElem_map]
    simp only [filled, List.getElem_zipWith]
    exact (Text.length_padTo ws[i] cs[i]).trans (Nat.max_eq_left hcell)

/-! ### Breaks -/

/-- No line break stands in a row. -/
structure Unbroken (row : Row) : Prop where
  bar : '\n' ∉ row.bar.toList
  shown : ∀ s ∈ row.shown, '\n' ∉ s.toList

theorem Unbroken.text (h : row.Unbroken) : '\n' ∉ row.text.toList := by
  intro hbreak
  rcases Text.mem_joinWith hbreak with hbar | ⟨s, hs, hbreak⟩
  · exact h.bar hbar
  · exact h.shown s hs hbreak

theorem unbroken_rule (ws : List Nat) : (rule ws).Unbroken where
  bar := (by decide : '\n' ∉ "─┼─".toList)
  shown s hs hbreak := by
    obtain ⟨w, -, rfl⟩ := List.mem_map.1 hs
    exact absurd (Text.mem_repeated hbreak) (by decide)

theorem unbroken_filled (hcs : ∀ c ∈ cs, '\n' ∉ c.toList) : (filled ws cs).Unbroken where
  bar := (by decide : '\n' ∉ " │ ".toList)
  shown s hs hbreak := by
    obtain ⟨i, hi, rfl⟩ := List.getElem_of_mem hs
    simp only [filled, List.getElem_zipWith] at hbreak
    rcases Text.mem_padTo hbreak with hcell | hblank
    · exact hcs _ (List.getElem_mem _) hcell
    · exact absurd hblank (by decide)

end Row

/-! ## Tables -/

/-- The rows of a table: the names, the rule below them, and the records. -/
def rows (first : Record) (rest : List Record) : List Row :=
  let ws := widths first.columns (first :: rest)
  .filled ws first.columns :: .rule ws :: (first :: rest).map fun r => .filled ws (cells r)

/-- The last lines of a table with `n` records. -/
def closing (n : Nat) : List String := ["", toString n ++ " row(s) returned"]

theorem lines_eq (first : Record) (rest : List Record) : lines (first :: rest) =
    (rows first rest).map Row.text ++ closing (rest.length + 1) := by
  simp only [rows, List.map_cons, List.map_map]
  rfl

theorem mem_rows {row : Row} : row ∈ rows first rest ↔
    row = .filled (widths first.columns (first :: rest)) first.columns ∨
    row = .rule (widths first.columns (first :: rest)) ∨
    ∃ r ∈ first :: rest, row = .filled (widths first.columns (first :: rest)) (cells r) := by
  simp only [rows, List.mem_cons, List.mem_map, @eq_comm Row _ row]

/-- The rows keep to the widths of the columns: a name has no more characters than bytes. -/
theorem fits_rows (hsize : ∀ r ∈ rest, r.size = first.size) {row : Row}
    (hrow : row ∈ rows first rest) : row.Fits (widths first.columns (first :: rest)) := by
  rcases mem_rows.1 hrow with rfl | rfl | ⟨r, hr, rfl⟩
  · refine Row.fits_filled (length_widths _ _).symm fun i name w hname hw => ?_
    rw [getElem?_widths, hname, Option.map_some, Option.some.injEq] at hw
    have hbytes := Text.length_le_utf8ByteSize name
    rw [← hw]
    exact Nat.le_trans hbytes (Nat.le_max_left _ _)
  · exact Row.fits_rule _
  · have hr' : r.size = first.size := by
      rcases List.mem_cons.1 hr with rfl | hr
      · rfl
      · exact hsize r hr
    have hcells : (cells r).length = r.size := by rw [cells, List.length_map, Record.size]
    refine Row.fits_filled (by rw [hcells, hr', length_widths_columns]) fun i c w hc hw => ?_
    rw [getElem?_widths, Option.map_eq_some_iff] at hw
    obtain ⟨name, -, rfl⟩ := hw
    have hlongest := le_longestCell hr i
    rw [cellLength, hc] at hlongest
    exact Nat.le_trans hlongest (Nat.le_max_right _ _)

theorem unbroken_rows (hnames : ∀ name ∈ first.columns, '\n' ∉ name.toList)
    (hcells : ∀ r ∈ first :: rest, ∀ c ∈ cells r, '\n' ∉ c.toList) {row : Row}
    (hrow : row ∈ rows first rest) : row.Unbroken := by
  rcases mem_rows.1 hrow with rfl | rfl | ⟨r, hr, rfl⟩
  · exact Row.unbroken_filled hnames
  · exact Row.unbroken_rule _
  · exact Row.unbroken_filled (hcells r hr)

theorem unbroken_closing (n : Nat) : ∀ l ∈ closing n, '\n' ∉ l.toList := by
  intro l hl hbreak
  simp only [closing, List.mem_cons, List.not_mem_nil, or_false] at hl
  rcases hl with rfl | rfl
  · cases hbreak
  · rw [String.toList_append, Nat.toString_eq_ofList_toDigits, String.toList_ofList,
      List.mem_append] at hbreak
    rcases hbreak with hdigit | hword
    · exact absurd (Nat.isDigit_of_mem_toDigits (by decide) (by decide) hdigit) (by decide)
    · exact absurd hword (by decide)

/-- A text is a printed table: its lines are rows, an empty line, and the number of the records. -/
def Prints (text : String) (table : List Row) (n : Nat) : Prop :=
  text.toList.splitOn '\n' = (table.map Row.text ++ closing n).map String.toList ++ [[]]

theorem prints_lines (hnames : ∀ name ∈ first.columns, '\n' ∉ name.toList)
    (hcells : ∀ r ∈ first :: rest, ∀ c ∈ cells r, '\n' ∉ c.toList) :
    Prints (Outcome.unlines (lines (first :: rest))) (rows first rest) (rest.length + 1) := by
  rw [Prints, ← lines_eq]
  refine Outcome.splitOn_unlines fun l hl => ?_
  rw [lines_eq, List.mem_append] at hl
  rcases hl with hrow | hclosing
  · obtain ⟨row, hmem, rfl⟩ := List.mem_map.1 hrow
    exact (unbroken_rows hnames hcells hmem).text
  · exact unbroken_closing _ l hclosing

/-- **A table is aligned.** For records with as many fields each as the first one has, and names and
cells of any characters but line breaks: what is printed is, line by line, the names, the rule and
each of the records in columns, and the number of the records. The rows are all of one length, and the
bar behind a column stands at one place in all of them. -/
theorem table_aligned (hsize : ∀ r ∈ rest, r.size = first.size)
    (hnames : ∀ name ∈ first.columns, '\n' ∉ name.toList)
    (hcells : ∀ r ∈ first :: rest, ∀ c ∈ cells r, '\n' ∉ c.toList) :
    let ws := widths first.columns (first :: rest)
    Prints (Outcome.unlines (lines (first :: rest))) (rows first rest) (rest.length + 1) ∧
    (rows first rest).length = rest.length + 3 ∧
    ∀ row ∈ rows first rest, row.shown.length = first.size ∧
      measure row.text = Row.lineLength ws ∧
      ∀ i, i + 1 < first.size → row.BarAt i (Row.barOffset ws i) := by
  intro ws
  have hlength : ws.length = first.size := length_widths_columns first (first :: rest)
  refine ⟨prints_lines hnames hcells, by simp [rows], fun row hrow => ?_⟩
  have hfits : row.Fits ws := fits_rows hsize hrow
  refine ⟨?_, hfits.measure_text, fun i hi => hfits.barAt (hlength ▸ hi)⟩
  rw [← hlength, ← hfits.shown, List.length_map]

/-- A month with a name and a cell outside of ASCII. -/
def march : Record := ⟨[("mês", .number (.int 3)), ("canal", .text "Balcão")]⟩

/-- A month without a count, and with a bar in a cell. -/
def april : Record := ⟨[("mês", .null), ("canal", .text "a │ b")]⟩

theorem spring_aligned :
    (∀ r ∈ [april], r.size = march.size) ∧ (∀ name ∈ march.columns, '\n' ∉ name.toList) ∧
    (∀ r ∈ [march, april], ∀ c ∈ cells r, '\n' ∉ c.toList) ∧
    ∀ row ∈ rows march [april], measure row.text = 13 ∧ row.BarAt 0 4 := by
  have hsize : ∀ r ∈ [april], r.size = march.size := by decide
  have hnames : ∀ name ∈ march.columns, '\n' ∉ name.toList := by decide
  have hcells : ∀ r ∈ [march, april], ∀ c ∈ cells r, '\n' ∉ c.toList := by decide
  have hwidths : widths march.columns [march, april] = [4, 6] := by decide
  refine ⟨hsize, hnames, hcells, fun row hrow => ?_⟩
  obtain ⟨-, htext, hbars⟩ := (table_aligned hsize hnames hcells).2.2 row hrow
  have hbar := hbars 0 (by decide)
  rw [hwidths] at htext hbar
  exact ⟨htext, hbar⟩

/-- **The width of a column.** A column is as wide as its longest cell in characters or as its name in
bytes, whichever is more. So it is as wide as the longest, in characters, of its name and its cells
exactly if its name is of ASCII or has no more bytes than a cell has characters. -/
theorem column_width (hsize : ∀ r ∈ rest, r.size = first.size)
    (hnames : ∀ name ∈ first.columns, '\n' ∉ name.toList)
    (hcells : ∀ r ∈ first :: rest, ∀ c ∈ cells r, '\n' ∉ c.toList) {i : Nat} {name : String}
    (hi : first.columns[i]? = some name) :
    Prints (Outcome.unlines (lines (first :: rest))) (rows first rest) (rest.length + 1) ∧
    (∀ row ∈ rows first rest, row.shown[i]?.map measure =
      some (max name.utf8ByteSize (longestCell (first :: rest) i))) ∧
    ((∀ row ∈ rows first rest, row.shown[i]?.map measure =
        some (max (measure name) (longestCell (first :: rest) i))) ↔
      (∀ c ∈ name.toList, c.toNat < 128) ∨ name.utf8ByteSize ≤ longestCell (first :: rest) i) := by
  have hwidth : ∀ row ∈ rows first rest, row.shown[i]?.map measure =
      some (max name.utf8ByteSize (longestCell (first :: rest) i)) := by
    intro row hrow
    rw [← List.getElem?_map, (fits_rows hsize hrow).shown, getElem?_widths, hi, Option.map_some]
  refine ⟨prints_lines hnames hcells, hwidth, ?_⟩
  have hbytes : measure name ≤ name.utf8ByteSize := Text.length_le_utf8ByteSize name
  rw [← Text.utf8ByteSize_eq_length_iff, ← measure]
  constructor
  · intro h
    have hrule : Row.rule (widths first.columns (first :: rest)) ∈ rows first rest :=
      mem_rows.2 (.inr (.inl rfl))
    have hsame := (hwidth _ hrule).symm.trans (h _ hrule)
    rw [Option.some.injEq] at hsame
    omega
  · intro h row hrow
    rw [hwidth row hrow]
    congr 1
    omega

/-- A missing count is as wide as the bytes of its name. -/
theorem spring_month_width :
    (∀ r ∈ [april], r.size = march.size) ∧ (∀ name ∈ march.columns, '\n' ∉ name.toList) ∧
    (∀ r ∈ [march, april], ∀ c ∈ cells r, '\n' ∉ c.toList) ∧ march.columns[0]? = some "mês" ∧
    ∀ row ∈ rows march [april], row.shown[0]?.map measure =
      some (max (measure "mês") (longestCell [march, april] 0)) := by
  have hsize : ∀ r ∈ [april], r.size = march.size := by decide
  have hnames : ∀ name ∈ march.columns, '\n' ∉ name.toList := by decide
  have hcells : ∀ r ∈ [march, april], ∀ c ∈ cells r, '\n' ∉ c.toList := by decide
  have hmonth : march.columns[0]? = some "mês" := rfl
  refine ⟨hsize, hnames, hcells, hmonth, ?_⟩
  exact (column_width hsize hnames hcells hmonth).2.2.2 (.inr (by decide))

/-- The column of a count under a name of three characters is four characters wide. -/
theorem month_column_too_wide :
    (rows ⟨[("mês", .number (.int 5))]⟩ []).map Row.text = ["mês ", "────", "5   "] ∧
    max (measure "mês") (longestCell [⟨[("mês", .number (.int 5))]⟩] 0) = 3 := by
  decide

end ResultTable

end DataMart.CommandLine
