import DiveSchool.Console.Rows

/-!
# `DiveSchool.Proofs.Grid` — the lines of a grid end in one column

The width of a column is measured before it is drawn, and a cell may hold anything: letters that combine,
flags, or several lines. Whatever it holds, the bars of a grid stand below one another.

## Contents
- **Columns.** `le_columnWidths`: a column is as wide as each of its cells.
- **Lines.** `width_rule` and `width_rowLine`; neither line holds a line feed.
- **Grids.** `Even`, `Grid.render_even`; `showRow_even` and `listings_even`, what the console shows.
-/

namespace DiveSchool.Console

open Text

namespace Grid

/-! ## Columns -/

/-- The highest of some numbers is no more than a bound if none of them is. -/
theorem foldl_max_le_iff {ns : List Nat} {start bound : Nat} :
    ns.foldl max start ≤ bound ↔ start ≤ bound ∧ ∀ n ∈ ns, n ≤ bound := by
  induction ns generalizing start with
  | nil => exact (and_iff_left (List.forall_mem_nil _)).symm
  | cons n ns ih => rw [List.foldl_cons, ih, Nat.max_le, List.forall_mem_cons, and_assoc]

/-- A cell is as wide as each of its lines. -/
theorem width_le_cellWidth {cell : String} {line : List Char} (h : line ∈ cellLines cell) :
    width line ≤ cellWidth cell :=
  (foldl_max_le_iff.mp (Nat.le_refl _)).2 _ (List.mem_map_of_mem h)

/-- Columns that are wide enough for some more cells. -/
def widen (widths here : List Nat) : List Nat :=
  (List.range (max widths.length here.length)).map fun i => max (widths.getD i 0) (here.getD i 0)

theorem length_widen (widths here : List Nat) :
    (widen widths here).length = max widths.length here.length := by
  rw [widen, List.length_map, List.length_range]

theorem getD_widen (widths here : List Nat) (i : Nat) :
    (widen widths here).getD i 0 = max (widths.getD i 0) (here.getD i 0) := by
  by_cases hi : i < max widths.length here.length
  · rw [widen, List.getD_eq_getElem?_getD, List.getElem?_map, List.getElem?_range hi]
    rfl
  · obtain ⟨hwidths, hhere⟩ := Nat.max_le.mp (Nat.le_of_not_lt hi)
    have hout : (widen widths here).length ≤ i := length_widen widths here ▸ Nat.le_of_not_lt hi
    simp only [List.getD_eq_getElem?_getD, List.getElem?_eq_none hout, List.getElem?_eq_none hwidths,
      List.getElem?_eq_none hhere, Option.getD_none, Nat.max_self]

/-- Columns that are made wide enough for a table, row by row. -/
def widened (start : List Nat) (table : List (List String)) : List Nat :=
  table.foldl (fun widths cells => widen widths (cells.map cellWidth)) start

theorem columnWidths_eq (table : List (List String)) : columnWidths table = widened [] table := rfl

/-- Columns only become wider, and wide enough for each row. -/
theorem le_widened (start : List Nat) (table : List (List String)) (i : Nat) :
    start.getD i 0 ≤ (widened start table).getD i 0 ∧
    ∀ cells ∈ table, (cells.map cellWidth).getD i 0 ≤ (widened start table).getD i 0 := by
  induction table generalizing start with
  | nil => exact ⟨Nat.le_refl _, List.forall_mem_nil _⟩
  | cons cells table ih =>
      obtain ⟨hstart, htable⟩ := ih (widen start (cells.map cellWidth))
      rw [getD_widen] at hstart
      obtain ⟨hbefore, hcells⟩ := Nat.max_le.mp hstart
      exact ⟨hbefore, List.forall_mem_cons.mpr ⟨hcells, htable⟩⟩

theorem length_widened {n : Nat} {start : List Nat} {table : List (List String)} (hstart : start.length = n)
    (h : ∀ cells ∈ table, cells.length = n) : (widened start table).length = n := by
  induction table generalizing start with
  | nil => exact hstart
  | cons cells table ih =>
      obtain ⟨hcells, htable⟩ := List.forall_mem_cons.mp h
      exact ih (by rw [length_widen, hstart, List.length_map, hcells, Nat.max_self]) htable

/-- **A column is as wide as each of its cells.** -/
theorem le_columnWidths {table : List (List String)} {cells : List String} (h : cells ∈ table) :
    ∀ p ∈ (columnWidths table).zip cells, cellWidth p.2 ≤ p.1 := by
  intro p hp
  obtain ⟨i, hi, rfl⟩ := List.getElem_of_mem hp
  obtain ⟨hwidths, hcells⟩ := Nat.lt_min.mp (List.length_zip ▸ hi)
  have hle := (le_widened [] table i).2 cells h
  rw [← columnWidths_eq] at hle
  simpa only [List.getD_eq_getElem?_getD, List.getElem?_map, List.getElem?_eq_getElem hwidths,
    List.getElem?_eq_getElem hcells, Option.map_some, Option.getD_some, List.getElem_zip] using hle

/-- There are as many columns as each row has cells. -/
theorem length_columnWidths {n : Nat} {table : List (List String)} (h : ∀ cells ∈ table, cells.length = n)
    (hne : table ≠ []) : (columnWidths table).length = n := by
  cases table with
  | nil => exact absurd rfl hne
  | cons cells table =>
      obtain ⟨hcells, htable⟩ := List.forall_mem_cons.mp h
      have hfirst : (widen [] (cells.map cellWidth)).length = n := by
        rw [length_widen, List.length_map, hcells, List.length_nil, Nat.zero_max]
      show (widened (widen [] (cells.map cellWidth)) table).length = n
      exact length_widened hfirst htable

/-! ## Lines -/

/-- The columns of the cells of a line: each has a blank on either side and a bar behind it. -/
def span : List Nat → Nat
  | [] => 0
  | w :: widths => w + 3 + span widths

/-- What stands in a line side by side adds up, if nothing is drawn with what stands before it. -/
theorem width_flatMap {α : Type} {piece : α → List Char} {columns : α → Nat} {as : List α}
    (hstart : ∀ a, ∃ c cs, StandsAlone c ∧ piece a = c :: cs)
    (hpiece : ∀ a ∈ as, width (piece a) = columns a + 3) :
    width (as.flatMap piece) = span (as.map columns) := by
  have hclosed (as : List α) : (measure (as.flatMap piece)).2 = {} := by
    cases as with
    | nil => rfl
    | cons a as =>
        obtain ⟨c, cs, hc, heq⟩ := hstart a
        rw [List.flatMap_cons, heq, List.cons_append, hc.measure_cons]
  induction as with
  | nil => rfl
  | cons a as ih =>
      obtain ⟨ha, has⟩ := List.forall_mem_cons.mp hpiece
      rw [List.flatMap_cons, width_append (hclosed as), ha, ih has, List.map_cons, span]

/-- The rule below a cell. -/
def underline (w : Nat) : List Char := List.replicate (w + 2) '-' ++ ['+']

theorem toList_rule (widths : List Nat) : (rule widths).toList = '+' :: widths.flatMap underline := by
  simp only [rule, String.toList_append, String.toList_join, List.flatMap_map, String.toList_ofList]
  rfl

theorem width_underline (w : Nat) : width (underline w) = w + 3 := by
  have hdash : StandsAlone '-' := by decide
  have hplus : StandsAlone '+' := by decide
  rw [underline, width_append (congrArg Prod.snd (hplus.measure_cons _)), hdash.width_replicate, hplus.width_cons]
  rfl

/-- **The rule** takes the columns of the grid. -/
theorem width_rule (widths : List Nat) : width (rule widths).toList = span widths + 1 := by
  have hplus : StandsAlone '+' := by decide
  have hcells : width (widths.flatMap underline) = span (widths.map id) :=
    width_flatMap (fun w => ⟨'-', List.replicate (w + 1) '-' ++ ['+'], by decide, rfl⟩)
      fun w _ => width_underline w
  rw [toList_rule, hplus.width_cons, hcells, List.map_id]

/-- One cell in a line. -/
def boxed (w : Nat) (line : List Char) : List Char := ' ' :: (padTo w line ++ [' ', '|'])

theorem toList_rowLine (widths : List Nat) (cells : List (List (List Char))) (number : Nat) :
    (rowLine widths cells number).toList =
      '|' :: (widths.zip cells).flatMap fun p => boxed p.1 (p.2.getD number []) := by
  simp only [rowLine, String.toList_append, String.toList_join, List.flatMap_map, String.toList_ofList]
  rfl

theorem width_boxed {w : Nat} {line : List Char} (h : width line ≤ w) : width (boxed w line) = w + 3 := by
  have hblank : StandsAlone ' ' := by decide
  have hbar : width [' ', '|'] = 2 := by decide
  rw [boxed, hblank.width_cons, width_append (congrArg Prod.snd (hblank.measure_cons _)), width_padTo h, hbar]

/-- What holds of each line of a cell and of an empty one holds of the line with any number. -/
theorem getD_of_forall {P : List Char → Prop} {lines : List (List Char)} (hnil : P [])
    (h : ∀ line ∈ lines, P line) (number : Nat) : P (lines.getD number []) := by
  rw [List.getD_eq_getElem?_getD]
  cases hline : lines[number]? with
  | none => exact hnil
  | some line => exact h line (List.mem_of_getElem? hline)

/-- **A line of cells that fit** takes the columns of the grid, whatever the cells hold. -/
theorem width_rowLine {widths : List Nat} {cells : List (List (List Char))} (hlen : cells.length = widths.length)
    (hfit : ∀ p ∈ widths.zip cells, ∀ line ∈ p.2, width line ≤ p.1) (number : Nat) :
    width (rowLine widths cells number).toList = span widths + 1 := by
  have hbar : StandsAlone '|' := by decide
  have hcells : width ((widths.zip cells).flatMap fun p => boxed p.1 (p.2.getD number [])) =
      span ((widths.zip cells).map Prod.fst) :=
    width_flatMap (fun p => ⟨' ', _, by decide, rfl⟩)
      fun p hp => width_boxed (getD_of_forall (Nat.zero_le _) (hfit p hp) number)
  rw [toList_rowLine, hbar.width_cons, hcells, List.map_fst_zip (Nat.le_of_eq hlen.symm)]

theorem feed_notMem_rule (widths : List Nat) : '\n' ∉ (rule widths).toList := by
  simp [toList_rule, underline]

theorem feed_notMem_rowLine {widths : List Nat} {cells : List (List (List Char))}
    (h : ∀ lines ∈ cells, ∀ line ∈ lines, '\n' ∉ line) (number : Nat) :
    '\n' ∉ (rowLine widths cells number).toList := by
  intro hfeed
  rw [toList_rowLine, List.mem_cons] at hfeed
  rcases hfeed with hbar | hcells
  · exact absurd hbar (by decide)
  · obtain ⟨p, hp, hbox⟩ := List.mem_flatMap.mp hcells
    have hline : '\n' ∉ p.2.getD number [] := getD_of_forall List.not_mem_nil (h p.2 (List.of_mem_zip hp).2) number
    simp only [boxed, padTo, List.mem_cons, List.mem_append, hline, List.mem_replicate, List.not_mem_nil,
      or_false, Char.reduceEq, and_false] at hbox

end Grid

/-! ## Grids -/

/-- Some lines that end in one column. -/
def Even (lines : List String) : Prop :=
  ∃ columns, ∀ line ∈ lines, width line.toList = columns ∧ '\n' ∉ line.toList

namespace Grid

theorem lines_even {n : Nat} {table : List (List String)} (h : ∀ cells ∈ table, cells.length = n) :
    Even (lines table) := by
  refine ⟨span (columnWidths table) + 1, fun line hline => ?_⟩
  have hrule : width (rule (columnWidths table)).toList = span (columnWidths table) + 1 ∧
      '\n' ∉ (rule (columnWidths table)).toList := ⟨width_rule _, feed_notMem_rule _⟩
  rcases List.mem_cons.mp hline with rfl | hline
  · exact hrule
  · obtain ⟨cells, hcells, hline⟩ := List.mem_flatMap.mp hline
    rcases List.mem_append.mp hline with hline | hline
    · obtain ⟨number, -, rfl⟩ := List.mem_map.mp hline
      have hlen : (columnWidths table).length = cells.length :=
        (length_columnWidths h (List.ne_nil_of_mem hcells)).trans (h cells hcells).symm
      refine ⟨width_rowLine (by rw [List.length_map, hlen]) (fun p hp line hmem => ?_) number,
        feed_notMem_rowLine (fun lines hlines line hmem => ?_) number⟩
      · rw [List.zip_map_right] at hp
        obtain ⟨q, hq, rfl⟩ := List.mem_map.mp hp
        exact Nat.le_trans (width_le_cellWidth hmem) (le_columnWidths hcells q hq)
      · obtain ⟨cell, -, rfl⟩ := List.mem_map.mp hlines
        exact fun hfeed => absurd (sep_of_mem_pieces hmem _ hfeed) (by decide)
    · rw [List.mem_singleton.mp hline]
      exact hrule

/-- **The lines of a grid end in one column**, whatever its cells hold, if its rows have equally many cells. -/
theorem render_even {n : Nat} {rows : List Row} (h : ∀ row ∈ rows, row.length = n) : Even (render rows) := by
  cases rows with
  | nil => exact ⟨0, List.forall_mem_nil _⟩
  | cons first rows =>
      refine lines_even (n := n) (List.forall_mem_cons.mpr ⟨?_, fun cells hcells => ?_⟩)
      · rw [List.length_map, h first List.mem_cons_self]
      · obtain ⟨row, hrow, rfl⟩ := List.mem_map.mp hcells
        rw [List.length_map, h row hrow]

end Grid

/-- Things that are shown with the same columns make an even list. -/
theorem showList_even {α : Type} {row : α → Row} {n : Nat} (h : ∀ a, (row a).length = n) (things : List α) :
    Even (showList (things.map row) .table) := by
  show Even (if (things.map row).isEmpty then ["No results found."] else Grid.render (things.map row))
  split
  · exact ⟨17, List.forall_mem_singleton.mpr (by decide)⟩
  · refine Grid.render_even (n := n) fun r hr => ?_
    obtain ⟨a, -, rfl⟩ := List.mem_map.mp hr
    exact h a

theorem showRow_even (row : Row) : Even (showRow row .table) :=
  Grid.render_even (n := row.length) (List.forall_mem_singleton.mpr rfl)

/-- **The lists of offerings and of bookings are even**, whatever the names of the offerings and holders are. -/
theorem listings_even (offerings : List Offering) (bookings : List Booking) :
    Even (showList (offerings.map offeringRow) .table) ∧ Even (showList (bookings.map bookingRow) .table) :=
  ⟨showList_even (n := 8) (fun _ => rfl) offerings, showList_even (n := 3) (fun _ => rfl) bookings⟩

end DiveSchool.Console
