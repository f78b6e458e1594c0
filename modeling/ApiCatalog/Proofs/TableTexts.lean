import ApiCatalog.Proofs.Diagnostics
import ApiCatalog.Report.Console
import Mathlib.Data.List.Basic

/-!
A plain table is one line for the header and one for each row, with the cells apart by tabs. It can
be read back as long as no cell holds a tab or a line feed of its own: nothing is escaped.
-/

set_option autoImplicit false

namespace ApiCatalog

section Texts

variable {α : Type} [BEq α]

theorem length_splitOn (a : α) (xs : List α) : (xs.splitOn a).length = xs.count a + 1 := by
  induction xs with
  | nil => simp
  | cons x xs ih =>
    rw [List.splitOn_cons_eq_if_modifyHead, List.count_cons]
    split
    · simp [ih]
    · simp [ih]

theorem length_flatMap_splitOn (a : α) (pieces : List (List α)) :
    (pieces.flatMap (·.splitOn a)).length = pieces.length + pieces.flatten.count a := by
  induction pieces with
  | nil => rfl
  | cons piece pieces ih =>
    simp only [List.flatMap_cons, List.length_append, length_splitOn, ih, List.length_cons,
      List.flatten_cons, List.count_append]
    omega

theorem count_intercalate (a sep : α) (part : List α) (parts : List (List α)) :
    ([sep].intercalate (part :: parts)).count a =
      (part :: parts).flatten.count a + parts.length * [sep].count a := by
  induction parts generalizing part with
  | nil => simp
  | cons next parts ih =>
    rw [List.intercalate_cons_cons]
    simp only [List.count_append, ih, List.flatten_cons, List.length_cons, Nat.succ_mul]
    omega

theorem count_flatten_eq_zero [LawfulBEq α] {a : α} {pieces : List (List α)} :
    pieces.flatten.count a = 0 ↔ ∀ piece ∈ pieces, a ∉ piece := by
  rw [List.count_eq_zero, List.mem_flatten]
  simp only [not_exists, not_and]

theorem splitOn_flatMap_concat [LawfulBEq α] (a : α) (pieces : List (List α)) :
    (pieces.flatMap (· ++ [a])).splitOn a = pieces.flatMap (·.splitOn a) ++ [[]] := by
  induction pieces with
  | nil => simp
  | cons piece pieces ih => simp [List.splitOn_append_cons_self, ih]

end Texts

-- Nothing in the text would end the cell.
def IsCell (text : String) : Prop := '\t' ∉ text.toList ∧ '\n' ∉ text.toList

instance : DecidablePred IsCell := fun _ => inferInstanceAs (Decidable (_ ∧ _))

theorem IsCell.append {text more : String} (first : IsCell text) (second : IsCell more) :
    IsCell (text ++ more) := by
  simp only [IsCell, String.toList_append, List.mem_append, not_or]
  exact ⟨⟨first.1, second.1⟩, first.2, second.2⟩

theorem isCell_toString (n : Nat) : IsCell (toString n) := by
  exact ⟨fun member => absurd (isDigit_of_mem_toString member) (by decide),
    fun member => absurd (isDigit_of_mem_toString member) (by decide)⟩

-- A line ends with a line feed, and what follows the last one is a line only if it is something.
def linesOf (text : String) : List (List Char) :=
  let pieces := text.toList.splitOn '\n'
  if pieces.getLast? = some [] then pieces.dropLast else pieces

def cellsOf (line : List Char) : List String := (line.splitOn '\t').map String.ofList

def tableOf (text : String) : List (List String) := (linesOf text).map cellsOf

-- One line for the header and one for each row, with as many cells as there are columns.
structure IsTable (text : String) (columns rows : Nat) : Prop where
  lines : (tableOf text).length = rows + 1
  cells : ∀ line ∈ tableOf text, line.length = columns

instance (text : String) (columns rows : Nat) : Decidable (IsTable text columns rows) :=
  decidable_of_iff ((tableOf text).length = rows + 1 ∧ ∀ line ∈ tableOf text, line.length = columns)
    ⟨fun ⟨lines, cells⟩ => ⟨lines, cells⟩, fun ⟨lines, cells⟩ => ⟨lines, cells⟩⟩

namespace Console

def rowText (row : List String) : List Char := ['\t'].intercalate (row.map String.toList)

section Rows

variable {row : List String}

theorem not_mem_rowText (held : row ≠ []) :
    '\n' ∉ rowText row ↔ ∀ cell ∈ row, '\n' ∉ cell.toList := by
  cases row with
  | nil => exact absurd rfl held
  | cons cell others =>
    rw [← List.count_eq_zero, rowText, List.map_cons, count_intercalate]
    have apart : ['\t'].count '\n' = 0 := by decide
    rw [apart, Nat.mul_zero, Nat.add_zero, count_flatten_eq_zero]
    simp

theorem length_cellsOf_rowText (held : row ≠ []) :
    (cellsOf (rowText row)).length =
      row.length + (row.map String.toList).flatten.count '\t' := by
  cases row with
  | nil => exact absurd rfl held
  | cons cell others =>
    rw [cellsOf, List.length_map, length_splitOn, rowText, List.map_cons, count_intercalate]
    have one : ['\t'].count '\t' = 1 := by decide
    rw [one]
    simp only [List.length_map, List.length_cons]
    omega

theorem cellsOf_rowText (held : row ≠ []) (free : ∀ cell ∈ row, '\t' ∉ cell.toList) :
    cellsOf (rowText row) = row := by
  have free' : ∀ part ∈ row.map String.toList, '\t' ∉ part := by
    simpa using free
  rw [cellsOf, rowText, List.splitOn_intercalate _ free' (by simpa using held), List.map_map]
  simp [Function.comp_def]

end Rows

variable {headers : List String} {rows : List (List String)}

def plainTable (headers : List String) (rows : List (List String)) : String :=
  String.join ((headers :: rows).map plainRow)

theorem table_plain {c : Console} (plain : c.format = .plain) (painter : Painter) (title : String)
    (headers : List String) (rows : List (List String)) :
    c.table painter title headers rows = .ok ((headers :: rows).map plainRow) := by
  rw [table, plain]

theorem plainTable_toList (headers : List String) (rows : List (List String)) :
    (plainTable headers rows).toList = ((headers :: rows).map rowText).flatMap (· ++ ['\n']) := by
  rw [plainTable, String.toList_join, List.flatMap_map, List.flatMap_map]
  refine congrArg (List.flatMap · _) (funext fun row => ?_)
  rw [plainRow, line, String.toList_append, String.toList_intercalate]
  rfl

theorem linesOf_plainTable (headers : List String) (rows : List (List String)) :
    linesOf (plainTable headers rows) =
      ((headers :: rows).map rowText).flatMap (·.splitOn '\n') := by
  rw [linesOf, plainTable_toList, splitOn_flatMap_concat]
  simp

theorem tableOf_plainTable_of_unbroken (full : ∀ row ∈ headers :: rows, row ≠ [])
    (unbroken : ∀ row ∈ headers :: rows, ∀ cell ∈ row, '\n' ∉ cell.toList) :
    tableOf (plainTable headers rows) = (headers :: rows).map fun row => cellsOf (rowText row) := by
  have whole : ∀ row ∈ headers :: rows, (rowText row).splitOn '\n' = [rowText row] :=
    fun row found =>
      List.splitOn_eq_singleton ((not_mem_rowText (full row found)).2 (unbroken row found))
  rw [tableOf, linesOf_plainTable, List.flatMap_map, List.flatMap_congr whole,
    ← List.map_eq_flatMap, List.map_map]
  rfl

theorem tableOf_plainTable (full : ∀ row ∈ headers :: rows, row ≠ [])
    (clean : ∀ row ∈ headers :: rows, ∀ cell ∈ row, IsCell cell) :
    tableOf (plainTable headers rows) = headers :: rows := by
  rw [tableOf_plainTable_of_unbroken full fun row found cell held => (clean row found cell held).2]
  refine (List.map_congr_left fun row found => ?_).trans (List.map_id _)
  exact cellsOf_rowText (full row found) fun cell held => (clean row found cell held).1

section Shape

variable {columns : Nat} (even : ∀ row ∈ headers :: rows, row.length = columns + 1)

include even

-- A line feed in a cell makes one line too many, and else a tab in a cell one cell too many.
theorem isCell_of_isTable (isTable : IsTable (plainTable headers rows) (columns + 1) rows.length) :
    ∀ row ∈ headers :: rows, ∀ cell ∈ row, IsCell cell := by
  have full : ∀ row ∈ headers :: rows, row ≠ [] :=
    fun row found => List.ne_nil_of_length_eq_add_one (even row found)
  have feeds := isTable.lines
  rw [tableOf, List.length_map, linesOf_plainTable, length_flatMap_splitOn, List.length_map,
    List.length_cons, Nat.add_eq_left, count_flatten_eq_zero, List.forall_mem_map] at feeds
  have unbroken : ∀ row ∈ headers :: rows, ∀ cell ∈ row, '\n' ∉ cell.toList :=
    fun row found => (not_mem_rowText (full row found)).1 (feeds row found)
  have cells := isTable.cells
  rw [tableOf_plainTable_of_unbroken full unbroken, List.forall_mem_map] at cells
  intro row found cell member
  have tabs := cells row found
  rw [length_cellsOf_rowText (full row found), even row found, Nat.add_eq_left,
    count_flatten_eq_zero, List.forall_mem_map] at tabs
  exact ⟨tabs cell member, unbroken row found cell member⟩

theorem isTable_plainTable_iff (clean : ∀ cell ∈ headers, IsCell cell) :
    (IsTable (plainTable headers rows) (columns + 1) rows.length ↔
      ∀ row ∈ rows, ∀ cell ∈ row, IsCell cell) ∧
    (IsTable (plainTable headers rows) (columns + 1) rows.length →
      tableOf (plainTable headers rows) = headers :: rows) := by
  have read (each : ∀ row ∈ headers :: rows, ∀ cell ∈ row, IsCell cell) :
      tableOf (plainTable headers rows) = headers :: rows :=
    tableOf_plainTable (fun row found => List.ne_nil_of_length_eq_add_one (even row found)) each
  refine ⟨⟨fun isTable => ?_, fun each => ?_⟩, fun isTable => ?_⟩
  · exact (List.forall_mem_cons.1 (isCell_of_isTable even isTable)).2
  · have whole := read (List.forall_mem_cons.2 ⟨clean, each⟩)
    exact ⟨by rw [whole]; rfl, by rwa [whole]⟩
  · exact read (isCell_of_isTable even isTable)

end Shape

end Console

end ApiCatalog
