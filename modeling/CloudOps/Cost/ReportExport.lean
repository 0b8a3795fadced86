import CloudOps.Csv
import CloudOps.Js.Number

namespace CloudOps.Cost

open CloudOps.Js (numberToString numberToString_isNumberChar)

inductive ReportCell where
  | text (value : String)
  | number (value : Float)

-- String(value)
def ReportCell.toString : ReportCell → String
  | .text value => value
  | .number value => numberToString value

structure ReportTable where
  title : String
  columns : List String
  rows : List (List ReportCell)
  aiSummary : Option String

-- /[",\n]/.test(s)
def needsQuotes (s : String) : Bool := s.toList.any fun c => c == '"' || c == ',' || c == '\n'

def csvEscape (value : ReportCell) : String :=
  let s := value.toString
  if needsQuotes s then "\"" ++ String.ofList (Csv.doubleQuotes s.toList) ++ "\"" else s

def toCsv (table : ReportTable) : String :=
  let summary := match table.aiSummary with
    | none | some "" => []
    | some aiSummary => [csvEscape (.text s!"AI Summary: {aiSummary}"), ""]
  let header := ",".intercalate (table.columns.map fun column => csvEscape (.text column))
  let rows := table.rows.map fun row => ",".intercalate (row.map csvEscape)
  "\n".intercalate (summary ++ header :: rows)

-- The texts of the table's records, its column names first.
def ReportTable.records (table : ReportTable) : List (List String) :=
  table.columns :: table.rows.map fun row => row.map ReportCell.toString

-- What a reader of the file gets.
def parseCsv (text : String) : List (List String) :=
  (Csv.readRecords text.toList).map fun record => record.map String.ofList

-- A carriage return does not make the export quote a text, it only travels inside the
-- quotes that another character asks for.
def ReturnsQuoted (s : String) : Prop := '\r' ∈ s.toList → needsQuotes s = true

instance (s : String) : Decidable (ReturnsQuoted s) := inferInstanceAs (Decidable (_ → _))

def escapeText (text : List Char) : List Char :=
  if needsQuotes (.ofList text) then '"' :: Csv.doubleQuotes text ++ ['"'] else text

theorem toList_csvEscape (cell : ReportCell) : (csvEscape cell).toList = escapeText cell.toString.toList := by
  unfold csvEscape escapeText
  rw [String.ofList_toList]
  by_cases h : needsQuotes cell.toString = true
  · simp [h]
  · simp [h]

theorem plain_of_not_needsQuotes {text : List Char} (hquotes : ¬ needsQuotes (.ofList text) = true)
    (hreturn : '\r' ∉ text) : Csv.Plain text := by
  intro c hc
  have hcs : ∀ c ∈ text, ¬ (c = '"' ∨ c = ',' ∨ c = '\n') := by
    simpa [needsQuotes, and_assoc] using hquotes
  have hne := hcs c hc
  have hr : c ≠ '\r' := by rintro rfl; exact hreturn hc
  tauto

-- The reader gets an escaped text back unless it ends the record at a carriage return in it.
theorem escapeText_writer : Csv.Writer escapeText fun text => ReturnsQuoted (.ofList text) where
  kept := by
    intro text hgood rest hrest
    unfold escapeText
    by_cases h : needsQuotes (.ofList text) = true
    · simpa [h] using Csv.read_start_quoted text hrest
    · have hreturn : '\r' ∉ text := fun hin => h (hgood (by simpa using hin))
      simpa [h] using Csv.read_start_text (plain_of_not_needsQuotes h hreturn) hrest
  lost := by
    intro text hbad rest
    have hin : '\r' ∈ text ∧ ¬ needsQuotes (.ofList text) = true := by
      simpa [ReturnsQuoted] using hbad
    obtain ⟨hin, hquotes⟩ := hin
    obtain ⟨front, back, rfl, hfront⟩ := List.eq_append_cons_of_mem hin
    have hplain : Csv.Plain front := by
      refine plain_of_not_needsQuotes (fun h => hquotes ?_) hfront
      simp only [needsQuotes, String.toList_ofList, List.any_append, Bool.or_eq_true] at h ⊢
      exact .inl h
    rw [escapeText, if_neg hquotes, List.append_assoc, List.cons_append, Csv.read_start_return hplain]
    simp

theorem toCsv_eq_writeRecords (table : ReportTable) (hsummary : table.aiSummary = none) :
    (toCsv table).toList
      = Csv.writeRecords escapeText (table.records.map fun record => record.map String.toList) := by
  simp [toCsv, hsummary, ReportTable.records, Csv.writeRecords, Csv.writeRecord, String.toList_intercalate,
    toList_csvEscape, Function.comp_def, ReportCell.toString]

theorem returnsQuoted_number (value : Float) : ReturnsQuoted (numberToString value) := by
  intro hreturn
  exact absurd (numberToString_isNumberChar value _ hreturn) (by decide)

-- The cells the export can lose are the column names and the texts.
theorem forall_records_returnsQuoted (table : ReportTable) :
    (∀ record ∈ table.records, ∀ text ∈ record, ReturnsQuoted text)
      ↔ (∀ column ∈ table.columns, ReturnsQuoted column)
        ∧ ∀ row ∈ table.rows, ∀ value, .text value ∈ row → ReturnsQuoted value := by
  rw [ReportTable.records, List.forall_mem_cons]
  refine and_congr_right fun _ => ?_
  simp only [List.forall_mem_map]
  refine forall₂_congr fun row _ => ?_
  constructor
  · intro h value hvalue
    exact h _ hvalue
  · intro h cell hcell
    cases cell with
    | text value => exact h value hcell
    | number value => exact returnsQuoted_number value

theorem map_ofList_eq_iff (texts : List (List (List Char))) (records : List (List String)) :
    texts.map (fun record => record.map String.ofList) = records
      ↔ texts = records.map fun record => record.map String.toList := by
  constructor
  · rintro rfl
    simp [Function.comp_def]
  · rintro rfl
    simp [Function.comp_def]

-- The export is read back exactly when each carriage return in it stands inside quotes.
theorem parseCsv_toCsv_iff (table : ReportTable) (hsummary : table.aiSummary = none)
    (hcolumns : 2 ≤ table.columns.length)
    (hrows : ∀ row ∈ table.rows, row.length = table.columns.length) :
    parseCsv (toCsv table) = table.records
      ↔ (∀ column ∈ table.columns, ReturnsQuoted column)
        ∧ ∀ row ∈ table.rows, ∀ value, .text value ∈ row → ReturnsQuoted value := by
  have hwide : ∀ record ∈ table.records.map fun record => record.map String.toList, 2 ≤ record.length := by
    simp only [ReportTable.records, List.map_cons, List.forall_mem_cons, List.map_map, List.forall_mem_map,
      Function.comp_apply, List.length_map]
    exact ⟨hcolumns, fun row hrow => by rw [hrows row hrow]; exact hcolumns⟩
  have hread := Csv.readRecords_iff escapeText_writer _ hwide
  rw [← forall_records_returnsQuoted, parseCsv, toCsv_eq_writeRecords table hsummary, map_ofList_eq_iff, hread]
  simp only [List.forall_mem_map, String.ofList_toList]

def returnTable (cell : String) : ReportTable where
  title := "Cost by tag"
  columns := ["Tag", "Cost"]
  rows := [[.text cell, .number 0]]
  aiSummary := none

theorem parseCsv_toCsv_quoted :
    parseCsv (toCsv (returnTable "team \"a\"\r\n")) = (returnTable "team \"a\"\r\n").records :=
  (parseCsv_toCsv_iff (returnTable "team \"a\"\r\n") rfl (by decide) (by decide)).mpr
    ⟨by decide, by simp [returnTable, ReturnsQuoted, needsQuotes]⟩

theorem toCsv_cuts_returns :
    ¬ ∀ table : ReportTable, table.aiSummary = none → 2 ≤ table.columns.length →
      (∀ row ∈ table.rows, row.length = table.columns.length) →
      parseCsv (toCsv table) = table.records := by
  intro h
  have hread := h (returnTable "team a\rteam b") rfl (by decide) (by decide)
  have hcut : parseCsv (toCsv (returnTable "team a\rteam b")) ≠ (returnTable "team a\rteam b").records := by
    decide +kernel
  exact hcut hread

end CloudOps.Cost
