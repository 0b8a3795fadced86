import Mathlib.Data.List.Basic
import Mathlib.Tactic.Common

namespace CloudOps.Csv

-- Where a reader of comma-separated values is: at the start of a field, inside one with or
-- without quotes, or behind a quote that closed it unless another one follows.
inductive Mode where
  | start
  | plain
  | quoted
  | closed

-- What is read from some point of a text: the rest of the field, the fields after it in
-- its record, and the records after that one.
structure Reading where
  field : List Char
  fields : List (List Char)
  records : List (List (List Char))

namespace Reading

def toRecords (reading : Reading) : List (List (List Char)) :=
  (reading.field :: reading.fields) :: reading.records

def prepend (text : List Char) (reading : Reading) : Reading :=
  { reading with field := text ++ reading.field }

-- A separator ends the field.
def nextField (reading : Reading) : Reading :=
  { reading with field := [], fields := reading.field :: reading.fields }

-- What follows the end of a record: another record, unless the text ends there.
def nextRecord (rest : List Char) (reading : Reading) : Reading where
  field := []
  fields := []
  records := if rest = [] then [] else reading.toRecords

end Reading

-- A line feed, a carriage return or the two together end a record outside quotes; the
-- last record needs no end.
def read : Mode → List Char → Reading
  | _, [] => { field := [], fields := [], records := [] }
  | .quoted, '"' :: rest => read .closed rest
  | .quoted, c :: rest => (read .quoted rest).prepend [c]
  | .closed, '"' :: rest => (read .quoted rest).prepend ['"']
  | .start, '"' :: rest => read .quoted rest
  | _, ',' :: rest => (read .start rest).nextField
  | _, '\r' :: '\n' :: rest => (read .start rest).nextRecord rest
  | _, '\r' :: rest => (read .start rest).nextRecord rest
  | _, '\n' :: rest => (read .start rest).nextRecord rest
  | _, c :: rest => (read .plain rest).prepend [c]

def readRecords (text : List Char) : List (List (List Char)) :=
  if text = [] then [] else (read .start text).toRecords

example : readRecords "a,\"b\"\"\r\n\"\r\n,c\rd".toList
    = [["a".toList, "b\"\r\n".toList], [[], "c".toList], ["d".toList]] := by decide

theorem read_nil : read .start [] = { field := [], fields := [], records := [] } := rfl

theorem read_start_separator (rest : List Char) : read .start (',' :: rest) = (read .start rest).nextField := rfl

theorem read_start_quote (rest : List Char) : read .start ('"' :: rest) = read .quoted rest := rfl

theorem read_quoted_of_ne {c : Char} (hc : c ≠ '"') (rest : List Char) :
    read .quoted (c :: rest) = (read .quoted rest).prepend [c] := by
  simp [read]

-- One lemma for the two modes in which a character that means nothing belongs to the field.
theorem read_of_plain {mode : Mode} (hmode : mode = .start ∨ mode = .plain) {c : Char}
    (hc : c ≠ '"' ∧ c ≠ ',' ∧ c ≠ '\n' ∧ c ≠ '\r') (rest : List Char) :
    read mode (c :: rest) = (read .plain rest).prepend [c] := by
  obtain ⟨hquote, hcomma, hfeed, hreturn⟩ := hc
  rcases hmode with rfl | rfl
  · simp [read, hquote, hreturn]
  · simp [read, hreturn]

-- A line feed behind a carriage return belongs to the same end of record.
def afterReturn : List Char → List Char
  | '\n' :: rest => rest
  | rest => rest

theorem read_return {mode : Mode} (hmode : mode ≠ .quoted) (rest : List Char) :
    read mode ('\r' :: rest) = (read .start (afterReturn rest)).nextRecord (afterReturn rest) := by
  cases mode with
  | quoted => exact absurd rfl hmode
  | _ =>
    cases rest with
    | nil => rfl
    | cons next rest => by_cases hnext : next = '\n' <;> simp [read, afterReturn, hnext]

@[simp] theorem prepend_nil (reading : Reading) : reading.prepend [] = reading := rfl

@[simp] theorem prepend_prepend (front back : List Char) (reading : Reading) :
    (reading.prepend back).prepend front = reading.prepend (front ++ back) := by
  simp [Reading.prepend]

-- No character that a reader gives a meaning to.
def Plain (text : List Char) : Prop := ∀ c ∈ text, c ≠ '"' ∧ c ≠ ',' ∧ c ≠ '\n' ∧ c ≠ '\r'

theorem plain_cons {c : Char} {text : List Char} :
    Plain (c :: text) ↔ (c ≠ '"' ∧ c ≠ ',' ∧ c ≠ '\n' ∧ c ≠ '\r') ∧ Plain text := by
  simp [Plain]

-- A field ends before a separator, the end of its record and that of the text.
def EndsField (rest : List Char) : Prop := ∀ c ∈ rest.head?, c = ',' ∨ c = '\n' ∨ c = '\r'

-- There a field that has begun ends, one in quotes after its closing quote.
theorem read_of_endsField {mode : Mode} (hmode : mode = .plain ∨ mode = .closed) {rest : List Char}
    (h : EndsField rest) : read mode rest = read .start rest := by
  cases rest with
  | nil => rcases hmode with rfl | rfl <;> rfl
  | cons c rest =>
    rcases h c rfl with rfl | rfl | rfl
    · rcases hmode with rfl | rfl <;> rfl
    · rcases hmode with rfl | rfl <;> rfl
    · have hquoted : mode ≠ .quoted := by rcases hmode with rfl | rfl <;> simp
      rw [read_return hquoted, read_return (by simp)]

theorem read_plain_text {text : List Char} (h : Plain text) (rest : List Char) :
    read .plain (text ++ rest) = (read .plain rest).prepend text := by
  induction text with
  | nil => rfl
  | cons c text ih =>
    obtain ⟨hc, htext⟩ := plain_cons.mp h
    rw [List.cons_append, read_of_plain (.inr rfl) hc, ih htext, prepend_prepend, List.singleton_append]

-- A field with none of them is read as it stands.
theorem read_start_text {text : List Char} (h : Plain text) {rest : List Char} (hrest : EndsField rest) :
    read .start (text ++ rest) = (read .start rest).prepend text := by
  cases text with
  | nil => rfl
  | cons c text =>
    obtain ⟨hc, htext⟩ := plain_cons.mp h
    rw [List.cons_append, read_of_plain (.inl rfl) hc, read_plain_text htext, read_of_endsField (.inl rfl) hrest,
      prepend_prepend, List.singleton_append]

-- A carriage return cuts it.
theorem read_start_return {text : List Char} (h : Plain text) (rest : List Char) :
    (read .start (text ++ '\r' :: rest)).field = text := by
  have hends : EndsField ('\r' :: rest) := by simp [EndsField]
  have hfield : (read .start ('\r' :: rest)).field = [] := by
    rw [read_return (by simp)]
    rfl
  rw [read_start_text h hends, Reading.prepend, hfield, List.append_nil]

def doubleQuotes (text : List Char) : List Char := text.flatMap fun c => if c = '"' then ['"', '"'] else [c]

theorem read_quoted_text (text rest : List Char) :
    read .quoted (doubleQuotes text ++ '"' :: rest) = (read .closed rest).prepend text := by
  induction text with
  | nil => rfl
  | cons c text ih =>
    by_cases hc : c = '"'
    · subst hc
      have hread : read .quoted (doubleQuotes ('"' :: text) ++ '"' :: rest)
          = (read .quoted (doubleQuotes text ++ '"' :: rest)).prepend ['"'] := rfl
      rw [hread, ih, prepend_prepend, List.singleton_append]
    · have hcons : doubleQuotes (c :: text) = c :: doubleQuotes text := by simp [doubleQuotes, hc]
      rw [hcons, List.cons_append, read_quoted_of_ne hc, ih, prepend_prepend, List.singleton_append]

-- A quoted field is read back whatever it holds.
theorem read_start_quoted (text : List Char) {rest : List Char} (hrest : EndsField rest) :
    read .start ('"' :: doubleQuotes text ++ '"' :: rest) = (read .start rest).prepend text := by
  rw [List.cons_append, read_start_quote, read_quoted_text, read_of_endsField (.inr rfl) hrest]

section Write

variable {write : List Char → List Char} {Good : List Char → Prop}

-- A writer of fields that the reader gets back where they are good, and not where they are not.
structure Writer (write : List Char → List Char) (Good : List Char → Prop) : Prop where
  kept : ∀ text, Good text → ∀ rest, EndsField rest →
    read .start (write text ++ rest) = (read .start rest).prepend text
  lost : ∀ text, ¬ Good text → ∀ rest, (read .start (write text ++ rest)).field ≠ text

def writeRecord (write : List Char → List Char) (record : List (List Char)) : List Char :=
  [','].intercalate (record.map write)

def writeRecords (write : List Char → List Char) (records : List (List (List Char))) : List Char :=
  ['\n'].intercalate (records.map (writeRecord write))

theorem writeRecord_cons_cons (write : List Char → List Char) (field next : List Char)
    (fields : List (List Char)) :
    writeRecord write (field :: next :: fields)
      = write field ++ ',' :: writeRecord write (next :: fields) := by
  simp [writeRecord]

-- What follows a record: nothing, or a line feed.
def EndsRecord (rest : List Char) : Prop := ∀ c ∈ rest.head?, c = '\n'

theorem EndsRecord.endsField {rest : List Char} (h : EndsRecord rest) : EndsField rest :=
  fun c hc => .inr (.inl (h c hc))

theorem read_endsRecord {rest : List Char} (h : EndsRecord rest) :
    (read .start rest).field = [] ∧ (read .start rest).fields = [] := by
  cases rest with
  | nil => exact ⟨rfl, rfl⟩
  | cons c rest =>
    obtain rfl := h c rfl
    exact ⟨rfl, rfl⟩

theorem read_record_iff (writer : Writer write Good) {rest : List Char} (hrest : EndsRecord rest)
    (records : List (List (List Char))) (record : List (List Char)) (hne : record ≠ []) :
    (read .start (writeRecord write record ++ rest)).toRecords = record :: records
      ↔ (∀ field ∈ record, Good field) ∧ (read .start rest).records = records := by
  obtain ⟨hfield, hfields⟩ := read_endsRecord hrest
  induction record with
  | nil => exact absurd rfl hne
  | cons field record ih =>
    by_cases hgood : Good field
    · cases record with
      | nil =>
        have hread := writer.kept field hgood rest hrest.endsField
        simp [writeRecord, hread, Reading.toRecords, Reading.prepend, hfield, hfields, hgood]
      | cons next record =>
        have hends : EndsField (',' :: (writeRecord write (next :: record) ++ rest)) := by simp [EndsField]
        have hread := writer.kept field hgood _ hends
        rw [writeRecord_cons_cons, List.append_assoc, List.cons_append, hread, List.forall_mem_cons,
          and_assoc, ← ih (by simp)]
        simp [Reading.toRecords, Reading.prepend, Reading.nextField, read_start_separator, hgood]
    · have hlost : ∀ rest, (read .start (write field ++ rest)).field ≠ field := writer.lost field hgood
      refine iff_of_false (fun h => ?_) (fun h => hgood (h.1 field (by simp)))
      have hhead := (List.cons.inj (List.cons.inj h).1).1
      cases record with
      | nil => exact hlost rest (by simpa [writeRecord] using hhead)
      | cons next record =>
        rw [writeRecord_cons_cons, List.append_assoc] at hhead
        exact hlost _ hhead

theorem writeRecord_ne_nil {record : List (List Char)} (h : 2 ≤ record.length) :
    writeRecord write record ≠ [] := by
  cases record with
  | nil => simp at h
  | cons field record =>
    cases record with
    | nil => simp at h
    | cons next record => simp [writeRecord_cons_cons]

theorem readRecords_iff (writer : Writer write Good) (records : List (List (List Char)))
    (hwide : ∀ record ∈ records, 2 ≤ record.length) :
    readRecords (writeRecords write records) = records
      ↔ ∀ record ∈ records, ∀ field ∈ record, Good field := by
  induction records with
  | nil => simp [writeRecords, readRecords]
  | cons record records ih =>
    obtain ⟨hrecord, hrecords⟩ := List.forall_mem_cons.mp hwide
    have hwritten : writeRecord write record ≠ [] := writeRecord_ne_nil hrecord
    have hne : record ≠ [] := by rintro rfl; simp at hrecord
    rw [List.forall_mem_cons, ← ih hrecords]
    cases records with
    | nil =>
      have hends : EndsRecord [] := by simp [EndsRecord]
      have hread := read_record_iff writer hends [] record hne
      simpa [writeRecords, readRecords, hwritten, read_nil] using hread
    | cons next records =>
      have hends : EndsRecord ('\n' :: writeRecords write (next :: records)) := by simp [EndsRecord]
      have hread := read_record_iff writer hends (next :: records) record hne
      have hsplit : writeRecords write (record :: next :: records)
          = writeRecord write record ++ '\n' :: writeRecords write (next :: records) := by
        simp [writeRecords]
      rw [hsplit, readRecords, if_neg (by simp [hwritten]), hread]
      rfl

end Write

end CloudOps.Csv
