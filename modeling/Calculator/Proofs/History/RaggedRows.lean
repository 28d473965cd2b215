import Calculator.Proofs.Csv.Lines
import Calculator.Proofs.History.Columns

/-!
The line at which a row of another length than the header is reported. It is the number of the row among
the records, and so the line on which the row starts only where each record before it takes up one line
and no line between them is blank.
-/

namespace Calculator.History

open Csv (Record StartsAfter lineEnds blankLines fieldEnds isBreak)

variable {header row : Record} {rows : List Record} {text : String}

/-- Rows of the length of the header are read. -/
theorem readRows_even {width : Nat} (indexes : List Nat) (h : ∀ row ∈ rows, row.length = width)
    (line : Nat) : readRows width indexes line rows = .ok (rows.map (entryAt indexes)) := by
  induction rows generalizing line with
  | nil => rfl
  | cons row rows ih =>
    have hrow : ¬row.length ≠ width := not_not.mpr (h row List.mem_cons_self)
    rw [readRows, if_neg hrow, ih fun other ho => h other (List.mem_cons_of_mem row ho)]
    rfl

/-- Reading rows fails only at the first of another length. -/
theorem readRows_eq_error {width line : Nat} {indexes : List Nat} {e : SheetError}
    (h : readRows width indexes line rows = .error e) :
    ∃ good ragged rest, rows = good ++ ragged :: rest ∧ (∀ row ∈ good, row.length = width) ∧
      ragged.length ≠ width ∧
      e = .malformed ⟨line + good.length, s!"expected {width} fields, found {ragged.length}"⟩ := by
  by_cases hall : ∀ row ∈ rows, row.length = width
  · rw [readRows_even indexes hall] at h
    cases h
  · push Not at hall
    obtain ⟨row, hm, hr⟩ := hall
    obtain ⟨good, ragged, rest, rfl, hgood, hragged⟩ := exists_first_ragged hm hr
    rw [readRows_ragged indexes hgood hragged] at h
    cases h
    exact ⟨good, ragged, rest, rfl, hgood, hragged, rfl⟩

/-- What is wrong with a header is a column that it does not name. -/
theorem columnIndexes_eq_error {e : SheetError} (h : columnIndexes header = .error e) :
    ∃ column, e = .missingColumn column := by
  cases hf : columns.find? (¬Named header ·) with
  | none =>
    have hnamed : ∀ column ∈ columns, Named header column := by simpa using hf
    rw [columnIndexes_of_named hnamed] at h
    cases h
  | some column =>
    rw [columnIndexes_of_missing hf] at h
    cases h
    exact ⟨column, rfl⟩

/-- Records are refused as malformed only for a row of another length than the header. -/
theorem decodeRecords_eq_malformed {records : List Record} {e : Csv.ReadError}
    (h : decodeRecords records = .error (.malformed e)) :
    ∃ header good ragged rest, records = (header :: good) ++ ragged :: rest ∧
      (∀ row ∈ good, row.length = header.length) ∧ ragged.length ≠ header.length ∧
      e = ⟨good.length + 2, s!"expected {header.length} fields, found {ragged.length}"⟩ := by
  cases records with
  | nil => cases h
  | cons header rows =>
    cases hi : columnIndexes header with
    | error e =>
      obtain ⟨column, rfl⟩ := columnIndexes_eq_error hi
      rw [decodeRecords, hi] at h
      cases h
    | ok indexes =>
      rw [decodeRecords, hi] at h
      obtain ⟨good, ragged, rest, rfl, hgood, hragged, he⟩ := readRows_eq_error h
      cases he
      exact ⟨header, good, ragged, rest, rfl, hgood, hragged, by rw [Nat.add_comm]⟩

/-- A row of another length than the header is reported at its number among the records. The line on
which it starts, at the one place of the text that has the records before it, is further down by the blank
lines before it and by the lines that end within fields before it. So the report is right exactly where
there are none of these. -/
theorem load_ragged_row {history : History} {files : Files.Tree} {path? : Option String}
    {records : List Record} {e : Csv.ReadError}
    (hf : files.find (path?.getD history.defaultPath) = .ok (.file text.toUTF8))
    (hr : Csv.read text = .ok records)
    (hl : history.load files path? = .error (.sheet (.malformed e))) :
    ∃ header good ragged rest, records = (header :: good) ++ ragged :: rest ∧
      (∀ row ∈ good, row.length = header.length) ∧ ragged.length ≠ header.length ∧
      e.reason = s!"expected {header.length} fields, found {ragged.length}" ∧
      e.line = good.length + 2 ∧
      ∃ before, StartsAfter text (header :: good) before ∧
        (∀ other, StartsAfter text (header :: good) other → other = before) ∧
        lineEnds before + 1 =
          e.line + blankLines before + ((header :: good).map fieldEnds).sum ∧
        (e.line = lineEnds before + 1 ↔ blankLines before = 0 ∧
          ∀ record ∈ header :: good, ∀ field ∈ record, ∀ c ∈ field.toList, isBreak c = false) := by
  have hd : decodeRecords records = .error (.malformed e) := by
    have hdecode : decode text = decodeRecords records := by rw [decode, hr]
    rw [load_eq, loadEntries_of_find hf, hdecode] at hl
    cases hd : decodeRecords records with
    | ok entries =>
      rw [hd] at hl
      cases hl
    | error other =>
      rw [hd] at hl
      cases hl
      rfl
  obtain ⟨header, good, ragged, rest, rfl, hgood, hragged, rfl⟩ := decodeRecords_eq_malformed hd
  have hn : (header :: good).length < ((header :: good) ++ ragged :: rest).length := by simp
  obtain ⟨before, hstarts⟩ := Csv.exists_startsAfter hr hn
  rw [List.take_left] at hstarts
  have hends := hstarts.lineEnds_eq
  have hwithin : ((header :: good).map fieldEnds).sum = 0 ↔
      ∀ record ∈ header :: good, ∀ field ∈ record, ∀ c ∈ field.toList, isBreak c = false := by
    rw [List.sum_eq_zero_iff_forall_eq_nat, List.forall_mem_map]
    exact forall₂_congr fun record _ => Csv.fieldEnds_eq_zero_iff record
  rw [List.length_cons] at hends
  refine ⟨header, good, ragged, rest, rfl, hgood, hragged, rfl, rfl, before, hstarts,
    fun other ho => ho.unique hstarts, ?_, ?_⟩
  · dsimp only
    omega
  · rw [← hwithin]
    dsimp only
    omega

/-- A file with a text. -/
def textFiles (text : String) : Files.Tree := { items := [(["h.csv"], .file text.toUTF8)] }

theorem find_textFiles (text : String) :
    (textFiles text).find "h.csv" = .ok (.file text.toUTF8) := by
  rfl

theorem load_textFiles {records : List Record} (h : Csv.read text = .ok records) (entries : List Entry) :
    let history : History := { entries := entries, defaultPath := "h.csv" }
    history.load (textFiles text) none = ((decodeRecords records).mapError .sheet).map fun entries =>
      ("h.csv", { history with entries := entries }) := by
  intro history
  have hdecode : decode text = decodeRecords records := by rw [decode, h]
  rw [← hdecode, ← loadEntries_of_find (find_textFiles text)]
  rfl

/-- A row that is too short, after two blank lines and a field that goes over two lines. -/
def brokenText : String := "timestamp,operation,inputs,result\r\n\n1,\"a\nb\",c,d\r\r\nx\n"

theorem read_brokenText : Csv.read brokenText = .ok [columns, ["1", "a\nb", "c", "d"], ["x"]] := rfl

/-- The row is on the sixth line, and reported at the third. -/
theorem load_brokenText :
    ∃ e, { defaultPath := "h.csv" : History }.load (textFiles brokenText) none =
        .error (.sheet (.malformed e)) ∧ e.line = 3 ∧
      ∃ before, StartsAfter brokenText [columns, ["1", "a\nb", "c", "d"]] before ∧
        lineEnds before + 1 = 6 ∧ blankLines before = 2 := by
  have hl := load_textFiles read_brokenText []
  obtain ⟨header, good, ragged, rest, hrecords, -, hragged, -, -, before, hstarts, hunique, hlines, -⟩ :=
    load_ragged_row (find_textFiles brokenText) read_brokenText hl
  obtain ⟨rfl, rfl⟩ : columns = header ∧ [["1", "a\nb", "c", "d"]] = good := by
    obtain ⟨rfl, hrest⟩ := List.cons.inj hrecords
    match good with
    | [] =>
      obtain ⟨rfl, -⟩ := List.cons.inj hrest
      exact absurd rfl hragged
    | first :: [] =>
      obtain ⟨rfl, -⟩ := List.cons.inj hrest
      exact ⟨rfl, rfl⟩
    | first :: second :: good => simp at hrest
  have hplace : StartsAfter brokenText [columns, ["1", "a\nb", "c", "d"]]
      "timestamp,operation,inputs,result\r\n\n1,\"a\nb\",c,d\r\r\n".toList :=
    ⟨rfl, by decide, 'x', ['\n'], by decide, rfl⟩
  have hends : lineEnds before + 1 = 6 := by
    rw [← hunique _ hplace]
    decide
  have hwithin : ([columns, ["1", "a\nb", "c", "d"]].map fieldEnds).sum = 1 := by decide
  rw [hwithin] at hlines
  refine ⟨_, hl, rfl, before, hstarts, hends, ?_⟩
  dsimp only at hlines
  omega

/-- A blank line is not counted in the line of a row. -/
theorem blank_line_is_not_counted : ¬∀ (history : History) (files : Files.Tree)
    (path? : Option String) (text : String) (e : Csv.ReadError) (header ragged : Record)
    (good rest : List Record) (before : List Char),
    files.find (path?.getD history.defaultPath) = .ok (.file text.toUTF8) →
    Csv.read text = .ok ((header :: good) ++ ragged :: rest) →
    (∀ row ∈ good, row.length = header.length) → ragged.length ≠ header.length →
    history.load files path? = .error (.sheet (.malformed e)) →
    StartsAfter text (header :: good) before → e.line = lineEnds before + 1 := by
  intro hall
  have hr : Csv.read "timestamp,operation,inputs,result\n\na,b,c\n" =
      .ok [columns, ["a", "b", "c"]] := rfl
  have hl := load_textFiles hr []
  have hstarts : StartsAfter "timestamp,operation,inputs,result\n\na,b,c\n" [columns]
      "timestamp,operation,inputs,result\n\n".toList :=
    ⟨rfl, by decide, 'a', ",b,c\n".toList, by decide, rfl⟩
  have hline := hall _ _ none _ ⟨2, "expected 4 fields, found 3"⟩ columns ["a", "b", "c"] [] [] _
    (find_textFiles _) hr (by simp) (by decide) hl hstarts
  revert hline
  decide

end Calculator.History
