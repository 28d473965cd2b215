import Mathlib.Data.List.Forall2
import Mathlib.Data.List.GetD
import Mathlib.Data.List.Nodup
import Mathlib.Data.List.Perm.Subperm
import Calculator.Proofs.History.Persistence
import Calculator.Proofs.Session.Lines

/-!
Loading goes by the names in a header: columns may stand in any order, with blanks around their names
and with other columns between them. A load that fails changes nothing.
-/

namespace Calculator.History

open Csv (Record isBlankRecord)

/-- Whether a header names a column, blanks around the name aside. -/
def Named (header : Record) (column : String) : Prop :=
  ∃ name ∈ header, Text.trim name.toList = column.toList

instance (header : Record) (column : String) : Decidable (Named header column) :=
  inferInstanceAs (Decidable (∃ name ∈ header, Text.trim name.toList = column.toList))

/-- A row that holds the fields of an entry under the names of their columns, and anything under
other names. -/
structure Arranged (header : Record) (entry : Entry) (row : Record) : Prop where
  length_eq : row.length = header.length
  cell_eq : ∀ cell ∈ header.zip row, ∀ field ∈ columns.zip entry.fields,
    Text.trim cell.1.toList = field.1.toList → cell.2 = field.2

/-- The first place in a header where a column is named. -/
def place (header : Record) (column : String) : Nat :=
  header.findIdx fun name => Text.trim name.toList == column.toList

variable {header row : Record} {column other : String} {entry : Entry} {entries : List Entry}

theorem place_lt (h : Named header column) : place header column < header.length := by
  obtain ⟨name, hm, hn⟩ := h
  exact List.findIdx_lt_length_of_exists ⟨name, hm, by simpa using hn⟩

theorem trim_getElem_place (h : place header column < header.length) :
    Text.trim (header[place header column]).toList = column.toList := by
  have hp : (Text.trim (header[place header column]).toList == column.toList) = true :=
    List.findIdx_getElem (w := h)
  exact beq_iff_eq.mp hp

theorem columnIndex?_of_named (h : Named header column) :
    columnIndex? header column = some (place header column) :=
  List.findIdx?_eq_some_iff_findIdx_eq.mpr ⟨place_lt h, rfl⟩

theorem columnIndex?_of_not_named (h : ¬Named header column) : columnIndex? header column = none := by
  rw [columnIndex?, List.findIdx?_eq_none_iff]
  intro name hm
  have hn : Text.trim name.toList ≠ column.toList := fun he => h ⟨name, hm, he⟩
  simpa using hn

/-- A place of a header names one column. -/
theorem eq_of_place_eq (hc : Named header column) (ho : Named header other)
    (h : place header column = place header other) : column = other := by
  have hcolumn := trim_getElem_place (place_lt hc)
  have hother := trim_getElem_place (place_lt ho)
  simp only [h] at hcolumn
  exact String.toList_inj.mp (hcolumn.symm.trans hother)

/-- The fields of an entry are taken from different places, all of them within the row. -/
theorem places_of_named (h : ∀ column ∈ columns, Named header column) :
    (columns.map (place header)).Nodup ∧
      ∀ index ∈ columns.map (place header), index < header.length := by
  constructor
  · have hn : columns.Nodup := by decide
    refine hn.map_on ?_
    intro column hc other ho he
    exact eq_of_place_eq (h column hc) (h other ho) he
  · intro index hi
    obtain ⟨column, hc, rfl⟩ := List.mem_map.mp hi
    exact place_lt (h column hc)

theorem mapM_eq_ok {α β ε : Type} {f : α → Except ε β} {g : α → β} {xs : List α}
    (h : ∀ x ∈ xs, f x = .ok (g x)) : xs.mapM f = .ok (xs.map g) := by
  induction xs with
  | nil => rfl
  | cons x xs ih =>
    rw [List.mapM_cons, h x List.mem_cons_self, ih fun y hy => h y (List.mem_cons_of_mem x hy)]
    rfl

/-- The first error is the one that is left. -/
theorem mapM_append_eq_error {α β ε : Type} {f : α → Except ε β} {g : α → β} {before : List α}
    {x : α} {e : ε} (h : ∀ y ∈ before, f y = .ok (g y)) (hx : f x = .error e) (after : List α) :
    (before ++ x :: after).mapM f = .error e := by
  rw [List.mapM_append, mapM_eq_ok h, List.mapM_cons, hx]
  rfl

theorem columnIndexes_of_named (h : ∀ column ∈ columns, Named header column) :
    columnIndexes header = .ok (columns.map (place header)) := by
  refine mapM_eq_ok ?_
  intro column hc
  rw [columnIndex?_of_named (h column hc)]

/-- The first of the columns that is not named is reported. -/
theorem columnIndexes_of_missing (h : columns.find? (¬Named header ·) = some column) :
    columnIndexes header = .error (.missingColumn column) := by
  obtain ⟨hc, before, after, hs, hb⟩ := List.find?_eq_some_iff_append.mp h
  have hcolumn : ¬Named header column := by simpa using hc
  have hbefore : ∀ other ∈ before, Named header other := by simpa using hb
  rw [columnIndexes, hs]
  refine mapM_append_eq_error (g := place header) ?_ ?_ after
  · intro other ho
    rw [columnIndex?_of_named (hbefore other ho)]
  · rw [columnIndex?_of_not_named hcolumn]

/-- A header with all columns has a field for each of them. -/
theorem length_columns_le_of_named (h : ∀ column ∈ columns, Named header column) :
    columns.length ≤ header.length := by
  obtain ⟨hdistinct, hwithin⟩ := places_of_named h
  have hs : columns.map (place header) ⊆ List.range header.length := by
    intro index hi
    exact List.mem_range.mpr (hwithin index hi)
  have hl := (hdistinct.subperm hs).length_le
  rwa [List.length_map, List.length_range] at hl

theorem isBlankRecord_of_length {record : Record} (h : columns.length ≤ record.length) :
    isBlankRecord record = false := by
  match record with
  | _ :: _ :: _ => simp [isBlankRecord]
  | [] | [_] => simp [columns] at h

namespace Arranged

theorem getD_place (h : Arranged header entry row) {field : String × String}
    (hf : field ∈ columns.zip entry.fields) (hn : Named header field.1) :
    row.getD (place header field.1) "" = field.2 := by
  have hlt := place_lt hn
  have hrow : place header field.1 < row.length := h.length_eq ▸ hlt
  have hzip : place header field.1 < (header.zip row).length := by
    rw [List.length_zip]
    exact Nat.lt_min.mpr ⟨hlt, hrow⟩
  have hm : (header[place header field.1], row[place header field.1]) ∈ header.zip row :=
    List.mem_iff_getElem.mpr ⟨_, hzip, List.getElem_zip⟩
  rw [List.getD_eq_getElem _ _ hrow]
  exact h.cell_eq _ hm field hf (trim_getElem_place hlt)

theorem entryAt_eq (h : Arranged header entry row) (hn : ∀ column ∈ columns, Named header column) :
    entryAt (columns.map (place header)) row = entry := by
  have hfields : (columns.zip entry.fields).map (fun field => row.getD (place header field.1) "") =
      (columns.zip entry.fields).map Prod.snd :=
    List.map_congr_left fun field hf => h.getD_place hf (hn _ (List.of_mem_zip hf).1)
  have hcells : (columns.map (place header)).map (row.getD · "") = entry.fields := hfields
  rw [entryAt, hcells]
  rfl

end Arranged

theorem readRows_arranged {rows : List Record} (h : List.Forall₂ (Arranged header) entries rows)
    (hn : ∀ column ∈ columns, Named header column) (line : Nat) :
    readRows header.length (columns.map (place header)) line rows = .ok entries := by
  induction h generalizing line with
  | nil => rfl
  | @cons entry row entries rows hrow _ ih =>
    rw [readRows, if_neg (not_not.mpr hrow.length_eq), ih, hrow.entryAt_eq hn]
    rfl

/-- The first row of another length than the header is reported with its line. -/
theorem readRows_ragged {width : Nat} {before : List Record} (indexes : List Nat)
    (h : ∀ row ∈ before, row.length = width) (hr : row.length ≠ width) (after : List Record)
    (line : Nat) :
    readRows width indexes line (before ++ row :: after) =
      .error (.malformed ⟨line + before.length, s!"expected {width} fields, found {row.length}"⟩) := by
  induction before generalizing line with
  | nil => rw [List.nil_append, readRows, if_pos hr, List.length_nil, Nat.add_zero]
  | cons first before ih =>
    have hfirst : ¬first.length ≠ width := not_not.mpr (h first List.mem_cons_self)
    have hrest := ih (fun other ho => h other (List.mem_cons_of_mem first ho)) (line + 1)
    rw [List.cons_append, readRows, if_neg hfirst, hrest, List.length_cons, Nat.add_assoc,
      Nat.add_comm 1]
    rfl

theorem exists_first_ragged {width : Nat} {rows : List Record} (hm : row ∈ rows)
    (hr : row.length ≠ width) : ∃ before ragged after, rows = before ++ ragged :: after ∧
      (∀ other ∈ before, other.length = width) ∧ ragged.length ≠ width := by
  cases hf : rows.find? (·.length ≠ width) with
  | none =>
    have hall := List.find?_eq_none.mp hf row hm
    simp [hr] at hall
  | some ragged =>
    obtain ⟨hne, before, after, rfl, hb⟩ := List.find?_eq_some_iff_append.mp hf
    exact ⟨before, ragged, after, rfl, by simpa using hb, by simpa using hne⟩

theorem exists_readRows_ragged {width : Nat} {rows : List Record} (indexes : List Nat)
    (hm : row ∈ rows) (hr : row.length ≠ width) (start : Nat) :
    ∃ line : Nat, ∃ ragged ∈ rows, ragged.length ≠ width ∧ readRows width indexes start rows =
      .error (.malformed ⟨line, s!"expected {width} fields, found {ragged.length}"⟩) := by
  obtain ⟨before, ragged, after, rfl, hbefore, hragged⟩ := exists_first_ragged hm hr
  exact ⟨start + before.length, ragged, by simp, hragged,
    readRows_ragged indexes hbefore hragged after start⟩

/-- A text with a header is read by the header and the rows that are not blank. -/
theorem decode_write (hb : isBlankRecord header = false) (rows : List Record) :
    decode (Csv.write (header :: rows)) =
      (columnIndexes header).bind fun indexes =>
        readRows header.length indexes 2 (rows.filter (!isBlankRecord ·)) := by
  have hk : Csv.kept header = [header] := by simp [Csv.kept, hb]
  rw [decode, Csv.read_write, List.flatMap_cons, hk, Csv.flatMap_kept]
  rfl

theorem length_of_arranged {rows : List Record} (h : List.Forall₂ (Arranged header) entries rows) :
    ∀ row ∈ rows, row.length = header.length := by
  induction h with
  | nil => simp
  | @cons entry row entries rows hrow _ ih =>
    intro other ho
    rcases List.mem_cons.mp ho with rfl | ho
    · exact hrow.length_eq
    · exact ih other ho

theorem decode_arranged {rows : List Record} (hn : ∀ column ∈ columns, Named header column)
    (h : List.Forall₂ (Arranged header) entries rows) :
    decode (Csv.write (header :: rows)) = .ok entries := by
  have hheader := length_columns_le_of_named hn
  have hrows : rows.filter (!isBlankRecord ·) = rows := by
    refine List.filter_eq_self.mpr ?_
    intro row hm
    have hlength := length_of_arranged h row hm
    rw [isBlankRecord_of_length (hlength ▸ hheader), Bool.not_false]
  rw [decode_write (isBlankRecord_of_length hheader), columnIndexes_of_named hn, hrows]
  exact readRows_arranged h hn 2

theorem decode_missing (hb : isBlankRecord header = false) (rows : List Record)
    (h : columns.find? (¬Named header ·) = some column) :
    decode (Csv.write (header :: rows)) = .error (.missingColumn column) := by
  rw [decode_write hb, columnIndexes_of_missing h]
  rfl

theorem decode_ragged {rows : List Record} (hn : ∀ column ∈ columns, Named header column)
    (hm : row ∈ rows) (hb : isBlankRecord row = false) (hr : row.length ≠ header.length) :
    ∃ line : Nat, ∃ ragged ∈ rows, ragged.length ≠ header.length ∧
      decode (Csv.write (header :: rows)) = .error (.malformed
        ⟨line, s!"expected {header.length} fields, found {ragged.length}"⟩) := by
  have hkept : row ∈ rows.filter (!isBlankRecord ·) := List.mem_filter.mpr ⟨hm, by simp [hb]⟩
  obtain ⟨line, ragged, hragged, hne, he⟩ :=
    exists_readRows_ragged (columns.map (place header)) hkept hr 2
  refine ⟨line, ragged, (List.mem_filter.mp hragged).1, hne, ?_⟩
  rw [decode_write (isBlankRecord_of_length (length_columns_le_of_named hn)),
    columnIndexes_of_named hn]
  exact he

/-- The history after a load: the loaded one, or the one before if nothing can be loaded. -/
def afterLoad (history : History) (files : Files.Tree) (path? : Option String) : History :=
  match history.load files path? with
  | .ok (_, loaded) => loaded
  | .error _ => history

end Calculator.History

namespace Calculator.Command

theorem get?_load {dispatcher : Dispatcher} {name : String} (h : name ∈ spellings "load") :
    dispatcher.addStandard.commands.get? name = some Recorded.load := by
  simp only [spellings, List.mem_cons, List.not_mem_nil, or_false] at h
  have hm : ("load", Recorded.load) ∈ historyVerbs := by simp [historyVerbs]
  rcases h with rfl | rfl
  · exact (Dispatcher.get?_historyVerb hm).1
  · exact (Dispatcher.get?_historyVerb hm).2

theorem Recorded.history_loadFrom (path? : Option String) (desk : Desk) :
    (loadFrom path? desk).2.history = desk.history.afterLoad desk.files path? := by
  unfold loadFrom History.afterLoad
  cases desk.history.load desk.files path? with
  | ok loaded => rfl
  | error e => cases e <;> rfl

/-- A path at which nothing is found is not loaded from, which is no other than a load that fails. -/
theorem afterLoad_of_not_exists {files : Files.Tree} {path : String} (h : files.exists? path = false)
    (history : History) : history.afterLoad files (some path) = history := by
  have he : history.load files (some path) = .error (.notFound path) := by
    simp [History.load, History.loadEntries, h, Except.map]
  rw [History.afterLoad, he]

theorem history_run_load {dispatcher : Dispatcher} {name : String}
    (hc : dispatcher.commands.get? name = some Recorded.load) (policy : Policy) (args : List String)
    (state : State) :
    (dispatcher.run policy name args state).2.desk.history =
      state.desk.history.afterLoad state.desk.files (Recorded.sheetPath? args) := by
  obtain ⟨view, -, -, hh, -⟩ := Dispatcher.run_plain hc policy args state
  rw [hh]
  cases hp : Recorded.sheetPath? args with
  | none => exact Recorded.history_loadFrom none _
  | some path =>
    dsimp only
    split
    · exact Recorded.history_loadFrom (some path) _
    next hn => exact (afterLoad_of_not_exists (by simpa using hn) _).symm

end Calculator.Command

namespace Calculator

theorem Session.history_loadDefault (session : Session) :
    session.loadDefault.history = session.history.afterLoad session.files none := by
  unfold loadDefault History.afterLoad
  cases session.history.load session.files none with
  | ok loaded => rfl
  | error e => cases e <;> rfl

namespace History

open Csv (Record isBlankRecord)
open Command (Policy State spellings)

/-- Loading goes by the names of the columns, in whatever order they stand. A column that is not named
and a row of another length are reported. Commands and sessions keep their history when a load fails. -/
theorem load_by_column_names :
    (∀ (history : History) (files : Files.Tree) (path? : Option String) (header : Record)
      (rows : List Record),
      let path := path?.getD history.defaultPath
      files.find path = .ok (.file (Csv.write (header :: rows)).toUTF8) →
      ((∀ column ∈ columns, Named header column) →
        (∀ entries, List.Forall₂ (Arranged header) entries rows →
          history.load files path? = .ok (path, { history with entries := entries })) ∧
        ∀ row ∈ rows, isBlankRecord row = false → row.length ≠ header.length →
          ∃ line : Nat, ∃ ragged ∈ rows, ragged.length ≠ header.length ∧
            history.load files path? = .error (.sheet (.malformed
              ⟨line, s!"expected {header.length} fields, found {ragged.length}"⟩))) ∧
      ∀ column, isBlankRecord header = false → columns.find? (¬Named header ·) = some column →
        history.load files path? = .error (.sheet (.missingColumn column))) ∧
    (∀ session : Session,
      session.loadDefault.history = session.history.afterLoad session.files none) ∧
    ∀ (environment : Settings.Environment) (host : Command.Host) (policy : Policy)
      (args : List String) (state : State), ∀ name ∈ spellings "load",
      ((Session.dispatcherIn environment host).run policy name args state).2.desk.history =
        state.desk.history.afterLoad state.desk.files (Command.Recorded.sheetPath? args) := by
  refine ⟨?_, Session.history_loadDefault, ?_⟩
  · intro history files path? header rows path hf
    have hload : history.load files path? = ((decode (Csv.write (header :: rows))).mapError
        .sheet).map fun entries => (path, { history with entries := entries }) := by
      rw [load_eq, loadEntries_of_find hf]
    refine ⟨fun hn => ⟨fun entries hrows => ?_, fun row hm hb hr => ?_⟩, fun column hb hmissing => ?_⟩
    · rw [hload, decode_arranged hn hrows]
      rfl
    · obtain ⟨line, ragged, hragged, hne, he⟩ := decode_ragged hn hm hb hr
      refine ⟨line, ragged, hragged, hne, ?_⟩
      rw [hload, he]
      rfl
    · rw [hload, decode_missing hb rows hmissing]
      rfl
  · intro environment host policy args state name hname
    exact Command.history_run_load (Command.get?_load hname) policy args state

/-- A header with the columns in another order, blanks around two of them, and two columns of no
meaning. -/
def shuffledHeader : Record := [" result", "", "timestamp\t", "note", "operation", "inputs"]

def sheetFiles (records : List Record) : Files.Tree :=
  { items := [(["h.csv"], .file (Csv.write records).toUTF8)] }

theorem find_sheetFiles (records : List Record) :
    (sheetFiles records).find "h.csv" = .ok (.file (Csv.write records).toUTF8) := by
  rfl

/-- Odd fields are found under a shuffled header. Two broken sheets are not loaded, and a command that
is to load one leaves the history as it is. -/
theorem load_shuffled_columns :
    let history : History := { entries := [⟨"t", "add", "1 2", "3.0"⟩], defaultPath := "h.csv" }
    let row := [" ", "x,y", "", "\n", "a,\"", "\r\n"]
    let ragged := sheetFiles [shuffledHeader, row, [], ["1", "2"]]
    let state : State := { desk := { history := history, files := ragged }, clock := .still 2 0 }
    history.load (sheetFiles [shuffledHeader, row]) none =
        .ok ("h.csv", { history with entries := [⟨"", "a,\"", "\r\n", " "⟩] }) ∧
      (∃ e, history.load ragged none = .error (.sheet (.malformed e))) ∧
      ((Session.dispatcherIn {} ⟨"", "", "", "", ""⟩).run .unchecked "historyload" []
        state).2.desk.history = history ∧
      history.load (sheetFiles [["operation", "note", "timestamp "], ["a", "b"]]) none =
        .error (.sheet (.missingColumn "inputs")) := by
  intro history row ragged state
  have hn : ∀ column ∈ columns, Named shuffledHeader column := by decide
  have hrow : Arranged shuffledHeader ⟨"", "a,\"", "\r\n", " "⟩ row := ⟨rfl, by decide⟩
  have hloads := (load_by_column_names.1 history (sheetFiles [shuffledHeader, row]) none
    shuffledHeader [row] (find_sheetFiles _)).1 hn
  have hbroken := (load_by_column_names.1 history ragged none shuffledHeader
    [row, [], ["1", "2"]] (find_sheetFiles _)).1 hn
  have hmissing := (load_by_column_names.1 history
    (sheetFiles [["operation", "note", "timestamp "], ["a", "b"]]) none
    ["operation", "note", "timestamp "] [["a", "b"]] (find_sheetFiles _)).2
  have hcommand := load_by_column_names.2.2 {} ⟨"", "", "", "", ""⟩ .unchecked [] state "historyload"
    (by decide)
  obtain ⟨line, found, -, -, he⟩ := hbroken.2 ["1", "2"] (by simp) rfl (by decide)
  have hkept : history.afterLoad ragged none = history := by rw [afterLoad, he]
  exact ⟨hloads.1 _ (.cons hrow .nil), ⟨_, he⟩, hcommand.trans hkept, hmissing "inputs" rfl (by decide)⟩

end History

end Calculator
