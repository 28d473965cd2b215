import Calculator.Proofs.Command.Running
import Calculator.Proofs.Csv.ReadBack
import Calculator.Proofs.Files.Replacing

/-!
A history that has been saved is loaded as it was, whatever has happened to the table in between.
-/

namespace Calculator.History

open Files (Tree)

theorem columnIndexes_columns : columnIndexes columns = .ok [0, 1, 2, 3] := by
  rfl

theorem readRows_fields (line : Nat) (entries : List Entry) :
    readRows 4 [0, 1, 2, 3] line (entries.map Entry.fields) = .ok entries := by
  induction entries generalizing line with
  | nil => rfl
  | cons entry entries ih =>
    have hl : entry.fields.length = 4 := rfl
    have he : entryAt [0, 1, 2, 3] entry.fields = entry := rfl
    simp only [List.map_cons, readRows, hl, ih, he, ne_eq, not_true_eq_false, if_false]
    rfl

theorem flatMap_kept_fields (entries : List Entry) :
    (columns :: entries.map Entry.fields).flatMap Csv.kept = columns :: entries.map Entry.fields := by
  have hk : ∀ entry : Entry, Csv.kept entry.fields = [entry.fields] := fun _ => by
    simp [Csv.kept, Csv.isBlankRecord, Entry.fields]
  have hc : Csv.kept columns = [columns] := by decide
  have he : (entries.map Entry.fields).flatMap Csv.kept = entries.map Entry.fields := by
    rw [List.flatMap_map, List.map_eq_flatMap]
    simp only [hk]
  rw [List.flatMap_cons, hc, he, List.singleton_append]

/-- A table is read as it was written, whatever its fields hold. -/
theorem decode_encode (entries : List Entry) : decode (encode entries) = .ok entries := by
  have hr := Csv.read_write (columns :: entries.map Entry.fields)
  rw [flatMap_kept_fields] at hr
  simp only [decode, encode, hr, decodeRecords, columnIndexes_columns]
  exact readRows_fields 2 entries

theorem find_saveEntries {tree next : Tree} {path : String} {entries : List Entry}
    (h : saveEntries tree path entries = (.ok (), next)) :
    next.find path = .ok (.file (encode entries).toUTF8) := by
  unfold saveEntries at h
  split at h
  · cases h
  next made _ =>
    unfold replaceFile at h
    split at h
    · cases h
    next written hw =>
      split at h
      · cases h
      next renamed hr =>
        cases h
        exact Files.Tree.find_of_write_rename hw hr

/-- A file that holds a text is loaded as the text is read. -/
theorem loadEntries_of_find {tree : Tree} {path text : String}
    (h : tree.find path = .ok (.file text.toUTF8)) :
    loadEntries tree path = (decode text).mapError .sheet := by
  simp only [loadEntries, Files.Tree.exists?, h, Files.Tree.readText_of_find h]
  rfl

theorem loadEntries_saveEntries {tree next : Tree} {path : String} {entries : List Entry}
    (h : saveEntries tree path entries = (.ok (), next)) : loadEntries next path = .ok entries := by
  rw [loadEntries_of_find (find_saveEntries h), decode_encode]
  rfl

/-- What changes the table and touches no file. -/
inductive Edit where
  | add (entry : Entry)
  | delete (index : Nat)
  | clear

def edit (h : History) : Edit → History
  | .add entry => h.push entry
  | .delete index => ((h.delete? index).map Prod.snd).getD h
  | .clear => h.clear

def editAll (h : History) (edits : List Edit) : History := edits.foldl edit h

theorem defaultPath_edit (h : History) (e : Edit) : (h.edit e).defaultPath = h.defaultPath := by
  cases e with
  | add entry => rfl
  | clear => rfl
  | delete index =>
    simp only [edit, delete?]
    cases h.entries[index]? <;> rfl

theorem defaultPath_editAll (h : History) (edits : List Edit) :
    (h.editAll edits).defaultPath = h.defaultPath := by
  induction edits generalizing h with
  | nil => rfl
  | cons e edits ih => exact (ih (h.edit e)).trans (defaultPath_edit h e)

theorem save_eq_ok {h : History} {tree next : Tree} {path? : Option String} {path : String}
    (hs : h.save tree path? = (.ok path, next)) :
    path = path?.getD h.defaultPath ∧ saveEntries tree path h.entries = (.ok (), next) := by
  simp only [save] at hs
  split at hs
  next => cases hs
  next hw =>
    cases hs
    exact ⟨rfl, hw⟩

/-- Another table with the same default path loads what was saved. -/
theorem load_of_save {h other : History} {tree next : Tree} {path? : Option String} {path : String}
    (hs : h.save tree path? = (.ok path, next)) (hd : other.defaultPath = h.defaultPath) :
    other.load next path? = .ok (path, { other with entries := h.entries }) := by
  obtain ⟨rfl, hw⟩ := save_eq_ok hs
  simp only [load, hd, loadEntries_saveEntries hw]
  rfl

theorem exists?_of_load {h : History} {tree : Tree} {path : String} {loaded : String × History}
    (hl : h.load tree (some path) = .ok loaded) : tree.exists? path = true := by
  simp only [load, Option.getD_some, loadEntries] at hl
  cases he : tree.exists? path with
  | true => rfl
  | false =>
    rw [he] at hl
    cases hl

end Calculator.History

namespace Calculator.Command.Recorded

variable {dispatcher : Dispatcher}

/-- The only reply that names the file is the one to a save that succeeds. -/
theorem run_save_of_text (hc : dispatcher.commands.get? "history-save" = some save)
    {policy : Policy} {args : List String} {before : State} {path : String}
    (hne : before.desk.history.entries ≠ [])
    (ht : (dispatcher.run policy "history-save" args before).1.text = "History saved to " ++ path) :
    before.desk.history.save before.desk.files (sheetPath? args) =
        (.ok path, (dispatcher.run policy "history-save" args before).2.desk.files) ∧
      (dispatcher.run policy "history-save" args before).2.desk.history = before.desk.history := by
  obtain ⟨view, -, hr, hh, hf⟩ := Dispatcher.run_plain hc policy args before
  rw [hr] at ht
  rw [hh, hf]
  have he : before.desk.history.entries.isEmpty = false := by simpa using hne
  simp only [he, Bool.false_eq_true, if_false] at ht ⊢
  generalize before.desk.history.save before.desk.files (sheetPath? args) = outcome at ht ⊢
  obtain ⟨result, files⟩ := outcome
  cases result with
  | error e =>
    have hl := congrArg (·.toList.head?) ht
    simp [saved, Reply.ofOutcome] at hl
  | ok saved =>
    have hp : "History saved to " ++ saved = "History saved to " ++ path := ht
    obtain rfl : saved = path := by
      have hl := congrArg String.toList hp
      simp only [String.toList_append] at hl
      exact String.toList_inj.mp (List.append_cancel_left hl)
    exact ⟨rfl, rfl⟩

theorem run_load_of_ok (hc : dispatcher.commands.get? "history-load" = some load)
    (policy : Policy) {args : List String} {later : State} {path : String} {history : History}
    (hl : later.desk.history.load later.desk.files (sheetPath? args) = .ok (path, history)) :
    (dispatcher.run policy "history-load" args later).1 =
        ⟨.completed, s!"Loaded {history.entries.length} history entries from {path}"⟩ ∧
      (dispatcher.run policy "history-load" args later).2.desk.history = history := by
  obtain ⟨view, -, hr, hh, -⟩ := Dispatcher.run_plain hc policy args later
  rw [hr, hh]
  cases hp : sheetPath? args with
  | none =>
    rw [hp] at hl
    simp only [loadFrom, hl]
    exact ⟨rfl, rfl⟩
  | some given =>
    rw [hp] at hl
    simp only [History.exists?_of_load hl, if_true, loadFrom, hl]
    exact ⟨rfl, rfl⟩

end Calculator.Command.Recorded

namespace Calculator

open Command (Policy State)

/-- A save that replies with its file is undone by no change of the table: a load of the same file
brings back every entry. The same holds of the history by itself. -/
theorem load_brings_back_what_was_saved :
    (∀ (environment : Settings.Environment) (host : Command.Host) (policy policy' : Policy)
      (args : List String) (before later : State) (path : String) (edits : List History.Edit),
      let dispatcher := Session.dispatcherIn environment host
      let save := dispatcher.run policy "history-save" args before
      let load := dispatcher.run policy' "history-load" args later
      before.desk.history.entries ≠ [] →
      save.1.text = "History saved to " ++ path →
      later.desk.files = save.2.desk.files →
      later.desk.history = save.2.desk.history.editAll edits →
      load.1 = ⟨.completed,
          s!"Loaded {before.desk.history.entries.length} history entries from {path}"⟩ ∧
        load.2.desk.history.entries = before.desk.history.entries) ∧
    ∀ (h : History) (tree next : Files.Tree) (path? : Option String) (path : String)
      (edits : List History.Edit), h.save tree path? = (.ok path, next) →
      (h.editAll edits).load next path? =
        .ok (path, { h.editAll edits with entries := h.entries }) := by
  refine ⟨fun environment host policy policy' args before later path edits => ?_, ?_⟩
  · intro dispatcher save load hne ht hf hh
    have hsave : dispatcher.commands.get? "history-save" = some Command.Recorded.save :=
      Command.Dispatcher.get?_historySave
    have hload : dispatcher.commands.get? "history-load" = some Command.Recorded.load :=
      Command.Dispatcher.get?_historyLoad
    obtain ⟨hs, hk⟩ := Command.Recorded.run_save_of_text hsave hne ht
    have hd : later.desk.history.defaultPath = before.desk.history.defaultPath := by
      rw [hh, History.defaultPath_editAll]
      exact congrArg History.defaultPath hk
    have hl := History.load_of_save hs hd
    rw [← hf] at hl
    obtain ⟨hr, he⟩ := Command.Recorded.run_load_of_ok hload policy' hl
    have hentries := congrArg History.entries he
    exact ⟨hr, hentries⟩
  · intro h tree next path? path edits hs
    exact History.load_of_save hs (History.defaultPath_editAll h edits)

/-- A table whose only entry has an empty field, one in quotes, a line break and a blank. -/
def oddHistory : History := { entries := [⟨"", "a,\"", "\r\n", " "⟩], defaultPath := "h.csv" }

def oddState : State where
  desk := { history := oddHistory, files := {} }
  usage := { runs := .empty }
  clock := .still 2 0

/-- The odd table comes back after an entry was added and the table was cleared. -/
theorem load_brings_back_odd_fields :
    let dispatcher := Session.dispatcherIn {} ⟨"", "", "", "", ""⟩
    let save := dispatcher.run .checked "history-save" ["a"] oddState
    let edits := [.add ⟨"t", "add", "1 2", "3.0"⟩, .clear]
    let later : State := { oddState with desk := { save.2.desk with
      history := save.2.desk.history.editAll edits } }
    let load := dispatcher.run .unchecked "history-load" ["a"] later
    save.1.text = "History saved to a.csv" ∧ later.desk.history.entries = [] ∧
      load.1 = ⟨.completed, "Loaded 1 history entries from a.csv"⟩ ∧
      load.2.desk.history.entries = oddHistory.entries ∧
      (oddHistory.editAll edits).load (oddHistory.save {} none).2 none = .ok ("h.csv", oddHistory) := by
  have hs : ((Session.dispatcherIn {} ⟨"", "", "", "", ""⟩).run .checked "history-save" ["a"]
      oddState).1.text = "History saved to " ++ "a.csv" := by decide +kernel
  have hp : (oddHistory.save {} none).1 = .ok "h.csv" := rfl
  intro dispatcher save edits later load
  obtain ⟨hr, he⟩ := load_brings_back_what_was_saved.1 {} ⟨"", "", "", "", ""⟩ .checked
    .unchecked ["a"] oddState later "a.csv" edits (by simp [oddState, oddHistory]) hs rfl rfl
  have hl := load_brings_back_what_was_saved.2 oddHistory {} _ none "h.csv" edits (Prod.ext hp rfl)
  exact ⟨hs, rfl, hr.trans (by decide +kernel), he, hl⟩

end Calculator
