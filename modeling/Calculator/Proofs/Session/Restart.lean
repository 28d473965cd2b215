import Calculator.Proofs.History.Saving
import Calculator.Proofs.Session.Lines

/-!
What is left of a history after a shutdown that saves it and a start that loads it. A table with
entries comes back as it was. An empty one is not saved, so an older file stays and is loaded; a file
that cannot be loaded stays until a table with entries takes its place.
-/

namespace Calculator

attribute [ext] History

namespace Session

variable {config : Settings.Config} {environment : Settings.Environment} {host : Command.Host}
  {session : Session}

/-- A shutdown that saves puts the table in the default file. -/
theorem saveEntries_of_shutdown (h : BuiltFrom config environment host session)
    (hsave : config.history.autosave = true) (hne : session.history.entries ≠ []) {path : String}
    (hs : (session.history.save session.files none).1 = .ok path) :
    History.saveEntries session.files config.history.path session.history.entries =
      (.ok (), session.shutdown.files) := by
  have hempty : session.history.entries.isEmpty = false := by simpa using hne
  have hp : session.history.save session.files none =
      (.ok path, (session.history.save session.files none).2) := Prod.ext hs rfl
  obtain ⟨rfl, hw⟩ := History.save_eq_ok hp
  rw [files_shutdown (h.config_eq ▸ hsave), hempty, if_neg Bool.false_ne_true, ← h.defaultPath_eq]
  exact hw

/-- What has been saved can be loaded. -/
theorem save_error_of_loadEntries_error (h : BuiltFrom config environment host session)
    (hsave : config.history.autosave = true) (hne : session.history.entries ≠ [])
    {e : History.StoreError}
    (he : History.loadEntries session.shutdown.files config.history.path = .error e) :
    ∃ e, (session.history.save session.files none).1 = .error e := by
  cases hs : (session.history.save session.files none).1 with
  | error e' => exact ⟨e', rfl⟩
  | ok path =>
    have hloads := History.loadEntries_saveEntries (saveEntries_of_shutdown h hsave hne hs)
    rw [he] at hloads
    cases hloads

theorem files_shutdown_of_empty (h : BuiltFrom config environment host session)
    (hsave : config.history.autosave = true) (he : session.history.entries = []) :
    session.shutdown.files = session.files := by
  rw [files_shutdown (h.config_eq ▸ hsave), he]
  rfl

/-- A shutdown that cannot save leaves what is at the path of the default file. -/
theorem find_shutdown_of_error (h : BuiltFrom config environment host session)
    (hsave : config.history.autosave = true) {e : History.StoreError} {item : Files.Item}
    (hs : (session.history.save session.files none).1 = .error e)
    (hf : session.files.find config.history.path = .ok item) :
    session.shutdown.files.find config.history.path = .ok item := by
  by_cases he : session.history.entries = []
  · rw [files_shutdown_of_empty h hsave he, hf]
  · have hp : session.history.save session.files none =
        (.error e, (session.history.save session.files none).2) := Prod.ext hs rfl
    have hempty : session.history.entries.isEmpty = false := by simpa using he
    rw [files_shutdown (h.config_eq ▸ hsave), hempty, if_neg Bool.false_ne_true]
    rw [← h.defaultPath_eq] at hf ⊢
    exact History.find_of_save_error hp hf

/-- With autosave and autoload a table with entries is the same after a restart. An empty table is not
saved: the files are left as they are, and the next session starts with what the default file holds. -/
theorem history_after_restart (config : Settings.Config)
    (environment environment' : Settings.Environment) (host host' : Command.Host)
    (files : Files.Tree) (clock clock' : Time.Clock) (lines : List String)
    (hload : config.history.autoload = true) (hsave : config.history.autosave = true) :
    let last := (start config environment host files clock).handleAll lines
    let again := start config environment' host' last.shutdown.files clock'
    (last.history.entries ≠ [] → (∃ path, (last.history.save last.files none).1 = .ok path) →
        again.history = last.history) ∧
      (last.history.entries = [] → last.shutdown.files = last.files ∧
        again.history.entries =
          (History.loadEntries last.files config.history.path).toOption.getD []) := by
  intro last again
  have hlast : BuiltFrom config environment host last :=
    (builtFrom_start config environment host files clock).handleAll lines
  have hagain := entries_start environment' host' last.shutdown.files clock' hload
  constructor
  · rintro hne ⟨path, hs⟩
    have hw := saveEntries_of_shutdown hlast hsave hne hs
    rw [History.loadEntries_saveEntries hw] at hagain
    have hpath := (builtFrom_start config environment' host' last.shutdown.files clock').defaultPath_eq
    exact History.ext hagain (hpath.trans hlast.defaultPath_eq.symm)
  · intro he
    have hf := files_shutdown_of_empty hlast hsave he
    exact ⟨hf, by rw [← hf]; exact hagain⟩

/-- A configuration that keeps its history in `h.csv`. -/
def keeping : Settings.Config := { history := { path := "h.csv", autoload := true, autosave := true } }

def filesWith (text : String) : Files.Tree := { items := [(["h.csv"], .file text.toUTF8)] }

/-- The table of one calculation, after a restart in files that held none. -/
theorem history_after_restart_of_sum :
    let last := (start keeping {} nowhere {} (.still 2 0)).handleAll ["add 1 2"]
    let again := start keeping {} nowhere last.shutdown.files (.still 9 0)
    last.history.entries = [⟨"1970-01-01 00:00:02", "add", "1 2", "3.0"⟩] ∧
      again.history = last.history := by
  intro last again
  have hentries : last.history.entries = [⟨"1970-01-01 00:00:02", "add", "1 2", "3.0"⟩] := by
    decide +kernel
  have hne : last.history.entries ≠ [] := by
    rw [hentries]
    exact List.cons_ne_nil _ _
  have hs : ∃ path, (last.history.save last.files none).1 = .ok path := by
    have hok : (last.history.save last.files none).1.isOk = true := by decide +kernel
    cases hv : (last.history.save last.files none).1 with
    | ok path => exact ⟨path, rfl⟩
    | error e =>
      rw [hv] at hok
      cases hok
  have hkept := (history_after_restart keeping {} {} nowhere nowhere {} (.still 2 0) (.still 9 0)
    ["add 1 2"] rfl rfl).1
  exact ⟨hentries, hkept hne hs⟩

/-- An empty table does not survive a restart: `history clear` leaves the file as it is, and its entry
is back at the next start. -/
theorem history_cleared_is_back : ¬ ∀ (config : Settings.Config)
    (environment environment' : Settings.Environment) (host host' : Command.Host)
    (files : Files.Tree) (clock clock' : Time.Clock) (lines : List String),
    config.history.autoload = true → config.history.autosave = true →
    let last := (start config environment host files clock).handleAll lines
    let again := start config environment' host' last.shutdown.files clock'
    (last.history.entries = [] ∨ ∃ path, (last.history.save last.files none).1 = .ok path) →
      again.history.entries = last.history.entries := by
  intro h
  have hback := h keeping {} {} nowhere nowhere
    (filesWith "timestamp,operation,inputs,result\nt,add,1 2,3.0\n") (.still 2 0) (.still 9 0)
    ["history clear"] rfl rfl (.inl (by decide +kernel))
  exact absurd hback (by decide +kernel)

/-- A default file that cannot be loaded is as it was after lines that save nothing, and a shutdown
leaves it so unless there are entries to save and saving them succeeds; then it holds these entries. -/
theorem unreadable_file_after_shutdown (config : Settings.Config) (environment : Settings.Environment)
    (host : Command.Host) (files : Files.Tree) (clock : Time.Clock) (lines : List String)
    (e : History.StoreError)
    (hload : config.history.autoload = true) (hsave : config.history.autosave = true)
    (he : History.loadEntries files config.history.path = .error e)
    (hne : ∀ path, e ≠ .notFound path) (hlines : Avoids environment host "save" lines) :
    let first := start config environment host files clock
    let last := first.handleAll lines
    first.history.entries = [] ∧ last.files = files ∧
      (last.shutdown.files.find config.history.path = files.find config.history.path ↔
        last.history.entries = [] ∨ ∃ e, (last.history.save files none).1 = .error e) ∧
      (last.history.entries ≠ [] → (∃ path, (last.history.save files none).1 = .ok path) →
        last.shutdown.files.find config.history.path =
          .ok (.file (History.encode last.history.entries).toUTF8)) := by
  intro first last
  have hstart := builtFrom_start config environment host files clock
  have hlast : BuiltFrom config environment host last := hstart.handleAll lines
  have hfiles : last.files = files :=
    (files_handleAll hstart hlines).trans (files_start config environment host files clock)
  obtain ⟨item, hitem⟩ := History.find_of_loadEntries_error he hne
  have hfirst := entries_start environment host files clock hload
  rw [he] at hfirst
  refine ⟨hfirst, hfiles, ⟨fun hf => ?_, fun h => ?_⟩, fun hentries hs => ?_⟩
  · by_cases hentries : last.history.entries = []
    · exact .inl hentries
    · have hagain := (History.loadEntries_congr hf).trans he
      obtain ⟨e', hs⟩ := save_error_of_loadEntries_error hlast hsave hentries hagain
      rw [hfiles] at hs
      exact .inr ⟨e', hs⟩
  · rcases h with hempty | ⟨e', hs⟩
    · rw [files_shutdown_of_empty hlast hsave hempty, hfiles]
    · rw [← hfiles] at hs hitem ⊢
      rw [find_shutdown_of_error hlast hsave hs hitem, hitem]
  · obtain ⟨path, hs⟩ := hs
    rw [← hfiles] at hs
    exact History.find_saveEntries (saveEntries_of_shutdown hlast hsave hentries hs)

/-- A file without the columns of a history is kept by a calculation that is cleared again. -/
theorem unreadable_file_after_cleared_sum :
    let files := filesWith "when,what\n1,2\n"
    let last := (start keeping {} nowhere files (.still 2 0)).handleAll
      ["add 1 2", "history clear"]
    last.history.entries = [] ∧ last.shutdown.files.find "h.csv" = files.find "h.csv" := by
  intro files last
  have hempty : last.history.entries = [] := by decide +kernel
  have he : History.loadEntries files "h.csv" = .error (.sheet (.missingColumn "timestamp")) := by
    rfl
  have hkept := (unreadable_file_after_shutdown keeping {} nowhere files (.still 2 0)
    ["add 1 2", "history clear"] _ rfl rfl he (fun _ => nofun) (by decide +kernel)).2.2.1
  exact ⟨hempty, hkept.mpr (.inl hempty)⟩

/-- A shutdown destroys a file that could not be loaded: after `add 1 2` it holds the calculation. -/
theorem unreadable_file_overwritten : ¬ ∀ (config : Settings.Config) (environment : Settings.Environment)
    (host : Command.Host) (files : Files.Tree) (clock : Time.Clock) (lines : List String)
    (e : History.StoreError),
    config.history.autoload = true → config.history.autosave = true →
    History.loadEntries files config.history.path = .error e → (∀ path, e ≠ .notFound path) →
    Avoids environment host "save" lines → Avoids environment host "load" lines →
    let last := (start config environment host files clock).handleAll lines
    last.shutdown.files.find config.history.path = files.find config.history.path := by
  intro h
  have hkept := h keeping {} nowhere (filesWith "when,what\n1,2\n") (.still 2 0)
    ["add 1 2"] (.sheet (.missingColumn "timestamp")) rfl rfl rfl (fun _ => nofun)
    (by decide +kernel) (by decide +kernel)
  have hloads := congrArg Except.toOption (History.loadEntries_congr hkept)
  exact absurd hloads (by decide +kernel)

end Session

end Calculator
