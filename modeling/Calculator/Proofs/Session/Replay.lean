import Calculator.Proofs.Session.Recording

/-!
Every recorded calculation can be asked for again. A line is made of the entry, and it goes the way
that the line of the entry went: the inputs of an expression are trimmed already, and the inputs of an
operation are words with one blank between them.
-/

namespace Calculator

open Operation (Catalogue Standard)

/-- The line that asks for a recorded calculation again. -/
def History.Entry.request (e : History.Entry) : String :=
  if e.operation = Command.Calculation.expressionName then e.inputs
  else e.operation ++ " " ++ e.inputs

namespace Session

variable {config : Settings.Config} {environment : Settings.Environment} {host : Command.Host}
  {session : Session} {entry : History.Entry}

theorem callable_standard (h : BuiltFrom config environment host session) (kind : Standard) :
    Route.Callable session.dispatcher.contains kind.name where
  isWord := by
    have hm : kind.name.toList ∈ Text.words kind.name.toList := by cases kind <;> decide
    exact Text.isWord_of_mem_words hm
  lower_eq := by cases kind <;> decide
  ne_history := by cases kind <;> decide
  not_exit := by cases kind <;> decide
  registered := by
    rw [h.dispatcher_eq, Command.Dispatcher.contains, Register.contains, Command.get?_standard]
    rfl

/-- The line made of an entry asks for its calculation again. -/
theorem answers_request (h : BuiltFrom config environment host session)
    (he : Calculated session.dispatcher.contains entry) :
    isRecordable entry.result = true ∧
      session.Answers entry.request entry.operation entry.inputs entry.result := by
  cases he with
  | @expression _ text hr ht =>
    rw [History.Entry.request, if_pos rfl]
    exact ⟨ht, answers_expression h hr⟩
  | @operation _ text args kind ha hx ht =>
    have hne : kind.name ≠ Command.Calculation.expressionName := by cases kind <;> decide
    rw [History.Entry.request, if_neg hne]
    exact ⟨ht, answers_operation h kind hx (Route.ofLine_call (callable_standard h kind) ha)⟩

/-- A line that loads nothing leaves calculated entries only. -/
theorem calculated_handle (h : BuiltFrom config environment host session) {line : String}
    (hl : Avoids environment host "load" [line])
    (hc : ∀ entry ∈ session.history.entries, Calculated session.dispatcher.contains entry) :
    ∀ entry ∈ (session.handle line).2.history.entries, Calculated session.dispatcher.contains entry := by
  have hcases := handled h line
  generalize (session.handle line).1 = outcome at hcases
  generalize (session.handle line).2.history = history at hcases ⊢
  cases hcases with
  | recorded new _ _ hnew =>
    intro entry hm
    rcases List.mem_append.mp hm with hm | hm
    · exact hc entry hm
    · rw [List.mem_singleton.mp hm]
      exact hnew
  | kept => exact hc
  | changed _ hn hd =>
    rw [h.dispatcher_eq] at hn
    have hsub := hd.entries_sublist (hl line List.mem_cons_self _ hn)
    exact fun entry hm => hc entry (hsub.mem hm)

theorem calculated_handleAll (h : BuiltFrom config environment host session) {lines : List String}
    (hl : Avoids environment host "load" lines)
    (hc : ∀ entry ∈ session.history.entries, Calculated session.dispatcher.contains entry) :
    ∀ entry ∈ (session.handleAll lines).history.entries,
      Calculated (dispatcherIn environment host).contains entry := by
  induction lines generalizing session with
  | nil => exact h.dispatcher_eq ▸ hc
  | cons line lines ih =>
    have hone : Avoids environment host "load" [line] := fun other hm => by
      rw [List.mem_singleton.mp hm]
      exact hl line List.mem_cons_self
    have hnext := calculated_handle h hone hc
    have hsame : (session.handle line).2.dispatcher = session.dispatcher :=
      (h.handle line).dispatcher_eq.trans h.dispatcher_eq.symm
    rw [← hsame] at hnext
    exact ih (h.handle line) (fun other hm => hl other (List.mem_cons_of_mem line hm)) hnext

/-- In a session that has loaded no file, each entry can be replayed: its line gives its result, and
adds an entry like it. -/
theorem recorded_can_be_replayed (config : Settings.Config) (environment : Settings.Environment)
    (host : Command.Host) (files : Files.Tree) (clock : Time.Clock) (lines : List String)
    (hload : config.history.autoload = false) (hlines : Avoids environment host "load" lines) :
    let session := (start config environment host files clock).handleAll lines
    ∀ entry ∈ session.history.entries,
      let handled := session.handle entry.request
      handled.1 = .reply ⟨.completed, entry.result⟩ ∧
        ∃ again, handled.2.history.entries = session.history.entries ++ [again] ∧
          again.operation = entry.operation ∧ again.inputs = entry.inputs ∧
          again.result = entry.result := by
  intro session entry hm
  have hstart := builtFrom_start config environment host files clock
  have hb : BuiltFrom config environment host session := hstart.handleAll lines
  have hnone : (start config environment host files clock).history.entries = [] := by
    unfold start
    dsimp only
    rw [hload, if_neg Bool.false_ne_true]
    rfl
  have hc := calculated_handleAll hstart hlines (by rw [hnone]; exact fun _ hm => nomatch hm) entry hm
  rw [← hb.dispatcher_eq] at hc
  obtain ⟨hrec, hanswers⟩ := answers_request hb hc
  obtain ⟨time, hhist⟩ := hanswers.recorded hrec
  exact ⟨hanswers.reply, ⟨time, entry.operation, entry.inputs, entry.result⟩,
    congrArg History.entries hhist, rfl, rfl, rfl⟩

/-- What an operation says about too few operands is recorded and can be asked for again. -/
theorem too_few_operands_can_be_replayed :
    let session := (start {} {} nowhere {} (.still 2 0)).handleAll ["  ADD\t5 ", "mean"]
    let entry : History.Entry :=
      ⟨"1970-01-01 00:00:02", "add", "5", "Addition requires at least two numbers"⟩
    let handled := session.handle "add 5"
    entry ∈ session.history.entries ∧ handled.1 = .reply ⟨.completed, entry.result⟩ ∧
      ∃ again, handled.2.history.entries = session.history.entries ++ [again] ∧
        again.operation = entry.operation ∧ again.inputs = entry.inputs ∧
        again.result = entry.result := by
  intro session entry handled
  have hm : entry ∈ session.history.entries := by decide +kernel
  have hload : ({} : Settings.Config).history.autoload = false := rfl
  have hlines : Avoids {} nowhere "load" ["  ADD\t5 ", "mean"] := by decide +kernel
  have hrequest : entry.request = "add 5" := by decide
  have hreplayed := recorded_can_be_replayed {} {} nowhere {} (.still 2 0) _ hload hlines entry hm
  rw [hrequest] at hreplayed
  exact ⟨hm, hreplayed⟩

end Session

end Calculator
