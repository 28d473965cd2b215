import Calculator.Proofs.Command.Calculating
import Calculator.Proofs.Session.Lines
import Calculator.Proofs.Session.Routes

/-!
What a line adds to the history. A line that goes to the evaluator or to an operation and succeeds
there is recorded with its reply; no other line adds anything, and only three commands take anything
away.
-/

namespace Calculator

open Command (Reply Policy Effect spellings)
open Operation (Catalogue Standard)

namespace Command

namespace Calculation

theorem isRecordable_expressionText (text : String) :
    isRecordable (expressionText text) = true ↔ ∃ value, Expression.evaluate text = .ok value := by
  unfold expressionText
  cases Expression.evaluate text with
  | ok value => simp [isRecordable_text]
  | error e =>
    have hprefix : isRecordable (toString "Error evaluating expression: ") = false := by decide
    simp [isRecordable_append_of_not hprefix]

end Calculation

namespace Effect

variable {name : String} {before after : Desk}

/-- Only clearing, deleting and loading change the history. -/
theorem history_eq (h : Effect name before after)
    (hn : ∀ verb ∈ ["clear", "delete", "load"], name ∉ spellings verb) :
    after.history = before.history := by
  cases h with
  | none hh _ => exact hh
  | saved _ _ hh _ => exact hh
  | loaded hl => exact absurd hl (hn "load" (by decide))
  | cleared hc => exact absurd hc (hn "clear" (by decide))
  | deleted hd => exact absurd hd (hn "delete" (by decide))

/-- No command adds entries but the one that loads them. -/
theorem entries_sublist (h : Effect name before after) (hn : name ∉ spellings "load") :
    after.history.entries.Sublist before.history.entries := by
  cases h with
  | none hh _ => exact hh ▸ List.Sublist.refl _
  | saved _ _ hh _ => exact hh ▸ List.Sublist.refl _
  | loaded hl => exact absurd hl hn
  | cleared _ hh _ => exact hh ▸ List.nil_sublist _
  | deleted _ index entry hd _ =>
    obtain ⟨_, -, he⟩ := Option.map_eq_some_iff.mp hd
    obtain ⟨-, hh⟩ := Prod.mk.inj he
    exact hh ▸ List.eraseIdx_sublist _ _

end Effect

end Command

namespace Route

/-- What is recorded of a line that is calculated: an operation or `expression`, and its inputs. -/
def calculation? (line : String) : Route → Option (String × String)
  | expression _ =>
    some (Command.Calculation.expressionName, String.ofList (Text.trim line.toList))
  | command name args => some (name, " ".intercalate args)
  | _ => none

/-- The evaluator finds a value, or nothing goes wrong in an operation. -/
def Succeeds (operations : Catalogue) : Route → Prop
  | expression text => ∃ value, Expression.evaluate text = .ok value
  | command name args => ∃ op, operations.create? name = some op ∧ op.Calculates args
  | _ => False

theorem succeeds_standard_iff (kind : Standard) (args : List String) :
    (command kind.name args).Succeeds Catalogue.standard ↔ kind.operation.Calculates args := by
  simp only [Succeeds, kind.create?_standard, Option.some.injEq, exists_eq_left']

theorem not_succeeds_of_not_contains {operations : Catalogue} {name : String}
    (h : operations.contains name = false) (args : List String) :
    ¬ (command name args).Succeeds operations := by
  rintro ⟨op, hc, -⟩
  have hn : operations.makers.get? name = none := by
    simpa [Catalogue.contains, Register.contains] using h
  rw [Catalogue.create?, hn] at hc
  cases hc

end Route

/-- An entry as a calculation makes it. -/
inductive Calculated (isRegistered : String → Bool) : History.Entry → Prop where
  | expression {time text : String} (hr : Route.ofLine isRegistered text = .expression text)
      (ht : isRecordable (Command.Calculation.expressionText text) = true) :
      Calculated isRegistered
        ⟨time, Command.Calculation.expressionName, text, Command.Calculation.expressionText text⟩
  | operation {time text : String} {args : List String} (kind : Standard)
      (ha : ∀ arg ∈ args, Text.IsWord arg.toList) (hx : kind.operation.execute args = .ok text)
      (ht : isRecordable text = true) :
      Calculated isRegistered ⟨time, kind.name, " ".intercalate args, text⟩

namespace Session

variable {config : Settings.Config} {environment : Settings.Environment} {host : Command.Host}
  {session : Session} {line : String}

theorem BuiltFrom.operations_eq (h : BuiltFrom config environment host session) :
    session.dispatcher.operations = Catalogue.standard := by
  rw [h.dispatcher_eq, Command.operations_dispatcherIn]

/-- The reply to a line is the text of a calculation, which is recorded if it is no error. -/
def Answers (session : Session) (line operation inputs text : String) : Prop :=
  ∃ executed : Session, executed.history = session.history ∧
    session.handle line = (.reply ⟨.completed, text⟩,
      executed.recordReply operation inputs ⟨.completed, text⟩)

namespace Answers

variable {operation inputs text : String}

theorem reply (h : session.Answers line operation inputs text) :
    (session.handle line).1 = .reply ⟨.completed, text⟩ := by
  obtain ⟨executed, -, he⟩ := h
  rw [he]

theorem recorded (h : session.Answers line operation inputs text) (ht : isRecordable text = true) :
    ∃ time, (session.handle line).2.history =
      session.history.push ⟨time, operation, inputs, text⟩ := by
  obtain ⟨executed, hh, he⟩ := h
  have hr : isResult ⟨.completed, text⟩ = true := ht
  rw [he, ← hh, recordReply, if_pos hr]
  exact ⟨_, rfl⟩

theorem kept (h : session.Answers line operation inputs text) (ht : isRecordable text = false) :
    (session.handle line).2.history = session.history := by
  obtain ⟨executed, hh, he⟩ := h
  have hr : isResult ⟨.completed, text⟩ = false := ht
  rw [he, recordReply, hr, if_neg Bool.false_ne_true]
  exact hh

end Answers

/-- The reply to a line for the evaluator is the text of the expression. -/
theorem answers_expression (h : BuiltFrom config environment host session) {text : String}
    (hr : Route.ofLine session.dispatcher.contains line = .expression text) :
    session.Answers line Command.Calculation.expressionName text
      (Command.Calculation.expressionText text) := by
  have hrun := Command.run_expression environment host .checked [text] session.state
  have hjoin : String.join [text] = text := String.empty_append
  rw [← h.dispatcher_eq, hjoin] at hrun
  have hreply : (session.execute .checked Command.Calculation.expressionName [text]).1 =
      ⟨.completed, Command.Calculation.expressionText text⟩ := hrun.1
  refine ⟨(session.execute .checked Command.Calculation.expressionName [text]).2, hrun.2, ?_⟩
  unfold handle
  rw [hr]
  dsimp only [handleExpression]
  rw [hreply]
  rfl

/-- The reply to a line for an operation is the text of the operation. -/
theorem answers_operation (h : BuiltFrom config environment host session) (kind : Standard)
    {args : List String} {text : String} (ht : kind.operation.execute args = .ok text)
    (hr : Route.ofLine session.dispatcher.contains line = .command kind.name args) :
    session.Answers line kind.name (" ".intercalate args) text := by
  have hrun := Command.run_standard environment host kind ht .unchecked session.state
  rw [← h.dispatcher_eq] at hrun
  have hc : (session.execute .unchecked kind.name args).2.dispatcher.operations.contains kind.name =
      true := by
    change session.dispatcher.operations.contains kind.name = true
    rw [h.operations_eq, kind.contains_standard]
  have hreply : (session.execute .unchecked kind.name args).1 = ⟨.completed, text⟩ := hrun.1
  refine ⟨(session.execute .unchecked kind.name args).2, hrun.2, ?_⟩
  unfold handle
  rw [hr]
  dsimp only [handleCommand]
  rw [if_pos hc, hreply]
  rfl

/-- What comes of a line: its calculation is recorded, or nothing is added. -/
inductive Handled (session : Session) (line : String) : LineOutcome → History → Prop where
  | recorded (entry : History.Entry)
      (hs : (Route.ofLine session.dispatcher.contains line).Succeeds session.dispatcher.operations)
      (hc : (Route.ofLine session.dispatcher.contains line).calculation? line =
        some (entry.operation, entry.inputs))
      (he : Calculated session.dispatcher.contains entry) :
      Handled session line (.reply ⟨.completed, entry.result⟩) (session.history.push entry)
  | kept {outcome : LineOutcome}
      (hs : ¬ (Route.ofLine session.dispatcher.contains line).Succeeds session.dispatcher.operations) :
      Handled session line outcome session.history
  | changed {outcome : LineOutcome} {desk : Command.Desk} {name : String}
      (hs : ¬ (Route.ofLine session.dispatcher.contains line).Succeeds session.dispatcher.operations)
      (hn : (Route.ofLine session.dispatcher.contains line).commandName? = some name)
      (hd : Effect name session.state.desk desk) : Handled session line outcome desk.history

theorem Answers.handled {operation inputs text : String}
    (h : session.Answers line operation inputs text)
    (hs : (Route.ofLine session.dispatcher.contains line).Succeeds session.dispatcher.operations ↔
      isRecordable text = true)
    (hc : (Route.ofLine session.dispatcher.contains line).calculation? line = some (operation, inputs))
    (he : ∀ time, isRecordable text = true →
      Calculated session.dispatcher.contains ⟨time, operation, inputs, text⟩) :
    Handled session line (session.handle line).1 (session.handle line).2.history := by
  rw [h.reply]
  cases ht : isRecordable text with
  | true =>
    obtain ⟨time, hh⟩ := h.recorded ht
    rw [hh]
    exact .recorded ⟨time, operation, inputs, text⟩ (hs.mpr ht) hc (he time ht)
  | false =>
    rw [h.kept ht]
    refine .kept fun hsucceeds => ?_
    rw [hs.mp hsucceeds] at ht
    cases ht

theorem handled_of_expression (h : BuiltFrom config environment host session) {text : String}
    (hr : Route.ofLine session.dispatcher.contains line = .expression text) :
    Handled session line (session.handle line).1 (session.handle line).2.history := by
  obtain ⟨ht, htext⟩ := Route.eq_of_ofLine_expression hr
  refine (answers_expression h hr).handled ?_ ?_ fun time hrec => .expression htext hrec
  · rw [hr]
    exact (Command.Calculation.isRecordable_expressionText text).symm
  · rw [hr, Route.calculation?, ← ht]

theorem handled_of_operation (h : BuiltFrom config environment host session) (kind : Standard)
    {args : List String}
    (hr : Route.ofLine session.dispatcher.contains line = .command kind.name args) :
    Handled session line (session.handle line).1 (session.handle line).2.history := by
  obtain ⟨text, ht, hiff⟩ := kind.exists_execute args
  have hwords : ∀ arg ∈ args, Text.IsWord arg.toList := fun arg ha =>
    Route.isWord_of_ofLine_command hr ha
  refine (answers_operation h kind ht hr).handled ?_ ?_ fun time hrec =>
    .operation kind hwords ht hrec
  · rw [hr, h.operations_eq, Route.succeeds_standard_iff, hiff]
  · rw [hr, Route.calculation?]

/-- A line for any other command is not recorded. -/
theorem handled_of_command (h : BuiltFrom config environment host session) {name : String}
    {args : List String} (hn : session.dispatcher.operations.contains name = false)
    (hr : Route.ofLine session.dispatcher.contains line = .command name args) :
    Handled session line (session.handle line).1 (session.handle line).2.history := by
  have hs : (session.handle line).2 = (session.execute .unchecked name args).2 := by
    rw [handle_of_command hr hn]
  rw [hs]
  refine .changed ?_ ?_ (effect_execute h .unchecked name args)
  · rw [hr]
    exact Route.not_succeeds_of_not_contains hn args
  · rw [hr, Route.commandName?]

theorem handled (h : BuiltFrom config environment host session) (line : String) :
    Handled session line (session.handle line).1 (session.handle line).2.history := by
  cases hr : Route.ofLine session.dispatcher.contains line with
  | skip | exit =>
    have hs : (session.handle line).2 = session := by
      unfold handle
      rw [hr]
    rw [hs]
    refine .kept fun hs => ?_
    rw [hr] at hs
    exact hs
  | expression text => exact handled_of_expression h hr
  | command name args =>
    cases hc : session.dispatcher.operations.contains name with
    | false => exact handled_of_command h hc hr
    | true =>
      rw [h.operations_eq] at hc
      obtain ⟨kind, rfl⟩ := Catalogue.exists_standard hc
      exact handled_of_operation h kind hr

/-- The session after others have changed the files and the clock. -/
def meanwhile (session : Session) (files : Files.Tree) (clock : Time.Clock) : Session :=
  { session with state := { (session.withFiles files).state with clock := clock } }

/-- The sessions that a start leads to. -/
inductive Reachable (config : Settings.Config) (environment : Settings.Environment)
    (host : Command.Host) : Session → Prop where
  | start (files : Files.Tree) (clock : Time.Clock) :
      Reachable config environment host (start config environment host files clock)
  | handle {session : Session} (h : Reachable config environment host session) (line : String) :
      Reachable config environment host (session.handle line).2
  | execute {session : Session} (h : Reachable config environment host session) (policy : Policy)
      (name : String) (args : List String) :
      Reachable config environment host (session.execute policy name args).2
  | shutdown {session : Session} (h : Reachable config environment host session) :
      Reachable config environment host session.shutdown
  | meanwhile {session : Session} (h : Reachable config environment host session)
      (files : Files.Tree) (clock : Time.Clock) :
      Reachable config environment host (session.meanwhile files clock)

theorem BuiltFrom.shutdown (h : BuiltFrom config environment host session) :
    BuiltFrom config environment host session.shutdown := by
  unfold Session.shutdown saveDefault
  dsimp only
  split
  · split
    · exact ⟨h.config_eq, h.dispatcher_eq, h.defaultPath_eq⟩
    · split <;> exact ⟨h.config_eq, h.dispatcher_eq, h.defaultPath_eq⟩
  · exact ⟨h.config_eq, h.dispatcher_eq, h.defaultPath_eq⟩

theorem Reachable.builtFrom (h : Reachable config environment host session) :
    BuiltFrom config environment host session := by
  induction h with
  | start files clock => exact builtFrom_start config environment host files clock
  | handle _ line ih => exact ih.handle line
  | execute _ policy name args ih => exact ih.execute policy name args
  | shutdown _ ih => exact ih.shutdown
  | meanwhile _ _ _ ih => exact ⟨ih.config_eq, ih.dispatcher_eq, ih.defaultPath_eq⟩

/-- A line that goes to none of the three commands that change the history keeps all entries, and adds
one exactly when it goes to the evaluator or to an operation and succeeds there. -/
theorem records_successes (h : Reachable config environment host session) (line : String)
    (hl : ∀ verb ∈ ["clear", "delete", "load"], Avoids environment host verb [line]) :
    let route := Route.ofLine session.dispatcher.contains line
    let handled := session.handle line
    (route.Succeeds session.dispatcher.operations →
      ∃ entry reply, handled.1 = .reply reply ∧
        handled.2.history.entries = session.history.entries ++ [entry] ∧
        route.calculation? line = some (entry.operation, entry.inputs) ∧
        entry.result = reply.text) ∧
    (¬ route.Succeeds session.dispatcher.operations →
      handled.2.history.entries = session.history.entries) := by
  have hb := h.builtFrom
  have hcases := handled hb line
  dsimp only
  generalize (session.handle line).1 = outcome at hcases ⊢
  generalize (session.handle line).2.history = history at hcases ⊢
  cases hcases with
  | recorded entry hs hc he =>
    exact ⟨fun _ => ⟨entry, ⟨.completed, entry.result⟩, rfl, rfl, hc, rfl⟩, fun hn => absurd hs hn⟩
  | kept hs => exact ⟨fun h => absurd h hs, fun _ => rfl⟩
  | changed hs hn hd =>
    refine ⟨fun h => absurd h hs, fun _ => congrArg History.entries (hd.history_eq fun verb hv => ?_)⟩
    refine hl verb hv line List.mem_cons_self _ ?_
    rw [← hb.dispatcher_eq]
    exact hn

/-- Too few operands are no failure: what the operation says about them is recorded. -/
theorem records_too_few_operands :
    let session := start {} {} nowhere {} (.still 2 0)
    let handled := session.handle " ADD\t5 "
    ∃ entry reply, handled.1 = .reply reply ∧ handled.2.history.entries = [entry] ∧
      (entry.operation, entry.inputs) = ("add", "5") ∧ entry.result = reply.text := by
  intro session handled
  have hr : Route.ofLine session.dispatcher.contains " ADD\t5 " = .command "add" ["5"] := by
    decide +kernel
  have hs : (Route.ofLine session.dispatcher.contains " ADD\t5 ").Succeeds
      session.dispatcher.operations := by
    have hfew : ["5"].length < Standard.add.leastArguments := by decide
    rw [hr]
    refine ⟨Standard.add.operation, rfl, ?_⟩
    rw [Operation.Calculates, Standard.add.value_of_few hfew]
    simp
  obtain ⟨entry, reply, hreply, hentries, hc, hresult⟩ :=
    (records_successes (.start {} (.still 2 0)) " ADD\t5 " (by decide +kernel)).1 hs
  rw [hr] at hc
  exact ⟨entry, reply, hreply, hentries, (Option.some.inj hc).symm, hresult⟩

end Session

end Calculator
