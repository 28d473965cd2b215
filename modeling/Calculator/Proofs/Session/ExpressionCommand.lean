import Calculator.Proofs.Session.Spacing

/-!
An expression is calculated alike as a line of its own and as the arguments of the command for
expressions. The second way goes unrecorded, though it is the same calculation: the name of the command
is not that of an operation. So both ways leave the same history only if there is no value to record.
-/

namespace Calculator

open Command (Policy)

theorem History.push_ne (h : History) (e : Entry) : h.push e ≠ h := by
  intro heq
  have hlen : (h.entries ++ [e]).length = h.entries.length :=
    congrArg (fun history => history.entries.length) heq
  simp at hlen

theorem Expression.compact_join_words (line : String) :
    compact (String.join ((Text.words line.toList).map String.ofList)) = compact line := by
  have hj : (String.join ((Text.words line.toList).map String.ofList)).toList =
      (Text.words line.toList).flatten := by
    simp [String.toList_join, List.flatMap_map, List.flatMap_id']
  rw [compact, compact, hj, Text.flatten_words, List.filter_filter]
  simp only [Bool.and_self]

/-- The words of a line put together are the same expression. -/
theorem Command.Calculation.expressionText_join_words (line : String) :
    expressionText (String.join ((Text.words line.toList).map String.ofList)) =
      expressionText line := by
  unfold expressionText
  rw [Expression.evaluate_congr (congrArg _ (Expression.compact_join_words line))]

theorem Command.Calculation.expressionText_trim (line : String) :
    expressionText (String.ofList (Text.trim line.toList)) = expressionText line := by
  rw [← expressionText_join_words, String.toList_ofList, Text.words_trim, expressionText_join_words]

namespace Session

variable {config : Settings.Config} {environment : Settings.Environment} {host : Command.Host}
  {session : Session} {line text : String}

theorem callable_expression (h : BuiltFrom config environment host session) :
    Route.Callable session.dispatcher.contains Command.Calculation.expressionName where
  isWord := by
    have hm : Command.Calculation.expressionName.toList ∈
        Text.words Command.Calculation.expressionName.toList := by decide
    exact Text.isWord_of_mem_words hm
  lower_eq := by decide
  ne_history := by decide
  not_exit := by decide
  registered := by
    rw [h.dispatcher_eq, Command.Dispatcher.contains, Register.contains, Command.get?_expression]
    rfl

/-- The line that asks for an expression by the name of the command. -/
def asked (line : String) : String := Command.Calculation.expressionName ++ " " ++ line

theorem ofLine_asked (h : BuiltFrom config environment host session) (line : String) :
    Route.ofLine session.dispatcher.contains (asked line) =
      .command Command.Calculation.expressionName ((Text.words line.toList).map String.ofList) := by
  have hn := callable_expression h
  have hl : (asked line).toList = Command.Calculation.expressionName.toList ++ ' ' :: line.toList := by
    simp [asked]
  refine Route.ofLine_of_words hn ?_
  rw [hl, Text.words_append_blank (by decide), Text.words_of_not_blank hn.isWord.1 hn.isWord.2]
  simp

/-- No operation has the name of the command, so nothing is recorded. -/
theorem handle_asked (h : BuiltFrom config environment host session) (line : String) :
    let executed := session.execute .unchecked Command.Calculation.expressionName
      ((Text.words line.toList).map String.ofList)
    session.handle (asked line) = (.reply executed.1, executed.2) := by
  refine handle_of_command (ofLine_asked h line) ?_
  rw [h.operations_eq]
  decide +kernel

/-- An expression gets the same reply, costs the same and counts as the same command however it is
entered. The history tells the two ways apart if there is a value: the line of its own is recorded then,
and the one that begins with the name of the command is missing. -/
theorem handle_expression_and_asked (h : Reachable config environment host session)
    (hr : Route.ofLine session.dispatcher.contains line = .expression text) :
    let one := session.handle line
    let two := session.handle (asked line)
    let result := Command.Calculation.expressionText line
    one.1 = .reply ⟨.completed, result⟩ ∧ two.1 = .reply ⟨.completed, result⟩ ∧
      one.2.files = two.2.files ∧ one.2.state.clock = two.2.state.clock ∧
      one.2.state.usage = two.2.state.usage ∧
      two.2.history = session.history ∧
      ((∃ value, Expression.evaluate line = .ok value) → ∃ time, one.2.history =
        session.history.push ⟨time, Command.Calculation.expressionName, text, result⟩) ∧
      ((¬∃ value, Expression.evaluate line = .ok value) → one.2.history = session.history) := by
  intro one two result
  have hb := h.builtFrom
  obtain ⟨hreply, hfiles, hclock, husage, hhistory⟩ := handle_expression hb hr
  obtain ⟨hreply', hhistory', hfiles', hclock', husage'⟩ := execute_expression hb .unchecked
    ((Text.words line.toList).map String.ofList)
  have htext : Command.Calculation.expressionText text = result := by
    rw [(Route.eq_of_ofLine_expression hr).1]
    exact Command.Calculation.expressionText_trim line
  rw [htext] at hreply hhistory
  rw [Command.Calculation.expressionText_join_words] at hreply'
  have htwo : two = _ := handle_asked hb line
  have hrec := Command.Calculation.isRecordable_expressionText line
  rw [htwo]
  refine ⟨hreply, congrArg LineOutcome.reply hreply', hfiles.trans hfiles'.symm,
    hclock.trans hclock'.symm, husage.trans husage'.symm, hhistory', fun hv => ?_, fun hv => ?_⟩
  · rw [if_pos (hrec.mpr hv)] at hhistory
    exact ⟨_, hhistory⟩
  · rw [if_neg fun hr => hv (hrec.mp hr)] at hhistory
    exact hhistory

theorem ofLine_zero_plus_one :
    Route.ofLine (start {} {} nowhere {} (.still 2 0)).dispatcher.contains "0 + 1" =
      .expression "0 + 1" :=
  ofLine_of_call_zero (by decide) (by decide +kernel)

theorem expressionText_zero_plus_one : Command.Calculation.expressionText "0 + 1" = "1.0" := by
  decide +kernel

theorem isRecordable_zero_plus_one :
    isRecordable (Command.Calculation.expressionText "0 + 1") = true := by
  rw [expressionText_zero_plus_one]
  decide

/-- A sum in blanks, entered in both ways. -/
theorem handle_sum_and_asked :
    let session := start {} {} nowhere {} (.still 2 0)
    let one := session.handle "0 + 1"
    let two := session.handle (asked "0 + 1")
    asked "0 + 1" = "expression 0 + 1" ∧
      Route.ofLine session.dispatcher.contains "0 + 1" = .expression "0 + 1" ∧
      one.1 = .reply ⟨.completed, "1.0"⟩ ∧ two.1 = .reply ⟨.completed, "1.0"⟩ ∧
      one.2.state.usage = two.2.state.usage ∧ two.2.history.entries = [] ∧
      ∃ time, one.2.history.entries = [⟨time, "expression", "0 + 1", "1.0"⟩] := by
  dsimp only
  have hreachable : Reachable {} {} nowhere (start {} {} nowhere {} (.still 2 0)) :=
    .start {} (.still 2 0)
  have hv := (Command.Calculation.isRecordable_expressionText "0 + 1").mp isRecordable_zero_plus_one
  have hboth := handle_expression_and_asked hreachable ofLine_zero_plus_one
  dsimp only at hboth
  obtain ⟨hone, htwo, -, -, husage, hkept, hrecorded, -⟩ := hboth
  obtain ⟨time, hhistory⟩ := hrecorded hv
  have hnone : (start {} {} nowhere {} (.still 2 0)).history.entries = [] := rfl
  rw [expressionText_zero_plus_one] at hone htwo hhistory
  refine ⟨by decide, ofLine_zero_plus_one, hone, htwo, husage, ?_, time, ?_⟩
  · exact (congrArg History.entries hkept).trans hnone
  · rw [hhistory, History.push, hnone, List.nil_append]
    rfl

/-- A calculation is missing from the history when it is asked for by the name of the command. -/
theorem asked_is_not_recorded :
    ¬∀ (config : Settings.Config) (environment : Settings.Environment) (host : Command.Host)
      (session : Session) (line text : String), Reachable config environment host session →
      Route.ofLine session.dispatcher.contains line = .expression text →
      let one := session.handle line
      let two := session.handle (asked line)
      ∃ result, one.1 = .reply result ∧ two.1 = .reply result ∧
        ((∃ e e' : History.Entry, e.operation = "expression" ∧ e.result = result.text ∧
            e'.operation = "expression" ∧ e'.result = result.text ∧
            one.2.history = session.history.push e ∧ two.2.history = session.history.push e') ∨
          one.2.history = session.history ∧ two.2.history = session.history) := by
  intro hall
  have hreachable : Reachable {} {} nowhere (start {} {} nowhere {} (.still 2 0)) :=
    .start {} (.still 2 0)
  have hb := hreachable.builtFrom
  have hone := (handle_expression hb ofLine_zero_plus_one).2.2.2.2
  rw [if_pos isRecordable_zero_plus_one] at hone
  have htwo : ((start {} {} nowhere {} (.still 2 0)).handle (asked "0 + 1")).2.history =
      (start {} {} nowhere {} (.still 2 0)).history := by
    rw [handle_asked hb]
    exact (execute_expression hb .unchecked _).2.1
  obtain ⟨result, -, -, ⟨e, e', -, -, -, -, -, he⟩ | ⟨he, -⟩⟩ :=
    hall {} {} nowhere _ _ _ hreachable ofLine_zero_plus_one
  · exact History.push_ne _ e' (he.symm.trans htwo)
  · exact History.push_ne _ _ (hone.symm.trans he)

end Session

end Calculator
