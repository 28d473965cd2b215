import Calculator.Proofs.Session.Recording
import Calculator.Proofs.Text.LetterCase

/-!
Blanks between words and the case of the first word make no difference to what a line does. Two lines
with the same words go the same way; only an expression that is recorded is recorded as it was typed.
-/

namespace Calculator

open Command (Reply Policy)

namespace Expression

theorem isAllowed_toUpper (c : Char) : isAllowed c.toUpper = isAllowed c :=
  Text.apply_toUpper isAllowed (by decide) c

theorem toUpper_of_isAllowed {c : Char} (hc : isAllowed c = true) : c.toUpper = c := by
  refine Text.toUpper_of_not_isLetter fun hl => ?_
  unfold Text.IsLetter at hl
  simp only [isAllowed, Bool.or_eq_true, beq_iff_eq] at hc
  rcases hc with ((((((hc | rfl) | rfl) | rfl) | rfl) | rfl) | rfl) | rfl
  · simp only [Char.isDigit, Bool.and_eq_true, decide_eq_true_eq] at hc
    have hfirst : 48 ≤ c.toNat := hc.1
    have hlast : c.toNat ≤ 57 := hc.2
    omega
  all_goals exact absurd hl (by decide)

theorem all_isAllowed_map_toUpper (cs : List Char) :
    (cs.map Char.toUpper).all isAllowed = cs.all isAllowed := by
  have hp : isAllowed ∘ Char.toUpper = isAllowed := by
    funext c
    rw [Function.comp_apply, isAllowed_toUpper]
  rw [List.all_map, hp]

theorem map_toUpper_of_all_isAllowed {cs : List Char} (h : cs.all isAllowed = true) :
    cs.map Char.toUpper = cs := by
  calc cs.map Char.toUpper
      = cs.map id := List.map_congr_left fun c hc =>
        toUpper_of_isAllowed (List.all_eq_true.mp h c hc)
    _ = cs := List.map_id cs

theorem evaluate_of_not_allowed {s : String} (h : (compact s).all isAllowed = false) :
    evaluate s = .error .invalidCharacters := by
  have hc : check (compact s) = .error .invalidCharacters := by
    unfold check
    cases hs : compact s with
    | nil =>
      rw [hs] at h
      cases h
    | cons c cs =>
      rw [hs] at h
      simp [h]
  unfold evaluate
  dsimp only
  rw [hc]
  rfl

/-- Letters are not allowed, whatever their case, so texts that differ in it fail alike. -/
theorem evaluate_congr {s t : String}
    (h : (compact s).map Char.toUpper = (compact t).map Char.toUpper) : evaluate s = evaluate t := by
  have hall : (compact s).all isAllowed = (compact t).all isAllowed := by
    rw [← all_isAllowed_map_toUpper, h, all_isAllowed_map_toUpper]
  cases hs : (compact s).all isAllowed with
  | false => rw [evaluate_of_not_allowed hs, evaluate_of_not_allowed (hall ▸ hs)]
  | true =>
    have ht : (compact t).all isAllowed = true := hall ▸ hs
    rw [map_toUpper_of_all_isAllowed hs, map_toUpper_of_all_isAllowed ht] at h
    unfold evaluate
    rw [h]

end Expression

namespace Route

theorem hasOperator_map_toUpper (cs : List Char) :
    hasOperator (cs.map Char.toUpper) = hasOperator cs := by
  unfold hasOperator
  rw [List.any_map]
  congr 1
  funext c
  exact Text.apply_toUpper (fun c => c == '+' || c == '-' || c == '*' || c == '/') (by decide) c

theorem hasOperator_filter (cs : List Char) :
    hasOperator (cs.filter (!Text.isBlank ·)) = hasOperator cs := by
  unfold hasOperator
  rw [List.any_filter]
  congr 1
  funext c
  cases hb : Text.isBlank c with
  | false => rfl
  | true =>
    refine (Bool.eq_false_iff.mpr fun ho => ?_).symm
    simp only [Bool.or_eq_true, beq_iff_eq] at ho
    rcases ho with ((rfl | rfl) | rfl) | rfl <;> exact absurd hb (by decide)

theorem hasOperator_trim (cs : List Char) :
    hasOperator (Text.trim cs) = hasOperator (cs.filter (!Text.isBlank ·)) := by
  rw [← hasOperator_filter, ← Text.flatten_words, Text.words_trim, Text.flatten_words]

/-- A line with an operator goes to the evaluator if its first word is neither registered nor all
letters. -/
theorem ofLine_of_operator {isRegistered : String → Bool} {line : String}
    (ho : hasOperator (Text.trim line.toList) = true)
    (hr : isRegistered (call isRegistered line).1 = false)
    (hw : Text.isAlphabeticWord (call isRegistered line).1.toList = false) :
    ofLine isRegistered line = expression (String.ofList (Text.trim line.toList)) := by
  have hempty : (Text.trim line.toList).isEmpty = false := by
    cases ht : Text.trim line.toList with
    | nil =>
      rw [ht] at ho
      cases ho
    | cons c cs => rfl
  have hexit : Text.sameLetters (String.ofList (Text.trim line.toList)) "exit" = false := by
    refine Bool.eq_false_iff.mpr fun hx => ?_
    have hu := congrArg String.toList (beq_iff_eq.mp hx)
    rw [Text.asciiUpper, String.toList_ofList, String.toList_ofList] at hu
    rw [← hasOperator_map_toUpper, hu] at ho
    exact absurd ho (by decide)
  rw [call, ← splitCommand_trim] at hr hw
  unfold ofLine
  dsimp only at hr hw ⊢
  rw [hempty, hexit, hr, ho, hw]
  rfl

end Route

/-- Lines with the same words, the case of ASCII letters in the first word aside. -/
def SameWords (line other : String) : Prop :=
  (Text.words line.toList).modifyHead (·.map Char.toUpper) =
    (Text.words other.toList).modifyHead (·.map Char.toUpper)

instance (line other : String) : Decidable (SameWords line other) :=
  inferInstanceAs (Decidable ((Text.words line.toList).modifyHead (·.map Char.toUpper) =
    (Text.words other.toList).modifyHead (·.map Char.toUpper)))

namespace SameWords

variable {line other : String}

theorem cases (h : SameWords line other) :
    (Text.words line.toList = [] ∧ Text.words other.toList = []) ∨
      ∃ first first' rest, Text.words line.toList = first :: rest ∧
        Text.words other.toList = first' :: rest ∧
        first.map Char.toUpper = first'.map Char.toUpper := by
  unfold SameWords at h
  cases hone : Text.words line.toList with
  | nil =>
    cases htwo : Text.words other.toList with
    | nil => exact .inl ⟨rfl, rfl⟩
    | cons first' rest' =>
      rw [hone, htwo] at h
      cases h
  | cons first rest =>
    cases htwo : Text.words other.toList with
    | nil =>
      rw [hone, htwo] at h
      cases h
    | cons first' rest' =>
      rw [hone, htwo] at h
      obtain ⟨hfirst, rfl⟩ := List.cons.inj h
      exact .inr ⟨first, first', rest, rfl, rfl, hfirst⟩

theorem trim (h : SameWords line other) :
    SameWords (String.ofList (Text.trim line.toList)) (String.ofList (Text.trim other.toList)) := by
  unfold SameWords
  rw [String.toList_ofList, String.toList_ofList, Text.words_trim, Text.words_trim]
  exact h

theorem symm (h : SameWords line other) : SameWords other line := Eq.symm h

theorem compact (h : SameWords line other) :
    (Expression.compact line).map Char.toUpper = (Expression.compact other).map Char.toUpper := by
  unfold Expression.compact
  rw [← Text.flatten_words, ← Text.flatten_words]
  rcases h.cases with ⟨hone, htwo⟩ | ⟨first, first', rest, hone, htwo, hfirst⟩
  · rw [hone, htwo]
  · rw [hone, htwo, List.flatten_cons, List.flatten_cons, List.map_append, List.map_append, hfirst]

/-- What is said of an expression does not tell lines with the same words apart. -/
theorem expressionText (h : SameWords line other) :
    Command.Calculation.expressionText line = Command.Calculation.expressionText other := by
  unfold Command.Calculation.expressionText
  rw [Expression.evaluate_congr h.compact]

theorem isEmpty_trim (h : SameWords line other) :
    (Text.trim line.toList).isEmpty = (Text.trim other.toList).isEmpty := by
  rw [Bool.eq_iff_iff, List.isEmpty_iff, List.isEmpty_iff, Text.trim_eq_nil_iff, Text.trim_eq_nil_iff]
  rcases h.cases with ⟨hone, htwo⟩ | ⟨first, first', rest, hone, htwo, -⟩
  · rw [hone, htwo]
  · rw [hone, htwo]
    simp

theorem splitCommand_trim (h : SameWords line other) :
    Route.splitCommand (Text.trim line.toList) = Route.splitCommand (Text.trim other.toList) := by
  rw [Route.splitCommand_trim, Route.splitCommand_trim, Route.splitCommand, Route.splitCommand]
  rcases h.cases with ⟨hone, htwo⟩ | ⟨first, first', rest, hone, htwo, hfirst⟩
  · rw [hone, htwo]
  · rw [hone, htwo]
    simp only [Text.lower_eq_of_map_toUpper_eq hfirst]

/-- A line that asks to exit is one word, which another line with the same words is too. -/
theorem exit_of_exit (h : SameWords line other)
    (hx : Text.sameLetters (String.ofList (Text.trim line.toList)) "exit" = true) :
    Text.sameLetters (String.ofList (Text.trim other.toList)) "exit" = true := by
  have hone := Text.words_of_sameLetters hx
  rw [String.toList_ofList, Text.words_trim] at hone
  rcases h.cases with ⟨hnone, -⟩ | ⟨first, first', rest, hline, hother, hfirst⟩
  · rw [hnone] at hone
    cases hone
  · rw [hline] at hone
    obtain ⟨hw, rfl⟩ := List.cons.inj hone
    rw [Text.trim_of_words_eq_singleton hother, ← Text.sameLetters_congr hfirst, hw]
    exact hx

theorem exit_trim (h : SameWords line other) :
    Text.sameLetters (String.ofList (Text.trim line.toList)) "exit" =
      Text.sameLetters (String.ofList (Text.trim other.toList)) "exit" := by
  rw [Bool.eq_iff_iff]
  exact ⟨h.exit_of_exit, h.symm.exit_of_exit⟩

theorem hasOperator_trim (h : SameWords line other) :
    Route.hasOperator (Text.trim line.toList) = Route.hasOperator (Text.trim other.toList) := by
  have hc := congrArg Route.hasOperator h.compact
  rw [Route.hasOperator_map_toUpper, Route.hasOperator_map_toUpper] at hc
  rw [Route.hasOperator_trim, Route.hasOperator_trim]
  exact hc

/-- Lines with the same words go the same way; an expression goes there as it was typed. -/
theorem ofLine (h : SameWords line other) (isRegistered : String → Bool) :
    Route.ofLine isRegistered line = Route.ofLine isRegistered other ∨
      (Route.ofLine isRegistered line = .expression (String.ofList (Text.trim line.toList)) ∧
        Route.ofLine isRegistered other = .expression (String.ofList (Text.trim other.toList))) := by
  unfold Route.ofLine
  dsimp only
  rw [h.isEmpty_trim, h.exit_trim, h.splitCommand_trim, h.hasOperator_trim]
  split
  · exact .inl rfl
  · split
    · exact .inl rfl
    · split
      · exact .inr ⟨rfl, rfl⟩
      · exact .inl rfl

end SameWords

namespace Session

variable {config : Settings.Config} {environment : Settings.Environment} {host : Command.Host}
  {session : Session} {line other : String}

/-- Recording changes nothing but the history. -/
theorem recordReply_cases (session : Session) (operation inputs : String) (reply : Reply) :
    let recorded := session.recordReply operation inputs reply
    recorded.files = session.files ∧ recorded.state.clock = session.state.clock ∧
      recorded.state.usage = session.state.usage ∧
      recorded.history =
        if isResult reply then
          session.history.add session.state.clock.now operation inputs reply.text
        else session.history := by
  intro recorded
  have hr : recorded = session.recordReply operation inputs reply := rfl
  rw [hr, recordReply]
  split
  · exact ⟨rfl, rfl, rfl, rfl⟩
  · exact ⟨rfl, rfl, rfl, rfl⟩

/-- The command for expressions is timed and counted like any other and changes nothing else. -/
theorem execute_expression (h : BuiltFrom config environment host session) (policy : Policy)
    (args : List String) :
    let started := session.state.clock.look
    let ended := started.2.look
    let executed := session.execute policy Command.Calculation.expressionName args
    executed.1 = ⟨.completed, Command.Calculation.expressionText (String.join args)⟩ ∧
      executed.2.history = session.history ∧ executed.2.files = session.files ∧
      executed.2.state.clock = ended.2 ∧
      executed.2.state.usage = session.state.usage.record Command.Calculation.expressionName
        (ended.1 - started.1) ended.2.now := by
  intro started ended executed
  have hg : session.dispatcher.commands.get? Command.Calculation.expressionName =
      some (.saying fun args _ _ => Command.Calculation.expressionText (String.join args)) := by
    rw [h.dispatcher_eq]
    exact Command.get?_expression environment host
  obtain ⟨view, -, hreply, hhistory, hfiles⟩ :=
    Command.Dispatcher.run_plain hg policy args session.state
  obtain ⟨hclock, husage⟩ := Command.Dispatcher.run_plain_timed hg policy args session.state
  exact ⟨hreply, hhistory, hfiles, hclock, husage⟩

/-- All that a line for the evaluator does depends on its value, but for the inputs of the entry. -/
theorem handle_expression (h : BuiltFrom config environment host session) {text : String}
    (hr : Route.ofLine session.dispatcher.contains line = .expression text) :
    let started := session.state.clock.look
    let ended := started.2.look
    let result := Command.Calculation.expressionText text
    let handled := session.handle line
    handled.1 = .reply ⟨.completed, result⟩ ∧ handled.2.files = session.files ∧
      handled.2.state.clock = ended.2 ∧
      handled.2.state.usage = session.state.usage.record Command.Calculation.expressionName
        (ended.1 - started.1) ended.2.now ∧
      handled.2.history =
        if isRecordable result then
          session.history.add ended.2.now Command.Calculation.expressionName text result
        else session.history := by
  intro started ended result handled
  let executed := session.execute .checked Command.Calculation.expressionName [text]
  have hhandled : handled = (.reply executed.1,
      executed.2.recordReply Command.Calculation.expressionName text executed.1) := by
    change session.handle line = _
    unfold handle
    rw [hr]
    rfl
  obtain ⟨hreply, hhistory, hfiles, hclock, husage⟩ := execute_expression h .checked [text]
  have hjoin : String.join [text] = text := String.empty_append
  rw [hjoin] at hreply
  change executed.1 = ⟨.completed, result⟩ at hreply
  change executed.2.history = session.history at hhistory
  change executed.2.state.clock = ended.2 at hclock
  obtain ⟨hf, hc, hu, hh⟩ := executed.2.recordReply_cases Command.Calculation.expressionName text
    executed.1
  rw [hhandled]
  refine ⟨congrArg LineOutcome.reply hreply, hf.trans hfiles, hc.trans hclock, hu.trans husage, ?_⟩
  rw [hh, hreply, hhistory, hclock]
  rfl

theorem handle_congr (h : Route.ofLine session.dispatcher.contains line =
    Route.ofLine session.dispatcher.contains other) : session.handle line = session.handle other := by
  unfold handle
  rw [h]

/-- Lines with the same words come to the same: the reply, the files, the clock and the usage of
commands are those of the other line, and so is the history, unless an expression is recorded. Then the
entries differ in their inputs, which are the lines without the blanks at their ends. -/
theorem handle_of_sameWords (h : Reachable config environment host session)
    (hw : SameWords line other) :
    let one := session.handle line
    let two := session.handle other
    one.1 = two.1 ∧ one.2.files = two.2.files ∧ one.2.state.clock = two.2.state.clock ∧
      one.2.state.usage = two.2.state.usage ∧
      (one.2.history = two.2.history ∨
        ∃ time result,
          let inputs := String.ofList (Text.trim line.toList)
          let inputs' := String.ofList (Text.trim other.toList)
          Route.ofLine session.dispatcher.contains line = .expression inputs ∧
          Route.ofLine session.dispatcher.contains other = .expression inputs' ∧
          one.2.history = session.history.push
            ⟨time, Command.Calculation.expressionName, inputs, result⟩ ∧
          two.2.history = session.history.push
            ⟨time, Command.Calculation.expressionName, inputs', result⟩) := by
  intro one two
  rcases hw.ofLine session.dispatcher.contains with hsame | ⟨hline, hother⟩
  · have heq : one = two := handle_congr hsame
    rw [heq]
    exact ⟨rfl, rfl, rfl, rfl, .inl rfl⟩
  · obtain ⟨hreply, hfiles, hclock, husage, hhistory⟩ := handle_expression h.builtFrom hline
    obtain ⟨hreply', hfiles', hclock', husage', hhistory'⟩ := handle_expression h.builtFrom hother
    have htext := hw.trim.expressionText
    rw [← htext] at hreply' hhistory'
    refine ⟨hreply.trans hreply'.symm, hfiles.trans hfiles'.symm, hclock.trans hclock'.symm,
      husage.trans husage'.symm, ?_⟩
    split at hhistory
    next hrec =>
      rw [if_pos hrec] at hhistory'
      exact .inr ⟨_, _, hline, hother, hhistory, hhistory'⟩
    next hrec =>
      rw [if_neg hrec] at hhistory'
      exact .inl (hhistory.trans hhistory'.symm)

theorem ofLine_of_call_zero {line : String} (ho : Route.hasOperator (Text.trim line.toList) = true)
    (hc : (Route.call (start {} {} nowhere {} (.still 2 0)).dispatcher.contains line).1 = "0") :
    Route.ofLine (start {} {} nowhere {} (.still 2 0)).dispatcher.contains line =
      .expression (String.ofList (Text.trim line.toList)) := by
  have hzero : (start {} {} nowhere {} (.still 2 0)).dispatcher.contains "0" = false := by
    decide +kernel
  refine Route.ofLine_of_operator ho ?_ ?_
  · rw [hc, hzero]
  · rw [hc, Text.isAlphabeticWord_zero]

/-- Blanks of several kinds between the words of a quotient, which is recorded as it was typed. -/
theorem handle_quotient_with_blanks :
    let session := start {} {} nowhere {} (.still 2 0)
    let inputs := fun line => (session.handle line).2.history.entries.map History.Entry.inputs
    SameWords "\t0  /0 " "0\u2003/0" ∧
      (session.handle "0\u2003/0").1 = .reply ⟨.completed, "nan"⟩ ∧
      (session.handle "\t0  /0 ").1 = (session.handle "0\u2003/0").1 ∧
      (session.handle "\t0  /0 ").2.state.usage = (session.handle "0\u2003/0").2.state.usage ∧
      inputs "\t0  /0 " = ["0  /0"] ∧ inputs "0\u2003/0" = ["0\u2003/0"] := by
  intro session inputs
  have hw : SameWords "\t0  /0 " "0\u2003/0" := by decide
  have hb : BuiltFrom {} {} nowhere session := builtFrom_start {} {} nowhere {} (.still 2 0)
  have hone : Route.ofLine session.dispatcher.contains "\t0  /0 " = .expression "0  /0" :=
    ofLine_of_call_zero (by decide) (by decide +kernel)
  have htwo : Route.ofLine session.dispatcher.contains "0\u2003/0" = .expression "0\u2003/0" :=
    ofLine_of_call_zero (by decide) (by decide +kernel)
  have hinputs : ∀ {line text : String}, Route.ofLine session.dispatcher.contains line =
      .expression text → Command.Calculation.expressionText text = "nan" → inputs line = [text] := by
    intro line text hr ht
    obtain ⟨-, -, -, -, hhistory⟩ := handle_expression hb hr
    rw [ht, if_pos (by decide)] at hhistory
    exact congrArg (fun history => history.entries.map History.Entry.inputs) hhistory
  have htext : Command.Calculation.expressionText "0\u2003/0" = "nan" := by decide +kernel
  have hreachable : Reachable {} {} nowhere session := .start {} (.still 2 0)
  obtain ⟨hsame, -, -, husage, -⟩ := handle_of_sameWords hreachable hw
  obtain ⟨hreply, -, -, -, -⟩ := handle_expression hb htwo
  rw [htext] at hreply
  exact ⟨hw, hreply, hsame, husage, hinputs hone (by decide +kernel), hinputs htwo htext⟩

end Session

end Calculator
