import Calculator.Program
import Calculator.Proofs.Session.Lines

/-!
A conversation is the fold of its lines: the lines up to the first that asks for the end are handled one
after the other, what they reply is printed in their order, and the session is shut down after them.
-/

namespace Calculator

namespace Session

/-- Whether a line asks for the end. -/
def asksForEnd (session : Session) (line : String) : Bool :=
  decide (Route.ofLine session.dispatcher.contains line = .exit)

/-- The lines before the first that asks for the end. -/
def heeded (session : Session) (lines : List String) : List String :=
  lines.takeWhile (!session.asksForEnd ·)

/-- What lines come to when they are handled one by one. -/
def outcomes (session : Session) : List String → List LineOutcome
  | [] => []
  | line :: lines => (session.handle line).1 :: (session.handle line).2.outcomes lines

variable {session : Session} {line : String}

theorem asksForEnd_handle (session : Session) (line : String) :
    (session.handle line).2.asksForEnd = session.asksForEnd := by
  funext other
  rw [asksForEnd, dispatcher_handle, asksForEnd]

theorem handle_of_asksForEnd (h : session.asksForEnd line = true) :
    session.handle line = (.exit, session) := by
  rw [handle, of_decide_eq_true h]

theorem handle_ne_exit (h : session.asksForEnd line = false) : (session.handle line).1 ≠ .exit := by
  have hr : Route.ofLine session.dispatcher.contains line ≠ .exit := of_decide_eq_false h
  unfold handle
  split
  · nofun
  next he => exact absurd he hr
  · nofun
  · nofun

theorem heeded_cons_of_asksForEnd (h : session.asksForEnd line = true) (lines : List String) :
    session.heeded (line :: lines) = [] := by
  simp [heeded, h]

theorem heeded_cons (h : session.asksForEnd line = false) (lines : List String) :
    session.heeded (line :: lines) = line :: (session.handle line).2.heeded lines := by
  simp [heeded, h, asksForEnd_handle]

end Session

namespace Conversation

/-- The lines that are delivered before anything else is. -/
def linesOf : List Input → List String
  | .line text :: rest => text :: linesOf rest
  | _ => []

/-- The ending that comes about where no line asks for the end. -/
def silence : List Input → Ending
  | .line _ :: rest => silence rest
  | .unreadable :: _ => .unreadable
  | .torn :: _ => .broken
  | .finished :: _ => .endOfInput
  | [] => .endOfInput

/-- The ending that inputs bring about. -/
def endingOf (session : Session) (inputs : List Input) : Ending :=
  if (linesOf inputs).any session.asksForEnd then .exit else silence inputs

variable {session : Session} {text : String}

theorem silence_ne_exit (inputs : List Input) : silence inputs ≠ .exit := by
  induction inputs with
  | nil => nofun
  | cons input inputs ih =>
    cases input with
    | line text => exact ih
    | unreadable | torn | finished => nofun

theorem endingOf_eq_exit_iff {inputs : List Input} :
    endingOf session inputs = .exit ↔ (linesOf inputs).any session.asksForEnd = true := by
  unfold endingOf
  split
  next h => exact iff_of_true rfl h
  next h => exact iff_of_false (silence_ne_exit inputs) h

theorem step_of_asksForEnd (h : session.asksForEnd text = true) :
    step session (.line text) = (("", session), some .exit) := by
  simp only [step, Session.handle_of_asksForEnd h]
  rfl

theorem step_of_not (h : session.asksForEnd text = false) :
    step session (.line text) =
      ((printed (session.handle text).1, (session.handle text).2), none) := by
  simp only [step, if_neg (Session.handle_ne_exit h)]

theorem endingOf_line_of_asksForEnd (h : session.asksForEnd text = true) (inputs : List Input) :
    endingOf session (.line text :: inputs) = .exit := by
  simp [endingOf, linesOf, h]

theorem endingOf_line (h : session.asksForEnd text = false) (inputs : List Input) :
    endingOf session (.line text :: inputs) = endingOf (session.handle text).2 inputs := by
  simp [endingOf, linesOf, silence, h, Session.asksForEnd_handle]

/-- What is printed, which ending comes about and which session is left. By induction on the inputs: a
line that does not ask for the end leaves a session that takes the same lines for the end. -/
theorem converse_eq (prompt : String) (session : Session) (inputs : List Input) :
    let heeded := session.heeded (linesOf inputs)
    let transcript := converse prompt session inputs
    String.join transcript.printed =
        String.join ((session.outcomes heeded).map (prompt ++ printed ·)) ++ prompt ∧
      transcript.ending = endingOf session inputs ∧ transcript.session = session.handleAll heeded := by
  induction inputs generalizing session with
  | nil => exact ⟨by simp [converse, linesOf, Session.heeded, Session.outcomes], rfl, rfl⟩
  | cons input inputs ih =>
    cases input with
    | line text =>
      cases ha : session.asksForEnd text with
      | true =>
        simp only [converse, step_of_asksForEnd ha, linesOf, Session.heeded_cons_of_asksForEnd ha,
          endingOf_line_of_asksForEnd ha]
        exact ⟨by simp [Session.outcomes], trivial, rfl⟩
      | false =>
        obtain ⟨hprinted, hending, hsession⟩ := ih (session.handle text).2
        simp only [converse, step_of_not ha, linesOf, Session.heeded_cons ha, endingOf_line ha]
        refine ⟨?_, hending, hsession⟩
        simp only [Session.outcomes, List.map_cons, String.join_cons, hprinted, String.append_assoc]
    | unreadable | torn | finished =>
      exact ⟨by simp [converse, step, linesOf, Session.heeded, Session.outcomes], rfl, rfl⟩

/-- Inputs with a line that asks for the end, cut off after it, are lines alone. -/
theorem take_of_any_asksForEnd {inputs : List Input}
    (h : (linesOf inputs).any session.asksForEnd = true) :
    ∃ line, session.asksForEnd line = true ∧
      inputs.take ((session.heeded (linesOf inputs)).length + 1) =
        (session.heeded (linesOf inputs) ++ [line]).map .line := by
  induction inputs with
  | nil => simp [linesOf] at h
  | cons input inputs ih =>
    cases input with
    | unreadable | torn | finished => simp [linesOf] at h
    | line text =>
      cases ha : session.asksForEnd text with
      | true =>
        refine ⟨text, ha, ?_⟩
        simp [linesOf, Session.heeded, ha]
      | false =>
        have hrest : (linesOf inputs).any session.asksForEnd = true := by
          simpa [linesOf, ha] using h
        obtain ⟨line, hl, ht⟩ := ih hrest
        refine ⟨line, hl, ?_⟩
        simpa [linesOf, Session.heeded, ha] using ht

theorem linesOf_append (lines : List String) (rest : List Input) :
    linesOf (lines.map .line ++ rest) = lines ++ linesOf rest := by
  induction lines with
  | nil => rfl
  | cons line lines ih => rw [List.map_cons, List.cons_append, linesOf, ih, List.cons_append]

/-- What follows the line that asks for the end is not looked at. -/
theorem heeded_of_prefix {inputs others : List Input}
    (h : (linesOf inputs).any session.asksForEnd = true)
    (hp : inputs.take ((session.heeded (linesOf inputs)).length + 1) <+: others) :
    session.heeded (linesOf others) = session.heeded (linesOf inputs) ∧
      endingOf session others = endingOf session inputs := by
  obtain ⟨line, hl, ht⟩ := take_of_any_asksForEnd h
  rw [ht] at hp
  obtain ⟨rest, rfl⟩ := hp
  have hothers : linesOf ((session.heeded (linesOf inputs) ++ [line]).map .line ++ rest) =
      session.heeded (linesOf inputs) ++ line :: linesOf rest := by
    rw [linesOf_append, List.append_assoc, List.singleton_append]
  have hheeded : ∀ other ∈ session.heeded (linesOf inputs), (!session.asksForEnd other) = true :=
    List.all_eq_true.mp List.all_takeWhile
  constructor
  · rw [hothers, Session.heeded, List.takeWhile_append_of_pos hheeded,
      List.takeWhile_cons_of_neg (by simp [hl]), List.append_nil]
  · have hany : (linesOf ((session.heeded (linesOf inputs) ++ [line]).map .line ++ rest)).any
        session.asksForEnd = true := by
      rw [hothers]
      simp [hl]
    rw [endingOf, endingOf, if_pos hany, if_pos h]

/-- The session at its end, with a note of why there is no more input if nobody asked for the end. -/
def shutDown (session : Session) (ending : Ending) : Session :=
  (ending.reason?.elim session fun reason =>
    session.note .error .loop "Unexpected end" [("error", reason)]).shutdown

theorem closed_eq {ending : Ending} (h : ending ≠ .broken) (session : Session) :
    closed session ending = shutDown session ending := by
  cases ending with
  | broken => exact absurd rfl h
  | exit | endOfInput | unreadable => rfl

theorem status_eq {ending : Ending} (h : ending ≠ .broken) : ending.status = 0 := by
  cases ending with
  | broken => exact absurd rfl h
  | exit | endOfInput | unreadable => rfl

/-- What a whole conversation prints, how it ends and which session it leaves. -/
theorem run_eq (prompt : String) {session : Session} {inputs : List Input}
    (h : endingOf (opened session) inputs ≠ .broken) :
    let first := opened session
    let heeded := first.heeded (linesOf inputs)
    let transcript := run prompt session inputs
    String.join transcript.printed =
        banner ++ String.join ((first.outcomes heeded).map (prompt ++ printed ·)) ++ prompt ++
          (endingOf first inputs).farewell ∧
      transcript.ending = endingOf first inputs ∧
      transcript.session = shutDown (first.handleAll heeded) (endingOf first inputs) := by
  obtain ⟨hprinted, hending, hsession⟩ := converse_eq prompt (opened session) inputs
  refine ⟨?_, hending, ?_⟩
  · simp only [run, String.join_append, String.join_cons, String.join_nil, String.append_empty,
      hprinted, hending, String.append_assoc]
  · simp only [run, hending, hsession, closed_eq h]

end Conversation

namespace Program

open Conversation (banner linesOf inputsIn opened printed endingOf shutDown)

/-- A prompt is printed on plain terminals only. -/
theorem prompt_of_start {s : Surroundings} {program : Program} {files : Files.Tree}
    {env : Settings.Environment} (h : start s = (.ok program, files))
    (he : completeEnvironment s = some env) :
    program.prompt = promptFor program.session.config env := by
  unfold start at h
  rw [he] at h
  dsimp only at h
  split at h
  · cases h
  next config _ =>
    unfold startWith at h
    split at h
    · cases h
    · cases h
      have hc := (Session.builtFrom_start config env s.host files s.clock).config_eq
      exact congrArg (promptFor · env) hc.symm

theorem run_of_start {s : Surroundings} {program : Program} {files : Files.Tree}
    (h : start s = (.ok program, files)) {content : ByteArray}
    (he : endingOf (opened program.session) (inputsIn content) ≠ .broken) :
    let session := opened program.session
    let heeded := session.heeded (linesOf (inputsIn content))
    let ending := endingOf session (inputsIn content)
    let last := shutDown (session.handleAll heeded) ending
    run s content =
      { status := 0
        printed := banner ++
          String.join ((session.outcomes heeded).map (program.prompt ++ printed ·)) ++
          program.prompt ++ ending.farewell
        complaint := ""
        files := writeLog program.log (logLines program.log last) last.files } := by
  obtain ⟨hprinted, hending, hsession⟩ := Conversation.run_eq program.prompt he
  simp only [run, h, converse, hprinted, hending, hsession, Conversation.status_eq he]

/-- A run is the fold of its lines. Lines are handled up to the first that asks for the end, and their
replies are printed in order, each after the prompt, which is empty but on a plain terminal. Then the
session is shut down. What follows a line that asks for the end has no effect. Left out is a run that
breaks off at a line whose backspaces would tear a character: it ends with status 101 and is not shut
down. -/
theorem run_folds_lines (s : Surroundings) (program : Program) (files : Files.Tree)
    (content : ByteArray) (h : start s = (.ok program, files)) :
    let session := opened program.session
    let heeded := session.heeded (linesOf (inputsIn content))
    let ending := endingOf session (inputsIn content)
    let last := shutDown (session.handleAll heeded) ending
    (ending ≠ .broken → run s content =
      { status := 0
        printed := banner ++
          String.join ((session.outcomes heeded).map (program.prompt ++ printed ·)) ++
          program.prompt ++ ending.farewell
        complaint := ""
        files := writeLog program.log (logLines program.log last) last.files }) ∧
    (ending = .exit → ∀ other : ByteArray,
      (inputsIn content).take (heeded.length + 1) <+: inputsIn other → run s other = run s content) ∧
    ∀ env, completeEnvironment s = some env →
      program.prompt =
        if (env.get? "TERM").any fun name => plainTerminals.any (Text.sameLetters name) then
          program.session.config.repl.prompt
        else "" := by
  intro session heeded ending last
  refine ⟨run_of_start h, ?_, fun env he => prompt_of_start h he⟩
  intro he other hp
  have hany := Conversation.endingOf_eq_exit_iff.mp he
  obtain ⟨hheeded, hending⟩ := Conversation.heeded_of_prefix hany hp
  have hne : ending ≠ .broken := by
    rw [he]
    nofun
  have hother : endingOf session (inputsIn other) ≠ .broken := hending ▸ hne
  rw [run_of_start h hother, run_of_start h hne, hheeded, hending]

/-- A program that starts. -/
def started (s : Surroundings) (h : (start s).1.toOption.isSome) : Program :=
  (start s).1.toOption.get h

theorem start_eq_started {s : Surroundings} (h : (start s).1.toOption.isSome) :
    start s = (.ok (started s h), (start s).2) := by
  obtain ⟨program, hp⟩ := Option.isSome_iff_exists.mp h
  have hstart : (start s).1 = .ok program := by
    cases hs : (start s).1 with
    | error e =>
      rw [hs] at hp
      cases hp
    | ok other =>
      rw [hs] at hp
      cases hp
      rfl
  have hstarted : started s h = program := Option.get_of_eq_some h hp
  exact Prod.ext (hstart.trans (congrArg _ hstarted.symm)) rfl

def surroundingsOn (terminal : String) : Surroundings where
  environment := .ofList [("TERM", terminal)]
  clock := .still 2 0
  host := Session.nowhere

theorem starts_on_xterm : (start (surroundingsOn "xterm")).1.toOption.isSome = true := by
  decide +kernel

theorem starts_on_dumb : (start (surroundingsOn "dumb")).1.toOption.isSome = true := by
  decide +kernel

/-- A sum, a blank line and a line that asks for the end come to one reply and the goodbye, whatever
follows them. -/
theorem run_of_sum_and_exit :
    let s := surroundingsOn "xterm"
    let content := "add 1 2\n\nEXIT\nadd 1 1\n".toUTF8
    (started s starts_on_xterm).prompt = "" ∧
      (run s content).printed =
        banner ++ "3.0\nThank you for using Abacus Calculator. Goodbye!\n" ∧
      (run s content).status = 0 ∧ run s "add 1 2\n\nEXIT\n".toUTF8 = run s content := by
  intro s content
  obtain ⟨hrun, hother, hprompt⟩ :=
    run_folds_lines s _ _ content (start_eq_started starts_on_xterm)
  have hending : endingOf (opened (started s starts_on_xterm).session) (inputsIn content) = .exit := by
    decide +kernel
  have hne : endingOf (opened (started s starts_on_xterm).session) (inputsIn content) ≠ .broken := by
    rw [hending]
    nofun
  refine ⟨(hprompt s.environment rfl).trans (by decide +kernel), ?_, ?_,
    hother hending _ (by decide +kernel)⟩
  · rw [hrun hne]
    decide +kernel
  · rw [hrun hne]

/-- A plain terminal is shown more than the replies. -/
theorem run_prints_prompt : ¬ ∀ (s : Surroundings) (program : Program) (files : Files.Tree)
    (content : ByteArray), start s = (.ok program, files) →
    let session := opened program.session
    let ending := endingOf session (inputsIn content)
    ending ≠ .broken → (run s content).printed =
      banner ++ String.join ((session.outcomes (session.heeded (linesOf (inputsIn content)))).map
        printed) ++ ending.farewell := by
  intro h
  have hprinted := h (surroundingsOn "dumb") _ _ "\nexit\n".toUTF8 (start_eq_started starts_on_dumb)
    (by decide +kernel)
  exact absurd hprinted (by decide +kernel)

end Program

end Calculator
