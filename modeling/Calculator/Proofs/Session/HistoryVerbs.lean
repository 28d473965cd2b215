import Calculator.Proofs.Command.Policies
import Calculator.Proofs.Session.ExpressionCommand

/-!
The spellings of a command on the history. The verb may stand as a second word, after a hyphen, or right
after `history`, in any case of its letters; the same command runs with the same arguments. A second word
that is no verb is an argument of the command that shows the history.
-/

namespace Calculator

namespace Text

/-- A word is a name, the case of ASCII letters aside. -/
def InCaseOf (word : List Char) (name : String) : Prop :=
  word.map Char.toUpper = name.toList.map Char.toUpper

instance (word : List Char) (name : String) : Decidable (InCaseOf word name) :=
  inferInstanceAs (Decidable (word.map Char.toUpper = name.toList.map Char.toUpper))

theorem InCaseOf.lower_eq {word : List Char} {name : String} (h : InCaseOf word name)
    (hn : lower name.toList = name.toList) : lower word = name.toList :=
  (lower_eq_of_map_toUpper_eq h).trans hn

theorem InCaseOf.not_exit {word : List Char} {name : String} (h : InCaseOf word name)
    (hn : sameLetters name "exit" = false) : sameLetters (String.ofList word) "exit" = false := by
  rw [sameLetters_congr h, String.ofList_toList]
  exact hn

end Text

/-- The words of a line are some names, in any case of their letters, and then arguments as they stand. -/
def Enters (line : String) (names args : List String) : Prop :=
  ∃ words, Text.words line.toList = words ++ args.map String.toList ∧
    List.Forall₂ Text.InCaseOf words names

namespace Command

/-- Two desks with the same history and the same files. -/
structure SameRecords (desk desk' : Desk) : Prop where
  history_eq : desk.history = desk'.history
  files_eq : desk.files = desk'.files

/-- Two ends of a command with the same text, which leave the same history and files. -/
structure Alike (one other : Outcome × Desk) : Prop where
  text_eq : ∃ text, one.1 = .ok text ∧ other.1 = .ok text
  same : SameRecords one.2 other.2

/-- A command that never breaks off, and whose text and change of the history and the files come from
these and its arguments alone. -/
def Steady (command : Command) : Prop :=
  ∃ act, command = plain act ∧ ∀ args view view' (desk : Desk) notes runs,
    Alike (act args view desk) (act args view' { desk with notes := notes, runs := runs })

namespace Recorded

theorem steady_save : Steady save := by
  refine ⟨_, rfl, fun args view view' desk notes runs => ?_⟩
  dsimp only
  split
  · exact ⟨⟨_, rfl, rfl⟩, rfl, rfl⟩
  · generalize desk.history.save desk.files (sheetPath? args) = outcome
    obtain ⟨result, files⟩ := outcome
    cases result <;> exact ⟨⟨_, rfl, rfl⟩, rfl, rfl⟩

theorem loadFrom_alike (path? : Option String) (desk : Desk) (notes : List Log.Note)
    (runs : List Log.Run) :
    Alike (loadFrom path? desk) (loadFrom path? { desk with notes := notes, runs := runs }) := by
  unfold loadFrom
  dsimp only
  cases desk.history.load desk.files path? with
  | ok loaded => exact ⟨⟨_, rfl, rfl⟩, rfl, rfl⟩
  | error e => cases e <;> exact ⟨⟨_, rfl, rfl⟩, rfl, rfl⟩

theorem steady_load : Steady load := by
  refine ⟨_, rfl, fun args view view' desk notes runs => ?_⟩
  cases sheetPath? args with
  | none => exact loadFrom_alike none desk notes runs
  | some path =>
    dsimp only
    split
    · exact loadFrom_alike (some path) desk notes runs
    · exact ⟨⟨_, rfl, rfl⟩, rfl, rfl⟩

theorem steady_clear : Steady clear := by
  refine ⟨_, rfl, fun args view view' desk notes runs => ?_⟩
  dsimp only
  split <;> exact ⟨⟨_, rfl, rfl⟩, rfl, rfl⟩

theorem deleteAt_alike (index : Nat) (desk : Desk) (notes : List Log.Note) (runs : List Log.Run) :
    Alike (deleteAt index desk) (deleteAt index { desk with notes := notes, runs := runs }) := by
  unfold deleteAt
  dsimp only
  cases desk.history.delete? index <;> exact ⟨⟨_, rfl, rfl⟩, rfl, rfl⟩

theorem steady_delete : Steady delete := by
  refine ⟨_, rfl, fun args view view' desk notes runs => ?_⟩
  cases args with
  | nil => exact ⟨⟨_, rfl, rfl⟩, rfl, rfl⟩
  | cons arg rest =>
    dsimp only
    unfold deleteNamed
    split
    · exact ⟨⟨_, rfl, rfl⟩, rfl, rfl⟩
    · split
      · exact ⟨⟨_, rfl, rfl⟩, rfl, rfl⟩
      · exact deleteAt_alike _ desk notes runs

theorem steady_stats : Steady stats := by
  unfold stats saying
  exact ⟨_, rfl, fun args view view' desk notes runs => ⟨⟨_, rfl, rfl⟩, rfl, rfl⟩⟩

theorem steady_search : Steady search := by
  refine ⟨_, rfl, fun args view view' desk notes runs => ?_⟩
  split
  · exact ⟨⟨_, rfl, rfl⟩, rfl, rfl⟩
  · unfold searchFor
    dsimp only
    split <;> exact ⟨⟨_, rfl, rfl⟩, rfl, rfl⟩

end Recorded

theorem steady_historyVerbs : ∀ entry ∈ historyVerbs, Steady entry.2 := by
  simp only [historyVerbs, List.forall_mem_cons, List.not_mem_nil, false_implies, implies_true,
    and_true]
  exact ⟨Recorded.steady_save, Recorded.steady_load, Recorded.steady_clear, Recorded.steady_delete,
    Recorded.steady_stats, Recorded.steady_search⟩

/-- A steady command does not see under which of its names it runs. -/
theorem Steady.run_eq {command : Command} (hs : Steady command) {dispatcher : Dispatcher}
    {name other : String} (hn : dispatcher.commands.get? name = some command)
    (ho : dispatcher.commands.get? other = some command) (policy : Policy) (args : List String)
    (state : State) :
    (dispatcher.run policy name args state).1 = (dispatcher.run policy other args state).1 ∧
      SameRecords (dispatcher.run policy name args state).2.desk
        (dispatcher.run policy other args state).2.desk := by
  obtain ⟨act, rfl, hact⟩ := hs
  obtain ⟨view, -, hreply, hh, hf⟩ := Dispatcher.run_plain hn policy args state
  obtain ⟨view', -, hreply', hh', hf'⟩ := Dispatcher.run_plain ho policy args state
  obtain ⟨⟨text, ht, ht'⟩, hsame⟩ := hact args view view'
    { state.desk with runs := ⟨name, args.length⟩ :: state.desk.runs } state.desk.notes
    (⟨other, args.length⟩ :: state.desk.runs)
  rw [ht] at hreply
  rw [ht'] at hreply'
  exact ⟨hreply.trans hreply'.symm, hh.trans (hsame.history_eq.trans hh'.symm),
    hf.trans (hsame.files_eq.trans hf'.symm)⟩

/-- The names on the history are the names of no operation, and are written in lower case. -/
theorem historyNames_plain : ∀ name ∈ historyCommands.map Prod.fst,
    Operation.Catalogue.standard.contains name = false ∧ Text.lower name.toList = name.toList ∧
      Text.sameLetters name "exit" = false := by
  decide +kernel

theorem historyVerbs_plain : ∀ verb ∈ historyVerbs.map Prod.fst,
    Text.lower verb.toList = verb.toList ∧ "history-" ++ verb ≠ "history" ∧
      "history" ++ verb ≠ "history" := by
  decide +kernel

theorem mem_historyNames {verb : String} (hm : verb ∈ historyVerbs.map Prod.fst) :
    "history-" ++ verb ∈ historyCommands.map Prod.fst ∧
      "history" ++ verb ∈ historyCommands.map Prod.fst := by
  obtain ⟨entry, he, rfl⟩ := List.mem_map.mp hm
  unfold historyCommands
  rw [List.map_cons, List.map_flatMap]
  exact ⟨List.mem_cons_of_mem _ (List.mem_flatMap.mpr ⟨entry, he, by simp⟩),
    List.mem_cons_of_mem _ (List.mem_flatMap.mpr ⟨entry, he, by simp⟩)⟩

end Command

namespace Route

variable {isRegistered : String → Bool} {line name called : String} {args : List String}

/-- Where a line goes whose first word is a name of a command on the history, in any case. -/
theorem ofLine_of_historyName {first : List Char} {rest : List (List Char)}
    (hw : Text.words line.toList = first :: rest) (hf : Text.InCaseOf first name)
    (hn : name ∈ Command.historyCommands.map Prod.fst)
    (hj : joinVerb isRegistered name (rest.map String.ofList) = (called, args))
    (hr : isRegistered called = true) : ofLine isRegistered line = command called args := by
  obtain ⟨-, hlower, hexit⟩ := Command.historyNames_plain name hn
  have hcall : call isRegistered line = (called, args) := by
    rw [call, splitCommand, hw]
    dsimp only
    rw [hf.lower_eq hlower, String.ofList_toList]
    exact hj
  exact ofLine_of_call hw (hf.not_exit hexit) hcall hr

end Route

namespace Enters

variable {isRegistered : String → Bool} {line name verb word : String} {args : List String}

theorem words_of_one (h : Enters line [name] args) :
    ∃ word, Text.words line.toList = word :: args.map String.toList ∧ Text.InCaseOf word name := by
  obtain ⟨words, hw, hcase⟩ := h
  cases hcase with
  | cons hf hnil =>
    cases hnil
    exact ⟨_, hw, hf⟩

theorem words_of_two (h : Enters line [name, verb] args) :
    ∃ word second, Text.words line.toList = word :: second :: args.map String.toList ∧
      Text.InCaseOf word name ∧ Text.InCaseOf second verb := by
  obtain ⟨words, hw, hcase⟩ := h
  cases hcase with
  | cons hf ht =>
    cases ht with
    | cons hs hnil =>
      cases hnil
      exact ⟨_, _, hw, hf, hs⟩

/-- A name with the verb in it is the whole name. -/
theorem ofLine_name (h : Enters line [name] args)
    (hn : name ∈ Command.historyCommands.map Prod.fst) (hne : name ≠ "history")
    (hr : isRegistered name = true) : Route.ofLine isRegistered line = .command name args := by
  obtain ⟨first, hw, hf⟩ := h.words_of_one
  refine Route.ofLine_of_historyName hw hf hn ?_ hr
  rw [List.map_map, Route.joinVerb_of_ne hne]
  simp

/-- A verb in a word of its own is put after a hyphen. -/
theorem ofLine_verb (h : Enters line ["history", verb] args)
    (hv : Text.lower verb.toList = verb.toList) (hr : isRegistered ("history-" ++ verb) = true) :
    Route.ofLine isRegistered line = .command ("history-" ++ verb) args := by
  obtain ⟨first, second, hw, hf, hs⟩ := h.words_of_two
  have hjoined : "history-" ++ Text.lowercase (String.ofList second) = "history-" ++ verb := by
    rw [Text.lowercase, String.toList_ofList, hs.lower_eq hv, String.ofList_toList]
  refine Route.ofLine_of_historyName hw hf List.mem_cons_self ?_ hr
  unfold Route.joinVerb
  simp [hjoined, hr]

/-- A second word that is no verb stays the first argument. -/
theorem ofLine_word (h : Enters line ["history"] (word :: args))
    (hv : isRegistered ("history-" ++ Text.lowercase word) = false)
    (hr : isRegistered "history" = true) :
    Route.ofLine isRegistered line = .command "history" (word :: args) := by
  obtain ⟨first, hw, hf⟩ := h.words_of_one
  refine Route.ofLine_of_historyName hw hf List.mem_cons_self ?_ hr
  unfold Route.joinVerb
  simp [hv]

end Enters

namespace Session

variable {config : Settings.Config} {environment : Settings.Environment} {host : Command.Host}
  {session : Session} {line name : String} {args : List String}

/-- A line that goes to a command on the history only runs this command. -/
theorem handle_of_historyName (h : BuiltFrom config environment host session)
    (hn : name ∈ Command.historyCommands.map Prod.fst)
    (hr : Route.ofLine session.dispatcher.contains line = .command name args) :
    session.handle line =
      (.reply (session.execute .unchecked name args).1, (session.execute .unchecked name args).2) := by
  refine handle_of_command hr ?_
  rw [h.operations_eq]
  exact (Command.historyNames_plain name hn).1

/-- The spellings of a command on the history are one command. With the verb in a word of its own and
with the verb after a hyphen, a line leaves the same session, counts included; without the hyphen it gets
the same reply and leaves the same history and files. A second word that is no verb goes with the others
to the command that shows the history. -/
theorem handle_history_spellings (h : Reachable config environment host session) :
    (∀ verb ∈ ["save", "load", "clear", "delete", "stats", "search"],
      ∀ (args : List String) (one two three : String), Enters one ["history", verb] args →
        Enters two ["history-" ++ verb] args → Enters three ["history" ++ verb] args →
        let executed := session.execute .unchecked ("history-" ++ verb) args
        session.handle one = (.reply executed.1, executed.2) ∧
          session.handle two = session.handle one ∧
          (session.handle three).1 = (session.handle one).1 ∧
          (session.handle three).2.history = (session.handle one).2.history ∧
          (session.handle three).2.files = (session.handle one).2.files) ∧
    ∀ (line word : String) (args : List String), Enters line ["history"] (word :: args) →
      session.dispatcher.contains ("history-" ++ Text.lowercase word) = false →
      let executed := session.execute .unchecked "history" (word :: args)
      session.dispatcher.commands.get? "history" = some Command.Recorded.display ∧
        session.handle line = (.reply executed.1, executed.2) := by
  have hb := h.builtFrom
  have hdisplay : session.dispatcher.commands.get? "history" = some Command.Recorded.display := by
    rw [hb.dispatcher_eq]
    exact Command.Dispatcher.get?_history
  constructor
  · intro verb hm args one two three hone htwo hthree executed
    have hverb : verb ∈ Command.historyVerbs.map Prod.fst := hm
    obtain ⟨⟨verb', command⟩, he, hv⟩ := List.mem_map.mp hverb
    obtain rfl : verb' = verb := hv
    obtain ⟨hlower, hhyphen, hplain⟩ := Command.historyVerbs_plain verb' hverb
    obtain ⟨hmhyphen, hmplain⟩ := Command.mem_historyNames hverb
    obtain ⟨hget, hget'⟩ : session.dispatcher.commands.get? ("history-" ++ verb') = some command ∧
        session.dispatcher.commands.get? ("history" ++ verb') = some command := by
      rw [hb.dispatcher_eq]
      exact Command.Dispatcher.get?_historyVerb he
    have hr := Command.Dispatcher.contains_eq_true_iff.mpr ⟨command, hget⟩
    have hr' := Command.Dispatcher.contains_eq_true_iff.mpr ⟨command, hget'⟩
    have h1 := handle_of_historyName hb hmhyphen (hone.ofLine_verb hlower hr)
    have h2 := handle_of_historyName hb hmhyphen (htwo.ofLine_name hmhyphen hhyphen hr)
    have h3 := handle_of_historyName hb hmplain (hthree.ofLine_name hmplain hplain hr')
    obtain ⟨hreply, hhistory, hfiles⟩ := (Command.steady_historyVerbs _ he).run_eq hget' hget
      .unchecked args session.state
    rw [h1, h2, h3]
    exact ⟨rfl, rfl, congrArg LineOutcome.reply hreply, hhistory, hfiles⟩
  · intro line word args hline hw executed
    have hr := Command.Dispatcher.contains_eq_true_iff.mpr ⟨_, hdisplay⟩
    exact ⟨hdisplay, handle_of_historyName hb List.mem_cons_self (hline.ofLine_word hw hr)⟩

/-- The only entry is deleted in three spellings, each of which leaves an empty table, and a number is no
verb. -/
theorem handle_history_delete_and_number :
    let session := ((start {} {} nowhere {} (.still 2 0)).handle "add 1 2").2
    let one := session.handle "HISTORY Delete 0"
    let three := session.handle "historydelete 0"
    Enters "HISTORY Delete 0" ["history", "delete"] ["0"] ∧
      Enters "\tHistory-DELETE  0" ["history-delete"] ["0"] ∧
      Enters "historydelete 0" ["historydelete"] ["0"] ∧ Enters "History 5" ["history"] ["5"] ∧
      session.history.entries = [⟨"1970-01-01 00:00:02", "add", "1 2", "3.0"⟩] ∧
      session.handle "\tHistory-DELETE  0" = one ∧
      one.1 = .reply ⟨.completed, "Deleted history entry at index 0."⟩ ∧ three.1 = one.1 ∧
      one.2.history.entries = [] ∧ three.2.history.entries = [] ∧
      (session.handle "History 5").1 = .reply ⟨.completed,
        "\n=== Calculation History ===\n0: [1970-01-01 00:00:02] add 1 2 = 3.0\n" ++
          "\nShowing 1 of 1 entries.\nUse 'history <number>' to limit entries shown.\n" ++
          "Use 'history-save' to save history to a file."⟩ := by
  intro session one three
  have hreachable : Reachable {} {} nowhere session := .handle (.start {} (.still 2 0)) "add 1 2"
  obtain ⟨hverbs, hwords⟩ := handle_history_spellings hreachable
  have hone : Enters "HISTORY Delete 0" ["history", "delete"] ["0"] :=
    ⟨["HISTORY".toList, "Delete".toList], by decide, .cons (by decide) (.cons (by decide) .nil)⟩
  have htwo : Enters "\tHistory-DELETE  0" ["history-delete"] ["0"] :=
    ⟨["History-DELETE".toList], by decide, .cons (by decide) .nil⟩
  have hthree : Enters "historydelete 0" ["historydelete"] ["0"] :=
    ⟨["historydelete".toList], by decide, .cons (by decide) .nil⟩
  have hfive : Enters "History 5" ["history"] ["5"] :=
    ⟨["History".toList], by decide, .cons (by decide) .nil⟩
  -- what the two commands do to the one entry, run by their names
  have hruns : session.dispatcher.contains ("history-" ++ Text.lowercase "5") = false ∧
      session.history.entries = [⟨"1970-01-01 00:00:02", "add", "1 2", "3.0"⟩] ∧
      (session.execute .unchecked ("history-" ++ "delete") ["0"]).1 =
        ⟨.completed, "Deleted history entry at index 0."⟩ ∧
      (session.execute .unchecked ("history-" ++ "delete") ["0"]).2.history.entries = [] ∧
      (session.execute .unchecked "history" ["5"]).1 = ⟨.completed,
        "\n=== Calculation History ===\n0: [1970-01-01 00:00:02] add 1 2 = 3.0\n" ++
          "\nShowing 1 of 1 entries.\nUse 'history <number>' to limit entries shown.\n" ++
          "Use 'history-save' to save history to a file."⟩ := by
    decide +kernel
  obtain ⟨hno, hentries, hdeleted, hleft, hlisted⟩ := hruns
  obtain ⟨hran, hsame, hreply, hhistory, -⟩ := hverbs "delete" (by decide) ["0"] _ _ _ hone htwo hthree
  have hshown : (session.handle "History 5").1 =
      .reply (session.execute .unchecked "history" ["5"]).1 :=
    congrArg Prod.fst (hwords "History 5" "5" [] hfive hno).2
  have hempty : (session.handle "HISTORY Delete 0").2.history.entries = [] := by
    simp only [hran, hleft]
  exact ⟨hone, htwo, hthree, hfive, hentries, hsame,
    (congrArg Prod.fst hran).trans (congrArg LineOutcome.reply hdeleted), hreply, hempty,
    (congrArg History.entries hhistory).trans hempty,
    hshown.trans (congrArg LineOutcome.reply hlisted)⟩

end Session

end Calculator
