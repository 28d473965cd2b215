import Calculator.Proofs.Command.Running

/-!
What the standard commands may do to the history and the files. Each of them looks once, changes the
desk once and asks for no other command; which change it can make is fixed by its name.
-/

namespace Calculator.Command

/-- The names of a command on the history. -/
def spellings (verb : String) : List String := ["history-" ++ verb, "history" ++ verb]

/-- A change of the history and the files by the command of a name. -/
inductive Effect (name : String) (before after : Desk) : Prop where
  | none (hh : after.history = before.history) (hf : after.files = before.files)
  | saved (hn : name ∈ spellings "save") (path? : Option String)
      (hh : after.history = before.history)
      (hf : after.files = (before.history.save before.files path?).2)
  | loaded (hn : name ∈ spellings "load") (path? : Option String) (path : String)
      (hl : before.history.load before.files path? = .ok (path, after.history))
      (hf : after.files = before.files)
  | cleared (hn : name ∈ spellings "clear") (hh : after.history = before.history.clear)
      (hf : after.files = before.files)
  | deleted (hn : name ∈ spellings "delete") (index : Nat) (entry : History.Entry)
      (hd : before.history.delete? index = some (entry, after.history))
      (hf : after.files = before.files)

/-- A command that looks once and then does nothing but what its name allows. -/
def HasEffect (name : String) (command : Command) : Prop :=
  ∃ act, command = plain act ∧ ∀ args view desk, Effect name desk (act args view desk).2

variable {name : String} {before after : Desk}

theorem Effect.congr {before' after' : Desk} (h : Effect name before after)
    (hbh : before'.history = before.history) (hbf : before'.files = before.files)
    (hah : after'.history = after.history) (haf : after'.files = after.files) :
    Effect name before' after' := by
  cases h with
  | none hh hf => exact .none (by rw [hah, hh, hbh]) (by rw [haf, hf, hbf])
  | saved hn path? hh hf =>
    exact .saved hn path? (by rw [hah, hh, hbh]) (by rw [haf, hf, hbh, hbf])
  | loaded hn path? path hl hf =>
    exact .loaded hn path? path (by rw [hah, hbh, hbf, hl]) (by rw [haf, hf, hbf])
  | cleared hn hh hf => exact .cleared hn (by rw [hah, hh, hbh]) (by rw [haf, hf, hbf])
  | deleted hn index entry hd hf =>
    exact .deleted hn index entry (by rw [hah, hbh, hd]) (by rw [haf, hf, hbf])

theorem HasEffect.saying (text : List String → View → Desk → String) :
    HasEffect name (.saying text) :=
  ⟨_, rfl, fun _ _ _ => .none rfl rfl⟩

namespace Recorded

theorem hasEffect_display : HasEffect name display := by
  refine ⟨_, rfl, fun args view desk => ?_⟩
  dsimp only
  split
  · exact .none rfl rfl
  · split <;> exact .none rfl rfl

theorem hasEffect_save (hn : name ∈ spellings "save") : HasEffect name save := by
  refine ⟨_, rfl, fun args view desk => ?_⟩
  dsimp only
  split
  · exact .none rfl rfl
  · generalize hs : desk.history.save desk.files (sheetPath? args) = outcome
    obtain ⟨result, files⟩ := outcome
    refine .saved hn (sheetPath? args) ?_ ?_
    · cases result <;> rfl
    · rw [hs]
      cases result <;> rfl

theorem effect_loadFrom (hn : name ∈ spellings "load") (path? : Option String) (desk : Desk) :
    Effect name desk (loadFrom path? desk).2 := by
  unfold loadFrom
  split
  next e he => cases e <;> exact .none rfl rfl
  next path history hl => exact .loaded hn path? path hl rfl

theorem hasEffect_load (hn : name ∈ spellings "load") : HasEffect name load := by
  refine ⟨_, rfl, fun args view desk => ?_⟩
  split
  · exact effect_loadFrom hn _ desk
  · split
    · exact effect_loadFrom hn _ desk
    · exact .none rfl rfl

theorem hasEffect_clear (hn : name ∈ spellings "clear") : HasEffect name clear := by
  refine ⟨_, rfl, fun args view desk => ?_⟩
  split
  · exact .none rfl rfl
  · exact .cleared hn rfl rfl

theorem effect_deleteAt (hn : name ∈ spellings "delete") (index : Nat) (desk : Desk) :
    Effect name desk (deleteAt index desk).2 := by
  unfold deleteAt
  split
  next entry history hd => exact .deleted hn index entry hd rfl
  next => exact .none rfl rfl

theorem hasEffect_delete (hn : name ∈ spellings "delete") : HasEffect name delete := by
  refine ⟨_, rfl, fun args view desk => ?_⟩
  split
  · exact .none rfl rfl
  · unfold deleteNamed
    split
    · exact .none rfl rfl
    · split
      · exact .none rfl rfl
      · exact effect_deleteAt hn _ desk

theorem hasEffect_search : HasEffect name search := by
  refine ⟨_, rfl, fun args view desk => ?_⟩
  split
  · exact .none rfl rfl
  · unfold searchFor
    dsimp only
    split <;> exact .none rfl rfl

end Recorded

theorem hasEffect_operation (operation : String) : HasEffect name (Calculation.operation operation) := by
  refine ⟨_, rfl, fun args view desk => ?_⟩
  split <;> exact .none rfl rfl

theorem hasEffect_menu : HasEffect name Guide.menu := by
  refine ⟨_, rfl, fun args view desk => ?_⟩
  split <;> exact .none rfl rfl

theorem hasEffect_systemInfo : HasEffect name Tools.systemInfo := by
  refine ⟨_, rfl, fun args view desk => ?_⟩
  split <;> exact .none rfl rfl

theorem hasEffect_historyCommands : ∀ entry ∈ historyCommands, HasEffect entry.1 entry.2 := by
  have hverbs : ∀ entry ∈ historyVerbs, ∀ name ∈ spellings entry.1, HasEffect name entry.2 := by
    simp only [historyVerbs, List.forall_mem_cons, List.not_mem_nil, false_implies, implies_true,
      and_true]
    exact ⟨fun _ => Recorded.hasEffect_save, fun _ => Recorded.hasEffect_load,
      fun _ => Recorded.hasEffect_clear, fun _ => Recorded.hasEffect_delete,
      fun _ _ => .saying _, fun _ _ => Recorded.hasEffect_search⟩
  intro entry he
  rcases List.mem_cons.mp he with rfl | he
  · exact Recorded.hasEffect_display
  · obtain ⟨⟨verb, command⟩, hv, he⟩ := List.mem_flatMap.mp he
    simp only [List.mem_cons, List.not_mem_nil, or_false] at he
    rcases he with rfl | rfl
    · exact hverbs _ hv _ (by simp [spellings])
    · exact hverbs _ hv _ (by simp [spellings])

theorem hasEffect_toolCommands : ∀ entry ∈ toolCommands, HasEffect entry.1 entry.2 := by
  simp only [toolCommands, List.forall_mem_cons, List.not_mem_nil, false_implies, implies_true,
    and_true]
  exact ⟨.saying _, .saying _, hasEffect_systemInfo, hasEffect_systemInfo, .saying _, hasEffect_menu,
    .saying _, .saying _⟩

theorem hasEffect_standardCommands (operations : Operation.Catalogue) :
    ∀ entry ∈ standardCommands operations, HasEffect entry.1 entry.2 := by
  intro entry he
  rcases List.mem_append.mp he with he | he
  · rcases List.mem_append.mp he with he | he
    · obtain ⟨name, -, rfl⟩ := List.mem_map.mp he
      exact hasEffect_operation name
    · exact hasEffect_historyCommands entry he
  · exact hasEffect_toolCommands entry he

namespace Dispatcher

variable {dispatcher : Dispatcher} {command : Command}

theorem mem_of_get?_addAll {commands : List (String × Command)}
    (h : (dispatcher.addAll commands).commands.get? name = some command) :
    (name, command) ∈ commands ∨ dispatcher.commands.get? name = some command := by
  induction commands generalizing dispatcher with
  | nil => exact .inr h
  | cons entry commands ih =>
    obtain ⟨other, first⟩ := entry
    rcases @ih ((dispatcher.add? other first).getD dispatcher) h with hm | hg
    · exact .inl (List.mem_cons_of_mem _ hm)
    · by_cases hn : name = other
      · subst hn
        cases hb : Text.isBlankName name with
        | true =>
          rw [add?, if_pos hb] at hg
          exact .inr hg
        | false =>
          rw [get?_add? hb] at hg
          cases hg
          exact .inl List.mem_cons_self
      · rw [get?_add?_of_ne hn] at hg
        exact .inr hg

theorem effect_run (h : ∀ command, dispatcher.commands.get? name = some command → HasEffect name command)
    (policy : Policy) (args : List String) (state : State) :
    Effect name state.desk (dispatcher.run policy name args state).2.desk := by
  cases hc : dispatcher.commands.get? name with
  | none =>
    rw [run, dispatch_of_get?_eq_none hc maxDepth policy args state]
    exact .none rfl rfl
  | some command =>
    obtain ⟨act, rfl, hact⟩ := h command hc
    obtain ⟨view, -, -, hh, hf⟩ := run_plain hc policy args state
    let desk : Desk := { state.desk with runs := ⟨name, args.length⟩ :: state.desk.runs }
    exact (hact args view desk).congr rfl rfl hh hf

theorem hasEffect_of_get?_addStandard {environment : Settings.Environment} {host : Host}
    (h : (Session.dispatcherIn environment host).commands.get? name = some command) :
    HasEffect name command := by
  rcases mem_of_get?_addAll h with hm | hn
  · exact hasEffect_standardCommands _ _ hm
  · cases hn

end Dispatcher

end Calculator.Command
