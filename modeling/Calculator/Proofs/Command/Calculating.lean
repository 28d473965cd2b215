import Calculator.Proofs.Command.Effects
import Calculator.Proofs.Operation.Values

/-!
The commands that calculate, as they are filed in a session: which names they have, and what comes of
running them. Running one leaves the history as it is.
-/

namespace Calculator

namespace Operation

theorem Catalogue.names_standard : Catalogue.standard.names =
    ["add", "divide", "mean", "median", "multiply", "stddev", "subtract"] := by
  decide +kernel

namespace Standard

variable (kind : Standard)

theorem name_mem_standard : kind.name ∈ Catalogue.standard.names := by
  rw [Catalogue.names_standard]
  cases kind <;> decide

theorem contains_standard : Catalogue.standard.contains kind.name = true :=
  Register.contains_iff.mpr kind.name_mem_standard

theorem create?_standard : Catalogue.standard.create? kind.name = some kind.operation := by
  cases kind <;> rfl

end Standard

theorem Catalogue.exists_standard {name : String} (h : Catalogue.standard.contains name = true) :
    ∃ kind : Standard, kind.name = name := by
  have hm : name ∈ Catalogue.standard.names := Register.contains_iff.mp h
  rw [Catalogue.names_standard] at hm
  simp only [List.mem_cons, List.not_mem_nil, or_false] at hm
  rcases hm with rfl | rfl | rfl | rfl | rfl | rfl | rfl
  · exact ⟨.add, rfl⟩
  · exact ⟨.divide, rfl⟩
  · exact ⟨.mean, rfl⟩
  · exact ⟨.median, rfl⟩
  · exact ⟨.multiply, rfl⟩
  · exact ⟨.stddev, rfl⟩
  · exact ⟨.subtract, rfl⟩

end Operation

namespace Command

open Operation (Catalogue Standard)

namespace Dispatcher

variable {dispatcher : Dispatcher} {name : String} {command : Command}

theorem get?_addAll_of_mem {commands : List (String × Command)} (hm : (name, command) ∈ commands)
    (hn : (commands.map Prod.fst).Nodup) (hb : Text.isBlankName name = false) :
    (dispatcher.addAll commands).commands.get? name = some command := by
  obtain ⟨before, after, rfl⟩ := List.append_of_mem hm
  refine get?_addAll hb ?_
  rw [List.map_append, List.map_cons] at hn
  exact (List.nodup_cons.mp (List.nodup_append.mp hn).2.1).1

theorem operations_add (dispatcher : Dispatcher) (name : String) (command : Command) :
    ((dispatcher.add? name command).getD dispatcher).operations = dispatcher.operations := by
  unfold add?
  split <;> rfl

theorem operations_addAll (dispatcher : Dispatcher) (commands : List (String × Command)) :
    (dispatcher.addAll commands).operations = dispatcher.operations := by
  induction commands generalizing dispatcher with
  | nil => rfl
  | cons entry commands ih => exact (ih _).trans (operations_add dispatcher entry.1 entry.2)

end Dispatcher

theorem nodup_standardCommands :
    ((standardCommands Catalogue.standard).map Prod.fst).Nodup := by
  decide +kernel

variable (environment : Settings.Environment) (host : Host)

theorem operations_dispatcherIn :
    (Session.dispatcherIn environment host).operations = Catalogue.standard :=
  Dispatcher.operations_addAll _ _

theorem get?_standard (kind : Standard) :
    (Session.dispatcherIn environment host).commands.get? kind.name =
      some (Calculation.operation kind.name) := by
  refine Dispatcher.get?_addAll_of_mem (List.mem_append_left _ (List.mem_append_left _ ?_))
    nodup_standardCommands (by cases kind <;> decide)
  exact List.mem_map.mpr ⟨kind.name, kind.name_mem_standard, rfl⟩

theorem get?_expression :
    (Session.dispatcherIn environment host).commands.get? Calculation.expressionName =
      some (.saying fun args _ _ => Calculation.expressionText (String.join args)) := by
  refine Dispatcher.get?_addAll_of_mem (List.mem_append_right _ ?_) nodup_standardCommands (by decide)
  exact List.mem_of_getLast? rfl

/-- The command of an operation replies with the text of the operation. -/
theorem run_standard (kind : Standard) {args : List String} {text : String}
    (ht : kind.operation.execute args = .ok text) (policy : Policy) (state : State) :
    ((Session.dispatcherIn environment host).run policy kind.name args state).1 = ⟨.completed, text⟩ ∧
      ((Session.dispatcherIn environment host).run policy kind.name args state).2.desk.history =
        state.desk.history := by
  obtain ⟨view, ho, hr, hh, -⟩ :=
    Dispatcher.run_plain (get?_standard environment host kind) policy args state
  rw [operations_dispatcherIn] at ho
  rw [hr, hh, ho]
  simp only [kind.create?_standard, Calculation.outcome, ht, and_true]
  rfl

theorem run_expression (policy : Policy) (args : List String) (state : State) :
    ((Session.dispatcherIn environment host).run policy Calculation.expressionName args state).1 =
        ⟨.completed, Calculation.expressionText (String.join args)⟩ ∧
      ((Session.dispatcherIn environment host).run policy Calculation.expressionName args
        state).2.desk.history = state.desk.history := by
  obtain ⟨view, -, hr, hh, -⟩ :=
    Dispatcher.run_plain (get?_expression environment host) policy args state
  exact ⟨hr, hh⟩

end Command

end Calculator
