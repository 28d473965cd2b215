import Calculator.Proofs.Command.Calculating
import Calculator.Proofs.Command.Policies

/-!
Names are bound late, and the last binding counts. Whatever is filed as an operation or as a command,
and in whatever order, a register holds the things that were filed last under their names. A command for
an operation looks the operation up when it runs, so it does not matter what was filed first.
-/

namespace Calculator

/-- The thing that counts for a name among all that was filed: a name that is not blank, under which
nothing was filed later. -/
def Latest {α : Type} (filed : List (String × α)) (name : String) (thing : α) : Prop :=
  Text.isBlankName name = false ∧
    ∃ before after, filed = before ++ (name, thing) :: after ∧ name ∉ after.map Prod.fst

theorem latest_concat_iff {α : Type} {filed : List (String × α)} {name other : String}
    {thing new : α} :
    Latest (filed ++ [(other, new)]) name thing ↔
      (Text.isBlankName name = false ∧ name = other ∧ thing = new) ∨
        name ≠ other ∧ Latest filed name thing := by
  constructor
  · rintro ⟨hb, before, after, hf, hn⟩
    rcases List.eq_nil_or_concat after with rfl | ⟨after, entry, rfl⟩
    · obtain ⟨-, he⟩ := List.append_inj' hf rfl
      cases he
      exact .inl ⟨hb, rfl, rfl⟩
    · have hsplit : filed ++ [(other, new)] = (before ++ (name, thing) :: after) ++ [entry] := by
        rw [hf]
        simp
      obtain ⟨rfl, he⟩ := List.append_inj' hsplit rfl
      cases he
      rw [List.concat_eq_append, List.map_append, List.mem_append, not_or] at hn
      exact .inr ⟨fun he => hn.2 (by simp [he]), hb, before, after, rfl, hn.1⟩
  · rintro (⟨hb, rfl, rfl⟩ | ⟨hne, hb, before, after, rfl, hn⟩)
    · exact ⟨hb, filed, [], rfl, List.not_mem_nil⟩
    · refine ⟨hb, before, after ++ [(other, new)], by simp, ?_⟩
      simpa [hne] using hn

namespace Register

variable {α : Type} {r : Register α} {filed : List (String × α)} {name : String}

/-- A register holds the things that count among all that was filed. -/
def Follows (r : Register α) (filed : List (String × α)) : Prop :=
  ∀ name thing, r.get? name = some thing ↔ Latest filed name thing

theorem follows_empty : (empty : Register α).Follows [] := by
  intro name thing
  simp [Latest]

/-- Filing keeps a register in step; nothing is filed under a blank name. -/
theorem Follows.file (h : r.Follows filed) (name : String) (thing : α) :
    (if Text.isBlankName name then r else r.insert name thing).Follows (filed ++ [(name, thing)]) := by
  intro asked found
  rw [latest_concat_iff]
  by_cases he : asked = name
  · subst he
    cases hb : Text.isBlankName asked with
    | true =>
      have hnone : ¬Latest filed asked found := fun hl => by
        rw [hl.1] at hb
        cases hb
      simp [h asked found, hnone]
    | false => simp [eq_comm]
  · have hkept : (if Text.isBlankName name then r else r.insert name thing).get? asked =
        r.get? asked := by
      split
      · rfl
      · exact get?_insert_of_ne r thing he
    simp [hkept, h asked found, he]

theorem Follows.mem_names_iff (h : r.Follows filed) :
    name ∈ r.names ↔ ∃ thing, Latest filed name thing := by
  rw [← contains_iff, contains, Option.isSome_iff_exists]
  exact exists_congr fun thing => h name thing

end Register

namespace Operation.Catalogue

variable {catalogue : Catalogue} {filed : List (String × Maker)}

theorem follows_add (h : catalogue.makers.Follows filed) (name : String) (maker : Maker) :
    ((catalogue.add? name maker).getD catalogue).makers.Follows (filed ++ [(name, maker)]) := by
  have hfile := h.file name maker
  unfold add?
  split at hfile <;> simp [*]

theorem follows_addStandard (h : catalogue.makers.Follows filed) (kinds : List Standard) :
    (catalogue.addStandard kinds).makers.Follows
      (filed ++ kinds.map fun kind => (kind.name, .ok kind.operation)) := by
  induction kinds generalizing catalogue filed with
  | nil => simpa [addStandard] using h
  | cons kind kinds ih =>
    have hb : Text.isBlankName kind.name = false := by cases kind <;> decide
    have hone := h.file kind.name (.ok kind.operation)
    rw [hb] at hone
    have hrest := @ih ⟨_⟩ _ hone
    rw [List.append_assoc] at hrest
    exact hrest

/-- No operation can be made under a name: nothing counts for it, or making what counts ends in a
fault. -/
def Missing (filed : List (String × Maker)) (name : String) : Prop :=
  (¬∃ maker, Latest filed name maker) ∨ ∃ fault, Latest filed name (.error fault)

theorem create?_eq_some_iff (h : catalogue.makers.Follows filed) {name : String} {op : Operation} :
    catalogue.create? name = some op ↔ Latest filed name (.ok op) := by
  rw [← h name (.ok op), create?]
  cases catalogue.makers.get? name with
  | none => simp
  | some maker => cases maker <;> simp [Except.toOption]

theorem create?_eq_none_iff (h : catalogue.makers.Follows filed) {name : String} :
    catalogue.create? name = none ↔ Missing filed name := by
  simp only [Missing, ← h name, create?]
  cases catalogue.makers.get? name with
  | none => simp
  | some maker => cases maker <;> simp [Except.toOption]

end Operation.Catalogue

namespace Command

open Operation (Catalogue Maker Standard)

namespace Dispatcher

variable {dispatcher : Dispatcher} {filed : List (String × Command)}

theorem follows_add (h : dispatcher.commands.Follows filed) (name : String) (command : Command) :
    ((dispatcher.add? name command).getD dispatcher).commands.Follows
      (filed ++ [(name, command)]) := by
  have hfile := h.file name command
  unfold add?
  split at hfile <;> simp [*]

theorem follows_addAll (h : dispatcher.commands.Follows filed) (commands : List (String × Command)) :
    (dispatcher.addAll commands).commands.Follows (filed ++ commands) := by
  induction commands generalizing dispatcher filed with
  | nil => simpa [addAll] using h
  | cons entry commands ih =>
    have hrest := ih (follows_add h entry.1 entry.2)
    rw [List.append_assoc] at hrest
    exact hrest

end Dispatcher

/-- What may be done with the two registers of a program: operations are filed or done away with,
commands are filed, and a command is asked for. -/
inductive Turn where
  | fileOperation (name : String) (maker : Maker)
  | fileOperations (kinds : List Standard)
  | emptyOperations
  | fileCommand (name : String) (command : Command)
  | fileCommands
  | dispatch (policy : Policy) (name : String) (args : List String)

/-- The two registers in use, with an account of what was filed: as commands so far, and as operations
since there were none. -/
structure Account where
  dispatcher : Dispatcher
  state : State
  operations : List (String × Maker) := []
  commands : List (String × Command) := []

namespace Account

def play (depth : Nat) (account : Account) : Turn → Account
  | .fileOperation name maker =>
    let catalogue := account.dispatcher.operations
    { account with
      dispatcher := { account.dispatcher with
        operations := (catalogue.add? name maker).getD catalogue }
      operations := account.operations ++ [(name, maker)] }
  | .fileOperations kinds =>
    { account with
      dispatcher := { account.dispatcher with
        operations := account.dispatcher.operations.addStandard kinds }
      operations := account.operations ++ kinds.map fun kind => (kind.name, .ok kind.operation) }
  | .emptyOperations =>
    { account with dispatcher := { account.dispatcher with operations := ⟨.empty⟩ }, operations := [] }
  | .fileCommand name command =>
    { account with
      dispatcher := (account.dispatcher.add? name command).getD account.dispatcher
      commands := account.commands ++ [(name, command)] }
  | .fileCommands =>
    { account with
      dispatcher := account.dispatcher.addStandard
      commands := account.commands ++ standardCommands account.dispatcher.operations }
  | .dispatch policy name args =>
    { account with
      state := (account.dispatcher.dispatch depth policy name args account.state).2 }

/-- Both registers hold what counts of the account. -/
structure Sound (account : Account) : Prop where
  operations : account.dispatcher.operations.makers.Follows account.operations
  commands : account.dispatcher.commands.Follows account.commands

variable {account : Account}

theorem Sound.play (h : account.Sound) (depth : Nat) (turn : Turn) :
    (account.play depth turn).Sound := by
  obtain ⟨ho, hc⟩ := h
  cases turn with
  | fileOperation name maker => exact ⟨Catalogue.follows_add ho name maker, hc⟩
  | fileOperations kinds => exact ⟨Catalogue.follows_addStandard ho kinds, hc⟩
  | emptyOperations => exact ⟨Register.follows_empty, hc⟩
  | fileCommand name command =>
    refine ⟨?_, Dispatcher.follows_add hc name command⟩
    rw [← Dispatcher.operations_add account.dispatcher name command] at ho
    exact ho
  | fileCommands =>
    refine ⟨?_, Dispatcher.follows_addAll hc _⟩
    rw [← Dispatcher.operations_addAll account.dispatcher
      (standardCommands account.dispatcher.operations)] at ho
    exact ho
  | dispatch policy name args => exact ⟨ho, hc⟩

/-- One turn after another. -/
def playAll (depth : Nat) (account : Account) (turns : List Turn) : Account :=
  turns.foldl (play depth) account

theorem Sound.playAll (h : account.Sound) (depth : Nat) (turns : List Turn) :
    (account.playAll depth turns).Sound := by
  induction turns generalizing account with
  | nil => exact h
  | cons turn turns ih => exact ih (h.play depth turn)

end Account

/-- What comes of the command for an operation is fixed by the operations there are when it runs. -/
theorem Dispatcher.body_operation (dispatcher : Dispatcher) (depth : Nat) (name operation : String)
    (args : List String) (state : State) :
    (dispatcher.body depth name (Calculation.operation operation) args state).1 =
      match dispatcher.operations.create? operation with
      | some op => Calculation.outcome op args
      | none => .ok s!"Error: No such operation: {operation}" := by
  cases h : dispatcher.operations.create? operation with
  | none => simp [body, followIn, Calculation.operation, plain, follow, view, h]
  | some op => simp [body, followIn, Calculation.operation, plain, follow, view, h]

namespace Account

variable {account : Account} {name n : String}

/-- Filing under a blank name is refused, and is a turn that leaves the registers as they are. -/
theorem refuses_blank (account : Account) (depth : Nat) (name : String) (maker : Maker)
    (command : Command) :
    let dispatcher := account.dispatcher
    (dispatcher.operations.add? name maker = none ↔ Text.isBlankName name = true) ∧
      (dispatcher.add? name command = none ↔ Text.isBlankName name = true) ∧
      (Text.isBlankName name = true →
        (account.play depth (.fileOperation name maker)).dispatcher = dispatcher ∧
        (account.play depth (.fileCommand name command)).dispatcher = dispatcher) := by
  intro dispatcher
  have hop : dispatcher.operations.add? name maker = none ↔ Text.isBlankName name = true := by
    simp [Catalogue.add?]
  have hcommand : dispatcher.add? name command = none ↔ Text.isBlankName name = true := by
    simp [Dispatcher.add?]
  refine ⟨hop, hcommand, fun hb => ⟨?_, ?_⟩⟩
  · unfold play
    dsimp only
    rw [hop.mpr hb]
    rfl
  · unfold play
    dsimp only
    rw [hcommand.mpr hb]
    rfl

/-- The command for an operation replies with the text of the operation that counts now. -/
theorem Sound.reply_of_operation (h : account.Sound)
    (hl : Latest account.commands name (Calculation.operation n)) (depth : Nat) (policy : Policy)
    (args : List String) :
    let reply := (account.dispatcher.dispatch depth policy name args account.state).1
    (∀ op, Latest account.operations n (.ok op) →
      reply =
        match op.execute args with
        | .ok text => ⟨.completed, text⟩
        | .error fault => ⟨.failed, s!"Error executing command '{name}': {fault.message}"⟩) ∧
      (Catalogue.Missing account.operations n →
        reply = ⟨.completed, s!"Error: No such operation: {n}"⟩) := by
  intro reply
  have hget := (h.commands name _).mpr hl
  have hreply : reply = _ := (Dispatcher.dispatch_body hget depth policy args account.state).1
  rw [Dispatcher.body_operation] at hreply
  rw [hreply]
  refine ⟨fun op ho => ?_, fun hm => ?_⟩
  · rw [(Catalogue.create?_eq_some_iff h.operations).mpr ho]
    dsimp only [Calculation.outcome]
    cases op.execute args <;> rfl
  · rw [(Catalogue.create?_eq_none_iff h.operations).mpr hm]
    rfl

theorem Sound.missing_iff (h : account.Sound) :
    Catalogue.Missing account.operations n ↔ ¬∃ op, Latest account.operations n (.ok op) := by
  rw [← Catalogue.create?_eq_none_iff h.operations, Option.eq_none_iff_forall_ne_some, not_exists]
  exact forall_congr' fun op => not_congr (Catalogue.create?_eq_some_iff h.operations)

end Account

/-- After whatever was filed, done away with and run, in whatever order: the names in each register
increase and are those of the things filed last under names that are not blank; filing under a blank name
is refused and changes nothing. A dispatch runs the command filed last under its name, and a command for
an operation replies with the text of the operation filed last when it runs, or that there is none. -/
theorem latest_filing_counts (depth : Nat) (turns : List Turn) (environment : Settings.Environment)
    (host : Host) (state : State) :
    let account := Account.playAll depth
      { dispatcher := { environment := environment, host := host }, state := state } turns
    let dispatcher := account.dispatcher
    let catalogue := dispatcher.operations
    (catalogue.names.Pairwise (· < ·) ∧
      ∀ name, name ∈ catalogue.names ↔ ∃ maker, Latest account.operations name maker) ∧
    (dispatcher.names.Pairwise (· < ·) ∧
      ∀ name, name ∈ dispatcher.names ↔ ∃ command, Latest account.commands name command) ∧
    (∀ name maker command,
      (catalogue.add? name maker = none ↔ Text.isBlankName name = true) ∧
      (dispatcher.add? name command = none ↔ Text.isBlankName name = true) ∧
      (Text.isBlankName name = true →
        (account.play depth (.fileOperation name maker)).dispatcher = dispatcher ∧
        (account.play depth (.fileCommand name command)).dispatcher = dispatcher)) ∧
    ∀ depth policy name args command, Latest account.commands name command →
      let dispatched := dispatcher.dispatch depth policy name args account.state
      let body := dispatcher.body depth name command args account.state
      dispatched.1 = .ofOutcome name body.1 ∧
      dispatched.2.desk.history = body.2.desk.history ∧
      dispatched.2.desk.files = body.2.desk.files ∧
      ∀ n, command = Calculation.operation n →
        (∀ op, Latest account.operations n (.ok op) →
          dispatched.1 =
            match op.execute args with
            | .ok text => ⟨.completed, text⟩
            | .error fault => ⟨.failed, s!"Error executing command '{name}': {fault.message}"⟩) ∧
        (Catalogue.Missing account.operations n →
          dispatched.1 = ⟨.completed, s!"Error: No such operation: {n}"⟩) ∧
        (Catalogue.Missing account.operations n ↔ ¬∃ op, Latest account.operations n (.ok op)) := by
  intro account dispatcher catalogue
  have hsound : account.Sound := Account.Sound.playAll
    ⟨Register.follows_empty, Register.follows_empty⟩ depth turns
  refine ⟨⟨catalogue.makers.names_sorted, fun name => hsound.operations.mem_names_iff⟩,
    ⟨dispatcher.commands.names_sorted, fun name => hsound.commands.mem_names_iff⟩,
    account.refuses_blank depth, ?_⟩
  intro depth policy name args command hl dispatched body
  have hget := (hsound.commands name command).mpr hl
  obtain ⟨hreply, hhistory, hfiles⟩ :=
    Dispatcher.dispatch_body hget depth policy args account.state
  refine ⟨hreply, hhistory, hfiles, fun n hn => ?_⟩
  subst hn
  obtain ⟨htext, hmissing⟩ := hsound.reply_of_operation hl depth policy args
  exact ⟨htext, hmissing, hsound.missing_iff⟩

/-- An operation that cannot be made is filed, then the commands, then another operation of its name. -/
def sumTurns : List Turn :=
  [.fileOperation "sum" (.error (.said "broken")), .fileCommands,
    .fileOperation " " (.ok Standard.median.operation), .fileOperation "sum" (.ok Standard.add.operation)]

/-- The command was filed when its operation could not be made, and adds up; when the operations are done
away with, it says that there is none. -/
theorem latest_filing_counts_for_sum :
    let state : State := { desk := { history := { defaultPath := "" }, files := {} }, clock := .still 5 10 }
    let played (turns : List Turn) := Account.playAll 1
      { dispatcher := { environment := {}, host := ⟨"", "", "", "", ""⟩ }, state := state } turns
    let reply (account : Account) :=
      (account.dispatcher.dispatch 1 .checked "sum" ["1", "2"] account.state).1
    Latest (played sumTurns).commands "sum" (Calculation.operation "sum") ∧
      (played sumTurns).dispatcher.operations.add? " " (.ok Standard.median.operation) = none ∧
      "sum" ∈ (played sumTurns).dispatcher.operations.names ∧
      reply (played (sumTurns.take 2)) = ⟨.completed, "Error: No such operation: sum"⟩ ∧
      reply (played sumTurns) = ⟨.completed, "3.0"⟩ ∧
      reply (played (sumTurns ++ [.emptyOperations])) =
        ⟨.completed, "Error: No such operation: sum"⟩ := by
  intro state played reply
  have hcommand : ∀ maker, Latest (standardCommands ⟨Register.empty.insert "sum" maker⟩) "sum"
      (Calculation.operation "sum") := fun maker =>
    ⟨by decide, [], historyCommands ++ toolCommands, rfl, by decide⟩
  have hsum : Latest [("sum", .error (.said "broken")), (" ", .ok Standard.median.operation),
      ("sum", .ok Standard.add.operation)] "sum" (Except.ok Standard.add.operation : Maker) :=
    ⟨by decide, [_, _], [], rfl, by decide⟩
  have hbroken : Latest [("sum", (.error (.said "broken") : Maker))] "sum" (.error (.said "broken")) :=
    ⟨by decide, [], [], rfl, by decide⟩
  obtain ⟨-, -, -, hfirst⟩ := latest_filing_counts 1 (sumTurns.take 2) {} ⟨"", "", "", "", ""⟩ state
  obtain ⟨⟨-, hnames⟩, -, hblank, hsecond⟩ :=
    latest_filing_counts 1 sumTurns {} ⟨"", "", "", "", ""⟩ state
  obtain ⟨-, -, -, hthird⟩ :=
    latest_filing_counts 1 (sumTurns ++ [.emptyOperations]) {} ⟨"", "", "", "", ""⟩ state
  have hbefore := ((hfirst 1 .checked "sum" ["1", "2"] _ (hcommand _)).2.2.2 "sum" rfl).2.1
    (.inr ⟨_, hbroken⟩)
  have hafter := ((hsecond 1 .checked "sum" ["1", "2"] _ (hcommand _)).2.2.2 "sum" rfl).1 _ hsum
  have hnone : ¬∃ maker : Maker, Latest [] "sum" maker := by
    simp [Latest]
  have hempty := ((hthird 1 .checked "sum" ["1", "2"] _ (hcommand _)).2.2.2 "sum" rfl).2.1 (.inl hnone)
  exact ⟨hcommand _, (hblank " " _ (Calculation.operation "sum")).1.mpr (by decide),
    (hnames "sum").mpr ⟨_, hsum⟩, hbefore, hafter.trans (by decide +kernel), hempty⟩

end Command

end Calculator
