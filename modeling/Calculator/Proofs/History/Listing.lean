import Mathlib.Data.List.DropRight
import Calculator.Proofs.Command.Running
import Calculator.Proofs.History.Searching
import Calculator.Proofs.Number.Whole

/-!
The index under which an entry is listed is the index by which it is deleted, whichever command lists
it and however few entries it lists.
-/

namespace Calculator.History

variable {entries : List Entry} {index : Nat} {e : Entry}

/-- The entries of a table under their indexes. -/
def numbered (entries : List Entry) : List (Nat × Entry) := entries.zipIdx.map Prod.swap

@[simp] theorem length_numbered : (numbered entries).length = entries.length := by simp [numbered]

theorem mem_numbered : (index, e) ∈ numbered entries ↔ entries[index]? = some e := by
  rw [numbered, ← List.mk_mem_zipIdx_iff_getElem?]
  simp

theorem map_snd_numbered (entries : List Entry) : (numbered entries).map Prod.snd = entries := by
  rw [numbered, List.map_map]
  exact List.zipIdx_map_fst 0 entries

theorem map_snd_rtake_numbered (entries : List Entry) (n : Nat) :
    ((numbered entries).rtake n).map Prod.snd = entries.rtake n := by
  rw [List.rtake, List.map_drop, map_snd_numbered, length_numbered, List.rtake]

theorem length_rtake_numbered (entries : List Entry) (n : Nat) :
    ((numbered entries).rtake n).length = min n entries.length := by
  rw [List.rtake, List.length_drop, length_numbered]
  omega

/-- What is listed of a table: all entries, the last of them, or those that a search finds. -/
inductive Listed (entries : List Entry) : List (Nat × Entry) → Prop where
  | all : Listed entries (numbered entries)
  | last (n : Nat) : Listed entries ((numbered entries).rtake n)
  | found (term : String) : Listed entries (search entries term)

/-- Every entry is listed under its index in the table. -/
theorem Listed.getElem?_eq {listed : List (Nat × Entry)} (h : Listed entries listed)
    (hm : (index, e) ∈ listed) : entries[index]? = some e := by
  cases h with
  | all => exact mem_numbered.mp hm
  | last n => exact mem_numbered.mp (List.mem_of_mem_drop hm)
  | found term => exact (mem_search.mp hm).1

theorem delete?_eq_some {h : History} (he : h.entries[index]? = some e) :
    ∃ before after, h.entries = before ++ e :: after ∧ before.length = index ∧
      h.delete? index = some (e, { h with entries := before ++ after }) := by
  obtain ⟨hlt, hget⟩ := List.getElem?_eq_some_iff.mp he
  refine ⟨h.entries.take index, h.entries.drop (index + 1), ?_, ?_, ?_⟩
  · rw [← hget, List.getElem_cons_drop, List.take_append_drop]
  · exact List.length_take_of_le (Nat.le_of_lt hlt)
  · rw [delete?, he, Option.map_some, List.eraseIdx_eq_take_drop_succ]

end Calculator.History

namespace Calculator.Command

/-- A run that is completed with a text and leaves a history. -/
structure Yields (ran : Reply × State) (text : String) (history : History) : Prop where
  reply_eq : ran.1 = ⟨.completed, text⟩
  history_eq : ran.2.desk.history = history

theorem Yields.of_plain {dispatcher : Dispatcher} {name text : String} {history : History}
    {act : List String → View → Desk → Outcome × Desk} {args : List String} {state : State}
    (hc : dispatcher.commands.get? name = some (plain act)) (policy : Policy)
    (h : ∀ (view : View) (desk : Desk), desk.history = state.desk.history →
      (act args view desk).1 = .ok text ∧ (act args view desk).2.history = history) :
    Yields (dispatcher.run policy name args state) text history := by
  obtain ⟨view, -, hr, hh, -⟩ := Dispatcher.run_plain hc policy args state
  obtain ⟨ht, hk⟩ := h view
    { state.desk with runs := ⟨name, args.length⟩ :: state.desk.runs } rfl
  rw [ht] at hr
  exact ⟨hr, hh.trans hk⟩

namespace Recorded

open History (Entry numbered)

variable {dispatcher : Dispatcher} {state : State} {entries : List Entry} {arg : String} {n : Int}

/-- The text that shows entries of a table. -/
def listing (entries : List Entry) (listed : List (Nat × Entry)) : String :=
  if entries.isEmpty then "No calculation history available."
  else "\n".intercalate ("\n=== Calculation History ===" ::
    (listed.map fun (index, entry) => entry.line index) ++
    [s!"\nShowing {listed.length} of {entries.length} entries.",
     "Use 'history <number>' to limit entries shown.",
     "Use 'history-save' to save history to a file."])

/-- The text that refuses a limit. -/
def refusal (entries : List Entry) (arg : String) : String :=
  if entries.isEmpty then "No calculation history available."
  else s!"Invalid argument: '{arg}' - must be a positive number."

/-- The text that shows what a search for a term finds. -/
def findings (term : String) (found : List (Nat × Entry)) : String :=
  if found.isEmpty then s!"No history entries found matching '{term}'."
  else "\n".intercalate (s!"\n=== Search Results for '{term}' ===" ::
    (found.map fun (index, entry) => entry.line index) ++
    [s!"\nFound {found.length} matching entries."])

/-- The text about a number under which there is no entry. -/
def missing (arg : String) (n : Int) : String :=
  if Whole.least ≤ n ∧ n ≤ Whole.greatest then s!"Error: Entry {n} not found."
  else s!"Error: Invalid index '{arg}'. Please provide a numeric index."

theorem shownText_eq_listing (n : Nat) (hne : entries.isEmpty = false) :
    shownText (entries.length - n) entries = listing entries ((numbered entries).rtake n) := by
  have hlast : lastFrom (entries.length - n) entries = (numbered entries).rtake n := by
    rw [List.rtake, History.length_numbered]
    exact List.map_drop
  have hl : ((numbered entries).rtake n).length = entries.length - (entries.length - n) := by
    rw [List.rtake, List.length_drop, History.length_numbered]
  rw [listing, hne, shownText, hlast, hl]
  rfl

theorem run_display_of_limit (hc : dispatcher.commands.get? "history" = some display)
    (policy : Policy) {args : List String} {n : Nat}
    (h : limit args state.desk.history.entries = .ok n) :
    Yields (dispatcher.run policy "history" args state)
      (listing state.desk.history.entries ((numbered state.desk.history.entries).rtake n))
      state.desk.history := by
  refine .of_plain hc policy fun view desk hd => ?_
  dsimp only
  rw [hd, h]
  cases he : state.desk.history.entries.isEmpty with
  | true =>
    rw [listing, he]
    exact ⟨rfl, hd⟩
  | false =>
    rw [← shownText_eq_listing n he]
    exact ⟨rfl, hd⟩

theorem run_display_of_refusal (hc : dispatcher.commands.get? "history" = some display)
    (policy : Policy) {args : List String}
    (h : limit args state.desk.history.entries =
      .error s!"Invalid argument: '{arg}' - must be a positive number.") :
    Yields (dispatcher.run policy "history" args state) (refusal state.desk.history.entries arg)
      state.desk.history := by
  refine .of_plain hc policy fun view desk hd => ?_
  dsimp only
  rw [hd, h, refusal]
  split <;> exact ⟨rfl, hd⟩

theorem limit_of_denotes (h : Whole.Denotes arg.toList n) (hp : 0 < n) (hn : n ≤ Whole.greatest)
    (rest : List String) : limit (arg :: rest) entries = .ok n.toNat := by
  rw [limit, readLimit, Whole.read?_of_nonneg h (by omega) hn]
  exact if_neg (by omega)

theorem limit_of_beyond (h : Whole.Denotes arg.toList n) (hn : Whole.greatest < n)
    (rest : List String) : limit (arg :: rest) entries =
      .error s!"Invalid argument: '{arg}' - must be a positive number." := by
  rw [limit, readLimit, Whole.read?_eq_none h (.inr hn)]

theorem run_search (hc : dispatcher.commands.get? "history-search" = some search) (policy : Policy)
    {args : List String} (ha : args ≠ []) :
    let term := " ".intercalate args
    Yields (dispatcher.run policy "history-search" args state)
      (findings term (History.search state.desk.history.entries term)) state.desk.history := by
  intro term
  have hargs : args.isEmpty = false := by simpa using ha
  refine .of_plain hc policy fun view desk hd => ?_
  rw [hargs, ← hd]
  change (searchFor term desk).1 = _ ∧ (searchFor term desk).2.history = _
  unfold searchFor findings
  dsimp only
  split <;> exact ⟨rfl, rfl⟩

theorem run_delete_of_listed (hc : dispatcher.commands.get? "history-delete" = some delete)
    (policy : Policy) {index : Nat} {e : Entry} (h : Whole.Denotes arg.toList index)
    (hn : (index : Int) ≤ Whole.greatest) (he : state.desk.history.entries[index]? = some e)
    (rest : List String) :
    ∃ before after, state.desk.history.entries = before ++ e :: after ∧ before.length = index ∧
      Yields (dispatcher.run policy "history-delete" (arg :: rest) state)
        s!"Deleted history entry at index {index}."
        { state.desk.history with entries := before ++ after } := by
  have hread : Whole.read? arg = some (index : Int) := Whole.read?_of_nonneg h (by omega) hn
  obtain ⟨before, after, hentries, hlength, hdelete⟩ := History.delete?_eq_some he
  refine ⟨before, after, hentries, hlength, .of_plain hc policy fun view desk hd => ?_⟩
  have hnamed : deleteNamed arg desk = deleteAt index desk := by
    rw [deleteNamed, hread]
    exact if_neg (by omega)
  dsimp only
  rw [hnamed, deleteAt, hd, hdelete]
  exact ⟨rfl, rfl⟩

theorem deleteAt_of_missing {desk : Desk} {index : Nat} (h : desk.history.entries[index]? = none) :
    (deleteAt index desk).1 = .ok s!"Error: Entry {index} not found." ∧
      (deleteAt index desk).2.history = desk.history := by
  have hd : desk.history.delete? index = none := by rw [History.delete?, h, Option.map_none]
  rw [deleteAt, hd]
  exact ⟨rfl, rfl⟩

theorem deleteNamed_of_missing {desk : Desk} (h : Whole.Denotes arg.toList n)
    (hn : ∀ index : Nat, n = index → desk.history.entries[index]? = none) :
    (deleteNamed arg desk).1 = .ok (missing arg n) ∧
      (deleteNamed arg desk).2.history = desk.history := by
  unfold missing
  by_cases hrange : Whole.least ≤ n ∧ n ≤ Whole.greatest
  · rw [if_pos hrange, deleteNamed, Whole.read?_eq_some h hrange.1 hrange.2]
    dsimp only
    by_cases hneg : n < 0
    · rw [if_pos hneg]
      exact ⟨rfl, rfl⟩
    · obtain ⟨index, rfl⟩ := Int.eq_ofNat_of_zero_le (by omega : 0 ≤ n)
      rw [if_neg hneg]
      exact deleteAt_of_missing (hn index rfl)
  · rw [if_neg hrange, deleteNamed, Whole.read?_eq_none h (by omega)]
    exact ⟨rfl, rfl⟩

theorem run_delete_of_missing (hc : dispatcher.commands.get? "history-delete" = some delete)
    (policy : Policy) (h : Whole.Denotes arg.toList n)
    (hn : ∀ index : Nat, n = index → state.desk.history.entries[index]? = none)
    (rest : List String) :
    Yields (dispatcher.run policy "history-delete" (arg :: rest) state) (missing arg n)
      state.desk.history := by
  refine .of_plain hc policy fun view desk hd => ?_
  rw [← hd] at hn ⊢
  exact deleteNamed_of_missing h hn

end Recorded

end Calculator.Command

namespace Calculator

open Command (Policy State Yields)
open Command.Recorded (listing refusal findings missing)
open History (Entry Listed numbered)

/-- An entry is deleted by the index under which it is listed: by the command that shows all entries
or the last of them, or by a search. Any other number deletes nothing, and the reply says that there is
no such entry or no such index. A limit that has more than 64 bits is refused. -/
theorem listed_index_is_deleted (environment : Settings.Environment) (host : Command.Host)
    (policy : Policy) (state : State)
    (hsize : state.desk.history.entries.length ≤ Whole.greatest) :
    let dispatcher := Session.dispatcherIn environment host
    let history := state.desk.history
    let entries := history.entries
    -- showing all entries
    Yields (dispatcher.run policy "history" [] state) (listing entries (numbered entries)) history ∧
    -- showing the last entries
    (∀ (arg : String) (rest : List String) (n : Int), Whole.Denotes arg.toList n → 0 < n →
      let last := (numbered entries).rtake n.toNat
      last.map Prod.snd = entries.rtake n.toNat ∧ last.length = min n.toNat entries.length ∧
        Yields (dispatcher.run policy "history" (arg :: rest) state)
          (if n ≤ Whole.greatest then listing entries last else refusal entries arg) history) ∧
    -- searching
    (∀ args : List String, args ≠ [] →
      let term := " ".intercalate args
      Yields (dispatcher.run policy "history-search" args state)
        (findings term (History.search entries term)) history) ∧
    -- deleting from the same table
    ∀ (policy' : Policy) (later : State), later.desk.history = history →
      ∀ (arg : String) (rest : List String) (n : Int), Whole.Denotes arg.toList n →
        let deleted := dispatcher.run policy' "history-delete" (arg :: rest) later
        (∀ listed, Listed entries listed → ∀ (index : Nat) (e : Entry), (index, e) ∈ listed →
          n = index → ∃ before after, entries = before ++ e :: after ∧ before.length = index ∧
            Yields deleted s!"Deleted history entry at index {index}."
              { history with entries := before ++ after }) ∧
        ((∀ index e, (index, e) ∈ numbered entries → n ≠ index) →
          Yields deleted (missing arg n) history) := by
  intro dispatcher history entries
  have hdisplay : dispatcher.commands.get? "history" = some Command.Recorded.display :=
    Command.Dispatcher.get?_history
  have hsearch : dispatcher.commands.get? "history-search" = some Command.Recorded.search :=
    Command.Dispatcher.get?_historySearch
  have hdelete : dispatcher.commands.get? "history-delete" = some Command.Recorded.delete :=
    Command.Dispatcher.get?_historyDelete
  refine ⟨?all, fun arg rest n h hp => ⟨History.map_snd_rtake_numbered entries _,
    History.length_rtake_numbered entries _, ?last⟩,
    fun args ha => Command.Recorded.run_search hsearch policy ha, ?deleted⟩
  case all =>
    have hlimit : Command.Recorded.limit [] entries = .ok entries.length := rfl
    have hall := Command.Recorded.run_display_of_limit hdisplay policy hlimit
    have hn : (numbered entries).rtake entries.length = numbered entries := by
      rw [List.rtake, History.length_numbered, Nat.sub_self, List.drop_zero]
    rwa [hn] at hall
  case last =>
    split
    next hn =>
      exact Command.Recorded.run_display_of_limit hdisplay policy
        (Command.Recorded.limit_of_denotes h hp hn rest)
    next hn =>
      exact Command.Recorded.run_display_of_refusal hdisplay policy
        (Command.Recorded.limit_of_beyond h (by omega) rest)
  case deleted =>
    intro policy' later hl arg rest n h
    refine ⟨fun listed hlisted index e hm hn => ?_, fun hn => ?_⟩
    · have he : later.desk.history.entries[index]? = some e := by
        rw [hl]
        exact hlisted.getElem?_eq hm
      -- a table of that length has no index that is too large to be read
      have hindex : (index : Int) ≤ Whole.greatest := by
        have hlt := (List.getElem?_eq_some_iff.mp he).1
        rw [hl] at hlt
        exact Int.le_trans (Int.ofNat_le.mpr (Nat.le_of_lt hlt)) hsize
      subst hn
      have hd := Command.Recorded.run_delete_of_listed hdelete policy' h hindex he rest
      rwa [hl] at hd
    · have hmissing : ∀ index : Nat, n = index → later.desk.history.entries[index]? = none := by
        intro index hindex
        rw [hl]
        refine Option.eq_none_iff_forall_ne_some.mpr fun e he => ?_
        exact hn index e (History.mem_numbered.mpr he) hindex
      have hd := Command.Recorded.run_delete_of_missing hdelete policy' h hmissing rest
      rwa [hl] at hd

/-- A table of two sums and a difference. -/
def threeEntries : List Entry :=
  [⟨"t", "add", "1 2", "3.0"⟩, ⟨"t", "add", "1 3", "4.0"⟩, ⟨"t", "subtract", "1 2", "-1.0"⟩]

def threeState : State where
  desk := { history := { entries := threeEntries, defaultPath := "h.csv" }, files := {} }
  usage := { runs := .empty }
  clock := .still 2 0

theorem denotes_beyond : Whole.Denotes "9223372036854775808".toList 9223372036854775808 := by
  have hs : toString 9223372036854775808 = "9223372036854775808" := by decide +kernel
  rw [← hs]
  exact Whole.denotes_toString 9223372036854775808

/-- The last entry of three is listed under its index among the last two, and is found under it. By
that index it is deleted, and by no negative index and none that is out of range. -/
theorem listed_index_of_three :
    let dispatcher := Session.dispatcherIn {} ⟨"", "", "", "", ""⟩
    let history := threeState.desk.history
    Yields (dispatcher.run .checked "history" ["2"] threeState)
        ("\n=== Calculation History ===\n1: [t] add 1 3 = 4.0\n2: [t] subtract 1 2 = -1.0\n" ++
          "\nShowing 2 of 3 entries.\nUse 'history <number>' to limit entries shown.\n" ++
          "Use 'history-save' to save history to a file.") history ∧
      Yields (dispatcher.run .checked "history-search" ["SUB"] threeState)
        ("\n=== Search Results for 'SUB' ===\n2: [t] subtract 1 2 = -1.0\n" ++
          "\nFound 1 matching entries.") history ∧
      Yields (dispatcher.run .unchecked "history-delete" ["2"] threeState)
        "Deleted history entry at index 2." { history with entries := threeEntries.take 2 } ∧
      Yields (dispatcher.run .unchecked "history-delete" ["-1"] threeState)
        "Error: Entry -1 not found." history ∧
      Yields (dispatcher.run .unchecked "history-delete" ["9223372036854775808"] threeState)
        "Error: Invalid index '9223372036854775808'. Please provide a numeric index." history := by
  intro dispatcher history
  have htwo : Whole.Denotes "2".toList 2 := Whole.denotes_toString 2
  have hminus : Whole.Denotes "-1".toList (-1) := .minus ⟨by decide, List.all_eq_true.mp rfl⟩
  have hnone : ∀ n : Int, n = -1 ∨ n = 9223372036854775808 →
      ∀ index e, (index, e) ∈ numbered threeEntries → n ≠ index := by
    intro n hn index e hm hindex
    have hlt := (List.getElem?_eq_some_iff.mp (History.mem_numbered.mp hm)).1
    simp only [threeEntries, List.length_cons, List.length_nil] at hlt
    omega
  obtain ⟨-, hlast, hfound, hdeleted⟩ := listed_index_is_deleted {} ⟨"", "", "", "", ""⟩ .checked
    threeState (by decide)
  have hdelete := fun arg n h => hdeleted .unchecked threeState rfl arg [] n h
  refine ⟨?_, ?_, ?_, ?_, ?_⟩
  · exact (hlast "2" [] 2 htwo (by decide)).2.2
  · exact hfound ["SUB"] (by decide)
  · obtain ⟨before, after, he, hl, hd⟩ := (hdelete "2" 2 htwo).1 _ (.last 2) 2
      ⟨"t", "subtract", "1 2", "-1.0"⟩ (by decide) rfl
    have hsplit : threeEntries.take 2 ++ [⟨"t", "subtract", "1 2", "-1.0"⟩] = before ++ _ := he
    obtain ⟨hb, ha⟩ := List.append_inj hsplit hl.symm
    obtain rfl : [] = after := List.tail_eq_of_cons_eq ha
    rw [← hb, List.append_nil] at hd
    exact hd
  · exact (hdelete "-1" (-1) hminus).2 (hnone _ (.inl rfl))
  · exact (hdelete _ _ denotes_beyond).2 (hnone _ (.inr rfl))

/-- A limit that does not fit into 64 bits shows nothing. -/
theorem limit_beyond_shows_nothing : ¬∀ (environment : Settings.Environment) (host : Command.Host)
    (policy : Policy) (state : State) (arg : String) (rest : List String) (n : Int),
    Whole.Denotes arg.toList n → 0 < n →
      let entries := state.desk.history.entries
      ((Session.dispatcherIn environment host).run policy "history" (arg :: rest) state).1 =
        ⟨.completed, listing entries ((numbered entries).rtake n.toNat)⟩ := by
  intro h
  have hdisplay : (Session.dispatcherIn {} ⟨"", "", "", "", ""⟩).commands.get? "history" =
      some Command.Recorded.display := Command.Dispatcher.get?_history
  have hshown := h {} ⟨"", "", "", "", ""⟩ .checked threeState _ [] _ denotes_beyond (by decide)
  have hlimit : Command.Recorded.limit _ threeState.desk.history.entries = _ :=
    Command.Recorded.limit_of_beyond denotes_beyond (by decide) []
  have hrefused := Command.Recorded.run_display_of_refusal hdisplay .checked hlimit
  have htext := congrArg Command.Reply.text (hshown.symm.trans hrefused.reply_eq)
  exact absurd htext (by decide +kernel)

end Calculator
