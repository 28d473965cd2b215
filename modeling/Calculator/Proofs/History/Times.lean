import Calculator.History.Basic
import Calculator.Proofs.History.Summarising
import Calculator.Proofs.Time.Stamps

/-!
While the clock goes forward the entries of a table stand in the order of their times, whatever is
deleted in between. So the least timestamp is that of the first entry, and the greatest that of the
last.
-/

namespace Calculator.History

/-- What is done to a table: a calculation is recorded at the time on the clock, an entry is deleted,
or all of them are. -/
inductive Change where
  | add (time : Int) (operation inputs result : String)
  | delete (index : Nat)
  | clear

/-- The time that is read from the clock. -/
def Change.time? : Change → Option Int
  | add time _ _ _ => some time
  | delete _ => none
  | clear => none

def change (h : History) : Change → History
  | .add time operation inputs result => h.add time operation inputs result
  | .delete index => ((h.delete? index).map Prod.snd).getD h
  | .clear => h.clear

def changeAll (h : History) (changes : List Change) : History := changes.foldl change h

/-- All times that are read from the clock, in turn. -/
def readings (changes : List Change) : List Int := changes.filterMap Change.time?

/-- A time from 1970 to 9999. -/
def InFourDigits (time : Int) : Prop := 1970 ≤ Time.yearAt time ∧ Time.yearAt time ≤ 9999

instance (time : Int) : Decidable (InFourDigits time) := inferInstanceAs (Decidable (_ ∧ _))

/-- The entries bear the stamps of times that never go back, the latest of them no later than `now`. -/
structure Dated (now : Int) (entries : List Entry) (times : List Int) : Prop where
  stamps : entries.map Entry.timestamp = times.map Time.stamp
  forward : times.Pairwise (· ≤ ·)
  past : ∀ time ∈ times, time ≤ now
  inFourDigits : ∀ time ∈ times, InFourDigits time

section Step

variable {now time : Int} {entries : List Entry} {times : List Int}

theorem Dated.push (hd : Dated now entries times) (hn : now ≤ time) (ht : InFourDigits time)
    (operation inputs result : String) :
    Dated time (entries ++ [⟨Time.stamp time, operation, inputs, result⟩]) (times ++ [time]) where
  stamps := by rw [List.map_append, List.map_append, hd.stamps]; rfl
  forward := by
    refine List.pairwise_append.mpr ⟨hd.forward, List.pairwise_singleton _ _, fun a ha b hb => ?_⟩
    rw [List.mem_singleton.mp hb]
    exact Int.le_trans (hd.past a ha) hn
  past a ha := by
    rcases List.mem_append.mp ha with ha | ha
    · exact Int.le_trans (hd.past a ha) hn
    · rw [List.mem_singleton.mp ha]
  inFourDigits a ha := by
    rcases List.mem_append.mp ha with ha | ha
    · exact hd.inFourDigits a ha
    · rwa [List.mem_singleton.mp ha]

theorem Dated.eraseIdx (hd : Dated now entries times) (index : Nat) :
    Dated now (entries.eraseIdx index) (times.eraseIdx index) where
  stamps := by rw [← List.eraseIdx_map, ← List.eraseIdx_map, hd.stamps]
  forward := hd.forward.sublist (List.eraseIdx_sublist times index)
  past a ha := hd.past a (List.mem_of_mem_eraseIdx ha)
  inFourDigits a ha := hd.inFourDigits a (List.mem_of_mem_eraseIdx ha)

theorem dated_nil (now : Int) : Dated now [] [] := ⟨rfl, .nil, by simp, by simp⟩

/-- One change leaves the entries in the order of their times. -/
theorem Dated.change {h : History} (hd : Dated now h.entries times) (c : Change)
    (ht : ∀ time ∈ c.time?, now ≤ time ∧ InFourDigits time) :
    ∃ times, Dated (c.time?.getD now) (h.change c).entries times := by
  cases c with
  | add time operation inputs result =>
    obtain ⟨hn, hy⟩ := ht time rfl
    exact ⟨times ++ [time], hd.push hn hy operation inputs result⟩
  | delete index =>
    cases he : h.entries[index]? with
    | none =>
      refine ⟨times, ?_⟩
      rw [History.change, delete?, he]
      exact hd
    | some e =>
      refine ⟨times.eraseIdx index, ?_⟩
      rw [History.change, delete?, he]
      exact hd.eraseIdx index
  | clear => exact ⟨[], dated_nil now⟩

theorem readings_cons (c : Change) (changes : List Change) :
    readings (c :: changes) = c.time?.toList ++ readings changes := by
  cases c <;> rfl

/-- Changes leave the entries in the order of their times. -/
theorem Dated.changeAll {h : History} {changes : List Change} (hd : Dated now h.entries times)
    (hn : ∀ time ∈ readings changes, now ≤ time) (hf : (readings changes).Pairwise (· ≤ ·))
    (hy : ∀ time ∈ readings changes, InFourDigits time) :
    ∃ now times, Dated now (h.changeAll changes).entries times := by
  induction changes generalizing h now times with
  | nil => exact ⟨now, times, hd⟩
  | cons c changes ih =>
    rw [readings_cons] at hn hf hy
    obtain ⟨-, hf, hfirst⟩ := List.pairwise_append.mp hf
    have hlater : ∀ time ∈ readings changes, c.time?.getD now ≤ time := fun time ht => by
      cases hc : c.time? with
      | none => exact hn time (List.mem_append_right _ ht)
      | some first => exact hfirst first (by simp [hc]) time ht
    obtain ⟨times', hd'⟩ := hd.change c fun time ht =>
      have hm : time ∈ c.time?.toList ++ readings changes :=
        List.mem_append_left _ (Option.mem_toList.mpr ht)
      ⟨hn time hm, hy time hm⟩
    exact ih hd' hlater hf fun time ht => hy time (List.mem_append_right _ ht)

end Step

section Extremes

variable {entries : List Entry} {times : List Int} {now : Int}

theorem Dated.sorted (hd : Dated now entries times) :
    (entries.map Entry.timestamp).Pairwise (· ≤ ·) := by
  rw [hd.stamps, List.pairwise_map]
  refine hd.forward.imp_of_mem fun ha hb hab => Time.stamp_le_stamp hab ?_ (hd.inFourDigits _ hb).2
  exact Int.le_trans (by decide) (hd.inFourDigits _ ha).1

theorem least?_of_sorted {text : String} {texts : List String}
    (h : (text :: texts).Pairwise (· ≤ ·)) : least? (text :: texts) = some text := by
  refine least?_eq_some_iff.mpr ⟨List.mem_cons_self, fun other hm => ?_⟩
  rw [Text.bytesBefore_iff, String.not_lt]
  rcases List.mem_cons.mp hm with rfl | hm
  · exact String.le_refl _
  · exact List.rel_of_pairwise_cons h hm

theorem greatest?_of_sorted {text : String} {texts : List String}
    (h : (texts ++ [text]).Pairwise (· ≤ ·)) : greatest? (texts ++ [text]) = some text := by
  refine greatest?_eq_some_iff.mpr ⟨List.mem_append_right _ List.mem_cons_self, fun other hm => ?_⟩
  rw [Text.bytesBefore_iff, String.not_lt]
  rcases List.mem_append.mp hm with hm | hm
  · exact (List.pairwise_append.mp h).2.2 other hm text List.mem_cons_self
  · rw [List.mem_singleton.mp hm]

theorem summary_first_of_sorted (h : (entries.map Entry.timestamp).Pairwise (· ≤ ·))
    (hne : entries ≠ []) : (summary entries).first = some (entries.head hne).timestamp := by
  obtain ⟨e, rest, rfl⟩ := List.exists_cons_of_ne_nil hne
  exact least?_of_sorted h

theorem summary_last_of_sorted (h : (entries.map Entry.timestamp).Pairwise (· ≤ ·))
    (hne : entries ≠ []) : (summary entries).last = some (entries.getLast hne).timestamp := by
  have htimes : entries.map Entry.timestamp =
      entries.dropLast.map Entry.timestamp ++ [(entries.getLast hne).timestamp] := by
    conv_lhs => rw [← List.dropLast_append_getLast hne]
    rw [List.map_append, List.map_singleton]
  rw [htimes] at h
  rw [summary, htimes]
  exact greatest?_of_sorted h

end Extremes

theorem exists_before_all {times : List Int} (h : times.Pairwise (· ≤ ·)) :
    ∃ now, ∀ time ∈ times, now ≤ time := by
  cases times with
  | nil => exact ⟨0, by simp⟩
  | cons first rest =>
    exact ⟨first, List.forall_mem_cons.mpr ⟨Int.le_refl first, (List.pairwise_cons.mp h).1⟩⟩

/-- While calculations are recorded by a clock that never goes back, in the years from 1970 to 9999,
the first of the times in the summary of the table is that of its first entry, and the last that of its
last one. -/
theorem first_and_last_time (path : String) (changes : List Change)
    (hforward : (readings changes).Pairwise (· ≤ ·))
    (hyears : ∀ time ∈ readings changes, InFourDigits time) :
    let entries := (changeAll { defaultPath := path } changes).entries
    ∀ hne : entries ≠ [],
      (summary entries).first = some (entries.head hne).timestamp ∧
        (summary entries).last = some (entries.getLast hne).timestamp := by
  intro entries hne
  obtain ⟨start, hstart⟩ := exists_before_all hforward
  have hempty : Dated start ({ defaultPath := path } : History).entries [] := dated_nil start
  obtain ⟨now, times, hd⟩ := hempty.changeAll hstart hforward hyears
  exact ⟨summary_first_of_sorted hd.sorted hne, summary_last_of_sorted hd.sorted hne⟩

/-- Three sums around the end of a leap day, of which the one in the middle is deleted. -/
theorem first_and_last_time_of_leap_day :
    let changes := [Change.add 1709251199 "add" "1 2" "3.0", .add 1709251199 "add" "2 2" "4.0",
      .delete 5, .add 1709251200 "add" "3 2" "5.0", .delete 1]
    let entries := (changeAll { defaultPath := "history.csv" } changes).entries
    (readings changes).Pairwise (· ≤ ·) ∧ (∀ time ∈ readings changes, InFourDigits time) ∧
      (summary entries).first = some "2024-02-29 23:59:59" ∧
      (summary entries).last = some "2024-03-01 00:00:00" := by
  intro changes entries
  have hforward : (readings changes).Pairwise (· ≤ ·) := by decide
  have hyears : ∀ time ∈ readings changes, InFourDigits time := by decide
  obtain ⟨hfirst, hlast⟩ := first_and_last_time "history.csv" changes hforward hyears (by decide)
  exact ⟨hforward, hyears, hfirst, hlast⟩

end Calculator.History
