import Mathlib.Algebra.BigOperators.Group.List.Lemmas
import Mathlib.Algebra.GroupWithZero.Nat
import Mathlib.Data.String.Basic
import Calculator.History.Summary
import Calculator.Proofs.Text.ByteOrder

/-!
What a summary says of a table: every operation with the number of its entries, in an order that leaves
no choice, and the least and the greatest timestamp. Neither the order of the entries matters nor that
in which their operations are gathered.
-/

namespace Calculator.History

/-- Counts hold every operation of a table once, with the number of its entries. -/
structure Tallies (entries : List Entry) (counts : List (String × Nat)) : Prop where
  nodup : (counts.map Prod.fst).Nodup
  mem_iff : ∀ operation n, (operation, n) ∈ counts ↔
    (∃ e ∈ entries, e.operation = operation) ∧
      n = entries.countP fun e => e.operation = operation

/-- The strict order of counts: the greater number first, and of like numbers the name that comes first
in bytes. -/
def Leads (x y : String × Nat) : Prop := y.2 < x.2 ∨ x.2 = y.2 ∧ Text.BytesBefore x.1 y.1

section Counts

variable {entries others : List Entry} {counts gathered : List (String × Nat)}

theorem nodup_eraseDups {α : Type} [BEq α] [LawfulBEq α] (xs : List α) : xs.eraseDups.Nodup := by
  match xs with
  | [] => simp
  | x :: xs =>
    have hlt : (xs.filter fun y => !y == x).length < (x :: xs).length :=
      Nat.lt_succ_of_le (List.length_filter_le _ _)
    rw [List.eraseDups_cons, List.nodup_cons, List.mem_eraseDups]
    exact ⟨by simp, nodup_eraseDups _⟩
termination_by xs.length
decreasing_by exact hlt

theorem tallies_eraseDups (entries : List Entry) :
    Tallies entries ((entries.map Entry.operation).eraseDups.map fun operation =>
      (operation, (entries.map Entry.operation).count operation)) where
  nodup := by
    rw [List.map_map]
    change (List.map id _).Nodup
    rw [List.map_id]
    exact nodup_eraseDups _
  mem_iff operation n := by
    have hcount : (entries.map Entry.operation).count operation =
        entries.countP fun e => e.operation = operation := by
      rw [List.count, List.countP_map]
      rfl
    rw [List.mem_map, ← hcount]
    constructor
    · rintro ⟨name, hm, he⟩
      obtain ⟨rfl, rfl⟩ := Prod.mk.inj he
      exact ⟨List.mem_map.mp (List.mem_eraseDups.mp hm), rfl⟩
    · rintro ⟨hm, rfl⟩
      exact ⟨operation, List.mem_eraseDups.mpr (List.mem_map.mpr hm), rfl⟩

theorem Tallies.perm (h : Tallies entries counts) (hp : counts.Perm gathered) :
    Tallies entries gathered where
  nodup := (hp.map Prod.fst).nodup_iff.mp h.nodup
  mem_iff operation n := hp.mem_iff.symm.trans (h.mem_iff operation n)

theorem Tallies.of_perm (h : Tallies entries counts) (hp : entries.Perm others) :
    Tallies others counts where
  nodup := h.nodup
  mem_iff operation n := by simp only [h.mem_iff, hp.mem_iff, hp.countP_eq]

/-- Counts of one table differ in their order only. -/
theorem Tallies.perm_of (h : Tallies entries counts) (hg : Tallies entries gathered) :
    counts.Perm gathered := by
  refine (List.perm_ext_iff_of_nodup (.of_map Prod.fst h.nodup) (.of_map Prod.fst hg.nodup)).mpr ?_
  rintro ⟨operation, n⟩
  exact (h.mem_iff operation n).trans (hg.mem_iff operation n).symm

theorem tallies_operationCounts (entries : List Entry) : Tallies entries (operationCounts entries) :=
  (tallies_eraseDups entries).perm (List.mergeSort_perm _ _).symm

/-- The numbers add up to that of all entries. -/
theorem Tallies.sum_eq (h : Tallies entries counts) : (counts.map Prod.snd).sum = entries.length := by
  let operations := entries.map Entry.operation
  have hdedup : operations.eraseDups.Perm operations.dedup := by
    refine (List.perm_ext_iff_of_nodup (nodup_eraseDups _) (List.nodup_dedup _)).mpr fun name => ?_
    rw [List.mem_eraseDups, List.mem_dedup]
  have hcounts := ((h.perm_of (tallies_eraseDups entries)).map Prod.snd).sum_eq
  calc (counts.map Prod.snd).sum
    _ = (operations.eraseDups.map fun name => operations.count name).sum := by
      rw [hcounts, List.map_map]
      rfl
    _ = (operations.dedup.map fun name => operations.count name).sum := (hdedup.map _).sum_eq
    _ = operations.length := List.sum_map_count_dedup_eq_length operations
    _ = entries.length := List.length_map _

end Counts

section Order

variable {x y z : String × Nat} {entries : List Entry} {counts : List (String × Nat)}

theorem precedes_iff : precedes x y = true ↔ y.2 < x.2 ∨ x.2 = y.2 ∧ x.1 ≤ y.1 := by
  simp [precedes]

theorem precedes_trans (hxy : precedes x y = true) (hyz : precedes y z = true) :
    precedes x z = true := by
  rw [precedes_iff] at *
  rcases hxy with hxy | ⟨hxy, hx⟩
  · left
    omega
  · rcases hyz with hyz | ⟨hyz, hy⟩
    · left
      omega
    · exact .inr ⟨hxy.trans hyz, String.le_trans hx hy⟩

theorem precedes_total (x y : String × Nat) : (precedes x y || precedes y x) = true := by
  rw [Bool.or_eq_true, precedes_iff, precedes_iff]
  rcases Nat.lt_trichotomy x.2 y.2 with h | h | h
  · exact .inr (.inl h)
  · exact (String.le_total x.1 y.1).imp (fun hle => .inr ⟨h, hle⟩) (fun hle => .inr ⟨h.symm, hle⟩)
  · exact .inl (.inl h)

theorem precedes_antisymm (hxy : precedes x y = true) (hyx : precedes y x = true) : x = y := by
  rw [precedes_iff] at hxy hyx
  rcases hxy with hxy | ⟨hxy, hx⟩
  · omega
  · rcases hyx with hyx | ⟨-, hy⟩
    · omega
    · exact Prod.ext (String.le_antisymm hx hy) hxy

theorem leads_of_precedes (h : precedes x y = true) (hne : x.1 ≠ y.1) : Leads x y := by
  refine (precedes_iff.mp h).imp_right fun ⟨hn, hle⟩ => ⟨hn, Text.bytesBefore_iff.mpr ?_⟩
  exact String.not_le.mp fun hge => hne (String.le_antisymm hle hge)

theorem pairwise_mergeSort_precedes (counts : List (String × Nat)) :
    (counts.mergeSort precedes).Pairwise fun x y => precedes x y = true := by
  have htrans : ∀ x y z, precedes x y = true → precedes y z = true → precedes x z = true :=
    fun _ _ _ => precedes_trans
  exact List.pairwise_mergeSort htrans precedes_total counts

theorem operationCounts_leads (entries : List Entry) :
    (operationCounts entries).Pairwise Leads := by
  have hnames := List.pairwise_map.mp (tallies_operationCounts entries).nodup
  exact (pairwise_mergeSort_precedes _).imp₂ (fun _ _ => leads_of_precedes) hnames

/-- However the counts of a table are gathered, they have one order. -/
theorem Tallies.mergeSort_eq (h : Tallies entries counts) :
    counts.mergeSort precedes = operationCounts entries := by
  refine List.Perm.eq_of_pairwise (fun _ _ _ _ => precedes_antisymm)
    (pairwise_mergeSort_precedes _) (pairwise_mergeSort_precedes _) ?_
  have hp := h.perm_of (tallies_eraseDups entries)
  exact ((List.mergeSort_perm _ _).trans hp).trans (List.mergeSort_perm _ _).symm

end Order

section Extremes

variable {r : String → String → Prop} [IsStrictTotalOrder String r]
variable {texts : List String} {text : String}

theorem not_before_trans {x y z : String} (hxy : ¬ r x y) (hyz : ¬ r y z) : ¬ r x z := by
  intro hxz
  rcases trichotomous_of r x y with h | rfl | h
  · exact hxy h
  · exact hyz hxz
  · exact hyz (trans_of r h hxz)

/-- What is chosen by an order is one of the texts, and none of them stands before it. -/
theorem not_before_of_choose? [DecidableRel r]
    (h : choose? (fun x y => decide (r x y)) texts = some text) :
    text ∈ texts ∧ ∀ other ∈ texts, ¬ r other text := by
  cases texts with
  | nil => cases h
  | cons best rest =>
    obtain rfl := Option.some.inj h
    clear h
    induction rest generalizing best with
    | nil => simpa using irrefl_of r best
    | cons next rest ih =>
      rw [List.foldl_cons]
      by_cases hb : r next best
      · rw [if_pos (decide_eq_true hb)]
        obtain ⟨hmem, hall⟩ := ih next
        refine ⟨List.mem_cons_of_mem _ hmem, List.forall_mem_cons.mpr ⟨?_, hall⟩⟩
        exact not_before_trans (asymm_of r hb) (hall next List.mem_cons_self)
      · rw [if_neg (by simpa using hb)]
        obtain ⟨hmem, hall⟩ := ih best
        obtain ⟨hbest, hrest⟩ := List.forall_mem_cons.mp hall
        refine ⟨?_, List.forall_mem_cons.mpr ⟨hbest, List.forall_mem_cons.mpr ⟨?_, hrest⟩⟩⟩
        · rw [List.mem_cons, List.mem_cons]
          exact (List.mem_cons.mp hmem).imp_right .inr
        · exact not_before_trans hb hbest

theorem choose?_eq_none_iff {better : String → String → Bool} :
    choose? better texts = none ↔ texts = [] := by
  cases texts <;> simp [choose?]

theorem choose?_eq_some_iff [DecidableRel r] :
    choose? (fun x y => decide (r x y)) texts = some text ↔
      text ∈ texts ∧ ∀ other ∈ texts, ¬ r other text := by
  refine ⟨not_before_of_choose?, fun ⟨hm, hall⟩ => ?_⟩
  cases hc : choose? (fun x y => decide (r x y)) texts with
  | none =>
    rw [choose?_eq_none_iff.mp hc] at hm
    cases hm
  | some chosen =>
    obtain ⟨hmc, hallc⟩ := not_before_of_choose? hc
    rcases trichotomous_of r text chosen with h | rfl | h
    · exact absurd h (hallc text hm)
    · rfl
    · exact absurd h (hall chosen hmc)

theorem least?_eq_some_iff :
    least? texts = some text ↔ text ∈ texts ∧ ∀ other ∈ texts, ¬ Text.BytesBefore other text := by
  simp only [Text.bytesBefore_iff]
  exact choose?_eq_some_iff (r := fun x y => x < y)

theorem greatest?_eq_some_iff :
    greatest? texts = some text ↔ text ∈ texts ∧ ∀ other ∈ texts, ¬ Text.BytesBefore text other := by
  simp only [Text.bytesBefore_iff]
  exact choose?_eq_some_iff (r := fun x y => y < x)

theorem least?_eq_of_perm {others : List String} (hp : texts.Perm others) :
    least? others = least? texts := by
  refine Option.ext fun text => ?_
  simp only [least?_eq_some_iff, hp.mem_iff]

theorem greatest?_eq_of_perm {others : List String} (hp : texts.Perm others) :
    greatest? others = greatest? texts := by
  refine Option.ext fun text => ?_
  simp only [greatest?_eq_some_iff, hp.mem_iff]

end Extremes

theorem summary_eq_of_perm {entries others : List Entry} (hp : entries.Perm others) :
    summary others = summary entries := by
  have hcounts : operationCounts others = operationCounts entries := by
    rw [← ((tallies_operationCounts entries).of_perm hp).mergeSort_eq]
    exact List.mergeSort_of_pairwise (pairwise_mergeSort_precedes _)
  have htimes := hp.map Entry.timestamp
  rw [summary, summary, hp.length_eq, hcounts, least?_eq_of_perm htimes, greatest?_eq_of_perm htimes]

/-- A summary describes its table: the number of entries; every operation once, with the number of its
entries, by falling number and then by name, whatever the order in which they were gathered; and the
least and the greatest timestamp. It is that of every rearrangement of the table. -/
theorem summary_describes_table (entries : List Entry) :
    let s := summary entries
    let times := entries.map Entry.timestamp
    s.total = entries.length ∧
    -- the operations
    (Tallies entries s.counts ∧ (s.counts.map Prod.snd).sum = s.total ∧ s.counts.Pairwise Leads ∧
      ∀ counts, Tallies entries counts → counts.mergeSort precedes = s.counts) ∧
    -- the times
    ((∀ time, s.first = some time ↔
        time ∈ times ∧ ∀ other ∈ times, ¬ Text.BytesBefore other time) ∧
      (s.first = none ↔ entries = [])) ∧
    ((∀ time, s.last = some time ↔
        time ∈ times ∧ ∀ other ∈ times, ¬ Text.BytesBefore time other) ∧
      (s.last = none ↔ entries = [])) ∧
    ∀ others, entries.Perm others → summary others = s := by
  intro s times
  have htallies := tallies_operationCounts entries
  have hnone : times = [] ↔ entries = [] := List.map_eq_nil_iff
  refine ⟨rfl, ⟨htallies, htallies.sum_eq, operationCounts_leads entries,
    fun counts h => h.mergeSort_eq⟩, ⟨fun time => least?_eq_some_iff, ?_⟩,
    ⟨fun time => greatest?_eq_some_iff, ?_⟩, fun others hp => summary_eq_of_perm hp⟩
  · exact choose?_eq_none_iff.trans hnone
  · exact choose?_eq_none_iff.trans hnone

/-- Two sums and a mean, in two orders: the sums come first. -/
theorem summary_describes_three_entries :
    let first : Entry := ⟨"2024-02-29 23:59:59", "mean", "1 2", "1.5"⟩
    let second : Entry := ⟨"2024-03-01 00:00:00", "add", "1 2", "3.0"⟩
    let third : Entry := ⟨"2024-03-01 00:00:00", "add", "2 3", "5.0"⟩
    let entries := [first, second, third]
    (Tallies entries [("mean", 1), ("add", 2)] ∧ entries.Perm [third, first, second]) ∧
      [("mean", 1), ("add", 2)].mergeSort precedes = (summary entries).counts ∧
      summary [third, first, second] = summary entries := by
  intro first second third entries
  have htallies : Tallies entries [("mean", 1), ("add", 2)] := by
    refine ⟨by decide, fun operation n => ⟨fun hm => ?_, ?_⟩⟩
    · simp only [List.mem_cons, Prod.mk.injEq, List.not_mem_nil, or_false] at hm
      rcases hm with ⟨rfl, rfl⟩ | ⟨rfl, rfl⟩
      · exact ⟨⟨first, by simp [entries], rfl⟩, rfl⟩
      · exact ⟨⟨third, by simp [entries], rfl⟩, rfl⟩
    · rintro ⟨⟨e, he, rfl⟩, rfl⟩
      simp only [entries, List.mem_cons, List.not_mem_nil, or_false] at he
      rcases he with rfl | rfl | rfl <;> decide
  have hp : entries.Perm [third, first, second] := by decide
  obtain ⟨-, ⟨-, -, -, hcounts⟩, -, -, hperm⟩ := summary_describes_table entries
  exact ⟨⟨htallies, hp⟩, hcounts _ htallies, hperm _ hp⟩

end Calculator.History
