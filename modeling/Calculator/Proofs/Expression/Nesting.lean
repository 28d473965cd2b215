import Mathlib.Order.Bounds.Basic
import Calculator.Proofs.Expression.Refusals

/-!
The nesting of a text is the greatest surplus of `(` over `)` that a part of it has. Putting the value of a
group in its place never makes a text deeper, so that one look at the text before the first group is
enough.
-/

namespace Calculator.Expression

/-- How many more `(` than `)` a text has. -/
def surplus (cs : List Char) : Int := (cs.count '(' : Int) - cs.count ')'

variable {c : Char} {cs seen before inner after text next out : List Char} {state : Nat × Nat}

theorem surplus_append (cs ds : List Char) : surplus (cs ++ ds) = surplus cs + surplus ds := by
  unfold surplus
  rw [List.count_append, List.count_append]
  omega

theorem surplus_other (ho : c ≠ '(') (hc : c ≠ ')') : surplus [c] = 0 := by
  simp [surplus, ho, hc]

/-- What the count has found in a text: how deep it is at the end, and how deep the deepest part is. -/
structure Measures (seen : List Char) (state : Nat × Nat) : Prop where
  ending : IsGreatest (surplus '' {part | part <:+ seen}) state.1
  anywhere : IsGreatest (surplus '' {part | part <:+: seen}) state.2

theorem measures_nil : Measures [] (0, 0) := by
  constructor
  · simp [surplus]
  · simp [surplus]

/-- A part at the end of a text that goes on is empty, or it goes on as well. -/
theorem isGreatest_suffix_concat {n : Int}
    (h : IsGreatest (surplus '' {part | part <:+ seen}) n) (c : Char) :
    IsGreatest (surplus '' {part | part <:+ seen ++ [c]}) (max 0 (n + surplus [c])) := by
  obtain ⟨⟨deep, hdeep, hn⟩, hmax⟩ := h
  constructor
  · rcases Int.le_total (n + surplus [c]) 0 with hle | hle
    · rw [max_eq_left hle]
      exact ⟨[], List.nil_suffix, rfl⟩
    · rw [max_eq_right hle]
      refine ⟨deep ++ [c], List.suffix_concat_iff.mpr (.inr ⟨deep, rfl, hdeep⟩), ?_⟩
      rw [surplus_append, hn]
  · rintro _ ⟨part, hpart, rfl⟩
    rcases List.suffix_concat_iff.mp hpart with rfl | ⟨front, rfl, hfront⟩
    · exact le_max_left 0 _
    · have hle : surplus front ≤ n := hmax ⟨front, hfront, rfl⟩
      rw [surplus_append]
      omega

theorem isGreatest_infix_concat {n m : Int}
    (hn : IsGreatest (surplus '' {part | part <:+ seen ++ [c]}) n)
    (hm : IsGreatest (surplus '' {part | part <:+: seen}) m) :
    IsGreatest (surplus '' {part | part <:+: seen ++ [c]}) (max n m) := by
  have hparts : {part | part <:+: seen ++ [c]} =
      {part | part <:+ seen ++ [c]} ∪ {part | part <:+: seen} := by
    ext part
    exact List.infix_concat_iff
  rw [hparts, Set.image_union]
  exact hn.union hm

theorem depth_deepen (state : Nat × Nat) (c : Char) :
    ((deepen state c).1 : Int) = max 0 (state.1 + surplus [c]) := by
  unfold deepen
  by_cases ho : c = '('
  · subst ho
    have hone : surplus ['('] = 1 := rfl
    simp only [↓reduceIte, hone]
    omega
  by_cases hc : c = ')'
  · subst hc
    have hone : surplus [')'] = -1 := rfl
    simp only [Char.reduceEq, ↓reduceIte, hone]
    omega
  · simp only [ho, hc, ↓reduceIte, surplus_other ho hc]
    omega

theorem deepest_deepen (h : state.1 ≤ state.2) (c : Char) :
    ((deepen state c).2 : Int) = max ((deepen state c).1 : Int) state.2 := by
  unfold deepen
  split
  · dsimp only
    omega
  split
  · dsimp only
    omega
  · omega

namespace Measures

/-- The end of a text is a part of it. -/
theorem depth_le (h : Measures seen state) : state.1 ≤ state.2 := by
  obtain ⟨part, hpart, hs⟩ := h.ending.1
  have hle : surplus part ≤ state.2 := h.anywhere.2 ⟨part, hpart.isInfix, rfl⟩
  omega

/-- One character on, the count has found what there is to find. -/
theorem concat (h : Measures seen state) (c : Char) : Measures (seen ++ [c]) (deepen state c) := by
  have hending := isGreatest_suffix_concat h.ending c
  rw [← depth_deepen] at hending
  have hanywhere := isGreatest_infix_concat hending h.anywhere
  rw [← deepest_deepen h.depth_le] at hanywhere
  exact ⟨hending, hanywhere⟩

end Measures

theorem measures_foldl_deepen (cs : List Char) : Measures cs (cs.foldl deepen (0, 0)) := by
  induction cs using List.reverseRecOn with
  | nil => exact measures_nil
  | append_singleton seen c ih =>
    rw [List.foldl_append, List.foldl_cons, List.foldl_nil]
    exact ih.concat c

theorem isGreatest_nesting (cs : List Char) :
    IsGreatest (surplus '' {part | part <:+: cs}) (nesting cs) :=
  (measures_foldl_deepen cs).anywhere

theorem lt_nesting_iff {n : Nat} :
    n < nesting cs ↔ ∃ part, part <:+: cs ∧ (n : Int) < surplus part := by
  obtain ⟨⟨deepest, hpart, hs⟩, hmax⟩ := isGreatest_nesting cs
  constructor
  · intro h
    exact ⟨deepest, hpart, by omega⟩
  · rintro ⟨part, hpart, h⟩
    have hle : surplus part ≤ nesting cs := hmax ⟨part, hpart, rfl⟩
    omega

/-- Every `(` in a text has been closed, so that a `)` after it would close nothing. -/
def NothingOpen (cs : List Char) : Prop := ∀ part, part <:+ cs → surplus part ≤ 0

/-- A `)` that closes nothing is not counted, and what follows it is as deep as without it. -/
theorem foldl_deepen_stray (h : NothingOpen before) (after : List Char) :
    (before ++ ')' :: after).foldl deepen (0, 0) = (before ++ after).foldl deepen (0, 0) := by
  obtain ⟨part, hpart, hs⟩ := (measures_foldl_deepen before).ending.1
  have hle := h part hpart
  have hdepth : (before.foldl deepen (0, 0)).1 = 0 := by omega
  have hstray : deepen (before.foldl deepen (0, 0)) ')' = before.foldl deepen (0, 0) := by
    refine Prod.ext ?_ rfl
    simp [deepen, hdepth]
  rw [List.foldl_append, List.foldl_cons, hstray, List.foldl_append]

theorem foldl_deepen_plain (ho : '(' ∉ cs) (hc : ')' ∉ cs) (state : Nat × Nat) :
    cs.foldl deepen state = state := by
  induction cs with
  | nil => rfl
  | cons c cs ih =>
    obtain ⟨h₁, h₁'⟩ := not_or.mp (mt List.mem_cons.mpr ho)
    obtain ⟨h₂, h₂'⟩ := not_or.mp (mt List.mem_cons.mpr hc)
    have hstate : deepen state c = state := by simp [deepen, Ne.symm h₁, Ne.symm h₂]
    rw [List.foldl_cons, hstate, ih h₁' h₂']

/-- Of two counts at the same depth, the one that has been deeper before stays the deeper one. -/
theorem foldl_deepen_mono (cs : List Char) (depth : Nat) {m n : Nat} (h : m ≤ n) :
    (cs.foldl deepen (depth, m)).2 ≤ (cs.foldl deepen (depth, n)).2 := by
  induction cs generalizing depth m n with
  | nil => exact h
  | cons c cs ih =>
    rw [List.foldl_cons, List.foldl_cons]
    by_cases ho : c = '('
    · simp only [deepen, ho, ↓reduceIte]
      apply ih
      omega
    by_cases hc : c = ')'
    · simp only [deepen, hc, ↓reduceIte, Char.reduceEq]
      exact ih _ h
    · simp only [deepen, ho, hc, ↓reduceIte]
      exact ih _ h

/-- One step: a written value brings no parentheses, so the text is at most as deep as it was with the
group. -/
theorem Replaces.nesting_le (h : Replaces text next) : nesting next ≤ nesting text := by
  obtain ⟨before, inner, after, rfl, ho, hc, hs⟩ := h
  obtain ⟨v, -, rfl, -⟩ := spliced_eq_ok hs
  unfold nesting
  rw [List.foldl_append, List.foldl_append,
    foldl_deepen_plain v.open_not_mem_written v.close_not_mem_written, List.foldl_append]
  generalize before.foldl deepen (0, 0) = state
  have hgroup : ('(' :: (inner ++ ')' :: after)).foldl deepen state =
      after.foldl deepen (state.1, max state.2 (state.1 + 1)) := by
    rw [List.foldl_cons, List.foldl_append, foldl_deepen_plain ho hc, List.foldl_cons]
    rfl
  rw [hgroup]
  exact foldl_deepen_mono after state.1 (Nat.le_max_left ..)

theorem replaces_of_resolveLast (h : resolveLast text = .ok (some next)) : Replaces text next := by
  rcases resolveLast_splits text with
    ⟨-, hr⟩ | ⟨before, after, -, -, hr⟩ | ⟨before, inner, after, htext, ho, hc, hr⟩
  · rw [hr] at h
    cases h
  · rw [hr] at h
    cases h
  · rw [hr] at h
    cases hs : spliced before inner after with
    | error e =>
      rw [hs] at h
      cases h
    | ok replaced =>
      rw [hs] at h
      cases h
      exact ⟨before, inner, after, htext, ho, hc, hs⟩

/-- The passes replace one group after the other. -/
theorem run_of_resolve {passes : Nat} (h : resolve passes text = .ok out) :
    Relation.ReflTransGen Replaces text out := by
  induction passes generalizing text with
  | zero =>
    cases h
    exact .refl
  | succ passes ih =>
    rw [resolve_succ] at h
    cases hr : resolveLast text with
    | error e =>
      rw [hr] at h
      cases h
    | ok replaced =>
      rw [hr] at h
      cases replaced with
      | none =>
        cases h
        exact .refl
      | some next => exact .head (replaces_of_resolveLast hr) (ih h)

theorem nesting_le_of_run (h : Relation.ReflTransGen Replaces text out) : nesting out ≤ nesting text := by
  induction h with
  | refl => exact Nat.le_refl _
  | tail _ hstep ih => exact Nat.le_trans hstep.nesting_le ih

theorem fold_ne_tooDeeplyNested (ha : ∀ c ∈ text, isAllowed c = true) :
    fold text ≠ .error .tooDeeplyNested := by
  intro h
  rcases fold_cases ha with ⟨v, hv⟩ | ⟨e, he, hrefused⟩
  · rw [hv] at h
    cases h
  · rw [he] at h
    cases h
    cases hrefused

theorem check_ne_tooDeeplyNested (cs : List Char) : check cs ≠ .error .tooDeeplyNested := by
  unfold check
  split
  · simp
  · split <;> simp

theorem spliced_ne_tooDeeplyNested (hinner : ∀ c ∈ inner, isAllowed c = true) :
    spliced before inner after ≠ .error .tooDeeplyNested := by
  intro h
  cases hf : fold inner with
  | error e =>
    rw [spliced_of_fold_error before after hf] at h
    cases h
    exact fold_ne_tooDeeplyNested hinner hf
  | ok v =>
    rw [spliced_of_fold_ok hf] at h
    cases hk : check (before ++ v.written ++ after) with
    | ok _ =>
      rw [hk] at h
      cases h
    | error e =>
      rw [hk] at h
      cases h
      exact check_ne_tooDeeplyNested _ hk

theorem resolveLast_ne_tooDeeplyNested (ha : ∀ c ∈ text, isAllowed c = true) :
    resolveLast text ≠ .error .tooDeeplyNested := by
  intro h
  rcases resolveLast_splits text with
    ⟨-, hr⟩ | ⟨before, after, -, -, hr⟩ | ⟨before, inner, after, rfl, -, -, hr⟩
  · rw [hr] at h
    cases h
  · rw [hr] at h
    cases h
  · rw [hr] at h
    have hinner : ∀ c ∈ inner, isAllowed c = true := by
      intro c hc
      apply ha
      simp [hc]
    cases hs : spliced before inner after with
    | ok next =>
      rw [hs] at h
      cases h
    | error e =>
      rw [hs] at h
      cases h
      exact spliced_ne_tooDeeplyNested hinner hs

theorem resolve_ne_tooDeeplyNested {passes : Nat} (ha : ∀ c ∈ text, isAllowed c = true) :
    resolve passes text ≠ .error .tooDeeplyNested := by
  induction passes generalizing text with
  | zero => exact nofun
  | succ passes ih =>
    rw [resolve_succ]
    cases hr : resolveLast text with
    | error e =>
      intro h
      cases h
      exact resolveLast_ne_tooDeeplyNested ha hr
    | ok replaced =>
      cases replaced with
      | none => exact nofun
      | some next => exact ih (replaces_of_resolveLast hr).allowed

/-- The first look at a text is the only one that can find it too deep. -/
theorem evaluate_eq_tooDeeplyNested_iff {s : String} (hne : compact s ≠ [])
    (ha : ∀ c ∈ compact s, isAllowed c = true) :
    evaluate s = .error .tooDeeplyNested ↔ maxNesting < nesting (compact s) := by
  have hcheck := check_eq_ok_iff.mpr ⟨hne, ha⟩
  constructor
  · intro h
    by_contra hn
    simp only [evaluate, hcheck, bind, Except.bind, hn, ↓reduceIte] at h
    cases hr : resolve ((compact s).count '(') (compact s) with
    | error e =>
      rw [hr] at h
      cases h
      exact resolve_ne_tooDeeplyNested ha hr
    | ok out =>
      rw [hr] at h
      exact fold_ne_tooDeeplyNested (Replaces.structuralValue?_run (run_of_resolve hr) ha).2 h
  · intro hn
    simp only [evaluate, hcheck, bind, Except.bind, hn, ↓reduceIte]
    rfl

/-- A text is too deep to be evaluated exactly if a part of it has more than 500 more `(` than `)`: the
nesting is the greatest such surplus of a part, the count goes on after a `)` that closes nothing as if it
were not there, and no text gets deeper when groups are replaced. -/
theorem nesting_limit_is_exact :
    (∀ s, compact s ≠ [] → (∀ c ∈ compact s, isAllowed c = true) →
      (evaluate s = .error .tooDeeplyNested ↔
        ∃ part, part <:+: compact s ∧ 500 < surplus part)) ∧
    (∀ cs, IsGreatest (surplus '' {part | part <:+: cs}) (nesting cs)) ∧
    (∀ before after, NothingOpen before →
      (before ++ ')' :: after).foldl deepen (0, 0) = (before ++ after).foldl deepen (0, 0)) ∧
    (∀ text next, resolveLast text = .ok (some next) → nesting next ≤ nesting text) ∧
    ∀ passes text out, resolve passes text = .ok out → nesting out ≤ nesting text := by
  refine ⟨?_, isGreatest_nesting, ?_, ?_, ?_⟩
  · intro s hne ha
    rw [evaluate_eq_tooDeeplyNested_iff hne ha]
    exact lt_nesting_iff
  · intro before after h
    exact foldl_deepen_stray h after
  · intro text next h
    exact (replaces_of_resolveLast h).nesting_le
  · intro passes text out h
    exact nesting_le_of_run (run_of_resolve h)

/-- A stray `)` does not make up for one of 501 groups that open after it. -/
theorem nesting_limit_after_stray_close :
    evaluate (String.ofList (')' :: ' ' :: List.replicate 501 '(')) = .error .tooDeeplyNested ∧
    ['(', ')', ')', '(', '1'].foldl deepen (0, 0) = ['(', ')', '(', '1'].foldl deepen (0, 0) ∧
    nesting ['1', '.', '0', ')', ')'] ≤ nesting ['(', '1', ')', ')', ')'] := by
  obtain ⟨hlimit, -, hstray, hpass, -⟩ := nesting_limit_is_exact
  have hc : compact (String.ofList (')' :: ' ' :: List.replicate 501 '(')) =
      ')' :: List.replicate 501 '(' := by
    have hclose : Text.isBlank ')' = false := by decide
    have hblank : Text.isBlank ' ' = true := by decide
    have hopen : Text.isBlank '(' = false := by decide
    rw [compact, String.toList_ofList, List.filter_cons, List.filter_cons, List.filter_replicate,
      hclose, hblank, hopen]
    rfl
  have hdeep : surplus (List.replicate 501 '(') = 501 := by
    rw [surplus, List.count_replicate_self, List.count_replicate]
    rfl
  refine ⟨?_, ?_, ?_⟩
  · apply (hlimit _ _ _).mpr
    · rw [hc]
      exact ⟨_, (List.suffix_cons _ _).isInfix, by omega⟩
    · rw [hc]
      exact List.cons_ne_nil _ _
    · intro c hm
      rw [hc] at hm
      rcases List.mem_cons.mp hm with rfl | hm
      · decide
      · rw [List.eq_of_mem_replicate hm]
        decide
  · apply hstray ['(', ')']
    intro part h
    simp only [List.suffix_cons_iff, List.suffix_nil] at h
    rcases h with rfl | rfl | rfl <;> decide
  · apply hpass
    apply toOption_eq_some_iff.mp
    decide +kernel

end Calculator.Expression
