import Mathlib.Data.List.TakeWhile
import Mathlib.Logic.Relation
import Calculator.Proofs.Expression.Brackets
import Calculator.Proofs.Number.Written

/-!
Replacing groups one after the other computes the value by structure, whichever group comes first.
-/

namespace Calculator.Expression

/-- One group without parentheses inside has been replaced by its written value. -/
def Replaces (text next : List Char) : Prop :=
  ∃ before inner after, text = before ++ '(' :: (inner ++ ')' :: after) ∧
    '(' ∉ inner ∧ ')' ∉ inner ∧ spliced before inner after = .ok next

variable {before inner after text next cs : List Char}

theorem splitFirst_eq_none {mark : Char} (h : splitFirst mark cs = none) : mark ∉ cs := by
  intro hm
  unfold splitFirst at h
  split at h
  · cases h
  next hd =>
    have := List.dropWhile_eq_nil_iff.mp hd mark hm
    simp at this

theorem splitLast_eq_none {mark : Char} (h : splitLast mark cs = none) : mark ∉ cs := by
  have := splitFirst_eq_none (Option.map_eq_none_iff.mp h)
  simpa using this

theorem fold_nil : fold [] = .error .noTerms := by
  simp [fold, terms]

theorem spliced_of_fold_error (before after : List Char) {e : ExpressionError}
    (h : fold inner = .error e) : spliced before inner after = .error e := by
  unfold spliced
  cases inner with
  | nil =>
    rw [fold_nil] at h
    cases h
    rfl
  | cons c cs => simp [h, bind, Except.bind]

theorem spliced_of_fold_ok {v : Binary64} (h : fold inner = .ok v) :
    spliced before inner after =
      (check (before ++ v.written ++ after)).map fun _ => before ++ v.written ++ after := by
  unfold spliced
  cases inner with
  | nil =>
    rw [fold_nil] at h
    cases h
  | cons c cs =>
    simp only [List.isEmpty_cons, Bool.false_eq_true, ↓reduceIte, h, bind, Except.bind, pure,
      Except.pure]
    cases check (before ++ v.written ++ after) <;> rfl

theorem spliced_eq_ok (h : spliced before inner after = .ok next) :
    ∃ v, fold inner = .ok v ∧ next = before ++ v.written ++ after ∧ ∀ c ∈ next, isAllowed c := by
  cases hf : fold inner with
  | error e =>
    rw [spliced_of_fold_error before after hf] at h
    cases h
  | ok v =>
    rw [spliced_of_fold_ok hf] at h
    cases hc : check (before ++ v.written ++ after) with
    | error e =>
      rw [hc] at h
      cases h
    | ok _ =>
      rw [hc] at h
      cases h
      exact ⟨v, rfl, rfl, (check_eq_ok_iff.mp hc).2⟩

/-- Replacing a group takes one `(` away. -/
theorem count_spliced (hi : '(' ∉ inner) (h : spliced before inner after = .ok next) :
    next.count '(' + 1 = (before ++ '(' :: (inner ++ ')' :: after)).count '(' := by
  obtain ⟨v, -, rfl, -⟩ := spliced_eq_ok h
  have hw := List.count_eq_zero.mpr v.open_not_mem_written
  have hi := List.count_eq_zero.mpr hi
  simp [List.count_append, hw, hi]
  omega

namespace Levels

theorem value?_eq_of_flat_eq {l l' : Levels} (h : l.flat = l'.flat) : l.value? = l'.value? := by
  unfold value?
  rw [h]

/-- Reading a group appends it to the level around it. -/
theorem foldl_read_group (l : Levels) (ho : '(' ∉ inner) (hc : ')' ∉ inner) :
    ('(' :: (inner ++ ')' :: after)).foldl read l =
      after.foldl read ⟨l.inner ++ [.group (inner.map .char)], l.outer⟩ := by
  rw [List.foldl_cons, List.foldl_append, List.foldl_cons]
  have h : l.read '(' = ⟨[], l.inner :: l.outer⟩ := by simp [read]
  rw [h, foldl_read_chars _ ho hc]
  simp [read]

/-- Without a `(` every character of a text stands by itself. -/
theorem foldl_read_no_open (ps : List Piece) (ho : '(' ∉ cs) :
    cs.foldl read ⟨ps, []⟩ = ⟨ps ++ cs.map .char, []⟩ := by
  induction cs generalizing ps with
  | nil => simp
  | cons c cs ih =>
    obtain ⟨h, h'⟩ := not_or.mp (mt List.mem_cons.mpr ho)
    have hr : read ⟨ps, []⟩ c = ⟨ps ++ [.char c], []⟩ := by
      simp [read, Ne.symm h]
    rw [List.foldl_cons, hr, ih _ h']
    simp

end Levels

theorem flatValue?_of_allowed (h : ∀ c ∈ cs, isAllowed c) : flatValue? cs = (fold cs).toOption :=
  if_pos (List.all_eq_true.mpr h)

theorem structuralValue?_of_no_open (ha : ∀ c ∈ cs, isAllowed c) (ho : '(' ∉ cs) :
    structuralValue? cs = (fold cs).toOption := by
  rw [structuralValue?_eq, Levels.foldl_read_no_open [] ho]
  simp [Levels.value?, Levels.flat, flat?_chars, flatValue?_of_allowed ha]

theorem structuralValue?_of_no_close (hc : ')' ∉ after) :
    structuralValue? (before ++ '(' :: after) = none := by
  rw [structuralValue?_eq, List.foldl_append, List.foldl_cons]
  generalize hl : (before.foldl Levels.read {}).read '(' = l
  have hopen : 0 < l.outer.length := by simp [← hl, Levels.read]
  have h := Levels.length_outer_foldl_read l hc
  unfold Levels.value? Levels.flat
  cases ho : (after.foldl Levels.read l).outer with
  | nil =>
    rw [ho, List.length_nil] at h
    omega
  | cons level outer => rfl

/-- One step: a text has the value of the text with one of its groups replaced, and none if that
cannot be done. -/
theorem structuralValue?_group (ha : ∀ c ∈ before ++ '(' :: (inner ++ ')' :: after), isAllowed c)
    (ho : '(' ∉ inner) (hc : ')' ∉ inner) :
    structuralValue? (before ++ '(' :: (inner ++ ')' :: after)) =
      (spliced before inner after).toOption.bind structuralValue? := by
  have hinner : ∀ c ∈ inner, isAllowed c := fun c h => ha c (by simp [h])
  rw [structuralValue?_eq, List.foldl_append, Levels.foldl_read_group _ ho hc]
  generalize hl : before.foldl Levels.read {} = l
  have hflat : flat? (l.inner ++ [.group (inner.map .char)]) = (flat? l.inner).bind fun cs =>
      (fold inner).toOption.map fun v => cs ++ v.written := by
    rw [flat?_append_group, flat?_chars, Option.bind_some, flatValue?_of_allowed hinner]
  cases hf : fold inner with
  | error e =>
    have he := spliced_of_fold_error before after hf
    have hlost : Levels.Lost ⟨l.inner ++ [.group (inner.map .char)], l.outer⟩ := by
      refine .inl ?_
      rw [hflat, hf]
      cases flat? l.inner <;> exact .none
    rw [(hlost.foldl_read after).value?_eq_none, he]
    rfl
  | ok v =>
    -- The group and the characters of its value leave the same text on the level.
    have hw : (before ++ v.written).foldl Levels.read {} =
        ⟨l.inner ++ v.written.map .char, l.outer⟩ := by
      rw [List.foldl_append, hl,
        Levels.foldl_read_chars l v.open_not_mem_written v.close_not_mem_written]
    have heq : (after.foldl Levels.read ⟨l.inner ++ [.group (inner.map .char)], l.outer⟩).value? =
        structuralValue? (before ++ v.written ++ after) := by
      rw [structuralValue?_eq, List.foldl_append, hw]
      refine Levels.value?_eq_of_flat_eq (Levels.flat_foldl_read ?_ after)
      refine Prod.ext ?_ rfl
      change flat? _ = flat? _
      rw [hflat, hf, flat?_append, flat?_chars]
      rfl
    rw [spliced_of_fold_ok hf]
    cases hk : check (before ++ v.written ++ after) with
    | ok _ => simpa [Except.map, Except.toOption] using heq
    | error e =>
      have hbad : v.written.all isAllowed = false := by
        rw [← Bool.not_eq_true]
        intro hgood
        have hok : check (before ++ v.written ++ after) = .ok () := by
          refine check_eq_ok_iff.mpr ⟨by simp [v.written_ne_nil], ?_⟩
          intro c h
          simp only [List.mem_append] at h
          rcases h with (h | h) | h
          · exact ha c (by simp [h])
          · exact List.all_eq_true.mp hgood c h
          · exact ha c (by simp [h])
        rw [hok] at hk
        cases hk
      have hlost : Levels.Lost ⟨l.inner ++ [.group (inner.map .char)], l.outer⟩ := by
        refine .inl ?_
        rw [hflat, hf]
        cases flat? l.inner with
        | none => exact .none
        | some cs =>
          intro ds hd
          cases hd
          rw [List.all_append, hbad, Bool.and_false]
      rw [(hlost.foldl_read after).value?_eq_none]
      rfl

namespace Replaces

theorem allowed (h : Replaces text next) : ∀ c ∈ next, isAllowed c := by
  obtain ⟨before, inner, after, -, -, -, hs⟩ := h
  obtain ⟨v, -, -, ha⟩ := spliced_eq_ok hs
  exact ha

theorem structuralValue?_eq (h : Replaces text next) (ha : ∀ c ∈ text, isAllowed c) :
    structuralValue? text = structuralValue? next := by
  obtain ⟨before, inner, after, rfl, ho, hc, hs⟩ := h
  rw [structuralValue?_group ha ho hc, hs]
  rfl

/-- Whichever groups are replaced, and in whichever order, the value stays. -/
theorem structuralValue?_run (h : Relation.ReflTransGen Replaces text next)
    (ha : ∀ c ∈ text, isAllowed c) :
    structuralValue? text = structuralValue? next ∧ ∀ c ∈ next, isAllowed c := by
  induction h with
  | refl => exact ⟨rfl, ha⟩
  | tail _ hstep ih => exact ⟨ih.1.trans (hstep.structuralValue?_eq ih.2), hstep.allowed⟩

end Replaces

/-- What one pass finds: no group, a `(` that nothing closes, or a group without parentheses inside. -/
theorem resolveLast_splits (text : List Char) :
    ('(' ∉ text ∧ resolveLast text = .ok none) ∨
    (∃ before after, text = before ++ '(' :: after ∧ ')' ∉ after ∧
      resolveLast text = .error .mismatchedParentheses) ∨
    ∃ before inner after, text = before ++ '(' :: (inner ++ ')' :: after) ∧ '(' ∉ inner ∧
      ')' ∉ inner ∧ resolveLast text = (spliced before inner after).map some := by
  unfold resolveLast
  cases hl : splitLast '(' text with
  | none => exact .inl ⟨splitLast_eq_none hl, rfl⟩
  | some parts =>
    right
    obtain ⟨before, opened⟩ := parts
    obtain ⟨rfl, hopened⟩ := splitLast_eq_some hl
    dsimp only
    cases hf : splitFirst ')' opened with
    | none => exact .inl ⟨before, opened, rfl, splitFirst_eq_none hf, rfl⟩
    | some parts =>
      obtain ⟨inner, after⟩ := parts
      obtain ⟨rfl, hinner⟩ := splitFirst_eq_some hf
      have hopen : '(' ∉ inner := fun h => hopened (by simp [h])
      exact .inr ⟨before, inner, after, rfl, hopen, hinner, rfl⟩

/-- What one pass does: it ends on a text without groups, fails on a text without a value, or replaces
the last group. -/
theorem resolveLast_cases (ha : ∀ c ∈ text, isAllowed c) :
    (resolveLast text = .ok none ∧ '(' ∉ text) ∨
    (∃ e, resolveLast text = .error e ∧ '(' ∈ text ∧ structuralValue? text = none) ∨
    ∃ next, resolveLast text = .ok (some next) ∧ Replaces text next ∧
      next.count '(' + 1 = text.count '(' := by
  rcases resolveLast_splits text with
    ⟨ho, hr⟩ | ⟨before, after, rfl, hc, hr⟩ | ⟨before, inner, after, rfl, ho, hc, hr⟩
  · exact .inl ⟨hr, ho⟩
  · exact .inr (.inl ⟨_, hr, by simp, structuralValue?_of_no_close hc⟩)
  · right
    rw [hr]
    cases hs : spliced before inner after with
    | error e =>
      refine .inl ⟨e, rfl, by simp, ?_⟩
      rw [structuralValue?_group ha ho hc, hs]
      rfl
    | ok next =>
      exact .inr ⟨next, rfl, ⟨before, inner, after, rfl, ho, hc, hs⟩, count_spliced ho hs⟩

/-- A text whose groups cannot be replaced further has a value only without a `(`. -/
theorem structuralValue?_of_stuck (ha : ∀ c ∈ text, isAllowed c)
    (hs : ∀ next, ¬ Replaces text next) (ho : '(' ∈ text) : structuralValue? text = none := by
  rcases resolveLast_cases ha with ⟨-, h⟩ | ⟨e, -, -, h⟩ | ⟨next, -, h, -⟩
  · exact absurd ho h
  · exact h
  · exact absurd h (hs next)

theorem resolve_succ (passes : Nat) (text : List Char) :
    resolve (passes + 1) text = (resolveLast text).bind fun
      | none => .ok text
      | some next => resolve passes next := rfl

/-- As many passes as there are `(` leave none, or fail; more passes change nothing. -/
theorem resolve_of_count_le {passes : Nat} (ha : ∀ c ∈ text, isAllowed c)
    (hp : text.count '(' ≤ passes) :
    resolve passes text = resolve (text.count '(') text ∧
      ∀ out, resolve passes text = .ok out → '(' ∉ out := by
  induction passes generalizing text with
  | zero =>
    have h0 : text.count '(' = 0 := Nat.le_zero.mp hp
    refine ⟨by rw [h0], ?_⟩
    intro out h
    cases h
    exact List.count_eq_zero.mp h0
  | succ passes ih =>
    rcases resolveLast_cases ha with ⟨hr, h⟩ | ⟨e, hr, h, -⟩ | ⟨next, hr, hstep, hcount⟩
    · rw [List.count_eq_zero.mpr h, resolve_succ, hr]
      refine ⟨rfl, ?_⟩
      intro out hout
      cases hout
      exact h
    · obtain ⟨n, hn⟩ := Nat.exists_eq_succ_of_ne_zero (mt List.count_eq_zero.mp (not_not.mpr h))
      rw [hn, resolve_succ, resolve_succ, hr]
      exact ⟨rfl, fun out hout => nomatch hout⟩
    · rw [← hcount, resolve_succ, resolve_succ, hr]
      exact ih hstep.allowed (by omega)

/-- The value of a text once its groups have been replaced is the one its structure gives. -/
theorem resolve_bind_fold {passes : Nat} (ha : ∀ c ∈ text, isAllowed c)
    (hp : text.count '(' ≤ passes) :
    ((resolve passes text).bind fold).toOption = structuralValue? text := by
  induction passes generalizing text with
  | zero =>
    have h := List.count_eq_zero.mp (Nat.le_zero.mp hp)
    rw [structuralValue?_of_no_open ha h]
    rfl
  | succ passes ih =>
    rw [resolve_succ]
    rcases resolveLast_cases ha with ⟨hr, h⟩ | ⟨e, hr, -, h⟩ | ⟨next, hr, hstep, hcount⟩
    · rw [hr, structuralValue?_of_no_open ha h]
      rfl
    · rw [hr, h]
      rfl
    · rw [hr, hstep.structuralValue?_eq ha]
      exact ih hstep.allowed (by omega)

theorem nesting_of_no_open (h : '(' ∉ cs) : nesting cs = 0 := by
  have hfold : ∀ state, (cs.foldl deepen state).2 = state.2 := by
    induction cs with
    | nil => exact fun _ => rfl
    | cons c cs ih =>
      intro state
      obtain ⟨hc, hrest⟩ := not_or.mp (mt List.mem_cons.mpr h)
      rw [List.foldl_cons, ih hrest, deepen, if_neg (Ne.symm hc)]
      split <;> rfl
  exact hfold (0, 0)

/-- Without groups, evaluation is the check of the characters and the fold of the terms. -/
theorem evaluate_of_no_open {s : String} (h : '(' ∉ compact s) :
    evaluate s = (check (compact s)).bind fun _ => fold (compact s) := by
  have hn : ¬ maxNesting < nesting (compact s) := by
    rw [nesting_of_no_open h]
    exact Nat.not_lt_zero _
  have hcount : (compact s).count '(' = 0 := List.count_eq_zero.mpr h
  unfold evaluate
  dsimp only
  rw [if_neg hn, hcount]
  cases check (compact s) <;> rfl

/-- An expression that passes the first checks has the value that its structure gives. -/
theorem evaluate_toOption {s : String} (hne : compact s ≠ []) (ha : ∀ c ∈ compact s, isAllowed c)
    (hn : nesting (compact s) ≤ maxNesting) :
    (evaluate s).toOption = structuralValue? (compact s) := by
  rw [← resolve_bind_fold ha (Nat.le_refl _)]
  have hc := check_eq_ok_iff.mpr ⟨hne, ha⟩
  simp only [evaluate, hc, bind, Except.bind, Nat.not_lt.mpr hn, ↓reduceIte]

theorem checks_of_evaluate_eq_ok {s : String} {v : Binary64} (h : evaluate s = .ok v) :
    compact s ≠ [] ∧ (∀ c ∈ compact s, isAllowed c) ∧ nesting (compact s) ≤ maxNesting := by
  cases hc : check (compact s) with
  | error e =>
    simp only [evaluate, hc, bind, Except.bind] at h
    cases h
  | ok _ =>
    obtain ⟨hne, ha⟩ := check_eq_ok_iff.mp hc
    refine ⟨hne, ha, Nat.not_lt.mp fun hn => ?_⟩
    simp only [evaluate, hc, bind, Except.bind, hn, ↓reduceIte] at h
    cases h

theorem toOption_eq_some_iff {α ε : Type} {x : Except ε α} {a : α} :
    x.toOption = some a ↔ x = .ok a := by
  cases x <;> simp [Except.toOption]

/-- Evaluation computes the value by structure. So replacing any groups in any order until none can be
replaced decides it, a `(` without its `)` is an error, and the passes end. -/
theorem evaluate_eq_ok_iff_structuralValue? {s : String} (hne : compact s ≠ [])
    (ha : ∀ c ∈ compact s, isAllowed c) (hn : nesting (compact s) ≤ maxNesting) :
    (∀ v, evaluate s = .ok v ↔ structuralValue? (compact s) = some v) ∧
    (∀ out, Relation.ReflTransGen Replaces (compact s) out → (∀ next, ¬ Replaces out next) →
      ∀ v, evaluate s = .ok v ↔ '(' ∉ out ∧ fold out = .ok v) ∧
    (pieces? (compact s) = none → ∃ e, evaluate s = .error e) ∧
    ∀ passes, (compact s).count '(' ≤ passes →
      resolve passes (compact s) = resolve ((compact s).count '(') (compact s) ∧
      ∀ out, resolve passes (compact s) = .ok out → '(' ∉ out := by
  have heval := evaluate_toOption hne ha hn
  refine ⟨?_, ?_, ?_, fun passes hp => resolve_of_count_le ha hp⟩
  · intro v
    rw [← heval, toOption_eq_some_iff]
  · intro out hrun hstuck v
    obtain ⟨hvalue, hallowed⟩ := Replaces.structuralValue?_run hrun ha
    rw [← toOption_eq_some_iff, heval, hvalue]
    by_cases ho : '(' ∈ out
    · simp [structuralValue?_of_stuck hallowed hstuck ho, ho]
    · simp [structuralValue?_of_no_open hallowed ho, toOption_eq_some_iff, ho]
  · intro hp
    cases he : evaluate s with
    | error e => exact ⟨e, rfl⟩
    | ok v =>
      rw [he, structuralValue?, hp] at heval
      cases heval

/-- A group in a group, and a `)` that closes nothing. -/
theorem evaluate_nested_group : evaluate " 2 * ((3+4)-1) )" = .ok (.ofNat 12) :=
  ((evaluate_eq_ok_iff_structuralValue? (s := " 2 * ((3+4)-1) )") (by decide +kernel)
    (List.all_eq_true.mp (by decide +kernel)) (by decide +kernel)).1 _).mpr (by decide +kernel)

end Calculator.Expression
