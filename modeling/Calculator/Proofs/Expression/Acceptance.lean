import Calculator.Proofs.Expression.Matching
import Calculator.Proofs.Expression.Operands

/-!
Which texts have a value at all: what their brackets and operands have to look like, at every depth.
-/

namespace Calculator.Expression

variable {c : Char} {flat : List Char} {p : Piece} {ps : List Piece}

namespace Piece

/-- A piece by what it is made of, however deep. -/
@[induction_eliminator]
theorem induct {motive : Piece → Prop} (char : ∀ c, motive (.char c))
    (group : ∀ inside, (∀ p ∈ inside, motive p) → motive (.group inside)) (p : Piece) : motive p :=
  Piece.rec char group (fun _ h => nomatch h)
    (fun _ _ hp hps q h => (List.mem_cons.mp h).elim (fun he => he ▸ hp) (hps q)) p

end Piece

/-- All characters are allowed, and every group has a value that is written in allowed ones. -/
inductive Piece.Legible : Piece → Prop where
  | char {c : Char} (h : isAllowed c = true) : (char c).Legible
  | group {inside : List Piece} (h : ∀ p ∈ inside, p.Legible) (ho : Opens none inside)
    (hw : ∀ v, valueOf? inside = some v → ∀ c ∈ v.written, isAllowed c = true) :
    (group inside).Legible

theorem Piece.legible_char_iff : (char c).Legible ↔ isAllowed c = true :=
  ⟨fun | .char h => h, .char⟩

theorem flat?_cons_eq_some_iff :
    flat? (p :: ps) = some flat ↔
      ∃ cs rest, p.flat? = some cs ∧ flat? ps = some rest ∧ cs ++ rest = flat := by
  simp [flat?, Option.bind_eq_some_iff]

/-- Putting the values of groups into a text does not change whether its first operand can stand where
it does. -/
theorem opens_flat (h : flat? ps = some flat) (ha : ∀ c ∈ flat, isAllowed c = true)
    (before : Option Char) : Opens before (flat.map .char) ↔ Opens before ps := by
  induction ps generalizing flat before with
  | nil =>
    cases h
    rfl
  | cons p ps ih =>
    obtain ⟨cs, rest, hp, hps, rfl⟩ := flat?_cons_eq_some_iff.mp h
    have hrest := ih hps fun c hc => ha c (List.mem_append_right _ hc)
    cases p with
    | char c =>
      cases hp
      rw [List.singleton_append, List.map_cons, Opens, Opens, hrest]
    | group inside =>
      obtain ⟨v, hv, rfl⟩ := Option.map_eq_some_iff.mp hp
      have hvalue : valueOf? inside = some v := hv
      -- A written value begins with a digit or with a minus sign, after which a digit can always stand.
      obtain ⟨l, hw⟩ := literal_of_allowed fun c hc => ha c (List.mem_append_left _ hc)
      obtain ⟨d, ds, -, hd, -, hl⟩ := l.chars_eq_cons
      rw [Opens, hvalue]
      rcases hw with ⟨hs, hw, -⟩ | ⟨hs, hw, -⟩
      · rw [hw, hl, List.cons_append, List.map_cons, Opens, if_pos hd]
        simp [hs]
      · rw [hw, hl, List.cons_append, List.cons_append, List.map_cons, List.map_cons, Opens,
          if_neg (by decide), Opens, if_pos hd]
        simp [hs, IsFactor]

theorem forall_legible_of_flat?
    (hp : ∀ p ∈ ps, ∀ cs, p.flat? = some cs → (∀ c ∈ cs, isAllowed c = true) → p.Legible)
    (h : flat? ps = some flat) (ha : ∀ c ∈ flat, isAllowed c = true) : ∀ p ∈ ps, p.Legible := by
  induction ps generalizing flat with
  | nil => simp
  | cons p ps ih =>
    obtain ⟨cs, rest, hcs, hrest, rfl⟩ := flat?_cons_eq_some_iff.mp h
    obtain ⟨hone, hall⟩ := List.forall_mem_cons.mp hp
    exact List.forall_mem_cons.mpr
      ⟨hone cs hcs fun c hc => ha c (List.mem_append_left _ hc),
        ih hall hrest fun c hc => ha c (List.mem_append_right _ hc)⟩

theorem legible_of_flat? (h : p.flat? = some flat) (ha : ∀ c ∈ flat, isAllowed c = true) :
    p.Legible := by
  induction p generalizing flat with
  | char c =>
    cases h
    exact .char (ha c List.mem_cons_self)
  | group inside ih =>
    obtain ⟨v, hv, rfl⟩ := Option.map_eq_some_iff.mp h
    have hvalue : valueOf? inside = some v := hv
    obtain ⟨text, ht, htext⟩ := Option.bind_eq_some_iff.mp hv
    obtain ⟨hallowed, hf⟩ := flatValue?_eq_some htext
    have hopens : Opens none (text.map .char) := (fold_isOk_iff_opens (by simp)).mp ⟨v, hf⟩
    refine .group (forall_legible_of_flat? (fun p hp cs => ih p hp) ht hallowed)
      ((opens_flat ht hallowed none).mp hopens) fun w hw => ?_
    obtain rfl : v = w := Option.some.inj (hvalue.symm.trans hw)
    exact ha

theorem exists_flat?_of_forall
    (h : ∀ p ∈ ps, ∃ cs, p.flat? = some cs ∧ ∀ c ∈ cs, isAllowed c = true) :
    ∃ flat, flat? ps = some flat ∧ ∀ c ∈ flat, isAllowed c = true := by
  induction ps with
  | nil => exact ⟨[], rfl, by simp⟩
  | cons p ps ih =>
    obtain ⟨⟨cs, hcs, ha⟩, hps⟩ := List.forall_mem_cons.mp h
    obtain ⟨rest, hrest, har⟩ := ih hps
    exact ⟨cs ++ rest, flat?_cons_eq_some_iff.mpr ⟨cs, rest, hcs, hrest, rfl⟩,
      fun c hc => (List.mem_append.mp hc).elim (ha c) (har c)⟩

/-- A text that has been put together from allowed characters has a value where it opens. -/
theorem exists_valueOf?_of_opens (hf : flat? ps = some flat) (ha : ∀ c ∈ flat, isAllowed c = true)
    (ho : Opens none ps) : ∃ v, valueOf? ps = some v := by
  obtain ⟨v, hv⟩ := (fold_isOk_iff_opens (by simp)).mpr ((opens_flat hf ha none).mpr ho)
  refine ⟨v, ?_⟩
  rw [valueOf?, hf, Option.bind_some, flatValue?_of_allowed ha]
  exact toOption_eq_some_iff.mpr hv

namespace Piece.Legible

theorem exists_flat? (h : p.Legible) : ∃ cs, p.flat? = some cs ∧ ∀ c ∈ cs, isAllowed c = true := by
  induction h with
  | char h => exact ⟨_, rfl, by simpa using h⟩
  | group _ ho hw ih =>
    obtain ⟨flat, hf, ha⟩ := exists_flat?_of_forall ih
    obtain ⟨v, hv⟩ := exists_valueOf?_of_opens hf ha ho
    exact ⟨v.written, Option.map_eq_some_iff.mpr ⟨v, hv, rfl⟩, hw v hv⟩

end Piece.Legible

/-- The values of groups decide nothing but whether they can be written: pieces have a value if and
only if they are legible and the first operand can stand where it does. -/
theorem exists_valueOf?_iff :
    (∃ v, valueOf? ps = some v) ↔ (∀ p ∈ ps, p.Legible) ∧ Opens none ps := by
  constructor
  · rintro ⟨v, hv⟩
    obtain ⟨flat, hf, hv⟩ := Option.bind_eq_some_iff.mp hv
    obtain ⟨ha, hv⟩ := flatValue?_eq_some hv
    have hopens : Opens none (flat.map .char) := (fold_isOk_iff_opens (by simp)).mp ⟨v, hv⟩
    exact ⟨forall_legible_of_flat? (fun p _ cs => legible_of_flat?) hf ha,
      (opens_flat hf ha none).mp hopens⟩
  · rintro ⟨hl, ho⟩
    obtain ⟨flat, hf, ha⟩ := exists_flat?_of_forall fun p hp => (hl p hp).exists_flat?
    exact exists_valueOf?_of_opens hf ha ho

theorem allowed_textOf (h : ∀ p ∈ ps, ∀ c ∈ p.text, isAllowed c = true) :
    ∀ c ∈ textOf ps, isAllowed c = true := by
  induction ps with
  | nil => simp [textOf]
  | cons p ps ih =>
    obtain ⟨hp, hps⟩ := List.forall_mem_cons.mp h
    intro c hc
    rcases List.mem_append.mp hc with hc | hc
    · exact hp c hc
    · exact ih hps c hc

theorem Piece.Legible.allowed_text (h : p.Legible) : ∀ c ∈ p.text, isAllowed c = true := by
  induction h with
  | char h => simpa [Piece.text] using h
  | group _ _ _ ih =>
    have hinside := allowed_textOf ih
    intro c hc
    simp only [Piece.text, List.mem_cons, List.mem_append, List.not_mem_nil, or_false] at hc
    rcases hc with rfl | hc | rfl
    · decide
    · exact hinside c hc
    · decide

theorem textOf_ne_nil (h : Opens none ps) : textOf ps ≠ [] := by
  cases ps with
  | nil => exact absurd h id
  | cons p ps => cases p <;> simp [textOf, Piece.text]

/-- Evaluation gives a number only to texts of allowed characters in which every `(` is matched, and in
which the text and the inside of each group have an operand that can stand first. It gives one to each
such text whose parentheses all match, however operators and points stand between the operands. -/
theorem evaluate_accepts (s : String) :
    (∀ v, evaluate s = .ok v → nesting (compact s) ≤ maxNesting ∧
      ∃ ps, textOf ps = compact s ∧ (∀ p ∈ ps, p.Matched) ∧ (∀ p ∈ ps, p.Legible) ∧ Opens none ps) ∧
    ∀ ps, textOf ps = compact s → (∀ p ∈ ps, p.Matched) → .char ')' ∉ ps → (∀ p ∈ ps, p.Legible) →
      Opens none ps → nesting (compact s) ≤ maxNesting → ∃ v, evaluate s = .ok v := by
  constructor
  · intro v h
    obtain ⟨hne, ha, hn⟩ := checks_of_evaluate_eq_ok h
    have hv : structuralValue? (compact s) = some v := by
      rw [← evaluate_toOption hne ha hn, h]
      rfl
    obtain ⟨ps, hps, hv⟩ := Option.bind_eq_some_iff.mp hv
    obtain ⟨htext, hm⟩ := pieces?_eq_some_iff.mp hps
    exact ⟨hn, ps, htext, hm, exists_valueOf?_iff.mp ⟨v, hv⟩⟩
  · intro ps htext hm _ hl ho hn
    obtain ⟨v, hv⟩ := exists_valueOf?_iff.mpr ⟨hl, ho⟩
    have hne : compact s ≠ [] := htext ▸ textOf_ne_nil ho
    have ha : ∀ c ∈ compact s, isAllowed c = true :=
      htext ▸ allowed_textOf fun p hp => (hl p hp).allowed_text
    have hs : structuralValue? (compact s) = some v := by
      rw [structuralValue?, pieces?_eq_some_iff.mpr ⟨htext, hm⟩]
      exact hv
    exact ⟨v, toOption_eq_some_iff.mp ((evaluate_toOption hne ha hn).trans hs)⟩

/-- `2*(3-1)` in blanks. -/
theorem evaluate_accepts_group : ∃ v, evaluate " 2 * (3-1 )" = .ok v := by
  have hv : valueOf? [.char '3', .char '-', .char '1'] = some (.ofNat 2) := by decide +kernel
  have hmatched : (Piece.group [.char '3', .char '-', .char '1']).Matched :=
    .group (by simp [Piece.matched_char_iff]) (by simp)
  have hw : (Binary64.ofNat 2).written = ['2', '.', '0'] := by decide +kernel
  have hlegible : (Piece.group [.char '3', .char '-', .char '1']).Legible := by
    refine .group (by simp [Piece.legible_char_iff, isAllowed]) (by simp [Opens, IsFactor]) fun v h => ?_
    rw [← Option.some.inj (hv.symm.trans h), hw]
    simp [isAllowed]
  refine (evaluate_accepts " 2 * (3-1 )").2
    [.char '2', .char '*', .group [.char '3', .char '-', .char '1']] (by decide +kernel) ?_ (by simp) ?_
    (by simp [Opens, IsFactor]) (by decide +kernel)
  · simp [Piece.matched_char_iff, hmatched]
  · simp [Piece.legible_char_iff, hlegible, isAllowed]

/-- One operand or more, an operator between any two, and a sign before the first if at all. -/
inductive WellFormed : List Char → Prop where
  | numeral (sign : Sign) (l : Literal) : WellFormed (sign.chars ++ l.chars)
  | group (sign : Sign) {inside : List Char} (h : WellFormed inside) :
    WellFormed (sign.chars ++ '(' :: (inside ++ [')']))
  | thenNumeral {front : List Char} (h : WellFormed front) (op : Operator) (l : Literal) :
    WellFormed (front ++ op.toChar :: l.chars)
  | thenGroup {front inside : List Char} (h : WellFormed front) (op : Operator)
    (hi : WellFormed inside) : WellFormed (front ++ op.toChar :: '(' :: (inside ++ [')']))

/-- Other texts than well-formed ones have a value too: that of `1.2.3` is the sum of `1.2` and `3`. -/
theorem evaluate_two_points : ¬ ∀ (s : String) (v : Binary64),
    evaluate s = .ok v → WellFormed (compact s) := by
  intro h
  have hw := h "1.2.3" (.ofDecimal false 42 (-1)) (toOption_eq_some_iff.mp (by decide +kernel))
  have hc : compact "1.2.3" = ['1', '.', '2', '.', '3'] := by decide +kernel
  rw [hc] at hw
  generalize hcs : ['1', '.', '2', '.', '3'] = cs at hw
  cases hw with
  | numeral sign l =>
    cases sign with
    | none =>
      have hterms := terms_literal l
      have hl : ['1', '.', '2', '.', '3'] = l.chars := hcs
      rw [← hl] at hterms
      exact absurd hterms (by decide +kernel)
    | plus => cases hcs
    | minus => cases hcs
  | group sign _ =>
    have hm : '(' ∈ ['1', '.', '2', '.', '3'] := by simp [hcs]
    exact absurd hm (by decide)
  | thenNumeral _ op l =>
    have hm : op.toChar ∈ ['1', '.', '2', '.', '3'] := by simp [hcs]
    cases op <;> exact absurd hm (by decide)
  | thenGroup _ op _ =>
    have hm : '(' ∈ ['1', '.', '2', '.', '3'] := by simp [hcs]
    exact absurd hm (by decide)

end Calculator.Expression
