import Calculator.Proofs.Expression.Chains

/-!
The first operand of a text, and which texts without groups have a value. A later operand always has
its place, with or without an operator before it; the first one cannot stand right after `*` or `/`.
-/

namespace Calculator

namespace Numeral

theorem read?_times (cs : List Char) : read? ('*' :: cs) = none := by
  simp [read?, readSign, readDecimal?, readPlaces]

theorem read?_divided (cs : List Char) : read? ('/' :: cs) = none := by
  simp [read?, readSign, readDecimal?, readPlaces]

end Numeral

namespace Expression

variable {c d : Char} {cs ds text : List Char} {before : Option Char} {ps : List Piece}

/-- A digit and the rest of its numeral, after which neither a digit stands nor a point that could be its
own. -/
theorem exists_literal_numeral (hd : d.isDigit = true) (ds : List Char) :
    ∃ l : Literal, d :: (numeralTail ds).1 = l.chars ∧
      (∀ c ∈ (numeralTail ds).2.head?, c.isDigit = false) ∧
      (l.places = none → (numeralTail ds).2.head? ≠ some '.') := by
  have hdigits : ∀ c ∈ d :: ds.takeWhile Char.isDigit, c.isDigit = true :=
    List.forall_mem_cons.mpr ⟨hd, List.all_eq_true.mp List.all_takeWhile⟩
  have hended : ∀ cs : List Char, ∀ c ∈ (cs.dropWhile Char.isDigit).head?, c.isDigit = false := by
    intro cs c hc
    have hnot := List.head?_dropWhile_not Char.isDigit cs
    rw [Option.mem_def.mp hc] at hnot
    simpa using hnot
  unfold numeralTail
  split
  next rest _ =>
    have hplaces : ∀ c ∈ rest.takeWhile Char.isDigit, c.isDigit = true :=
      List.all_eq_true.mp List.all_takeWhile
    exact ⟨⟨_, some (rest.takeWhile Char.isDigit), List.cons_ne_nil _ _, hdigits, hplaces⟩, rfl,
      hended rest, by simp⟩
  next hne =>
    refine ⟨⟨_, none, List.cons_ne_nil _ _, hdigits, fun _ h => absurd h List.not_mem_nil⟩,
      (List.append_nil _).symm, hended ds, fun _ hpoint => ?_⟩
    obtain ⟨rest, hrest⟩ := List.head?_eq_some_iff.mp hpoint
    exact hne rest hrest

theorem numeral_of_mem_terms {t : Term} (h : t ∈ terms cs) : ∃ l : Literal, t.numeral = l.chars := by
  fun_induction terms cs with
  | case1 => cases h
  | case2 c cs hc ih =>
    rcases List.mem_cons.mp h with rfl | h
    · exact (exists_literal_numeral hc cs).imp fun _ hl => hl.1
    · exact ih h
  | case3 => cases h
  | case4 c hc d ds op hd _ ih =>
    rcases List.mem_cons.mp h with rfl | h
    · exact (exists_literal_numeral hd ds).imp fun _ hl => hl.1
    · exact ih h
  | case5 c hc d ds _ ih => exact ih h

/-- No term but the first can fail. -/
theorem exists_foldlM_terms (cs : List Char) (x : Binary64) :
    ∃ v, (terms cs).foldlM (fun x t => t.applyTo x) x = .ok v := by
  have hnumeral : ∀ t ∈ terms cs, ∃ l : Literal, t.numeral = l.chars := fun _ => numeral_of_mem_terms
  generalize terms cs = ts at hnumeral
  induction ts generalizing x with
  | nil => exact ⟨x, rfl⟩
  | cons t ts ih =>
    obtain ⟨l, hl⟩ := hnumeral t List.mem_cons_self
    have hn := readNumber_of_read? (Numeral.read?_literal l)
    have ht : t.applyTo x = .ok ((t.operator.getD .plus).apply x (l.value false)) := by
      rw [Term.applyTo, hl, hn]
      rfl
    rw [List.foldlM_cons, ht]
    exact ih _ fun t h => hnumeral t (List.mem_cons_of_mem _ h)

/-- The first term of a text can be read unless its operator is `*` or `/`. -/
theorem leading_literal (operator : Option Operator) (l : Literal) :
    (∃ x, Term.leading ⟨operator, l.chars⟩ = .ok x) ↔
      operator ≠ some .times ∧ operator ≠ some .divided := by
  unfold Term.leading Term.chars readNumber
  cases operator with
  | none => simp [Numeral.read?_literal]
  | some op =>
    cases op with
    | plus => simp [Operator.toChar, Numeral.read?_plus_literal]
    | minus => simp [Operator.toChar, Numeral.read?_minus_literal]
    | times => simp [Operator.toChar, Numeral.read?_times]
    | divided => simp [Operator.toChar, Numeral.read?_divided]

/-- A character that only a number with a sign can follow at the start. -/
def IsFactor (before : Option Char) : Prop := before = some '*' ∨ before = some '/'

instance (before : Option Char) : Decidable (IsFactor before) :=
  inferInstanceAs (Decidable (before = some '*' ∨ before = some '/'))

/-- The value of a text by its pieces. -/
def valueOf? (ps : List Piece) : Option Binary64 := (flat? ps).bind flatValue?

/-- There is an operand, which a digit or a group begins, and the first one can stand where it does:
after `*` or `/` only a group can, whose value brings a minus sign. -/
def Opens (before : Option Char) : List Piece → Prop
  | [] => False
  | .char c :: ps => if c.isDigit then ¬ IsFactor before else Opens (some c) ps
  | .group inside :: _ => IsFactor before → ∀ v, valueOf? inside = some v → v.isNegative = true

theorem terms_before_digit (hb : ∀ b ∈ before, b.isDigit = false) (hd : d.isDigit = true) :
    terms (before.toList ++ d :: ds) =
      ⟨before.bind Operator.ofChar?, d :: (numeralTail ds).1⟩ :: terms (numeralTail ds).2 := by
  cases before with
  | none => exact terms_digit hd
  | some b =>
    rw [Option.toList_some, List.singleton_append, Option.bind_some]
    cases ho : Operator.ofChar? b with
    | none => rw [terms_skip (hb b rfl) (.inl ho), terms_digit hd]
    | some op =>
      obtain rfl := Operator.ofChar?_eq_some_iff.mp ho
      exact terms_operator_digit op hd

theorem terms_before_other (hb : ∀ b ∈ before, b.isDigit = false) (hc : c.isDigit = false) :
    terms (before.toList ++ c :: cs) = terms (c :: cs) := by
  cases before with
  | none => rfl
  | some b => exact terms_skip (hb b rfl) (.inr hc)

theorem isFactor_iff :
    IsFactor before ↔ before.bind Operator.ofChar? = some .times ∨
      before.bind Operator.ofChar? = some .divided := by
  cases before with
  | none => simp [IsFactor]
  | some b => simp [IsFactor, Operator.ofChar?_eq_some_iff, Operator.toChar]

/-- A text without groups has a value if and only if its first operand can stand where it does. -/
theorem fold_isOk_iff_opens (hb : ∀ b ∈ before, b.isDigit = false) :
    (∃ v, fold (before.toList ++ cs) = .ok v) ↔ Opens before (cs.map .char) := by
  -- The last character that has been passed over goes along, as it may be the operator of the first term.
  induction cs generalizing before with
  | nil =>
    have ht : terms (before.toList ++ []) = [] := by
      cases before with
      | none => exact terms_nil
      | some b =>
        rw [Option.toList_some, List.append_nil, terms, if_neg (by simp [hb b rfl])]
    rw [fold, ht]
    simp [Opens]
  | cons c cs ih =>
    rw [List.map_cons, Opens]
    cases hc : c.isDigit with
    | false =>
      have hnext := @ih (some c) fun b h => Option.mem_some.mp h ▸ hc
      rw [if_neg Bool.false_ne_true, ← hnext, fold, fold, terms_before_other hb hc]
      rfl
    | true =>
      obtain ⟨l, hl, -⟩ := exists_literal_numeral hc cs
      rw [if_pos rfl, isFactor_iff, not_or, ← ne_eq, ← ne_eq, ← leading_literal _ l, fold,
        terms_before_digit hb hc, hl]
      dsimp only
      generalize Term.leading ⟨before.bind Operator.ofChar?, l.chars⟩ = first
      cases first with
      | error e => simp [Except.bind]
      | ok x => simpa [Except.bind] using exists_foldlM_terms _ x

end Expression

end Calculator
