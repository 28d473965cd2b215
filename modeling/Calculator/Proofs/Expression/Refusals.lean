import Calculator.Proofs.Expression.Operands

/-!
Why a text without groups has no value: it holds no digit, it holds a character that is not allowed, or
its first numeral stands right after `*` or `/`. What follows the first numeral cannot fail.
-/

namespace Calculator.Expression

/-- The first numeral of a text: no digit stands before it, and it takes all the digits that stand there,
with a point and all digits after that if they follow. -/
structure FirstNumeral (text before : List Char) (l : Literal) (after : List Char) : Prop where
  text_eq : text = before ++ (l.chars ++ after)
  digitless : ∀ c ∈ before, c.isDigit = false
  ended : ∀ c ∈ after.head?, c.isDigit = false
  pointed : l.places = none → after.head? ≠ some '.'

/-- The reasons for which a text without groups has no value. -/
inductive Refused (text : List Char) : ExpressionError → Prop where
  | empty (h : text = []) : Refused text .noTerms
  | digitless (ha : ∀ c ∈ text, isAllowed c = true) (hd : ∀ c ∈ text, c.isDigit = false) :
      Refused text .noTerms
  | foreign {c : Char} (hc : c ∈ text) (h : isAllowed c = false) : Refused text .invalidCharacters
  | factor {before after : List Char} {l : Literal} {op : Char}
      (ha : ∀ c ∈ text, isAllowed c = true) (hn : FirstNumeral text before l after)
      (ho : before.getLast? = some op) (hop : op = '*' ∨ op = '/') :
      Refused text (.invalidNumber (String.ofList (op :: l.chars)))

variable {c d : Char} {cs ds text before after : List Char} {l : Literal}

theorem terms_append_other (hcs : ∀ c ∈ cs, c.isDigit = false) (hd : d.isDigit = false) :
    terms (cs ++ d :: ds) = terms (d :: ds) := by
  induction cs with
  | nil => rfl
  | cons c cs ih =>
    obtain ⟨hc, hrest⟩ := List.forall_mem_cons.mp hcs
    cases cs with
    | nil => exact terms_skip hc (.inr hd)
    | cons c' cs => exact (terms_skip hc (.inr (hrest c' List.mem_cons_self))).trans (ih hrest)

theorem terms_of_digitless (h : ∀ c ∈ cs, c.isDigit = false) : terms cs = [] := by
  induction cs with
  | nil => exact terms_nil
  | cons c cs ih =>
    obtain ⟨hc, hrest⟩ := List.forall_mem_cons.mp h
    cases cs with
    | nil => rw [terms, if_neg (by simp [hc])]
    | cons d ds => exact (terms_skip hc (.inr (hrest d List.mem_cons_self))).trans (ih hrest)

namespace FirstNumeral

/-- The first term is the first numeral with the operator right before it, if there is one. -/
theorem terms_eq (h : FirstNumeral text before l after) :
    terms text = ⟨before.getLast?.bind Operator.ofChar?, l.chars⟩ :: terms after := by
  obtain ⟨d, ds, -, hd, hds, hl⟩ := l.chars_eq_cons
  have htail := numeralTail_ended l hds h.ended h.pointed
  have hdigitless := h.digitless
  rw [h.text_eq, hl, List.cons_append, List.append_assoc]
  cases before using List.reverseRecOn with
  | nil =>
    rw [List.nil_append, terms_digit hd, htail]
    rfl
  | append_singleton init b =>
    have hb : b.isDigit = false := hdigitless b (by simp)
    have hone := @terms_before_digit d (ds ++ (l.tail ++ after)) (some b)
      (fun c hc => Option.mem_some.mp hc ▸ hb) hd
    rw [htail] at hone
    rw [List.append_assoc, List.singleton_append,
      terms_append_other (fun c hc => hdigitless c (List.mem_append_left _ hc)) hb,
      List.getLast?_concat]
    exact hone

end FirstNumeral

theorem exists_firstNumeral (h : ∃ c ∈ text, c.isDigit = true) :
    ∃ before l after, FirstNumeral text before l after := by
  obtain ⟨c, hc, hdigit⟩ := h
  have hbefore : ∀ c ∈ text.takeWhile (!Char.isDigit ·), c.isDigit = false := by
    intro c hc
    simpa using List.all_eq_true.mp List.all_takeWhile c hc
  cases hdrop : text.dropWhile (!Char.isDigit ·) with
  | nil =>
    have hnone := List.dropWhile_eq_nil_iff.mp hdrop c hc
    simp [hdigit] at hnone
  | cons d ds =>
    have hd : d.isDigit = true := by
      have hnot := List.head?_dropWhile_not (!Char.isDigit ·) text
      rw [hdrop] at hnot
      simpa using hnot
    obtain ⟨l, hl, hended, hpointed⟩ := exists_literal_numeral hd ds
    refine ⟨_, l, _, ?_, hbefore, hended, hpointed⟩
    rw [← hl, List.cons_append, numeralTail_append, ← hdrop, List.takeWhile_append_dropWhile]

/-- What cannot be read of a first term is reported with its operator. -/
theorem leading_of_factor {op : Char} (hop : op = '*' ∨ op = '/') (l : Literal) :
    Term.leading ⟨Operator.ofChar? op, l.chars⟩ =
      .error (.invalidNumber (String.ofList (op :: l.chars))) := by
  rcases hop with rfl | rfl
  · simp [Operator.ofChar?, Term.leading, Term.chars, Operator.toChar, readNumber, Numeral.read?_times]
  · simp [Operator.ofChar?, Term.leading, Term.chars, Operator.toChar, readNumber,
      Numeral.read?_divided]

namespace FirstNumeral

theorem fold_of_factor (h : FirstNumeral text before l after) {op : Char}
    (ho : before.getLast? = some op) (hop : op = '*' ∨ op = '/') :
    fold text = .error (.invalidNumber (String.ofList (op :: l.chars))) := by
  have hterms := h.terms_eq
  rw [ho, Option.bind_some] at hterms
  rw [fold, hterms]
  dsimp only
  rw [leading_of_factor hop]
  rfl

theorem exists_fold (h : FirstNumeral text before l after) (hf : ¬ IsFactor before.getLast?) :
    ∃ v, fold text = .ok v := by
  rw [isFactor_iff, not_or] at hf
  obtain ⟨x, hx⟩ := (leading_literal _ l).mpr hf
  rw [fold, h.terms_eq]
  dsimp only
  rw [hx]
  exact exists_foldlM_terms after x

end FirstNumeral

/-- A text of allowed characters has a value, or there is a reason why not. -/
theorem fold_cases (ha : ∀ c ∈ text, isAllowed c = true) :
    (∃ v, fold text = .ok v) ∨ ∃ e, fold text = .error e ∧ Refused text e := by
  by_cases hd : ∃ c ∈ text, c.isDigit = true
  · obtain ⟨before, l, after, hn⟩ := exists_firstNumeral hd
    by_cases hf : IsFactor before.getLast?
    · refine .inr ?_
      rcases hf with ho | ho
      · exact ⟨_, hn.fold_of_factor ho (.inl rfl), .factor ha hn ho (.inl rfl)⟩
      · exact ⟨_, hn.fold_of_factor ho (.inr rfl), .factor ha hn ho (.inr rfl)⟩
    · exact .inl (hn.exists_fold hf)
  · have hdigitless : ∀ c ∈ text, c.isDigit = false := by simpa using hd
    refine .inr ⟨.noTerms, ?_, .digitless ha hdigitless⟩
    rw [fold, terms_of_digitless hdigitless]

theorem check_of_foreign (hc : c ∈ text) (h : isAllowed c = false) :
    check text = .error .invalidCharacters := by
  have hne : text.isEmpty = false := by
    cases text with
    | nil => cases hc
    | cons => rfl
  have hall : text.all isAllowed = false := List.all_eq_false.mpr ⟨c, hc, by simp [h]⟩
  rw [check, hne, hall]
  rfl

theorem evaluate_cases {s : String} (h : '(' ∉ compact s) :
    (∃ v, evaluate s = .ok v) ∨ ∃ e, evaluate s = .error e ∧ Refused (compact s) e := by
  rw [evaluate_of_no_open h]
  by_cases hf : ∃ c ∈ compact s, isAllowed c = false
  · obtain ⟨c, hc, hforeign⟩ := hf
    rw [check_of_foreign hc hforeign]
    exact .inr ⟨_, rfl, .foreign hc hforeign⟩
  · have ha : ∀ c ∈ compact s, isAllowed c = true := by simpa using hf
    by_cases hne : compact s = []
    · rw [hne]
      exact .inr ⟨_, rfl, .empty rfl⟩
    · rw [check_eq_ok_iff.mpr ⟨hne, ha⟩]
      exact fold_cases ha

/-- A reason is the one that evaluation gives. -/
theorem evaluate_of_refused {s : String} {e : ExpressionError} (h : '(' ∉ compact s)
    (hr : Refused (compact s) e) : evaluate s = .error e := by
  rw [evaluate_of_no_open h]
  have hcheck : ∀ e, compact s ≠ [] → (∀ c ∈ compact s, isAllowed c = true) →
      fold (compact s) = .error e →
      ((check (compact s)).bind fun _ => fold (compact s)) = .error e := by
    intro e hne ha hf
    rw [check_eq_ok_iff.mpr ⟨hne, ha⟩]
    exact hf
  cases hr with
  | empty hnil =>
    rw [hnil]
    rfl
  | digitless ha hd =>
    by_cases hne : compact s = []
    · rw [hne]
      rfl
    · refine hcheck _ hne ha ?_
      rw [fold, terms_of_digitless hd]
  | foreign hc hforeign =>
    rw [check_of_foreign hc hforeign]
    rfl
  | @factor before after l op ha hn ho hop =>
    refine hcheck _ ?_ ha (hn.fold_of_factor ho hop)
    rw [hn.text_eq]
    simp [Literal.chars, l.whole_ne_nil]

/-- A text without groups is refused for one reason, or has a value; its parentheses are never what is
wrong with it, and no term after the first one can fail. -/
theorem evaluate_without_groups {s : String} (h : '(' ∉ compact s) :
    (∀ e, evaluate s = .error e ↔ Refused (compact s) e) ∧
    ((∃ v, evaluate s = .ok v) ↔ ∀ e, ¬ Refused (compact s) e) ∧
    evaluate s ≠ .error .mismatchedParentheses ∧ evaluate s ≠ .error .tooDeeplyNested ∧
    ∀ t ∈ (terms (compact s)).tail, ∃ x, readNumber t.numeral = .ok x := by
  have hrefused : ∀ e, evaluate s = .error e ↔ Refused (compact s) e := by
    intro e
    refine ⟨fun he => ?_, evaluate_of_refused h⟩
    rcases evaluate_cases h with ⟨v, hv⟩ | ⟨e', he', hr⟩
    · rw [hv] at he
      cases he
    · rw [he'] at he
      cases he
      exact hr
  refine ⟨hrefused, ⟨?_, fun hnone => ?_⟩, ?_, ?_, ?_⟩
  · rintro ⟨v, hv⟩ e hr
    rw [(hrefused e).mpr hr] at hv
    cases hv
  · rcases evaluate_cases h with hv | ⟨e, -, hr⟩
    · exact hv
    · exact absurd hr (hnone e)
  · intro he
    cases (hrefused _).mp he
  · intro he
    cases (hrefused _).mp he
  · intro t ht
    obtain ⟨l, hl⟩ := numeral_of_mem_terms (List.mem_of_mem_tail ht)
    rw [hl]
    exact ⟨_, readNumber_of_read? (Numeral.read?_literal l)⟩

/-- Points and a stray `)` are passed over before the first numeral, which ends at its second point. -/
theorem evaluate_stray_factor :
    '(' ∉ compact " .) * 07.5.2" ∧ evaluate " .) * 07.5.2" = .error (.invalidNumber "*07.5") := by
  have hc : compact " .) * 07.5.2" = ['.', ')', '*', '0', '7', '.', '5', '.', '2'] := by decide +kernel
  have hopen : '(' ∉ compact " .) * 07.5.2" := by simp [hc]
  have hallowed : ∀ c ∈ compact " .) * 07.5.2", isAllowed c = true := by simp [hc, isAllowed]
  let l : Literal := ⟨['0', '7'], some ['5'], by simp, by simp, by simp⟩
  have hfirst : FirstNumeral (compact " .) * 07.5.2") ['.', ')', '*'] l ['.', '2'] :=
    ⟨hc, by simp, by simp, by simp [l]⟩
  exact ⟨hopen, ((evaluate_without_groups hopen).1 _).mpr (.factor hallowed hfirst rfl (.inl rfl))⟩

end Calculator.Expression
