import Calculator.Proofs.Operation.Values

/-!
What an operation says of its arguments. The checks stand in one order: the number of arguments, each
argument from the first, a divisor of zero, the size of the value. The texts of the checks are told
apart by their first letters.
-/

namespace Calculator

/-- Texts that are recorded are none of those that are not. -/
theorem ne_of_isRecordable {text other : String} (h : isRecordable text = true)
    (ho : isRecordable other = false) : text ≠ other := by
  rintro rfl
  rw [h] at ho
  cases ho

namespace OperationError

theorem head?_invalidNumber (position : Nat) (arg : String) :
    (invalidNumber position arg).message.toList.head? = some 'I' := by
  have hh : "Invalid argument at position ".toList.head? = some 'I' := by decide
  unfold message
  dsimp only
  rw [String.append_assoc, String.append_assoc, String.append_assoc, String.toList_append,
    List.head?_append, toString, instToStringString, hh]
  rfl

theorem invalidNumber_ne_text (position : Nat) (arg : String) (x : Binary64) :
    (invalidNumber position arg).message ≠ x.text := by
  have hh := head?_invalidNumber position arg
  intro he
  rw [he, Binary64.text, String.toList_ofList] at hh
  exact absurd (Binary64.mem_written (List.mem_of_head? hh)) (by decide)

theorem divisionByZero_ne_text (x : Binary64) : divisionByZero.message ≠ x.text :=
  (ne_of_isRecordable (isRecordable_text x) isRecordable_divisionByZero).symm

theorem overflow_ne_text (label : String) (x : Binary64) : (overflow label).message ≠ x.text :=
  (ne_of_isRecordable (isRecordable_text x) (isRecordable_overflow label)).symm

theorem overflow_ne_divisionByZero (label : String) :
    (overflow label).message ≠ divisionByZero.message := by
  intro he
  -- Both begin with one word; what follows it is a blank in one and a colon in the other.
  have hc := congrArg (fun text => text.toList[5]?) he
  have hd : divisionByZero.message.toList[5]? = some ':' := by decide
  have ho : "Error during ".toList[5]? = some ' ' := by decide
  unfold message at hc
  dsimp only at hc
  rw [String.append_assoc, String.toList_append, List.getElem?_append_left (by decide), toString,
    instToStringString, ho] at hc
  exact absurd (hc.trans hd) (by decide)

end OperationError

namespace Operation

/-- The arguments are numerals with these values. -/
def Reads (args : List String) (values : List Binary64) : Prop :=
  args.map (fun arg => Numeral.read? arg.toList) = values.map some

section Reading

variable {args before after : List String} {arg : String} {values : List Binary64} {x : Binary64}

theorem reads_nil : Reads [] values ↔ values = [] := by
  rw [Reads, List.map_nil, eq_comm, List.map_eq_nil_iff]

theorem reads_cons : Reads (arg :: args) values ↔
    ∃ x rest, Numeral.read? arg.toList = some x ∧ Reads args rest ∧ values = x :: rest := by
  cases values with
  | nil => simp [Reads]
  | cons y values =>
    simp only [Reads, List.map_cons, List.cons.injEq]
    constructor
    · rintro ⟨hy, hr⟩
      exact ⟨y, values, hy, hr, rfl, rfl⟩
    · rintro ⟨x, rest, hx, hr, rfl, rfl⟩
      exact ⟨hx, hr⟩

theorem Reads.length_eq (h : Reads args values) : values.length = args.length := by
  simpa using (congrArg List.length h).symm

theorem readOperands_of_reads (h : Reads args values) (position : Nat) :
    readOperands position args = .ok values := by
  induction args generalizing position values with
  | nil =>
    rw [reads_nil.mp h]
    rfl
  | cons arg args ih =>
    obtain ⟨x, rest, hx, hr, rfl⟩ := reads_cons.mp h
    rw [readOperands, hx]
    dsimp only
    rw [ih hr]
    rfl

/-- Reading stops at the first argument that is not a numeral. -/
theorem readOperands_of_unread (hb : ∀ a ∈ before, Numeral.read? a.toList ≠ none)
    (ha : Numeral.read? arg.toList = none) (position : Nat) :
    readOperands position (before ++ arg :: after) =
      .error (.invalidNumber (position + before.length) arg) := by
  induction before generalizing position with
  | nil =>
    rw [List.nil_append, readOperands, ha]
    rfl
  | cons a before ih =>
    obtain ⟨x, hx⟩ := Option.ne_none_iff_exists'.mp (hb a List.mem_cons_self)
    rw [List.cons_append, readOperands, hx]
    dsimp only
    rw [ih (fun b hm => hb b (List.mem_cons_of_mem a hm)), List.length_cons, Nat.add_right_comm]
    rfl

theorem reads_or_unread (args : List String) :
    (∃ values, Reads args values) ∨
      ∃ before arg after, args = before ++ arg :: after ∧
        (∀ a ∈ before, Numeral.read? a.toList ≠ none) ∧ Numeral.read? arg.toList = none := by
  induction args with
  | nil => exact .inl ⟨[], rfl⟩
  | cons arg args ih =>
    cases ha : Numeral.read? arg.toList with
    | none => exact .inr ⟨[], arg, args, rfl, by simp, ha⟩
    | some x =>
      rcases ih with ⟨values, hr⟩ | ⟨before, a, after, rfl, hb, hn⟩
      · exact .inl ⟨x :: values, reads_cons.mpr ⟨x, values, ha, hr, rfl⟩⟩
      · refine .inr ⟨arg :: before, a, after, rfl, ?_, hn⟩
        intro b hm
        rcases List.mem_cons.mp hm with rfl | hm
        · rw [ha]
          exact Option.some_ne_none x
        · exact hb b hm

end Reading

namespace Standard

variable {kind : Standard} {args before after : List String} {arg : String}
variable {values : List Binary64} {x : Binary64}

/-- A number after the first divides by zero. -/
def ZeroDivides (kind : Standard) (values : List Binary64) : Prop :=
  kind = divide ∧ ∃ y ∈ values.tail, y.isZero = true

/-- The value of finite numbers is not finite. -/
def Exceeds (values : List Binary64) (x : Binary64) : Prop :=
  (∀ y ∈ values, y.isFinite = true) ∧ x.isFinite = false

theorem exceeds_iff :
    Exceeds values x ↔ (!x.isFinite && values.all Binary64.isFinite) = true := by
  rw [Exceeds, Bool.and_eq_true, List.all_eq_true, Bool.not_eq_true', and_comm]

theorem compute_of_zeroDivides (h : ZeroDivides kind values) :
    kind.compute values = .error (.error .divisionByZero) := by
  obtain ⟨rfl, y, hy, hz⟩ := h
  cases values with
  | nil => cases hy
  | cons x rest =>
    have hany : rest.any Binary64.isZero = true := List.any_eq_true.mpr ⟨y, hy, hz⟩
    rw [compute, quotient_eq, if_pos hany]
    rfl

theorem zeroDivides_of_compute (h : kind.compute values = .error (.error .divisionByZero)) :
    ZeroDivides kind values := by
  cases kind with
  | add | multiply | mean => cases h
  | subtract => cases values <;> cases h
  | divide =>
    cases values with
    | nil => cases h
    | cons x rest =>
      rw [compute, quotient_eq] at h
      split at h
      next hany => exact ⟨rfl, List.any_eq_true.mp hany⟩
      next => cases h
  | median =>
    rw [compute] at h
    cases hm : middle values <;> rw [hm] at h <;> cases h
  | stddev =>
    rw [compute] at h
    cases hd : deviation values <;> rw [hd] at h <;> cases h

theorem exists_compute (hv : kind.leastArguments ≤ values.length) (h : ¬ ZeroDivides kind values) :
    ∃ x, kind.compute values = .ok x :=
  (kind.compute_cases hv).resolve_right fun hzero => h (zeroDivides_of_compute hzero)

theorem head?_tooFew (kind : Standard) :
    ∃ c ∈ ['A', 'S', 'M', 'D'], kind.tooFew.toList.head? = some c := by
  cases kind with
  | add => exact ⟨'A', by simp, by decide⟩
  | subtract | stddev => exact ⟨'S', by simp, by decide⟩
  | multiply | mean | median => exact ⟨'M', by simp, by decide⟩
  | divide => exact ⟨'D', by simp, by decide⟩

theorem tooFew_ne_text (kind : Standard) (x : Binary64) : kind.tooFew ≠ x.text := by
  obtain ⟨c, hc, hh⟩ := kind.head?_tooFew
  intro he
  rw [he, Binary64.text, String.toList_ofList] at hh
  have hw := Binary64.mem_written (List.mem_of_head? hh)
  simp only [List.mem_cons, List.not_mem_nil, or_false] at hc
  rcases hc with rfl | rfl | rfl | rfl <;> exact absurd hw (by decide)

theorem tooFew_ne_invalidNumber (kind : Standard) (position : Nat) (arg : String) :
    kind.tooFew ≠ (OperationError.invalidNumber position arg).message := by
  obtain ⟨c, hc, hh⟩ := kind.head?_tooFew
  intro he
  rw [he, OperationError.head?_invalidNumber] at hh
  rw [← Option.some.inj hh] at hc
  exact absurd hc (by decide)

section Executing

theorem execute_of_few (h : args.length < kind.leastArguments) :
    kind.operation.execute args = .ok kind.tooFew := by
  rw [execute_eq_textOf, kind.value_of_few h]
  rfl

theorem execute_of_unread (h : kind.leastArguments ≤ args.length)
    (hs : args = before ++ arg :: after) (hb : ∀ a ∈ before, Numeral.read? a.toList ≠ none)
    (ha : Numeral.read? arg.toList = none) :
    kind.operation.execute args =
      .ok (OperationError.invalidNumber (before.length + 1) arg).message := by
  have hr : readOperands 1 args = .error (.invalidNumber (1 + before.length) arg) := by
    rw [hs, readOperands_of_unread hb ha]
  rw [execute_eq_textOf, kind.value_of_unread h hr, Nat.add_comm]
  rfl

section Reading

variable (h : kind.leastArguments ≤ args.length) (hr : Reads args values)

include h hr

theorem execute_of_zeroDivides (hz : ZeroDivides kind values) :
    kind.operation.execute args = .ok OperationError.divisionByZero.message := by
  rw [execute_eq_textOf, kind.value_of_read h (readOperands_of_reads hr 1),
    compute_of_zeroDivides hz]
  rfl

theorem execute_of_exceeds (hx : kind.compute values = .ok x) (he : Exceeds values x) :
    kind.operation.execute args = .ok (OperationError.overflow kind.label).message := by
  rw [execute_eq_textOf, kind.value_of_read h (readOperands_of_reads hr 1), hx, bounded,
    if_pos (exceeds_iff.mp he)]
  rfl

theorem execute_of_bounded (hx : kind.compute values = .ok x) (he : ¬ Exceeds values x) :
    kind.operation.execute args = .ok x.text := by
  rw [execute_eq_textOf, kind.value_of_read h (readOperands_of_reads hr 1), hx, bounded,
    if_neg fun hc => he (exceeds_iff.mpr hc)]
  rfl

/-- Values that are read are divided by zero, or have a value out of bounds or within. -/
theorem execute_cases :
    (ZeroDivides kind values ∧
      kind.operation.execute args = .ok OperationError.divisionByZero.message) ∨
    ∃ x, kind.compute values = .ok x ∧
      (Exceeds values x ∧
          kind.operation.execute args = .ok (OperationError.overflow kind.label).message ∨
        ¬ Exceeds values x ∧ kind.operation.execute args = .ok x.text) := by
  by_cases hz : ZeroDivides kind values
  · exact .inl ⟨hz, execute_of_zeroDivides h hr hz⟩
  obtain ⟨x, hx⟩ := exists_compute (hr.length_eq ▸ h) hz
  refine .inr ⟨x, hx, ?_⟩
  by_cases he : Exceeds values x
  · exact .inl ⟨he, execute_of_exceeds h hr hx he⟩
  · exact .inr ⟨he, execute_of_bounded h hr hx he⟩

theorem execute_eq_divisionByZero_iff :
    kind.operation.execute args = .ok OperationError.divisionByZero.message ↔
      ZeroDivides kind values := by
  refine ⟨fun hd => ?_, execute_of_zeroDivides h hr⟩
  rcases execute_cases h hr with ⟨hz, -⟩ | ⟨x, -, ⟨-, hx⟩ | ⟨-, hx⟩⟩
  · exact hz
  · exact absurd (Except.ok.inj (hx.symm.trans hd))
      (OperationError.overflow_ne_divisionByZero kind.label)
  · exact absurd (Except.ok.inj (hd.symm.trans hx)) (OperationError.divisionByZero_ne_text x)

theorem execute_eq_overflow_iff (hx : kind.compute values = .ok x) :
    kind.operation.execute args = .ok (OperationError.overflow kind.label).message ↔
      Exceeds values x := by
  refine ⟨fun ho => ?_, execute_of_exceeds h hr hx⟩
  refine Classical.byContradiction fun he => ?_
  have ht := execute_of_bounded h hr hx he
  exact OperationError.overflow_ne_text kind.label x (Except.ok.inj (ho.symm.trans ht))

end Reading

/-- All that an operation says. -/
theorem execute_texts (kind : Standard) (args : List String) : ∃ text,
    kind.operation.execute args = .ok text ∧
    (args.length < kind.leastArguments ∧ text = kind.tooFew ∨
      kind.leastArguments ≤ args.length ∧
      ((∃ position arg, text = (OperationError.invalidNumber position arg).message) ∨
        text = OperationError.divisionByZero.message ∨
        text = (OperationError.overflow kind.label).message ∨
        ∃ values x, Reads args values ∧ ¬ Exceeds values x ∧ text = x.text)) := by
  rcases Nat.lt_or_ge args.length kind.leastArguments with h | h
  · exact ⟨_, execute_of_few h, .inl ⟨h, rfl⟩⟩
  rcases reads_or_unread args with ⟨values, hr⟩ | ⟨before, arg, after, hs, hb, ha⟩
  · rcases execute_cases h hr with ⟨-, hd⟩ | ⟨x, -, ⟨-, ho⟩ | ⟨he, hx⟩⟩
    · exact ⟨_, hd, .inr ⟨h, .inr (.inl rfl)⟩⟩
    · exact ⟨_, ho, .inr ⟨h, .inr (.inr (.inl rfl))⟩⟩
    · exact ⟨_, hx, .inr ⟨h, .inr (.inr (.inr ⟨values, x, hr, he, rfl⟩))⟩⟩
  · exact ⟨_, execute_of_unread h hs hb ha, .inr ⟨h, .inl ⟨_, _, rfl⟩⟩⟩

theorem execute_eq_tooFew_iff :
    kind.operation.execute args = .ok kind.tooFew ↔ args.length < kind.leastArguments := by
  refine ⟨fun h => ?_, execute_of_few⟩
  obtain ⟨text, ht, hcases⟩ := execute_texts kind args
  have he : kind.tooFew = text := Except.ok.inj (h.symm.trans ht)
  rcases hcases with ⟨hlt, -⟩ | ⟨-, ⟨position, arg, rfl⟩ | rfl | rfl | ⟨values, x, -, -, rfl⟩⟩
  · exact hlt
  · exact absurd he (kind.tooFew_ne_invalidNumber position arg)
  · exact absurd he
      (ne_of_isRecordable kind.isRecordable_tooFew OperationError.isRecordable_divisionByZero)
  · exact absurd he
      (ne_of_isRecordable kind.isRecordable_tooFew (OperationError.isRecordable_overflow _))
  · exact absurd he (kind.tooFew_ne_text x)

/-- An operation on finite numbers says none of the words for what is not finite. -/
theorem exists_not_isFinite_of_word {text : String} (hw : text ∈ ["nan", "inf", "-inf"])
    (h : kind.operation.execute args = .ok text) :
    ∃ values, Reads args values ∧ ∃ y ∈ values, y.isFinite = false := by
  obtain ⟨z, rfl⟩ : ∃ z : Binary64, text = z.text := by
    simp only [List.mem_cons, List.not_mem_nil, or_false] at hw
    rcases hw with rfl | rfl | rfl
    · exact ⟨.nan false, by decide⟩
    · exact ⟨.infinity false, by decide⟩
    · exact ⟨.infinity true, by decide⟩
  obtain ⟨text, ht, hcases⟩ := execute_texts kind args
  have he : z.text = text := Except.ok.inj (h.symm.trans ht)
  rcases hcases with ⟨-, rfl⟩ | ⟨-, ⟨position, arg, rfl⟩ | rfl | rfl | ⟨values, x, hr, hb, rfl⟩⟩
  · exact absurd he.symm (kind.tooFew_ne_text z)
  · exact absurd he.symm (OperationError.invalidNumber_ne_text position arg z)
  · exact absurd he.symm (OperationError.divisionByZero_ne_text z)
  · exact absurd he.symm (OperationError.overflow_ne_text _ z)
  · have hx : x.isFinite = false := Binary64.text_mem_words_iff.mp (he ▸ hw)
    refine ⟨values, hr, ?_⟩
    simpa [Exceeds, hx] using hb

end Executing

section Validation

theorem leastArguments_le_of_operands (h : kind.operation.operands args = .ok values) :
    kind.leastArguments ≤ values.length := by
  change parseOperands args kind.leastArguments kind.tooFew = _ at h
  unfold parseOperands at h
  split at h
  · cases h
  next hlt =>
    rw [length_of_readOperands h]
    exact Nat.not_lt.mp hlt

theorem compute_ne_fault (h : kind.leastArguments ≤ values.length) (fault : Fault) :
    kind.compute values ≠ .error (.fault fault) := by
  intro hf
  rcases kind.compute_cases h with ⟨x, hx⟩ | hzero
  · cases hx.symm.trans hf
  · cases hzero.symm.trans hf

end Validation

/-- What an operation says of any arguments, one check after the other, and that no value is looked for
where there is none. -/
theorem execute_classified (kind : Standard) (args : List String) :
    let gives := fun text => kind.operation.execute args = .ok text
    (∃ text, gives text) ∧
    (gives kind.tooFew ↔ args.length < kind.leastArguments) ∧
    (kind.leastArguments ≤ args.length →
      (∀ before arg after, args = before ++ arg :: after →
        (∀ a ∈ before, Numeral.read? a.toList ≠ none) → Numeral.read? arg.toList = none →
        gives (OperationError.invalidNumber (before.length + 1) arg).message) ∧
      ∀ values, Reads args values →
        (gives OperationError.divisionByZero.message ↔ ZeroDivides kind values) ∧
        (¬ ZeroDivides kind values → ∃ x, kind.compute values = .ok x ∧
          (gives (OperationError.overflow kind.label).message ↔ Exceeds values x) ∧
          (¬ Exceeds values x → gives x.text))) ∧
    (∀ text ∈ ["nan", "inf", "-inf"], gives text →
      ∃ values, Reads args values ∧ ∃ y ∈ values, y.isFinite = false) ∧
    (∀ values, kind.operation.operands args = .ok values →
      (∀ fault, kind.compute values ≠ .error (.fault fault)) ∧ 1 ≤ values.length ∧
      (kind = median → 1 ≤ values.length / 2 ∧ values.length / 2 < (sorted values).length)) := by
  intro gives
  obtain ⟨text, ht, -⟩ := execute_texts kind args
  refine ⟨⟨text, ht⟩, execute_eq_tooFew_iff, fun h => ⟨?_, fun values hr => ⟨?_, fun hz => ?_⟩⟩,
    fun text hw => exists_not_isFinite_of_word hw, fun values ho => ?_⟩
  · intro before arg after hs hb ha
    exact execute_of_unread h hs hb ha
  · exact execute_eq_divisionByZero_iff h hr
  · obtain ⟨x, hx⟩ := exists_compute (hr.length_eq ▸ h) hz
    exact ⟨x, hx, execute_eq_overflow_iff h hr hx, execute_of_bounded h hr hx⟩
  · have hleast := leastArguments_le_of_operands ho
    have hpos : 2 ≤ kind.leastArguments := by cases kind <;> decide
    refine ⟨compute_ne_fault hleast, by omega, ?_⟩
    rintro rfl
    have : 3 ≤ values.length := hleast
    rw [length_sorted]
    omega

/-- A NaN is not divided by a zero either. -/
theorem nan_divided_by_negative_zero :
    (divide.leastArguments ≤ ["nan", "-0"].length ∧
      Reads ["nan", "-0"] [.nan false, .negativeZero] ∧
      ZeroDivides divide [.nan false, .negativeZero]) ∧
    divide.operation.execute ["nan", "-0"] = .ok "Error: Division by zero is not allowed" := by
  have hleast : divide.leastArguments ≤ ["nan", "-0"].length := by decide
  have hr : Reads ["nan", "-0"] [.nan false, .negativeZero] := by
    unfold Reads
    decide
  have hz : ZeroDivides divide [.nan false, .negativeZero] :=
    ⟨rfl, .negativeZero, List.mem_singleton_self _, by decide⟩
  obtain ⟨-, -, hread, -⟩ := execute_classified divide ["nan", "-0"]
  exact ⟨⟨hleast, hr, hz⟩, ((hread hleast).2 _ hr).1.mpr hz⟩

end Standard

end Operation

end Calculator
