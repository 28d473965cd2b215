import Calculator.Expression.Evaluate

/-!
Texts by their parentheses, and the value that this structure gives them: the inside of a group has a
value of its own, whose written form stands for the group in the text around it.
-/

namespace Calculator.Expression

/-- A character that stands by itself, or two parentheses that match with all that is between them. -/
inductive Piece where
  | char (c : Char)
  | group (inside : List Piece)

/-- What has been read of a text: the pieces of the innermost group that is open, then those of the
groups around it from the inside out. The last level is that of the whole text. -/
structure Levels where
  inner : List Piece := []
  outer : List (List Piece) := []

def Levels.read (l : Levels) (c : Char) : Levels :=
  if c = '(' then ⟨[], l.inner :: l.outer⟩
  else if c = ')' then
    match l.outer with
    | [] => ⟨l.inner ++ [.char c], []⟩
    | level :: outer => ⟨level ++ [.group l.inner], outer⟩
  else ⟨l.inner ++ [.char c], l.outer⟩

/-- The pieces of a text, if every `(` in it is matched. A `)` that matches none stands by itself. -/
def pieces? (cs : List Char) : Option (List Piece) :=
  match cs.foldl Levels.read {} with
  | ⟨inner, []⟩ => some inner
  | ⟨_, _ :: _⟩ => none

/-- The value of a text in which every group has been replaced. It has none with other characters than
the allowed ones, and the empty text has none. -/
def flatValue? (cs : List Char) : Option Binary64 :=
  if cs.all isAllowed then (fold cs).toOption else none

mutual

/-- What stands for a piece in the text around it. -/
def Piece.flat? : Piece → Option (List Char)
  | .char c => some [c]
  | .group inside => ((flat? inside).bind flatValue?).map Binary64.written

/-- The text in which every group is replaced by the written value of its inside. -/
def flat? : List Piece → Option (List Char)
  | [] => some []
  | piece :: pieces => piece.flat?.bind fun cs => (flat? pieces).map (cs ++ ·)

end

/-- The value of a text by its structure. -/
def structuralValue? (cs : List Char) : Option Binary64 :=
  (pieces? cs).bind fun pieces => (flat? pieces).bind flatValue?

theorem flatValue?_eq_some {cs : List Char} {v : Binary64} (h : flatValue? cs = some v) :
    (∀ c ∈ cs, isAllowed c) ∧ fold cs = .ok v := by
  unfold flatValue? at h
  split at h
  next ha =>
    refine ⟨List.all_eq_true.mp ha, ?_⟩
    cases hf : fold cs with
    | error e =>
      rw [hf] at h
      cases h
    | ok w =>
      rw [hf] at h
      cases h
      rfl
  next => cases h

theorem flat?_append (ps qs : List Piece) :
    flat? (ps ++ qs) = (flat? ps).bind fun cs => (flat? qs).map (cs ++ ·) := by
  induction ps with
  | nil => simp [flat?]
  | cons p ps ih =>
    simp only [List.cons_append, flat?, ih]
    cases p.flat? <;> cases flat? ps <;> cases flat? qs <;> simp

theorem flat?_chars (cs : List Char) : flat? (cs.map .char) = some cs := by
  induction cs with
  | nil => rfl
  | cons c cs ih => simp [flat?, Piece.flat?, ih]

theorem flat?_append_char (ps : List Piece) (c : Char) :
    flat? (ps ++ [.char c]) = (flat? ps).map (· ++ [c]) := by
  rw [flat?_append]
  cases flat? ps <;> simp [flat?, Piece.flat?]

theorem flat?_append_group (ps inside : List Piece) :
    flat? (ps ++ [.group inside]) =
      (flat? ps).bind fun cs => ((flat? inside).bind flatValue?).map fun v => cs ++ v.written := by
  rw [flat?_append]
  cases flat? ps with
  | none => rfl
  | some cs => cases h : (flat? inside).bind flatValue? <;> simp [flat?, Piece.flat?, h]

namespace Levels

variable {l l' : Levels}

theorem foldl_read_chars (l : Levels) {cs : List Char} (ho : '(' ∉ cs) (hc : ')' ∉ cs) :
    cs.foldl read l = ⟨l.inner ++ cs.map .char, l.outer⟩ := by
  induction cs generalizing l with
  | nil => simp
  | cons c cs ih =>
    obtain ⟨h₁, h₁'⟩ := not_or.mp (mt List.mem_cons.mpr ho)
    obtain ⟨h₂, h₂'⟩ := not_or.mp (mt List.mem_cons.mpr hc)
    have hr : l.read c = ⟨l.inner ++ [.char c], l.outer⟩ := by
      simp [read, Ne.symm h₁, Ne.symm h₂]
    rw [List.foldl_cons, hr, ih _ h₁' h₂']
    simp

/-- Without a `)` no level is closed. -/
theorem length_outer_foldl_read (l : Levels) {cs : List Char} (hc : ')' ∉ cs) :
    l.outer.length ≤ (cs.foldl read l).outer.length := by
  induction cs generalizing l with
  | nil => exact Nat.le_refl _
  | cons c cs ih =>
    obtain ⟨h, h'⟩ := not_or.mp (mt List.mem_cons.mpr hc)
    refine Nat.le_trans ?_ (ih (l.read c) h')
    unfold read
    split
    · simp
    · simp [Ne.symm h]

/-- What stands on the levels once groups are replaced. -/
def flat (l : Levels) : Option (List Char) × List (Option (List Char)) :=
  (flat? l.inner, l.outer.map flat?)

/-- Reading on depends on nothing but what stands on the levels. -/
theorem flat_read (h : l.flat = l'.flat) (c : Char) : (l.read c).flat = (l'.read c).flat := by
  obtain ⟨hi, ho⟩ := Prod.mk.inj h
  unfold read
  split
  · exact Prod.ext rfl (by simp [flat, hi, ho])
  split
  · cases hl : l.outer with
    | nil =>
      cases hl' : l'.outer with
      | nil => simp [flat, flat?_append_char, hi]
      | cons level' outer' => simp [hl, hl'] at ho
    | cons level outer =>
      cases hl' : l'.outer with
      | nil => simp [hl, hl'] at ho
      | cons level' outer' =>
        obtain ⟨hlevel, houter⟩ :
            flat? level = flat? level' ∧ outer.map flat? = outer'.map flat? := by
          simpa [hl, hl'] using ho
        simp only [flat, flat?_append_group, hi, hlevel, houter]
  · simp only [flat, flat?_append_char, hi, ho]

theorem flat_foldl_read (h : l.flat = l'.flat) (cs : List Char) :
    (cs.foldl read l).flat = (cs.foldl read l').flat := by
  induction cs generalizing l l' with
  | nil => exact h
  | cons c cs ih => exact ih (flat_read h c)

end Levels

/-- A level that has failed, or whose text can never be evaluated. -/
def Spoiled (text : Option (List Char)) : Prop := ∀ cs, text = some cs → cs.all isAllowed = false

theorem Spoiled.none : Spoiled none := fun _ h => nomatch h

theorem Spoiled.append {cs : List Char} (h : Spoiled (some cs)) (ds : List Char) :
    Spoiled (some (cs ++ ds)) := by
  intro es he
  cases he
  rw [List.all_append, h cs rfl, Bool.false_and]

theorem Spoiled.bind_flatValue? {text : Option (List Char)} (h : Spoiled text) :
    text.bind flatValue? = Option.none := by
  cases text with
  | none => rfl
  | some cs => simp [flatValue?, h cs rfl]

namespace Levels

/-- No reading on can mend a spoiled level. -/
def Lost (l : Levels) : Prop := Spoiled (flat? l.inner) ∨ ∃ level ∈ l.outer, Spoiled (flat? level)

theorem spoiled_append_char {ps : List Piece} (h : Spoiled (flat? ps)) (c : Char) :
    Spoiled (flat? (ps ++ [.char c])) := by
  rw [flat?_append_char]
  cases hp : flat? ps with
  | none => exact .none
  | some cs => exact (hp ▸ h).append [c]

theorem spoiled_append_group {ps inside : List Piece}
    (h : Spoiled (flat? ps) ∨ Spoiled (flat? inside)) : Spoiled (flat? (ps ++ [.group inside])) := by
  rw [flat?_append_group]
  cases hp : flat? ps with
  | none => exact .none
  | some cs =>
    cases hv : (flat? inside).bind flatValue? with
    | none => exact .none
    | some v =>
      rcases h with h | h
      · exact (hp ▸ h).append v.written
      · rw [h.bind_flatValue?] at hv
        cases hv

theorem Lost.read {l : Levels} (h : l.Lost) (c : Char) : (l.read c).Lost := by
  unfold Levels.read
  split
  · rcases h with h | ⟨level, hm, h⟩
    · exact .inr ⟨l.inner, List.mem_cons_self, h⟩
    · exact .inr ⟨level, List.mem_cons_of_mem _ hm, h⟩
  split
  · cases ho : l.outer with
    | nil =>
      rcases h with h | ⟨level, hm, -⟩
      · exact .inl (spoiled_append_char h c)
      · rw [ho] at hm
        contradiction
    | cons first outer =>
      rcases h with h | ⟨level, hm, h⟩
      · exact .inl (spoiled_append_group (.inr h))
      · rw [ho] at hm
        rcases List.mem_cons.mp hm with rfl | hm
        · exact .inl (spoiled_append_group (.inl h))
        · exact .inr ⟨level, hm, h⟩
  · rcases h with h | h
    · exact .inl (spoiled_append_char h c)
    · exact .inr h

theorem Lost.foldl_read {l : Levels} (h : l.Lost) (cs : List Char) :
    (cs.foldl Levels.read l).Lost := by
  induction cs generalizing l with
  | nil => exact h
  | cons c cs ih => exact ih (h.read c)

/-- The value of the text that ends at these levels. -/
def value? (l : Levels) : Option Binary64 :=
  match l.flat with
  | (text, []) => text.bind flatValue?
  | (_, _ :: _) => none

theorem Lost.value?_eq_none {l : Levels} (h : l.Lost) : l.value? = none := by
  unfold value? flat
  cases ho : l.outer with
  | nil =>
    rcases h with h | ⟨level, hm, -⟩
    · exact h.bind_flatValue?
    · rw [ho] at hm
      contradiction
  | cons level outer => rfl

end Levels

theorem structuralValue?_eq (cs : List Char) :
    structuralValue? cs = (cs.foldl Levels.read {}).value? := by
  unfold structuralValue? pieces? Levels.value? Levels.flat
  cases ho : (cs.foldl Levels.read {}).outer with
  | nil => split <;> simp_all
  | cons level outer => split <;> simp_all

end Calculator.Expression
