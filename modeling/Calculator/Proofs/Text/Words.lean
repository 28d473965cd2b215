import Mathlib.Data.List.DropRight
import Calculator.Text.Blank

/-!
The pieces of a text around separators, its words, and what is left of it when the blanks at its ends
are taken away. Words that are joined by blanks are the words of what they are joined to.
-/

namespace Calculator.Text

variable {separates : Char → Bool} {c : Char} {cs ds rest piece word : List Char} {ws : List (List Char)}

theorem splitAll_cons_of_separator (h : separates c = true) :
    splitAll separates (c :: cs) = [] :: splitAll separates cs := by
  rw [splitAll]
  cases hs : splitAll separates cs with
  | nil => exact absurd hs (splitAll_ne_nil separates cs)
  | cons piece pieces => simp [h]

theorem splitAll_cons_of_not (h : separates c = false) :
    splitAll separates (c :: cs) = (splitAll separates cs).modifyHead (c :: ·) := by
  rw [splitAll]
  cases hs : splitAll separates cs with
  | nil => exact absurd hs (splitAll_ne_nil separates cs)
  | cons piece pieces => simp [h]

theorem splitAll_append_separator (h : separates c = true) :
    splitAll separates (cs ++ c :: ds) = splitAll separates cs ++ splitAll separates ds := by
  induction cs with
  | nil => exact splitAll_cons_of_separator h
  | cons d cs ih =>
    rw [List.cons_append]
    cases hd : separates d with
    | true => rw [splitAll_cons_of_separator hd, splitAll_cons_of_separator hd, ih, List.cons_append]
    | false =>
      rw [splitAll_cons_of_not hd, splitAll_cons_of_not hd, ih]
      cases hs : splitAll separates cs with
      | nil => exact absurd hs (splitAll_ne_nil separates cs)
      | cons piece pieces => rfl

theorem splitAll_of_none (h : ∀ c ∈ cs, separates c = false) : splitAll separates cs = [cs] := by
  induction cs with
  | nil => rfl
  | cons c cs ih =>
    rw [splitAll_cons_of_not (h c List.mem_cons_self), ih fun d hd => h d (List.mem_cons_of_mem c hd)]
    rfl

theorem not_separates_of_mem_splitAll (hp : piece ∈ splitAll separates cs) (hc : c ∈ piece) :
    separates c = false := by
  induction cs generalizing piece with
  | nil =>
    rw [List.mem_singleton.mp hp] at hc
    contradiction
  | cons d cs ih =>
    cases hd : separates d with
    | true =>
      rw [splitAll_cons_of_separator hd] at hp
      rcases List.mem_cons.mp hp with rfl | hp
      · contradiction
      · exact ih hp hc
    | false =>
      rw [splitAll_cons_of_not hd] at hp
      cases hs : splitAll separates cs with
      | nil => exact absurd hs (splitAll_ne_nil separates cs)
      | cons first pieces =>
        rw [hs] at hp ih
        rcases List.mem_cons.mp hp with rfl | hp
        · rcases List.mem_cons.mp hc with rfl | hc
          · exact hd
          · exact ih List.mem_cons_self hc
        · exact ih (List.mem_cons_of_mem first hp) hc

theorem words_append_blank (h : isBlank c = true) (cs ds : List Char) :
    words (cs ++ c :: ds) = words cs ++ words ds := by
  unfold words
  rw [splitAll_append_separator h, List.filter_append]

theorem words_of_not_blank (hne : cs ≠ []) (h : ∀ c ∈ cs, isBlank c = false) : words cs = [cs] := by
  rw [words, splitAll_of_none h]
  simpa using hne

/-- A word is not empty and has no blank in it. -/
def IsWord (cs : List Char) : Prop := cs ≠ [] ∧ ∀ c ∈ cs, isBlank c = false

theorem isWord_of_mem_words (h : word ∈ words cs) : IsWord word := by
  obtain ⟨hm, hne⟩ := List.mem_filter.mp h
  exact ⟨by simpa using hne, fun c hc => not_separates_of_mem_splitAll hm hc⟩

/-- The words of a text are found again in whatever blanks join them to a text. -/
theorem words_intercalate (h : ∀ word ∈ ws, IsWord word) : words ([' '].intercalate ws) = ws := by
  induction ws with
  | nil => rfl
  | cons word ws ih =>
    obtain ⟨hne, hw⟩ := h word List.mem_cons_self
    have hrest := ih fun other hm => h other (List.mem_cons_of_mem word hm)
    cases ws with
    | nil => rw [List.intercalate_singleton, words_of_not_blank hne hw]
    | cons next ws =>
      rw [List.intercalate_cons_cons, List.append_assoc, List.singleton_append,
        words_append_blank (by decide), words_of_not_blank hne hw, hrest]
      rfl

theorem words_trimStart (cs : List Char) : words (trimStart cs) = words cs := by
  induction cs with
  | nil => rfl
  | cons c cs ih =>
    unfold trimStart at ih ⊢
    cases hc : isBlank c with
    | true =>
      rw [List.dropWhile_cons_of_pos hc, ih]
      exact (words_append_blank hc [] cs).symm
    | false => rw [List.dropWhile_cons_of_neg (by simp [hc])]

theorem words_trimEnd (cs : List Char) : words (trimEnd cs) = words cs := by
  induction cs using List.reverseRecOn with
  | nil => rfl
  | append_singleton cs c ih =>
    change words ((cs ++ [c]).rdropWhile isBlank) = _
    cases hc : isBlank c with
    | true =>
      rw [List.rdropWhile_concat_pos _ _ _ hc, words_append_blank hc cs []]
      exact ih.trans (List.append_nil _).symm
    | false => rw [List.rdropWhile_concat_neg _ _ _ (by simp [hc])]

theorem words_trim (cs : List Char) : words (trim cs) = words cs := by
  rw [trim, words_trimEnd, words_trimStart]

/-- What does not begin with a blank begins with none when its end is cut off. -/
theorem trimStart_of_prefix (hp : ds <+: cs) (h : trimStart cs = cs) : trimStart ds = ds := by
  cases ds with
  | nil => rfl
  | cons d ds =>
    obtain ⟨rest, rfl⟩ := hp
    have hd : isBlank d = false := by simpa using List.dropWhile_eq_self_iff.mp h
    exact List.dropWhile_cons_of_neg (by simp [hd])

theorem trim_trim (cs : List Char) : trim (trim cs) = trim cs := by
  have hstart : trimStart (trim cs) = trim cs :=
    trimStart_of_prefix (List.rdropWhile_prefix isBlank _) (List.dropWhile_idempotent isBlank cs)
  rw [trim, hstart]
  exact List.rdropWhile_idempotent isBlank _

theorem flatten_splitAll (separates : Char → Bool) (cs : List Char) :
    (splitAll separates cs).flatten = cs.filter (!separates ·) := by
  induction cs with
  | nil => rfl
  | cons c cs ih =>
    cases hc : separates c with
    | true => simp [splitAll_cons_of_separator hc, ih, hc]
    | false =>
      rw [splitAll_cons_of_not hc]
      cases hs : splitAll separates cs with
      | nil => exact absurd hs (splitAll_ne_nil separates cs)
      | cons piece pieces =>
        rw [hs] at ih
        simp [hc, ← ih]

theorem flatten_words (cs : List Char) : (words cs).flatten = cs.filter (!isBlank ·) := by
  rw [words, List.flatten_filter_not_isEmpty, flatten_splitAll]

/-- A text without words holds blanks only. -/
theorem isBlank_of_words_eq_nil (h : words cs = []) : ∀ c ∈ cs, isBlank c = true := by
  have hf := flatten_words cs
  rw [h, List.flatten_nil, eq_comm, List.filter_eq_nil_iff] at hf
  simpa using hf

theorem trim_eq_nil_iff : trim cs = [] ↔ words cs = [] := by
  constructor
  · intro h
    rw [← words_trim, h]
    rfl
  · intro h
    have hblank := isBlank_of_words_eq_nil h
    have hstart : trimStart cs = [] := List.dropWhile_eq_nil_iff.mpr hblank
    rw [trim, hstart]
    rfl

/-- A trimmed text has no blank at its start. -/
theorem not_isBlank_head_trim (h : trim cs = c :: ds) : isBlank c = false := by
  have hstart : trimStart (trim cs) = trim cs :=
    trimStart_of_prefix (List.rdropWhile_prefix isBlank _) (List.dropWhile_idempotent isBlank cs)
  rw [h] at hstart
  simpa using List.dropWhile_eq_self_iff.mp hstart

/-- A trimmed text has no blank at its end. -/
theorem not_isBlank_last_trim (h : trim cs = ds ++ [c]) : isBlank c = false := by
  have hend : (trim cs).rdropWhile isBlank = trim cs := List.rdropWhile_idempotent isBlank _
  rw [h] at hend
  cases hc : isBlank c with
  | false => rfl
  | true =>
    rw [List.rdropWhile_concat_pos _ _ _ hc] at hend
    have hlength := (List.rdropWhile_prefix isBlank ds).length_le
    rw [hend, List.length_append, List.length_singleton] at hlength
    omega

/-- A blank in a trimmed text stands between words. -/
theorem words_around_blank (hb : isBlank c = true) (h : trim cs = ds ++ c :: rest) :
    words ds ≠ [] ∧ words rest ≠ [] := by
  constructor
  · intro hn
    have hblank := isBlank_of_words_eq_nil hn
    cases ds with
    | nil =>
      rw [not_isBlank_head_trim h] at hb
      cases hb
    | cons d ds =>
      have hfirst := hblank d List.mem_cons_self
      rw [not_isBlank_head_trim h] at hfirst
      cases hfirst
  · intro hn
    have hblank := isBlank_of_words_eq_nil hn
    rcases List.eq_nil_or_concat' rest with rfl | ⟨init, d, rfl⟩
    · rw [not_isBlank_last_trim h] at hb
      cases hb
    · have hlast := hblank d (List.mem_append_right _ List.mem_cons_self)
      rw [← List.cons_append, ← List.append_assoc] at h
      rw [not_isBlank_last_trim h] at hlast
      cases hlast

/-- What is left of a text with one word when it is trimmed is the word. -/
theorem trim_of_words_eq_singleton (h : words cs = [word]) : trim cs = word := by
  have hw : words (trim cs) = [word] := by rw [words_trim, h]
  have hnone : ∀ c ∈ trim cs, isBlank c = false := by
    intro c hc
    by_contra hb
    have hb : isBlank c = true := by simpa using hb
    obtain ⟨before, after, hs⟩ := List.append_of_mem hc
    obtain ⟨hbefore, hafter⟩ := words_around_blank hb hs
    rw [hs, words_append_blank hb] at hw
    rcases List.append_eq_singleton_iff.mp hw with ⟨hn, -⟩ | ⟨-, hn⟩
    · exact hbefore hn
    · exact hafter hn
  have hne : trim cs ≠ [] := by
    intro hn
    rw [trim_eq_nil_iff, h] at hn
    cases hn
  rw [words_of_not_blank hne hnone] at hw
  exact (List.cons.inj hw).1

end Calculator.Text
