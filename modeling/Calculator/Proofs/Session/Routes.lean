import Calculator.Proofs.Text.Words
import Calculator.Route

/-!
Which lines go the same way: a line and what is left of it without the blanks at its ends, and the
name of a command followed by words, which goes to that command with these words as arguments.
-/

namespace Calculator

namespace Text

theorem not_isBlank_of_toUpper {c : Char} (h : c.toUpper ∈ ['E', 'X', 'I', 'T']) :
    isBlank c = false := by
  unfold Char.toUpper at h
  split at h
  next hc =>
    have hl : 97 ≤ c.toNat ∧ c.toNat ≤ 122 := ⟨hc.1, hc.2⟩
    simp only [isBlank, Bool.or_eq_false_iff, Bool.and_eq_false_iff, decide_eq_false_iff_not]
    omega
  next =>
    simp only [List.mem_cons, List.not_mem_nil, or_false] at h
    rcases h with rfl | rfl | rfl | rfl <;> decide

/-- A text that asks to exit is one word. -/
theorem words_of_sameLetters {s : String} (h : sameLetters s "exit" = true) :
    words s.toList = [s.toList] := by
  have hu : s.toList.map Char.toUpper = ['E', 'X', 'I', 'T'] := by
    have he := congrArg String.toList (beq_iff_eq.mp h)
    rw [asciiUpper, String.toList_ofList] at he
    exact he.trans (by decide)
  refine words_of_not_blank (fun hn => ?_) fun c hc => not_isBlank_of_toUpper ?_
  · rw [hn] at hu
    cases hu
  · rw [← hu]
    exact List.mem_map_of_mem hc

end Text

namespace Route

variable {isRegistered : String → Bool} {line name text : String} {args : List String}

theorem ofLine_trim (isRegistered : String → Bool) (line : String) :
    ofLine isRegistered (String.ofList (Text.trim line.toList)) = ofLine isRegistered line := by
  unfold ofLine
  rw [String.toList_ofList, Text.trim_trim]

/-- The name and the arguments in a line, whether they go to a command or not. -/
def call (isRegistered : String → Bool) (line : String) : String × List String :=
  let (first, rest) := splitCommand line.toList
  joinVerb isRegistered first rest

theorem splitCommand_trim (cs : List Char) : splitCommand (Text.trim cs) = splitCommand cs := by
  rw [splitCommand, splitCommand, Text.words_trim]

theorem ofLine_cases (isRegistered : String → Bool) (line : String) :
    ofLine isRegistered line = skip ∨ ofLine isRegistered line = exit ∨
      ofLine isRegistered line = expression (String.ofList (Text.trim line.toList)) ∨
      ofLine isRegistered line =
        command (call isRegistered line).1 (call isRegistered line).2 := by
  unfold ofLine call
  dsimp only
  rw [splitCommand_trim]
  split
  · exact .inl rfl
  · split
    · exact .inr (.inl rfl)
    · split
      · exact .inr (.inr (.inl rfl))
      · exact .inr (.inr (.inr rfl))

/-- The evaluator gets the line without the blanks at its ends, and would get that text again. -/
theorem eq_of_ofLine_expression (h : ofLine isRegistered line = expression text) :
    text = String.ofList (Text.trim line.toList) ∧ ofLine isRegistered text = expression text := by
  have ht : text = String.ofList (Text.trim line.toList) := by
    rcases ofLine_cases isRegistered line with hr | hr | hr | hr <;> rw [hr] at h <;> cases h
    rfl
  exact ⟨ht, by rw [ht, ofLine_trim, h, ← ht]⟩

theorem eq_of_ofLine_command (h : ofLine isRegistered line = command name args) :
    call isRegistered line = (name, args) := by
  rcases ofLine_cases isRegistered line with hr | hr | hr | hr <;> rw [hr] at h <;> cases h
  rfl

theorem mem_joinVerb {rest : List String} {arg : String}
    (h : arg ∈ (joinVerb isRegistered name rest).2) : arg ∈ rest := by
  cases rest with
  | nil => exact h
  | cons verb rest =>
    unfold joinVerb at h
    dsimp only at h
    split at h
    · exact List.mem_cons_of_mem _ h
    · exact h

theorem isWord_of_mem_splitCommand {cs : List Char} {arg : String} (h : arg ∈ (splitCommand cs).2) :
    Text.IsWord arg.toList := by
  unfold splitCommand at h
  split at h
  · cases h
  next first rest hw =>
    obtain ⟨word, hm, rfl⟩ := List.mem_map.mp h
    rw [String.toList_ofList]
    exact Text.isWord_of_mem_words (hw ▸ List.mem_cons_of_mem first hm)

/-- The arguments of a command are words. -/
theorem isWord_of_ofLine_command (h : ofLine isRegistered line = command name args) {arg : String}
    (ha : arg ∈ args) : Text.IsWord arg.toList := by
  obtain rfl := congrArg Prod.snd (eq_of_ofLine_command h)
  exact isWord_of_mem_splitCommand (mem_joinVerb ha)

/-- A name that a line can begin with to have its command run with the words that follow. -/
structure Callable (isRegistered : String → Bool) (name : String) : Prop where
  isWord : Text.IsWord name.toList
  lower_eq : Text.lower name.toList = name.toList
  ne_history : name ≠ "history"
  not_exit : Text.sameLetters name "exit" = false
  registered : isRegistered name = true

/-- A line goes to the command that it calls, if there is one and the line does not ask to exit. -/
theorem ofLine_of_call {first : List Char} {rest : List (List Char)}
    (hw : Text.words line.toList = first :: rest)
    (hx : Text.sameLetters (String.ofList first) "exit" = false)
    (hc : call isRegistered line = (name, args)) (hr : isRegistered name = true) :
    ofLine isRegistered line = command name args := by
  have hempty : (Text.trim line.toList).isEmpty = false := by
    cases ht : Text.trim line.toList with
    | nil =>
      rw [Text.trim_eq_nil_iff, hw] at ht
      cases ht
    | cons c cs => rfl
  -- A line that asks to exit is one word, which would be the first one.
  have hexit : Text.sameLetters (String.ofList (Text.trim line.toList)) "exit" = false := by
    refine Bool.eq_false_iff.mpr fun he => ?_
    have hone := Text.words_of_sameLetters he
    rw [String.toList_ofList, Text.words_trim, hw] at hone
    obtain ⟨ht, -⟩ := List.cons.inj hone
    rw [← ht, hx] at he
    cases he
  rw [call, ← splitCommand_trim] at hc
  unfold ofLine
  dsimp only at hc ⊢
  rw [hempty, hexit, hc, hr]
  rfl

theorem joinVerb_of_ne (hn : name ≠ "history") (args : List String) :
    joinVerb isRegistered name args = (name, args) := by
  unfold joinVerb
  split
  · rfl
  · simp [hn]

/-- A line whose words are a name and others goes to the command of that name with the others as
arguments. -/
theorem ofLine_of_words (hn : Callable isRegistered name)
    (hw : Text.words line.toList = name.toList :: args.map String.toList) :
    ofLine isRegistered line = command name args := by
  have hcall : call isRegistered line = (name, args) := by
    have hs : splitCommand line.toList = (name, args) := by
      rw [splitCommand, hw]
      simp [hn.lower_eq]
    rw [call, hs]
    exact joinVerb_of_ne hn.ne_history args
  refine ofLine_of_call hw ?_ hcall hn.registered
  rw [String.ofList_toList]
  exact hn.not_exit

/-- A name followed by words goes to the command of that name with these words as arguments. -/
theorem ofLine_call (hn : Callable isRegistered name) (ha : ∀ arg ∈ args, Text.IsWord arg.toList) :
    ofLine isRegistered (name ++ " " ++ " ".intercalate args) = command name args := by
  have hl : (name ++ " " ++ " ".intercalate args).toList =
      name.toList ++ ' ' :: [' '].intercalate (args.map String.toList) := by
    simp [String.toList_intercalate]
  have hargs : ∀ word ∈ args.map String.toList, Text.IsWord word := by
    intro word hm
    obtain ⟨arg, ham, rfl⟩ := List.mem_map.mp hm
    exact ha arg ham
  refine ofLine_of_words hn ?_
  rw [hl, Text.words_append_blank (by decide), Text.words_intercalate hargs,
    Text.words_of_not_blank hn.isWord.1 hn.isWord.2]
  rfl

end Route

end Calculator
