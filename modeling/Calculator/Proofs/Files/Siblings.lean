import Calculator.History.Basic
import Calculator.Proofs.Text.Words

/-!
The sibling that a file is first written to: it has another name than the file.
-/

namespace Calculator.Files.Path

variable {path name before stem : String} {old : Option String}

theorem pieces_append_slash (path name : String) :
    pieces (path ++ "/" ++ name) = pieces path ++ pieces name := by
  have hl : (path ++ "/" ++ name).toList = path.toList ++ '/' :: name.toList := by simp
  rw [pieces, hl, Text.splitAll_append_separator (by decide), List.map_append]
  rfl

theorem pieces_of_no_slash (h : '/' ∉ name.toList) : pieces name = [name] := by
  have hs : ∀ c ∈ name.toList, (c == '/') = false := fun c hc =>
    beq_eq_false_iff_ne.mpr fun he => h (he ▸ hc)
  rw [pieces, Text.splitAll_of_none hs, List.map_singleton, String.ofList_toList]

theorem slash_not_mem_of_mem_pieces (h : name ∈ pieces path) : '/' ∉ name.toList := by
  intro hm
  obtain ⟨piece, hp, rfl⟩ := List.mem_map.mp h
  rw [String.toList_ofList] at hm
  exact absurd (Text.not_separates_of_mem_splitAll hp hm) (by decide)

/-- What stands before a name in a path. -/
def IsFolderPart (before : String) : Prop := before = "" ∨ ∃ front, before = front ++ "/"

theorem getLast?_steps_append (hb : IsFolderPart before) (hs : '/' ∉ name.toList) (hne : name ≠ "") :
    (steps (before ++ name)).getLast? = some name := by
  rcases hb with rfl | ⟨front, rfl⟩
  · simp [steps, pieces_of_no_slash hs, hne]
  · simp [steps, pieces_append_slash, pieces_of_no_slash hs, hne]

theorem dropWhile_of_head?_filter {pieces : List String}
    (h : (pieces.filter (· ≠ "")).head? = some name) (hd : name ≠ ".") :
    ∃ rest, pieces.dropWhile (fun piece => piece == "" || piece == ".") = name :: rest := by
  induction pieces with
  | nil => simp at h
  | cons piece pieces ih =>
    by_cases hp : piece = ""
    · subst hp
      exact ih h
    · obtain rfl : piece = name := by simpa [hp] using h
      exact ⟨pieces, by simp [hp, hd]⟩

/-- A path that ends with a name is the path of a file with that name. -/
theorem fileName?_of_getLast?_steps (h : (steps path).getLast? = some name) (hd : name ≠ ".")
    (hu : name ≠ "..") :
    ∃ before, fileName? path = some (before, name) ∧ IsFolderPart before ∧ '/' ∉ name.toList := by
  have hm : name ∈ pieces path := (List.mem_filter.mp (List.mem_of_getLast? h)).1
  have hh : ((pieces path).reverse.filter (· ≠ "")).head? = some name := by
    rw [List.filter_reverse, List.head?_reverse]
    exact h
  obtain ⟨rest, hr⟩ := dropWhile_of_head?_filter hh hd
  have hf : fileName? path =
      some (if rest.isEmpty then "" else "/".intercalate rest.reverse ++ "/", name) := by
    simp only [fileName?, hr, hu, if_false]
  refine ⟨_, hf, ?_, slash_not_mem_of_mem_pieces hm⟩
  split
  · exact .inl rfl
  · exact .inr ⟨_, rfl⟩

theorem splitExtension_cases (h : splitExtension name = (stem, old)) :
    stem = name ∨ ∃ extension, name = stem ++ "." ++ extension ∧ '.' ∉ extension.toList := by
  unfold splitExtension at h
  dsimp only at h
  split at h
  next point c rest hd =>
    right
    obtain ⟨rfl, -⟩ := Prod.mk.inj h
    have hp : point = '.' := by
      have hn := List.head?_dropWhile_not (· != '.') name.toList.reverse
      rw [hd] at hn
      simpa using hn
    subst hp
    have ha := List.takeWhile_append_dropWhile (p := (· != '.')) (l := name.toList.reverse)
    have hall := List.all_takeWhile (p := (· != '.')) (l := name.toList.reverse)
    rw [hd] at ha
    generalize name.toList.reverse.takeWhile (· != '.') = last at ha hall
    refine ⟨String.ofList last.reverse, ?_, ?_⟩
    · have hr := congrArg List.reverse ha
      rw [List.reverse_reverse] at hr
      refine String.toList_inj.mp ?_
      rw [← hr]
      simp
    · intro hm
      rw [String.toList_ofList, List.mem_reverse] at hm
      exact absurd (List.all_eq_true.mp hall '.' hm) (by decide)
  next =>
    exact .inl (Prod.mk.inj h).1.symm

end Calculator.Files.Path

namespace Calculator.History

open Files.Path (steps splitExtension)

variable {path name other stem : String} {old : Option String}

theorem siblingName_ne (h : splitExtension name = (stem, old)) : stem ++ ".csv.tmp" ≠ name := by
  rcases Files.Path.splitExtension_cases h with rfl | ⟨extension, rfl, hp⟩
  · intro he
    have hl := congrArg (fun s => s.toList.length) he
    simp at hl
  · intro he
    refine hp ?_
    have hl := congrArg String.toList he
    simp only [String.toList_append, List.append_assoc] at hl
    have ht : extension.toList = "csv.tmp".toList := by
      have hc := List.append_cancel_left hl
      simpa using hc.symm
    rw [ht]
    decide

/-- Where both a path and that of its sibling end with a name, the names differ. -/
theorem getLast?_steps_sibling_ne (hp : (steps path).getLast? = some name) (hd : name ≠ ".")
    (hu : name ≠ "..") (hs : (steps (sibling path)).getLast? = some other) (ho : other ≠ "..") :
    other ≠ name := by
  obtain ⟨before, hf, hb, hn⟩ := Files.Path.fileName?_of_getLast?_steps hp hd hu
  cases hx : splitExtension name with
  | mk stem old =>
    simp only [sibling, Files.Path.withExtension, hf, hx] at hs
    split at hs
    · rw [Files.Path.getLast?_steps_append hb (by decide) (by decide)] at hs
      exact absurd (Option.some.inj hs).symm ho
    · have ha : before ++ stem ++ "." ++ "csv.tmp" = before ++ (stem ++ ".csv.tmp") := by
        refine String.toList_inj.mp ?_
        simp
      have hslash : '/' ∉ (stem ++ ".csv.tmp").toList := by
        have hstem : '/' ∉ stem.toList := by
          rcases Files.Path.splitExtension_cases hx with rfl | ⟨extension, rfl, -⟩
          · exact hn
          · exact fun hm => hn (by simp [hm])
        simp [hstem]
      have hne : stem ++ ".csv.tmp" ≠ "" := by
        intro he
        have hl := congrArg (fun s => s.toList.length) he
        simp at hl
      rw [ha, Files.Path.getLast?_steps_append hb hslash hne] at hs
      exact Option.some.inj hs ▸ siblingName_ne hx

end Calculator.History
