import Calculator.Files.Tree

/-!
What a path leads to after a file has been written or renamed. Files come and go, but as long as the
folders stay every path leads where it led before.
-/

namespace Calculator.Files.Tree

variable {tree other next : Tree} {location place folder : Location} {item : Item} {path name : String}
  {slash : Bool} {content : ByteArray} {e : FileError}

theorem lookup_filter_of_ne (items : List (Location × Item)) (h : place ≠ location) :
    (items.filter (·.1 ≠ location)).lookup place = items.lookup place := by
  induction items with
  | nil => rfl
  | cons entry items ih =>
    obtain ⟨key, item⟩ := entry
    by_cases hk : key = location
    · have hp : (place == key) = false := beq_eq_false_iff_ne.mpr (hk ▸ h)
      rw [List.filter_cons_of_neg (by simpa using hk), List.lookup_cons, hp]
      exact ih
    · rw [List.filter_cons_of_pos (by simpa using hk), List.lookup_cons, List.lookup_cons, ih]

theorem lookup_filter_self (items : List (Location × Item)) :
    (items.filter (·.1 ≠ location)).lookup location = none := by
  rw [List.lookup_eq_none_iff]
  intro entry he
  have hn := (List.mem_filter.mp he).2
  simp only [ne_eq, decide_not, Bool.not_eq_eq_eq_not, Bool.not_true, decide_eq_false_iff_not] at hn
  exact bne_iff_ne.mpr fun hl => hn hl.symm

theorem get?_put_of_ne (h : place ≠ location) :
    (tree.put location item).get? place = tree.get? place := by
  have hp : (place == location) = false := beq_eq_false_iff_ne.mpr h
  have hl : (tree.put location item).items.lookup place = tree.items.lookup place := by
    rw [put, List.lookup_cons, hp]
    exact lookup_filter_of_ne _ h
  unfold get?
  rw [hl]
  rfl

theorem get?_erase_of_ne (h : place ≠ location) :
    (tree.erase location).get? place = tree.get? place := by
  have hl : (tree.erase location).items.lookup place = tree.items.lookup place :=
    lookup_filter_of_ne _ h
  unfold get?
  rw [hl]
  rfl

/-- What is no folder lies outside the way to the working directory. -/
theorem not_isPrefixOf_home (h : tree.get? location ≠ some .folder) :
    location.isPrefixOf tree.home = false := by
  cases hc : location.isPrefixOf tree.home with
  | false => rfl
  | true => exact absurd (by simp [get?, hc]) h

theorem get?_erase_self (h : tree.get? location ≠ some .folder) :
    (tree.erase location).get? location = none := by
  have hh : location.isPrefixOf tree.home = false := not_isPrefixOf_home h
  have hp : location.isPrefixOf (tree.erase location).home = false := hh
  have hl : (tree.erase location).items.lookup location = none := lookup_filter_self _
  unfold get?
  rw [hp, hl]
  simp

/-- Another tree with the same working directory and all folders of this one. -/
structure KeepsFolders (tree other : Tree) : Prop where
  home_eq : other.home = tree.home
  gone_eq : other.gone = tree.gone
  folder_of_folder : ∀ place, tree.get? place = some .folder → other.get? place = some .folder

theorem KeepsFolders.trans {third : Tree} (h : KeepsFolders tree other)
    (h' : KeepsFolders other third) : KeepsFolders tree third :=
  ⟨h'.home_eq.trans h.home_eq, h'.gone_eq.trans h.gone_eq,
    fun place hp => h'.folder_of_folder place (h.folder_of_folder place hp)⟩

/-- Another tree with the same working directory and the same folders. -/
structure SameFolders (tree other : Tree) : Prop where
  home_eq : other.home = tree.home
  gone_eq : other.gone = tree.gone
  folder_iff : ∀ place, other.get? place = some .folder ↔ tree.get? place = some .folder

theorem SameFolders.trans {third : Tree} (h : SameFolders tree other) (h' : SameFolders other third) :
    SameFolders tree third :=
  ⟨h'.home_eq.trans h.home_eq, h'.gone_eq.trans h.gone_eq,
    fun place => (h'.folder_iff place).trans (h.folder_iff place)⟩

theorem SameFolders.symm (h : SameFolders tree other) : SameFolders other tree :=
  ⟨h.home_eq.symm, h.gone_eq.symm, fun place => (h.folder_iff place).symm⟩

theorem SameFolders.keeps (h : SameFolders tree other) : KeepsFolders tree other :=
  ⟨h.home_eq, h.gone_eq, fun place => (h.folder_iff place).mpr⟩

theorem sameFolders_put (h : tree.get? location ≠ some .folder) (hb : tree.barred location = false)
    (content : ByteArray) : SameFolders tree (tree.put location (.file content)) := by
  refine ⟨rfl, rfl, fun place => ?_⟩
  by_cases hp : place = location
  · subst hp
    rw [get?_put_self tree _ (not_isPrefixOf_home h) hb]
    simpa using h
  · rw [get?_put_of_ne hp]

theorem sameFolders_erase (h : tree.get? location ≠ some .folder) :
    SameFolders tree (tree.erase location) := by
  refine ⟨rfl, rfl, fun place => ?_⟩
  by_cases hp : place = location
  · subst hp
    rw [get?_erase_self h]
    simpa using h
  · rw [get?_erase_of_ne hp]

theorem get?_put_erase (hn : tree.get? location ≠ some .folder) (hb : tree.barred location = false) :
    ((tree.put location (.file content)).erase location).get? place =
      if place = location then none else tree.get? place := by
  split
  next he =>
    subst he
    have hput := get?_put_self tree (.file content) (not_isPrefixOf_home hn) hb
    exact get?_erase_self (by simp [hput])
  next he => rw [get?_erase_of_ne he, get?_put_of_ne he]

theorem sameFolders_put_erase (hn : tree.get? location ≠ some .folder)
    (hb : tree.barred location = false) (content : ByteArray) :
    SameFolders tree ((tree.put location (.file content)).erase location) := by
  have hput := get?_put_self tree (.file content) (not_isPrefixOf_home hn) hb
  exact (sameFolders_put hn hb content).trans (sameFolders_erase (by simp [hput]))

theorem child?_eq_ok_iff {folder : Location} {name : String} {found : Option Item} :
    tree.child? folder name = .ok found ↔
      name.utf8ByteSize ≤ maxNameBytes ∧ tree.get? (folder ++ [name]) = found := by
  unfold child?
  split
  next h => simpa using fun hle => absurd h (Nat.not_lt.mpr hle)
  next h => simp [Nat.not_lt.mp h]

theorem KeepsFolders.enter (h : KeepsFolders tree other) {folder reached : Location} {step : String}
    (he : tree.enter folder step = .ok reached) : other.enter folder step = .ok reached := by
  unfold Tree.enter at he ⊢
  split
  next hd => rwa [if_pos hd] at he
  next hd =>
    rw [if_neg hd] at he
    split
    next hu => rwa [if_pos hu] at he
    next hu =>
      rw [if_neg hu] at he
      split at he <;> try contradiction
      next hc =>
        obtain ⟨hs, hg⟩ := child?_eq_ok_iff.mp hc
        rw [child?_eq_ok_iff.mpr ⟨hs, h.folder_of_folder _ hg⟩]
        exact he

theorem KeepsFolders.foldlM_enter (h : KeepsFolders tree other) {steps : List String}
    {folder reached : Location} (he : steps.foldlM tree.enter folder = .ok reached) :
    steps.foldlM other.enter folder = .ok reached := by
  induction steps generalizing folder with
  | nil => exact he
  | cons step steps ih =>
    rw [List.foldlM_cons] at he ⊢
    cases hs : tree.enter folder step with
    | error e =>
      rw [hs] at he
      cases he
    | ok next =>
      rw [hs] at he
      rw [h.enter hs]
      exact ih he

/-- A path leads to the same place as long as the folders stay. -/
theorem KeepsFolders.approach (h : KeepsFolders tree other) {path : String} {last : LastStep}
    (ha : tree.approach path = .ok last) : other.approach path = .ok last := by
  have hst : other.start path = tree.start path := by simp [start, h.home_eq]
  unfold Tree.approach at ha ⊢
  cases hf : (Path.steps path).dropLast.foldlM tree.enter (tree.start path) with
  | error e =>
    simp only [hf] at ha
    repeat' first | split at ha | contradiction
  | ok folder =>
    simp only [hf] at ha
    simp only [hst, h.foldlM_enter hf]
    exact ha

theorem approach_eq_name (h : tree.approach path = .ok (.name folder name slash)) :
    (Path.steps path).getLast? = some name ∧ name ≠ "." ∧ name ≠ ".." := by
  unfold approach at h
  iterate 3
    split at h
    · cases h
  dsimp only at h
  split at h
  · cases h
  · cases h
  next step _ hl =>
    split at h
    · cases h
    next hd =>
      split at h
      · cases h
      next hu =>
        cases h
        exact ⟨hl, hd, hu⟩

theorem find_of_approach {path : String} {folder : Location} {name : String} {content : ByteArray}
    (ha : tree.approach path = .ok (.name folder name false)) (hs : name.utf8ByteSize ≤ maxNameBytes)
    (hg : tree.get? (folder ++ [name]) = some (.file content)) :
    tree.find path = .ok (.file content) := by
  unfold find
  rw [ha]
  simp only [child?_eq_ok_iff.mpr ⟨hs, hg⟩]
  rfl

theorem write_eq_ok {path : String} {content : ByteArray} {next : Tree}
    (h : tree.write path content = (.ok (), next)) :
    ∃ folder name, tree.approach path = .ok (.name folder name false) ∧
      name.utf8ByteSize ≤ maxNameBytes ∧ tree.get? (folder ++ [name]) ≠ some .folder ∧
      tree.barred (folder ++ [name]) = false ∧
      next = tree.put (folder ++ [name]) (.file content) := by
  unfold write at h
  split at h <;> try cases h
  next folder name slash ha =>
    split at h
    · cases h
    next hslash =>
      obtain rfl : slash = false := by simpa using hslash
      split at h <;> try cases h
      next found hne hc =>
        obtain ⟨hs, hg⟩ := child?_eq_ok_iff.mp hc
        split at h
        · cases h
        next hb =>
          obtain rfl : tree.put (folder ++ [name]) (.file content) = next := by simpa using h
          refine ⟨folder, name, ha, hs, ?_, by simpa using hb, rfl⟩
          rw [hg]
          exact hne

theorem rename_eq_ok {source target : String} {next : Tree}
    (h : tree.rename source target = (.ok (), next)) :
    ∃ folder name slash newFolder newName content,
      tree.approach source = .ok (.name folder name slash) ∧
      tree.approach target = .ok (.name newFolder newName false) ∧
      newName.utf8ByteSize ≤ maxNameBytes ∧
      tree.get? (folder ++ [name]) = some (.file content) ∧
      tree.get? (newFolder ++ [newName]) ≠ some .folder ∧
      tree.barred (newFolder ++ [newName]) = false ∧
      next = (tree.erase (folder ++ [name])).put (newFolder ++ [newName]) (.file content) := by
  unfold rename at h
  split at h <;> try cases h
  next folder name slash newFolder newName newSlash ha ha' =>
    split at h <;> try cases h
    next content there hc hc' =>
      obtain ⟨-, hg⟩ := child?_eq_ok_iff.mp hc
      obtain ⟨hs, hg'⟩ := child?_eq_ok_iff.mp hc'
      cases hb : tree.barred (newFolder ++ [newName]) with
      | true =>
        rw [if_pos hb] at h
        cases h
      | false =>
        rw [if_neg (by simp [hb])] at h
        cases newSlash with
        | true => cases h
        | false =>
          rw [if_neg (by simp)] at h
          split at h
          · cases h
          next hne =>
            cases h
            have hfolder : tree.get? (newFolder ++ [newName]) ≠ some .folder := by
              rw [hg']
              rintro rfl
              exact hne rfl
            exact ⟨folder, name, slash, newFolder, newName, content, ha, ha', hs, hg, hfolder, hb,
              rfl⟩

theorem write_eq_error (h : tree.write path content = (.error e, next)) : next = tree := by
  unfold write at h
  repeat' split at h
  all_goals cases h
  all_goals rfl

theorem rename_eq_error {source target : String} (h : tree.rename source target = (.error e, next)) :
    next = tree := by
  unfold rename at h
  repeat' split at h
  all_goals cases h
  all_goals rfl

theorem remove_of_file (ha : tree.approach path = .ok (.name folder name slash))
    (hs : name.utf8ByteSize ≤ maxNameBytes) (hg : tree.get? (folder ++ [name]) = some (.file content)) :
    tree.remove path = (.ok (), tree.erase (folder ++ [name])) := by
  simp only [remove, ha, child?_eq_ok_iff.mpr ⟨hs, hg⟩]

theorem exists?_of_get?_eq_none (ha : tree.approach path = .ok (.name folder name slash))
    (hs : name.utf8ByteSize ≤ maxNameBytes) (hg : tree.get? (folder ++ [name]) = none) :
    tree.exists? path = false := by
  simp only [exists?, find, ha, child?_eq_ok_iff.mpr ⟨hs, hg⟩]
  rfl

theorem find_eq_file (h : tree.find path = .ok (.file content)) :
    ∃ folder name, tree.approach path = .ok (.name folder name false) ∧
      name.utf8ByteSize ≤ maxNameBytes ∧ tree.get? (folder ++ [name]) = some (.file content) := by
  unfold find at h
  split at h
  · cases h
  · cases h
  next folder name slash ha =>
    split at h
    · cases h
    · cases h
    next hc =>
      obtain ⟨hs, hg⟩ := child?_eq_ok_iff.mp hc
      cases slash with
      | true => cases h
      | false =>
        cases h
        exact ⟨folder, name, ha, hs, hg⟩
    · cases h

/-- A file that is written under one path and then renamed stands under its new path with what was
written. -/
theorem find_of_write_rename {source target : String} {content : ByteArray} {written renamed : Tree}
    (hw : tree.write source content = (.ok (), written))
    (hr : written.rename source target = (.ok (), renamed)) :
    renamed.find target = .ok (.file content) := by
  obtain ⟨folder, name, ha, -, hf, hb, rfl⟩ := write_eq_ok hw
  obtain ⟨_, _, _, newFolder, newName, read, ha₁, ha₂, hs, hg, hf', hb', rfl⟩ := rename_eq_ok hr
  have hsame := sameFolders_put hf hb content
  -- the path of the source still leads to what has just been written
  obtain ⟨rfl, rfl, -⟩ := LastStep.name.inj (Except.ok.inj ((hsame.keeps.approach ha).symm.trans ha₁))
  have hput := get?_put_self tree (.file content) (not_isPrefixOf_home hf) hb
  obtain rfl : content = read := by simpa using hput.symm.trans hg
  let without := (tree.put (folder ++ [name]) (.file content)).erase (folder ++ [name])
  have herase : SameFolders (tree.put (folder ++ [name]) (.file content)) without :=
    sameFolders_erase (by simp [hput])
  have hfree := mt (herase.folder_iff _).mp hf'
  have hlast := (herase.trans (sameFolders_put hfree hb' content)).keeps.approach ha₂
  have hthere := get?_put_self without (.file content) (not_isPrefixOf_home hfree) hb'
  exact find_of_approach hlast hs hthere

theorem readText_of_find {path text : String} (h : tree.find path = .ok (.file text.toUTF8)) :
    tree.readText path = .ok text := by
  have hv : text.toUTF8.IsValidUTF8 := text.isValidUTF8
  have hread : String.fromUTF8? text.toUTF8 = some text := by
    rw [String.fromUTF8?, dif_pos hv]
    rfl
  simp only [readText, h, hread]

end Calculator.Files.Tree
