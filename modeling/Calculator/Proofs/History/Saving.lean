import Calculator.Proofs.Files.Folders
import Calculator.Proofs.Files.Siblings
import Calculator.Proofs.History.Persistence

/-!
Saving a history replaces its file as a whole or leaves all files as they were, whichever step of it
fails.
-/

namespace Calculator.History

open Files (Tree Location FileError)

variable {tree other next : Tree} {path text : String} {entries : List Entry}
  {folder folder' : Location} {name name' : String} {slash slash' : Bool}

theorem siblingPlace_ne (hs : tree.approach (sibling path) = .ok (.name folder name slash))
    (hp : other.approach path = .ok (.name folder' name' slash')) :
    folder ++ [name] ≠ folder' ++ [name'] := by
  obtain ⟨hl, -, hu⟩ := Tree.approach_eq_name hs
  obtain ⟨hl', hd', hu'⟩ := Tree.approach_eq_name hp
  intro he
  refine getLast?_steps_sibling_ne hl' hd' hu' hl hu ?_
  simpa using congrArg List.getLast? he

/-- What replacing a file comes to: nothing happens, or the sibling is written, and then it is removed
again or takes the place of the file. -/
inductive Replacing (tree : Tree) (path : String) (content : ByteArray) : Files.Outcome Unit → Prop where
  | refused (e : FileError) : Replacing tree path content (.error e, tree)
  | undone {folder : Location} {name : String} (e : FileError)
      (hs : tree.approach (sibling path) = .ok (.name folder name false))
      (hn : tree.get? (folder ++ [name]) ≠ some .folder)
      (hb : tree.barred (folder ++ [name]) = false) :
      Replacing tree path content
        (.error e, (tree.put (folder ++ [name]) (.file content)).erase (folder ++ [name]))
  | done {folder folder' : Location} {name name' : String}
      (hs : tree.approach (sibling path) = .ok (.name folder name false))
      (hz : name.utf8ByteSize ≤ Tree.maxNameBytes)
      (hn : tree.get? (folder ++ [name]) ≠ some .folder)
      (hb : tree.barred (folder ++ [name]) = false)
      (hp : tree.approach path = .ok (.name folder' name' false))
      (hn' : tree.get? (folder' ++ [name']) ≠ some .folder)
      (hb' : tree.barred (folder' ++ [name']) = false) :
      Replacing tree path content
        (.ok (), ((tree.put (folder ++ [name]) (.file content)).erase (folder ++ [name])).put
          (folder' ++ [name']) (.file content))

theorem replacing_replaceFile (tree : Tree) (path text : String) :
    Replacing tree path text.toUTF8 (replaceFile tree path text) := by
  unfold replaceFile
  split
  next e next hw =>
    rw [Tree.write_eq_error hw]
    exact .refused e
  next written hw =>
    obtain ⟨folder, name, hs, hz, hn, hb, rfl⟩ := Tree.write_eq_ok hw
    have hsame := Tree.sameFolders_put hn hb text.toUTF8
    have hput := Tree.get?_put_self tree (.file text.toUTF8) (Tree.not_isPrefixOf_home hn) hb
    have hs' := hsame.keeps.approach hs
    split
    next e next hr =>
      rw [Tree.rename_eq_error hr, Tree.remove_of_file hs' hz hput]
      exact .undone e hs hn hb
    next renamed hr =>
      obtain ⟨_, _, _, folder', name', read, ha, hp, -, hg, hn', hb', rfl⟩ := Tree.rename_eq_ok hr
      obtain ⟨rfl, rfl, -⟩ := Files.LastStep.name.inj (Except.ok.inj (hs'.symm.trans ha))
      obtain rfl : text.toUTF8 = read := by simpa using hput.symm.trans hg
      exact .done hs hz hn hb (hsame.symm.keeps.approach hp) (mt (hsame.folder_iff _).mpr hn') hb'

namespace Replacing

variable {content : ByteArray} {outcome : Files.Outcome Unit} {place location : Location}

theorem sameFolders (h : Replacing tree path content outcome) : Tree.SameFolders tree outcome.2 := by
  cases h with
  | refused e => exact ⟨rfl, rfl, fun _ => .rfl⟩
  | undone e hs hn hb => exact Tree.sameFolders_put_erase hn hb content
  | done hs hz hn hb hp hn' hb' =>
    have hsame := Tree.sameFolders_put_erase hn hb content
    exact hsame.trans (Tree.sameFolders_put (mt (hsame.folder_iff _).mp hn') hb' content)

/-- Where the file has been replaced, its sibling is gone and no other file has changed. -/
theorem of_ok (h : Replacing tree path content (.ok (), next)) :
    next.exists? (sibling path) = false ∧
      ∀ place read, next.locate? path ≠ some place → next.locate? (sibling path) ≠ some place →
        (next.get? place = some (.file read) ↔ tree.get? place = some (.file read)) := by
  have hk := h.sameFolders.keeps
  cases h with
  | @done folder folder' name name' hs hz hn hb hp hn' hb' =>
    have hgone : ∀ place, place ≠ folder' ++ [name'] →
        (((tree.put (folder ++ [name]) (.file content)).erase (folder ++ [name])).put
          (folder' ++ [name']) (.file content)).get? place =
        if place = folder ++ [name] then none else tree.get? place := by
      intro place hne
      rw [Tree.get?_put_of_ne hne, Tree.get?_put_erase hn hb]
    have hsibling := hgone _ (siblingPlace_ne hs hp)
    rw [if_pos rfl] at hsibling
    refine ⟨Tree.exists?_of_get?_eq_none (hk.approach hs) hz hsibling, fun place read hne hne' => ?_⟩
    rw [Tree.locate?_of_approach (hk.approach hp)] at hne
    rw [Tree.locate?_of_approach (hk.approach hs)] at hne'
    rw [hgone place fun he => hne (congrArg some he.symm), if_neg fun he => hne' (congrArg some he.symm)]

/-- Where replacing the file has failed, no file is new, and none is lost but the one that the sibling
was written over. -/
theorem of_error {e : FileError} (h : Replacing tree path content (.error e, next)) :
    (∀ place read, next.get? place = some (.file read) → tree.get? place = some (.file read)) ∧
      (∀ place read, next.locate? (sibling path) ≠ some place →
        tree.get? place = some (.file read) → next.get? place = some (.file read)) ∧
      ∀ read, tree.find path = .ok (.file read) → next.find path = .ok (.file read) := by
  have hk := h.sameFolders.keeps
  cases h with
  | refused => exact ⟨fun _ _ => id, fun _ _ _ => id, fun _ => id⟩
  | @undone folder name _ hs hn hb =>
    refine ⟨fun place read hg => ?_, fun place read hne hg => ?_, fun read hf => ?_⟩
    · rw [Tree.get?_put_erase hn hb] at hg
      split at hg
      · cases hg
      · exact hg
    · rw [Tree.locate?_of_approach (hk.approach hs)] at hne
      rw [Tree.get?_put_erase hn hb, if_neg fun he => hne (congrArg some he.symm), hg]
    · -- The file is not where the sibling was written, so removing the sibling leaves it.
      obtain ⟨folder', name', hp, hz, hg⟩ := Tree.find_eq_file hf
      refine Tree.find_of_approach (hk.approach hp) hz ?_
      rw [Tree.get?_put_erase hn hb, if_neg (siblingPlace_ne hs hp).symm, hg]

end Replacing

/-- A saved history goes by the folders that had to be made, and then its file is replaced. -/
theorem saveEntries_cases (tree : Tree) (path : String) (entries : List Entry) :
    ∃ made, Tree.AddsFolders tree made (Files.Path.above path) ∧
      Replacing made path (encode entries).toUTF8 (saveEntries tree path entries) := by
  refine ⟨_, addsFolders_makeParent tree path, ?_⟩
  unfold saveEntries
  split
  next e next hm =>
    rw [hm]
    exact .refused e
  next made hm =>
    rw [hm]
    exact replacing_replaceFile made path (encode entries)

theorem save_cases (h : History) (tree : Tree) (path? : Option String) :
    (∃ next, saveEntries tree (path?.getD h.defaultPath) h.entries = (.ok (), next) ∧
        h.save tree path? = (.ok (path?.getD h.defaultPath), next)) ∨
      ∃ e next, saveEntries tree (path?.getD h.defaultPath) h.entries = (.error e, next) ∧
        h.save tree path? = (.error (.file e), next) := by
  unfold save
  dsimp only
  split
  next e next hs => exact .inr ⟨e, next, hs, rfl⟩
  next next hs => exact .inl ⟨next, hs, rfl⟩

/-- A save that fails leaves what is at the path. -/
theorem find_of_save_error {h : History} {path? : Option String} {e : StoreError} {item : Files.Item}
    (hs : h.save tree path? = (.error e, next))
    (hf : tree.find (path?.getD h.defaultPath) = .ok item) :
    next.find (path?.getD h.defaultPath) = .ok item := by
  obtain ⟨made, hmade, hreplacing⟩ := saveEntries_cases tree (path?.getD h.defaultPath) h.entries
  rcases h.save_cases tree path? with ⟨after, -, hv⟩ | ⟨e', after, ha, hv⟩
  · rw [hs] at hv
    cases hv
  · obtain rfl : next = after := by
      rw [hs] at hv
      exact (Prod.mk.inj hv).2
    rw [ha] at hreplacing
    cases item with
    | folder => exact (hmade.keepsFolders.trans hreplacing.sameFolders.keeps).find_folder hf
    | file content => exact hreplacing.of_error.2.2 content (hmade.find_file hf)

theorem loadEntries_congr (hf : next.find path = tree.find path) :
    loadEntries next path = loadEntries tree path := by
  have hr : next.readText path = tree.readText path := by
    unfold Tree.readText
    rw [hf]
  unfold loadEntries Tree.exists?
  rw [hf, hr]

/-- Where loading fails, and not for want of the file, something is at the path. -/
theorem find_of_loadEntries_error {e : StoreError} (he : loadEntries tree path = .error e)
    (hne : ∀ path, e ≠ .notFound path) : ∃ item, tree.find path = .ok item := by
  cases hf : tree.find path with
  | ok item => exact ⟨item, rfl⟩
  | error e' =>
    simp only [loadEntries, Tree.exists?, hf] at he
    cases he
    exact absurd rfl (hne path)

theorem history_saveDefault (session : Session) : session.saveDefault.history = session.history := by
  unfold Session.saveDefault
  split
  · rfl
  · dsimp only
    split <;> rfl

theorem history_saved (desk : Command.Desk) (result : Except StoreError String) :
    (Command.Recorded.saved desk result).2.history = desk.history := by
  cases result <;> rfl

/-- Saving either replaces the file as a whole and leaves no sibling, or fails and leaves every file as
it was, one in the place of the sibling apart. In either case nothing but missing folders above the
file is made, and the history is the same after it. -/
theorem save_replaces_or_leaves (h : History) (tree : Tree) (path? : Option String) :
    let path := path?.getD h.defaultPath
    let result := (h.save tree path?).1
    let next := (h.save tree path?).2
    (result = .ok path ∧
        next.find path = .ok (.file (Csv.write (columns :: h.entries.map Entry.fields)).toUTF8) ∧
        next.exists? (sibling path) = false ∧
        (∀ place content, next.locate? path ≠ some place → next.locate? (sibling path) ≠ some place →
          (next.get? place = some (.file content) ↔ tree.get? place = some (.file content))) ∨
      (∃ e, result = .error (.file e)) ∧
        (∀ place content, next.get? place = some (.file content) →
          tree.get? place = some (.file content)) ∧
        (∀ place content, next.locate? (sibling path) ≠ some place →
          tree.get? place = some (.file content) → next.get? place = some (.file content)) ∧
        ∀ content, tree.find path = .ok (.file content) → next.find path = .ok (.file content)) ∧
      (∀ place, tree.get? place = some .folder → next.get? place = some .folder) ∧
      (∀ place, next.get? place = some .folder → tree.get? place = some .folder ∨
        ∃ parent ∈ Files.Path.above path, next.locate? parent = some place) ∧
      (∀ desk : Command.Desk, (Command.Recorded.saved desk result).2.history = desk.history) ∧
      ∀ session : Session, session.saveDefault.history = session.history := by
  intro path result next
  obtain ⟨made, hmade, hreplacing⟩ := saveEntries_cases tree path h.entries
  have hsame : Tree.SameFolders made next := by
    rcases h.save_cases tree path? with ⟨after, hs, hv⟩ | ⟨e, after, hs, hv⟩
    all_goals
      have ha := hreplacing.sameFolders
      rw [hs] at ha
      simpa only [next, hv] using ha
  refine ⟨?_, fun place hf => ?_, fun place hf => ?_, fun desk => history_saved desk result,
    history_saveDefault⟩
  · rcases h.save_cases tree path? with ⟨after, hs, hv⟩ | ⟨e, after, hs, hv⟩
    · left
      obtain rfl : after = next := by simp only [next, hv]
      rw [hs] at hreplacing
      obtain ⟨hgone, hother⟩ := hreplacing.of_ok
      refine ⟨by simp only [result, hv, path], find_saveEntries hs, hgone,
        fun place content hp hp' => ?_⟩
      rw [hother place content hp hp', hmade.file_iff]
    · right
      obtain rfl : after = next := by simp only [next, hv]
      rw [hs] at hreplacing
      obtain ⟨hnew, hold, hfile⟩ := hreplacing.of_error
      refine ⟨⟨e, by simp only [result, hv]⟩, fun place content hg => ?_, fun place content hp hg => ?_,
        fun content hf => hfile content (hmade.find_file hf)⟩
      · exact (hmade.file_iff place content).mp (hnew place content hg)
      · exact hold place content hp ((hmade.file_iff place content).mpr hg)
  · exact (hsame.folder_iff place).mpr (hmade.get?_of_some hf)
  · rcases hmade.get?_cases place with he | ⟨-, -, parent, hm, hl⟩
    · exact .inl (he ▸ (hsame.folder_iff place).mp hf)
    · exact .inr ⟨parent, hm, hsame.keeps.locate? hl⟩

end Calculator.History
