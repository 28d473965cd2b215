import Calculator.History.Basic
import Calculator.Proofs.Files.Replacing

/-!
Making folders: nothing is lost, and what is new is a folder that one of the paths leads to.
-/

namespace Calculator.Files

/-- The folder that a path lies in, and the folders on the way to it. -/
def Path.above (path : String) : List String :=
  (Path.parent? path).toList.flatMap fun parent => parent :: Path.ancestors parent

namespace Tree

variable {tree next other : Tree} {location place : Location} {path : String} {paths : List String}

/-- Where a path leads, whether or not there is something. -/
def locate? (tree : Tree) (path : String) : Option Location :=
  match tree.approach path with
  | .ok (.folder location) => some location
  | .ok (.name folder name _) => some (folder ++ [name])
  | .error _ => none

theorem locate?_of_approach {folder : Location} {name : String} {slash : Bool}
    (h : tree.approach path = .ok (.name folder name slash)) :
    tree.locate? path = some (folder ++ [name]) := by
  simp [locate?, h]

theorem KeepsFolders.locate? (h : KeepsFolders tree other) (hl : tree.locate? path = some place) :
    other.locate? path = some place := by
  unfold Tree.locate? at hl ⊢
  cases ha : tree.approach path with
  | error e =>
    rw [ha] at hl
    cases hl
  | ok last =>
    rw [ha] at hl
    rw [h.approach ha]
    exact hl

theorem KeepsFolders.find_folder (h : KeepsFolders tree other) (hf : tree.find path = .ok .folder) :
    other.find path = .ok .folder := by
  unfold find at hf ⊢
  cases ha : tree.approach path with
  | error e =>
    rw [ha] at hf
    cases hf
  | ok last =>
    rw [ha] at hf
    rw [h.approach ha]
    cases last with
    | folder location => rfl
    | name folder name slash =>
      dsimp only at hf ⊢
      split at hf
      · cases hf
      · cases hf
      · split at hf <;> cases hf
      next hc =>
        obtain ⟨hs, hg⟩ := child?_eq_ok_iff.mp hc
        rw [child?_eq_ok_iff.mpr ⟨hs, h.folder_of_folder _ hg⟩]

/-- The other tree has everything that this one has, and besides only folders, each at a place that one
of the paths leads to. -/
structure AddsFolders (tree next : Tree) (paths : List String) : Prop where
  home_eq : next.home = tree.home
  gone_eq : next.gone = tree.gone
  get?_cases : ∀ place, next.get? place = tree.get? place ∨
    tree.get? place = none ∧ next.get? place = some .folder ∧
      ∃ path ∈ paths, next.locate? path = some place

namespace AddsFolders

theorem refl (tree : Tree) (paths : List String) : AddsFolders tree tree paths :=
  ⟨rfl, rfl, fun _ => .inl rfl⟩

theorem get?_of_some {item : Item} (h : AddsFolders tree next paths)
    (hp : tree.get? place = some item) : next.get? place = some item := by
  rcases h.get?_cases place with he | ⟨hn, -, -⟩
  · rw [he, hp]
  · rw [hn] at hp
    cases hp

theorem keepsFolders (h : AddsFolders tree next paths) : KeepsFolders tree next :=
  ⟨h.home_eq, h.gone_eq, fun _ => h.get?_of_some⟩

theorem file_iff (h : AddsFolders tree next paths) (place : Location) (content : ByteArray) :
    next.get? place = some (.file content) ↔ tree.get? place = some (.file content) := by
  rcases h.get?_cases place with he | ⟨hn, hf, -⟩
  · rw [he]
  · simp [hn, hf]

theorem find_file {content : ByteArray} (h : AddsFolders tree next paths)
    (hf : tree.find path = .ok (.file content)) : next.find path = .ok (.file content) := by
  obtain ⟨folder, name, ha, hs, hg⟩ := find_eq_file hf
  exact find_of_approach (h.keepsFolders.approach ha) hs (h.get?_of_some hg)

theorem mono {more : List String} (h : AddsFolders tree next paths)
    (hs : ∀ path ∈ paths, path ∈ more) : AddsFolders tree next more := by
  refine ⟨h.home_eq, h.gone_eq, fun place => ?_⟩
  rcases h.get?_cases place with he | ⟨hn, hf, path, hm, hl⟩
  · exact .inl he
  · exact .inr ⟨hn, hf, path, hs path hm, hl⟩

theorem trans {last : Tree} (h : AddsFolders tree next paths) (h' : AddsFolders next last paths) :
    AddsFolders tree last paths := by
  refine ⟨h'.home_eq.trans h.home_eq, h'.gone_eq.trans h.gone_eq, fun place => ?_⟩
  rcases h.get?_cases place with he | ⟨hn, hf, path, hm, hl⟩
  · rw [← he]
    exact h'.get?_cases place
  · exact .inr ⟨hn, h'.get?_of_some hf, path, hm, h'.keepsFolders.locate? hl⟩

end AddsFolders

theorem get?_put_of_free (hn : tree.get? location = none) (hb : tree.barred location = false)
    (item : Item) :
    (tree.put location item).get? location = some item := by
  refine get?_put_self tree item (not_isPrefixOf_home ?_) hb
  rw [hn]
  exact nofun

theorem addsFolders_put (hn : tree.get? location = none) (hb : tree.barred location = false)
    (hl : ∀ other, KeepsFolders tree other → ∃ path ∈ paths, other.locate? path = some location) :
    AddsFolders tree (tree.put location .folder) paths := by
  have hself := get?_put_of_free hn hb .folder
  have hkeeps : KeepsFolders tree (tree.put location .folder) := by
    refine ⟨rfl, rfl, fun place hp => ?_⟩
    by_cases he : place = location
    · rw [he, hself]
    · rw [get?_put_of_ne he, hp]
  refine ⟨rfl, rfl, fun place => ?_⟩
  by_cases he : place = location
  · subst he
    exact .inr ⟨hn, hself, hl _ hkeeps⟩
  · exact .inl (get?_put_of_ne he)

theorem addsFolders_makeFolder (tree : Tree) (path : String) :
    AddsFolders tree (tree.makeFolder path).2 [path] := by
  unfold makeFolder
  split
  · exact .refl tree _
  · exact .refl tree _
  next folder name slash ha =>
    split
    · exact .refl tree _
    · exact .refl tree _
    next hc =>
      split
      · exact .refl tree _
      next hb =>
        obtain ⟨-, hn⟩ := child?_eq_ok_iff.mp hc
        refine addsFolders_put hn (by simpa using hb) fun other hk => ⟨path, by simp, ?_⟩
        refine hk.locate? ?_
        simp [Tree.locate?, ha]

@[simp] theorem forgive_snd (path : String) (outcome : Outcome Unit) :
    (forgive path outcome).2 = outcome.2 := by
  obtain ⟨result, tree⟩ := outcome
  cases result with
  | ok _ => rfl
  | error e =>
    unfold forgive
    dsimp only
    split <;> rfl

theorem addsFolders_makeFolderIn (tree : Tree) (path : String) (parents : List String) :
    AddsFolders tree (tree.makeFolderIn path parents).2 (path :: parents) := by
  induction parents generalizing tree path with
  | nil =>
    rw [makeFolderIn, forgive_snd]
    exact addsFolders_makeFolder tree path
  | cons parent parents ih =>
    have hone : AddsFolders tree (tree.makeFolder path).2 (path :: parent :: parents) :=
      (addsFolders_makeFolder tree path).mono (by simp)
    unfold makeFolderIn
    split
    next made hm =>
      rw [hm] at hone
      have hup := (ih made parent).mono fun _ => List.mem_cons_of_mem path
      split
      next above ha =>
        rw [ha] at hup
        rw [forgive_snd]
        exact (hone.trans hup).trans ((addsFolders_makeFolder above path).mono (by simp))
      next => exact hone.trans hup
    next =>
      rw [forgive_snd]
      exact hone

theorem addsFolders_makeFolders (tree : Tree) (path : String) :
    AddsFolders tree (tree.makeFolders path).2 (path :: Path.ancestors path) := by
  unfold makeFolders
  split
  · exact .refl tree _
  · exact addsFolders_makeFolderIn tree path _

end Tree

end Calculator.Files

namespace Calculator.History

open Files (Tree)

theorem addsFolders_makeParent (tree : Tree) (path : String) :
    Tree.AddsFolders tree (makeParent tree path).2 (Files.Path.above path) := by
  unfold makeParent Files.Path.above
  cases Files.Path.parent? path with
  | none => exact .refl tree _
  | some parent =>
    rw [Option.toList_some, List.flatMap_cons, List.flatMap_nil, List.append_nil]
    exact Tree.addsFolders_makeFolders tree parent

end Calculator.History
