import Calculator.Files.Error
import Calculator.Files.Path

/-!
A tree of files, and what the operating system does with it. Paths start at the root or at the working
directory. A name in the tree is reached through folders only.
-/

namespace Calculator.Files

/-- The names on the way from the root. -/
abbrev Location := List String

inductive Item where
  | file (content : ByteArray)
  | folder
deriving BEq

def Item.isFolder : Item → Bool
  | file _ => false
  | folder => true

structure Tree where
  items : List (Location × Item) := []
  /-- The working directory. It and the folders above it are not among the items. -/
  home : Location := []
  /-- Whether the working directory itself has been deleted. Then nothing can be in it. -/
  gone : Bool := false

/-- A value or an error, and the tree in either case. -/
abbrev Outcome (α : Type) := Except FileError α × Tree

/-- The last step of a path, once all before it are taken. -/
inductive LastStep where
  /-- The folder that has been reached, or the one above it. -/
  | folder (location : Location)
  /-- A name in a folder, which may have to be a folder's. -/
  | name (folder : Location) (name : String) (slash : Bool)
deriving DecidableEq, Repr

namespace Tree

/-- The longest name and the longest path in bytes. -/
def maxNameBytes : Nat := 255
def maxPathBytes : Nat := 4095

/-- Whether nothing can be at a location. -/
def barred (tree : Tree) (location : Location) : Bool :=
  tree.gone && tree.home.isPrefixOf location

def get? (tree : Tree) (location : Location) : Option Item :=
  if location.isPrefixOf tree.home then some .folder
  else if tree.barred location then none
  else tree.items.lookup location

/-- Puts an item in its place, which nothing keeps twice. -/
def put (tree : Tree) (location : Location) (item : Item) : Tree :=
  { tree with items := (location, item) :: tree.items.filter (·.1 ≠ location) }

def erase (tree : Tree) (location : Location) : Tree :=
  { tree with items := tree.items.filter (·.1 ≠ location) }

/-- Looks up a name in a folder. -/
def child? (tree : Tree) (folder : Location) (name : String) : Except FileError (Option Item) :=
  if maxNameBytes < name.utf8ByteSize then .error .nameTooLong
  else .ok (tree.get? (folder ++ [name]))

/-- Goes from a folder to the next. -/
def enter (tree : Tree) (folder : Location) (step : String) : Except FileError Location :=
  if step = "." then .ok folder
  else if step = ".." then .ok folder.dropLast
  else
    match tree.child? folder step with
    | .error e => .error e
    | .ok none => .error .notFound
    | .ok (some (.file _)) => .error .notFolder
    | .ok (some .folder) => .ok (folder ++ [step])

/-- Where a path starts. -/
def start (tree : Tree) (path : String) : Location :=
  if Path.isRooted path then [] else tree.home

/-- Takes all steps of a path but the last. -/
def approach (tree : Tree) (path : String) : Except FileError LastStep :=
  if path.toList.contains '\x00' then .error .nulInName
  else if path = "" then .error .notFound
  else if maxPathBytes < path.utf8ByteSize then .error .nameTooLong
  else
    let steps := Path.steps path
    match steps.dropLast.foldlM tree.enter (tree.start path), steps.getLast? with
    | .error e, _ => .error e
    | .ok folder, none => .ok (.folder folder)
    | .ok folder, some step =>
      if step = "." then .ok (.folder folder)
      else if step = ".." then .ok (.folder folder.dropLast)
      else .ok (.name folder step (Path.endsInSlash path))

/-- What is at a path. -/
def find (tree : Tree) (path : String) : Except FileError Item :=
  match tree.approach path with
  | .error e => .error e
  | .ok (.folder _) => .ok .folder
  | .ok (.name folder name slash) =>
    match tree.child? folder name with
    | .error e => .error e
    | .ok none => .error .notFound
    | .ok (some (.file content)) => if slash then .error .notFolder else .ok (.file content)
    | .ok (some .folder) => .ok .folder

def exists? (tree : Tree) (path : String) : Bool := (tree.find path).toBool

def isFolder (tree : Tree) (path : String) : Bool :=
  match tree.find path with
  | .ok .folder => true
  | _ => false

/-- The text of a file. -/
def readText (tree : Tree) (path : String) : Except FileError String :=
  match tree.find path with
  | .error e => .error e
  | .ok .folder => .error .isFolder
  | .ok (.file content) =>
    match String.fromUTF8? content with
    | some text => .ok text
    | none => .error .notText

/-- Writes a whole file, new or not. -/
def write (tree : Tree) (path : String) (content : ByteArray) : Outcome Unit :=
  match tree.approach path with
  | .error e => (.error e, tree)
  | .ok (.folder _) => (.error .isFolder, tree)
  | .ok (.name folder name slash) =>
    if slash then (.error .isFolder, tree)
    else
      match tree.child? folder name with
      | .error e => (.error e, tree)
      | .ok (some .folder) => (.error .isFolder, tree)
      | .ok _ =>
        if tree.barred (folder ++ [name]) then (.error .notFound, tree)
        else (.ok (), tree.put (folder ++ [name]) (.file content))

/-- Makes one folder. -/
def makeFolder (tree : Tree) (path : String) : Outcome Unit :=
  match tree.approach path with
  | .error e => (.error e, tree)
  | .ok (.folder _) => (.error .alreadyThere, tree)
  | .ok (.name folder name _) =>
    match tree.child? folder name with
    | .error e => (.error e, tree)
    | .ok (some _) => (.error .alreadyThere, tree)
    | .ok none =>
      if tree.barred (folder ++ [name]) then (.error .notFound, tree)
      else (.ok (), tree.put (folder ++ [name]) .folder)

/-- An error in making a folder that is there all the same is none. -/
def forgive (path : String) : Outcome Unit → Outcome Unit
  | (.error e, tree) => if tree.isFolder path then (.ok (), tree) else (.error e, tree)
  | done => done

/-- Makes a folder; where its parent is missing, first the parent, the next of `parents`. -/
def makeFolderIn (tree : Tree) (path : String) : List String → Outcome Unit
  | [] => forgive path (tree.makeFolder path)
  | parent :: parents =>
    match tree.makeFolder path with
    | (.error (.system 2), tree) =>
      match tree.makeFolderIn parent parents with
      | (.ok (), tree) => forgive path (tree.makeFolder path)
      | failed => failed
    | outcome => forgive path outcome

/-- Makes a folder and all folders on the way to it that are missing. -/
def makeFolders (tree : Tree) (path : String) : Outcome Unit :=
  if path = "" then (.ok (), tree) else tree.makeFolderIn path (Path.ancestors path)

/-- Gives a file another path, in place of a file that may be there. -/
def rename (tree : Tree) (source target : String) : Outcome Unit :=
  match tree.approach source, tree.approach target with
  | .error e, _ => (.error e, tree)
  | _, .error e => (.error e, tree)
  | .ok (.folder _), _ => (.error .busy, tree)
  | _, .ok (.folder _) => (.error .busy, tree)
  | .ok (.name folder name _), .ok (.name newFolder newName slash) =>
    match tree.child? folder name, tree.child? newFolder newName with
    | .error e, _ => (.error e, tree)
    | .ok none, _ => (.error .notFound, tree)
    | _, .error e => (.error e, tree)
    | .ok (some .folder), _ => (.error .isFolder, tree)
    | .ok (some (.file content)), .ok there =>
      if tree.barred (newFolder ++ [newName]) then (.error .notFound, tree)
      else if slash then (.error .notFolder, tree)
      else if there.any Item.isFolder then (.error .isFolder, tree)
      else (.ok (), (tree.erase (folder ++ [name])).put (newFolder ++ [newName]) (.file content))

/-- Removes a file. -/
def remove (tree : Tree) (path : String) : Outcome Unit :=
  match tree.approach path with
  | .error e => (.error e, tree)
  | .ok (.folder _) => (.error .isFolder, tree)
  | .ok (.name folder name _) =>
    match tree.child? folder name with
    | .error e => (.error e, tree)
    | .ok none => (.error .notFound, tree)
    | .ok (some .folder) => (.error .isFolder, tree)
    | .ok (some (.file _)) => (.ok (), tree.erase (folder ++ [name]))

/-- Writes at the end of a file, new or not. -/
def append (tree : Tree) (path : String) (content : ByteArray) : Outcome Unit :=
  match tree.find path with
  | .ok (.file before) => tree.write path (before ++ content)
  | _ => tree.write path content

/-- Deletes the working directory with all that is in it. -/
def removeHome (tree : Tree) : Tree :=
  { tree with items := tree.items.filter (!tree.home.isPrefixOf ·.1), gone := true }

/-- The items below the working directory, with the names on the way from there. -/
def below (tree : Tree) : List (Location × Item) :=
  if tree.gone then []
  else (tree.items.filter (tree.home.isPrefixOf ·.1)).map fun (location, item) =>
    (location.drop tree.home.length, item)

/-- All paths below the working directory in order, folders with a slash at the end. -/
def listing (tree : Tree) : List String :=
  (tree.below.map fun (location, item) =>
    "/".intercalate location ++ (if item.isFolder then "/" else "")).mergeSort fun x y => decide (x ≤ y)

@[simp] theorem get?_put_self (tree : Tree) {location : Location} (item : Item)
    (h : location.isPrefixOf tree.home = false) (hb : tree.barred location = false) :
    (tree.put location item).get? location = some item := by
  have hb' : (tree.put location item).barred location = false := hb
  have h' : location.isPrefixOf (tree.put location item).home = false := h
  rw [get?, h', hb']
  simp [put]

end Tree

end Calculator.Files
