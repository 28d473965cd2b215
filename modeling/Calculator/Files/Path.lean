import Calculator.Text.Blank

/-!
Paths as text: their names, their parents, and the sibling that a file is first written to.
-/

namespace Calculator.Files.Path

/-- The pieces of a path between slashes, empty ones included. -/
def pieces (path : String) : List String :=
  (Text.splitAll (· == '/') path.toList).map String.ofList

/-- The names in a path, with `.` and `..` among them. -/
def steps (path : String) : List String := (pieces path).filter (· ≠ "")

def isRooted (path : String) : Bool := path.toList.head? == some '/'

def endsInSlash (path : String) : Bool := path.toList.getLast? == some '/'

/-- The names that count: a `.` counts only where an unrooted path begins with it. -/
def names (path : String) : List String :=
  match isRooted path, steps path with
  | false, "." :: rest => "." :: rest.filter (· ≠ ".")
  | _, all => all.filter (· ≠ ".")

/-- The path of some names. -/
def ofNames (rooted : Bool) (names : List String) : String :=
  (if rooted then "/" else "") ++ "/".intercalate names

/-- A path without its last name; none if it has no name. -/
def parent? (path : String) : Option String :=
  match names path with
  | [] => none
  | all => some (ofNames (isRooted path) all.dropLast)

/-- The parent, its parent and so on, without the empty path. -/
def ancestors (path : String) : List String :=
  let all := names path
  ((List.range all.length).reverse.map fun n => ofNames (isRooted path) (all.take n)).filter (· ≠ "")

/-- A path seen from a folder. -/
def join (folder path : String) : String :=
  if isRooted path ∨ folder = "" then path
  else if endsInSlash folder then folder ++ path
  else folder ++ "/" ++ path

/-- What stands before the last name, and the name, if it is one of a file. -/
def fileName? (path : String) : Option (String × String) :=
  match (pieces path).reverse.dropWhile fun piece => piece == "" || piece == "." with
  | [] => none
  | name :: before =>
    if name = ".." then none
    else some (if before.isEmpty then "" else "/".intercalate before.reverse ++ "/", name)

/-- A name without its last extension, and that extension. A point at the very start begins none. -/
def splitExtension (name : String) : String × Option String :=
  let cs := name.toList.reverse
  match cs.dropWhile (· != '.') with
  | _ :: c :: rest =>
    (String.ofList (c :: rest).reverse, some (String.ofList (cs.takeWhile (· != '.')).reverse))
  | _ => (name, none)

/-- The path with another extension. One without a file name is left as it is. Where taking off the
old extension leaves two points, the path of the parent is left. -/
def withExtension (path extension : String) : String :=
  match fileName? path with
  | none => path
  | some (before, name) =>
    let (stem, old) := splitExtension name
    if stem = "." ∧ old.isSome ∧ before ++ name = path then before ++ ".."
    else before ++ stem ++ "." ++ extension

end Calculator.Files.Path
