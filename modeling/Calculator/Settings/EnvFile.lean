import Calculator.Settings.Environment
import Calculator.Text.Alphabetic
import Calculator.Text.Blank
import Calculator.Text.Lines

/-!
Files of environment variables: lines `NAME=value` with quotes, escapes, comments and references to
other variables. A variable that is set already keeps its value, and reading stops without a word at
the first malformed line.
-/

namespace Calculator.Settings.EnvFile

/-- What a reader of lines is inside of. A line goes on after its line end inside quotes and after a
backslash. -/
inductive Inside where
  | nothing
  | afterBlank
  | escape
  | strong
  | strongEscape
  | weak
  | weakEscape
  | comment
deriving DecidableEq, Repr

namespace Inside

/-- After a character outside quotes. -/
def opening (c : Char) : Inside :=
  if c = '\\' then escape
  else if c = '"' then weak
  else if c = '\'' then strong
  else nothing

def next (c : Char) : Inside → Inside
  | nothing => if Text.isBlank c && c != '\n' && c != '\r' then afterBlank else opening c
  | afterBlank => if c = '#' then comment else opening c
  | escape => nothing
  | strong => if c = '\\' then strongEscape else if c = '\'' then nothing else strong
  | strongEscape => strong
  | weak => if c = '\\' then weakEscape else if c = '"' then nothing else weak
  | weakEscape => weak
  | comment => comment

end Inside

/-- The characters of a line before a comment, and what the reader is inside of after them. -/
def scan : Inside → List Char → List Char × Inside
  | inside, [] => ([], inside)
  | inside, c :: cs =>
    if inside.next c = .comment then ([], .comment)
    else
      let (kept, last) := scan (inside.next c) cs
      (c :: kept, last)

/-- Puts lines together that go on after their line ends. What follows a line that is no text, or one
that does not end, is passed over. -/
def wholeLines (before : List Char) (inside : Inside) : List (Option String) → List (List Char)
  | [] => []
  | none :: _ => []
  | some line :: rest =>
    if (Text.trimStart (before ++ line.toList)).head? = some '#' then [] :: wholeLines [] .nothing rest
    else
      match scan inside line.toList with
      | (kept, .comment) => (before ++ kept) :: wholeLines [] .nothing rest
      | (kept, .nothing) => Text.withoutEnd (before ++ kept) :: wholeLines [] .nothing rest
      | (kept, inside) => wholeLines (before ++ kept) inside rest

/-- What the value of a line is read in. -/
inductive Place where
  | text
  | escape
  /-- After a value, where only blanks and a comment may follow. -/
  | after
  | comment
  /-- In the name of a variable, given from its end; in braces or not. -/
  | name (braced : Bool) (reversed : List Char)
deriving DecidableEq, Repr

inductive Quotes where
  | none
  | strong
  | weak
deriving DecidableEq, Repr

/-- A value in the middle of its reading, with what has been read from its end. -/
structure Value where
  reversed : List Char := []
  quotes : Quotes := .none
  place : Place := .text
deriving DecidableEq, Repr

namespace Value

def put (v : Value) (c : Char) : Value := { v with reversed := c :: v.reversed, place := .text }

/-- Puts the value of a variable; one that is not set has an empty value. -/
def putVariable (env : Environment) (v : Value) (name : List Char) : Value :=
  let value := (env.lookUp? (String.ofList name.reverse)).getD ""
  { v with reversed := value.toList.reverse ++ v.reversed, place := .text }

def stepEscape (v : Value) (c : Char) : Option Value :=
  if c = '\\' ∨ c = '\'' ∨ c = '"' ∨ c = '$' ∨ c = ' ' then some (v.put c)
  else if c = 'n' then some (v.put '\n')
  else none

def stepAfter (v : Value) (c : Char) : Option Value :=
  if c = ' ' ∨ c = '\t' then some v
  else if c = '#' then some { v with place := .comment }
  else none

/-- A name without braces ends at the first character that is no letter or digit, and that character
stands for itself, a quote included. -/
def stepName (env : Environment) (v : Value) (braced : Bool) (name : List Char) (c : Char) : Value :=
  if Text.isAlphanumeric c then { v with place := .name braced (c :: name) }
  else if braced then
    if c = '\x7d' then v.putVariable env name else { v with place := .name true (c :: name) }
  else if c = '\x7b' ∧ name.isEmpty then { v with place := .name true [] }
  else if c = '$' then { v.putVariable env name with place := .name false [] }
  else (v.putVariable env name).put c

def stepText (v : Value) (c : Char) : Value :=
  match v.quotes with
  | .strong => if c = '\'' then { v with quotes := .none } else v.put c
  | .weak =>
    if c = '$' then { v with place := .name false [] }
    else if c = '"' then { v with quotes := .none }
    else if c = '\\' then { v with place := .escape }
    else v.put c
  | .none =>
    if c = '$' then { v with place := .name false [] }
    else if c = '\'' then { v with quotes := .strong }
    else if c = '"' then { v with quotes := .weak }
    else if c = '\\' then { v with place := .escape }
    else if c = ' ' ∨ c = '\t' then { v with place := .after }
    else v.put c

def step (env : Environment) (v : Value) (c : Char) : Option Value :=
  match v.place with
  | .comment => some v
  | .after => v.stepAfter c
  | .escape => v.stepEscape c
  | .name braced name => some (v.stepName env braced name c)
  | .text => some (v.stepText c)

/-- The value, if all quotes and braces in it are closed. -/
def finish (env : Environment) (v : Value) : Option String :=
  match v.quotes, v.place with
  | .none, .name true _ => none
  | .none, .name false name => some (String.ofList (v.putVariable env name).reversed.reverse)
  | .none, _ => some (String.ofList v.reversed.reverse)
  | _, _ => none

end Value

def readValue (env : Environment) (cs : List Char) : Option String :=
  (cs.foldlM (Value.step env) {}).bind (Value.finish env)

/-- A line: nothing, or a variable with its value. -/
inductive Line where
  | nothing
  | assignment (name value : String)
deriving DecidableEq, Repr

def isNameChar (c : Char) : Bool := c.isAlphanum || c == '_' || c == '.'

/-- A name, which begins with a letter or an underscore, and the text after it and its blanks. -/
def readName (cs : List Char) : Option (List Char × List Char) :=
  if cs.head?.any (fun c => c.isAlpha || c == '_') then
    some (cs.takeWhile isNameChar, Text.trimStart (cs.dropWhile isNameChar))
  else none

def expectEquals : List Char → Option (List Char)
  | '=' :: cs => some cs
  | _ => none

/-- A name and the text after its equals sign. The word `export` may stand before the name. -/
def readAssigned (cs : List Char) : Option (List Char × List Char) := do
  let (name, rest) ← readName cs
  match expectEquals rest with
  | some value => return (name, value)
  | none =>
    if name = "export".toList then
      let (name, rest) ← readName rest
      return (name, ← expectEquals rest)
    else none

/-- Whether nothing but a comment is left. -/
def isOver (cs : List Char) : Bool := cs.isEmpty || cs.head? == some '#'

def readLine (env : Environment) (cs : List Char) : Option Line := do
  let cs := Text.trimStart (Text.trimEnd cs)
  if isOver cs then return .nothing
  let (name, value) ← readAssigned cs
  let value := Text.trimStart value
  if isOver value then return .assignment (String.ofList name) ""
  return .assignment (String.ofList name) (← readValue env value)

/-- Sets the variables of lines, up to the first malformed one. No variable can be set to a value with
a NUL character. -/
def setAll (env : Environment) : List (List Char) → Option Environment
  | [] => some env
  | line :: rest =>
    match readLine env line with
    | none => some env
    | some .nothing => setAll env rest
    | some (.assignment name value) =>
      if (env.get? name).isNone && value.toList.contains '\x00' then none
      else setAll (env.setDefault name value) rest

/-- A mark of the byte order at the start of a file is no part of it. -/
def withoutMark (content : ByteArray) : ByteArray :=
  if content.data.toList.take 3 = [0xEF, 0xBB, 0xBF] then content.extract 3 content.size else content

/-- The environment with the variables of a file; none if one of them cannot be set. -/
def extend? (env : Environment) (content : ByteArray) : Option Environment :=
  setAll env (wholeLines [] .nothing (Text.lines (withoutMark content)))

end Calculator.Settings.EnvFile
