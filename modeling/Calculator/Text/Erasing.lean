import Calculator.Text.Bytes
import Calculator.Text.Cluster

/-!
Typed lines: a backspace takes back the cluster before it.
-/

namespace Calculator.Text

def backspace : Char := '\x08'

/-- What has been typed, from its end, and the sizes of its clusters, the latest first. -/
structure Typed where
  reversed : List Char := []
  sizes : List Nat := []

namespace Typed

def put (typed : Typed) (cluster : List Char) : Typed :=
  ⟨cluster.reverse ++ typed.reversed, utf8Length cluster :: typed.sizes⟩

/-- Takes the latest cluster back. Its size is kept in one byte. -/
def takeBack (typed : Typed) : Option Typed :=
  match typed.sizes with
  | [] => some typed
  | size :: sizes => (splitBytes typed.reversed (size % 256)).map fun (_, rest) => ⟨rest, sizes⟩

def type (typed : Typed) (cluster : List Char) : Option Typed :=
  if cluster = [backspace] then typed.takeBack else some (typed.put cluster)

end Typed

/-- The text that is left of a typed line; none if a character would be torn. -/
def erased (cs : List Char) : Option (List Char) :=
  if cs.contains backspace then
    ((clusters cs).foldlM Typed.type {}).map fun typed => typed.reversed.reverse
  else some cs

end Calculator.Text
