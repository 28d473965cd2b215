/-!
Texts measured and cut in bytes of UTF-8. No cut goes through a character.
-/

namespace Calculator.Text

def utf8Length : List Char → Nat
  | [] => 0
  | c :: cs => c.utf8Size + utf8Length cs

/-- The first bytes of a text and the rest of it; none if a character would be torn. -/
def splitBytes : List Char → Nat → Option (List Char × List Char)
  | cs, 0 => some ([], cs)
  | [], _ + 1 => none
  | c :: cs, n + 1 =>
    if c.utf8Size ≤ n + 1 then
      (splitBytes cs (n + 1 - c.utf8Size)).map fun (first, rest) => (c :: first, rest)
    else none

/-- The bytes of a text from one place to another. -/
def cutBytes (cs : List Char) (start stop : Nat) : Option (List Char) := do
  let (_, rest) ← splitBytes cs start
  let (cut, _) ← splitBytes rest (stop - start)
  return cut

end Calculator.Text
