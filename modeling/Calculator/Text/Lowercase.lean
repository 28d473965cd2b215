import Calculator.Text.Casing

/-!
The lowercase of a text. Each character is lowered by itself but the capital sigma, which has another
lowercase at the end of a word.
-/

namespace Calculator.Text

/-- Whether the nearest character that is not passed over has a case. -/
def nextIsCased (cs : List Char) : Bool :=
  match cs.dropWhile isCaseIgnorable with
  | [] => false
  | c :: _ => isCased c

/-- The lowercase of a sigma: a final one follows a cased character and none follows it. -/
def lowerSigma (before after : List Char) : Char :=
  if nextIsCased before && !nextIsCased after then '\u03C2' else '\u03C3'

/-- Lowers a text that follows `before`, given with the nearest character first. -/
def lowerAfter : List Char → List Char → List Char
  | _, [] => []
  | before, c :: cs =>
    (if c = '\u03A3' then [lowerSigma before cs] else lowerChar c) ++ lowerAfter (c :: before) cs

def lower (cs : List Char) : List Char := lowerAfter [] cs

def lowercase (s : String) : String := String.ofList (lower s.toList)

/-- Letters of the ASCII range in upper case, all else unchanged. -/
def asciiUpper (s : String) : String := String.ofList (s.toList.map Char.toUpper)

/-- Whether two texts differ at most in the case of ASCII letters. -/
def sameLetters (s t : String) : Bool := asciiUpper s == asciiUpper t

end Calculator.Text
