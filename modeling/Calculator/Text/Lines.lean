/-!
Lines of a text in bytes. A line ends with a line feed, which is part of it; the last one may lack it.
-/

namespace Calculator.Text

def lineFeed : UInt8 := 10

def byteLines : List UInt8 → List (List UInt8)
  | [] => []
  | b :: bs =>
    if b = lineFeed then [b] :: byteLines bs
    else
      match byteLines bs with
      | [] => [[b]]
      | line :: lines => (b :: line) :: lines

/-- The lines as texts, where they are texts. -/
def lines (content : ByteArray) : List (Option String) :=
  (byteLines content.data.toList).map fun line => String.fromUTF8? ⟨line.toArray⟩

/-- A line without the line feed at its end and a carriage return before that. -/
def withoutEnd (cs : List Char) : List Char :=
  match cs.reverse with
  | '\n' :: '\r' :: rest => rest.reverse
  | '\n' :: rest => rest.reverse
  | _ => cs

end Calculator.Text
