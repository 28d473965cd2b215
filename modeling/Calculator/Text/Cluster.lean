import Calculator.Text.Joining

/-!
Clusters of characters: a character with its marks, a flag, a syllable, a pictograph made of others.
Between two characters the text is cut unless a rule joins them.
-/

namespace Calculator.Text

/-- What the rules ask about the text before a place. -/
structure Preceding where
  last : Joining
  /-- Whether it ends in an odd number of halves of flags. -/
  oddRegional : Bool := false
  /-- Whether it ends in a pictograph with marks. -/
  pictograph : Bool := false
  /-- Whether it ends in a pictograph with marks and a joiner. -/
  joined : Bool := false
  /-- Whether it ends in a consonant with marks, and if so whether one of them links. -/
  conjunct : Option Bool := none

namespace Preceding

def conjunctAfter (before : Option Bool) : Joining → Option Bool
  | .consonant => some false
  | .linking => before.map fun _ => true
  | .extending | .joiner => before
  | _ => none

def start (j : Joining) : Preceding where
  last := j
  oddRegional := j = .regional
  pictograph := j = .pictographic
  conjunct := conjunctAfter none j

/-- The text with one more character. -/
def append (p : Preceding) (j : Joining) : Preceding where
  last := j
  oddRegional := j = .regional && !p.oddRegional
  pictograph :=
    j = .pictographic || (p.pictograph && (j = .extending || j = .linking || j = .nonJoiner))
  joined := p.pictograph && j = .joiner
  conjunct := conjunctAfter p.conjunct j

/-- Whether the next character belongs to the cluster before it. -/
def joins (p : Preceding) (next : Joining) : Bool :=
  match p.last, next with
  | .carriageReturn, .lineFeed => true
  | .carriageReturn, _ | .lineFeed, _ | .control, _ => false
  | _, .carriageReturn | _, .lineFeed | _, .control => false
  | .leadJamo, .leadJamo | .leadJamo, .vowelJamo => true
  | .leadJamo, .openSyllable | .leadJamo, .closedSyllable => true
  | .openSyllable, .vowelJamo | .vowelJamo, .vowelJamo => true
  | .openSyllable, .tailJamo | .vowelJamo, .tailJamo => true
  | .closedSyllable, .tailJamo | .tailJamo, .tailJamo => true
  | _, .extending | _, .linking | _, .nonJoiner | _, .joiner | _, .trailing => true
  | .leading, _ => true
  | _, .consonant => p.conjunct = some true
  | _, .pictographic => p.joined
  | _, .regional => p.oddRegional
  | _, _ => false

end Preceding

/-- The clusters of a text that goes on after a cluster, given from its end. -/
def clustersFrom (before : Preceding) (cluster : List Char) : List Char → List (List Char)
  | [] => [cluster.reverse]
  | c :: cs =>
    let next := before.append (.ofChar c)
    if before.joins (.ofChar c) then clustersFrom next (c :: cluster) cs
    else cluster.reverse :: clustersFrom next [c] cs

/-- The clusters of a text. -/
def clusters : List Char → List (List Char)
  | [] => []
  | c :: cs => clustersFrom (.start (.ofChar c)) [c] cs

end Calculator.Text
