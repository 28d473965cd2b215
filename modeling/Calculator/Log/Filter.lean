import Calculator.Log.Rule

/-!
Filters: which notes a log takes. A filter is written as rules between commas. A note is taken if the
narrowest rule that is about it takes its level, or a rule of a run that it was made in.
-/

namespace Calculator.Log

structure Filter where
  rules : List Rule
deriving DecidableEq, Repr

namespace Filter

/-- The texts of the rules in a filter. -/
def pieces (text : String) : List (List Char) :=
  (Text.splitAll (· == ',') text.toList).filter (!·.isEmpty)

/-- Reads a filter all of whose rules can be read. -/
def read (text : String) : Except RuleError Filter := do
  return ⟨← (pieces text).mapM Rule.read⟩

/-- What is filtered by if there is no rule. -/
def errorsOnly : Rule := { rank := Level.error.rank }

def ofRules (rules : List Rule) : Filter := ⟨if rules.isEmpty then [errorsOnly] else rules⟩

/-- The rule in a text; none if it is malformed. -/
def ruleIn (text : List Char) : Except RuleError (Option Rule) :=
  match Rule.read text with
  | .ok rule => .ok (some rule)
  | .error .malformed => .ok none
  | .error .torn => .error .torn

/-- Reads a filter without its malformed rules. -/
def readSome (text : String) : Except RuleError Filter := do
  return ofRules ((← (pieces text).mapM ruleIn).filterMap id)

def level (level : Level) : Filter := ⟨[{ rank := level.rank }]⟩

/-- The rules of notes. -/
def ofNotes (filter : Filter) : List Rule := filter.rules.filter Rule.isOfNotes

/-- The rules of runs. -/
def ofRuns (filter : Filter) : List Rule := filter.rules.filter Rule.isOfRuns

/-- The rank of the least severe level that one of some rules takes. -/
def reach (rules : List Rule) : Nat := rules.foldl (fun rank rule => max rank rule.rank) 0

/-- How much can be taken at all. What values will be is not known beforehand. -/
def limit (filter : Filter) : Nat :=
  if filter.ofRuns.any Rule.hasWanted then Level.trace.rank
  else max (reach filter.ofNotes) (reach filter.ofRuns)

/-- The rules that no later rule takes the place of. -/
def latest : List Rule → List Rule
  | [] => []
  | rule :: rules => if rules.any rule.hasSameRuns then latest rules else rule :: latest rules

/-- How much is taken in a run. A run is only known within the limit. -/
def rankIn (filter : Filter) (run : Run) : Nat :=
  if Run.level.rank ≤ filter.limit then reach ((latest filter.ofRuns).filter (·.holdsIn run)) else 0

/-- The narrowest rule about a note. Of two that are equally narrow the later counts. -/
def decider? (filter : Filter) (note : Note) : Option Rule :=
  (filter.ofNotes.filter (·.isAbout note)).foldl
    (fun best rule =>
      match best with
      | some old => if (old.compareNarrowness rule).isGT then best else some rule
      | none => some rule)
    none

def takes (filter : Filter) (note : Note) : Bool :=
  note.level.rank ≤ (filter.decider? note).elim 0 Rule.rank ||
    (note.level.rank ≤ filter.limit &&
      note.runs.any fun run => note.level.rank ≤ filter.rankIn run)

end Filter

end Calculator.Log
