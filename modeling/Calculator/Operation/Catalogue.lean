import Calculator.Operation.Standard
import Calculator.Register
import Calculator.Text.Blank

/-!
The catalogue of operations by name. What is filed is how an operation is made; making it may end in
a fault, and then there is none.
-/

namespace Calculator.Operation

/-- How an operation is made. -/
abbrev Maker := Except Fault Operation

structure Catalogue where
  makers : Register Maker := {}

namespace Catalogue

/-- Files a maker under a name, and refuses a blank name. -/
def add? (catalogue : Catalogue) (name : String) (maker : Maker) : Option Catalogue :=
  if Text.isBlankName name then none else some ⟨catalogue.makers.insert name maker⟩

def create? (catalogue : Catalogue) (name : String) : Option Operation :=
  (catalogue.makers.get? name).bind Except.toOption

def contains (catalogue : Catalogue) (name : String) : Bool := catalogue.makers.contains name

def names (catalogue : Catalogue) : List String := catalogue.makers.names

/-- Files standard operations under their own names. -/
def addStandard (catalogue : Catalogue) (kinds : List Standard) : Catalogue :=
  ⟨kinds.foldl (fun makers kind => makers.insert kind.name (.ok kind.operation)) catalogue.makers⟩

/-- All seven standard operations. -/
def standard : Catalogue := addStandard {} Standard.all

end Catalogue

end Calculator.Operation
