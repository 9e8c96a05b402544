namespace Worksheet

inductive Policy where
  | zero
  | reject
deriving DecidableEq, Inhabited

namespace Policy

def name : Policy → String
  | .zero => "zero"
  | .reject => "reject"

def ofName? : String → Option Policy
  | "zero" => some .zero
  | "reject" => some .reject
  | _ => none

theorem ofName?_name (policy : Policy) : ofName? policy.name = some policy := by
  cases policy <;> rfl

end Policy

/-- Why a cell has no value. Both kinds carry the whole text of the cell at fault. -/
inductive Fault where
  | badValue (text : String)
  | badFormula (text : String)
deriving DecidableEq

namespace Fault

def text : Fault → String
  | .badValue text | .badFormula text => text

def message : Fault → String
  | .badValue text => "Invalid value: " ++ text
  | .badFormula text => "Invalid formula: " ++ text

end Fault

end Worksheet
