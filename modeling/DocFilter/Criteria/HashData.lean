import DocFilter.Criteria.Builder
import DocFilter.Geo.HashData

/-!
# Hash data of criteria

Criteria feed their nodes in order, and a node its target, its value to equal and its operators in
order.
-/

namespace DocFilter

/-- The data of an operand. -/
def Operand.hashData : Operand → HashData
  | .negation => [.tag 0]
  | .value v => .tag 1 :: v.hashData
  | .shape s => .tag 2 :: s.hashData
  | .command s => .tag 3 :: s.hashData

/-- The data of a target. -/
def Target.hashData : Target → HashData
  | .root => [.tag 0]
  | .field key => [.tag 1, .text key]
  | .combinator c => [.tag 2, .tag c.index]

namespace Node

/-- The data of a value that may be absent. -/
def equalityData : Option Value → HashData
  | none => [.tag 0]
  | some v => .tag 1 :: v.hashData

/-- The data of a node. -/
def hashData (n : Node) : HashData :=
  n.target.hashData ++ equalityData n.equality ++
    HashData.ofList (n.operators.map fun e => .tag e.1.index :: e.2.hashData)

end Node

/-- The data of criteria. -/
def Criteria.hashData (c : Criteria) : HashData :=
  HashData.ofList (c.chain.map Node.hashData)

end DocFilter
