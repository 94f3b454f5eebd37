import DocFilter.Criteria.Operator
import DocFilter.Geo.Shape
import DocFilter.Text.Blank
import DocFilter.Value.Equality

/-!
# Criteria nodes

A node says what must hold of one field, of the document as a whole, or of the documents of other
criteria.  It records operators in the order in which they were first given, each at most once,
and at most one value that the field must equal.
-/

namespace DocFilter

open Geo

/-- What an operator is given. -/
inductive Operand where
  /-- Nothing yet: a negation that waits for the next operator. -/
  | negation
  /-- A value. -/
  | value (v : Value)
  /-- A shape to be near to or to meet. -/
  | shape (s : Shape)
  /-- A shape to be within. -/
  | command (s : Shape)

namespace Operand

/-- Is this a negation that waits for the next operator? -/
def isNegation : Operand → Bool
  | .negation => true
  | _ => false

/-- The operand as a value.  A geometry stands under the key by which operators know it. -/
def render : Operand → Value
  | .negation => .null
  | .value v => v
  | .shape (.geometry g) => .document g.toOperand
  | .command (.geometry g) => .document g.toOperand
  | .shape s => s.toValue
  | .command s => s.toCommand

/-- Equality of operands. -/
def same : Operand → Operand → Bool
  | .negation, .negation => true
  | .value v, .value w => v == w
  | .shape s, .shape t => s == t
  | .command s, .command t => s == t
  | _, _ => false

end Operand

/-- What a node is about. -/
inductive Target where
  /-- The document as a whole. -/
  | root
  /-- A field, given by its path. -/
  | field (key : String)
  /-- The documents of other criteria. -/
  | combinator (c : Combinator)
deriving DecidableEq, Repr

/-- The key under which a node is compiled.  A field whose path is blank has none. -/
def Target.key? : Target → Option String
  | .root => none
  | .field key => if Text.allBlank key then none else some key
  | .combinator c => some c.key

/-- One node of a criteria chain. -/
structure Node where
  /-- What the node is about. -/
  target : Target
  /-- The operators in order. -/
  operators : List (Operator × Operand) := []
  /-- The value that the field must equal, null included. -/
  equality : Option Value := none

namespace Node

/-- The key under which the node is compiled. -/
def key? (n : Node) : Option String :=
  n.target.key?

/-- Records an operator, in its old place if it is recorded already. -/
def put (n : Node) (op : Operator) (o : Operand) : Node :=
  { n with operators := Assoc.put op o n.operators }

/-- The operand of an operator. -/
def operand? (n : Node) (op : Operator) : Option Operand :=
  Assoc.get? op n.operators

/-- Is the last operator a negation that still waits for the next one? -/
def hasDanglingNot (n : Node) : Bool :=
  match n.operators.getLast? with
  | some (.not, .negation) => true
  | _ => false

/-- The node of a combinator over documents. -/
def ofCombinator (c : Combinator) (docs : List Document) : Node :=
  { target := .combinator c, equality := some (.array (docs.map Value.document)) }

/-- The node that holds documents to a schema. -/
def ofSchema (schema : Document) : Node :=
  { target := .root, operators := [(.jsonSchema, .value (.document schema))] }

/-- Equality of recorded operators, in order. -/
def sameOperators : List (Operator × Operand) → List (Operator × Operand) → Bool
  | [], [] => true
  | (op, o) :: xs, (op', o') :: ys => op == op' && o.same o' && sameOperators xs ys
  | _, _ => false

/-- Equality of values that may be absent. -/
def sameEquality : Option Value → Option Value → Bool
  | none, none => true
  | some v, some w => v == w
  | _, _ => false

/-- Equality of nodes.  The order of operators counts, because it decides what is negated. -/
def same (m n : Node) : Bool :=
  m.target == n.target && sameEquality m.equality n.equality &&
    sameOperators m.operators n.operators

end Node

end DocFilter
