import DocFilter.Criteria.Bitmask
import DocFilter.Criteria.Compile

/-!
# The criteria builder

Criteria are a chain of nodes with one of them active: operators are recorded on the active node.
Starting on another field appends a node and makes it active; combinators and schemas append a
node and leave the active one.  The builder keeps the nodes before the active one, the active one
and those behind it.

A call is refused before it changes anything, so a refused call has no effect.  Criteria are equal
if their chains are; which node is active does not count.
-/

namespace DocFilter

open Number (Binary64)
open Geo

/-- A chain of nodes, one of them active. -/
structure Criteria where
  /-- The nodes before the active one. -/
  before : List Node
  /-- The node that operators are recorded on. -/
  active : Node
  /-- The nodes behind the active one. -/
  after : List Node

namespace Criteria

section Basic

/-- The chain of a single node. -/
def ofNode (n : Node) : Criteria :=
  { before := [], active := n, after := [] }

/-- Criteria about no field. -/
def root : Criteria :=
  ofNode { target := .root }

/-- Criteria about a field. -/
def field (key : String) : Criteria :=
  ofNode { target := .field key }

/-- Criteria that hold documents to a schema. -/
def ofSchema (schema : Document) : Criteria :=
  ofNode (.ofSchema schema)

/-- The nodes in order. -/
def chain (c : Criteria) : List Node :=
  c.before ++ c.active :: c.after

/-- The key of the active node. -/
def key? (c : Criteria) : Option String :=
  c.active.key?

/-- Changes the active node. -/
def modify (c : Criteria) (f : Node → Node) : Criteria :=
  { c with active := f c.active }

/-- Records an operator on the active node. -/
def put (c : Criteria) (op : Operator) (o : Operand) : Criteria :=
  c.modify fun n => n.put op o

/-- The document that the chain compiles to. -/
def compile (c : Criteria) : Except Error Document :=
  compileChain c.chain

/-- Equality of chains, node by node. -/
def sameChain : List Node → List Node → Bool
  | [], [] => true
  | m :: ms, n :: ns => m.same n && sameChain ms ns
  | _, _ => false

instance : BEq Criteria where
  beq c d := sameChain c.chain d.chain

end Basic

section Chaining

/-- Appends a node without making it active. -/
def append (c : Criteria) (n : Node) : Except Error Criteria :=
  if c.active.hasDanglingNot then .error (.negatedElement n.compile)
  else .ok { c with after := c.after ++ [n] }

/-- Appends a node for a field and makes it active. -/
def andField (c : Criteria) (key : String) : Except Error Criteria :=
  if c.active.hasDanglingNot then .error (.negatedField key)
  else .ok { before := c.chain, active := { target := .field key }, after := [] }

/-- Appends a node that holds documents to a schema. -/
def andSchema (c : Criteria) (schema : Document) : Except Error Criteria :=
  c.append (.ofSchema schema)

/-- The documents of several criteria, or the first error among them. -/
def compileAll : List Criteria → Except Error (List Document)
  | [] => .ok []
  | c :: cs => do
      let doc ← c.compile
      let docs ← compileAll cs
      return doc :: docs

/-- Appends a combinator over other criteria. -/
def combine (c : Criteria) (op : Combinator) (cs : List Criteria) : Except Error Criteria := do
  let docs ← compileAll cs
  c.append (.ofCombinator op docs)

end Chaining

section Recording

/-- Requires the field to equal a value. -/
def equals (c : Criteria) (v : Value) : Except Error Criteria :=
  if c.active.equality.isSome then .error .equalityTaken
  else if c.active.hasDanglingNot then .error .equalityNegated
  else .ok (c.modify fun n => { n with equality := some v })

/-- Negates the operator recorded next. -/
def negate (c : Criteria) : Criteria :=
  c.put .not .negation

/-- The candidates that a list of arguments gives.  A single array is the list of candidates
itself; an array in second place is refused. -/
def candidates (op : Operator) : List Value → Except Error (List Value)
  | [.array items] => .ok items
  | v :: w :: rest => if w.isArray then .error (.ambiguousArgument op) else .ok (v :: w :: rest)
  | vs => .ok vs

/-- Compares the field with candidates. -/
def member (c : Criteria) (m : Membership) (vs : List Value) : Except Error Criteria := do
  let items ← candidates m.operator vs
  return c.put m.operator (.value (.array items))

/-- Matches the field against a pattern: the pattern is the value to equal, or the operand of a
pending negation. -/
def matchPattern (c : Criteria) (p : Pattern) : Criteria :=
  c.modify fun n =>
    if n.hasDanglingNot then n.put .not (.value (.regex p))
    else { n with equality := some (.regex p) }

/-- Compiles a pattern and matches the field against it. -/
def matchSource (c : Criteria) (source options : String) : Except Error Criteria :=
  match Pattern.compile source options with
  | .ok p => .ok (c.matchPattern p)
  | .error e => .error (.pattern e)

/-- Requires an element of the field to meet other criteria. -/
def elemMatch (c d : Criteria) : Except Error Criteria := do
  let doc ← d.compile
  return c.put .elemMatch (.value (.document doc))

/-- Tests bits of the field. -/
def testBits (c : Criteria) (t : BitTest) (mask : Bitmask) : Except Error Criteria := do
  let v ← mask.toValue
  return c.put t.operator (.value v)

end Recording

section Distances

/-- The operand of a nearness operator with a bound added, if the operand can carry one: a
geometry can, and so can a document that carries bounds already. -/
def boundedOperand? (b : Bound) (distance : Binary64) : Operand → Option Operand
  | .value (.document doc) =>
      some (.value (.document (doc.insert b.operator.key (.double distance))))
  | .shape (.geometry g) =>
      some (.value (.document (g.toOperand.insert b.operator.key (.double distance))))
  | _ => none

/-- Adds a bound to a nearness operator of a node. -/
def boundOn? (n : Node) (op : Operator) (b : Bound) (distance : Binary64) : Option Node := do
  let o ← n.operand? op
  let o ← boundedOperand? b distance o
  return n.put op o

/-- Bounds the distance of the active node's nearness operator, or records the bound by itself if
none can carry it. -/
def bound (c : Criteria) (b : Bound) (distance : Binary64) : Criteria :=
  c.modify fun n =>
    match boundOn? n .near b distance with
    | some n => n
    | none =>
        match boundOn? n .nearSphere b distance with
        | some n => n
        | none => n.put b.operator (.value (.double distance))

end Distances

end Criteria

end DocFilter
