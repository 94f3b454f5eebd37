import DocFilter.Criteria.Error
import DocFilter.Criteria.Node

/-!
# Compiling nodes

A node compiles to a document.  Its operators are taken in order; a pending negation wraps the
next operator, and a negation that is still pending at the end wraps all of them.  If the node has
a key and a value to equal, the value stands under the key and the operators beside it; if it has
a key only, the operators stand under the key.

A chain of nodes compiles to the entries of all of them, which must have distinct keys.
-/

namespace DocFilter

namespace Node

/-- The document of recorded operators, added to those already compiled. -/
def compileOperators (doc : Document) (negated : Bool) :
    List (Operator × Operand) → Document
  | [] => if negated then .single Operator.not.key (.document doc) else doc
  | (op, o) :: rest =>
      if negated then
        compileOperators
          (doc.insert Operator.not.key (.document (.single op.key o.render))) false rest
      else if op = .not ∧ o.isNegation then compileOperators doc true rest
      else compileOperators (doc.insert op.key o.render) false rest

/-- The document of the operators of a node. -/
def operatorDocument (n : Node) : Document :=
  compileOperators .empty false n.operators

/-- The document that a node compiles to. -/
def compile (n : Node) : Document :=
  match n.key? with
  | none => n.operatorDocument
  | some key =>
      match n.equality with
      | some v => (Document.single key v).insertAll n.operatorDocument
      | none => .single key (.document n.operatorDocument)

end Node

namespace Criteria

/-- Adds entries to a document that must not have their keys yet. -/
def mergeEntries (doc : Document) : List (String × Value) → Except Error Document
  | [] => .ok doc
  | (key, v) :: rest =>
      match doc.get? key with
      | some existing => .error (.duplicateKey key existing v)
      | none => mergeEntries (doc.insert key v) rest

/-- Adds the entries of nodes to a document, one node after the other. -/
def mergeNodes (doc : Document) : List Node → Except Error Document
  | [] => .ok doc
  | n :: ns => do
      let doc ← mergeEntries doc n.compile.entries
      mergeNodes doc ns

/-- The document of a chain of nodes.  A single node cannot collide with another. -/
def compileChain : List Node → Except Error Document
  | [n] => .ok n.compile
  | ns => mergeNodes .empty ns

end Criteria

end DocFilter
