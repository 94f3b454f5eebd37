import DocFilter.Criteria.Error

/-!
# Accepted and refused results

Calls and compilations give a result or are refused, and go on with the results
of others.  The first part takes such steps apart: an accepted result comes
from accepted steps.

The second part compares two results.  They *agree* if both are accepted and
related, or if both are refused for the same kind of reason.
-/

namespace DocFilter
namespace Criteria

section Steps

variable {ε α β : Type} {x : Except ε α}

/-- A step after another is accepted only if both are. -/
theorem exists_of_bind_eq_ok {f : α → Except ε β} {b : β} (h : x >>= f = .ok b) :
    ∃ a, x = .ok a ∧ f a = .ok b := by
  cases x with
  | error e =>
      cases h
  | ok a =>
      exact ⟨a, rfl, h⟩

theorem exists_of_map_eq_ok {f : α → β} {b : β} (h : x.map f = .ok b) :
    ∃ a, x = .ok a ∧ f a = b := by
  cases x with
  | error e =>
      cases h
  | ok a =>
      exact ⟨a, rfl, Except.ok.inj h⟩

/-- A step after another is refused for the reason of the first that is. -/
theorem bind_eq_error_iff {f : α → Except ε β} {e : ε} :
    x >>= f = .error e ↔ x = .error e ∨ ∃ a, x = .ok a ∧ f a = .error e := by
  cases x with
  | error e' =>
      simp [bind, Except.bind]
  | ok a =>
      simp [bind, Except.bind]

end Steps

section Agreement

/-- The kind of an error, as callers tell them apart: what two nodes collide at and what is wrong
with a pattern belong to it, wordings and renderings do not. -/
inductive Error.Kind where
  | conflictingAssignment
  | ambiguousArgument
  | invalidBitmask
  | duplicateKey (key : String)
  | illegalNesting
  | pattern (e : Pattern.Error)
deriving DecidableEq, Repr

/-- The kind of an error. -/
def Error.kind : Error → Error.Kind
  | .equalityTaken => .conflictingAssignment
  | .equalityNegated => .conflictingAssignment
  | .ambiguousArgument _ => .ambiguousArgument
  | .blankMask => .invalidBitmask
  | .undecodableMask _ _ => .invalidBitmask
  | .missingPosition _ => .invalidBitmask
  | .positionOutOfRange _ => .invalidBitmask
  | .duplicateKey key _ _ => .duplicateKey key
  | .negatedField _ => .illegalNesting
  | .negatedElement _ => .illegalNesting
  | .pattern e => .pattern e

/-- Both results are there and related, or both are refused for the same kind of reason. -/
inductive Agree {α β : Type} (R : α → β → Prop) : Except Error α → Except Error β → Prop
  | ok {x : α} {y : β} (h : R x y) : Agree R (.ok x) (.ok y)
  | error {e f : Error} (h : e.kind = f.kind) : Agree R (.error e) (.error f)

variable {α β γ δ : Type} {R : α → β → Prop} {S : γ → δ → Prop}
variable {x : Except Error α} {y : Except Error β}

theorem Agree.bind (h : Agree R x y) {f : α → Except Error γ} {g : β → Except Error δ}
    (hfg : ∀ a b, R a b → Agree S (f a) (g b)) : Agree S (x >>= f) (y >>= g) := by
  cases h with
  | ok hr =>
      exact hfg _ _ hr
  | error he =>
      exact .error he

theorem Agree.imp {R' : α → β → Prop} (h : Agree R x y) (hR : ∀ a b, R a b → R' a b) :
    Agree R' x y := by
  cases h with
  | ok hr =>
      exact .ok (hR _ _ hr)
  | error he =>
      exact .error he

end Agreement

end Criteria

end DocFilter
