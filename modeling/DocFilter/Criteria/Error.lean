import DocFilter.Criteria.Operator
import DocFilter.Text.Base64
import DocFilter.Value.Wire

/-!
# Criteria errors

Why a call of the criteria builder is refused, or why criteria do not compile.
-/

namespace DocFilter
namespace Criteria

/-- Why a call is refused or compilation fails. -/
inductive Error where
  /-- The node has a value to equal already. -/
  | equalityTaken
  /-- A pending negation cannot apply to a value to equal. -/
  | equalityNegated
  /-- The second of several candidates is an array. -/
  | ambiguousArgument (op : Operator)
  /-- A mask given as text is blank. -/
  | blankMask
  /-- A mask given as text is not Base64. -/
  | undecodableMask (mask : String) (cause : Text.Base64.DecodeError)
  /-- A bit position is missing. -/
  | missingPosition (index : Nat)
  /-- A bit position is too large. -/
  | positionOutOfRange (position : UInt32)
  /-- Two nodes compile to the same key. -/
  | duplicateKey (key : String) (existing value : Value)
  /-- A field follows a pending negation. -/
  | negatedField (key : String)
  /-- A node that compiles to a document follows a pending negation. -/
  | negatedElement (document : Document)
  /-- A regular expression does not compile. -/
  | pattern (e : Pattern.Error)

namespace Error

/-- The wording of an error. -/
def message : Error → String
  | .equalityTaken =>
      "conflicting assignment: multiple 'is' values declared; use 'and' with multiple criteria"
  | .equalityNegated =>
      "conflicting assignment: 'not' can't be used with 'is'; use 'not_equal' instead"
  | .ambiguousArgument op =>
      "ambiguous argument for " ++ op.key ++
        ": only a single collection argument may be passed"
  | .blankMask => "invalid bitmask: bitmask string must not be blank"
  | .undecodableMask mask cause =>
      "invalid bitmask: bitmask '" ++ mask ++ "' is not valid base64: " ++ cause.message
  | .missingPosition index =>
      "invalid bitmask: bit position at index " ++ toString index ++ " is missing"
  | .positionOutOfRange position =>
      "invalid bitmask: bit position " ++ toString position.toNat ++ " is out of range"
  | .duplicateKey key existing value =>
      "cannot add a second '" ++ key ++ "' expression specified as '" ++ key ++ " : " ++
        value.render ++ "'; criteria already contains '" ++ key ++ " : " ++ existing.render ++ "'"
  | .negatedField key =>
      "illegal nesting: operator $not is not allowed around chain element '" ++ key ++ "'"
  | .negatedElement document =>
      "illegal nesting: operator $not is not allowed around criteria chain element: " ++
        document.render
  | .pattern e => e.message

end Error

end Criteria
end DocFilter
