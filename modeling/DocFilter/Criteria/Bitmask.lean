import DocFilter.Criteria.Error
import DocFilter.Text.Blank

/-!
# Bit masks

A mask is a number, a byte string in Base64, or a list of bit positions.  A mask in Base64 may
have blank characters around it; a list may lack positions, which is refused when it is used.
-/

namespace DocFilter

open Text

/-- Which bits to test. -/
inductive Bitmask where
  | numeric (mask : Int64)
  | encoded (mask : String)
  | positions (ps : List (Option UInt32))
deriving Repr

namespace Bitmask

/-- The bytes of a text in UTF-8. -/
def utf8Bytes (s : String) : List UInt8 :=
  s.toUTF8.toList

/-- The byte string that a text in Base64 encodes. -/
def decodeText (mask : String) : Except Criteria.Error Value :=
  let trimmed := trim mask
  if trimmed.isEmpty then .error .blankMask
  else
    match Base64.decode (utf8Bytes trimmed) with
    | .ok bytes => .ok (.binary bytes)
    | .error e => .error (.undecodableMask trimmed e)

/-- The positions as values, counted from an index.  The first fault is reported. -/
def positionValues (index : Nat) : List (Option UInt32) → Except Criteria.Error (List Value)
  | [] => .ok []
  | none :: _ => .error (.missingPosition index)
  | some p :: rest =>
      if p.toNat < 2147483648 then do
        let vs ← positionValues (index + 1) rest
        return .int32 (Int32.ofNat p.toNat) :: vs
      else .error (.positionOutOfRange p)

/-- The mask as a value. -/
def toValue : Bitmask → Except Criteria.Error Value
  | .numeric mask => .ok (.int64 mask)
  | .encoded mask => decodeText mask
  | .positions ps => do
      let vs ← positionValues 0 ps
      return .array vs

end Bitmask

end DocFilter
