import DocFilter.Value.Document

/-!
# Equality of values

Values are equal if they have the same type and the same content.  Documents are equal if they
have the same number of entries and every entry of one has an equal value in the other, whatever
the order.  Numbers of different types differ, and floating point numbers are compared by bits.
-/

namespace DocFilter

mutual

/-- Equality of values. -/
def Value.same : Value → Value → Bool
  | .null, .null => true
  | .bool a, .bool b => a == b
  | .int32 a, .int32 b => a == b
  | .int64 a, .int64 b => a == b
  | .double a, .double b => decide (a = b)
  | .string a, .string b => a == b
  | .binary a, .binary b => a == b
  | .regex a, .regex b => a == b
  | .array a, .array b => Value.sameItems a b
  | .document a, .document b => Document.same a b
  | _, _ => false

/-- Equality of documents. -/
def Document.same : Document → Document → Bool
  | ⟨a⟩, ⟨b⟩ => a.length == b.length && Document.hasEntries a b

/-- Equality of lists, item by item. -/
def Value.sameItems : List Value → List Value → Bool
  | [], [] => true
  | v :: vs, w :: ws => Value.same v w && Value.sameItems vs ws
  | _, _ => false

/-- Does every entry of the first list have a partner with its key and an equal value in the
second? -/
def Document.hasEntries : List (String × Value) → List (String × Value) → Bool
  | [], _ => true
  | (k, v) :: rest, ys =>
      (match Assoc.get? k ys with
        | some w => Value.same v w
        | none => false) && Document.hasEntries rest ys

end

instance : BEq Value := ⟨Value.same⟩

instance : BEq Document := ⟨Document.same⟩

end DocFilter
