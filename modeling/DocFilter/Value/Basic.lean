import DocFilter.Assoc
import DocFilter.Number.Binary64
import DocFilter.Pattern.Basic
import DocFilter.Value.TypeAlias

/-!
# Values and documents

A document lists its entries in order, each a key with a value, and a value may hold further
documents.  Every document that the operations of this library build has distinct keys.
-/

namespace DocFilter

open Number (Binary64)

mutual

/-- A value in a document. -/
inductive Value where
  /-- The null value. -/
  | null
  /-- A truth value. -/
  | bool (b : Bool)
  /-- An integer of 32 bits. -/
  | int32 (n : Int32)
  /-- An integer of 64 bits. -/
  | int64 (n : Int64)
  /-- A floating point number. -/
  | double (x : Binary64)
  /-- A text. -/
  | string (s : String)
  /-- A byte string. -/
  | binary (bytes : List UInt8)
  /-- A regular expression. -/
  | regex (p : Pattern)
  /-- Values in order. -/
  | array (items : List Value)
  /-- A nested document. -/
  | document (d : Document)

/-- Keys with values, in order. -/
structure Document where
  /-- The entries, first to last. -/
  entries : List (String × Value)

end

namespace Value

/-- Is the value null? -/
def isNull : Value → Bool
  | .null => true
  | _ => false

/-- Is the value an array? -/
def isArray : Value → Bool
  | .array _ => true
  | _ => false

/-- Is the value a document? -/
def isDocument : Value → Bool
  | .document _ => true
  | _ => false

/-- The text of a string value. -/
def string? : Value → Option String
  | .string s => some s
  | _ => none

/-- The items of an array. -/
def array? : Value → Option (List Value)
  | .array items => some items
  | _ => none

/-- The document of a document value. -/
def document? : Value → Option Document
  | .document d => some d
  | _ => none

/-- The pattern of a regular expression value. -/
def regex? : Value → Option Pattern
  | .regex p => some p
  | _ => none

/-- The bytes of a byte string value. -/
def binary? : Value → Option (List UInt8)
  | .binary bytes => some bytes
  | _ => none

/-- The type of a value. -/
def type : Value → TypeAlias
  | .null => .null
  | .bool _ => .bool
  | .int32 _ => .int
  | .int64 _ => .long
  | .double _ => .double
  | .string _ => .string
  | .binary _ => .binData
  | .regex _ => .regex
  | .array _ => .array
  | .document _ => .object

end Value

instance : Inhabited Value := ⟨.null⟩

instance : Inhabited Document := ⟨⟨[]⟩⟩

end DocFilter
