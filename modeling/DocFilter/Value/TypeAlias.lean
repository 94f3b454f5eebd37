/-!
# Types of values

The types that a query can ask for, each with its name and its number.
-/

namespace DocFilter

/-- A type that a query can ask for. -/
inductive TypeAlias where
  | double
  | string
  | object
  | array
  | binData
  | undefined
  | objectId
  | bool
  | date
  | null
  | regex
  | dbPointer
  | javaScript
  | symbol
  | int
  | timestamp
  | long
  | decimal
  | minKey
  | maxKey
deriving DecidableEq, Repr

namespace TypeAlias

/-- The name of the type. -/
def name : TypeAlias → String
  | .double => "double"
  | .string => "string"
  | .object => "object"
  | .array => "array"
  | .binData => "binData"
  | .undefined => "undefined"
  | .objectId => "objectId"
  | .bool => "bool"
  | .date => "date"
  | .null => "null"
  | .regex => "regex"
  | .dbPointer => "dbPointer"
  | .javaScript => "javascript"
  | .symbol => "symbol"
  | .int => "int"
  | .timestamp => "timestamp"
  | .long => "long"
  | .decimal => "decimal"
  | .minKey => "minKey"
  | .maxKey => "maxKey"

/-- The number of the type.  The extreme keys stand apart from the others. -/
def code : TypeAlias → Int
  | .double => 1
  | .string => 2
  | .object => 3
  | .array => 4
  | .binData => 5
  | .undefined => 6
  | .objectId => 7
  | .bool => 8
  | .date => 9
  | .null => 10
  | .regex => 11
  | .dbPointer => 12
  | .javaScript => 13
  | .symbol => 14
  | .int => 16
  | .timestamp => 17
  | .long => 18
  | .decimal => 19
  | .minKey => -1
  | .maxKey => 127

end TypeAlias

end DocFilter
