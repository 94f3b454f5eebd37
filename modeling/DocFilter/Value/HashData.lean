import DocFilter.Value.Document

/-!
# Hash data

What a value feeds to a hash function, as a sequence.  The sequence starts with the type and says
how long every list is, so no two different values run into each other.  The entries of a document
are fed sorted by key, because equality does not regard their order.
-/

namespace DocFilter

/-- One piece of hash data. -/
inductive HashPiece where
  /-- Which of several alternatives follows. -/
  | tag (n : Nat)
  /-- How many items follow. -/
  | count (n : Nat)
  | bool (b : Bool)
  | int (n : Int)
  | bits (n : UInt64)
  | text (s : String)
  | bytes (bs : List UInt8)
deriving DecidableEq, Repr

/-- Hash data of a whole value. -/
abbrev HashData := List HashPiece

namespace HashData

/-- Places an entry in a list sorted by key, before the entries of the same key. -/
def insertSorted (k : String) (data : HashData) :
    List (String × HashData) → List (String × HashData)
  | [] => [(k, data)]
  | (l, other) :: rest =>
      if k ≤ l then (k, data) :: (l, other) :: rest
      else (l, other) :: insertSorted k data rest

/-- The entries sorted by key. -/
def sortEntries (entries : List (String × HashData)) : List (String × HashData) :=
  entries.foldr (fun e acc => insertSorted e.1 e.2 acc) []

/-- The data of a list: its length, then its items. -/
def ofList (items : List HashData) : HashData :=
  .count items.length :: items.flatten

/-- The data of entries in any order. -/
def ofEntries (entries : List (String × HashData)) : HashData :=
  ofList ((sortEntries entries).map fun e => .text e.1 :: e.2)

end HashData

/-- The data of a pattern: its source and its options. -/
def Pattern.hashData (p : Pattern) : HashData :=
  [.text p.source, .text p.options.text]

mutual

/-- The data of a value. -/
def Value.hashData : Value → HashData
  | .null => [.tag 0]
  | .bool b => [.tag 1, .bool b]
  | .int32 n => [.tag 2, .int n.toInt]
  | .int64 n => [.tag 3, .int n.toInt]
  | .double x => [.tag 4, .bits x.bits]
  | .string s => [.tag 5, .text s]
  | .binary bs => [.tag 6, .bytes bs]
  | .regex p => .tag 7 :: p.hashData
  | .array vs => .tag 8 :: HashData.ofList (Value.hashItems vs)
  | .document d => .tag 9 :: Document.hashData d

/-- The data of a document. -/
def Document.hashData : Document → HashData
  | ⟨entries⟩ => HashData.ofEntries (Document.hashEntries entries)

/-- The data of each item. -/
def Value.hashItems : List Value → List HashData
  | [] => []
  | v :: vs => Value.hashData v :: Value.hashItems vs

/-- The data of each entry's value. -/
def Document.hashEntries : List (String × Value) → List (String × HashData)
  | [] => []
  | (k, v) :: rest => (k, Value.hashData v) :: Document.hashEntries rest

end

end DocFilter
