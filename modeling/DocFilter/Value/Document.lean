import DocFilter.Value.Basic

/-!
# Operations on documents

A document is an insertion-ordered map from keys to values: inserting a key that is present
replaces its value in place, and removing a key keeps the order of the others.

A document is *distinct* if no key occurs twice.  The empty document is, every operation keeps it
so, and lookup after an operation is that of a finite map.
-/

namespace DocFilter
namespace Document

/-- The document without entries. -/
def empty : Document := ⟨[]⟩

/-- The document with one entry. -/
def single (k : String) (v : Value) : Document := ⟨[(k, v)]⟩

/-- The value of a key. -/
def get? (d : Document) (k : String) : Option Value :=
  Assoc.get? k d.entries

/-- Is the key present? -/
def contains (d : Document) (k : String) : Bool :=
  Assoc.contains k d.entries

/-- Gives a key a value. -/
def insert (d : Document) (k : String) (v : Value) : Document :=
  ⟨Assoc.put k v d.entries⟩

/-- Inserts the entries of another document, in order. -/
def insertAll (d e : Document) : Document :=
  ⟨Assoc.putAll d.entries e.entries⟩

/-- Replaces the value of a key that is present, and changes nothing otherwise. -/
def replace (d : Document) (k : String) (v : Value) : Document :=
  if d.contains k then d.insert k v else d

/-- Removes a key. -/
def remove (d : Document) (k : String) : Document :=
  ⟨Assoc.erase k d.entries⟩

/-- The number of entries. -/
def size (d : Document) : Nat :=
  d.entries.length

/-- Are there no entries? -/
def isEmpty (d : Document) : Bool :=
  d.entries.isEmpty

/-- The keys in order. -/
def keys (d : Document) : List String :=
  Assoc.keys d.entries

/-- The document that entries make when they are inserted one after the other. -/
def ofList (entries : List (String × Value)) : Document :=
  ⟨Assoc.ofList entries⟩

/-- The keys of a document are distinct. -/
def Distinct (d : Document) : Prop :=
  d.keys.Nodup

@[simp] theorem mk_entries (d : Document) : Document.mk d.entries = d := by
  cases d
  rfl

section Lookup

theorem get?_insert_self (d : Document) (k : String) (v : Value) :
    (d.insert k v).get? k = some v :=
  Assoc.get?_put_self k v d.entries

theorem get?_insert_of_ne (d : Document) {k l : String} (h : k ≠ l) (v : Value) :
    (d.insert k v).get? l = d.get? l :=
  Assoc.get?_put_of_ne h v d.entries

theorem get?_remove_of_ne (d : Document) {k l : String} (h : k ≠ l) :
    (d.remove k).get? l = d.get? l :=
  Assoc.get?_erase_of_ne h d.entries

theorem get?_remove_self (d : Document) (k : String) (h : d.Distinct) :
    (d.remove k).get? k = none :=
  Assoc.get?_erase_self k h

end Lookup

section Distinctness

theorem distinct_empty : Document.empty.Distinct :=
  List.nodup_nil

theorem distinct_single (k : String) (v : Value) : (Document.single k v).Distinct := by
  simp [Distinct, keys, single, Assoc.keys]

theorem distinct_insert {d : Document} (h : d.Distinct) (k : String) (v : Value) :
    (d.insert k v).Distinct :=
  Assoc.nodup_keys_put k v h

theorem distinct_insertAll {d : Document} (h : d.Distinct) (e : Document) :
    (d.insertAll e).Distinct :=
  Assoc.nodup_keys_putAll e.entries h

theorem distinct_replace {d : Document} (h : d.Distinct) (k : String) (v : Value) :
    (d.replace k v).Distinct := by
  unfold replace
  split
  · exact distinct_insert h k v
  · exact h

theorem distinct_remove {d : Document} (h : d.Distinct) (k : String) :
    (d.remove k).Distinct :=
  Assoc.nodup_keys_erase k h

theorem distinct_ofList (entries : List (String × Value)) : (ofList entries).Distinct :=
  Assoc.nodup_keys_ofList entries

end Distinctness

end Document
end DocFilter
