import DocFilter.Value.Document

/-!
# Editing documents

Every operation that changes a document as a value, with what it does and what it replies.  Edits
follow one another and begin with the empty document.
-/

namespace DocFilter
namespace Document

/-- An operation that changes a document. -/
inductive Edit where
  /-- Gives a key a value and replies with the value that it had. -/
  | insert (k : String) (v : Value)
  /-- Gives a key a value. -/
  | including (k : String) (v : Value)
  /-- Replaces the value of a key where it stands, unless the key is absent. -/
  | write (k : String) (v : Value)
  /-- Removes a key and replies with the value that it had. -/
  | remove (k : String)
  /-- Takes out all entries. -/
  | drain
  /-- Begins anew with the entries of a list. -/
  | load (entries : List (String × Value))

/-- What an edit replies. -/
inductive Reply where
  | nothing
  /-- The value that a key had. -/
  | previous (v : Option Value)
  /-- The entries that were taken out. -/
  | entries (es : List (String × Value))

/-- Changes the value of a key and replies with the value that it had. -/
def alter (d : Document) (k : String) (change : Option Value → Option Value) : Reply × Document :=
  let (old, entries) := Assoc.alter k change d.entries
  (.previous old, ⟨entries⟩)

/-- What an edit replies, and the document after it. -/
def perform (d : Document) : Edit → Reply × Document
  | .insert k v => d.alter k fun _ => some v
  | .including k v => (.nothing, d.insert k v)
  | .write k v => d.alter k fun old => old.map fun _ => v
  | .remove k => d.alter k fun _ => none
  | .drain => (.entries d.entries, .empty)
  | .load entries => (.nothing, .ofList entries)

/-- The document that edits make of the empty one. -/
def edited (edits : List Edit) : Document :=
  edits.foldl (fun d e => (d.perform e).2) .empty

theorem alter_eq (d : Document) (k : String) (change : Option Value → Option Value) :
    d.alter k change =
      (.previous (d.get? k), match change (d.get? k) with
        | some v => d.insert k v
        | none => d.remove k) := by
  simp only [alter, Assoc.alter_eq]
  cases h : change (Assoc.get? k d.entries) <;> simp [get?, insert, remove, h]

theorem edited_concat (edits : List Edit) (e : Edit) :
    edited (edits ++ [e]) = ((edited edits).perform e).2 := by
  simp [edited]

end Document
end DocFilter
