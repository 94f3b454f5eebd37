import DocFilter.Proofs.OrderedMap
import DocFilter.Value.Edit
import DocFilter.Value.Wire
import Mathlib.Data.Set.Card

/-!
# What edits leave in a document

A history lists what edits did to the keys of a document, the newest event
first.  Two questions can be answered from it without looking at the document:
which value a key has, the one written last since its last removal (`valueOf`),
and at which point it was inserted while it was absent, for the last time
(`insertedAt`).

Every document that edits make of the empty one shows the answers of their
history: its lookups are the values, and its keys stand in the order of
insertion (`edits_refine_history`).
-/

namespace DocFilter
namespace Document

section Histories

/-- What happens to keys. -/
inductive Event where
  /-- A key is given a value, whether it is present or not. -/
  | put (k : String) (v : Value)
  /-- A key is given a value if it is present. -/
  | write (k : String) (v : Value)
  | erase (k : String)
  /-- All keys are removed. -/
  | clear

/-- What an edit does to keys, in order. -/
def Edit.events : Edit → List Event
  | .insert k v => [.put k v]
  | .including k v => [.put k v]
  | .write k v => [.write k v]
  | .remove k => [.erase k]
  | .drain => [.clear]
  | .load entries => .clear :: entries.map fun e => .put e.1 e.2

/-- What edits did to keys, the newest event first. -/
def history (edits : List Edit) : List Event :=
  (edits.flatMap Edit.events).reverse

/-- The value written last to a key since it was last removed. -/
def valueOf (k : String) : List Event → Option Value
  | [] => none
  | .put k' v :: h => if k' = k then some v else valueOf k h
  | .write k' v :: h => if k' = k then (valueOf k h).map fun _ => v else valueOf k h
  | .erase k' :: h => if k' = k then none else valueOf k h
  | .clear :: _ => none

/-- The point, counted from the oldest event, at which a key was last inserted while absent. -/
def insertedAt (k : String) : List Event → Option Nat
  | [] => none
  | .put k' _ :: h =>
      if k' = k ∧ (valueOf k h).isNone then some h.length else insertedAt k h
  | _ :: h => insertedAt k h

/-- Of two keys, the first was inserted earlier. -/
def InsertedBefore (h : List Event) (k l : String) : Prop :=
  ∃ i j, insertedAt k h = some i ∧ insertedAt l h = some j ∧ i < j

variable {h : List Event} {k l : String} {i : Nat}

theorem insertedAt_lt (hi : insertedAt k h = some i) : i < h.length := by
  induction h with
  | nil => cases hi
  | cons e h ih =>
      cases e with
      | put k' v =>
          rw [insertedAt] at hi
          split at hi
          · cases hi
            simp
          · exact Nat.lt_succ_of_lt (ih hi)
      | _ => exact Nat.lt_succ_of_lt (ih hi)

/-- A key that has a value has been inserted. -/
theorem exists_insertedAt (hk : (valueOf k h).isSome) : ∃ i, insertedAt k h = some i := by
  induction h with
  | nil => cases hk
  | cons e h ih =>
      cases e with
      | put k' v =>
          rw [insertedAt]
          split
          · exact ⟨_, rfl⟩
          · rename_i hnew
            by_cases hkey : k' = k
            · refine ih ?_
              simpa [hkey, Option.isSome_iff_ne_none] using hnew
            · rw [valueOf, if_neg hkey] at hk
              exact ih hk
      | write k' v =>
          rw [valueOf] at hk
          split at hk
          · exact ih (by simpa using hk)
          · exact ih hk
      | erase k' =>
          rw [valueOf] at hk
          split at hk
          · cases hk
          · exact ih hk
      | clear => cases hk

/-- Keys keep their points unless one of them is inserted anew. -/
theorem InsertedBefore.cons {e : Event} (hkl : InsertedBefore h k l)
    (hk : insertedAt k (e :: h) = insertedAt k h) (hl : insertedAt l (e :: h) = insertedAt l h) :
    InsertedBefore (e :: h) k l := by
  obtain ⟨i, j, hi, hj, hij⟩ := hkl
  exact ⟨i, j, hk.trans hi, hl.trans hj, hij⟩

end Histories

section Steps

/-- What an event does to a document. -/
def Event.apply : Event → Document → Document
  | .put k v, d => d.insert k v
  | .write k v, d => d.replace k v
  | .erase k, d => d.remove k
  | .clear, _ => .empty

/-- A document has the values of a history, under distinct keys in the order of insertion. -/
structure Shows (h : List Event) (d : Document) : Prop where
  distinct : d.Distinct
  get : ∀ k, d.get? k = valueOf k h
  order : d.keys.Pairwise (InsertedBefore h)

variable {h : List Event} {d : Document} {k : String}

theorem contains_eq_isSome (d : Document) (k : String) : d.contains k = (d.get? k).isSome := rfl

theorem mem_keys_iff (d : Document) (k : String) : k ∈ d.keys ↔ (d.get? k).isSome := by
  rw [← not_iff_not, Bool.not_eq_true, Option.isSome_eq_false_iff, Option.isNone_iff_eq_none]
  exact (Assoc.get?_eq_none_iff k d.entries).symm

theorem Shows.mem_keys_iff (hd : Shows h d) : k ∈ d.keys ↔ (valueOf k h).isSome := by
  rw [Document.mem_keys_iff, hd.get]

theorem keys_insert (d : Document) (k : String) (v : Value) :
    (d.insert k v).keys = if k ∈ d.keys then d.keys else d.keys ++ [k] :=
  Assoc.keys_put k v d.entries

theorem keys_replace (d : Document) (k : String) (v : Value) : (d.replace k v).keys = d.keys := by
  unfold replace
  split
  · rename_i hk
    rw [keys_insert, if_pos ((mem_keys_iff d k).2 hk)]
  · rfl

theorem shows_empty : Shows [] .empty :=
  ⟨distinct_empty, fun _ => rfl, .nil⟩

/-- Putting a key appends it if it is new, and leaves the order alone if it is not. -/
theorem Shows.put (hd : Shows h d) (k : String) (v : Value) :
    Shows (.put k v :: h) (d.insert k v) := by
  refine ⟨distinct_insert hd.distinct k v, fun l => ?_, ?_⟩
  · by_cases hkl : k = l
    · subst hkl
      rw [get?_insert_self, valueOf, if_pos rfl]
    · rw [get?_insert_of_ne d hkl, valueOf, if_neg hkl, hd.get]
  · have hkept : ∀ l ∈ d.keys, insertedAt l (.put k v :: h) = insertedAt l h := by
      intro l hl
      rw [insertedAt, if_neg]
      rintro ⟨-, hnone⟩
      have hsome := hd.mem_keys_iff.1 hl
      rw [Option.isNone_iff_eq_none.1 hnone] at hsome
      cases hsome
    have hold : d.keys.Pairwise (InsertedBefore (.put k v :: h)) :=
      hd.order.imp_of_mem fun hl hm hlm => hlm.cons (hkept _ hl) (hkept _ hm)
    rw [keys_insert]
    split
    · exact hold
    · rename_i hnew
      refine List.pairwise_append.2 ⟨hold, List.pairwise_singleton _ _, ?_⟩
      intro l hl m hm
      obtain rfl := List.mem_singleton.1 hm
      obtain ⟨i, hi⟩ := exists_insertedAt (hd.mem_keys_iff.1 hl)
      have habsent : (valueOf m h).isNone := by
        rw [hd.mem_keys_iff] at hnew
        simpa using hnew
      refine ⟨i, h.length, (hkept l hl).trans hi, ?_, insertedAt_lt hi⟩
      rw [insertedAt, if_pos ⟨rfl, habsent⟩]

theorem Shows.write (hd : Shows h d) (k : String) (v : Value) :
    Shows (.write k v :: h) (d.replace k v) := by
  refine ⟨distinct_replace hd.distinct k v, fun l => ?_, ?_⟩
  · unfold replace
    rw [valueOf, ← hd.get l]
    by_cases hkl : k = l
    · subst hkl
      rw [if_pos rfl]
      cases hget : d.get? k with
      | none => simp [contains_eq_isSome, hget]
      | some w => simp [contains_eq_isSome, hget, get?_insert_self]
    · rw [if_neg hkl]
      split
      · exact get?_insert_of_ne d hkl v
      · rfl
  · rw [keys_replace]
    exact hd.order.imp fun hlm => hlm.cons rfl rfl

theorem Shows.erase (hd : Shows h d) (k : String) : Shows (.erase k :: h) (d.remove k) := by
  refine ⟨distinct_remove hd.distinct k, fun l => ?_, ?_⟩
  · by_cases hkl : k = l
    · subst hkl
      rw [get?_remove_self d k hd.distinct, valueOf, if_pos rfl]
    · rw [get?_remove_of_ne d hkl, valueOf, if_neg hkl, hd.get]
  · have hsub : (d.remove k).keys.Sublist d.keys := by
      rw [Document.remove, Document.keys, Assoc.keys_erase]
      exact List.erase_sublist
    exact (hd.order.sublist hsub).imp fun hlm => hlm.cons rfl rfl

/-- Every event is shown by what it does to a document. -/
theorem Shows.apply (hd : Shows h d) (e : Event) : Shows (e :: h) (e.apply d) := by
  cases e with
  | put k v => exact hd.put k v
  | write k v => exact hd.write k v
  | erase k => exact hd.erase k
  | clear => exact ⟨distinct_empty, fun _ => rfl, .nil⟩

theorem Shows.applyAll (hd : Shows h d) (es : List Event) :
    Shows (es.reverse ++ h) (es.foldl (fun d e => e.apply d) d) := by
  induction es generalizing h d with
  | nil => exact hd
  | cons e es ih =>
      have hnext := ih (hd.apply e)
      simpa using hnext

end Steps

section Edits

variable {h : List Event} {d : Document}

/-- A list of entries makes the document that inserting them one after the other makes. -/
theorem ofList_eq_foldl (entries : List (String × Value)) :
    ofList entries = entries.foldl (fun d e => d.insert e.1 e.2) .empty := by
  have hfold : ∀ d : Document, (⟨Assoc.putAll d.entries entries⟩ : Document) =
      entries.foldl (fun d e => d.insert e.1 e.2) d := by
    induction entries with
    | nil => simp [Assoc.putAll]
    | cons e entries ih => exact fun d => ih (d.insert e.1 e.2)
  exact hfold .empty

theorem perform_insert (d : Document) (k : String) (v : Value) :
    d.perform (.insert k v) = (.previous (d.get? k), d.insert k v) :=
  d.alter_eq k fun _ => some v

theorem perform_remove (d : Document) (k : String) :
    d.perform (.remove k) = (.previous (d.get? k), d.remove k) :=
  d.alter_eq k fun _ => none

theorem perform_write (d : Document) (k : String) (v : Value) :
    d.perform (.write k v) = (.previous (d.get? k), d.replace k v) := by
  rw [perform, alter_eq, replace, contains_eq_isSome]
  cases hget : d.get? k with
  | some w => rfl
  | none =>
      have hkeep : d.remove k = d := by
        rw [remove, Assoc.erase_of_notMem ((Assoc.get?_eq_none_iff k d.entries).1 hget), mk_entries]
      simp [hkeep]

/-- What an edit does to a document are its events, one after the other. -/
theorem perform_eq_apply (d : Document) (e : Edit) :
    (d.perform e).2 = e.events.foldl (fun d e => e.apply d) d := by
  cases e with
  | insert k v => rw [perform_insert]; rfl
  | including k v => rfl
  | write k v => rw [perform_write]; rfl
  | remove k => rw [perform_remove]; rfl
  | drain => rfl
  | load entries =>
      have hload : (d.perform (.load entries)).2 = ofList entries := rfl
      rw [hload, ofList_eq_foldl, Edit.events, List.foldl_cons, List.foldl_map]
      rfl

theorem shows_edited (edits : List Edit) : Shows (history edits) (edited edits) := by
  induction edits using List.reverseRecOn with
  | nil => exact shows_empty
  | append_singleton edits e ih =>
      have hnext := ih.applyAll e.events
      rw [edited_concat, perform_eq_apply]
      simpa [history] using hnext

end Edits

section Refinement

/-- The texts of entries stand in order, with commas between them. -/
theorem members_eq_intercalate (entries : List (String × Value)) : Wire.members entries =
    [','].intercalate (entries.map fun e => Wire.entry e.1 (Wire.value e.2)) := by
  induction entries with
  | nil => simp [Wire.members]
  | cons e rest ih =>
      obtain ⟨k, v⟩ := e
      cases rest with
      | nil => simp [Wire.members]
      | cons f rest =>
          have hsplit : Wire.members ((k, v) :: f :: rest) =
              Wire.entry k (Wire.value v) ++ ',' :: Wire.members (f :: rest) := by
            simp [Wire.members]
          rw [hsplit, ih]
          simp

theorem document_eq (d : Document) : Wire.document d = Wire.inBraces (Wire.members d.entries) := by
  cases d
  rw [Wire.document]

/-- A document is the insertion-ordered map that a history describes: what it shows of its keys and
values, and what edits of it reply and move. -/
structure Refines (d : Document) (h : List Event) : Prop where
  distinct : d.keys.Nodup
  get : ∀ k, d.get? k = valueOf k h
  contains : ∀ k, d.contains k = (valueOf k h).isSome
  size : d.size = {k | (valueOf k h).isSome}.ncard
  isEmpty : d.isEmpty = true ↔ ∀ k, valueOf k h = none
  mem_keys : ∀ k, k ∈ d.keys ↔ (valueOf k h).isSome
  order : d.keys.Pairwise (InsertedBefore h)
  entries : d.entries = d.keys.filterMap fun k => (valueOf k h).map (k, ·)
  /-- Keys in quotes, each with a colon and the text of its value, with commas between them. -/
  render : d.render = String.ofList ('\x7b' :: [','].intercalate (d.entries.map fun e =>
    '"' :: Text.escapeChars e.1.toList ++ '"' :: ':' :: e.2.render.toList) ++ ['\x7d'])
  insert : ∀ k v, (d.perform (.insert k v)).1 = .previous (valueOf k h)
  write : ∀ k v, (d.perform (.write k v)).1 = .previous (valueOf k h)
  remove : ∀ k, (d.perform (.remove k)).1 = .previous (valueOf k h)
  drain : (d.perform .drain).1 = .entries d.entries
  /-- Replacing a value does not move its key. -/
  keys_insert : ∀ k v, (valueOf k h).isSome → (d.perform (.insert k v)).2.keys = d.keys
  keys_write : ∀ k v, (d.perform (.write k v)).2.keys = d.keys
  /-- Removing a key keeps the order of the others. -/
  keys_remove : ∀ k, (d.perform (.remove k)).2.keys = d.keys.erase k

variable {h : List Event} {d : Document}

theorem Shows.size (hd : Shows h d) : d.size = {k | (valueOf k h).isSome}.ncard := by
  have hkeys : {k | (valueOf k h).isSome} = (d.keys.toFinset : Set String) := by
    ext k
    rw [List.coe_toFinset]
    exact hd.mem_keys_iff.symm
  rw [hkeys, Set.ncard_coe_finset, List.toFinset_card_of_nodup hd.distinct]
  exact (Assoc.length_keys d.entries).symm

theorem Shows.isEmpty_iff (hd : Shows h d) : d.isEmpty = true ↔ ∀ k, valueOf k h = none := by
  have hkeys : d.isEmpty = true ↔ d.keys = [] := by
    rw [Document.isEmpty, List.isEmpty_iff, Document.keys, Assoc.keys, List.map_eq_nil_iff]
  rw [hkeys, List.eq_nil_iff_forall_not_mem]
  refine forall_congr' fun k => ?_
  rw [hd.mem_keys_iff, Bool.not_eq_true, Option.isSome_eq_false_iff, Option.isNone_iff_eq_none]

/-- The entries are the keys in order with their values. -/
theorem Shows.entries (hd : Shows h d) :
    d.entries = d.keys.filterMap fun k => (valueOf k h).map (k, ·) := by
  have hvalue : ∀ e ∈ d.entries, (valueOf e.1 h).map (e.1, ·) = some e := by
    intro e he
    rw [← hd.get, Document.get?, (Assoc.get?_eq_some_iff hd.distinct).2 he]
    rfl
  rw [Document.keys, Assoc.keys, List.filterMap_map]
  exact (List.filterMap_some.symm.trans (List.filterMap_congr fun e he => (hvalue e he).symm))

theorem Shows.refines (hd : Shows h d) : Refines d h where
  distinct := hd.distinct
  get := hd.get
  contains k := by rw [contains_eq_isSome, hd.get]
  size := hd.size
  isEmpty := hd.isEmpty_iff
  mem_keys _ := hd.mem_keys_iff
  order := hd.order
  entries := hd.entries
  render := by
    simp only [Document.render, document_eq, members_eq_intercalate, Wire.inBraces, Wire.entry,
      Text.quoteChars, Value.render, String.toList_ofList, List.cons_append, List.append_assoc,
      List.nil_append]
  insert k v := by rw [perform_insert, hd.get]
  write k v := by rw [perform_write, hd.get]
  remove k := by rw [perform_remove, hd.get]
  drain := rfl
  keys_insert k v hk := by
    rw [perform_insert, Document.keys_insert, if_pos (hd.mem_keys_iff.2 hk)]
  keys_write k v := by rw [perform_write, keys_replace]
  keys_remove k := by
    rw [perform_remove]
    exact Assoc.keys_erase k d.entries

/-- **Documents are insertion-ordered finite maps.**  The document that edits make of the empty one
has the values and the order of keys that their history describes, and edits reply the values that
keys had.  Collecting a list of entries is inserting them one after the other. -/
theorem edits_refine_history (edits : List Edit) :
    Refines (edited edits) (history edits) ∧
      ∀ entries, ofList entries = entries.foldl (fun d e => d.insert e.1 e.2) .empty :=
  ⟨(shows_edited edits).refines, ofList_eq_foldl⟩

-- A key that is removed and inserted again goes to the end, and one that is replaced stays.
example : (edited [.load [("a", .null), ("b", .null), ("a", .bool true)], .including "c" .null,
    .remove "a", .insert "b" (.bool true), .insert "a" .null, .write "d" .null]).keys =
      ["b", "c", "a"] := by
  decide

end Refinement

end Document
end DocFilter
