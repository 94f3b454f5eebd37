import DocFilter.Proofs.OrderedMap
import DocFilter.Value.Equality
import Mathlib.Data.List.Perm.Subperm

/-!
# Equality of documents and the operations on them

Equality of documents disregards the order of entries, so it is a relation of
finite maps as long as no key is repeated.  A value is *proper* if no document
in it, at any depth, repeats a key.

* Proper values equal themselves (`Value.same_self`).
* Equality is kept when equal values are put under one key of equal documents
  (`Document.same_insert`).
* Documents whose entries agree one by one are equal
  (`Document.same_of_aligned`).
-/

namespace DocFilter

section Proper

mutual

/-- No document in the value, at any depth, repeats a key. -/
def Value.Proper : Value → Prop
  | .array items => Value.ProperItems items
  | .document d => Document.Proper d
  | _ => True

/-- Neither the document nor any document in it repeats a key. -/
def Document.Proper : Document → Prop
  | ⟨entries⟩ => (Assoc.keys entries).Nodup ∧ Document.ProperEntries entries

/-- All values of a list are proper. -/
def Value.ProperItems : List Value → Prop
  | [] => True
  | v :: vs => Value.Proper v ∧ Value.ProperItems vs

/-- All values under keys are proper. -/
def Document.ProperEntries : List (String × Value) → Prop
  | [] => True
  | (_, v) :: rest => Value.Proper v ∧ Document.ProperEntries rest

end

theorem Value.properItems_iff {vs : List Value} :
    Value.ProperItems vs ↔ ∀ v ∈ vs, v.Proper := by
  induction vs with
  | nil =>
      simp [Value.ProperItems]
  | cons v vs ih =>
      simp [Value.ProperItems, ih]

theorem Document.properEntries_iff {entries : List (String × Value)} :
    Document.ProperEntries entries ↔ ∀ e ∈ entries, e.2.Proper := by
  induction entries with
  | nil =>
      simp [Document.ProperEntries]
  | cons e rest ih =>
      simp only [Document.ProperEntries, ih, List.forall_mem_cons]

theorem Value.proper_array {vs : List Value} (h : ∀ v ∈ vs, v.Proper) :
    (Value.array vs).Proper := by
  rw [Value.Proper]
  exact Value.properItems_iff.2 h

theorem Document.proper_iff {d : Document} :
    d.Proper ↔ d.Distinct ∧ ∀ e ∈ d.entries, e.2.Proper := by
  obtain ⟨entries⟩ := d
  rw [Document.Proper, Document.properEntries_iff]
  rfl

theorem Document.proper_single (k : String) {v : Value} (h : v.Proper) :
    (Document.single k v).Proper :=
  Document.proper_iff.2 ⟨Document.distinct_single k v, by simpa [Document.single] using h⟩

theorem Document.proper_insert {d : Document} (hd : d.Proper) (k : String) {v : Value}
    (hv : v.Proper) : (d.insert k v).Proper := by
  obtain ⟨hdist, hvals⟩ := Document.proper_iff.1 hd
  refine Document.proper_iff.2 ⟨Document.distinct_insert hdist k v, fun e he => ?_⟩
  rcases Assoc.eq_or_mem_of_mem_put he with h | h
  · rw [h]
    exact hv
  · exact hvals e h

end Proper

section Same

theorem Document.hasEntries_iff {xs ys : List (String × Value)} :
    Document.hasEntries xs ys = true ↔
      ∀ e ∈ xs, ∃ w, Assoc.get? e.1 ys = some w ∧ e.2.same w = true := by
  induction xs with
  | nil =>
      simp [Document.hasEntries]
  | cons e rest ih =>
      rw [Document.hasEntries, Bool.and_eq_true, ih, List.forall_mem_cons]
      refine and_congr_left' ?_
      cases Assoc.get? e.1 ys with
      | none =>
          simp
      | some w =>
          simp

/-- Documents are equal if they have equally many entries and each entry of the first has an equal
partner in the second. -/
theorem Document.same_iff {d e : Document} :
    d.same e = true ↔ d.entries.length = e.entries.length ∧
      ∀ x ∈ d.entries, ∃ w, e.get? x.1 = some w ∧ x.2.same w = true := by
  obtain ⟨xs⟩ := d
  obtain ⟨ys⟩ := e
  rw [Document.same, Bool.and_eq_true, beq_iff_eq, Document.hasEntries_iff]
  rfl

theorem Value.sameItems_iff {vs ws : List Value} :
    Value.sameItems vs ws = true ↔ List.Forall₂ (fun v w => v.same w = true) vs ws := by
  induction vs generalizing ws with
  | nil =>
      cases ws with
      | nil =>
          simp [Value.sameItems]
      | cons w ws =>
          simp [Value.sameItems]
  | cons v vs ih =>
      cases ws with
      | nil =>
          simp [Value.sameItems]
      | cons w ws =>
          simp [Value.sameItems, ih]

@[simp] theorem Value.same_document (d e : Document) :
    (Value.document d).same (.document e) = d.same e := by
  rw [Value.same]

@[simp] theorem Value.same_array (vs ws : List Value) :
    (Value.array vs).same (.array ws) = Value.sameItems vs ws := by
  rw [Value.same]

mutual

/-- Proper values equal themselves. -/
theorem Value.same_self : ∀ {v : Value}, v.Proper → v.same v = true
  | .null, _ => by rw [Value.same]
  | .bool b, _ => by simp [Value.same]
  | .int32 n, _ => by simp [Value.same]
  | .int64 n, _ => by simp [Value.same]
  | .double x, _ => by simp [Value.same]
  | .string s, _ => by simp [Value.same]
  | .binary bs, _ => by simp [Value.same]
  | .regex p, _ => by simp [Value.same, BEq.beq]
  | .array vs, h => by
      rw [Value.Proper] at h
      rw [Value.same]
      exact Value.sameItems_self h
  | .document d, h => by
      rw [Value.Proper] at h
      rw [Value.same]
      exact Document.same_self h

theorem Document.same_self : ∀ {d : Document}, d.Proper → d.same d = true
  | ⟨entries⟩, h => by
      rw [Document.Proper] at h
      rw [Document.same, Bool.and_eq_true]
      refine ⟨beq_self_eq_true _, Document.hasEntries_self entries h.2 fun e he => ?_⟩
      exact (Assoc.get?_eq_some_iff h.1).2 he

theorem Value.sameItems_self : ∀ {vs : List Value}, Value.ProperItems vs → Value.sameItems vs vs
  | [], _ => by rw [Value.sameItems]
  | v :: vs, h => by
      rw [Value.ProperItems] at h
      rw [Value.sameItems, Bool.and_eq_true]
      exact ⟨Value.same_self h.1, Value.sameItems_self h.2⟩

/-- The entries of a document are found in it, and so are those of each of its ends: the induction
takes off one entry after the other while the document to look in stays. -/
theorem Document.hasEntries_self {ys : List (String × Value)} :
    ∀ xs : List (String × Value), Document.ProperEntries xs →
      (∀ e ∈ xs, Assoc.get? e.1 ys = some e.2) → Document.hasEntries xs ys = true
  | [], _, _ => by rw [Document.hasEntries]
  | (k, v) :: rest, h, hget => by
      rw [Document.ProperEntries] at h
      rw [Document.hasEntries, hget (k, v) List.mem_cons_self, Bool.and_eq_true]
      exact ⟨Value.same_self h.1,
        Document.hasEntries_self rest h.2 fun e he => hget e (List.mem_cons_of_mem _ he)⟩

end

end Same

section Congruence

/-- Equal documents have the same keys. -/
theorem Document.mem_keys_iff_of_same {d e : Document} (hd : d.Distinct)
    (h : d.same e = true) (k : String) : k ∈ d.keys ↔ k ∈ e.keys := by
  obtain ⟨hlen, hpart⟩ := Document.same_iff.1 h
  have hsub : d.keys ⊆ e.keys := by
    intro l hl
    obtain ⟨v, hv⟩ := Assoc.exists_mem_of_mem_keys hl
    obtain ⟨w, hw, _⟩ := hpart (l, v) hv
    exact Assoc.mem_keys_of_mem (Assoc.mem_of_get?_eq_some hw)
  have hle : e.keys.length ≤ d.keys.length := by
    rw [Document.keys, Document.keys, Assoc.length_keys, Assoc.length_keys]
    exact Nat.le_of_eq hlen.symm
  exact ((List.subperm_of_subset hd hsub).perm_of_length_le hle).mem_iff

/-- Equal values put under one key of equal documents give equal documents. -/
theorem Document.same_insert {d e : Document} (hd : d.Distinct) (h : d.same e = true)
    (k : String) {v w : Value} (hvw : v.same w = true) :
    (d.insert k v).same (e.insert k w) = true := by
  obtain ⟨hlen, hpart⟩ := Document.same_iff.1 h
  have hkeys : k ∈ Assoc.keys d.entries ↔ k ∈ Assoc.keys e.entries :=
    Document.mem_keys_iff_of_same hd h k
  refine Document.same_iff.2 ⟨?_, ?_⟩
  · by_cases hk : k ∈ Assoc.keys d.entries
    · rw [Document.insert, Document.insert, Assoc.length_put, Assoc.length_put, if_pos hk,
        if_pos (hkeys.1 hk), hlen]
    · rw [Document.insert, Document.insert, Assoc.length_put, Assoc.length_put, if_neg hk,
        if_neg fun hk' => hk (hkeys.2 hk'), hlen]
  · rintro ⟨l, x⟩ hm
    have hx : (d.insert k v).get? l = some x :=
      (Assoc.get?_eq_some_iff (Document.distinct_insert hd k v)).2 hm
    by_cases hl : k = l
    · subst hl
      rw [Document.get?_insert_self] at hx
      refine ⟨w, Document.get?_insert_self e k w, ?_⟩
      rw [← Option.some.inj hx]
      exact hvw
    · rw [Document.get?_insert_of_ne d hl] at hx
      obtain ⟨y, hy, hxy⟩ := hpart (l, x) (Assoc.mem_of_get?_eq_some hx)
      exact ⟨y, by rw [Document.get?_insert_of_ne e hl, hy], hxy⟩

/-- The entries of two documents agree one by one, in order. -/
def Document.Aligned (d e : Document) : Prop :=
  Assoc.Aligned (fun v w => Value.same v w = true) d.entries e.entries

/-- Documents whose entries agree one by one are equal. -/
theorem Document.same_of_aligned {d e : Document} (he : e.Distinct) (h : d.Aligned e) :
    d.same e = true := by
  refine Document.same_iff.2 ⟨List.Forall₂.length_eq h, fun x hx => ?_⟩
  obtain ⟨y, hy, hkey, hval⟩ := h.exists_of_mem hx
  refine ⟨y.2, ?_, hval⟩
  rw [hkey]
  exact (Assoc.get?_eq_some_iff he).2 hy

end Congruence

end DocFilter
