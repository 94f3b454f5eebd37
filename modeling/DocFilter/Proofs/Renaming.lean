import DocFilter.Criteria.Call
import DocFilter.Proofs.Equality
import DocFilter.Reference.Scope

/-!
# What renaming keeps of a document

A context renames the keys of a compiled document at every depth and collects
the entries again, so entries that come to share a key are merged.  Next to it
stands here the renaming that leaves every entry in its place
(`renameDocument`) and may repeat a key.

The two agree exactly if the latter repeats no key at any depth
(`mapDocument_eq_renameDocument_iff`).  Compilation refuses repeated keys, but
it cannot see those that only come about by renaming.
-/

namespace DocFilter

theorem Document.proper_ofList {xs : List (String × Value)} (h : ∀ e ∈ xs, e.2.Proper) :
    (Document.ofList xs).Proper := by
  induction xs using List.reverseRecOn with
  | nil =>
      exact Document.proper_iff.2 ⟨List.nodup_nil, fun e he => absurd he List.not_mem_nil⟩
  | append_singleton xs e ih =>
      have hxs : (Document.ofList xs).Proper :=
        ih fun f hf => h f (List.mem_append_left _ hf)
      have he : e.2.Proper := h e (List.mem_append_right _ List.mem_cons_self)
      rw [Document.ofList, Assoc.ofList_concat]
      exact Document.proper_insert hxs e.1 he

namespace Context

variable (c : Context)

section Places

mutual

/-- The value with each key renamed and each entry in its place. -/
def renameValue : Value → Value
  | .array items => .array (renameItems items)
  | .document d => .document (renameDocument d)
  | v => v

/-- The document with each key renamed and each entry in its place, at every depth. -/
def renameDocument : Document → Document
  | ⟨entries⟩ => ⟨renameEntries entries⟩

/-- The values with each key renamed. -/
def renameItems : List Value → List Value
  | [] => []
  | v :: vs => renameValue v :: renameItems vs

/-- The entries, each with its key renamed. -/
def renameEntries : List (String × Value) → List (String × Value)
  | [] => []
  | (k, v) :: rest => (c.mapKey k, renameValue v) :: renameEntries rest

end

theorem renameItems_eq_map (vs : List Value) : c.renameItems vs = vs.map c.renameValue := by
  induction vs with
  | nil =>
      rfl
  | cons v vs ih =>
      rw [renameItems, ih, List.map_cons]

theorem renameEntries_eq_map (xs : List (String × Value)) :
    c.renameEntries xs = xs.map fun e => (c.mapKey e.1, c.renameValue e.2) := by
  induction xs with
  | nil =>
      rfl
  | cons e rest ih =>
      rw [renameEntries, ih, List.map_cons]

end Places

section Merged

theorem mapItems_eq_map (vs : List Value) : c.mapItems vs = vs.map c.mapValue := by
  induction vs with
  | nil =>
      rfl
  | cons v vs ih =>
      rw [mapItems, ih, List.map_cons]

theorem mapEntries_eq_map (xs : List (String × Value)) :
    c.mapEntries xs = xs.map fun e => (c.mapKey e.1, c.mapValue e.2) := by
  induction xs with
  | nil =>
      rfl
  | cons e rest ih =>
      rw [mapEntries, ih, List.map_cons]

theorem entries_mapDocument (d : Document) : (c.mapDocument d).entries =
    Assoc.ofList (d.entries.map fun e => (c.mapKey e.1, c.mapValue e.2)) := by
  obtain ⟨xs⟩ := d
  rw [mapDocument, mapEntries_eq_map, Document.ofList]

/-- A key stands where the first of its entries stood. -/
theorem keys_mapDocument (d : Document) :
    (c.mapDocument d).keys = (d.keys.map c.mapKey).eraseDups := by
  rw [Document.keys, entries_mapDocument, Assoc.keys_ofList]
  simp [Assoc.keys, Document.keys, Function.comp_def]

/-- A key has the value of the last of its entries. -/
theorem get?_mapDocument (d : Document) (k : String) : (c.mapDocument d).get? k =
    Assoc.get? k (d.entries.reverse.map fun e => (c.mapKey e.1, c.mapValue e.2)) := by
  rw [Document.get?, entries_mapDocument, Assoc.get?_ofList, List.map_reverse]

mutual

theorem proper_mapValue : ∀ v : Value, (c.mapValue v).Proper
  | .array items => by
      rw [mapValue, Value.Proper]
      exact properItems_mapItems items
  | .document d => by
      rw [mapValue, Value.Proper]
      exact proper_mapDocument d
  | .null | .bool _ | .int32 _ | .int64 _ | .double _ | .string _ | .binary _ | .regex _ => by
      simp [mapValue, Value.Proper]

/-- What is collected again repeats no key, whatever the document was. -/
theorem proper_mapDocument : ∀ d : Document, (c.mapDocument d).Proper
  | ⟨entries⟩ => by
      rw [mapDocument]
      exact Document.proper_ofList (Document.properEntries_iff.1 (properEntries_mapEntries entries))

theorem properItems_mapItems : ∀ vs : List Value, Value.ProperItems (c.mapItems vs)
  | [] => by
      simp [mapItems, Value.ProperItems]
  | v :: vs => by
      rw [mapItems, Value.ProperItems]
      exact ⟨proper_mapValue v, properItems_mapItems vs⟩

theorem properEntries_mapEntries :
    ∀ xs : List (String × Value), Document.ProperEntries (c.mapEntries xs)
  | [] => by
      simp [mapEntries, Document.ProperEntries]
  | (k, v) :: rest => by
      rw [mapEntries, Document.ProperEntries]
      exact ⟨proper_mapValue v, properEntries_mapEntries rest⟩

end

end Merged

section Agreement

variable {c}

mutual

theorem mapValue_eq_renameValue :
    ∀ {v : Value}, (c.renameValue v).Proper → c.mapValue v = c.renameValue v
  | .array items, h => by
      rw [renameValue, Value.Proper] at h
      rw [mapValue, renameValue, mapItems_eq_renameItems h]
  | .document d, h => by
      rw [renameValue, Value.Proper] at h
      rw [mapValue, renameValue, mapDocument_eq_renameDocument h]
  | .null, _ | .bool _, _ | .int32 _, _ | .int64 _, _ | .double _, _ | .string _, _ | .binary _, _
  | .regex _, _ => by
      rw [mapValue, renameValue] <;> simp

theorem mapDocument_eq_renameDocument :
    ∀ {d : Document}, (c.renameDocument d).Proper → c.mapDocument d = c.renameDocument d
  | ⟨entries⟩, h => by
      rw [renameDocument, Document.Proper] at h
      obtain ⟨hnodup, hentries⟩ := h
      have hkept : Assoc.ofList (c.renameEntries entries) = c.renameEntries entries :=
        Assoc.putAll_eq_append hnodup
      rw [mapDocument, renameDocument, mapEntries_eq_renameEntries hentries, Document.ofList, hkept]

theorem mapItems_eq_renameItems :
    ∀ {vs : List Value}, Value.ProperItems (c.renameItems vs) → c.mapItems vs = c.renameItems vs
  | [], _ => by
      rw [mapItems, renameItems]
  | v :: vs, h => by
      rw [renameItems, Value.ProperItems] at h
      rw [mapItems, renameItems, mapValue_eq_renameValue h.1, mapItems_eq_renameItems h.2]

theorem mapEntries_eq_renameEntries :
    ∀ {xs : List (String × Value)}, Document.ProperEntries (c.renameEntries xs) →
      c.mapEntries xs = c.renameEntries xs
  | [], _ => by
      rw [mapEntries, renameEntries]
  | (k, v) :: rest, h => by
      rw [renameEntries, Document.ProperEntries] at h
      rw [mapEntries, renameEntries, mapValue_eq_renameValue h.1, mapEntries_eq_renameEntries h.2]

end

/-- Every entry stays in its place exactly if no document, at any depth, comes to repeat a key. -/
theorem mapDocument_eq_renameDocument_iff {d : Document} :
    c.mapDocument d = c.renameDocument d ↔ (c.renameDocument d).Proper := by
  constructor
  · intro h
    rw [← h]
    exact c.proper_mapDocument d
  · exact mapDocument_eq_renameDocument

end Agreement

end Context

namespace Scope

section Criteria

/-- **When mapped criteria keep every entry.**  Criteria that compile are mapped to a document with
the same entries at every depth, one by one and in order, exactly if no two keys of one document in
it come to be stored under one key.  In any case each stored key stands where the first entry stood
that has it, and it has the value of the last one. -/
theorem mapCriteria_keeps_entries_iff (s : Scope) {c : Criteria} {d : Document}
    (h : c.compile = .ok d) :
    ∃ e, s.mapCriteria c = .ok e ∧
      (e = s.context.renameDocument d ↔ (s.context.renameDocument d).Proper) ∧
      e.keys = (d.keys.map s.context.mapKey).eraseDups ∧
      ∀ k, e.get? k = Assoc.get? k
        (d.entries.reverse.map fun x => (s.context.mapKey x.1, s.context.mapValue x.2)) := by
  refine ⟨s.context.mapDocument d, ?_, Context.mapDocument_eq_renameDocument_iff,
    s.context.keys_mapDocument d, s.context.get?_mapDocument d⟩
  rw [mapCriteria, h]
  rfl

/-- Two properties that are stored in one field leave one requirement of two. -/
theorem mapCriteria_keeps_entries_iff_shared_field :
    ((Criteria.field "a").run [.equals (.bool true), .andField "b",
        .equals (.bool false)]).compile =
        .ok ⟨[("a", .bool true), ("b", .bool false)]⟩ ∧
      ∃ e, (root { mappings := [("a", "x"), ("b", "x")] }).mapCriteria
          ((Criteria.field "a").run [.equals (.bool true), .andField "b",
            .equals (.bool false)]) = .ok e ∧
        e ≠ ⟨[("x", .bool true), ("x", .bool false)]⟩ ∧ e.keys = ["x"] ∧
        e.get? "x" = some (.bool false) := by
  have h : ((Criteria.field "a").run [.equals (.bool true), .andField "b",
      .equals (.bool false)]).compile = .ok ⟨[("a", .bool true), ("b", .bool false)]⟩ := by
    rfl
  obtain ⟨e, he, hiff, hkeys, hget⟩ :=
    mapCriteria_keeps_entries_iff (root { mappings := [("a", "x"), ("b", "x")] }) h
  refine ⟨h, e, he, fun hrenamed => ?_, hkeys, hget "x"⟩
  have hrepeated : ¬ ["x", "x"].Nodup := by decide
  exact hrepeated (Document.proper_iff.1 (hiff.1 hrenamed)).1

-- Entries of a value to equal are merged alike.
example : (root { mappings := [("a", "b")] }).mapCriteria
    ((Criteria.field "r").run [.equals (.document ⟨[("a", .null), ("b", .bool true)]⟩)]) =
    .ok ⟨[("r", .document ⟨[("b", .bool true)]⟩)]⟩ := by
  rfl

end Criteria

end Scope

end DocFilter
