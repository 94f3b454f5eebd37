import DocFilter.Proofs.OperandPaths
import DocFilter.Proofs.Renaming
import DocFilter.Proofs.Shape

/-!
# Mapped paths and geometries

A mapping renames the steps of a path and maps what the path leads to.  What
was there is found at the mapped path, unless an entry on the way is overwritten
by one behind it that is stored under the same key (`at?_mapValue`); and nothing
is overwritten where no two keys of one document are stored alike
(`unshadowed_of_proper`).

The document of a geometry is no exception to this.  Its keys are those of a
format and not of fields, but they are renamed like any other, so the geometry
is still the same exactly if the mapping leaves all of them alone
(`same_mapDocument_toDocument_iff`).
-/

namespace DocFilter

open Geo

namespace Context

variable (c : Context)

section Paths

/-- The step that a step is stored as. -/
def mapStep : Step → Step
  | .key k => .key (c.mapKey k)
  | .item i => .item i

/-- No entry behind the one that a step leads to is stored under the same key. -/
def LastStored : Value → Step → Prop
  | .document d, .key k => ∀ front v back, d.entries = front ++ (k, v) :: back →
      ∀ l ∈ Assoc.keys back, c.mapKey l ≠ c.mapKey k
  | _, _ => True

/-- No entry on the path is overwritten by one that is stored under the same key. -/
def Unshadowed : Value → List Step → Prop
  | _, [] => True
  | v, s :: rest => c.LastStored v s ∧ ∀ w, v.step? s = some w → Unshadowed w rest

variable {v w : Value} {s : Step} {path : List Step}

theorem step?_mapValue (h : v.step? s = some w) (hlast : c.LastStored v s) :
    (c.mapValue v).step? (c.mapStep s) = some (c.mapValue w) := by
  cases v with
  | document d =>
      cases s with
      | key k =>
          obtain ⟨front, back, hsplit, _⟩ := Assoc.exists_split_of_get?_eq_some h
          have hbehind : c.mapKey k ∉
              Assoc.keys (back.map fun e => (c.mapKey e.1, c.mapValue e.2)) := by
            rw [Assoc.keys, List.map_map, List.mem_map]
            rintro ⟨e, he, hkey⟩
            exact hlast front w back hsplit e.1 (Assoc.mem_keys_of_mem he) hkey
          rw [mapValue, mapStep, Value.step?, Document.get?, entries_mapDocument, hsplit,
            List.map_append, List.map_cons]
          exact (Assoc.accumulated_putAll [] _).last _ _ _ _ rfl hbehind
      | item i => cases h
  | array vs =>
      cases s with
      | key k => cases h
      | item i =>
          have hitem : vs[i]? = some w := h
          rw [mapValue, mapItems_eq_map, mapStep, Value.step?, List.getElem?_map, hitem]
          rfl
  | _ => cases s <;> cases h

/-- What a path leads to is mapped in its place, unless an entry on the path is overwritten. -/
theorem at?_mapValue (h : v.at? path = some w) (hpath : c.Unshadowed v path) :
    (c.mapValue v).at? (path.map c.mapStep) = some (c.mapValue w) := by
  induction path generalizing v with
  | nil =>
      cases h
      rfl
  | cons s rest ih =>
      rw [Value.at?_cons, Option.bind_eq_some_iff] at h
      obtain ⟨u, hu, hrest⟩ := h
      rw [List.map_cons, Value.at?_cons, c.step?_mapValue hu hpath.1, Option.bind_some]
      exact ih hrest (hpath.2 u hu)

/-- Where no two keys of one document are stored under one key, nothing is overwritten. -/
theorem lastStored_of_proper (h : (c.renameValue v).Proper) (s : Step) : c.LastStored v s := by
  unfold LastStored
  split
  · rename_i d k
    rintro front w back hsplit l hl
    obtain ⟨xs⟩ := d
    rw [renameValue, Value.Proper, renameDocument, Document.Proper, renameEntries_eq_map] at h
    have hkeys : Assoc.keys (xs.map fun e => (c.mapKey e.1, c.renameValue e.2)) =
        (Assoc.keys front).map c.mapKey ++ c.mapKey k :: (Assoc.keys back).map c.mapKey := by
      have hxs : xs = front ++ (k, w) :: back := hsplit
      simp [hxs, Assoc.keys, Function.comp_def]
    have hnodup := h.1
    rw [hkeys] at hnodup
    intro hshared
    have hmem : c.mapKey k ∈ (Assoc.keys back).map c.mapKey := hshared ▸ List.mem_map_of_mem hl
    exact (List.nodup_cons.1 hnodup.of_append_right).1 hmem
  · trivial

theorem proper_renameValue_of_step? (h : (c.renameValue v).Proper) (hw : v.step? s = some w) :
    (c.renameValue w).Proper := by
  cases v with
  | document d =>
      cases s with
      | key k =>
          obtain ⟨xs⟩ := d
          rw [renameValue, Value.Proper, renameDocument, Document.Proper, renameEntries_eq_map,
            Document.properEntries_iff] at h
          have hmem : (k, w) ∈ xs := Assoc.mem_of_get?_eq_some hw
          exact h.2 _ (List.mem_map_of_mem hmem)
      | item i => cases hw
  | array vs =>
      cases s with
      | key k => cases hw
      | item i =>
          rw [renameValue, Value.Proper, renameItems_eq_map, Value.properItems_iff] at h
          have hmem : w ∈ vs := List.mem_of_getElem? hw
          exact h _ (List.mem_map_of_mem hmem)
  | _ => cases s <;> cases hw

theorem unshadowed_of_proper (h : (c.renameValue v).Proper) (path : List Step) :
    c.Unshadowed v path := by
  induction path generalizing v with
  | nil => trivial
  | cons s rest ih =>
      exact ⟨c.lastStored_of_proper h s, fun w hw => ih (c.proper_renameValue_of_step? h hw)⟩

end Paths

end Context

namespace Geo.Geometry

mutual

/-- The keys of the document of a geometry, with those of the geometries in it. -/
def members : Geometry → List String
  | .collection gs => "type" :: "geometries" :: membersAll gs
  | _ => ["type", "coordinates"]

/-- The keys of the documents of geometries. -/
def membersAll : List Geometry → List String
  | [] => []
  | g :: gs => members g ++ membersAll gs

end

end Geo.Geometry

namespace Context

variable (c : Context)

section Coordinates

theorem mapValue_array {vs : List Value} (h : ∀ v ∈ vs, c.mapValue v = v) :
    c.mapValue (.array vs) = .array vs := by
  rw [mapValue, mapItems_eq_map]
  exact congrArg Value.array (List.map_congr_left h |>.trans (List.map_id vs))

theorem mapValue_point (p : Point) : c.mapValue p.toValue = p.toValue :=
  c.mapValue_array (by simp [mapValue])

theorem mapValue_pointsValue (ps : List Point) : c.mapValue (pointsValue ps) = pointsValue ps := by
  refine c.mapValue_array fun v hv => ?_
  obtain ⟨p, _, rfl⟩ := List.mem_map.1 hv
  exact c.mapValue_point p

theorem mapValue_ringsValue (rings : List (List Point)) :
    c.mapValue (ringsValue rings) = ringsValue rings := by
  refine c.mapValue_array fun v hv => ?_
  obtain ⟨ps, _, rfl⟩ := List.mem_map.1 hv
  exact c.mapValue_pointsValue ps

end Coordinates

section Members

/-- Two entries that are stored under different keys are mapped one by one. -/
theorem mapDocument_typed {kind key : String} (h : c.mapKey "type" ≠ c.mapKey key) (v : Value) :
    c.mapDocument (Geometry.typed kind key v) =
      ⟨[(c.mapKey "type", .string kind), (c.mapKey key, c.mapValue v)]⟩ := by
  have hnodup : (Assoc.keys ([] ++ [(c.mapKey "type", Value.string kind),
      (c.mapKey key, c.mapValue v)])).Nodup := by
    simpa [Assoc.keys] using h
  have hentries : (c.mapDocument (Geometry.typed kind key v)).entries =
      [(c.mapKey "type", .string kind), (c.mapKey key, c.mapValue v)] := by
    rw [entries_mapDocument]
    exact Assoc.putAll_eq_append hnodup
  rw [← hentries, Document.mk_entries]

theorem get?_typed (kind key k : String) (v : Value) : (Geometry.typed kind key v).get? k =
    if "type" = k then some (.string kind) else if key = k then some v else none :=
  rfl

/-- A typed document stays the same exactly if its two keys do, and the value of the second. -/
theorem same_mapDocument_typed_iff {kind key : String} (hkey : key ≠ "type") {vs : List Value} :
    (c.mapDocument (Geometry.typed kind key (.array vs))).same
        (Geometry.typed kind key (.array vs)) = true ↔
      c.mapKey "type" = "type" ∧ c.mapKey key = key ∧
        (c.mapValue (.array vs)).same (.array vs) = true := by
  constructor
  · intro h
    obtain ⟨hsize, hentries⟩ := Document.same_iff.1 h
    have hapart : c.mapKey "type" ≠ c.mapKey key := by
      intro hshared
      have hkeys : (c.mapDocument (Geometry.typed kind key (.array vs))).keys =
          [c.mapKey "type"] := by
        rw [keys_mapDocument]
        simp [Document.keys, Assoc.keys, Geometry.typed, ← hshared, List.eraseDups_cons]
      rw [← Assoc.length_keys, ← Document.keys, hkeys] at hsize
      simp [Geometry.typed] at hsize
    rw [c.mapDocument_typed hapart] at hentries
    simp only [List.forall_mem_cons, get?_typed] at hentries
    obtain ⟨⟨v, hv, htype⟩, ⟨w, hw, hvalue⟩, _⟩ := hentries
    have htypeKept : c.mapKey "type" = "type" := by
      by_contra hne
      rw [if_neg (Ne.symm hne)] at hv
      split at hv
      · cases hv
        simp [Value.same] at htype
      · cases hv
    rw [if_neg (fun heq => hapart (htypeKept.trans heq))] at hw
    split at hw
    · rename_i hkept
      cases hw
      exact ⟨htypeKept, hkept.symm, hvalue⟩
    · cases hw
  · rintro ⟨htype, hkept, hvalue⟩
    have hapart : c.mapKey "type" ≠ c.mapKey key := by
      rw [htype, hkept]
      exact hkey.symm
    rw [c.mapDocument_typed hapart, htype, hkept, Document.same_iff]
    have hget : (Geometry.typed kind key (.array vs)).get? key = some (.array vs) := by
      rw [get?_typed, if_neg hkey.symm, if_pos rfl]
    refine ⟨rfl, List.forall_mem_cons.2 ⟨⟨.string kind, rfl, by simp [Value.same]⟩,
      List.forall_mem_singleton.2 ⟨.array vs, hget, hvalue⟩⟩⟩

/-- Coordinates are never renamed, so of a document of coordinates only the keys count. -/
theorem same_mapDocument_coordinates_iff (kind : String) {vs : List Value}
    (h : c.mapValue (.array vs) = .array vs) (hproper : (Value.array vs).Proper) :
    (c.mapDocument (Geometry.typed kind "coordinates" (.array vs))).same
        (Geometry.typed kind "coordinates" (.array vs)) = true ↔
      ∀ k ∈ ["type", "coordinates"], c.mapKey k = k := by
  rw [c.same_mapDocument_typed_iff (by decide), h, Value.same_self hproper]
  simp

mutual

/-- The document of a geometry stays the same exactly if none of its keys is renamed. -/
theorem same_mapDocument_toDocument_iff : ∀ g : Geometry,
    (c.mapDocument g.toDocument).same g.toDocument = true ↔ ∀ k ∈ g.members, c.mapKey k = k
  | .point p => c.same_mapDocument_coordinates_iff _ (c.mapValue_point p) p.proper_toValue
  | .multiPoint ps =>
      c.same_mapDocument_coordinates_iff _ (c.mapValue_pointsValue ps) (proper_pointsValue ps)
  | .lineString ps =>
      c.same_mapDocument_coordinates_iff _ (c.mapValue_pointsValue ps) (proper_pointsValue ps)
  | .multiLineString lines =>
      c.same_mapDocument_coordinates_iff _ (c.mapValue_ringsValue lines) (proper_ringsValue lines)
  | .polygon rings =>
      c.same_mapDocument_coordinates_iff _ (c.mapValue_ringsValue rings) (proper_ringsValue rings)
  | .multiPolygon polygons => by
      refine c.same_mapDocument_coordinates_iff _ (c.mapValue_array fun v hv => ?_)
        (Value.proper_array fun v hv => ?_)
      · obtain ⟨rings, _, rfl⟩ := List.mem_map.1 hv
        exact c.mapValue_ringsValue rings
      · obtain ⟨rings, _, rfl⟩ := List.mem_map.1 hv
        exact proper_ringsValue rings
  | .collection gs => by
      rw [Geometry.toDocument, c.same_mapDocument_typed_iff (by decide), mapValue,
        Value.same_array, same_mapItems_toValues_iff gs, Geometry.members]
      simp

theorem same_mapItems_toValues_iff : ∀ gs : List Geometry,
    Value.sameItems (c.mapItems (Geometry.toValues gs)) (Geometry.toValues gs) = true ↔
      ∀ k ∈ Geometry.membersAll gs, c.mapKey k = k
  | [] => by
      simp [Geometry.toValues, mapItems, Value.sameItems, Geometry.membersAll]
  | g :: gs => by
      rw [Geometry.toValues, mapItems, mapValue, Value.sameItems, Bool.and_eq_true,
        Value.same_document, same_mapDocument_toDocument_iff g, same_mapItems_toValues_iff gs,
        Geometry.membersAll, List.forall_mem_append]

end

end Members

end Context

end DocFilter
