import DocFilter.Proofs.MappedGeometry
import DocFilter.Proofs.RenderedReferences

/-!
# Keys of documents and fields of that name

A context renames the keys of a document by cutting the first segment off the
text of a key, and it resolves a field by splitting a path into segments, which
are joined again when the reference is written.  Both lead to the same path
(`writesKey_iff`), whether the field is exposed or not.

What a whole document is mapped to is described here by relations that follow
its shape and know of fields only: which key may be written for a key
(`WritesKey`), and what may be written for a value (`Writes`).  The mapped
document is the only one that they allow (`writes_iff`).
-/

namespace DocFilter

open DocFilter.Path (BeginsWithDollar)

namespace Value

/-- The value is neither a document nor an array. -/
def IsLeaf : Value → Prop
  | .array _ | .document _ => False
  | _ => True

end Value

namespace Context

/-- The key that is written for a key: an operator stands as it is, and any other key becomes the
path that the field of that name resolves to, under this context or without its restriction.  An
empty key names no field. -/
structure WritesKey (c : Context) (k k' : String) : Prop where
  operator : BeginsWithDollar k → k' = k
  field : k ≠ "" → ¬ BeginsWithDollar k → ∀ r, c.resolve (.ofName k) = .ok r → k' = r.raw
  unrestricted : k ≠ "" → ¬ BeginsWithDollar k →
    ∀ r, { c with exposed := none }.resolve (.ofName k) = .ok r → k' = r.raw
  empty : k = "" → k' = (Assoc.get? "" c.mappings).getD ""

mutual

/-- What is written for a value.  The entries of a document are written one after the other. -/
inductive Writes (c : Context) : Value → Value → Prop
  | leaf {v : Value} (h : v.IsLeaf) : Writes c v v
  | array {vs ws : List Value} (h : WritesItems c vs ws) : Writes c (.array vs) (.array ws)
  | document {entries written : List (String × Value)} (h : WritesEntries c entries written) :
      Writes c (.document ⟨entries⟩) (.document (.ofList written))

/-- What is written for the items of an array. -/
inductive WritesItems (c : Context) : List Value → List Value → Prop
  | nil : WritesItems c [] []
  | cons {v w : Value} {vs ws : List Value} (hv : Writes c v w) (hvs : WritesItems c vs ws) :
      WritesItems c (v :: vs) (w :: ws)

/-- What is written for the entries of a document. -/
inductive WritesEntries (c : Context) : List (String × Value) → List (String × Value) → Prop
  | nil : WritesEntries c [] []
  | cons {k k' : String} {v w : Value} {rest written : List (String × Value)}
      (hk : WritesKey c k k') (hv : Writes c v w) (hrest : WritesEntries c rest written) :
      WritesEntries c ((k, v) :: rest) ((k', w) :: written)

end

/-- The step that is written for a step. -/
inductive WritesStep (c : Context) : Step → Step → Prop
  | key {k k' : String} (h : c.WritesKey k k') : WritesStep c (.key k) (.key k')
  | item (i : Nat) : WritesStep c (.item i) (.item i)

variable {c : Context} {k k' : String}

section Keys

theorem mapKey_of_dollar (h : BeginsWithDollar k) : c.mapKey k = k := by
  obtain ⟨rest, hrest⟩ := h
  rw [mapKey, ← hrest]
  rfl

theorem mapKey_of_not_dollar (h : ¬ BeginsWithDollar k) : c.mapKey k = c.mapPath k := by
  unfold mapKey
  split
  · next rest hrest =>
      exact absurd ⟨rest, hrest.symm⟩ h
  · rfl

theorem mapPath_empty : c.mapPath "" = (Assoc.get? "" c.mappings).getD "" := by
  have hroot : Path.root "" = "" := by decide
  have htail : Path.tail "" = "" := by decide
  rw [mapPath, hroot, htail]
  cases Assoc.get? "" c.mappings with
  | none =>
      rfl
  | some stored =>
      exact String.append_empty

/-- A field that is its own path resolves to the stored path. -/
theorem raw_of_resolve_ofName {r : Reference} (h : c.resolve (.ofName k) = .ok r) :
    r.raw = c.mapPath k := by
  obtain ⟨_, _, _, rfl⟩ := resolve_eq_ok_iff.1 h
  exact Reference.raw_ofPath _

theorem resolve_unrestricted (h : k ≠ "") :
    { c with exposed := none }.resolve (.ofName k) = .ok (.ofPath (c.mapPath k)) :=
  resolve_eq_ok_iff.2 ⟨h, h, rfl, rfl⟩

/-- The key that is written is the one that the context maps the key to. -/
theorem writesKey_iff : c.WritesKey k k' ↔ k' = c.mapKey k := by
  constructor
  · intro h
    by_cases hdollar : BeginsWithDollar k
    · rw [mapKey_of_dollar hdollar]
      exact h.operator hdollar
    · rw [mapKey_of_not_dollar hdollar]
      by_cases hempty : k = ""
      · subst hempty
        rw [mapPath_empty]
        exact h.empty rfl
      · rw [h.unrestricted hempty hdollar _ (resolve_unrestricted hempty), Reference.raw_ofPath]
  · rintro rfl
    refine ⟨mapKey_of_dollar, ?_, ?_, ?_⟩
    · intro _ hdollar r hr
      rw [mapKey_of_not_dollar hdollar, raw_of_resolve_ofName hr]
    · intro _ hdollar r hr
      rw [mapKey_of_not_dollar hdollar, raw_of_resolve_ofName hr]
      rfl
    · rintro rfl
      rw [mapKey_of_not_dollar (by decide), mapPath_empty]

theorem forall₂_writesStep_map (path : List Step) :
    List.Forall₂ c.WritesStep path (path.map c.mapStep) := by
  induction path with
  | nil =>
      exact .nil
  | cons s rest ih =>
      refine .cons ?_ ih
      cases s with
      | key k =>
          exact .key (writesKey_iff.2 rfl)
      | item i =>
          exact .item i

end Keys

section Values

theorem mapValue_of_isLeaf {v : Value} (h : v.IsLeaf) : c.mapValue v = v := by
  cases v with
  | array vs =>
      exact h.elim
  | document d =>
      exact h.elim
  | _ =>
      rw [mapValue] <;> simp

mutual

theorem writes_mapValue : ∀ v : Value, c.Writes v (c.mapValue v)
  | .array vs => by
      rw [mapValue]
      exact .array (writesItems_mapItems vs)
  | .document ⟨entries⟩ => by
      rw [mapValue, mapDocument]
      exact .document (writesEntries_mapEntries entries)
  | .null | .bool _ | .int32 _ | .int64 _ | .double _ | .string _ | .binary _ | .regex _ => by
      rw [mapValue_of_isLeaf (by trivial)]
      exact .leaf trivial

theorem writesItems_mapItems : ∀ vs : List Value, c.WritesItems vs (c.mapItems vs)
  | [] => by
      rw [mapItems]
      exact .nil
  | v :: vs => by
      rw [mapItems]
      exact .cons (writes_mapValue v) (writesItems_mapItems vs)

theorem writesEntries_mapEntries :
    ∀ entries : List (String × Value), c.WritesEntries entries (c.mapEntries entries)
  | [] => by
      rw [mapEntries]
      exact .nil
  | (k, v) :: rest => by
      rw [mapEntries]
      exact .cons (writesKey_iff.2 rfl) (writes_mapValue v) (writesEntries_mapEntries rest)

end

mutual

theorem Writes.eq_mapValue : ∀ {v w : Value}, c.Writes v w → w = c.mapValue v
  | _, _, .leaf h => (mapValue_of_isLeaf h).symm
  | _, _, .array h => by
      rw [mapValue, h.eq_mapItems]
  | _, _, .document h => by
      rw [mapValue, mapDocument, h.eq_mapEntries]

theorem WritesItems.eq_mapItems : ∀ {vs ws : List Value}, c.WritesItems vs ws → ws = c.mapItems vs
  | _, _, .nil => by
      rw [mapItems]
  | _, _, .cons hv hvs => by
      rw [mapItems, hv.eq_mapValue, hvs.eq_mapItems]

theorem WritesEntries.eq_mapEntries : ∀ {entries written : List (String × Value)},
    c.WritesEntries entries written → written = c.mapEntries entries
  | _, _, .nil => by
      rw [mapEntries]
  | _, _, .cons hk hv hrest => by
      rw [mapEntries, writesKey_iff.1 hk, hv.eq_mapValue, hrest.eq_mapEntries]

end

/-- What is written for a value is what the context maps it to, and nothing else. -/
theorem writes_iff {v w : Value} : c.Writes v w ↔ w = c.mapValue v := by
  constructor
  · exact Writes.eq_mapValue
  · rintro rfl
    exact writes_mapValue v

end Values

end Context

namespace Scope

section Documents

theorem context_nest (s : Scope) (inner : List (List String)) :
    (s.nest inner).context = s.context := by
  induction inner using List.reverseRecOn with
  | nil =>
      rfl
  | append_singleton inner names ih =>
      rw [nest_concat, context, ih]

/-- **Documents are renamed as fields are resolved.**  At every depth, the key that is written for a
key is the path of the field of that name as the context resolves it; operators and all values but
documents and arrays are written as they are; and the mapped document is the only one of which this
can be said.  It does not depend on what is bound.  So what stands at a path stands at the path with
the keys so written, unless an entry on the way is overwritten by a later one of the same key. -/
theorem documents_are_renamed_as_fields_resolve (s : Scope) (d : Document) :
    (∀ w, s.context.Writes (.document d) w ↔ w = .document (s.mapDocument d)) ∧
      (∀ inner, (s.nest inner).mapDocument d = s.mapDocument d) ∧
      ∀ path v, (Value.document d).at? path = some v → s.context.Unshadowed (.document d) path →
        ∃ path' w, List.Forall₂ s.context.WritesStep path path' ∧
          (Value.document (s.mapDocument d)).at? path' = some w ∧ s.context.Writes v w ∧
          (v.IsLeaf → w = v) := by
  have hmap : Value.document (s.mapDocument d) = s.context.mapValue (.document d) := by
    rw [Context.mapValue, mapDocument]
  refine ⟨fun w => ?_, fun inner => ?_, fun path v hv hpath => ?_⟩
  · rw [hmap, Context.writes_iff]
  · rw [mapDocument, context_nest, mapDocument]
  · refine ⟨path.map s.context.mapStep, s.context.mapValue v, Context.forall₂_writesStep_map path,
      ?_, Context.writes_iff.2 rfl, Context.mapValue_of_isLeaf⟩
    rw [hmap]
    exact s.context.at?_mapValue hv hpath

/-- A key below an operator and in an array becomes the path of the field of that name, with a dot
in the stored name and although the field is bound. -/
theorem documents_are_renamed_as_fields_resolve_nested :
    (root { mappings := [("price", "unit.price")] }).resolve (.ofName "price.net") =
        .ok (.path ["unit", "price", "net"]) ∧
      (Value.document ((nested ["price"]
          (root { mappings := [("price", "unit.price")] })).mapDocument
        ⟨[("$or", .array [.document ⟨[("price.net", .bool true)]⟩])]⟩)).at?
          [.key "$or", .item 0, .key "unit.price.net"] = some (.bool true) := by
  have hresolve : (root { mappings := [("price", "unit.price")] }).resolve (.ofName "price.net") =
      .ok (.path ["unit", "price", "net"]) := by
    decide +kernel
  have hraw : (Reference.path ["unit", "price", "net"]).raw = "unit.price.net" := by
    decide +kernel
  refine ⟨hresolve, ?_⟩
  obtain ⟨_, _, hpaths⟩ := documents_are_renamed_as_fields_resolve
    (nested ["price"] (root { mappings := [("price", "unit.price")] }))
    ⟨[("$or", .array [.document ⟨[("price.net", .bool true)]⟩])]⟩
  have hproper : (({ mappings := [("price", "unit.price")] } : Context).renameValue
      (.document ⟨[("$or", .array [.document ⟨[("price.net", .bool true)]⟩])]⟩)).Proper := by
    simp [Context.renameValue, Context.renameDocument, Context.renameEntries, Context.renameItems,
      Value.Proper, Document.Proper, Document.ProperEntries, Value.ProperItems]
  obtain ⟨path, w, hpath, hat, _, hleaf⟩ := hpaths [.key "$or", .item 0, .key "price.net"]
    (.bool true) rfl (Context.unshadowed_of_proper _ hproper _)
  obtain rfl : w = .bool true := hleaf trivial
  obtain _ | ⟨⟨hor⟩, _ | ⟨⟨⟩, _ | ⟨⟨hnet⟩, ⟨⟩⟩⟩⟩ := hpath
  rw [hor.operator (by decide), hnet.field (by decide) (by decide) _ hresolve, hraw] at hat
  exact hat

end Documents

end Scope

end DocFilter
