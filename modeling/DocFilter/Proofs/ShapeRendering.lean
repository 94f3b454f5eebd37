import DocFilter.Proofs.EqualityLaws
import DocFilter.Proofs.Reachable

/-!
# Shapes told apart by what they render to

Points become arrays of coordinates, and arrays are nested as deep as the
geometry needs.  Nothing is lost in this, since arrays are compared item by item
and coordinates by their bits (`Value.Faithful`).  Kinds whose coordinates look
alike are told apart by the type in the document of a geometry and by the key
that a flat shape stands under.

A geometry as an operand stands under a key of its own, which no flat shape
uses.  So a shape can be told from its operand, whether it was recorded to be
near to, to be within or to meet (`shapes_render_faithfully`).
-/

namespace DocFilter

open Geo

namespace Value

section Faithful

/-- The values are equal exactly for what is the same. -/
def Faithful {α : Type} (render : α → Value) : Prop :=
  ∀ a b, (render a).same (render b) = true ↔ a = b

variable {α : Type} {render : α → Value}

/-- Lists are told apart if their items are. -/
theorem Faithful.array (h : Faithful render) :
    Faithful fun xs : List α => .array (xs.map render) := by
  intro xs ys
  rw [same_array, sameItems_iff, List.forall₂_map_left_iff, List.forall₂_map_right_iff,
    funext₂ fun a b => propext (h a b), List.forall₂_eq_eq_eq]

end Faithful

end Value

open Value (Faithful)

section Documents

variable {k l kind kind' : String} {v w : Value}

@[simp] theorem Document.same_single_iff :
    (single k v).same (single l w) = true ↔ k = l ∧ v.same w = true := by
  rw [Document.same_iff]
  simp [single, get?, Assoc.get?, @eq_comm _ l k]

theorem Geo.Geometry.same_typed_iff (hk : k ≠ "type") :
    (typed kind k v).same (typed kind' l w) = true ↔
      kind = kind' ∧ k = l ∧ v.same w = true := by
  rw [Document.same_iff]
  simp [typed, Document.get?, Assoc.get?, hk.symm, Value.same, @eq_comm _ l k]

end Documents

namespace Geo

section Coordinates

theorem Point.faithful_toValue : Faithful Point.toValue := by
  rintro ⟨x, y⟩ ⟨x', y'⟩
  simp [Point.toValue, Value.sameItems, Value.same]

theorem faithful_pointsValue : Faithful pointsValue :=
  Point.faithful_toValue.array

theorem faithful_ringsValue : Faithful ringsValue :=
  faithful_pointsValue.array

theorem Circle.faithful_toValue : Faithful Circle.toValue := by
  rintro ⟨center, radius⟩ ⟨center', radius'⟩
  simp [Circle.toValue, Value.sameItems, Value.same, Point.faithful_toValue center center']

end Coordinates

namespace Geometry

/-- The key beside the type. -/
def contentKey : Geometry → String
  | .collection _ => "geometries"
  | _ => "coordinates"

/-- The value beside the type. -/
def content : Geometry → Value
  | .point p => p.toValue
  | .multiPoint ps => pointsValue ps
  | .lineString ps => pointsValue ps
  | .multiLineString lines => ringsValue lines
  | .polygon rings => ringsValue rings
  | .multiPolygon polygons => .array (polygons.map ringsValue)
  | .collection gs => .array (toValues gs)

variable {g h : Geometry}

theorem toDocument_eq_typed (g : Geometry) :
    g.toDocument = typed g.kind g.contentKey g.content := by
  cases g <;> rw [toDocument] <;> rfl

theorem contentKey_ne_type (g : Geometry) : g.contentKey ≠ "type" := by
  cases g <;> simp [contentKey]

/-- Equal documents of geometries have the same type and equal content. -/
theorem same_toDocument_iff : g.toDocument.same h.toDocument = true ↔
    g.kind = h.kind ∧ g.contentKey = h.contentKey ∧ g.content.same h.content = true := by
  rw [toDocument_eq_typed, toDocument_eq_typed,
    same_typed_iff g.contentKey_ne_type]

mutual

theorem eq_of_same_toDocument : ∀ {g h : Geometry}, g.toDocument.same h.toDocument = true → g = h
  | .point p, h, hs => by
      obtain ⟨hkind, -, hcontent⟩ := same_toDocument_iff.1 hs
      cases h with
      | point q => rw [(Point.faithful_toValue p q).1 hcontent]
      | _ => simp [kind] at hkind
  | .multiPoint ps, h, hs => by
      obtain ⟨hkind, -, hcontent⟩ := same_toDocument_iff.1 hs
      cases h with
      | multiPoint qs => rw [(faithful_pointsValue ps qs).1 hcontent]
      | _ => simp [kind] at hkind
  | .lineString ps, h, hs => by
      obtain ⟨hkind, -, hcontent⟩ := same_toDocument_iff.1 hs
      cases h with
      | lineString qs => rw [(faithful_pointsValue ps qs).1 hcontent]
      | _ => simp [kind] at hkind
  | .multiLineString lines, h, hs => by
      obtain ⟨hkind, -, hcontent⟩ := same_toDocument_iff.1 hs
      cases h with
      | multiLineString lines' => rw [(faithful_ringsValue lines lines').1 hcontent]
      | _ => simp [kind] at hkind
  | .polygon rings, h, hs => by
      obtain ⟨hkind, -, hcontent⟩ := same_toDocument_iff.1 hs
      cases h with
      | polygon rings' => rw [(faithful_ringsValue rings rings').1 hcontent]
      | _ => simp [kind] at hkind
  | .multiPolygon polygons, h, hs => by
      obtain ⟨hkind, -, hcontent⟩ := same_toDocument_iff.1 hs
      cases h with
      | multiPolygon polygons' =>
          rw [(faithful_ringsValue.array polygons polygons').1 hcontent]
      | _ => simp [kind] at hkind
  | .collection gs, h, hs => by
      obtain ⟨hkind, -, hcontent⟩ := same_toDocument_iff.1 hs
      cases h with
      | collection gs' =>
          rw [content, content, Value.same_array] at hcontent
          rw [eq_of_sameItems_toValues hcontent]
      | _ => simp [kind] at hkind

theorem eq_of_sameItems_toValues : ∀ {gs hs : List Geometry},
    Value.sameItems (toValues gs) (toValues hs) = true → gs = hs
  | [], hs, h => by
      cases hs with
      | nil => rfl
      | cons g gs => simp [toValues, Value.sameItems] at h
  | g :: gs, hs, h => by
      cases hs with
      | nil => simp [toValues, Value.sameItems] at h
      | cons g' gs' =>
          rw [toValues, toValues, Value.sameItems, Bool.and_eq_true, Value.same_document] at h
          rw [eq_of_same_toDocument h.1, eq_of_sameItems_toValues h.2]

end

theorem faithful_toDocument : Faithful fun g : Geometry => .document g.toDocument := by
  intro g h
  rw [Value.same_document]
  refine ⟨eq_of_same_toDocument, ?_⟩
  rintro rfl
  exact Document.same_self g.proper_toDocument

end Geometry

namespace Shape

/-- The shape as an operand: a geometry stands under a key of its own. -/
def toOperand : Shape → Value
  | .geometry g => .document g.toOperand
  | s => s.toCommand

variable {s : Shape}

theorem toValue_eq_toCommand (s : Shape) : s.toValue = s.toCommand := by
  cases s <;> rfl

theorem toOperand_eq_toCommand (h : s.isGeometry = false) : s.toOperand = s.toCommand := by
  cases s with
  | geometry g => cases h
  | _ => rfl

@[simp] theorem not_same_single_toDocument (k : String) (v : Value) (g : Geometry) :
    (Document.single k v).same g.toDocument = false := by
  rw [Geometry.toDocument_eq_typed, Bool.eq_false_iff, Ne, Document.same_iff]
  simp [Document.single, Geometry.typed]

@[simp] theorem not_same_toDocument_single (k : String) (v : Value) (g : Geometry) :
    g.toDocument.same (Document.single k v) = false := by
  rw [Geometry.toDocument_eq_typed, Bool.eq_false_iff, Ne, Document.same_iff]
  simp [Document.single, Geometry.typed]

/-- Flat shapes stand under different keys, and the document of a geometry has two keys. -/
theorem faithful_toCommand : Faithful toCommand := by
  intro s t
  cases s with
  | point p =>
      cases t with
      | point q => simp [toCommand, Point.faithful_toValue p q]
      | _ => simp [toCommand, Point.toValue, Value.same]
  | box b =>
      cases t with
      | box b' =>
          obtain ⟨first, second⟩ := b
          obtain ⟨first', second'⟩ := b'
          simp [toCommand, Value.sameItems, Point.faithful_toValue first first',
            Point.faithful_toValue second second']
      | _ => simp [toCommand, Point.toValue, Value.same]
  | circle c =>
      cases t with
      | circle c' => simp [toCommand, Circle.faithful_toValue c c']
      | _ => simp [toCommand, Point.toValue, Value.same]
  | sphere c =>
      cases t with
      | sphere c' => simp [toCommand, Circle.faithful_toValue c c']
      | _ => simp [toCommand, Point.toValue, Value.same]
  | polygon ps =>
      cases t with
      | polygon qs => simp [toCommand, faithful_pointsValue ps qs]
      | _ => simp [toCommand, Point.toValue, Value.same]
  | geometry g =>
      cases t with
      | geometry h => simpa [toCommand] using Geometry.faithful_toDocument g h
      | _ => simp [toCommand, Point.toValue, Value.same]

/-- No flat shape stands under the key of geometries. -/
theorem faithful_toOperand : Faithful toOperand := by
  intro s t
  cases s with
  | geometry g =>
      cases t with
      | geometry h =>
          simpa [toOperand, Geometry.toOperand] using Geometry.faithful_toDocument g h
      | _ => simp [toOperand, Geometry.toOperand, toCommand, Point.toValue, Value.same]
  | _ =>
      cases t with
      | geometry h => simp [toOperand, Geometry.toOperand, toCommand, Point.toValue, Value.same]
      | _ =>
          rw [toOperand_eq_toCommand rfl, toOperand_eq_toCommand rfl]
          exact faithful_toCommand _ _

/-- A shape is a geometry exactly if its operand is a document with the key of geometries. -/
theorem isGeometry_iff (s : Shape) : s.isGeometry = true ↔
    ∃ d, s.toOperand = .document d ∧ d.contains "$geometry" = true := by
  cases s <;> simp [isGeometry, toOperand, toCommand, Geometry.toOperand, Point.toValue,
    Document.contains, Document.single, Assoc.contains, Assoc.get?]

end Shape

end Geo

theorem Operand.render_shape (s : Shape) : (Operand.shape s).render = s.toOperand := by
  cases s <;> rfl

theorem Operand.render_command (s : Shape) : (Operand.command s).render = s.toOperand := by
  cases s <;> rfl

namespace Criteria

section Recording

/-- The operator that a call records for a shape. -/
def Call.shape? : Call → Option (Operator × Shape)
  | .near s => some (.near, s)
  | .nearSphere s => some (.nearSphere, s)
  | .within s => some (.geoWithin, s)
  | .withinSphere circle => some (.geoWithin, .sphere circle)
  | .intersects g => some (.geoIntersects, .geometry g)
  | _ => none

/-- The call is accepted, and then the operator has an operand that renders to this value. -/
def RecordsRendered (c : Criteria) (call : Call) (op : Operator) (v : Value) : Prop :=
  ∃ d o, c.call call = .ok d ∧ d.active.operand? op = some o ∧ o.render = v

variable {c : Criteria} {call : Call} {op : Operator} {s : Shape} {v : Value}

theorem recorded_of_shape? (h : call.shape? = some (op, s)) :
    ∃ o, call.recorded = some (op, .ok o) ∧ o.render = s.toOperand := by
  cases call with
  | near t =>
      cases h
      exact ⟨_, rfl, Operand.render_shape s⟩
  | nearSphere t =>
      cases h
      exact ⟨_, rfl, Operand.render_shape s⟩
  | within t =>
      cases h
      exact ⟨_, rfl, Operand.render_command s⟩
  | withinSphere circle =>
      cases h
      exact ⟨_, rfl, Operand.render_command (.sphere circle)⟩
  | intersects g =>
      cases h
      exact ⟨_, rfl, Operand.render_shape (.geometry g)⟩
  | _ => simp [Call.shape?] at h

/-- A call for a shape is accepted, and what it records renders to the operand of the shape. -/
theorem recordsRendered_iff (h : call.shape? = some (op, s)) :
    RecordsRendered c call op v ↔ v = s.toOperand := by
  obtain ⟨o, hrecorded, hrender⟩ := recorded_of_shape? h
  have hcall : c.call call = .ok (c.put op o) := call_of_recorded hrecorded c
  have hoperand : (c.put op o).active.operand? op = some o := c.active.operand?_put_self op o
  constructor
  · rintro ⟨d, o', hd, ho', rfl⟩
    cases hcall.symm.trans hd
    cases hoperand.symm.trans ho'
    exact hrender
  · rintro rfl
    exact ⟨c.put op o, o, hcall, hoperand, hrender⟩

/-- **Shapes are rendered faithfully.**  Two shapes are equal exactly if their commands are, exactly
if their bare values are, and exactly if any two calls, of any criteria, that record one operator
for them record operands that are rendered alike.  Such an operand is a document with the key of
geometries exactly for a geometry, and then it has this key only, for the geometry's document. -/
theorem shapes_render_faithfully (a b : Shape) :
    ((a.toCommand == b.toCommand) = true ↔ (a == b) = true) ∧
      ((a.toValue == b.toValue) = true ↔ (a == b) = true) ∧
      (∀ (c c' : Criteria) (call call' : Call) (op : Operator),
        call.shape? = some (op, a) → call'.shape? = some (op, b) →
          ∃ v w, RecordsRendered c call op v ∧ RecordsRendered c' call' op w ∧
            ((v == w) = true ↔ (a == b) = true)) ∧
      ∀ (c : Criteria) (call : Call) (op : Operator), call.shape? = some (op, a) →
        ∃ v, RecordsRendered c call op v ∧
          (a.isGeometry = true ↔ ∃ d, v = .document d ∧ d.contains "$geometry" = true) ∧
          ∀ g, a = .geometry g → v = .document (.single "$geometry" (.document g.toDocument)) := by
  have hshape : (a == b) = true ↔ a = b := Shape.same_iff_eq
  refine ⟨?_, ?_, ?_, ?_⟩
  · exact (Shape.faithful_toCommand a b).trans hshape.symm
  · rw [Shape.toValue_eq_toCommand, Shape.toValue_eq_toCommand]
    exact (Shape.faithful_toCommand a b).trans hshape.symm
  · intro c c' call call' op ha hb
    exact ⟨a.toOperand, b.toOperand, (recordsRendered_iff ha).2 rfl, (recordsRendered_iff hb).2 rfl,
      (Shape.faithful_toOperand a b).trans hshape.symm⟩
  · intro c call op ha
    refine ⟨a.toOperand, (recordsRendered_iff ha).2 rfl, a.isGeometry_iff, ?_⟩
    rintro g rfl
    rfl

/-- One origin as points or as a line, two collections deep, makes a difference, and so does the
sign of a zero.  A circle on the sphere is rendered alike by both calls that take it. -/
theorem shapes_render_faithfully_nested :
    let origin : Point := ⟨⟨0⟩, ⟨0⟩⟩
    let mirrored : Point := ⟨⟨0⟩, ⟨0x8000000000000000⟩⟩
    let points : Shape := .geometry (.collection [.collection [.multiPoint [origin]]])
    let line : Shape := .geometry (.collection [.collection [.lineString [origin]]])
    let circle : Geo.Circle := ⟨origin, ⟨0⟩⟩
    (points.toCommand == line.toCommand) = false ∧
      ((Shape.point origin).toValue == (Shape.point mirrored).toValue) = false ∧
      (∃ v w, RecordsRendered (field "a") (.near points) .near v ∧
        RecordsRendered (field "b") (.near line) .near w ∧ (v == w) = false) ∧
      (∃ v w, RecordsRendered (field "a") (.within (.sphere circle)) .geoWithin v ∧
        RecordsRendered (field "b") (.withinSphere circle) .geoWithin w ∧ (v == w) = true) ∧
      ∃ d, RecordsRendered (field "a") (.near points) .near (.document d) ∧
        d.keys = ["$geometry"] := by
  intro origin mirrored points line circle
  have hkind : ¬(points == line) = true := by decide +kernel
  have hsign : ¬(Shape.point origin == Shape.point mirrored) = true := by decide +kernel
  obtain ⟨hcommand, -, hrecorded, hoperand⟩ := shapes_render_faithfully points line
  refine ⟨Bool.eq_false_iff.2 (hkind ∘ hcommand.1), Bool.eq_false_iff.2
    (hsign ∘ (shapes_render_faithfully (.point origin) (.point mirrored)).2.1.1), ?_, ?_, ?_⟩
  · obtain ⟨v, w, hv, hw, hvw⟩ :=
      hrecorded (field "a") (field "b") (.near points) (.near line) _ rfl rfl
    exact ⟨v, w, hv, hw, Bool.eq_false_iff.2 (hkind ∘ hvw.1)⟩
  · obtain ⟨v, w, hv, hw, hvw⟩ := (shapes_render_faithfully (.sphere circle) (.sphere circle)).2.2.1
      (field "a") (field "b") (.within (.sphere circle)) (.withinSphere circle) _ rfl rfl
    exact ⟨v, w, hv, hw, hvw.2 (by decide +kernel)⟩
  · obtain ⟨v, hv, -, hdocument⟩ := hoperand (field "a") (.near points) _ rfl
    exact ⟨_, hdocument _ rfl ▸ hv, rfl⟩

end Recording

end Criteria

end DocFilter
