import DocFilter.Criteria.Node
import DocFilter.Proofs.Equality

/-!
# Shapes and operands as values

Equality of shapes is identity, and the values that shapes render to are
proper.  So equal operands render to equal values (`Operand.same_render`),
whether they hold values, which may list the entries of a document in another
order, or shapes, which may not differ at all.
-/

namespace DocFilter
namespace Geo

section Identity

namespace Geometry

mutual

theorem eq_of_same : ∀ {g h : Geometry}, g.same h = true → g = h
  | .point p, h, hs => by
      cases h <;> simp_all [same]
  | .multiPoint ps, h, hs => by
      cases h <;> simp_all [same]
  | .lineString ps, h, hs => by
      cases h <;> simp_all [same]
  | .multiLineString lines, h, hs => by
      cases h <;> simp_all [same]
  | .polygon rings, h, hs => by
      cases h <;> simp_all [same]
  | .multiPolygon polygons, h, hs => by
      cases h <;> simp_all [same]
  | .collection gs, h, hs => by
      cases h with
      | collection hs' =>
          rw [same] at hs
          rw [eq_of_sameAll hs]
      | _ =>
          simp [same] at hs

theorem eq_of_sameAll : ∀ {gs hs : List Geometry}, sameAll gs hs = true → gs = hs
  | [], hs, h => by
      cases hs with
      | nil =>
          rfl
      | cons g gs =>
          simp [sameAll] at h
  | g :: gs, hs, h => by
      cases hs with
      | nil =>
          simp [sameAll] at h
      | cons g' gs' =>
          rw [sameAll, Bool.and_eq_true] at h
          rw [eq_of_same h.1, eq_of_sameAll h.2]

end

end Geometry

theorem Shape.eq_of_same {s t : Shape} (h : s.same t = true) : s = t := by
  cases s with
  | geometry g =>
      cases t with
      | geometry g' =>
          rw [Geometry.eq_of_same h]
      | _ =>
          simp [same] at h
  | _ =>
      cases t <;> simp_all [same]

end Identity

section Proper

theorem Point.proper_toValue (p : Point) : p.toValue.Proper :=
  Value.proper_array (by simp [Value.Proper])

theorem proper_pointsValue (ps : List Point) : (pointsValue ps).Proper := by
  refine Value.proper_array fun v hv => ?_
  obtain ⟨p, _, rfl⟩ := List.mem_map.1 hv
  exact p.proper_toValue

theorem proper_ringsValue (rings : List (List Point)) : (ringsValue rings).Proper := by
  refine Value.proper_array fun v hv => ?_
  obtain ⟨ps, _, rfl⟩ := List.mem_map.1 hv
  exact proper_pointsValue ps

theorem Circle.proper_toValue (c : Circle) : c.toValue.Proper := by
  refine Value.proper_array fun v hv => ?_
  rcases List.mem_cons.1 hv with rfl | hv
  · exact c.center.proper_toValue
  · rw [List.mem_singleton.1 hv]
    simp [Value.Proper]

namespace Geometry

theorem proper_typed (kind : String) {key : String} (hkey : key ≠ "type") {v : Value}
    (hv : v.Proper) : (typed kind key v).Proper := by
  refine Document.proper_iff.2 ⟨?_, ?_⟩
  · simpa [typed, Document.Distinct, Document.keys, Assoc.keys] using hkey.symm
  · simpa [typed, Value.Proper] using hv

mutual

theorem proper_toDocument : ∀ g : Geometry, g.toDocument.Proper
  | .point p => by
      rw [toDocument]
      exact proper_typed _ (by decide) p.proper_toValue
  | .multiPoint ps => by
      rw [toDocument]
      exact proper_typed _ (by decide) (proper_pointsValue ps)
  | .lineString ps => by
      rw [toDocument]
      exact proper_typed _ (by decide) (proper_pointsValue ps)
  | .multiLineString lines => by
      rw [toDocument]
      exact proper_typed _ (by decide) (proper_ringsValue lines)
  | .polygon rings => by
      rw [toDocument]
      exact proper_typed _ (by decide) (proper_ringsValue rings)
  | .multiPolygon polygons => by
      rw [toDocument]
      refine proper_typed _ (by decide) (Value.proper_array fun v hv => ?_)
      obtain ⟨rings, _, rfl⟩ := List.mem_map.1 hv
      exact proper_ringsValue rings
  | .collection gs => by
      rw [toDocument]
      exact proper_typed _ (by decide) (Value.proper_array (proper_toValues gs))

theorem proper_toValues : ∀ gs : List Geometry, ∀ v ∈ toValues gs, v.Proper
  | [], v, hv => by
      rw [toValues] at hv
      exact absurd hv List.not_mem_nil
  | g :: gs, v, hv => by
      rw [toValues] at hv
      rcases List.mem_cons.1 hv with rfl | hv
      · rw [Value.Proper]
        exact proper_toDocument g
      · exact proper_toValues gs v hv

end

theorem proper_toOperand (g : Geometry) : g.toOperand.Proper :=
  Document.proper_single _ (by rw [Value.Proper]; exact g.proper_toDocument)

end Geometry

namespace Shape

theorem proper_toCommand (s : Shape) : s.toCommand.Proper := by
  cases s with
  | point p =>
      exact p.proper_toValue
  | box b =>
      rw [toCommand, Value.Proper]
      refine Document.proper_single _ (Value.proper_array fun v hv => ?_)
      rcases List.mem_cons.1 hv with rfl | hv
      · exact b.first.proper_toValue
      · rw [List.mem_singleton.1 hv]
        exact b.second.proper_toValue
  | circle c =>
      rw [toCommand, Value.Proper]
      exact Document.proper_single _ c.proper_toValue
  | sphere c =>
      rw [toCommand, Value.Proper]
      exact Document.proper_single _ c.proper_toValue
  | polygon corners =>
      rw [toCommand, Value.Proper]
      exact Document.proper_single _ (proper_pointsValue corners)
  | geometry g =>
      rw [toCommand, Value.Proper]
      exact g.proper_toDocument

theorem proper_toValue (s : Shape) : s.toValue.Proper := by
  cases s with
  | point p =>
      exact p.proper_toValue
  | geometry g =>
      rw [toValue, Value.Proper]
      exact g.proper_toDocument
  | _ =>
      simp only [toValue]
      exact proper_toCommand _

end Shape

end Proper

end Geo

namespace Operand

/-- Every operand but a value that is given renders to a proper value. -/
theorem proper_render {o : Operand} (ho : ∀ v, o ≠ .value v) : o.render.Proper := by
  cases o with
  | negation =>
      simp [render, Value.Proper]
  | value v =>
      exact absurd rfl (ho v)
  | shape s =>
      cases s with
      | geometry g =>
          rw [render, Value.Proper]
          exact g.proper_toOperand
      | _ =>
          simp only [render]
          exact Geo.Shape.proper_toValue _
  | command s =>
      cases s with
      | geometry g =>
          rw [render, Value.Proper]
          exact g.proper_toOperand
      | _ =>
          simp only [render]
          exact Geo.Shape.proper_toCommand _

/-- Equal operands hold equal values, or they are the same. -/
theorem value_or_eq_of_same {o o' : Operand} (h : o.same o' = true) :
    (∃ v w, o = .value v ∧ o' = .value w ∧ v.same w = true) ∨ o = o' ∧ ∀ v, o ≠ .value v := by
  cases o with
  | negation =>
      cases o' <;> simp_all [same]
  | value v =>
      cases o' with
      | value w =>
          exact Or.inl ⟨v, w, rfl, rfl, h⟩
      | _ =>
          simp [same] at h
  | shape s =>
      cases o' with
      | shape t =>
          rw [Geo.Shape.eq_of_same h]
          exact Or.inr ⟨rfl, by simp⟩
      | _ =>
          simp [same] at h
  | command s =>
      cases o' with
      | command t =>
          rw [Geo.Shape.eq_of_same h]
          exact Or.inr ⟨rfl, by simp⟩
      | _ =>
          simp [same] at h

/-- Equal operands render to equal values. -/
theorem same_render {o o' : Operand} (h : o.same o' = true) :
    o.render.same o'.render = true := by
  rcases value_or_eq_of_same h with ⟨v, w, rfl, rfl, hvw⟩ | ⟨rfl, ho⟩
  · exact hvw
  · exact Value.same_self (proper_render ho)

theorem isNegation_eq_of_same {o o' : Operand} (h : o.same o' = true) :
    o.isNegation = o'.isNegation := by
  rcases value_or_eq_of_same h with ⟨v, w, rfl, rfl, _⟩ | ⟨rfl, _⟩
  · rfl
  · rfl

end Operand

end DocFilter
