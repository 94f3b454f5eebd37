import DocFilter.Proofs.ActiveNode
import DocFilter.Proofs.MappedGeometry

/-!
# Recorded geometries in mapped criteria

A call that gives a geometry to an operator leaves it with the node that is
active, and there it stays until the operator is recorded again: bounds are put
beside it, and all other calls leave it alone (`holdsGeometry_run`).

`GeometryAt` follows the geometries of criteria, and of those embedded in them,
to the places where they are compiled to.  From there the mapping takes them to
the mapped places, and renames their keys on the way if it has names for them.
-/

namespace DocFilter

open Geo

section Recording

/-- Does the operator take geometries? -/
def Operator.IsSpatial (op : Operator) : Prop :=
  op ∈ [near, nearSphere, geoWithin, geoIntersects]

theorem Operator.IsSpatial.ne_not {op : Operator} (h : op.IsSpatial) : op ≠ .not := by
  rintro rfl
  simp [IsSpatial] at h

/-- The operand compiles to a document that has a geometry as its `$geometry`. -/
def Operand.HoldsGeometry (o : Operand) (g : Geometry) : Prop :=
  ∃ d, o.render = .document d ∧ d.get? "$geometry" = some (.document g.toDocument)

/-- The node has a geometry with one of its operators. -/
def Node.HoldsGeometry (n : Node) (op : Operator) (g : Geometry) : Prop :=
  ∃ o, n.operand? op = some o ∧ o.HoldsGeometry g

/-- The operator and the geometry that a call gives it. -/
def Criteria.Call.geometry? : Criteria.Call → Option (Operator × Geometry)
  | .near (.geometry g) => some (.near, g)
  | .nearSphere (.geometry g) => some (.nearSphere, g)
  | .within (.geometry g) => some (.geoWithin, g)
  | .intersects g => some (.geoIntersects, g)
  | _ => none

variable {n m : Node} {op : Operator} {g : Geometry} {s : Criteria.Call}

theorem holdsGeometry_of_geometry? (h : s.geometry? = some (op, g)) :
    op.IsSpatial ∧ ∃ o, s.recorded = some (op, .ok o) ∧ o.HoldsGeometry g := by
  unfold Criteria.Call.geometry? at h
  split at h
  case h_5 => cases h
  all_goals
    cases h
    exact ⟨by simp [Operator.IsSpatial], _, rfl, _, rfl, rfl⟩

/-- A bound is put beside the geometry. -/
theorem Operand.HoldsGeometry.bounded {o o' : Operand} {b : Bound} {x : Number.Binary64}
    (ho : o.HoldsGeometry g) (h : Criteria.boundedOperand? b x o = some o') :
    o'.HoldsGeometry g := by
  obtain ⟨d, hd, hg⟩ := ho
  have hinsert : (Operand.value (.document
      (d.insert b.operator.key (.double x)))).HoldsGeometry g :=
    ⟨_, rfl, (d.get?_geometry_insert b _).trans hg⟩
  unfold Criteria.boundedOperand? at h
  split at h
  · cases hd
    cases h
    exact hinsert
  · cases hd
    cases h
    exact hinsert
  · cases h

theorem Node.HoldsGeometry.put_of_ne {op' : Operator} (hn : n.HoldsGeometry op g) (h : op' ≠ op)
    (o : Operand) : (n.put op' o).HoldsGeometry op g := by
  obtain ⟨o', ho', hg⟩ := hn
  exact ⟨o', by rw [Node.operand?_put_of_ne n h, ho'], hg⟩

/-- A geometry is kept against every call that does not record its operator again. -/
theorem Node.HoldsGeometry.touched (hn : n.HoldsGeometry op g) (hop : op.IsSpatial)
    (h : Criteria.Touched n s m) (hs : ∀ r, s.recorded ≠ some (op, r)) : m.HoldsGeometry op g := by
  cases h with
  | appended _ _ | equality _ _ _ | pattern _ _ => exact hn
  | negation | negatedPattern _ _ => exact hn.put_of_ne hop.ne_not.symm _
  | record hs' => exact hn.put_of_ne (fun heq => hs _ (heq ▸ hs')) _
  | bounded b x =>
      have hput : ∀ op' o o', n.operand? op' = some o →
          Criteria.boundedOperand? b x o = some o' → (n.put op' o').HoldsGeometry op g := by
        intro op' o o' ho ho'
        by_cases heq : op' = op
        · subst heq
          obtain ⟨o₁, ho₁, hg⟩ := hn
          obtain rfl : o = o₁ := Option.some.inj (ho.symm.trans ho₁)
          exact ⟨o', Node.operand?_put_self n op' o', hg.bounded ho'⟩
        · exact hn.put_of_ne heq o'
      rcases Node.bounded_cases n b x with
        ⟨o, o', ho, ho', hm⟩ | ⟨_, ⟨o, o', ho, ho', hm⟩ | hm⟩
      · exact hm ▸ hput .near o o' ho ho'
      · exact hm ▸ hput .nearSphere o o' ho ho'
      · refine hm ▸ hn.put_of_ne ?_ _
        rintro rfl
        cases b <;> simp [Operator.IsSpatial, Bound.operator] at hop

end Recording

namespace Criteria

section Recorded

variable {c : Criteria} {op : Operator} {g : Geometry} {s : Call} {i : Nat}

theorem holdsGeometry_callOrKeep (hop : op.IsSpatial)
    (h : ∃ n, c.chain[i]? = some n ∧ n.HoldsGeometry op g)
    (hs : c.before.length = i → ∀ r, s.recorded ≠ some (op, r)) :
    ∃ n, (c.callOrKeep s).chain[i]? = some n ∧ n.HoldsGeometry op g := by
  obtain ⟨n, hn, hheld⟩ := h
  cases hcall : c.call s with
  | error e => exact ⟨n, by simpa [callOrKeep, hcall] using hn, hheld⟩
  | ok d =>
      have hkeep : c.callOrKeep s = d := by
        simp [callOrKeep, hcall]
      obtain ⟨m, hm, hcase⟩ := getElem?_chain_of_call hcall hn
      rw [hkeep]
      rcases hcase with ⟨hi, _, htouched⟩ | ⟨_, rfl⟩
      · exact ⟨m, hm, hheld.touched hop htouched (hs hi.symm)⟩
      · exact ⟨m, hm, hheld⟩

/-- A geometry that a call gives to an operator is held by the node that was active then, until
the operator is recorded on this node again. -/
theorem holdsGeometry_run (h : s.geometry? = some (op, g)) (steps : List Call)
    (hsteps : ∀ front t, front ++ [t] <+: steps →
      ((c.callOrKeep s).run front).before.length = c.before.length →
        ∀ r, t.recorded ≠ some (op, r)) :
    ∃ n, (c.run (s :: steps)).chain[c.before.length]? = some n ∧ n.HoldsGeometry op g := by
  obtain ⟨hop, o, hs, hg⟩ := holdsGeometry_of_geometry? h
  have hfirst : c.callOrKeep s = c.put op o := by
    rw [callOrKeep, call_of_recorded hs]
    rfl
  have hrun : c.run (s :: steps) = (c.callOrKeep s).run steps := rfl
  rw [hrun]
  induction steps using List.reverseRecOn with
  | nil =>
      refine ⟨c.active.put op o, ?_, o, Node.operand?_put_self c.active op o, hg⟩
      rw [hfirst]
      exact getElem?_chain_active (c.put op o)
  | append_singleton front t ih =>
      have hheld := ih (fun front' t' hfront => hsteps front' t'
        (hfront.trans (List.prefix_append front [t]))) rfl
      rw [run_append]
      exact holdsGeometry_callOrKeep hop hheld (hsteps front t (List.prefix_refl _))

end Recorded

/-- A geometry recorded in criteria or in criteria that are embedded in them, and the path to its
`$geometry` in the document that they compile to. -/
inductive GeometryAt : Criteria → List Step → Geometry → Prop
  | recorded {c : Criteria} {n : Node} {op : Operator} {g : Geometry} (hn : n ∈ c.chain)
      (hop : op.IsSpatial) (hg : n.HoldsGeometry op g) :
      GeometryAt c (n.path op ++ [.key "$geometry"]) g
  | element {c d : Criteria} {n : Node} {doc : Document} {path : List Step} {g : Geometry}
      (hn : n ∈ c.chain) (ho : n.operand? .elemMatch = some (.value (.document doc)))
      (hd : Reachable d) (hdoc : d.compile = .ok doc) (hg : GeometryAt d path g) :
      GeometryAt c (n.path .elemMatch ++ path) g
  | combined {c d : Criteria} {op : Combinator} {docs : List Document} {doc : Document} {i : Nat}
      {path : List Step} {g : Geometry} (hn : .ofCombinator op docs ∈ c.chain)
      (hi : docs[i]? = some doc) (hd : Reachable d) (hdoc : d.compile = .ok doc)
      (hg : GeometryAt d path g) : GeometryAt c (.key op.key :: .item i :: path) g

variable {c : Criteria} {path : List Step} {g : Geometry} {d : Document}

/-- The path leads to the document of the geometry.  The induction is on how deep the criteria
are embedded in which the geometry is recorded. -/
theorem GeometryAt.at?_compile (hg : GeometryAt c path g) (hc : Reachable c)
    (h : c.compile = .ok d) :
    (Value.document d).at? path = some (.document g.toDocument) := by
  induction hg generalizing d with
  | @recorded c n op g hn hop hheld =>
      obtain ⟨o, ho, e, he, hgeometry⟩ := hheld
      have hpath := (hc.nodes_wellFormed n hn).at?_path hop.ne_not ho
      refine at?_of_compile h hn ?_ (by simp)
      rw [Value.at?_append hpath, he, Value.at?_key hgeometry, Value.at?_nil]
  | @element c d' n doc path g hn ho hd hdoc hg ih =>
      have hpath := (hc.nodes_wellFormed n hn).at?_path (by simp) ho
      refine at?_of_compile h hn ?_ (by simp [n.path_ne_nil])
      rw [Value.at?_append hpath]
      exact ih hd hdoc
  | @combined c d' op docs doc i path g hn hi hd hdoc hg ih =>
      refine at?_of_compile h hn ?_ (by simp)
      exact (Value.at?_append (Node.at?_ofCombinator op hi)).trans (ih hd hdoc)

end Criteria

namespace Scope

open Criteria

variable {c : Criteria} {path : List Step} {g : Geometry} {d : Document}

/-- **When a mapping keeps a geometry.**  The document of a geometry that is recorded in criteria,
at any depth, is mapped like any other.  If nothing on the path to it is overwritten, it stands at
the mapped path, and it is still equal to what it was exactly if no key of the geometry is
renamed. -/
theorem mapCriteria_keeps_geometry_iff (s : Scope) (hc : Reachable c) (h : c.compile = .ok d)
    (hg : GeometryAt c path g) :
    (Value.document d).at? path = some (.document g.toDocument) ∧
      ∃ e, s.mapCriteria c = .ok e ∧ (s.context.Unshadowed (.document d) path →
        ∃ operand, (Value.document e).at? (path.map s.context.mapStep) =
            some (.document operand) ∧
          (operand.same g.toDocument = true ↔ ∀ k ∈ g.members, s.context.mapKey k = k)) := by
  have hplace := hg.at?_compile hc h
  refine ⟨hplace, s.context.mapDocument d, ?_, fun hclear => ?_⟩
  · rw [mapCriteria, h]
    rfl
  · have hmapped := s.context.at?_mapValue hplace hclear
    refine ⟨s.context.mapDocument g.toDocument, ?_, s.context.same_mapDocument_toDocument_iff g⟩
    rw [Context.mapValue, Context.mapValue] at hmapped
    exact hmapped

/-- A point to be near to, with a bound. -/
def nearPoint : Criteria :=
  (field "loc").run [.near (.geometry (.point ⟨⟨0⟩, ⟨0⟩⟩)), .bound .max ⟨0⟩]

/-- No element of a field is near the point. -/
def noneNearPoint : Criteria :=
  (field "sites").run [.negate, .elemMatch nearPoint]

/-- The document in which the element is not near the point. -/
def noneNearDocument : Document :=
  .single "sites" (.document (.single "$not" (.document (.single "$elemMatch" (.document
    (.single "loc" (.document (.single "$near" (.document
      ⟨[("$geometry", .document (Geometry.point ⟨⟨0⟩, ⟨0⟩⟩).toDocument),
        ("$maxDistance", .double ⟨0⟩)]⟩)))))))))

/-- A context that stores the field of the elements under another name. -/
def storedElsewhere : Context :=
  { mappings := [("loc", "position")] }

/-- The field of the element is renamed, and the geometry in it is kept. -/
theorem mapCriteria_keeps_geometry_iff_nested :
    (Reachable noneNearPoint ∧ noneNearPoint.compile = .ok noneNearDocument ∧
      GeometryAt noneNearPoint [.key "sites", .key "$not", .key "$elemMatch", .key "loc",
        .key "$near", .key "$geometry"] (.point ⟨⟨0⟩, ⟨0⟩⟩)) ∧
      ∃ e operand, (root storedElsewhere).mapCriteria noneNearPoint = .ok e ∧
        (Value.document e).at? [.key "sites", .key "$not", .key "$elemMatch", .key "position",
          .key "$near", .key "$geometry"] = some (.document operand) ∧
        operand.same (Geometry.point ⟨⟨0⟩, ⟨0⟩⟩).toDocument = true := by
  have hnear : Reachable nearPoint := (Reachable.field "loc").run _
  have hnone : Reachable noneNearPoint := (Reachable.field "sites").run _
  have hrecorded : GeometryAt nearPoint [.key "loc", .key "$near", .key "$geometry"]
      (.point ⟨⟨0⟩, ⟨0⟩⟩) :=
    .recorded (active_mem_chain nearPoint)
      (show Operator.near.IsSpatial by simp [Operator.IsSpatial]) ⟨_, rfl, _, rfl, rfl⟩
  have helement : GeometryAt noneNearPoint [.key "sites", .key "$not", .key "$elemMatch",
      .key "loc", .key "$near", .key "$geometry"] (.point ⟨⟨0⟩, ⟨0⟩⟩) :=
    .element (active_mem_chain noneNearPoint) rfl hnear rfl hrecorded
  have hcompile : noneNearPoint.compile = .ok noneNearDocument := rfl
  have hproper : (storedElsewhere.renameValue (.document noneNearDocument)).Proper := by
    have hbound : storedElsewhere.mapKey "$geometry" ≠ storedElsewhere.mapKey "$maxDistance" := by
      decide
    have hmembers : storedElsewhere.mapKey "type" ≠ storedElsewhere.mapKey "coordinates" := by
      decide
    simp [noneNearDocument, Context.renameValue, Context.renameDocument, Context.renameEntries,
      Context.renameItems, Document.single, Geometry.toDocument, Geometry.typed, Point.toValue,
      Value.Proper, Document.Proper, Document.ProperEntries, Value.ProperItems, hbound, hmembers]
  obtain ⟨_, e, he, hkept⟩ :=
    mapCriteria_keeps_geometry_iff (root storedElsewhere) hnone hcompile helement
  obtain ⟨operand, hoperand, hiff⟩ := hkept (storedElsewhere.unshadowed_of_proper hproper _)
  exact ⟨⟨hnone, hcompile, helement⟩, e, operand, he, hoperand, hiff.2 (by decide)⟩

-- The key of the type is taken for that of a field.
example : (root { mappings := [("type", "kind")] }).mapCriteria
    ((Criteria.field "loc").run [.intersects (.point ⟨⟨0⟩, ⟨0⟩⟩)]) =
    .ok (.single "loc" (.document (.single "$geoIntersects" (.document (.single "$geometry"
      (.document ⟨[("kind", .string "Point"),
        ("coordinates", .array [.double ⟨0⟩, .double ⟨0⟩])]⟩)))))) := by
  rfl

end Scope

end DocFilter
