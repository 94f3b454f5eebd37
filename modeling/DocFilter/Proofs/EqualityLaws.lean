import DocFilter.Criteria.HashData
import DocFilter.Proofs.HashedEquality
import DocFilter.Proofs.ProperCriteria

/-!
# Equality and hash data of criteria

Shapes are equal only if they are the same, and nodes and criteria are compared
part by part.  So the laws of equality pass from values to operands, nodes and
criteria, and equal criteria feed the same data to a hash function.

`HashedEquivalence` says all this of one type, in full; the main statement has
it for every type of the data model.
-/

namespace DocFilter

open Geo

namespace Geo

namespace Geometry

mutual

theorem same_self : ∀ g : Geometry, g.same g = true
  | .point _ => by simp [same]
  | .multiPoint _ => by simp [same]
  | .lineString _ => by simp [same]
  | .multiLineString _ => by simp [same]
  | .polygon _ => by simp [same]
  | .multiPolygon _ => by simp [same]
  | .collection gs => by
      rw [same]
      exact sameAll_self gs

theorem sameAll_self : ∀ gs : List Geometry, sameAll gs gs = true
  | [] => by rw [sameAll]
  | g :: gs => by
      rw [sameAll, Bool.and_eq_true]
      exact ⟨same_self g, sameAll_self gs⟩

end

theorem same_iff_eq {g h : Geometry} : g.same h = true ↔ g = h := by
  constructor
  · exact eq_of_same
  · rintro rfl
    exact same_self g

end Geometry

theorem Shape.same_iff_eq {s t : Shape} : s.same t = true ↔ s = t := by
  constructor
  · exact eq_of_same
  · rintro rfl
    cases s with
    | geometry g => exact g.same_self
    | _ => simp [same]

end Geo

section Parts

theorem Operand.lawfulAt {o : Operand} (ho : o.Proper) :
    LawfulAt Proper (fun o o' => o.same o' = true) hashData o := by
  cases o with
  | negation =>
      refine lawfulAt_of_eq fun o' => ?_
      cases o' <;> simp [same]
  | value v =>
      refine (v.lawful (ho v rfl)).of_constructor (c := Operand.value) (g := (.tag 1 :: ·))
        ?_ ?_ ?_
      · intro w hw
        exact hw w rfl
      · intro w o'
        cases o' <;> simp [same, BEq.beq]
      · intro w
        rfl
  | shape s =>
      refine lawfulAt_of_eq fun o' => ?_
      cases o' <;> simp [same, BEq.beq, Shape.same_iff_eq]
  | command s =>
      refine lawfulAt_of_eq fun o' => ?_
      cases o' <;> simp [same, BEq.beq, Shape.same_iff_eq]

theorem Node.equalityData_eq (o : Option Value) :
    equalityData o = (o.map Value.hashData).elim [.tag 0] (.tag 1 :: ·) := by
  cases o <;> rfl

theorem Node.lawfulAt_operators {xs : List (Operator × Operand)} (h : ∀ e ∈ xs, e.2.Proper) :
    LawfulAt (fun ys => ∀ e ∈ ys, e.2.Proper) SameOperators
      (List.map fun e => (e.1, e.2.hashData)) xs := by
  have hentry : ∀ e ∈ xs, LawfulAt (fun e => True ∧ e.2.Proper)
      (fun e f => e.1 = f.1 ∧ e.2.same f.2 = true) (fun e => (e.1, e.2.hashData)) e := by
    intro e he
    have hop : LawfulAt (fun _ => True) (fun x y => x = y) (fun x => x) e.1 :=
      lawfulAt_of_eq fun _ => Iff.rfl
    exact hop.prod (Operand.lawfulAt (h e he))
  refine (LawfulAt.list hentry).comap (f := id) (g := id) ?_ (fun _ _ => Iff.rfl) fun _ => rfl
  intro ys hys e he
  exact ⟨trivial, hys e he⟩

/-- A node is compared and hashed as the triple of its parts. -/
theorem Node.lawfulAt {n : Node} (hn : n.Proper) :
    LawfulAt Proper (fun m n => m.same n = true) hashData n := by
  have htarget : LawfulAt (fun _ => True) (fun s t => s = t) id n.target :=
    lawfulAt_of_eq fun _ => Iff.rfl
  have hequality := LawfulAt.option fun v hv => Value.lawful v (hn.equality v hv)
  -- the triple is in the order in which the parts are hashed
  have hparts := htarget.prod (hequality.prod (lawfulAt_operators hn.operators))
  refine hparts.comap (f := fun n : Node => (n.target, n.equality, n.operators))
    (g := fun x => x.1.hashData ++ x.2.1.elim [.tag 0] (.tag 1 :: ·) ++
      HashData.ofList (x.2.2.map fun e => .tag e.1.index :: e.2)) ?_ ?_ ?_
  · intro m hm
    exact ⟨trivial, hm.equality, hm.operators⟩
  · intro m n
    rw [same_iff]
    constructor
    · intro h
      exact ⟨h.target, h.equality, h.operators⟩
    · intro h
      exact ⟨h.1, h.2.1, h.2.2⟩
  · intro m
    rw [hashData, equalityData_eq, List.map_map]
    rfl

theorem Criteria.lawfulAt {c : Criteria} (hc : c.Proper) :
    LawfulAt Proper (fun c d => (c == d) = true) hashData c := by
  have hchain := LawfulAt.list fun n hn => Node.lawfulAt (hc n hn)
  refine hchain.comap (f := chain) (g := HashData.ofList) ?_ ?_ ?_
  · intro d hd
    exact hd
  · intro a b
    simp only [beq_iff, Node.same_iff]
  · intro d
    rfl

end Parts

section Laws

/-- A comparison of the members of `P` is an equivalence, and what it finds equal feeds the same
data to a hash function. -/
structure HashedEquivalence {α : Type} (P : α → Prop) (same : α → α → Bool) (data : α → HashData) :
    Prop where
  refl : ∀ a, P a → same a a = true
  symm : ∀ a b, P a → P b → same a b = true → same b a = true
  trans : ∀ a b c, P a → P b → P c → same a b = true → same b c = true → same a c = true
  data_eq : ∀ a b, P a → P b → same a b = true → data a = data b

theorem hashedEquivalence_of_lawfulAt {α : Type} {P : α → Prop} {same : α → α → Bool}
    {data : α → HashData} (h : ∀ a, P a → LawfulAt P (fun a b => same a b = true) data a) :
    HashedEquivalence P same data where
  refl a ha := (h a ha).refl
  symm a b ha hb hab := (h a ha).symm b hb hab
  trans a b c ha hb hc hab hbc := (h a ha).trans b c hb hc hab hbc
  data_eq a b ha hb hab := (h a ha).data_eq b hb hab

/-- What the comparisons find equal, type by type. -/
structure ComparesContent : Prop where
  type : ∀ v w : Value, v.same w = true → v.type = w.type
  double : ∀ x y, (Value.double x).same (.double y) = true ↔ x.bits = y.bits
  array : ∀ vs ws, (Value.array vs).same (.array ws) = true ↔
    List.Forall₂ (fun v w => v.same w = true) vs ws
  /-- Documents are compared whatever the order of their entries. -/
  document : ∀ d e : Document, d.Distinct → e.Distinct → (d.same e = true ↔
    (∀ k, k ∈ d.keys ↔ k ∈ e.keys) ∧
      ∀ k v w, d.get? k = some v → e.get? k = some w → v.same w = true)
  /-- Patterns are compared without what they are compiled to. -/
  pattern : ∀ p q : Pattern, (p == q) = true ↔ p.source = q.source ∧ p.options = q.options
  geometry : ∀ g h : Geometry, g.same h = true ↔ g = h
  shape : ∀ s t : Shape, s.same t = true ↔ s = t
  node : ∀ m n : Node, m.same n = true ↔ Node.Same m n
  criteria : ∀ c d : Criteria, (c == d) = true ↔ List.Forall₂ Node.Same c.chain d.chain

theorem comparesContent : ComparesContent where
  type v w h := by
    cases v <;> cases w <;> simp_all [Value.same, Value.type]
  double x y := by
    cases x
    cases y
    simp [Value.same]
  array vs ws := by
    rw [Value.same_array, Value.sameItems_iff]
  document _ _ hd he := Document.same_iff_get? hd he
  pattern _ _ := Pattern.beq_iff
  geometry _ _ := Geometry.same_iff_eq
  shape _ _ := Shape.same_iff_eq
  node _ _ := Node.same_iff
  criteria _ _ := Criteria.beq_iff

/-- **Equality and hashing agree over the whole data model.**  The comparisons are equivalences,
what they find equal is hashed alike, and they compare content.  All this takes is that no
document repeats a key, and runs of the builder keep it so. -/
theorem equality_is_hashed_equivalence :
    HashedEquivalence Value.Proper Value.same Value.hashData ∧
      HashedEquivalence Document.Proper Document.same Document.hashData ∧
      HashedEquivalence (fun _ => True) (fun p q : Pattern => p == q) Pattern.hashData ∧
      HashedEquivalence (fun _ => True) Geometry.same Geometry.hashData ∧
      HashedEquivalence (fun _ => True) Shape.same Shape.hashData ∧
      HashedEquivalence Node.Proper Node.same Node.hashData ∧
      HashedEquivalence Criteria.Proper (fun c d => c == d) Criteria.hashData ∧
      ComparesContent ∧
      ∀ (c : Criteria) steps, c.Proper → (∀ s ∈ steps, s.Proper) → (c.run steps).Proper := by
  have hgeometry : ∀ g : Geometry, True →
      LawfulAt (fun _ => True) (fun g h => g.same h = true) Geometry.hashData g :=
    fun g _ => lawfulAt_of_eq fun h => Geometry.same_iff_eq
  have hshape : ∀ s : Shape, True →
      LawfulAt (fun _ => True) (fun s t => s.same t = true) Shape.hashData s :=
    fun s _ => lawfulAt_of_eq fun t => Shape.same_iff_eq
  have hpattern : ∀ p : Pattern, True →
      LawfulAt (fun _ => True) (fun p q => (p == q) = true) Pattern.hashData p :=
    fun p _ => p.lawfulAt
  refine ⟨hashedEquivalence_of_lawfulAt Value.lawful,
    hashedEquivalence_of_lawfulAt Document.lawful,
    hashedEquivalence_of_lawfulAt hpattern,
    hashedEquivalence_of_lawfulAt hgeometry,
    hashedEquivalence_of_lawfulAt hshape,
    hashedEquivalence_of_lawfulAt fun _ => Node.lawfulAt,
    hashedEquivalence_of_lawfulAt fun _ => Criteria.lawfulAt,
    comparesContent, ?_⟩
  intro c steps hc hsteps
  exact hc.run hsteps

/-- A document with a NaN and a nested document. -/
def nested : Document :=
  ⟨[("a", .double ⟨0x7FF8000000000001⟩),
    ("b", .document ⟨[("x", .null), ("y", .double ⟨0x8000000000000000⟩)]⟩)]⟩

/-- The same entries in another order, at both depths. -/
def nestedReordered : Document :=
  ⟨[("b", .document ⟨[("y", .double ⟨0x8000000000000000⟩), ("x", .null)]⟩),
    ("a", .double ⟨0x7FF8000000000001⟩)]⟩

/-- Criteria that require a field to equal a document. -/
def requiring (d : Document) : Criteria :=
  (Criteria.field "k").run [.equals (.document d)]

theorem equality_is_hashed_equivalence_reordered :
    (nested.Proper ∧ nestedReordered.Proper ∧ nested.same nestedReordered = true ∧
      nestedReordered.same nested = true ∧ nested.hashData = nestedReordered.hashData) ∧
      (requiring nested).Proper ∧ (requiring nestedReordered).Proper ∧
      (requiring nested == requiring nestedReordered) = true ∧
      (requiring nested).hashData = (requiring nestedReordered).hashData := by
  have hnested : nested.Proper := by
    simp [nested, Document.Proper, Document.ProperEntries, Value.Proper]
  have hreordered : nestedReordered.Proper := by
    simp [nestedReordered, Document.Proper, Document.ProperEntries, Value.Proper]
  have hsame : nested.same nestedReordered = true := by
    simp [nested, nestedReordered, Document.same, Document.hasEntries, Value.same,
      Assoc.get?_cons]
  obtain ⟨-, hdocuments, -, -, -, -, hcriteria, -, hrun⟩ := equality_is_hashed_equivalence
  have hproper : ∀ d : Document, d.Proper → (requiring d).Proper := by
    intro d hd
    refine hrun (.field "k") [.equals (.document d)] ?_ ?_
    · exact Criteria.proper_ofNode (Node.proper_ofTarget _)
    · intro s hs
      rw [List.mem_singleton.1 hs]
      exact Value.proper_document hd
  have hequal : (requiring nested == requiring nestedReordered) = true := by
    refine Criteria.beq_iff.2 (.cons ⟨rfl, .some ?_, .nil⟩ .nil)
    rw [Value.same_document]
    exact hsame
  exact ⟨⟨hnested, hreordered, hsame, hdocuments.symm _ _ hnested hreordered hsame,
      hdocuments.data_eq _ _ hnested hreordered hsame⟩,
    hproper _ hnested, hproper _ hreordered, hequal,
    hcriteria.data_eq _ _ (hproper _ hnested) (hproper _ hreordered) hequal⟩

end Laws

end DocFilter
