import DocFilter.Proofs.Congruence
import DocFilter.Proofs.DistanceBounds
import DocFilter.Proofs.EqualityLaws

/-!
# How distance bounds accumulate

What becomes of a builder when several bounds are called on it is decided
before the first of them: `Node.carrier?` is the nearness operator that carries
bounds, or can be given one.  It does not change while bounds are called, so
all of them go to the same place.

* The operand of the carrier becomes the document that it compiled to, with the
  bounds put into it one after the other (`run_bounds_of_carrier`).
* Without a carrier the bounds are put among the operators themselves
  (`run_bounds_standalone`).

In both cases the last bound of a kind counts and the first one gives the
place.  Hence the bounds of the two kinds may be called in turns of any sort
(`same_insertAll_of_interleaved`).
-/

namespace DocFilter

open Number (Binary64)
open Geo

/-- The operand carries a bound, or can be given one: it is a geometry, or the document of a
geometry with a bound beside it. -/
def Operand.takesBounds : Operand → Bool
  | .shape (.geometry _) => true
  | .value (.document d) =>
      d.contains "$geometry" &&
        (d.contains Bound.max.operator.key || d.contains Bound.min.operator.key)
  | _ => false

namespace Node

/-- The nearness operator that bounds go to, if there is one. -/
def carrier? (n : Node) : Option Operator :=
  [.near, .nearSphere].find? fun op => (n.operand? op).any Operand.takesBounds

/-- The operator has an operand that takes bounds. -/
def TakesBounds (n : Node) (op : Operator) : Prop :=
  ∃ o, n.operand? op = some o ∧ o.takesBounds = true

section Carriers

variable {n : Node} {op : Operator} {o : Operand}

theorem any_takesBounds_iff :
    (n.operand? op).any Operand.takesBounds = true ↔ n.TakesBounds op := by
  simp [TakesBounds, Option.any_eq_true]

theorem carrier?_eq_some_iff : n.carrier? = some op ↔
    op = .near ∧ n.TakesBounds .near ∨
      op = .nearSphere ∧ n.TakesBounds .nearSphere ∧ ¬ n.TakesBounds .near := by
  rw [← any_takesBounds_iff, ← any_takesBounds_iff, carrier?]
  cases hnear : (n.operand? .near).any Operand.takesBounds with
  | true =>
      simpa [hnear] using eq_comm
  | false =>
      cases hsphere : (n.operand? .nearSphere).any Operand.takesBounds with
      | true => simpa [hnear, hsphere] using eq_comm
      | false => simp [hnear, hsphere]

theorem carrier?_eq_none_iff :
    n.carrier? = none ↔ ¬ n.TakesBounds .near ∧ ¬ n.TakesBounds .nearSphere := by
  simp [carrier?, any_takesBounds_iff]

theorem takesBounds_document_iff {d : Document} :
    (Operand.value (.document d)).takesBounds = true ↔
      (d.get? "$geometry").isSome ∧ ∃ b : Bound, (d.get? b.operator.key).isSome := by
  have hbound : (∃ b : Bound, (d.get? b.operator.key).isSome) ↔
      (d.get? Bound.max.operator.key).isSome ∨ (d.get? Bound.min.operator.key).isSome := by
    constructor
    · rintro ⟨b, hb⟩
      cases b with
      | max => exact Or.inl hb
      | min => exact Or.inr hb
    · rintro (hb | hb)
      · exact ⟨.max, hb⟩
      · exact ⟨.min, hb⟩
  rw [hbound, Operand.takesBounds, Bool.and_eq_true, Bool.or_eq_true]
  rfl

theorem takesBounds_insert {d : Document} (hd : (d.get? "$geometry").isSome) (b : Bound)
    (x : Binary64) :
    (Operand.value (.document (d.insert b.operator.key (.double x)))).takesBounds = true := by
  refine takesBounds_document_iff.2 ⟨?_, b, ?_⟩
  · rw [Document.get?_geometry_insert]
    exact hd
  · rw [Document.get?_insert_self]
    rfl

/-- What takes bounds compiles to the document of a geometry. -/
theorem exists_document_of_takesBounds (hn : n.WellFormed) (hop : op.IsNear)
    (ho : n.operand? op = some o) (h : o.takesBounds = true) :
    ∃ d : Document, o.render = .document d ∧ d.Proper ∧ (d.get? "$geometry").isSome := by
  rcases hn.near op hop o ho with ⟨s, rfl⟩ | ⟨d, rfl, hd, hgeometry⟩
  · cases s with
    | geometry g => exact ⟨g.toOperand, rfl, g.proper_toOperand, rfl⟩
    | _ => cases h
  · exact ⟨d, rfl, hd, hgeometry⟩

/-- An operand that takes bounds is given one as the document that it compiles to. -/
theorem boundOn?_of_takesBounds (ho : n.operand? op = some o) (h : o.takesBounds = true)
    {d : Document} (hd : o.render = .document d) (b : Bound) (x : Binary64) :
    Criteria.boundOn? n op b x =
      some (n.put op (.value (.document (d.insert b.operator.key (.double x))))) := by
  have hgiven : Criteria.boundedOperand? b x o =
      some (.value (.document (d.insert b.operator.key (.double x)))) := by
    unfold Operand.takesBounds at h
    split at h
    · cases hd
      rfl
    · cases hd
      rfl
    · cases h
  simp [Criteria.boundOn?, ho, hgiven]

/-- On the nodes of a builder, no other operand is given bounds. -/
theorem boundOn?_of_not_takesBounds (hn : n.WellFormed) (hbounded : n.NearBounded)
    (hop : op.IsNear) (h : ¬ n.TakesBounds op) (b : Bound) (x : Binary64) :
    Criteria.boundOn? n op b x = none := by
  cases ho : n.operand? op with
  | none => simp [Criteria.boundOn?, ho]
  | some o =>
      have hrefused : Criteria.boundedOperand? b x o = none := by
        rcases hbounded op hop o ho with ⟨s, rfl⟩ | ⟨⟨d, rfl⟩, e, b', he, hb'⟩
        · cases s with
          | geometry g => exact absurd ⟨_, ho, rfl⟩ h
          | _ => rfl
        · cases he
          refine absurd ⟨_, ho, takesBounds_document_iff.2 ⟨?_, b', hb'⟩⟩ h
          rcases hn.near op hop _ ho with ⟨s, hs⟩ | ⟨d', hd', _, hgeometry⟩
          · cases hs
          · cases hd'
            exact hgeometry
      simp [Criteria.boundOn?, ho, hrefused]

/-- A bound is put into the document of the carrier. -/
theorem bounded_of_carrier (hn : n.WellFormed) (hbounded : n.NearBounded)
    (h : n.carrier? = some op) {d : Document} (ho : n.operand? op = some o)
    (hd : o.render = .document d) (b : Bound) (x : Binary64) :
    n.bounded b x = n.put op (.value (.document (d.insert b.operator.key (.double x)))) := by
  rcases carrier?_eq_some_iff.1 h with ⟨rfl, o', ho', htakes⟩ | ⟨rfl, ⟨o', ho', htakes⟩, hnear⟩
  · obtain rfl : o = o' := Option.some.inj (ho.symm.trans ho')
    rw [bounded, boundOn?_of_takesBounds ho htakes hd]
  · obtain rfl : o = o' := Option.some.inj (ho.symm.trans ho')
    rw [bounded, boundOn?_of_not_takesBounds hn hbounded (Or.inl rfl) hnear,
      boundOn?_of_takesBounds ho htakes hd]

theorem bounded_of_no_carrier (hn : n.WellFormed) (hbounded : n.NearBounded)
    (h : n.carrier? = none) (b : Bound) (x : Binary64) :
    n.bounded b x = n.put b.operator (.value (.double x)) := by
  obtain ⟨hnear, hsphere⟩ := carrier?_eq_none_iff.1 h
  rw [bounded, boundOn?_of_not_takesBounds hn hbounded (Or.inl rfl) hnear,
    boundOn?_of_not_takesBounds hn hbounded (Or.inr rfl) hsphere]

theorem takesBounds_put_of_ne {op' : Operator} (h : op' ≠ op) (o : Operand) :
    (n.put op' o).TakesBounds op ↔ n.TakesBounds op := by
  rw [TakesBounds, TakesBounds, operand?_put_of_ne n h]

/-- The carrier stays the carrier when a bound is put into its document. -/
theorem carrier?_put_insert (h : n.carrier? = some op) {d : Document}
    (hd : (d.get? "$geometry").isSome) (b : Bound) (x : Binary64) :
    (n.put op (.value (.document (d.insert b.operator.key (.double x))))).carrier? = some op := by
  have htakes : (n.put op (.value (.document
      (d.insert b.operator.key (.double x))))).TakesBounds op :=
    ⟨_, operand?_put_self n op _, takesBounds_insert hd b x⟩
  rcases carrier?_eq_some_iff.1 h with ⟨rfl, _⟩ | ⟨rfl, _, hnear⟩
  · exact carrier?_eq_some_iff.2 (Or.inl ⟨rfl, htakes⟩)
  · refine carrier?_eq_some_iff.2 (Or.inr ⟨rfl, htakes, ?_⟩)
    rwa [takesBounds_put_of_ne (by simp)]

/-- A bound that stands by itself is no carrier. -/
theorem carrier?_put_bound (h : n.carrier? = none) (b : Bound) (o : Operand) :
    (n.put b.operator o).carrier? = none := by
  rw [carrier?_eq_none_iff] at h ⊢
  rwa [takesBounds_put_of_ne (bound_ne_near b (Or.inl rfl)),
    takesBounds_put_of_ne (bound_ne_near b (Or.inr rfl))]

end Carriers

end Node

namespace Criteria

/-- Bounds called one after the other. -/
def boundCalls (calls : List (Bound × Binary64)) : List Call :=
  calls.map fun x => .bound x.1 x.2

/-- The entry of a bound in a document. -/
def boundEntry (x : Bound × Binary64) : String × Value :=
  (x.1.operator.key, .double x.2)

/-- A bound as an operator of its own. -/
def standingBound (x : Bound × Binary64) : Operator × Operand :=
  (x.1.operator, .value (.double x.2))

/-- The same bounds of either kind in the same order, whatever the turns in which the kinds are
called. -/
def Interleaved (calls calls' : List (Bound × Binary64)) : Prop :=
  ∀ b : Bound, (calls.filter fun x => x.1 = b) = calls'.filter fun x => x.1 = b

section Runs

variable {c : Criteria} {op : Operator}

theorem bound_of_carrier (hc : Reachable c) (h : c.active.carrier? = some op) {o : Operand}
    {d : Document} (ho : c.active.operand? op = some o) (hd : o.render = .document d) (b : Bound)
    (x : Binary64) : c.callOrKeep (.bound b x) =
      c.put op (.value (.document (d.insert b.operator.key (.double x)))) :=
  congrArg (fun n => { c with active := n }) (Node.bounded_of_carrier
    (hc.nodes_wellFormed _ (active_mem_chain c)) (hc.nearBounded _ (active_mem_chain c)) h ho hd
    b x)

theorem bound_standalone (hc : Reachable c) (h : c.active.carrier? = none) (b : Bound)
    (x : Binary64) : c.callOrKeep (.bound b x) = c.put b.operator (.value (.double x)) :=
  congrArg (fun n => { c with active := n }) (Node.bounded_of_no_carrier
    (hc.nodes_wellFormed _ (active_mem_chain c)) (hc.nearBounded _ (active_mem_chain c)) h b x)

theorem put_put (c : Criteria) (op : Operator) (o o' : Operand) :
    (c.put op o).put op o' = c.put op o' := by
  simp only [put, modify, Node.put, Assoc.put_put]

/-- The induction is on the calls that are left; the carrier and its document carry it. -/
theorem run_bounds_of_carrier (hc : Reachable c) (h : c.active.carrier? = some op) {o : Operand}
    {d : Document} (ho : c.active.operand? op = some o) (hd : o.render = .document d)
    (hgeometry : (d.get? "$geometry").isSome) (x : Bound × Binary64)
    (calls : List (Bound × Binary64)) :
    c.run (boundCalls (x :: calls)) =
      c.put op (.value (.document (d.insertAll ⟨(x :: calls).map boundEntry⟩))) := by
  have hfirst := bound_of_carrier hc h ho hd x.1 x.2
  induction calls generalizing c o d x with
  | nil => exact hfirst
  | cons y calls ih =>
      have hreachable := hfirst ▸ hc.callOrKeep (.bound x.1 x.2)
      have hcarrier : (c.put op (.value (.document
          (d.insert x.1.operator.key (.double x.2))))).active.carrier? = some op :=
        Node.carrier?_put_insert h hgeometry x.1 x.2
      have hoperand := Node.operand?_put_self c.active op
        (.value (.document (d.insert x.1.operator.key (.double x.2))))
      have hkept : ((d.insert x.1.operator.key (.double x.2)).get? "$geometry").isSome := by
        rw [Document.get?_geometry_insert]
        exact hgeometry
      calc c.run (boundCalls (x :: y :: calls))
          = (c.put op (.value (.document (d.insert x.1.operator.key (.double x.2))))).run
              (boundCalls (y :: calls)) := congrArg (·.run (boundCalls (y :: calls))) hfirst
        _ = _ := ih hreachable hcarrier hoperand rfl hkept y
              (bound_of_carrier hreachable hcarrier hoperand rfl y.1 y.2)
        _ = _ := put_put c op _ _

/-- Without a carrier the bounds are put among the operators. -/
theorem run_bounds_standalone (hc : Reachable c) (h : c.active.carrier? = none)
    (calls : List (Bound × Binary64)) :
    c.run (boundCalls calls) = c.modify fun n =>
      { n with operators := Assoc.putAll n.operators (calls.map standingBound) } := by
  induction calls generalizing c with
  | nil => rfl
  | cons x calls ih =>
      have hfirst := bound_standalone hc h x.1 x.2
      have hcarrier : (c.put x.1.operator (.value (.double x.2))).active.carrier? = none :=
        Node.carrier?_put_bound h x.1 _
      calc c.run (boundCalls (x :: calls))
          = (c.put x.1.operator (.value (.double x.2))).run (boundCalls calls) :=
            congrArg (·.run (boundCalls calls)) hfirst
        _ = _ := ih (hfirst ▸ hc.callOrKeep (.bound x.1 x.2)) hcarrier

end Runs

section Turns

variable {c : Criteria} {op : Operator} {calls calls' : List (Bound × Binary64)}

/-- The last bound of each kind does not depend on the turns. -/
theorem Interleaved.get?_reverse (h : Interleaved calls calls') (k : String) :
    Assoc.get? k (calls.map boundEntry).reverse = Assoc.get? k (calls'.map boundEntry).reverse := by
  have hinjective : Function.Injective fun b : Bound => b.operator.key := by
    intro b b' hb
    cases b <;> cases b' <;> simp_all [Bound.operator, Operator.key]
  by_cases hk : ∃ b : Bound, b.operator.key = k
  · obtain ⟨b, rfl⟩ := hk
    have hlast : ∀ calls : List (Bound × Binary64),
        Assoc.get? b.operator.key (calls.map boundEntry).reverse =
          (Assoc.get? b (calls.filter fun x => x.1 = b).reverse).map Value.double := by
      intro calls
      rw [← List.map_reverse, ← List.filter_reverse, Assoc.get?_filter]
      exact Assoc.get?_map hinjective Value.double b calls.reverse
    rw [hlast, hlast, h b]
  · have hnone : ∀ calls : List (Bound × Binary64),
        Assoc.get? k (calls.map boundEntry).reverse = none := by
      intro calls
      rw [Assoc.get?_eq_none_iff]
      intro hmem
      obtain ⟨x, hx⟩ : ∃ x : Bound × Binary64, x ∈ calls ∧ x.1.operator.key = k := by
        simpa [Assoc.keys, boundEntry] using hmem
      exact hk ⟨x.1, hx.2⟩
    rw [hnone, hnone]

theorem Interleaved.ne_nil (h : Interleaved calls calls') (hcalls : calls ≠ []) : calls' ≠ [] := by
  rintro rfl
  obtain ⟨x, hx⟩ := List.exists_mem_of_ne_nil calls hcalls
  have hmem : x ∈ calls.filter fun y => y.1 = x.1 := by
    simpa using hx
  rw [h x.1] at hmem
  simp at hmem

theorem proper_insertAll_bounds {d : Document} (hd : d.Proper)
    (calls : List (Bound × Binary64)) : (d.insertAll ⟨calls.map boundEntry⟩).Proper := by
  refine Document.proper_insertAll hd fun e he => ?_
  obtain ⟨x, _, rfl⟩ := List.mem_map.1 he
  simp [boundEntry, Value.Proper]

/-- Turns make no difference to the document but for the order of its entries. -/
theorem same_insertAll_of_interleaved {d : Document} (hd : d.Proper)
    (h : Interleaved calls calls') :
    (d.insertAll ⟨calls.map boundEntry⟩).same (d.insertAll ⟨calls'.map boundEntry⟩) = true := by
  have hget : ∀ k, (d.insertAll ⟨calls.map boundEntry⟩).get? k =
      (d.insertAll ⟨calls'.map boundEntry⟩).get? k := by
    intro k
    rw [Document.get?, Document.get?, Document.insertAll, Document.insertAll,
      Assoc.get?_putAll_reverse, Assoc.get?_putAll_reverse, h.get?_reverse k]
  have hproper := proper_insertAll_bounds hd calls
  have hproper' := proper_insertAll_bounds hd calls'
  refine (Document.same_iff_get? (Document.proper_iff.1 hproper).1
    (Document.proper_iff.1 hproper').1).2 ⟨fun k => ?_, fun k v w hv hw => ?_⟩
  · rw [← not_iff_not, Document.keys, Document.keys, ← Assoc.get?_eq_none_iff,
      ← Assoc.get?_eq_none_iff]
    exact Eq.congr_left (hget k)
  · obtain rfl : v = w := Option.some.inj (hv.symm.trans ((hget k).trans hw))
    exact Value.same_self (hproper.of_mem _ (Assoc.mem_of_get?_eq_some hv))

end Turns

section Accumulation

variable {c : Criteria} {op : Operator} {calls calls' : List (Bound × Binary64)}

/-- What bounds make of a node whose carrier compiled to a document, which becomes another. -/
structure BoundsCarried (op : Operator) (calls : List (Bound × Binary64)) (m n : Node)
    (d e : Document) : Prop where
  /-- Nothing but the operand of the carrier changes, and every operator stays in its place. -/
  inPlace : ∃ front o back, m.operators = front ++ (op, o) :: back ∧ o.render = .document d ∧
    n = { m with operators := front ++ (op, .value (.document e)) :: back }
  /-- The operand is compiled as the new document. -/
  compiled : Node.StandsPlain n.operatorDocument op (.value (.document e)) ∨
    Node.StandsNegated n.operatorDocument op (.value (.document e))
  geometry : ∃ v, d.get? "$geometry" = some v ∧ e.get? "$geometry" = some v
  /-- The last bound of a kind counts, and new ones stand behind in the order of first calls. -/
  bounds : Assoc.Accumulated d.entries (calls.map boundEntry) e.entries
  /-- No bound is there twice. -/
  distinct : e.Distinct
  /-- No bound that stands by itself is added or altered. -/
  standing : ∀ b : Bound, n.operand? b.operator = m.operand? b.operator

/-- What bounds make of a node that has no carrier for them. -/
structure BoundsStandAlone (calls : List (Bound × Binary64)) (m n : Node) : Prop where
  /-- Nothing but the operators changes. -/
  rest : n = { m with operators := n.operators }
  /-- The last bound of a kind counts, and no other operator changes. -/
  bounds : Assoc.Accumulated m.operators (calls.map standingBound) n.operators
  near : ∀ op, op.IsNear → n.operand? op = m.operand? op

theorem boundsCarried_put (hc : Reachable c) (hop : op.IsNear) {o : Operand} {d : Document}
    (ho : c.active.operand? op = some o) (hd : o.render = .document d) (hproper : d.Proper)
    (hgeometry : (d.get? "$geometry").isSome) (calls : List (Bound × Binary64)) :
    BoundsCarried op calls c.active
      (c.active.put op (.value (.document (d.insertAll ⟨calls.map boundEntry⟩)))) d
      (d.insertAll ⟨calls.map boundEntry⟩) := by
  have hwell := hc.nodes_wellFormed _ (active_mem_chain c)
  have haccumulated := Assoc.accumulated_putAll d.entries (calls.map boundEntry)
  refine ⟨?_, ?_, ?_, haccumulated, ?_, ?_⟩
  · obtain ⟨front, back, hsplit, hfront⟩ := Assoc.exists_split_of_get?_eq_some ho
    refine ⟨front, o, back, hsplit, hd, ?_⟩
    rw [Node.put, hsplit, Assoc.put_append_cons _ _ back hfront]
  · refine Node.stands_of_mem (Assoc.nodup_keys_put _ _ hwell.distinct) ?_ (by simp)
    exact Assoc.mem_of_get?_eq_some (Node.operand?_put_self c.active op _)
  · obtain ⟨v, hv⟩ := Option.isSome_iff_exists.1 hgeometry
    refine ⟨v, hv, (haccumulated.kept _ ?_).trans hv⟩
    intro hmem
    obtain ⟨x, _, hx⟩ : ∃ x : Bound × Binary64, x ∈ calls ∧ x.1.operator.key = "$geometry" := by
      simpa [Assoc.keys, boundEntry] using hmem
    exact x.1.key_ne_geometry hx
  · exact (Document.proper_iff.1 (proper_insertAll_bounds hproper calls)).1
  · exact fun b => Node.operand?_put_of_ne _ (Node.bound_ne_near b hop).symm _

theorem boundsStandAlone_putAll (n : Node) (calls : List (Bound × Binary64)) :
    BoundsStandAlone calls n
      { n with operators := Assoc.putAll n.operators (calls.map standingBound) } := by
  have haccumulated := Assoc.accumulated_putAll n.operators (calls.map standingBound)
  refine ⟨rfl, haccumulated, fun op hop => haccumulated.kept op ?_⟩
  intro hmem
  obtain ⟨x, _, hx⟩ : ∃ x : Bound × Binary64, x ∈ calls ∧ x.1.operator = op := by
    simpa [Assoc.keys, standingBound] using hmem
  exact Node.bound_ne_near x.1 hop hx

/-- What the carrier compiles to, and what becomes of it. -/
theorem exists_run_bounds_of_carrier (hc : Reachable c) (h : c.active.carrier? = some op) :
    ∃ o d, op.IsNear ∧ c.active.operand? op = some o ∧ o.render = .document d ∧ d.Proper ∧
      (d.get? "$geometry").isSome ∧ ∀ calls, calls ≠ [] → c.run (boundCalls calls) =
        c.put op (.value (.document (d.insertAll ⟨calls.map boundEntry⟩))) := by
  obtain ⟨hop, o, ho, htakes⟩ : op.IsNear ∧ c.active.TakesBounds op := by
    rcases Node.carrier?_eq_some_iff.1 h with ⟨rfl, htakes⟩ | ⟨rfl, htakes, _⟩
    · exact ⟨Or.inl rfl, htakes⟩
    · exact ⟨Or.inr rfl, htakes⟩
  obtain ⟨d, hd, hproper, hgeometry⟩ := Node.exists_document_of_takesBounds
    (hc.nodes_wellFormed _ (active_mem_chain c)) hop ho htakes
  refine ⟨o, d, hop, ho, hd, hproper, hgeometry, fun calls hcalls => ?_⟩
  cases calls with
  | nil => exact absurd rfl hcalls
  | cons x calls => exact run_bounds_of_carrier hc h ho hd hgeometry x calls

/-- **Bounds accumulate.**  Bounds called one after the other change the active node alone.  If it
has a carrier, they all go into the document that its operand compiles to, and they may be called
in turns of any sort: the documents are equal, and so are the criteria, where equality makes sense
of them because no document in them repeats a key.  If it has none, they all stand by themselves. -/
theorem bounds_accumulate (hc : Reachable c) (hcalls : calls ≠ []) :
    (∃ n, c.run (boundCalls calls) = { c with active := n } ∧
      (∀ op, c.active.carrier? = some op → ∃ d e, BoundsCarried op calls c.active n d e) ∧
      (c.active.carrier? = none → BoundsStandAlone calls c.active n)) ∧
    ∀ op, c.active.carrier? = some op → ∀ calls', Interleaved calls calls' →
      ∃ e e' : Document, c.run (boundCalls calls) = c.put op (.value (.document e)) ∧
        c.run (boundCalls calls') = c.put op (.value (.document e')) ∧ e.same e' = true ∧
        (c.Proper → (c.run (boundCalls calls) == c.run (boundCalls calls')) = true) := by
  constructor
  · cases h : c.active.carrier? with
    | none =>
        refine ⟨_, run_bounds_standalone hc h calls, by simp, fun _ => ?_⟩
        exact boundsStandAlone_putAll c.active calls
    | some op =>
        obtain ⟨o, d, hop, ho, hd, hproper, hgeometry, hrun⟩ := exists_run_bounds_of_carrier hc h
        refine ⟨_, hrun calls hcalls, ?_, by simp⟩
        rintro _ ⟨⟩
        exact ⟨d, _, boundsCarried_put hc hop ho hd hproper hgeometry calls⟩
  · intro op h calls' hturns
    obtain ⟨o, d, hop, ho, hd, hproper, hgeometry, hrun⟩ := exists_run_bounds_of_carrier hc h
    have hsame := same_insertAll_of_interleaved hproper hturns
    refine ⟨_, _, hrun calls hcalls, hrun calls' (hturns.ne_nil hcalls), hsame, fun hc' => ?_⟩
    rw [hrun calls hcalls, hrun calls' (hturns.ne_nil hcalls)]
    have hself : Same c c := hc.same_of_beq hc (lawfulAt hc').refl
    refine (hself.put_value op ?_).beq
    rw [Value.same_document]
    exact hsame

/-- A field near to a flat point, which takes no bounds, and on the sphere to a geometry. -/
def nearTwice : Criteria :=
  (field "a").run [.near (.point ⟨⟨0⟩, ⟨0⟩⟩), .nearSphere (.geometry (.point ⟨⟨0⟩, ⟨0⟩⟩))]

/-- Three bounds in two turns. -/
theorem bounds_accumulate_on_sphere : Reachable nearTwice ∧
    nearTwice.active.carrier? = some .nearSphere ∧
      Interleaved [(.max, ⟨1⟩), (.min, ⟨2⟩), (.max, ⟨3⟩)] [(.min, ⟨2⟩), (.max, ⟨1⟩), (.max, ⟨3⟩)] ∧
        (nearTwice.run (boundCalls [(.max, ⟨1⟩), (.min, ⟨2⟩), (.max, ⟨3⟩)]) ==
          nearTwice.run (boundCalls [(.min, ⟨2⟩), (.max, ⟨1⟩), (.max, ⟨3⟩)])) = true := by
  have hstart : Reachable nearTwice := (Reachable.field "a").run _
  have hproper : nearTwice.Proper := by
    refine Proper.run (proper_ofNode (Node.proper_ofTarget _)) ?_
    simp [Call.Proper]
  have hturns : Interleaved [(.max, ⟨1⟩), (.min, ⟨2⟩), (.max, ⟨3⟩)]
      [(.min, ⟨2⟩), (.max, ⟨1⟩), (.max, ⟨3⟩)] := by
    intro b
    cases b <;> rfl
  have hcalls : [(Bound.max, (⟨1⟩ : Binary64)), (.min, ⟨2⟩), (.max, ⟨3⟩)] ≠ [] := by simp
  obtain ⟨_, hequal⟩ := bounds_accumulate hstart hcalls
  obtain ⟨_, _, _, _, _, hturned⟩ := hequal .nearSphere rfl _ hturns
  exact ⟨hstart, rfl, hturns, hturned hproper⟩

-- The operators keep their places, and each bound stands where its first call put it.
example : (nearTwice.run (boundCalls [(.max, ⟨1⟩), (.min, ⟨2⟩), (.max, ⟨3⟩)])).active.operators.map
      (fun e => (e.1, e.2.render.document?.map Document.keys)) =
    [(.near, none), (.nearSphere, some ["$geometry", "$maxDistance", "$minDistance"])] := by
  rfl

end Accumulation

end Criteria

end DocFilter
