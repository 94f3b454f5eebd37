import DocFilter.Proofs.ActiveNode

/-!
# Where distance bounds are kept

A bound on a distance goes to `$near` if what stands there can carry it, else
to `$nearSphere`, else it stands by itself.  A geometry can carry bounds, and a
document that carries bounds already; no other operand does.

So bounds come to stand with both operators only in this way: `$nearSphere`
carries bounds, `$near` is then given a geometry, and the next bound goes there
(`Node.Divides`).  Along every run in which no bound is called on such a node,
and along no other, the bounds of each node stand with one operator.
-/

namespace DocFilter

open Number (Binary64)
open Geo

/-- The operand compiles to a document that bounds a distance. -/
def Operand.CarriesBound (o : Operand) : Prop :=
  ∃ (d : Document) (b : Bound), o.render = .document d ∧ (d.get? b.operator.key).isSome

namespace Node

/-- The node bounds the distance with an operator. -/
def BoundOn (n : Node) (op : Operator) : Prop :=
  ∃ o, n.operand? op = some o ∧ o.CarriesBound

/-- The node bounds the distance with both nearness operators. -/
def BoundTwice (n : Node) : Prop :=
  n.BoundOn .near ∧ n.BoundOn .nearSphere

/-- The next bound goes to a geometry, while the other nearness operator carries bounds. -/
def Divides (n : Node) : Prop :=
  (∃ g, n.operand? .near = some (.shape (.geometry g))) ∧ n.BoundOn .nearSphere

/-- Nearness is to shapes, and to documents that carry bounds. -/
def NearBounded (n : Node) : Prop :=
  ∀ op, op.IsNear → ∀ o, n.operand? op = some o →
    (∃ s, o = .shape s) ∨ (∃ d, o = .value (.document d)) ∧ o.CarriesBound

section Operands

variable {b : Bound} {distance : Binary64} {o o' : Operand}

theorem render_shape (s : Shape) : (∃ vs, (Operand.shape s).render = .array vs) ∨
    ∃ k v, (Operand.shape s).render = .document (.single k v) ∧
      k ∈ ["$box", "$center", "$centerSphere", "$polygon", "$geometry"] := by
  cases s with
  | point p => exact Or.inl ⟨_, rfl⟩
  | box b => exact Or.inr ⟨_, _, rfl, by simp⟩
  | circle c => exact Or.inr ⟨_, _, rfl, by simp⟩
  | sphere c => exact Or.inr ⟨_, _, rfl, by simp⟩
  | polygon corners => exact Or.inr ⟨_, _, rfl, by simp⟩
  | geometry g => exact Or.inr ⟨_, _, rfl, by simp⟩

theorem not_carriesBound_shape (s : Shape) : ¬ (Operand.shape s).CarriesBound := by
  rintro ⟨d, b, hd, hb⟩
  rcases render_shape s with ⟨vs, hs⟩ | ⟨k, v, hs, hk⟩
  · rw [hs] at hd
    cases hd
  · rw [hs] at hd
    cases hd
    have hkey : b.operator.key ≠ k := by
      rintro rfl
      cases b <;> simp [Bound.operator, Operator.key] at hk
    simp [Document.single, Document.get?, Assoc.get?_cons, hkey.symm] at hb

/-- What has been given a bound carries one. -/
theorem carriesBound_of_boundedOperand? (h : Criteria.boundedOperand? b distance o = some o') :
    (∃ d, o' = .value (.document d)) ∧ o'.CarriesBound := by
  have hcarries : ∀ d : Document,
      (∃ e, Operand.value (.document (d.insert b.operator.key (.double distance))) =
        .value (.document e)) ∧
      (Operand.value (.document (d.insert b.operator.key (.double distance)))).CarriesBound := by
    intro d
    refine ⟨⟨_, rfl⟩, _, b, rfl, ?_⟩
    rw [Document.get?_insert_self]
    rfl
  unfold Criteria.boundedOperand? at h
  split at h
  · cases h
    exact hcarries _
  · cases h
    exact hcarries _
  · cases h

/-- Only documents and geometries can be given a bound. -/
theorem boundedOperand?_eq_none_iff : Criteria.boundedOperand? b distance o = none ↔
    (∀ d, o ≠ .value (.document d)) ∧ ∀ g, o ≠ .shape (.geometry g) := by
  unfold Criteria.boundedOperand?
  split <;> simp_all

end Operands

section Nodes

variable {n m : Node} {op : Operator} {b : Bound} {distance : Binary64}

theorem bound_ne_near (b : Bound) {op : Operator} (h : op.IsNear) : b.operator ≠ op := by
  rcases h with rfl | rfl <;> cases b <;> simp [Bound.operator]

theorem operand?_touched {s : Criteria.Call} (h : Criteria.Touched n s m) (hop : op.IsNear)
    (hs : ∀ b distance, s ≠ .bound b distance) :
    m.operand? op = n.operand? op ∨ ∃ shape, m.operand? op = some (.shape shape) := by
  have hnot : Operator.not ≠ op := by
    rcases hop with rfl | rfl <;> simp
  cases h with
  | negation => exact Or.inl (operand?_put_of_ne n hnot _)
  | negatedPattern _ _ => exact Or.inl (operand?_put_of_ne n hnot _)
  | @record s op₁ o hs₁ =>
      by_cases heq : op₁ = op
      · subst heq
        obtain ⟨shape, rfl⟩ := (Criteria.operand_of_recorded hs₁).2.2 hop
        exact Or.inr ⟨shape, operand?_put_self n op₁ _⟩
      · exact Or.inl (operand?_put_of_ne n heq o)
  | bounded b distance => exact absurd rfl (hs b distance)
  | _ => exact Or.inl rfl

/-- Nearness stays to shapes and to documents that carry bounds. -/
theorem NearBounded.touched {s : Criteria.Call} (hn : n.NearBounded)
    (h : Criteria.Touched n s m) : m.NearBounded := by
  intro op hop o ho
  by_cases hs : ∃ b distance, s = .bound b distance
  · obtain ⟨b, distance, rfl⟩ := hs
    cases h with
    | appended hs _ => exact hs.elim
    | pattern hs _ => cases hs
    | negatedPattern hs _ => cases hs
    | record hs => cases hs
    | bounded b distance =>
        have hput : ∀ op₁ o₁ o₂, Criteria.boundedOperand? b distance o₁ = some o₂ →
            (n.put op₁ o₂).operand? op = some o →
              (∃ s, o = .shape s) ∨ (∃ d, o = .value (.document d)) ∧ o.CarriesBound := by
          intro op₁ o₁ o₂ ho₂ hoperand
          by_cases heq : op₁ = op
          · rw [heq, operand?_put_self, Option.some.injEq] at hoperand
            exact Or.inr (hoperand ▸ carriesBound_of_boundedOperand? ho₂)
          · rw [operand?_put_of_ne n heq] at hoperand
            exact hn op hop o hoperand
        rcases bounded_cases n b distance with
          ⟨o₁, o₂, _, ho₂, hm⟩ | ⟨_, ⟨o₁, o₂, _, ho₂, hm⟩ | hm⟩
        · exact hput .near o₁ o₂ ho₂ (hm ▸ ho)
        · exact hput .nearSphere o₁ o₂ ho₂ (hm ▸ ho)
        · rw [hm, operand?_put_of_ne n (bound_ne_near b hop)] at ho
          exact hn op hop o ho
  · rw [not_exists] at hs
    rcases operand?_touched h hop (fun b distance heq => hs b ⟨distance, heq⟩) with hsame | ⟨s, hs⟩
    · exact hn op hop o (hsame ▸ ho)
    · rw [hs, Option.some.injEq] at ho
      exact Or.inl ⟨s, ho.symm⟩

/-- An operator that cannot be given a bound carries none. -/
theorem NearBounded.not_boundOn (hn : n.NearBounded) (hop : op.IsNear)
    (hnone : ∀ o, n.operand? op = some o → Criteria.boundedOperand? b distance o = none) :
    ¬ n.BoundOn op := by
  rintro ⟨o, ho, hcarries⟩
  obtain ⟨hdocument, _⟩ := boundedOperand?_eq_none_iff.1 (hnone o ho)
  rcases hn op hop o ho with ⟨s, rfl⟩ | ⟨⟨d, rfl⟩, _⟩
  · exact not_carriesBound_shape s hcarries
  · exact hdocument d rfl

theorem not_divides (hnone : ∀ o, n.operand? .near = some o →
    Criteria.boundedOperand? b distance o = none) : ¬ n.Divides := by
  rintro ⟨⟨g, hg⟩, _⟩
  obtain ⟨_, hgeometry⟩ := boundedOperand?_eq_none_iff.1 (hnone _ hg)
  exact hgeometry g rfl

theorem boundOn_put_of_ne {op' : Operator} {o : Operand} (h : op' ≠ op) :
    (n.put op' o).BoundOn op ↔ n.BoundOn op := by
  rw [BoundOn, BoundOn, operand?_put_of_ne n h]

/-- A bound that is called comes to stand with both operators exactly if the node divides them. -/
theorem boundTwice_bounded_iff (hn : n.NearBounded) (hone : ¬ n.BoundTwice) :
    (n.bounded b distance).BoundTwice ↔ n.Divides := by
  rcases bounded_cases n b distance with ⟨o, o', ho, ho', hm⟩ | ⟨hnone, hm⟩
  · have hnear : (n.put .near o').BoundOn .near :=
      ⟨o', operand?_put_self n .near o', (carriesBound_of_boundedOperand? ho').2⟩
    have hsphere : (n.put .near o').BoundOn .nearSphere ↔ n.BoundOn .nearSphere :=
      boundOn_put_of_ne (by simp)
    rw [hm, BoundTwice, hsphere]
    constructor
    · rintro ⟨_, hbound⟩
      refine ⟨?_, hbound⟩
      rcases hn .near (Or.inl rfl) o ho with ⟨s, rfl⟩ | ⟨_, hcarries⟩
      · cases s with
        | geometry g => exact ⟨g, ho⟩
        | _ => cases ho'
      · exact absurd ⟨⟨o, ho, hcarries⟩, hbound⟩ hone
    · rintro ⟨_, hbound⟩
      exact ⟨hnear, hbound⟩
  · have hnear : ¬ n.BoundOn .near := hn.not_boundOn (Or.inl rfl) hnone
    have hkept : (n.bounded b distance).BoundOn .near ↔ n.BoundOn .near := by
      rcases hm with ⟨_, o', _, _, hm⟩ | hm
      · rw [hm]
        exact boundOn_put_of_ne (by simp)
      · rw [hm]
        exact boundOn_put_of_ne (bound_ne_near b (Or.inl rfl))
    refine iff_of_false ?_ (not_divides hnone)
    rintro ⟨hbound, _⟩
    exact hnear (hkept.1 hbound)

/-- Only a bound makes bounds stand with both operators. -/
theorem boundTwice_iff_of_touched {s : Criteria.Call} (hn : n.NearBounded) (hone : ¬ n.BoundTwice)
    (h : Criteria.Touched n s m) :
    m.BoundTwice ↔ (∃ b distance, s = .bound b distance) ∧ n.Divides := by
  by_cases hs : ∃ b distance, s = .bound b distance
  · obtain ⟨b, distance, rfl⟩ := hs
    cases h with
    | bounded b distance =>
        rw [boundTwice_bounded_iff hn hone, and_iff_right ⟨b, distance, rfl⟩]
    | appended hs _ => exact hs.elim
    | pattern hs _ => cases hs
    | negatedPattern hs _ => cases hs
    | record hs => cases hs
  · refine iff_of_false ?_ (fun hbound => hs hbound.1)
    have hback : ∀ op, op.IsNear → m.BoundOn op → n.BoundOn op := by
      rintro op hop ⟨o, ho, hcarries⟩
      rcases operand?_touched h hop (fun b distance heq => hs ⟨b, distance, heq⟩) with
        hsame | ⟨shape, hshape⟩
      · exact ⟨o, hsame ▸ ho, hcarries⟩
      · rw [hshape, Option.some.injEq] at ho
        exact absurd (ho ▸ hcarries) (not_carriesBound_shape shape)
    rintro ⟨hnear, hsphere⟩
    exact hone ⟨hback .near (Or.inl rfl) hnear, hback .nearSphere (Or.inr rfl) hsphere⟩

end Nodes

end Node

namespace Criteria

variable {c : Criteria}

theorem Reachable.nearBounded (hc : Reachable c) : ∀ n ∈ c.chain, n.NearBounded := by
  refine hc.forall_chain ?_ ?_ fun n s m h hn => hn.touched h
  · intro op _ o ho
    cases ho
  · intro n hn op hop o ho
    rw [hn.operand? (by rcases hop with rfl | rfl <;> simp)] at ho
    cases ho

/-- **Bounds stand with one operator, unless they are divided.**  If the bounds of each node stand
with one nearness operator at most, this stays so all along a run exactly if no bound is called
while the active node carries bounds with `$nearSphere` and has a geometry as `$near`. -/
theorem bounds_stay_together_iff (hc : Reachable c) (h : ∀ n ∈ c.chain, ¬ n.BoundTwice)
    (steps : List Call) :
    (∀ front, front <+: steps → ∀ n ∈ (c.run front).chain, ¬ n.BoundTwice) ↔
      ∀ front b distance, front ++ [.bound b distance] <+: steps →
        ¬ (c.run front).active.Divides := by
  have hnew : ∀ n : Node, n.IsNew → ¬ n.BoundTwice := by
    rintro n hn ⟨⟨o, ho, _⟩, _⟩
    rw [hn.operand? (by simp)] at ho
    cases ho
  have hstep : ∀ (c : Criteria) (s : Call) (n : Node), Reachable c → Touched c.active s n →
      ¬ c.active.BoundTwice →
        (¬ n.BoundTwice ↔ ¬ ((∃ b distance, s = .bound b distance) ∧ c.active.Divides)) :=
    fun c s n hc hn hone => not_congr
      (Node.boundTwice_iff_of_touched (hc.nearBounded _ (active_mem_chain c)) hone hn)
  rw [forall_chain_along_iff (B := fun n s => (∃ b distance, s = .bound b distance) ∧ n.Divides)
    hnew hstep ?_ hc h steps]
  · constructor
    · intro hnone front b distance hfront hdivides
      exact hnone front _ hfront ⟨⟨b, distance, rfl⟩, hdivides⟩
    · rintro hnone front s hfront ⟨⟨b, distance, rfl⟩, hdivides⟩
      exact hnone front b distance hfront hdivides
  · rintro c s ⟨⟨b, distance, rfl⟩, _⟩
    exact ⟨_, rfl⟩

/-- Bounds on a geometry, and again when the same geometry is also near on the sphere. -/
theorem bounds_stay_together_iff_before_sphere :
    Reachable (field "a") ∧ (∀ n ∈ (field "a").chain, ¬ n.BoundTwice) ∧
      ∀ front, front <+: [.near (.geometry (.point ⟨⟨0⟩, ⟨0⟩⟩)), .bound .max ⟨0⟩,
          .nearSphere (.geometry (.point ⟨⟨0⟩, ⟨0⟩⟩)), .bound .min ⟨0⟩] →
        ∀ n ∈ ((field "a").run front).chain, ¬ n.BoundTwice := by
  have hstart : ∀ n ∈ (field "a").chain, ¬ n.BoundTwice := by
    rintro n hn ⟨⟨o, ho, _⟩, _⟩
    rw [List.mem_singleton.1 hn] at ho
    cases ho
  refine ⟨.field "a", hstart, (bounds_stay_together_iff (.field "a") hstart _).2 ?_⟩
  rintro front b distance ⟨rest, hrest⟩ ⟨⟨g, hg⟩, o, ho, hcarries⟩
  rcases front with _ | ⟨s₁, _ | ⟨s₂, _ | ⟨s₃, _ | ⟨s₄, front⟩⟩⟩⟩
  · simp at hrest
  · obtain ⟨rfl, _⟩ : s₁ = _ ∧ _ := by simpa using hrest
    cases ho
  · simp at hrest
  · obtain ⟨rfl, rfl, rfl, _⟩ : s₁ = _ ∧ s₂ = _ ∧ s₃ = _ ∧ _ := by simpa using hrest
    cases hg
  · simp at hrest

-- A geometry that is near only after the sphere has its bound takes the next bound for itself.
example : ((field "a").run [.nearSphere (.geometry (.point ⟨⟨0⟩, ⟨0⟩⟩)), .bound .max ⟨0⟩,
    .near (.geometry (.point ⟨⟨0⟩, ⟨0⟩⟩)), .bound .max ⟨1⟩]).active.operators.map
      (fun e => (e.1, e.2.render.document?.map Document.keys)) =
    [(.nearSphere, some ["$geometry", "$maxDistance"]),
      (.near, some ["$geometry", "$maxDistance"])] := by
  rfl

end Criteria

end DocFilter
