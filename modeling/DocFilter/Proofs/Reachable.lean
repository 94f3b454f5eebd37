import DocFilter.Criteria.Call
import DocFilter.Proofs.Refusal
import DocFilter.Proofs.Shape

/-!
# Reachable criteria

Criteria are *reachable* if calls that were accepted lead to them from one of
the three ways to begin.

Most calls record one operator on the active node with an operand of their
own; `Call.recorded` says which.  What the accepted calls do all in all is
listed once, in the relation `Change`, and every invariant is derived from
that list:

* each node is well formed (`Node.WellFormed`): it records an operator at most
  once, negates nothing but the next operator or a pattern, and is near to a
  shape or to a geometry that carries bounds;
* the active node is the last field of the chain, or the first node if there
  is no field in it (`ActiveLast`), so its place can be read off the chain
  (`Reachable.length_before`).
-/

namespace DocFilter

open Number (Binary64)
open Geo

/-- Does the operator ask for nearness? -/
def Operator.IsNear (op : Operator) : Prop :=
  op = .near ∨ op = .nearSphere

theorem Bound.key_ne_geometry (b : Bound) : b.operator.key ≠ "$geometry" := by
  cases b <;> decide

/-- A bound that is put into a document leaves its geometry alone. -/
theorem Document.get?_geometry_insert (d : Document) (b : Bound) (v : Value) :
    (d.insert b.operator.key v).get? "$geometry" = d.get? "$geometry" :=
  Document.get?_insert_of_ne d b.key_ne_geometry v

/-- Is the target a field? -/
def Target.isField : Target → Bool
  | .field _ => true
  | _ => false

namespace Node

/-- What the operators of every node are like, whatever calls recorded them. -/
structure WellFormed (n : Node) : Prop where
  /-- An operator is recorded at most once. -/
  distinct : (Assoc.keys n.operators).Nodup
  /-- A negation waits for the next operator, or it is that of a pattern. -/
  negation : ∀ o, n.operand? .not = some o → o = .negation ∨ ∃ p, o = .value (.regex p)
  /-- Nearness is to a shape, or to a geometry with bounds beside it. -/
  near : ∀ op, op.IsNear → ∀ o, n.operand? op = some o →
    (∃ s, o = .shape s) ∨
      ∃ d, o = .value (.document d) ∧ d.Proper ∧ (d.get? "$geometry").isSome

theorem wellFormed_of_operators_nil {n : Node} (h : n.operators = []) : n.WellFormed := by
  refine ⟨by simp [h], fun o ho => ?_, fun op _ o ho => ?_⟩
  · simp [operand?, h] at ho
  · simp [operand?, h] at ho

theorem wellFormed_ofSchema (schema : Document) : (ofSchema schema).WellFormed := by
  refine ⟨by simp [ofSchema], fun o ho => ?_, fun op hop o ho => ?_⟩
  · simp [operand?, ofSchema, Assoc.get?_cons] at ho
  · rcases hop with rfl | rfl
    · simp [operand?, ofSchema, Assoc.get?_cons] at ho
    · simp [operand?, ofSchema, Assoc.get?_cons] at ho

theorem wellFormed_ofCombinator (op : Combinator) (docs : List Document) :
    (ofCombinator op docs).WellFormed :=
  wellFormed_of_operators_nil rfl

theorem operand?_put_self (n : Node) (op : Operator) (o : Operand) :
    (n.put op o).operand? op = some o :=
  Assoc.get?_put_self op o n.operators

theorem operand?_put_of_ne (n : Node) {op op' : Operator} (h : op ≠ op') (o : Operand) :
    (n.put op o).operand? op' = n.operand? op' :=
  Assoc.get?_put_of_ne h o n.operators

/-- Recording keeps a node well formed if the operand suits its operator. -/
theorem WellFormed.put {n : Node} (h : n.WellFormed) {op : Operator} {o : Operand}
    (hnot : op = .not → o = .negation ∨ ∃ p, o = .value (.regex p))
    (hnear : op.IsNear → (∃ s, o = .shape s) ∨
      ∃ d, o = .value (.document d) ∧ d.Proper ∧ (d.get? "$geometry").isSome) :
    (n.put op o).WellFormed := by
  refine ⟨Assoc.nodup_keys_put op o h.distinct, fun o' ho' => ?_, fun op' hop' o' ho' => ?_⟩
  · by_cases hop : op = .not
    · subst hop
      rw [operand?_put_self] at ho'
      exact Option.some.inj ho' ▸ hnot rfl
    · rw [operand?_put_of_ne n hop] at ho'
      exact h.negation o' ho'
  · by_cases hop : op = op'
    · subst hop
      rw [operand?_put_self] at ho'
      exact Option.some.inj ho' ▸ hnear hop'
    · rw [operand?_put_of_ne n hop] at ho'
      exact h.near op' hop' o' ho'

end Node

namespace Criteria

section Recording

/-- The operator that a call records and the operand it gives, or why it is refused.  Calls that do
more, or something else, record nothing in this sense. -/
def Call.recorded : Call → Option (Operator × Except Error Operand)
  | .compare op v => some (op.operator, .ok (.value v))
  | .member op vs =>
      some (op.operator, (candidates op.operator vs).map fun items => .value (.array items))
  | .modulo divisor remainder => some (.mod, .ok (.value (.array [divisor, remainder])))
  | .size n => some (.size, .ok (.value (.int32 n)))
  | .present b => some (.present, .ok (.value (.bool b)))
  | .typeNumber n => some (.type, .ok (.value (.int32 n)))
  | .typeOf types => some (.type, .ok (.value (.array (types.map fun t => .string t.name))))
  | .near s => some (.near, .ok (.shape s))
  | .nearSphere s => some (.nearSphere, .ok (.shape s))
  | .within s => some (.geoWithin, .ok (.command s))
  | .withinSphere circle => some (.geoWithin, .ok (.command (.sphere circle)))
  | .intersects g => some (.geoIntersects, .ok (.shape (.geometry g)))
  | .elemMatch d => some (.elemMatch, d.compile.map fun doc => .value (.document doc))
  | .testBits t mask => some (t.operator, mask.toValue.map fun v => .value v)
  | _ => none

/-- A recording call puts its operand under its operator, or is refused for its own reason. -/
theorem call_of_recorded {s : Call} {op : Operator} {r : Except Error Operand}
    (h : s.recorded = some (op, r)) (c : Criteria) : c.call s = r.map fun o => c.put op o := by
  cases s with
  | member m vs =>
      simp only [Call.recorded, Option.some.injEq, Prod.mk.injEq] at h
      obtain ⟨rfl, rfl⟩ := h
      rw [call, member]
      cases candidates m.operator vs <;> rfl
  | elemMatch d =>
      simp only [Call.recorded, Option.some.injEq, Prod.mk.injEq] at h
      obtain ⟨rfl, rfl⟩ := h
      rw [call, elemMatch]
      cases d.compile <;> rfl
  | testBits t mask =>
      simp only [Call.recorded, Option.some.injEq, Prod.mk.injEq] at h
      obtain ⟨rfl, rfl⟩ := h
      rw [call, testBits]
      cases mask.toValue <;> rfl
  | _ =>
      simp only [Call.recorded, reduceCtorEq, Option.some.injEq, Prod.mk.injEq] at h
      all_goals
        obtain ⟨rfl, rfl⟩ := h
        rfl

/-- What a call records is neither a negation nor under one, and nearness is to a shape. -/
theorem operand_of_recorded {s : Call} {op : Operator} {o : Operand}
    (h : s.recorded = some (op, .ok o)) :
    op ≠ .not ∧ o ≠ .negation ∧ (op.IsNear → ∃ s, o = .shape s) := by
  cases s with
  | compare c v =>
      simp only [Call.recorded, Option.some.injEq, Prod.mk.injEq, Except.ok.injEq] at h
      obtain ⟨rfl, rfl⟩ := h
      cases c <;> simp [Comparison.operator, Operator.IsNear]
  | member m vs =>
      simp only [Call.recorded, Option.some.injEq, Prod.mk.injEq] at h
      obtain ⟨rfl, hr⟩ := h
      obtain ⟨items, _, rfl⟩ := exists_of_map_eq_ok hr
      cases m <;> simp [Membership.operator, Operator.IsNear]
  | elemMatch d =>
      simp only [Call.recorded, Option.some.injEq, Prod.mk.injEq] at h
      obtain ⟨rfl, hr⟩ := h
      obtain ⟨doc, _, rfl⟩ := exists_of_map_eq_ok hr
      simp [Operator.IsNear]
  | testBits t mask =>
      simp only [Call.recorded, Option.some.injEq, Prod.mk.injEq] at h
      obtain ⟨rfl, hr⟩ := h
      obtain ⟨v, _, rfl⟩ := exists_of_map_eq_ok hr
      cases t <;> simp [BitTest.operator, Operator.IsNear]
  | _ =>
      simp only [Call.recorded, reduceCtorEq, Option.some.injEq, Prod.mk.injEq,
        Except.ok.injEq] at h
      all_goals
        obtain ⟨rfl, rfl⟩ := h
        simp [Operator.IsNear]

end Recording

section Change

/-- What accepted calls do to criteria. -/
inductive Change (c : Criteria) : Criteria → Prop
  /-- A field is appended and made active. -/
  | field (key : String) (h : c.active.hasDanglingNot = false) :
      Change c { before := c.chain, active := { target := .field key }, after := [] }
  /-- A schema or a combinator is appended behind. -/
  | element (n : Node) (h : c.active.hasDanglingNot = false)
      (hn : (∃ schema, n = .ofSchema schema) ∨ ∃ op docs, n = .ofCombinator op docs) :
      Change c { c with after := c.after ++ [n] }
  /-- The active node is given a value to equal. -/
  | equality (v : Value) (h : c.active.hasDanglingNot = false) :
      Change c (c.modify fun n => { n with equality := some v })
  /-- The next operator is negated. -/
  | negation : Change c c.negate
  /-- A pending negation becomes that of a pattern. -/
  | negatedPattern (p : Pattern) (h : c.active.hasDanglingNot = true) :
      Change c (c.put .not (.value (.regex p)))
  /-- An operator is recorded with an operand of its own. -/
  | record (op : Operator) (o : Operand) (hop : op ≠ .not) (ho : o ≠ .negation)
      (hnear : op.IsNear → ∃ s, o = .shape s) : Change c (c.put op o)
  /-- A bound is added to the operand of a nearness operator. -/
  | augmentation (op : Operator) (b : Bound) (distance : Binary64) (o o' : Operand)
      (hop : op.IsNear) (ho : c.active.operand? op = some o)
      (ho' : boundedOperand? b distance o = some o') : Change c (c.put op o')

variable {c d : Criteria}

theorem change_of_append {n : Node}
    (hn : (∃ schema, n = .ofSchema schema) ∨ ∃ op docs, n = .ofCombinator op docs)
    (h : c.append n = .ok d) : Change c d := by
  unfold append at h
  split at h
  · cases h
  · rename_i hdangling
    cases h
    exact .element n (by simpa using hdangling) hn

theorem change_of_combine {op : Combinator} {cs : List Criteria} (h : c.combine op cs = .ok d) :
    Change c d := by
  obtain ⟨docs, _, happend⟩ := exists_of_bind_eq_ok h
  exact change_of_append (Or.inr ⟨op, docs, rfl⟩) happend

theorem change_of_equals {v : Value} (h : c.equals v = .ok d) : Change c d := by
  unfold equals at h
  split at h
  · cases h
  · split at h
    · cases h
    · rename_i hdangling
      cases h
      exact .equality v (by simpa using hdangling)

theorem change_matchPattern (c : Criteria) (p : Pattern) : Change c (c.matchPattern p) := by
  cases h : c.active.hasDanglingNot with
  | true =>
      have hc : c.matchPattern p = c.put .not (.value (.regex p)) := by
        simp [matchPattern, put, modify, h]
      rw [hc]
      exact .negatedPattern p h
  | false =>
      have hc : c.matchPattern p = c.modify fun n => { n with equality := some (.regex p) } := by
        simp [matchPattern, modify, h]
      rw [hc]
      exact .equality (.regex p) h

/-- A bound goes to the first nearness operator that can carry it, or stands by itself. -/
theorem bound_cases (c : Criteria) (b : Bound) (distance : Binary64) :
    (∃ op o o', Operator.IsNear op ∧ c.active.operand? op = some o ∧
        boundedOperand? b distance o = some o' ∧ c.bound b distance = c.put op o') ∨
      c.bound b distance = c.put b.operator (.value (.double distance)) := by
  have hstep : ∀ op n, boundOn? c.active op b distance = some n →
      ∃ o o', c.active.operand? op = some o ∧ boundedOperand? b distance o = some o' ∧
        n = c.active.put op o' := by
    intro op n hn
    simp only [boundOn?, Option.bind_eq_bind, Option.bind_eq_some_iff] at hn
    obtain ⟨o, ho, o', ho', hn⟩ := hn
    exact ⟨o, o', ho, ho', (Option.some.inj hn).symm⟩
  cases hnear : boundOn? c.active .near b distance with
  | some n =>
      obtain ⟨o, o', ho, ho', rfl⟩ := hstep .near n hnear
      exact Or.inl ⟨.near, o, o', Or.inl rfl, ho, ho', by simp [bound, put, modify, hnear]⟩
  | none =>
      cases hsphere : boundOn? c.active .nearSphere b distance with
      | some n =>
          obtain ⟨o, o', ho, ho', rfl⟩ := hstep .nearSphere n hsphere
          exact Or.inl ⟨.nearSphere, o, o', Or.inr rfl, ho, ho',
            by simp [bound, put, modify, hnear, hsphere]⟩
      | none =>
          exact Or.inr (by simp [bound, put, modify, hnear, hsphere])

theorem change_bound (c : Criteria) (b : Bound) (distance : Binary64) :
    Change c (c.bound b distance) := by
  rcases bound_cases c b distance with ⟨op, o, o', hop, ho, ho', hc⟩ | hc
  · rw [hc]
    exact .augmentation op b distance o o' hop ho ho'
  · rw [hc]
    refine .record _ _ ?_ (by simp) ?_
    · cases b <;> simp [Bound.operator]
    · cases b <;> simp [Bound.operator, Operator.IsNear]

/-- The list of changes is complete. -/
theorem change_of_call {s : Call} (h : c.call s = .ok d) : Change c d := by
  cases hs : s.recorded with
  | some e =>
      obtain ⟨op, r⟩ := e
      rw [call_of_recorded hs] at h
      cases r with
      | error e =>
          cases h
      | ok o =>
          cases h
          obtain ⟨hop, ho, hnear⟩ := operand_of_recorded hs
          exact .record op o hop ho hnear
  | none =>
      cases s with
      | andField key =>
          simp only [call, andField] at h
          split at h
          · cases h
          · rename_i hdangling
            cases h
            exact .field key (by simpa using hdangling)
      | equals v =>
          exact change_of_equals h
      | negate =>
          cases h
          exact .negation
      | matchSource source options =>
          simp only [call, matchSource] at h
          split at h
          · cases h
            exact change_matchPattern c _
          · cases h
      | matchPattern p =>
          cases h
          exact change_matchPattern c p
      | bound b distance =>
          cases h
          exact change_bound c b distance
      | andSchema schema =>
          exact change_of_append (Or.inl ⟨schema, rfl⟩) h
      | combine op cs =>
          exact change_of_combine h
      | _ =>
          simp [Call.recorded] at hs

end Change

section Reachable

/-- Criteria that calls of the builder lead to. -/
inductive Reachable : Criteria → Prop
  | root : Reachable .root
  | field (key : String) : Reachable (.field key)
  | ofSchema (schema : Document) : Reachable (.ofSchema schema)
  | call {c d : Criteria} (s : Call) (hc : Reachable c) (h : c.call s = .ok d) : Reachable d

variable {c d : Criteria}

theorem Reachable.callOrKeep (hc : Reachable c) (s : Call) : Reachable (c.callOrKeep s) := by
  unfold Criteria.callOrKeep
  split
  · rename_i d h
    exact .call s hc h
  · exact hc

/-- A run never leaves the reachable criteria, whichever of its calls are refused. -/
theorem Reachable.run (hc : Reachable c) (steps : List Call) : Reachable (c.run steps) := by
  induction steps generalizing c with
  | nil =>
      exact hc
  | cons s rest ih =>
      exact ih (hc.callOrKeep s)

theorem mem_chain {n : Node} : n ∈ c.chain ↔ n ∈ c.before ∨ n = c.active ∨ n ∈ c.after := by
  rw [chain, List.mem_append, List.mem_cons]

theorem active_mem_chain (c : Criteria) : c.active ∈ c.chain :=
  mem_chain.2 (Or.inr (Or.inl rfl))

/-- Changing the active node keeps what holds of every node if it holds of the new one. -/
theorem forall_chain_modify {P : Node → Prop} {f : Node → Node} (h : ∀ n ∈ c.chain, P n)
    (hf : P (f c.active)) : ∀ n ∈ (c.modify f).chain, P n := by
  intro n hn
  rcases mem_chain.1 hn with hb | rfl | ha
  · exact h n (mem_chain.2 (Or.inl hb))
  · exact hf
  · exact h n (mem_chain.2 (Or.inr (Or.inr ha)))

/-- Adding a bound to an operand that can carry it makes it a document with the geometry. -/
theorem document_of_boundedOperand? {b : Bound} {distance : Binary64} {o o' : Operand}
    (ho : (∃ s, o = .shape s) ∨
      ∃ d, o = .value (.document d) ∧ d.Proper ∧ (d.get? "$geometry").isSome)
    (h : boundedOperand? b distance o = some o') :
    ∃ d, o' = .value (.document d) ∧ d.Proper ∧ (d.get? "$geometry").isSome := by
  have hnew : ∀ d : Document, d.Proper → (d.get? "$geometry").isSome →
      (d.insert b.operator.key (.double distance)).Proper ∧
        ((d.insert b.operator.key (.double distance)).get? "$geometry").isSome := by
    intro d hd hg
    refine ⟨Document.proper_insert hd _ (by simp [Value.Proper]), ?_⟩
    rwa [Document.get?_geometry_insert]
  rcases ho with ⟨s, rfl⟩ | ⟨d, rfl, hd, hg⟩
  · cases s with
    | geometry g =>
        refine ⟨_, (Option.some.inj h).symm, hnew _ g.proper_toOperand ?_⟩
        simp [Geometry.toOperand, Document.single, Document.get?, Assoc.get?_cons]
    | _ =>
        simp [boundedOperand?] at h
  · exact ⟨_, (Option.some.inj h).symm, hnew d hd hg⟩

theorem Change.nodes_wellFormed (hcd : Change c d) (h : ∀ n ∈ c.chain, n.WellFormed) :
    ∀ n ∈ d.chain, n.WellFormed := by
  have hactive : c.active.WellFormed := h _ (active_mem_chain c)
  cases hcd with
  | field key _ =>
      intro n hn
      rcases mem_chain.1 hn with hb | rfl | ha
      · exact h n hb
      · exact Node.wellFormed_of_operators_nil rfl
      · exact absurd ha List.not_mem_nil
  | element m _ hm =>
      intro n hn
      rcases mem_chain.1 hn with hb | rfl | ha
      · exact h n (mem_chain.2 (Or.inl hb))
      · exact hactive
      · rcases List.mem_append.1 ha with ha | ha
        · exact h n (mem_chain.2 (Or.inr (Or.inr ha)))
        · rw [List.mem_singleton.1 ha]
          rcases hm with ⟨schema, rfl⟩ | ⟨op, docs, rfl⟩
          · exact Node.wellFormed_ofSchema schema
          · exact Node.wellFormed_ofCombinator op docs
  | equality v _ =>
      exact forall_chain_modify h ⟨hactive.distinct, hactive.negation, hactive.near⟩
  | negation =>
      exact forall_chain_modify h (hactive.put (fun _ => Or.inl rfl) (by simp [Operator.IsNear]))
  | negatedPattern p _ =>
      exact forall_chain_modify h
        (hactive.put (fun _ => Or.inr ⟨p, rfl⟩) (by simp [Operator.IsNear]))
  | record op o hop _ hnear =>
      exact forall_chain_modify h
        (hactive.put (fun hnot => absurd hnot hop) fun hn => Or.inl (hnear hn))
  | augmentation op b distance o o' hop ho ho' =>
      refine forall_chain_modify h (hactive.put ?_ fun hn => Or.inr ?_)
      · rintro rfl
        simp [Operator.IsNear] at hop
      · exact document_of_boundedOperand? (hactive.near op hn o ho) ho'

theorem Reachable.nodes_wellFormed (h : Reachable c) : ∀ n ∈ c.chain, n.WellFormed := by
  induction h with
  | root =>
      simpa [Criteria.root, ofNode, chain] using Node.wellFormed_of_operators_nil rfl
  | field key =>
      simpa [Criteria.field, ofNode, chain] using Node.wellFormed_of_operators_nil rfl
  | ofSchema schema =>
      simpa [Criteria.ofSchema, ofNode, chain] using Node.wellFormed_ofSchema schema
  | call s _ h ih =>
      exact (change_of_call h).nodes_wellFormed ih

end Reachable

section Active

/-- The place of the last field among targets, or the first place if there is no field. -/
def lastField : List Target → Nat
  | [] => 0
  | _ :: ts => if ts.any Target.isField then lastField ts + 1 else 0

theorem lastField_append_cons {xs : List Target} {t : Target} {ys : List Target}
    (ht : t.isField = true ∨ xs = []) (hys : ∀ t ∈ ys, t.isField = false) :
    lastField (xs ++ t :: ys) = xs.length := by
  have hany : ys.any Target.isField = false := by
    simpa using hys
  induction xs with
  | nil =>
      simp [lastField, hany]
  | cons x xs ih =>
      have htf : t.isField = true := by
        simpa using ht
      have hrest : (xs ++ t :: ys).any Target.isField = true := by
        simp [htf]
      rw [List.cons_append, lastField, if_pos hrest, ih (Or.inl htf), List.length_cons]

/-- The active node is the last field of the chain, or the first node if there is no field. -/
structure ActiveLast (c : Criteria) : Prop where
  field_or_first : c.active.target.isField = true ∨ c.before = []
  after : ∀ n ∈ c.after, n.target.isField = false

variable {c d : Criteria}

theorem Change.activeLast (hcd : Change c d) (h : ActiveLast c) : ActiveLast d := by
  cases hcd with
  | field key _ =>
      exact ⟨Or.inl rfl, fun n hn => absurd hn List.not_mem_nil⟩
  | element m _ hm =>
      refine ⟨h.field_or_first, fun n hn => ?_⟩
      rcases List.mem_append.1 hn with hn | hn
      · exact h.after n hn
      · rw [List.mem_singleton.1 hn]
        rcases hm with ⟨schema, rfl⟩ | ⟨op, docs, rfl⟩
        · rfl
        · rfl
  | _ =>
      exact ⟨h.field_or_first, h.after⟩

theorem Reachable.activeLast (h : Reachable c) : ActiveLast c := by
  induction h with
  | call s _ h ih =>
      exact (change_of_call h).activeLast ih
  | _ =>
      exact ⟨Or.inr rfl, fun n hn => absurd hn List.not_mem_nil⟩

/-- The place of the active node can be read off the targets of the chain. -/
theorem Reachable.length_before (h : Reachable c) :
    c.before.length = lastField (c.chain.map Node.target) := by
  have hlast := h.activeLast
  rw [chain, List.map_append, List.map_cons, lastField_append_cons, List.length_map]
  · rcases hlast.field_or_first with hf | hb
    · exact Or.inl hf
    · exact Or.inr (by rw [hb, List.map_nil])
  · intro t ht
    obtain ⟨n, hn, rfl⟩ := List.mem_map.1 ht
    exact hlast.after n hn

end Active

end Criteria

end DocFilter
