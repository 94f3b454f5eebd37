import DocFilter.Proofs.Reachable

/-!
# How the nodes of a chain are arranged

A chain begins with a node that a builder was started on.  All further nodes
are fields, which calls go on to, or elements, which are appended behind and
never written to again: schemas and combinators.  A pending negation keeps
anything from being appended, so it can only be that of the active node.

`Arranged` says this of the nodes around the active one, and each change of
criteria keeps it (`Change.arranged`).  Together with what every node is like
by itself (`Node.WellFormed`) it gives the invariant of the builder.
-/

namespace DocFilter

/-- A node that is appended as a whole and stays as it is. -/
def Node.IsElement (n : Node) : Prop :=
  (∃ schema, n = .ofSchema schema) ∨ ∃ op docs, n = .ofCombinator op docs

theorem Node.IsElement.hasDanglingNot {n : Node} (h : n.IsElement) : n.hasDanglingNot = false := by
  rcases h with ⟨schema, rfl⟩ | ⟨op, docs, rfl⟩
  · rfl
  · rfl

namespace Criteria

section Arrangement

/-- The nodes of a chain as calls arrange them. -/
structure Arranged (c : Criteria) : Prop where
  first : ∀ n, c.chain.head? = some n → ∀ op, n.target ≠ .combinator op
  rest : ∀ n ∈ c.chain.tail, n.target.isField = true ∨ n.IsElement
  settled : ∀ n, n ∈ c.before ∨ n ∈ c.after → n.hasDanglingNot = false

variable {c d : Criteria}

theorem chain_ne_nil (c : Criteria) : c.chain ≠ [] := by
  simp [chain]

/-- The chain of criteria that only begin. -/
theorem arranged_ofNode {n : Node} (h : ∀ op, n.target ≠ .combinator op) : Arranged (ofNode n) := by
  refine ⟨?_, ?_, ?_⟩
  · intro m hm
    have hmn : n = m := by simpa [ofNode, chain] using hm
    exact hmn ▸ h
  · intro m hm
    simp [ofNode, chain] at hm
  · intro m hm
    simp [ofNode] at hm

/-- A node that is appended, behind the active one or as the active one. -/
theorem Arranged.concat (h : Arranged c) {m : Node} (hm : m.target.isField = true ∨ m.IsElement)
    (hchain : d.chain = c.chain ++ [m])
    (hsettled : ∀ n, n ∈ d.before ∨ n ∈ d.after → n.hasDanglingNot = false) : Arranged d := by
  refine ⟨?_, ?_, hsettled⟩
  · intro n hn
    rw [hchain, List.head?_append_of_ne_nil _ c.chain_ne_nil] at hn
    exact h.first n hn
  · intro n hn
    rw [hchain, List.tail_append_of_ne_nil c.chain_ne_nil] at hn
    rcases List.mem_append.1 hn with hold | hnew
    · exact h.rest n hold
    · rw [List.mem_singleton.1 hnew]
      exact hm

/-- Recording on the active node keeps the arrangement: it is a field or the first node, and stays
what it was. -/
theorem Arranged.modify (h : Arranged c) (hlast : ActiveLast c) {f : Node → Node}
    (hf : ∀ n, (f n).target = n.target) : Arranged (c.modify f) := by
  obtain ⟨before, active, after⟩ := c
  cases before with
  | nil =>
      have hfirst : ∀ op, active.target ≠ .combinator op := h.first active rfl
      refine ⟨?_, h.rest, h.settled⟩
      intro n hn
      have hfn : f active = n := by simpa [Criteria.modify, chain] using hn
      rw [← hfn, hf]
      exact hfirst
  | cons b bs =>
      have hfield : active.target.isField = true := by
        simpa using hlast.field_or_first
      refine ⟨h.first, ?_, h.settled⟩
      intro n hn
      have hsplit : n ∈ bs ∨ n = f active ∨ n ∈ after := by
        simpa [Criteria.modify, chain] using hn
      have hrest : ∀ m, m ∈ bs ∨ m ∈ after → m.target.isField = true ∨ m.IsElement := by
        intro m hm
        refine h.rest m ?_
        simp only [chain, List.cons_append, List.tail_cons, List.mem_append, List.mem_cons]
        tauto
      rcases hsplit with hb | rfl | ha
      · exact hrest n (Or.inl hb)
      · left
        rw [hf]
        exact hfield
      · exact hrest n (Or.inr ha)

theorem Arranged.put (h : Arranged c) (hlast : ActiveLast c) (op : Operator) (o : Operand) :
    Arranged (c.put op o) :=
  h.modify hlast fun _ => rfl

/-- Every change keeps the arrangement. -/
theorem Change.arranged (hcd : Change c d) (h : Arranged c) (hlast : ActiveLast c) :
    Arranged d := by
  cases hcd with
  | field key hdangling =>
      refine h.concat (m := { target := .field key }) (Or.inl rfl) rfl ?_
      rintro n (hb | ha)
      · rcases mem_chain.1 hb with hn | rfl | hn
        · exact h.settled n (Or.inl hn)
        · exact hdangling
        · exact h.settled n (Or.inr hn)
      · simp at ha
  | element m _ hm =>
      have helement : m.IsElement := hm
      refine h.concat (Or.inr helement) (by simp [chain]) ?_
      rintro n (hb | ha)
      · exact h.settled n (Or.inl hb)
      · rcases List.mem_append.1 ha with hn | hn
        · exact h.settled n (Or.inr hn)
        · rw [List.mem_singleton.1 hn]
          exact helement.hasDanglingNot
  | equality v _ =>
      exact h.modify hlast fun _ => rfl
  | negation =>
      exact h.put hlast .not .negation
  | negatedPattern p _ =>
      exact h.put hlast .not (.value (.regex p))
  | record op o _ _ _ =>
      exact h.put hlast op o
  | augmentation op _ _ _ o' _ _ _ =>
      exact h.put hlast op o'

theorem Reachable.arranged (h : Reachable c) : Arranged c := by
  induction h with
  | root =>
      exact arranged_ofNode (by simp)
  | field key =>
      exact arranged_ofNode (by simp)
  | ofSchema schema =>
      exact arranged_ofNode (by simp [Node.ofSchema])
  | call s hc h ih =>
      exact (change_of_call h).arranged ih hc.activeLast

end Arrangement

section Positions

variable {c : Criteria}

theorem getElem?_chain_active (c : Criteria) : c.chain[c.before.length]? = some c.active := by
  simp [chain]

/-- Away from the place of the active node stand the nodes before and behind it. -/
theorem mem_of_getElem?_chain {i : Nat} {n : Node} (h : c.chain[i]? = some n)
    (hi : i ≠ c.before.length) : n ∈ c.before ∨ n ∈ c.after := by
  rcases Nat.lt_or_gt_of_ne hi with hlt | hgt
  · rw [chain, List.getElem?_append_left hlt] at h
    exact Or.inl (List.mem_of_getElem? h)
  · rw [chain, List.getElem?_append_right (by omega)] at h
    obtain ⟨k, hk⟩ : ∃ k, i - c.before.length = k + 1 := ⟨i - c.before.length - 1, by omega⟩
    rw [hk, List.getElem?_cons_succ] at h
    exact Or.inr (List.mem_of_getElem? h)

theorem mem_tail_of_getElem? {ns : List Node} {i : Nat} {n : Node} (h : ns[i]? = some n)
    (hi : 0 < i) : n ∈ ns.tail := by
  cases ns with
  | nil =>
      simp at h
  | cons m ms =>
      obtain ⟨k, rfl⟩ : ∃ k, i = k + 1 := ⟨i - 1, by omega⟩
      rw [List.getElem?_cons_succ] at h
      exact List.mem_of_getElem? h

end Positions

section Invariant

/-- What calls of the builder never break.  Places in the chain are counted from 0, and that of the
active node is the number of nodes before it. -/
structure Invariant (c : Criteria) : Prop where
  nonempty : c.chain ≠ []
  cursor : c.chain[c.before.length]? = some c.active
  active : ∀ op, c.active.target ≠ .combinator op
  /-- Only on the active node a negation may wait for the next operator. -/
  settled : ∀ i n, c.chain[i]? = some n → i ≠ c.before.length → n.hasDanglingNot = false
  combinator : ∀ n ∈ c.chain, ∀ op, n.target = .combinator op →
    n.operators = [] ∧ ∃ docs : List Document, n.equality = some (.array (docs.map .document))
  /-- Behind the first node, a node about no field holds documents to a schema. -/
  root : ∀ i n, c.chain[i]? = some n → 0 < i → n.target = .root →
    (∃ schema, n.operators = [(.jsonSchema, .value (.document schema))]) ∧ n.equality = none
  distinct : ∀ n ∈ c.chain, (Assoc.keys n.operators).Nodup
  near : ∀ n ∈ c.chain, ∀ op, op.IsNear → ∀ o, (op, o) ∈ n.operators →
    (∃ s, o = .shape s) ∨ ∃ d, o = .value (.document d) ∧ d.contains "$geometry" = true

variable {c : Criteria}

theorem Arranged.active_ne_combinator (h : Arranged c) (hlast : ActiveLast c) (op : Combinator) :
    c.active.target ≠ .combinator op := by
  rcases hlast.field_or_first with hfield | hbefore
  · intro htarget
    simp [htarget, Target.isField] at hfield
  · exact h.first c.active (by simp [chain, hbefore]) op

/-- A node about another thing than a field stands first in the chain or is an element. -/
theorem Arranged.isElement_of_tail (h : Arranged c) {n : Node} (hn : n ∈ c.chain.tail)
    (htarget : n.target.isField = false) : n.IsElement := by
  rcases h.rest n hn with hfield | helement
  · rw [htarget] at hfield
    cases hfield
  · exact helement

theorem Arranged.combinator_eq (h : Arranged c) {n : Node} (hn : n ∈ c.chain) {op : Combinator}
    (htarget : n.target = .combinator op) : ∃ docs, n = .ofCombinator op docs := by
  obtain ⟨m, ms, hchain⟩ := List.exists_cons_of_ne_nil c.chain_ne_nil
  have htail : n ∈ c.chain.tail := by
    rw [hchain] at hn ⊢
    rcases List.mem_cons.1 hn with rfl | hn
    · exact absurd htarget (h.first n (by simp [hchain]) op)
    · exact hn
  rcases h.isElement_of_tail htail (by simp [htarget, Target.isField]) with
    ⟨schema, rfl⟩ | ⟨op', docs, rfl⟩
  · simp [Node.ofSchema] at htarget
  · obtain rfl : op' = op := by simpa [Node.ofCombinator] using htarget
    exact ⟨docs, rfl⟩

theorem Arranged.root_eq (h : Arranged c) {n : Node} (hn : n ∈ c.chain.tail)
    (htarget : n.target = .root) : ∃ schema, n = .ofSchema schema := by
  rcases h.isElement_of_tail hn (by simp [htarget, Target.isField]) with
    hschema | ⟨op, docs, rfl⟩
  · exact hschema
  · simp [Node.ofCombinator] at htarget

theorem Reachable.invariant (h : Reachable c) : Invariant c where
  nonempty := c.chain_ne_nil
  cursor := c.getElem?_chain_active
  active := h.arranged.active_ne_combinator h.activeLast
  settled := fun _ n hn hi => h.arranged.settled n (mem_of_getElem?_chain hn hi)
  combinator := by
    intro n hn op htarget
    obtain ⟨docs, rfl⟩ := h.arranged.combinator_eq hn htarget
    exact ⟨rfl, docs, rfl⟩
  root := by
    intro i n hn hi htarget
    obtain ⟨schema, rfl⟩ := h.arranged.root_eq (mem_tail_of_getElem? hn hi) htarget
    exact ⟨⟨schema, rfl⟩, rfl⟩
  distinct := fun n hn => (h.nodes_wellFormed n hn).distinct
  near := by
    intro n hn op hop o ho
    have hwell := h.nodes_wellFormed n hn
    have hoperand : n.operand? op = some o := (Assoc.get?_eq_some_iff hwell.distinct).2 ho
    rcases hwell.near op hop o hoperand with hshape | ⟨d, hd, _, hgeometry⟩
    · exact Or.inl hshape
    · exact Or.inr ⟨d, hd, hgeometry⟩

/-- **The invariant of the builder.**  It holds wherever a run of calls leads, accepted or refused,
from reachable criteria. -/
theorem run_keeps_invariant (hc : Reachable c) (steps : List Call) : Invariant (c.run steps) :=
  (hc.run steps).invariant

/-- Nearness with a bound, a refused call after a negation, elements behind, and a second field that
is negated at the end. -/
theorem run_keeps_invariant_behind_elements :
    Reachable (field "a") ∧
      ((field "a").run [.near (.geometry (.point ⟨⟨0⟩, ⟨0⟩⟩)), .bound .max ⟨0⟩, .negate,
        .andField "b", .compare .gt .null, .combine .or [root], .andSchema ⟨[]⟩, .andField "c",
        .negate]).chain.map Node.target =
          [.field "a", .combinator .or, .root, .field "c"] ∧
      Invariant ((field "a").run [.near (.geometry (.point ⟨⟨0⟩, ⟨0⟩⟩)), .bound .max ⟨0⟩, .negate,
        .andField "b", .compare .gt .null, .combine .or [root], .andSchema ⟨[]⟩, .andField "c",
        .negate]) :=
  ⟨.field "a", rfl, run_keeps_invariant (.field "a") _⟩

end Invariant

end Criteria

end DocFilter
