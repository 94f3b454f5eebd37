import DocFilter.Proofs.Chain
import DocFilter.Proofs.Reachable
import DocFilter.Proofs.SameNode

/-!
# What compilation keeps of a node

The entries of a node stand together in the compiled chain.  Every operator of
the node stands among them, or in the document under the key of the node.

The value to equal is another matter.  It is written under the key of the node,
so a node without a key loses it; and the operators are written after it, so it
is lost too if one of them is written under the very same key.  Keys that do
not begin with a dollar sign are safe from that.
-/

namespace DocFilter
namespace Node

variable {n : Node} {key : String} {v : Value}

section Equality

/-- A value to equal stands under the key of its node, unless an operator is compiled to that
key. -/
theorem compile_of_equality (hkey : n.key? = some key) (hv : n.equality = some v)
    {e : String × Value} : e ∈ n.compile.entries ↔
      e ∈ n.operatorDocument.entries ∨ e.1 ∉ n.operatorDocument.keys ∧ e = (key, v) := by
  have hcompile : n.compile = (Document.single key v).insertAll n.operatorDocument := by
    rw [Node.compile, hkey, hv]
  rw [hcompile, Document.insertAll,
    Assoc.mem_putAll_iff (Document.distinct_single key v) (distinct_operatorDocument n),
    Document.single, List.mem_singleton]
  rfl

/-- Exactly when the value to equal is the value of an entry of the node. -/
theorem exists_mem_compile_iff (hv : n.equality = some v) :
    (∃ k, (k, v) ∈ n.compile.entries) ↔
      (∃ key, n.key? = some key ∧ key ∉ n.operatorDocument.keys) ∨
        ∃ k, (k, v) ∈ n.operatorDocument.entries := by
  cases hkey : n.key? with
  | none =>
      rw [Node.compile, hkey]
      simp
  | some key =>
      constructor
      · rintro ⟨k, hk⟩
        rcases (compile_of_equality hkey hv).1 hk with hop | ⟨hnew, heq⟩
        · exact Or.inr ⟨k, hop⟩
        · cases heq
          exact Or.inl ⟨key, rfl, hnew⟩
      · rintro (⟨k, hk, hnew⟩ | ⟨k, hop⟩)
        · cases hk
          exact ⟨key, (compile_of_equality hkey hv).2 (Or.inr ⟨hnew, rfl⟩)⟩
        · exact ⟨k, (compile_of_equality hkey hv).2 (Or.inl hop)⟩

/-- A key that does not begin like those of operators keeps its value. -/
theorem mem_compile_of_head?_ne (hkey : n.key? = some key) (hv : n.equality = some v)
    (hdollar : key.toList.head? ≠ some '$') : (key, v) ∈ n.compile.entries := by
  refine (compile_of_equality hkey hv).2 (Or.inr ⟨fun hmem => ?_, rfl⟩)
  obtain ⟨op, hop⟩ := exists_key_of_mem_operatorDocument hmem
  have hkeyop : key = op.key := hop
  rw [hkeyop] at hdollar
  exact hdollar op.head?_toList_key

end Equality

section Operators

/-- The document that holds the operators of a node: all that the node compiles to, or what stands
there under its key. -/
def IsOperatorPart (n : Node) (part : Document) : Prop :=
  part = n.compile ∨
    ∃ key, n.key? = some key ∧ n.compile = .single key (.document part)

/-- Every operator but a waiting negation stands in the operator part of its node. -/
theorem exists_operatorPart (h : (Assoc.keys n.operators).Nodup) :
    ∃ part, n.IsOperatorPart part ∧ ∀ op o, (op, o) ∈ n.operators →
      ¬ (op = .not ∧ o = .negation) → StandsPlain part op o ∨ StandsNegated part op o := by
  cases hkey : n.key? with
  | none =>
      have hcompile : n.compile = n.operatorDocument := by
        rw [Node.compile, hkey]
      exact ⟨n.compile, Or.inl rfl, fun op o hmem hbare => by
        rw [hcompile]
        exact stands_of_mem h hmem hbare⟩
  | some key =>
      cases hv : n.equality with
      | none =>
          have hcompile : n.compile = .single key (.document n.operatorDocument) := by
            rw [Node.compile, hkey, hv]
          exact ⟨n.operatorDocument, Or.inr ⟨key, hkey, hcompile⟩,
            fun op o hmem hbare => stands_of_mem h hmem hbare⟩
      | some v =>
          have hsub : ∀ e ∈ n.operatorDocument.entries, e ∈ n.compile.entries :=
            fun e he => (compile_of_equality hkey hv).2 (Or.inl he)
          refine ⟨n.compile, Or.inl rfl, fun op o hmem hbare => ?_⟩
          rcases stands_of_mem h hmem hbare with hplain | ⟨e, he, ho⟩
          · exact Or.inl (hsub _ hplain)
          · exact Or.inr ⟨e, hsub _ he, ho⟩

end Operators

end Node

namespace Criteria

section Chain

theorem exists_around_of_mem {ns : List Node} {n : Node} (hn : n ∈ ns) {d : Document}
    (h : compileChain ns = .ok d) :
    ∃ before after, d.entries = before ++ n.compile.entries ++ after := by
  obtain ⟨ms, ms', rfl⟩ := List.append_of_mem hn
  refine ⟨ms.flatMap fun m => m.compile.entries, ms'.flatMap fun m => m.compile.entries, ?_⟩
  rw [entries_of_compileChain h, List.flatMap_append, List.flatMap_cons, List.append_assoc]

/-- **What is kept of every node when a chain compiles.**  The entries of the node stand together;
each of its operators stands among them, or under its key, plain or negated; its value to equal is
the value of one of them exactly if the node has a key to which no operator is compiled, or an
operator has the same operand, and it is kept under every key without a dollar sign in front. -/
theorem compile_keeps_operators_and_equality {c : Criteria} (hc : Reachable c) {d : Document}
    (h : c.compile = .ok d) {n : Node} (hn : n ∈ c.chain) :
    (∃ before after, d.entries = before ++ n.compile.entries ++ after) ∧
      (∃ part, n.IsOperatorPart part ∧ ∀ op o, (op, o) ∈ n.operators →
        ¬ (op = .not ∧ o = .negation) →
          Node.StandsPlain part op o ∨ Node.StandsNegated part op o) ∧
      ∀ v, n.equality = some v →
        ((∃ k, (k, v) ∈ n.compile.entries) ↔
          (∃ key, n.key? = some key ∧ key ∉ n.operatorDocument.keys) ∨
            ∃ k, (k, v) ∈ n.operatorDocument.entries) ∧
        ∀ key, n.key? = some key → key.toList.head? ≠ some '$' →
          (key, v) ∈ n.compile.entries := by
  refine ⟨exists_around_of_mem hn h, Node.exists_operatorPart (hc.nodes_wellFormed n hn).distinct,
    fun v hv => ⟨Node.exists_mem_compile_iff hv, fun key hkey hdollar => ?_⟩⟩
  exact Node.mem_compile_of_head?_ne hkey hv hdollar

/-- A value to equal with an operator beside it, in front of a negated operator. -/
theorem compile_keeps_operators_and_equality_beside :
    ((field "a").run [.equals (.bool true), .compare .gt .null, .andField "b", .negate,
        .compare .lt .null]).compile =
        .ok ⟨[("a", .bool true), ("$gt", .null),
          ("b", .document ⟨[("$not", .document ⟨[("$lt", .null)]⟩)]⟩)]⟩ ∧
      ("a", .bool true) ∈
        (Node.compile ⟨.field "a", [(.gt, .value .null)], some (.bool true)⟩).entries := by
  have h : ((field "a").run [.equals (.bool true), .compare .gt .null, .andField "b", .negate,
      .compare .lt .null]).compile = .ok ⟨[("a", .bool true), ("$gt", .null),
        ("b", .document ⟨[("$not", .document ⟨[("$lt", .null)]⟩)]⟩)]⟩ := by
    rfl
  have hkept := compile_keeps_operators_and_equality ((Reachable.field "a").run _) h
    List.mem_cons_self
  exact ⟨h, (hkept.2.2 (.bool true) rfl).2 "a" rfl (by decide)⟩

-- Without a key, or under the key of an operator, the value is lost.
example : (root.run [.equals .null]).compile = .ok ⟨[]⟩ := by
  rfl

example : ((field "$gt").run [.equals .null, .compare .gt (.bool true)]).compile =
    .ok ⟨[("$gt", .bool true)]⟩ := by
  rfl

end Chain

end Criteria

end DocFilter
