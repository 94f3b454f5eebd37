import DocFilter.Proofs.Chain
import DocFilter.Proofs.OperatorPlaces

/-!
# Paths into compiled documents

A path leads into a value step by step, along keys and places of items.  Where
an operand of a node is compiled to is told by the node alone: under the key of
its operator, or under the negation if there is no such key, and in front of
that under the key of the node, unless a value to equal stands there
(`Node.path`).

What stands at a path in the document of a node stands there in the document of
the chain (`at?_of_compile`), since the keys of nodes do not collide.
-/

namespace DocFilter

/-- A step into a value. -/
inductive Step where
  /-- To the value of a key. -/
  | key (k : String)
  /-- To an item. -/
  | item (i : Nat)
deriving DecidableEq, Repr

namespace Value

/-- The value that a step leads to. -/
def step? : Value → Step → Option Value
  | .document d, .key k => d.get? k
  | .array vs, .item i => vs[i]?
  | _, _ => none

/-- The value that a path leads to. -/
def at? (v : Value) (path : List Step) : Option Value :=
  path.foldlM step? v

variable {v w : Value} {d : Document} {k : String} {path rest : List Step}

theorem at?_nil (v : Value) : v.at? [] = some v := rfl

theorem at?_cons (v : Value) (s : Step) (rest : List Step) :
    v.at? (s :: rest) = (v.step? s).bind fun w => w.at? rest :=
  List.foldlM_cons

theorem at?_append (h : v.at? path = some w) : v.at? (path ++ rest) = w.at? rest := by
  rw [at?, List.foldlM_append, ← at?, h]
  rfl

theorem at?_key (h : d.get? k = some w) : (Value.document d).at? (.key k :: rest) = w.at? rest := by
  rw [at?_cons, step?, h, Option.bind_some]

/-- A path into a document begins with a key. -/
theorem exists_key_of_at? (h : (Value.document d).at? path = some v) (hpath : path ≠ []) :
    ∃ k rest w, path = .key k :: rest ∧ d.get? k = some w ∧ w.at? rest = some v := by
  cases path with
  | nil => exact absurd rfl hpath
  | cons s rest =>
      rw [at?_cons, Option.bind_eq_some_iff] at h
      obtain ⟨w, hw, hrest⟩ := h
      cases s with
      | key k => exact ⟨k, rest, w, rfl, hw, hrest⟩
      | item i => cases hw

end Value

namespace Node

/-- The path from the document of a node to that of its operators. -/
def operatorPath (n : Node) : List Step :=
  match n.key?, n.equality with
  | some key, none => [.key key]
  | _, _ => []

/-- The path from the document of a node to the operand of an operator. -/
def path (n : Node) (op : Operator) : List Step :=
  n.operatorPath ++
    if n.operatorDocument.contains op.key then [.key op.key]
    else [.key Operator.not.key, .key op.key]

section Paths

variable {n : Node} {op : Operator} {o : Operand} {v : Value} {path : List Step}

/-- An entry of the operators, plain or negated, is that of an operator that is recorded. -/
theorem WellFormed.render_of_mem_spread (h : n.WellFormed) (ho : n.operand? op = some o)
    (hmem : (op.key, v) ∈ n.operatorDocument.entries.flatMap spread) : v = o.render := by
  obtain ⟨⟨op', o'⟩, hmem', heq⟩ := List.mem_map.1 (h.perm_spread.mem_iff.1 hmem)
  obtain ⟨hkey, hrender⟩ := Prod.mk.inj heq
  obtain rfl : op' = op := Operator.key_injective hkey
  have ho' : n.operand? op' = some o' := (Assoc.get?_eq_some_iff h.distinct).2 hmem'
  rw [ho, Option.some.injEq] at ho'
  rw [ho', hrender]

/-- The operand of an operator stands in the document of the operators. -/
theorem WellFormed.at?_operatorDocument (h : n.WellFormed) (hop : op ≠ .not)
    (ho : n.operand? op = some o) :
    (Value.document n.operatorDocument).at?
      (if n.operatorDocument.contains op.key then [.key op.key]
        else [.key Operator.not.key, .key op.key]) = some o.render := by
  have hcontains : n.operatorDocument.contains op.key = true ↔
      ∃ v, n.operatorDocument.get? op.key = some v := Option.isSome_iff_exists
  split
  · rename_i hplain
    obtain ⟨v, hv⟩ := hcontains.1 hplain
    have hkey : op.key ≠ Operator.not.key := fun hkey => hop (Operator.key_injective hkey)
    have hmem : (op.key, v) ∈ n.operatorDocument.entries.flatMap spread := by
      refine List.mem_flatMap.2 ⟨_, Assoc.mem_of_get?_eq_some hv, ?_⟩
      rw [spread_of_ne hkey]
      exact List.mem_singleton_self _
    rw [Value.at?_key hv, Value.at?_nil, h.render_of_mem_spread ho hmem]
  · rename_i hnone
    rcases stands_of_mem h.distinct (Assoc.mem_of_get?_eq_some ho) (fun hbare => hop hbare.1)
      with hplain | ⟨e, he, hmem⟩
    · have hfound := (Assoc.get?_eq_some_iff (distinct_operatorDocument n)).2 hplain
      exact absurd (hcontains.2 ⟨_, hfound⟩) hnone
    · have hnot : n.operatorDocument.get? Operator.not.key = some (.document e) :=
        (Assoc.get?_eq_some_iff (distinct_operatorDocument n)).2 he
      obtain ⟨v, hv⟩ : ∃ v, e.get? op.key = some v := by
        rw [← Option.isSome_iff_exists, Option.isSome_iff_ne_none, Ne, Document.get?,
          Assoc.get?_eq_none_iff, not_not]
        exact Assoc.mem_keys_of_mem hmem
      have hspread : (op.key, v) ∈ n.operatorDocument.entries.flatMap spread := by
        refine List.mem_flatMap.2 ⟨_, he, ?_⟩
        rw [spread, if_pos rfl]
        exact List.mem_cons_of_mem _ (Assoc.mem_of_get?_eq_some hv)
      rw [Value.at?_key hnot, Value.at?_key hv, Value.at?_nil, h.render_of_mem_spread ho hspread]

/-- What stands in the document of the operators stands in that of the node. -/
theorem at?_compile (h : (Value.document n.operatorDocument).at? path = some v)
    (hpath : path ≠ []) : (Value.document n.compile).at? (n.operatorPath ++ path) = some v := by
  obtain ⟨k, rest, w, rfl, hk, hrest⟩ := Value.exists_key_of_at? h hpath
  cases hkey : n.key? with
  | none =>
      have hcompile : n.compile = n.operatorDocument := by rw [compile, hkey]
      have hnil : n.operatorPath = [] := by rw [operatorPath, hkey]
      rw [hcompile, hnil, List.nil_append]
      exact h
  | some key =>
      cases hv : n.equality with
      | none =>
          have hcompile : n.compile = .single key (.document n.operatorDocument) := by
            rw [compile, hkey, hv]
          have hunder : n.operatorPath = [.key key] := by rw [operatorPath, hkey, hv]
          have hget : n.compile.get? key = some (.document n.operatorDocument) := by
            rw [hcompile]
            exact Assoc.get?_put_self key _ []
          rw [hunder, List.singleton_append, Value.at?_key hget]
          exact h
      | some u =>
          have hnil : n.operatorPath = [] := by rw [operatorPath, hkey, hv]
          have hget : n.compile.get? k = some w := by
            rw [compile, hkey, hv]
            refine (Assoc.get?_putAll (distinct_operatorDocument n) k).trans ?_
            rw [← Document.get?, hk, Option.some_or]
          rw [hnil, List.nil_append, Value.at?_key hget]
          exact hrest

/-- The operand of an operator stands in the document of the node. -/
theorem WellFormed.at?_path (h : n.WellFormed) (hop : op ≠ .not) (ho : n.operand? op = some o) :
    (Value.document n.compile).at? (n.path op) = some o.render := by
  refine at?_compile (h.at?_operatorDocument hop ho) ?_
  split <;> simp

theorem path_ne_nil (n : Node) (op : Operator) : n.path op ≠ [] := by
  unfold path
  split <;> simp

/-- The documents of a combinator stand one after the other under its key. -/
theorem at?_ofCombinator (op : Combinator) {docs : List Document} {i : Nat} {d : Document}
    (hi : docs[i]? = some d) : (Value.document (ofCombinator op docs).compile).at?
      [.key op.key, .item i] = some (.document d) := by
  have hget : (ofCombinator op docs).compile.get? op.key =
      some (.array (docs.map Value.document)) :=
    Assoc.get?_put_self op.key _ []
  rw [Value.at?_key hget, Value.at?_cons, Value.step?, List.getElem?_map, hi]
  rfl

end Paths

end Node

namespace Criteria

variable {c : Criteria} {n : Node} {d : Document} {v : Value} {path : List Step}

/-- What stands in the document of a node stands in that of the chain. -/
theorem at?_of_compile (h : c.compile = .ok d) (hn : n ∈ c.chain)
    (hv : (Value.document n.compile).at? path = some v) (hpath : path ≠ []) :
    (Value.document d).at? path = some v := by
  obtain ⟨k, rest, w, rfl, hk, hrest⟩ := Value.exists_key_of_at? hv hpath
  obtain ⟨hapart, hentries⟩ := compileChain_eq_ok_iff.1 h
  have hdistinct : d.Distinct := by
    rw [Document.Distinct, Document.keys, hentries]
    exact nodup_keys_flatMap_iff.2 hapart
  have hget : d.get? k = some w := by
    refine (Assoc.get?_eq_some_iff hdistinct).2 ?_
    rw [hentries]
    exact List.mem_flatMap.2 ⟨n, hn, Assoc.mem_of_get?_eq_some hk⟩
  rw [Value.at?_key hget]
  exact hrest

end Criteria

end DocFilter
