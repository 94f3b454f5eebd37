import DocFilter.Criteria.Compile
import DocFilter.Proofs.OrderedMap
import Mathlib.Data.List.Basic

/-!
# The document of a node's operators

Compilation walks over the recorded operators with a flag for a pending
negation.  As an operator is recorded at most once, only one negation can wait,
and its place among the operators decides the whole document:

* without a waiting negation each operator is an entry of its own
  (`operatorDocument_of_plain`);
* a negation followed by an operator is one entry that holds this operator
  (`operatorDocument_of_negated`);
* a negation at the end holds all the others (`operatorDocument_of_dangling`).

`operators_cases` says that these are all the cases.
-/

namespace DocFilter

section Keys

namespace Operator

/-- The operator of a key. -/
def ofKey? (key : String) : Option Operator :=
  [not, ne, lt, lte, gt, gte, isIn, notIn, mod, all, size, present, type, elemMatch, near,
    nearSphere, geoWithin, geoIntersects, maxDistance, minDistance, bitsAllClear, bitsAllSet,
    bitsAnyClear, bitsAnySet, jsonSchema].find? fun op => op.key = key

theorem ofKey?_key (op : Operator) : ofKey? op.key = some op := by
  cases op <;> rfl

theorem key_injective : Function.Injective key := by
  intro a b h
  have hab : some a = some b := by
    rw [← ofKey?_key a, ← ofKey?_key b, h]
  exact Option.some.inj hab

/-- Every operator key begins with a dollar sign. -/
theorem head?_toList_key (op : Operator) : op.key.toList.head? = some '$' := by
  cases op <;> rfl

end Operator

end Keys

namespace Node

/-- The entry of an operator that is compiled as it stands. -/
def entry (e : Operator × Operand) : String × Value :=
  (e.1.key, e.2.render)

/-- The entry of an operator that is compiled under a negation. -/
def negatedEntry (e : Operator × Operand) : String × Value :=
  (Operator.not.key, .document (.single e.1.key e.2.render))

/-- Entries of distinct operators are distinct. -/
theorem entry_ne {op op' : Operator} (h : op' ≠ op) (v w : Value) : (op'.key, v) ≠ (op.key, w) :=
  fun he => h (Operator.key_injective (Prod.mk.inj he).1)

theorem keys_map_entry (ops : List (Operator × Operand)) :
    Assoc.keys (ops.map entry) = (Assoc.keys ops).map Operator.key := by
  simp [Assoc.keys, entry, Function.comp_def]

/-- Distinct operators have distinct keys. -/
theorem nodup_keys_map_entry {ops : List (Operator × Operand)} (h : (Assoc.keys ops).Nodup) :
    (Assoc.keys (ops.map entry)).Nodup := by
  rw [keys_map_entry]
  exact h.map Operator.key_injective

theorem key_mem_keys_map_entry {op : Operator} {ops : List (Operator × Operand)} :
    op.key ∈ Assoc.keys (ops.map entry) ↔ op ∈ Assoc.keys ops := by
  rw [keys_map_entry]
  exact List.mem_map_of_injective Operator.key_injective

section Walk

/-- Does no negation wait among the operators? -/
def Plain (ops : List (Operator × Operand)) : Prop :=
  ∀ e ∈ ops, ¬ (e.1 = .not ∧ e.2.isNegation = true)

theorem plain_of_notMem {ops : List (Operator × Operand)} (h : Operator.not ∉ Assoc.keys ops) :
    Plain ops := by
  rintro e he ⟨hop, _⟩
  exact h (hop ▸ Assoc.mem_keys_of_mem he)

/-- Operators without a waiting negation are added to the document as they stand. -/
theorem compileOperators_plain_append {xs : List (Operator × Operand)} (hplain : Plain xs)
    (ys : List (Operator × Operand)) {entries : List (String × Value)}
    (hnodup : (Assoc.keys (entries ++ xs.map entry)).Nodup) :
    compileOperators ⟨entries⟩ false (xs ++ ys) =
      compileOperators ⟨entries ++ xs.map entry⟩ false ys := by
  induction xs generalizing entries with
  | nil =>
      simp
  | cons e rest ih =>
      obtain ⟨op, o⟩ := e
      have hsplit : entries ++ ((op, o) :: rest).map entry =
          (entries ++ [(op.key, o.render)]) ++ rest.map entry := by
        simp [entry]
      have hnew : op.key ∉ Assoc.keys entries := Assoc.notMem_keys_of_nodup hnodup
      have hinsert : (Document.mk entries).insert op.key o.render =
          ⟨entries ++ [(op.key, o.render)]⟩ := by
        rw [Document.insert, Assoc.put_of_notMem o.render hnew]
      have hbare : ¬ (op = .not ∧ o.isNegation = true) := hplain (op, o) List.mem_cons_self
      rw [List.cons_append, compileOperators, if_neg Bool.false_ne_true, if_neg hbare, hinsert,
        hsplit]
      exact ih (fun f hf => hplain f (List.mem_cons_of_mem _ hf)) (hsplit ▸ hnodup)

/-- Operators without a waiting negation make up the document by themselves. -/
theorem compileOperators_plain {xs : List (Operator × Operand)} (hplain : Plain xs)
    {entries : List (String × Value)} (hnodup : (Assoc.keys (entries ++ xs.map entry)).Nodup) :
    compileOperators ⟨entries⟩ false xs = ⟨entries ++ xs.map entry⟩ := by
  have h := compileOperators_plain_append hplain [] hnodup
  rw [List.append_nil] at h
  rw [h, compileOperators, if_neg Bool.false_ne_true]

theorem compileOperators_negation (d : Document) (ops : List (Operator × Operand)) :
    compileOperators d false ((.not, .negation) :: ops) = compileOperators d true ops := by
  rw [compileOperators, if_neg Bool.false_ne_true, if_pos ⟨rfl, rfl⟩]

theorem distinct_compileOperators (ops : List (Operator × Operand)) {d : Document}
    (hd : d.Distinct) (negated : Bool) : (compileOperators d negated ops).Distinct := by
  induction ops generalizing d negated with
  | nil =>
      cases negated with
      | true =>
          exact Document.distinct_single _ _
      | false =>
          exact hd
  | cons e rest ih =>
      obtain ⟨op, o⟩ := e
      rw [compileOperators]
      split
      · exact ih (Document.distinct_insert hd _ _) false
      · split
        · exact ih hd true
        · exact ih (Document.distinct_insert hd _ _) false

end Walk

section Cases

variable {n : Node} {xs ys : List (Operator × Operand)}

theorem distinct_operatorDocument (n : Node) : n.operatorDocument.Distinct :=
  distinct_compileOperators n.operators Document.distinct_empty false

theorem operatorDocument_of_plain (h : (Assoc.keys n.operators).Nodup)
    (hplain : Plain n.operators) :
    n.operatorDocument = ⟨n.operators.map entry⟩ := by
  have hnodup : (Assoc.keys ([] ++ n.operators.map entry)).Nodup := nodup_keys_map_entry h
  exact compileOperators_plain hplain hnodup

/-- The operators around a negation are distinct, and no other negation is among them. -/
theorem nodup_around_not {o : Operand} (h : (Assoc.keys (xs ++ (.not, o) :: ys)).Nodup) :
    Operator.not ∉ Assoc.keys (xs ++ ys) ∧ (Assoc.keys (xs ++ ys)).Nodup := by
  rw [Assoc.keys_append, Assoc.keys_cons, List.nodup_middle, ← Assoc.keys_append] at h
  exact List.nodup_cons.1 h

theorem nodup_keys_around_not {o : Operand} {e : Operator × Operand}
    (h : (Assoc.keys (xs ++ (.not, o) :: e :: ys)).Nodup) :
    (Assoc.keys (xs.map entry ++ negatedEntry e :: ys.map entry)).Nodup := by
  have hsub : (xs ++ (.not, o) :: ys).Sublist (xs ++ (.not, o) :: e :: ys) :=
    (List.Sublist.refl xs).append ((List.sublist_cons_self e ys).cons_cons _)
  have hnodup : (Assoc.keys (xs ++ (.not, o) :: ys)).Nodup := h.sublist (hsub.map Prod.fst)
  have hkeys : Assoc.keys (xs.map entry ++ negatedEntry e :: ys.map entry) =
      Assoc.keys ((xs ++ (.not, o) :: ys).map entry) := by
    simp [entry, negatedEntry]
  rw [hkeys]
  exact nodup_keys_map_entry hnodup

theorem operatorDocument_of_negated {e : Operator × Operand}
    (hops : n.operators = xs ++ (.not, .negation) :: e :: ys)
    (h : (Assoc.keys n.operators).Nodup) :
    n.operatorDocument = ⟨xs.map entry ++ negatedEntry e :: ys.map entry⟩ := by
  rw [hops] at h
  obtain ⟨hnot, _⟩ := nodup_around_not h
  rw [Assoc.keys_append, List.mem_append, not_or, Assoc.keys_cons, List.mem_cons, not_or] at hnot
  have hnodup := nodup_keys_around_not h
  have hxs : (Assoc.keys ([] ++ xs.map entry)).Nodup := by
    rw [Assoc.keys_append] at hnodup
    exact hnodup.of_append_left
  have hnew : Operator.not.key ∉ Assoc.keys (xs.map entry) :=
    fun hm => hnot.1 (key_mem_keys_map_entry.1 hm)
  obtain ⟨op, o⟩ := e
  have hinsert : (Document.mk (xs.map entry)).insert Operator.not.key
      (.document (.single op.key o.render)) = ⟨xs.map entry ++ [negatedEntry (op, o)]⟩ := by
    rw [Document.insert, Assoc.put_of_notMem _ hnew]
    rfl
  rw [operatorDocument, hops, Document.empty,
    compileOperators_plain_append (plain_of_notMem hnot.1) _ hxs, List.nil_append,
    compileOperators_negation, compileOperators, if_pos rfl, hinsert,
    compileOperators_plain (plain_of_notMem hnot.2.2) (by simpa using hnodup)]
  simp

theorem operatorDocument_of_dangling (hops : n.operators = xs ++ [(.not, .negation)])
    (h : (Assoc.keys n.operators).Nodup) :
    n.operatorDocument = .single Operator.not.key (.document ⟨xs.map entry⟩) := by
  rw [hops] at h
  obtain ⟨hnot, hnodup⟩ := nodup_around_not h
  rw [List.append_nil] at hnot hnodup
  rw [operatorDocument, hops, Document.empty,
    compileOperators_plain_append (plain_of_notMem hnot) _ (nodup_keys_map_entry hnodup),
    compileOperators_negation, compileOperators, if_pos rfl, List.nil_append]

/-- Either no negation waits, or one waits at the end, or an operator follows it. -/
theorem operators_cases (ops : List (Operator × Operand)) :
    Plain ops ∨ (∃ xs, ops = xs ++ [(.not, .negation)]) ∨
      ∃ xs e ys, ops = xs ++ (.not, .negation) :: e :: ys := by
  by_cases hplain : Plain ops
  · exact Or.inl hplain
  · simp only [Plain, not_forall, not_not] at hplain
    obtain ⟨⟨op, o⟩, hmem, hop, ho⟩ := hplain
    have hneg : o = .negation := by
      cases o <;> simp_all [Operand.isNegation]
    have hnot : op = .not := hop
    obtain ⟨xs, ys, hsplit⟩ := List.append_of_mem hmem
    rw [hnot, hneg] at hsplit
    cases ys with
    | nil =>
        exact Or.inr (Or.inl ⟨xs, hsplit⟩)
    | cons e ys =>
        exact Or.inr (Or.inr ⟨xs, e, ys, hsplit⟩)

theorem hasDanglingNot_iff :
    n.hasDanglingNot = true ↔ ∃ xs, n.operators = xs ++ [(.not, .negation)] := by
  rcases List.eq_nil_or_concat n.operators with hnil | ⟨xs, ⟨op, o⟩, hlast⟩
  · simp [hasDanglingNot, hnil]
  · rw [List.concat_eq_append] at hlast
    rw [hasDanglingNot, hlast, List.getLast?_concat]
    constructor
    · intro h
      split at h
      · rename_i heq
        cases heq
        exact ⟨xs, rfl⟩
      · cases h
    · rintro ⟨ys, hys⟩
      obtain ⟨rfl, rfl, rfl⟩ : xs = ys ∧ op = .not ∧ o = .negation := by
        simpa using hys
      rfl

/-- A negation that an operator follows does not wait any more. -/
theorem hasDanglingNot_eq_false {o : Operand} {e : Operator × Operand}
    (hops : n.operators = xs ++ (.not, o) :: e :: ys) (h : (Assoc.keys n.operators).Nodup) :
    n.hasDanglingNot = false := by
  rw [Bool.eq_false_iff]
  intro hdangling
  obtain ⟨zs, hzs⟩ := hasDanglingNot_iff.1 hdangling
  rw [hops] at h hzs
  obtain ⟨hnot, _⟩ := nodup_around_not h
  have hlast : (e :: ys).getLast? = some (.not, .negation) := by
    have hget := congrArg List.getLast? hzs
    rwa [List.getLast?_append_cons, List.getLast?_concat, List.getLast?_cons_cons] at hget
  have hmem : Operator.not ∈ Assoc.keys (e :: ys) :=
    Assoc.mem_keys_of_mem (List.mem_of_getLast? hlast)
  rw [Assoc.keys_append] at hnot
  exact hnot (List.mem_append_right _ hmem)

end Cases

section Standing

/-- The operator is an entry of its own in a document of operators. -/
def StandsPlain (d : Document) (op : Operator) (o : Operand) : Prop :=
  (op.key, o.render) ∈ d.entries

/-- The operator is an entry under the negation in a document of operators. -/
def StandsNegated (d : Document) (op : Operator) (o : Operand) : Prop :=
  ∃ e : Document, (Operator.not.key, .document e) ∈ d.entries ∧ (op.key, o.render) ∈ e.entries

variable {n : Node} {xs ys : List (Operator × Operand)} {op : Operator} {o : Operand}

/-- Every operator but a waiting negation stands in the document, plain or negated. -/
theorem stands_of_mem (h : (Assoc.keys n.operators).Nodup) (hmem : (op, o) ∈ n.operators)
    (hbare : ¬ (op = .not ∧ o = .negation)) :
    StandsPlain n.operatorDocument op o ∨ StandsNegated n.operatorDocument op o := by
  rcases operators_cases n.operators with hplain | ⟨xs, hops⟩ | ⟨xs, e, ys, hops⟩
  · refine Or.inl ?_
    rw [StandsPlain, operatorDocument_of_plain h hplain]
    exact List.mem_map_of_mem hmem
  · refine Or.inr ?_
    rw [StandsNegated, operatorDocument_of_dangling hops h]
    rw [hops] at hmem
    rcases List.mem_append.1 hmem with hm | hm
    · exact ⟨_, List.mem_singleton_self _, List.mem_map_of_mem hm⟩
    · exact absurd (Prod.mk.inj (List.mem_singleton.1 hm)) hbare
  · rw [StandsPlain, StandsNegated, operatorDocument_of_negated hops h]
    rw [hops] at hmem
    rcases List.mem_append.1 hmem with hm | hm
    · exact Or.inl (List.mem_append_left _ (List.mem_map_of_mem hm))
    · rcases List.mem_cons.1 hm with hm | hm
      · exact absurd (Prod.mk.inj hm) hbare
      · rcases List.mem_cons.1 hm with rfl | hm
        · exact Or.inr ⟨_, List.mem_append_right _ List.mem_cons_self, List.mem_singleton_self _⟩
        · exact Or.inl (List.mem_append_right _ (List.mem_cons_of_mem _ (List.mem_map_of_mem hm)))

/-- Every key of the document is that of an operator. -/
theorem exists_key_of_mem_compileOperators (ops : List (Operator × Operand)) {d : Document}
    {negated : Bool} {k : String} (hk : k ∈ (compileOperators d negated ops).keys) :
    k ∈ d.keys ∨ ∃ op : Operator, k = op.key := by
  have hinsert : ∀ (d : Document) (op : Operator) (v : Value), k ∈ (d.insert op.key v).keys →
      k ∈ d.keys ∨ ∃ op : Operator, k = op.key := by
    intro d op v hm
    rw [Document.keys, Document.insert, Assoc.keys_put] at hm
    split at hm
    · exact Or.inl hm
    · rcases List.mem_append.1 hm with hm | hm
      · exact Or.inl hm
      · exact Or.inr ⟨op, List.mem_singleton.1 hm⟩
  induction ops generalizing d negated with
  | nil =>
      cases negated with
      | true =>
          exact Or.inr ⟨.not, List.mem_singleton.1 hk⟩
      | false =>
          exact Or.inl hk
  | cons e rest ih =>
      obtain ⟨op, o⟩ := e
      rw [compileOperators] at hk
      split at hk
      · rcases ih hk with hm | hop
        · exact hinsert d .not _ hm
        · exact Or.inr hop
      · split at hk
        · exact ih hk
        · rcases ih hk with hm | hop
          · exact hinsert d op _ hm
          · exact Or.inr hop

theorem exists_key_of_mem_operatorDocument {k : String} (hk : k ∈ n.operatorDocument.keys) :
    ∃ op : Operator, k = op.key := by
  rcases exists_key_of_mem_compileOperators n.operators hk with hm | hop
  · exact absurd hm List.not_mem_nil
  · exact hop

end Standing

end Node

end DocFilter
