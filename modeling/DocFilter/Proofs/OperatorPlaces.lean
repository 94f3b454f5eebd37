import DocFilter.Proofs.OperatorDocument
import DocFilter.Proofs.Reachable

/-!
# A node's document by the places of its operators

The walk of the compiler over the operators of a node has a plain description.
The place of the negation that waits, if there is one, splits the operators in
two; what stands before it and behind the operator that follows it is compiled
as it is, and this operator is compiled under the negation.  If no operator
follows, all the others are compiled under it (`placed`).

On every node that calls lead to, the walk gives this document, the last form
is told from the operators by `hasDanglingNot`, and taking the operators out
from under the negation gives each of them once (`CompiledByPlace`).
-/

namespace DocFilter

namespace Node

section Places

/-- Is this a negation that waits for the operator behind it? -/
def isBare (e : Operator × Operand) : Bool :=
  e.1 == .not && e.2.isNegation

/-- The entries of operators, told by the place of the negation among them. -/
def placed (ops : List (Operator × Operand)) : List (String × Value) :=
  match ops.findIdx? isBare with
  | none => ops.map entry
  | some i =>
      match ops[i + 1]? with
      | none => [(Operator.not.key, .document ⟨(ops.take i).map entry⟩)]
      | some e => (ops.take i).map entry ++ negatedEntry e :: (ops.drop (i + 2)).map entry

/-- An entry, or what a document under the negation holds, behind the negation itself. -/
def spread : String × Value → List (String × Value)
  | (k, .document d) => if k = Operator.not.key then (k, .null) :: d.entries else [(k, .document d)]
  | e => [e]

variable {n : Node} {xs ys : List (Operator × Operand)} {e : Operator × Operand}

theorem isBare_iff : isBare e = true ↔ e.1 = .not ∧ e.2.isNegation = true := by
  simp [isBare]

theorem findIdx?_isBare_of_plain (h : Plain xs) : xs.findIdx? isBare = none := by
  rw [List.findIdx?_eq_none_iff]
  intro e he
  rw [← Bool.not_eq_true, isBare_iff]
  exact h e he

/-- The negation that waits is found where it stands. -/
theorem findIdx?_isBare_append (h : Plain xs) :
    (xs ++ (.not, .negation) :: ys).findIdx? isBare = some xs.length := by
  rw [List.findIdx?_append, findIdx?_isBare_of_plain h]
  simp [List.findIdx?_cons, isBare, Operand.isNegation]

theorem placed_of_plain (h : Plain xs) : placed xs = xs.map entry := by
  rw [placed, findIdx?_isBare_of_plain h]

theorem placed_of_dangling (h : Plain xs) : placed (xs ++ [(.not, .negation)]) =
    [(Operator.not.key, .document ⟨xs.map entry⟩)] := by
  simp [placed, findIdx?_isBare_append h]

theorem placed_of_negated (h : Plain xs) : placed (xs ++ (.not, .negation) :: e :: ys) =
    xs.map entry ++ negatedEntry e :: ys.map entry := by
  have hbehind : (xs ++ (.not, .negation) :: e :: ys).drop (xs.length + 2) = ys := by
    simp
  simp [placed, findIdx?_isBare_append h, hbehind]

end Places

section Once

variable {n : Node} {xs ys : List (Operator × Operand)} {e : Operator × Operand}

theorem spread_of_ne {k : String} (hk : k ≠ Operator.not.key) (v : Value) :
    spread (k, v) = [(k, v)] := by
  unfold spread
  split
  · next heq =>
      cases heq
      rw [if_neg hk]
  · rfl

theorem spread_negatedEntry (e : Operator × Operand) :
    spread (negatedEntry e) = [entry (.not, .negation), entry e] := by
  simp [spread, negatedEntry, entry, Document.single, Operand.render]

/-- Operators stand for themselves, unless a document stands under the negation. -/
theorem flatMap_spread_map_entry (h : ∀ e ∈ xs, e.1 = .not → ∃ p, e.2 = .value (.regex p)) :
    (xs.map entry).flatMap spread = xs.map entry := by
  induction xs with
  | nil => rfl
  | cons e rest ih =>
      obtain ⟨he, hrest⟩ := List.forall_mem_cons.1 h
      have hself : spread (entry e) = [entry e] := by
        by_cases hop : e.1 = .not
        · obtain ⟨p, hp⟩ := he hop
          rw [entry, hp]
          rfl
        · exact spread_of_ne (fun hk => hop (Operator.key_injective hk)) _
      rw [List.map_cons, List.flatMap_cons, hself, ih hrest, List.singleton_append]

theorem flatMap_spread_of_notMem (h : Operator.not ∉ Assoc.keys xs) :
    (xs.map entry).flatMap spread = xs.map entry :=
  flatMap_spread_map_entry fun _ he hop => absurd (hop ▸ Assoc.mem_keys_of_mem he) h

/-- A negation that does not wait is that of a pattern. -/
theorem WellFormed.regex_of_plain (h : n.WellFormed) (hplain : Plain n.operators) :
    ∀ e ∈ n.operators, e.1 = .not → ∃ p, e.2 = .value (.regex p) := by
  rintro ⟨op, o⟩ he (rfl : op = .not)
  rcases h.negation o ((Assoc.get?_eq_some_iff h.distinct).2 he) with rfl | hp
  · exact absurd ⟨rfl, rfl⟩ (hplain _ he)
  · exact hp

theorem WellFormed.perm_spread (h : n.WellFormed) :
    (n.operatorDocument.entries.flatMap spread).Perm (n.operators.map entry) := by
  have hdistinct := h.distinct
  rcases operators_cases n.operators with hplain | ⟨xs, hops⟩ | ⟨xs, e, ys, hops⟩
  · rw [operatorDocument_of_plain hdistinct hplain,
      flatMap_spread_map_entry (h.regex_of_plain hplain)]
  · -- the negation comes before the operators in the document and behind them on the node
    have hspread : n.operatorDocument.entries.flatMap spread =
        entry (.not, .negation) :: xs.map entry := by
      simp [operatorDocument_of_dangling hops hdistinct, Document.single, spread, entry,
        Operand.render]
    rw [hspread, hops, List.map_append, List.map_singleton]
    exact (List.perm_append_singleton _ _).symm
  · rw [operatorDocument_of_negated hops hdistinct, hops]
    rw [hops] at hdistinct
    obtain ⟨hnot, _⟩ := nodup_around_not hdistinct
    rw [Assoc.keys_append, List.mem_append, not_or, Assoc.keys_cons, List.mem_cons, not_or] at hnot
    rw [List.flatMap_append, List.flatMap_cons, spread_negatedEntry,
      flatMap_spread_of_notMem hnot.1, flatMap_spread_of_notMem hnot.2.2]
    simp

end Once

section Compiled

variable {n : Node} {xs ys : List (Operator × Operand)} {e : Operator × Operand}

theorem operatorDocument_eq_placed (h : (Assoc.keys n.operators).Nodup) :
    n.operatorDocument = ⟨placed n.operators⟩ := by
  rcases operators_cases n.operators with hplain | ⟨xs, hops⟩ | ⟨xs, e, ys, hops⟩
  · rw [operatorDocument_of_plain h hplain, placed_of_plain hplain]
  · rw [operatorDocument_of_dangling hops h]
    rw [hops] at h
    have hnot := (nodup_around_not h).1
    rw [List.append_nil] at hnot
    rw [hops, placed_of_dangling (plain_of_notMem hnot)]
    rfl
  · rw [operatorDocument_of_negated hops h]
    rw [hops] at h
    have hnot := (nodup_around_not h).1
    rw [Assoc.keys_append, List.mem_append, not_or] at hnot
    rw [hops, placed_of_negated (plain_of_notMem hnot.1)]

/-- The document tells whether a negation waits: only then all operators before the last stand
under it. -/
theorem WellFormed.hasDanglingNot_iff_wrapped (h : n.WellFormed) :
    n.hasDanglingNot = true ↔ n.operatorDocument =
      .single Operator.not.key (.document ⟨n.operators.dropLast.map entry⟩) := by
  constructor
  · intro hdangling
    obtain ⟨xs, hops⟩ := hasDanglingNot_iff.1 hdangling
    rw [operatorDocument_of_dangling hops h.distinct, hops, List.dropLast_concat]
  · intro hwrapped
    have hperm := h.perm_spread
    rw [hwrapped] at hperm
    rcases List.eq_nil_or_concat n.operators with hnil | ⟨xs, ⟨op, o⟩, hlast⟩
    · simp [hnil, spread, Document.single] at hperm
    · rw [List.concat_eq_append] at hlast
      -- what is left of the operators when all but the last are taken away is the negation
      have hnegation : (Operator.not.key, Value.null) = entry (op, o) := by
        have hrest : ([(Operator.not.key, Value.null)] ++ xs.map entry).Perm
            ([entry (op, o)] ++ xs.map entry) := by
          refine List.Perm.trans ?_ List.perm_append_comm
          simpa [hlast, spread, Document.single] using hperm
        exact List.singleton_perm_singleton.1 ((List.perm_append_right_iff _).1 hrest)
      obtain ⟨hkey, hrender⟩ := Prod.mk.inj hnegation
      have hnot : op = .not := (Operator.key_injective hkey).symm
      subst hnot
      have hmem : (.not, o) ∈ n.operators := by simp [hlast]
      rcases h.negation o ((Assoc.get?_eq_some_iff h.distinct).2 hmem) with rfl | ⟨p, rfl⟩
      · exact hasDanglingNot_iff.2 ⟨xs, hlast⟩
      · cases hrender

theorem compile_of_equality_of_notMem {key : String} {v : Value} (hkey : n.key? = some key)
    (hv : n.equality = some v) (hnew : key ∉ n.operatorDocument.keys) :
    n.compile = ⟨(key, v) :: n.operatorDocument.entries⟩ := by
  have hnodup : (Assoc.keys ([(key, v)] ++ n.operatorDocument.entries)).Nodup :=
    List.nodup_cons.2 ⟨hnew, distinct_operatorDocument n⟩
  rw [compile, hkey, hv]
  exact congrArg Document.mk (Assoc.putAll_eq_append hnodup)

/-- What a node compiles to, told by the places of its operators. -/
structure CompiledByPlace (n : Node) : Prop where
  document : n.operatorDocument = ⟨placed n.operators⟩
  /-- All operators before the last stand under a negation exactly if the last one waits. -/
  wrapped_iff : n.hasDanglingNot = true ↔
    n.operatorDocument = .single Operator.not.key (.document ⟨n.operators.dropLast.map entry⟩)
  /-- Each operator is compiled once, under the negation or beside it. -/
  once : (n.operatorDocument.entries.flatMap spread).Perm (n.operators.map entry)
  keyless : n.key? = none → n.compile = n.operatorDocument
  keyed : ∀ key, n.key? = some key → n.equality = none →
    n.compile = .single key (.document n.operatorDocument)
  beside : ∀ key v, n.key? = some key → n.equality = some v → key ∉ n.operatorDocument.keys →
    n.compile = ⟨(key, v) :: n.operatorDocument.entries⟩

theorem WellFormed.compiledByPlace (h : n.WellFormed) : n.CompiledByPlace where
  document := operatorDocument_eq_placed h.distinct
  wrapped_iff := h.hasDanglingNot_iff_wrapped
  once := h.perm_spread
  keyless := fun hkey => by rw [compile, hkey]
  keyed := fun key hkey hnone => by rw [compile, hkey, hnone]
  beside := fun _ _ hkey hv hnew => compile_of_equality_of_notMem hkey hv hnew

end Compiled

end Node

namespace Criteria

variable {c : Criteria} {n : Node}

/-- **Nodes are compiled by the places of their operators.**  This holds of every node that calls
lead to. -/
theorem nodes_compile_by_place (hc : Reachable c) (hn : n ∈ c.chain) : n.CompiledByPlace :=
  (hc.nodes_wellFormed n hn).compiledByPlace

/-- A comparison before the negation, one under it, and a value to equal beside them. -/
theorem nodes_compile_by_place_beside :
    Reachable ((field "a").run [.compare .lt .null, .negate, .compare .gt .null, .present true,
        .equals .null]) ∧
      ((field "a").run [.compare .lt .null, .negate, .compare .gt .null, .present true,
        .equals .null]).active.compile =
          ⟨[("a", .null), ("$lt", .null), ("$not", .document ⟨[("$gt", .null)]⟩),
            ("$exists", .bool true)]⟩ := by
  have hc : Reachable ((field "a").run [.compare .lt .null, .negate, .compare .gt .null,
      .present true, .equals .null]) := (Reachable.field "a").run _
  have hcompiled := nodes_compile_by_place hc (active_mem_chain _)
  refine ⟨hc, ?_⟩
  rw [hcompiled.beside "a" .null rfl rfl (by rw [hcompiled.document]; decide), hcompiled.document]
  rfl

end Criteria

end DocFilter
