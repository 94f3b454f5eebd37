import DocFilter.Proofs.OperatorDocument
import DocFilter.Proofs.Reachable

/-!
# What a negation negates

A negation is recorded like any operator: in its old place, if the node has
one already.  What it negates is the operator that follows in the list, and the
operator recorded next follows it only if both are new at the end, or if that
operator followed the old negation before.

So the next operator, and it alone, is negated exactly in these two cases
(`negatesOnly_iff`).  Otherwise the operator recorded next keeps the place it
had, or is appended behind one that stays negated, or the negation replaces
that of a pattern.
-/

namespace DocFilter
namespace Node

/-- After a negation and an operator were recorded on a node, no negation waits, what is negated is
just this operator, and the others stand in the document as they did. -/
structure NegatesOnly (before after : Node) (op : Operator) (o : Operand) : Prop where
  settled : after.hasDanglingNot = false
  negated : after.operatorDocument.get? Operator.not.key =
    some (.document (.single op.key o.render))
  others : ∀ op' o', (op', o') ∈ before.operators → op' ≠ op →
    (StandsPlain after.operatorDocument op' o' ↔ StandsPlain before.operatorDocument op' o') ∧
      (StandsNegated after.operatorDocument op' o' ↔ StandsNegated before.operatorDocument op' o')

variable {n : Node} {xs ys : List (Operator × Operand)} {op op' : Operator} {o o' : Operand}

section Views

theorem get?_operatorDocument_iff {k : String} {v : Value} :
    n.operatorDocument.get? k = some v ↔ (k, v) ∈ n.operatorDocument.entries :=
  Assoc.get?_eq_some_iff (distinct_operatorDocument n)

theorem get?_not_of_negated {e : Operator × Operand}
    (hops : n.operators = xs ++ (.not, .negation) :: e :: ys) (h : (Assoc.keys n.operators).Nodup) :
    n.operatorDocument.get? Operator.not.key = some (.document (.single e.1.key e.2.render)) := by
  rw [get?_operatorDocument_iff, operatorDocument_of_negated hops h]
  exact List.mem_append_right _ List.mem_cons_self

/-- Under a negation that an operator follows stands this operator. -/
theorem standsNegated_iff {e : Operator × Operand}
    (hops : n.operators = xs ++ (.not, .negation) :: e :: ys) (h : (Assoc.keys n.operators).Nodup) :
    StandsNegated n.operatorDocument op' o' ↔ (op'.key, o'.render) = (e.1.key, e.2.render) := by
  have hget := get?_not_of_negated hops h
  constructor
  · rintro ⟨d, hd, hmem⟩
    rw [← get?_operatorDocument_iff, hget, Option.some.injEq, Value.document.injEq] at hd
    rw [← hd] at hmem
    exact List.mem_singleton.1 hmem
  · intro heq
    exact ⟨_, get?_operatorDocument_iff.1 hget, List.mem_singleton.2 heq⟩

theorem standsPlain_iff_of_negated {e : Operator × Operand}
    (hops : n.operators = xs ++ (.not, .negation) :: e :: ys) (h : (Assoc.keys n.operators).Nodup)
    (ho' : (op'.key, o'.render) ≠ negatedEntry e) :
    StandsPlain n.operatorDocument op' o' ↔ (op'.key, o'.render) ∈ (xs ++ ys).map entry := by
  rw [StandsPlain, operatorDocument_of_negated hops h, List.map_append, List.mem_append,
    List.mem_append, List.mem_cons, or_iff_right ho']

/-- Nothing stands under a negation that is not recorded. -/
theorem not_standsNegated_of_notMem (h : (Assoc.keys n.operators).Nodup)
    (hnot : Operator.not ∉ Assoc.keys n.operators) :
    ¬ StandsNegated n.operatorDocument op' o' := by
  rintro ⟨d, hd, _⟩
  rw [operatorDocument_of_plain h (plain_of_notMem hnot)] at hd
  exact hnot (key_mem_keys_map_entry.1 (Assoc.mem_keys_of_mem hd))

end Views

section Recording

variable (n op o)

/-- A node on which a negation and then an operator is recorded. -/
def recordNegated : Node :=
  (n.put .not .negation).put op o

variable {n op o}

theorem nodup_recordNegated (h : (Assoc.keys n.operators).Nodup) :
    (Assoc.keys (n.recordNegated op o).operators).Nodup := by
  have hnot : (Assoc.keys (n.put .not .negation).operators).Nodup :=
    Assoc.nodup_keys_put Operator.not Operand.negation h
  exact Assoc.nodup_keys_put op o hnot

/-- A new negation and a new operator come last. -/
theorem operators_recordNegated_of_new (hop : op ≠ .not)
    (hnot : Operator.not ∉ Assoc.keys n.operators) (hnew : op ∉ Assoc.keys n.operators) :
    (n.recordNegated op o).operators = n.operators ++ [(.not, .negation), (op, o)] := by
  have hnew' : op ∉ Assoc.keys (n.operators ++ [(.not, .negation)]) := by
    rw [Assoc.keys_append, List.mem_append, not_or]
    exact ⟨hnew, by simpa using hop⟩
  rw [recordNegated, put, put, Assoc.put_of_notMem _ hnot, Assoc.put_of_notMem _ hnew',
    List.append_assoc]
  rfl

/-- A negation that is recorded already stays where it is. -/
theorem put_negation_of_split (hops : n.operators = xs ++ (.not, o') :: ys)
    (h : (Assoc.keys n.operators).Nodup) :
    (n.put .not .negation).operators = xs ++ (.not, .negation) :: ys := by
  rw [hops] at h
  have hnot : Operator.not ∉ Assoc.keys xs := by
    have hmem := (nodup_around_not h).1
    rw [Assoc.keys_append, List.mem_append, not_or] at hmem
    exact hmem.1
  rw [put, hops, Assoc.put_append_cons _ _ _ hnot]

/-- The operator that an old negation negates already is recorded in its place. -/
theorem operators_recordNegated_of_followed
    (hops : n.operators = xs ++ (.not, .negation) :: (op, o') :: ys)
    (h : (Assoc.keys n.operators).Nodup) :
    (n.recordNegated op o).operators = xs ++ (.not, .negation) :: (op, o) :: ys := by
  have hsplit : ∀ u : Operand, xs ++ (.not, .negation) :: (op, u) :: ys =
      (xs ++ [(.not, .negation)]) ++ (op, u) :: ys := by
    simp
  have hop : op ∉ Assoc.keys (xs ++ [(.not, .negation)]) := by
    have hnodup := h
    rw [hops, hsplit] at hnodup
    exact Assoc.notMem_keys_of_nodup hnodup
  rw [recordNegated, put, put_negation_of_split hops h, hsplit, Assoc.put_append_cons _ _ _ hop,
    hsplit]

end Recording

section Cases

/-- Both recorded anew: the negation wraps the operator behind all the others. -/
theorem negatesOnly_of_new (h : (Assoc.keys n.operators).Nodup) (hop : op ≠ .not)
    (hnot : Operator.not ∉ Assoc.keys n.operators) (hnew : op ∉ Assoc.keys n.operators) :
    NegatesOnly n (n.recordNegated op o) op o := by
  have hops : (n.recordNegated op o).operators =
      n.operators ++ (.not, .negation) :: (op, o) :: [] :=
    operators_recordNegated_of_new hop hnot hnew
  have hnodup : (Assoc.keys (n.recordNegated op o).operators).Nodup := nodup_recordNegated h
  refine ⟨hasDanglingNot_eq_false hops hnodup, get?_not_of_negated hops hnodup, ?_⟩
  intro op' o' hmem hne
  have hne' : op' ≠ .not := fun he => hnot (he ▸ Assoc.mem_keys_of_mem hmem)
  refine ⟨?_, ?_⟩
  · rw [standsPlain_iff_of_negated hops hnodup (entry_ne hne' _ _), List.append_nil, StandsPlain,
      operatorDocument_of_plain h (plain_of_notMem hnot)]
  · refine iff_of_false ?_ (not_standsNegated_of_notMem h hnot)
    rw [standsNegated_iff hops hnodup]
    exact entry_ne hne _ _

/-- The operator followed the negation before: only its operand changes. -/
theorem negatesOnly_of_followed (h : (Assoc.keys n.operators).Nodup)
    (hold : n.operators = xs ++ (.not, .negation) :: (op, o') :: ys) :
    NegatesOnly n (n.recordNegated op o) op o := by
  have hops : (n.recordNegated op o).operators = xs ++ (.not, .negation) :: (op, o) :: ys :=
    operators_recordNegated_of_followed hold h
  have hnodup : (Assoc.keys (n.recordNegated op o).operators).Nodup := nodup_recordNegated h
  refine ⟨hasDanglingNot_eq_false hops hnodup, get?_not_of_negated hops hnodup, ?_⟩
  intro op'' o'' hmem hne
  -- The only negation there is renders to null, and so it is no entry of either document.
  have hentry : ∀ e, (op''.key, o''.render) ≠ negatedEntry e := by
    intro e he
    obtain ⟨hkey, hrender⟩ := Prod.mk.inj he
    have hop'' : op'' = .not := Operator.key_injective hkey
    have ho'' : n.operand? .not = some o'' :=
      (Assoc.get?_eq_some_iff h).2 (hop'' ▸ hmem)
    have hneg : n.operand? .not = some .negation :=
      (Assoc.get?_eq_some_iff h).2 (hold ▸ List.mem_append_right _ List.mem_cons_self)
    rw [hneg, Option.some.injEq] at ho''
    rw [← ho''] at hrender
    cases hrender
  refine ⟨?_, ?_⟩
  · rw [standsPlain_iff_of_negated hops hnodup (hentry _),
      standsPlain_iff_of_negated hold h (hentry _)]
  · rw [standsNegated_iff hops hnodup, standsNegated_iff hold h]
    exact iff_of_false (entry_ne hne _ _) (entry_ne hne _ _)

/-- A pattern that is negated is lost to the negation of the next operator. -/
theorem notMem_pattern_of_negatesOnly (h : (Assoc.keys n.operators).Nodup) (hop : op ≠ .not)
    (hneg : NegatesOnly n (n.recordNegated op o) op o) (p : Pattern) :
    (.not, .value (.regex p)) ∉ n.operators := by
  intro hmem
  have hplain : Plain n.operators := by
    rintro ⟨op', o'⟩ hmem' ⟨hop', ho'⟩
    have hnot : op' = .not := hop'
    rw [hnot] at hmem'
    have hvalue := (Assoc.get?_eq_some_iff h).2 hmem
    rw [(Assoc.get?_eq_some_iff h).2 hmem', Option.some.injEq] at hvalue
    simp [hvalue, Operand.isNegation] at ho'
  have hbefore : StandsPlain n.operatorDocument .not (.value (.regex p)) := by
    rw [StandsPlain, operatorDocument_of_plain h hplain]
    exact List.mem_map_of_mem hmem
  have hafter := (hneg.others _ _ hmem hop.symm).1.2 hbefore
  rw [StandsPlain, ← get?_operatorDocument_iff, hneg.negated] at hafter
  simp [Operand.render] at hafter

/-- The next operator and it alone is negated exactly if it is new behind a new negation, or if it
followed the old negation before. -/
theorem negatesOnly_iff (h : n.WellFormed) (hdangling : n.hasDanglingNot = false)
    (hop : op ≠ .not) :
    NegatesOnly n (n.recordNegated op o) op o ↔
      (Operator.not ∉ Assoc.keys n.operators ∧ op ∉ Assoc.keys n.operators) ∨
        ∃ xs o' ys, n.operators = xs ++ (.not, .negation) :: (op, o') :: ys := by
  constructor
  · intro hneg
    by_cases hnot : Operator.not ∈ Assoc.keys n.operators
    · refine Or.inr ?_
      obtain ⟨xs, x, ys, hsplit, _⟩ := Assoc.exists_split_of_mem_keys hnot
      have hmem : (.not, x) ∈ n.operators := hsplit ▸ List.mem_append_right _ List.mem_cons_self
      have hx : x = .negation := by
        rcases h.negation x ((Assoc.get?_eq_some_iff h.distinct).2 hmem) with hx | ⟨p, hx⟩
        · exact hx
        · exact absurd (hx ▸ hmem) (notMem_pattern_of_negatesOnly h.distinct hop hneg p)
      rw [hx] at hsplit
      cases ys with
      | nil =>
          rw [hasDanglingNot_iff.2 ⟨xs, hsplit⟩] at hdangling
          cases hdangling
      | cons e ys =>
          obtain ⟨op₁, o₁⟩ := e
          by_cases hop₁ : op₁ = op
          · exact ⟨xs, o₁, ys, hop₁ ▸ hsplit⟩
          · -- Whatever place the operator gets, another one still follows the negation.
            have hput := put_negation_of_split hsplit h.distinct
            obtain ⟨xs', ys', hput', hys'⟩ := Assoc.exists_put_append_cons hop o .negation xs
              ((op₁, o₁) :: ys)
            have hfollow : ∃ zs, ys' = (op₁, o₁) :: zs := by
              rcases hys' with rfl | rfl
              · exact ⟨ys, rfl⟩
              · exact ⟨Assoc.put op o ys, by rw [Assoc.put, if_neg hop₁]⟩
            obtain ⟨zs, rfl⟩ := hfollow
            have hops : (n.recordNegated op o).operators =
                xs' ++ (.not, .negation) :: (op₁, o₁) :: zs := by
              rw [recordNegated, put, hput, hput']
            have hget := get?_not_of_negated hops (nodup_recordNegated h.distinct)
            rw [hneg.negated, Option.some.injEq, Value.document.injEq] at hget
            have hkey : op.key = op₁.key := by
              simpa [Document.single, Document.keys] using congrArg Document.keys hget
            exact absurd (Operator.key_injective hkey).symm hop₁
    · refine Or.inl ⟨hnot, fun hold => ?_⟩
      -- Recorded in its old place, the operator leaves the new negation at the end.
      obtain ⟨xs, o', ys, hsplit, hxs⟩ := Assoc.exists_split_of_mem_keys hold
      have hops : (n.recordNegated op o).operators =
          (xs ++ (op, o) :: ys) ++ [(.not, .negation)] := by
        rw [recordNegated, put, put, Assoc.put_of_notMem _ hnot, hsplit, List.append_assoc,
          List.cons_append, Assoc.put_append_cons _ _ _ hxs, List.append_assoc, List.cons_append]
      have hsettled := hneg.settled
      rw [hasDanglingNot_iff.2 ⟨_, hops⟩] at hsettled
      cases hsettled
  · rintro (⟨hnot, hnew⟩ | ⟨xs, o', ys, hold⟩)
    · exact negatesOnly_of_new h.distinct hop hnot hnew
    · exact negatesOnly_of_followed h.distinct hold

end Cases

end Node

namespace Criteria

section Calls

variable {c d : Criteria} {s : Call} {op : Operator} {r : Except Error Operand}

/-- **What a negation and the next recording call do.**  On criteria without a waiting negation,
they negate the operator of the call and nothing else exactly if the active node has recorded
neither a negation nor this operator, or if this operator followed its negation already. -/
theorem negation_then_recording (hc : Reachable c) (hdangling : c.active.hasDanglingNot = false)
    (hs : s.recorded = some (op, r)) (hd : c.negate.call s = .ok d) :
    ∃ o, r = .ok o ∧ d = c.negate.put op o ∧
      (Node.NegatesOnly c.active d.active op o ↔
        (Operator.not ∉ Assoc.keys c.active.operators ∧ op ∉ Assoc.keys c.active.operators) ∨
          ∃ xs o' ys, c.active.operators = xs ++ (.not, .negation) :: (op, o') :: ys) := by
  rw [call_of_recorded hs] at hd
  cases r with
  | error e =>
      cases hd
  | ok o =>
      cases hd
      have hactive : c.active.WellFormed := hc.nodes_wellFormed _ (active_mem_chain c)
      exact ⟨o, rfl, rfl, Node.negatesOnly_iff hactive hdangling (operand_of_recorded hs).1⟩

/-- A comparison that is negated already is negated again and given another value. -/
theorem negation_then_recording_again :
    ((field "a").run [.negate, .compare .gt .null]).active.hasDanglingNot = false ∧
      Node.NegatesOnly ((field "a").run [.negate, .compare .gt .null]).active
        ((field "a").run [.negate, .compare .gt .null, .negate,
          .compare .gt (.bool true)]).active .gt (.value (.bool true)) := by
  have hdangling : ((field "a").run [.negate, .compare .gt .null]).active.hasDanglingNot = false :=
    rfl
  have hs : (Call.compare .gt (.bool true)).recorded = some (.gt, .ok (.value (.bool true))) := rfl
  obtain ⟨o, ho, _, hiff⟩ :=
    negation_then_recording ((Reachable.field "a").run _) hdangling hs rfl
  cases ho
  exact ⟨hdangling, hiff.2 (Or.inr ⟨[], _, [], rfl⟩)⟩

-- An operator that is recorded again keeps its place, so the negation is left to wrap them all.
example : ((field "a").run [.compare .lt .null, .compare .gt .null, .negate,
    .compare .gt (.bool true)]).compile =
    .ok ⟨[("a", .document ⟨[("$not", .document ⟨[("$lt", .null), ("$gt", .bool true)]⟩)]⟩)]⟩ := by
  rfl

end Calls

end Criteria

end DocFilter
