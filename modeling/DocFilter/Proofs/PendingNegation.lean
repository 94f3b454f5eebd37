import DocFilter.Proofs.ActiveNode
import DocFilter.Proofs.OperatorDocument

/-!
# Values to equal and pending negations

A value to equal cannot be negated, so no value is taken while a negation waits
for the next operator, and a pattern becomes the operand of the negation
instead.  The other way round nothing is checked: a negation that is called on
a node with a value waits beside it.

It does not wait if the node has recorded a negation before another operator,
because a negation keeps its place (`Node.TakesNegation`).  So along a run no
negation waits beside a value exactly if none is called on a node with a value
that would take it at the end.
-/

namespace DocFilter

namespace Node

/-- A negation waits beside a value to equal. -/
def WaitsBesideValue (n : Node) : Prop :=
  n.equality.isSome ∧ n.hasDanglingNot = true

/-- A negation recorded now comes last. -/
def TakesNegation (n : Node) : Prop :=
  Operator.not ∉ Assoc.keys n.operators ∨ ∃ xs o, n.operators = xs ++ [(.not, o)]

variable {n m : Node} {op : Operator} {o : Operand}

theorem hasDanglingNot_put_not_iff (h : (Assoc.keys n.operators).Nodup) :
    (n.put .not .negation).hasDanglingNot = true ↔ n.TakesNegation := by
  rw [hasDanglingNot_iff, put]
  constructor
  · rintro ⟨xs, hxs⟩
    by_cases hnot : Operator.not ∈ Assoc.keys n.operators
    · obtain ⟨ys, o, zs, hsplit, hys⟩ := Assoc.exists_split_of_mem_keys hnot
      rw [hsplit, Assoc.put_append_cons _ _ _ hys] at hxs
      have hzs : Operator.not ∉ Assoc.keys zs := by
        rw [hsplit, Assoc.keys_append, Assoc.keys_cons, List.nodup_middle] at h
        exact fun hmem => (List.nodup_cons.1 h).1 (List.mem_append_right _ hmem)
      rcases List.eq_nil_or_concat zs with rfl | ⟨ws, e, hws⟩
      · exact Or.inr ⟨ys, o, hsplit⟩
      · rw [List.concat_eq_append] at hws
        have hconcat : (ys ++ (.not, .negation) :: ws) ++ [e] = xs ++ [(.not, .negation)] := by
          simpa [hws] using hxs
        have he : e = (.not, .negation) := by
          simpa using List.append_inj_right' hconcat rfl
        exact absurd (by simp [hws, he]) hzs
    · exact Or.inl hnot
  · rintro (hnot | ⟨xs, o, hsplit⟩)
    · exact ⟨n.operators, Assoc.put_of_notMem _ hnot⟩
    · have hxs : Operator.not ∉ Assoc.keys xs := by
        rw [hsplit] at h
        exact Assoc.notMem_keys_of_nodup h
      exact ⟨xs, by rw [hsplit, Assoc.put_append_cons _ _ _ hxs]⟩

/-- Recording another operator leaves no negation waiting that did not wait before. -/
theorem hasDanglingNot_of_put (hop : op ≠ .not) (h : (n.put op o).hasDanglingNot = true) :
    n.hasDanglingNot = true := by
  obtain ⟨xs, hxs⟩ := hasDanglingNot_iff.1 h
  rw [put] at hxs
  by_cases hmem : op ∈ Assoc.keys n.operators
  · obtain ⟨ys, v, zs, hsplit, hys⟩ := Assoc.exists_split_of_mem_keys hmem
    rw [hsplit, Assoc.put_append_cons _ _ _ hys] at hxs
    rcases List.eq_nil_or_concat zs with rfl | ⟨ws, e, hws⟩
    · have hlast := congrArg List.getLast? hxs
      simp [hop] at hlast
    · rw [List.concat_eq_append] at hws
      have hconcat : (ys ++ (op, o) :: ws) ++ [e] = xs ++ [(.not, .negation)] := by
        simpa [hws] using hxs
      have he : e = (.not, .negation) := by
        simpa using List.append_inj_right' hconcat rfl
      exact hasDanglingNot_iff.2 ⟨ys ++ (op, v) :: ws, by simp [hsplit, hws, he]⟩
  · rw [Assoc.put_of_notMem _ hmem] at hxs
    have hlast := congrArg List.getLast? hxs
    simp [hop] at hlast

/-- Only a negation comes to wait beside a value. -/
theorem waitsBesideValue_iff_of_touched {s : Criteria.Call} (hn : (Assoc.keys n.operators).Nodup)
    (hone : ¬ n.WaitsBesideValue) (h : Criteria.Touched n s m) :
    m.WaitsBesideValue ↔ s = .negate ∧ n.equality.isSome ∧ n.TakesNegation := by
  have hput : ∀ {op o}, op ≠ .not → ¬ (n.put op o).WaitsBesideValue :=
    fun hop hwaits => hone ⟨hwaits.1, hasDanglingNot_of_put hop hwaits.2⟩
  cases h with
  | appended hs _ =>
      refine iff_of_false hone ?_
      rintro ⟨rfl, _⟩
      exact hs
  | equality v _ hsettled =>
      refine iff_of_false ?_ (by simp)
      rintro ⟨_, hwaits⟩
      exact Bool.false_ne_true (hsettled.symm.trans hwaits)
  | negation =>
      rw [WaitsBesideValue, hasDanglingNot_put_not_iff hn]
      simp [put]
  | pattern hs hsettled =>
      refine iff_of_false ?_ ?_
      · rintro ⟨_, hwaits⟩
        exact Bool.false_ne_true (hsettled.symm.trans hwaits)
      · rintro ⟨rfl, _⟩
        cases hs
  | negatedPattern hs hwaits =>
      refine iff_of_false ?_ ?_
      · rintro ⟨hvalue, _⟩
        exact hone ⟨hvalue, hwaits⟩
      · rintro ⟨rfl, _⟩
        cases hs
  | record hs =>
      refine iff_of_false (hput (Criteria.operand_of_recorded hs).1) ?_
      rintro ⟨rfl, _⟩
      cases hs
  | bounded b distance =>
      obtain ⟨op, o, hop, hm⟩ := exists_bounded_eq_put n b distance
      rw [hm]
      exact iff_of_false (hput hop) (by simp)

end Node

namespace Criteria

variable {c : Criteria}

/-- **Values and waiting negations exclude each other, unless a negation is called on a value.**
If no negation waits beside a value, this stays so all along a run exactly if no negation is called
while the active node has a value, and either no negation yet or one in last place. -/
theorem no_negation_waits_beside_value_iff (hc : Reachable c)
    (h : ∀ n ∈ c.chain, ¬ n.WaitsBesideValue) (steps : List Call) :
    (∀ front, front <+: steps → ∀ n ∈ (c.run front).chain, ¬ n.WaitsBesideValue) ↔
      ∀ front, front ++ [.negate] <+: steps →
        ¬ ((c.run front).active.equality.isSome ∧ (c.run front).active.TakesNegation) := by
  have hnew : ∀ n : Node, n.IsNew → ¬ n.WaitsBesideValue :=
    fun n hn hwaits => Bool.false_ne_true (hn.hasDanglingNot.symm.trans hwaits.2)
  have hstep : ∀ (c : Criteria) (s : Call) (n : Node), Reachable c → Touched c.active s n →
      ¬ c.active.WaitsBesideValue → (¬ n.WaitsBesideValue ↔
        ¬ (s = .negate ∧ c.active.equality.isSome ∧ c.active.TakesNegation)) := by
    intro c s n hc hn hone
    have hdistinct := (hc.nodes_wellFormed _ (active_mem_chain c)).distinct
    exact not_congr (Node.waitsBesideValue_iff_of_touched hdistinct hone hn)
  rw [forall_chain_along_iff (B := fun n s => s = .negate ∧ n.equality.isSome ∧ n.TakesNegation)
    hnew hstep ?_ hc h steps]
  · constructor
    · intro hnone front hfront hvalue
      exact hnone front .negate hfront ⟨rfl, hvalue⟩
    · rintro hnone front s hfront ⟨rfl, hvalue⟩
      exact hnone front hfront hvalue
  · rintro c s ⟨rfl, _⟩
    exact ⟨_, rfl⟩

/-- A negation that is called again beside a value, but keeps its place before another operator. -/
theorem no_negation_waits_beside_value_iff_again :
    Reachable (field "a") ∧ (∀ n ∈ (field "a").chain, ¬ n.WaitsBesideValue) ∧
      ∀ front, front <+: [.negate, .compare .gt .null, .equals .null, .negate] →
        ∀ n ∈ ((field "a").run front).chain, ¬ n.WaitsBesideValue := by
  have hstart : ∀ n ∈ (field "a").chain, ¬ n.WaitsBesideValue := by
    rintro n hn ⟨hvalue, _⟩
    rw [List.mem_singleton.1 hn] at hvalue
    cases hvalue
  refine ⟨.field "a", hstart, (no_negation_waits_beside_value_iff (.field "a") hstart _).2 ?_⟩
  rintro front ⟨rest, hrest⟩ ⟨hvalue, htakes⟩
  rcases front with _ | ⟨s₁, _ | ⟨s₂, _ | ⟨s₃, _ | ⟨s₄, front⟩⟩⟩⟩
  · cases hvalue
  · simp at hrest
  · simp at hrest
  · obtain ⟨rfl, rfl, rfl, _⟩ : s₁ = _ ∧ s₂ = _ ∧ s₃ = _ ∧ _ := by simpa using hrest
    rcases htakes with hnot | ⟨xs, o, hxs⟩
    · exact hnot (by decide)
    · have hlast := congrArg List.getLast? hxs
      rw [List.getLast?_concat] at hlast
      cases hlast
  · simp at hrest

-- Beside a value that stands already, a negation waits.
example : ((field "a").run [.equals .null, .negate]).active.hasDanglingNot = true ∧
    ((field "a").run [.equals .null, .negate]).compile =
      .ok ⟨[("a", .null), ("$not", .document ⟨[]⟩)]⟩ :=
  ⟨rfl, rfl⟩

end Criteria

end DocFilter
