import DocFilter.Proofs.Congruence
import DocFilter.Proofs.Reachable

/-!
# No builder call repeats a key

Criteria are *proper* if no document on any of their nodes repeats a key, at
any depth.  Such criteria compile to documents that do not repeat keys either
(`Criteria.Proper.compile`), and calls that are given proper values keep
criteria proper (`Criteria.Proper.call`), whole runs of them too
(`Criteria.Proper.run`).
-/

namespace DocFilter

section Documents

theorem Document.proper_empty : Document.empty.Proper :=
  Document.proper_iff.2 ⟨Document.distinct_empty, fun _ he => absurd he List.not_mem_nil⟩

theorem Document.proper_insertAll {d : Document} (hd : d.Proper) {xs : List (String × Value)}
    (hxs : ∀ x ∈ xs, x.2.Proper) : (d.insertAll ⟨xs⟩).Proper := by
  induction xs generalizing d with
  | nil =>
      simpa [insertAll, Assoc.putAll] using hd
  | cons x rest ih =>
      obtain ⟨hx, hrest⟩ := List.forall_mem_cons.1 hxs
      exact ih (Document.proper_insert hd x.1 hx) hrest

theorem Document.Proper.of_mem {d : Document} (hd : d.Proper) :
    ∀ e ∈ d.entries, e.2.Proper :=
  (Document.proper_iff.1 hd).2

theorem Value.proper_document {d : Document} (h : d.Proper) : (Value.document d).Proper := by
  rwa [Value.Proper]

end Documents

namespace Operand

/-- The value that an operand holds, if it holds one, is proper. -/
def Proper (o : Operand) : Prop :=
  ∀ v, o = .value v → v.Proper

theorem proper_value {v : Value} (h : v.Proper) : (Operand.value v).Proper := by
  intro w hw
  cases hw
  exact h

theorem Proper.render {o : Operand} (h : o.Proper) : o.render.Proper := by
  cases o with
  | value v =>
      exact h v rfl
  | _ =>
      exact proper_render (by simp)

end Operand

namespace Node

/-- All values on the node are proper. -/
structure Proper (n : Node) : Prop where
  equality : ∀ v, n.equality = some v → v.Proper
  operators : ∀ e ∈ n.operators, e.2.Proper

variable {n : Node}

theorem Proper.put (h : n.Proper) (op : Operator) {o : Operand} (ho : o.Proper) :
    (n.put op o).Proper := by
  refine ⟨h.equality, fun e he => ?_⟩
  rcases Assoc.eq_or_mem_of_mem_put he with heq | hmem
  · rwa [heq]
  · exact h.operators e hmem

theorem Proper.setEquality (h : n.Proper) {v : Value} (hv : v.Proper) :
    Proper { n with equality := some v } :=
  ⟨fun _ hw => Option.some.inj hw ▸ hv, h.operators⟩

theorem proper_ofTarget (t : Target) : Proper { target := t } :=
  ⟨by simp, by simp⟩

theorem proper_ofSchema {schema : Document} (h : schema.Proper) : (ofSchema schema).Proper := by
  refine ⟨by simp [ofSchema], fun e he => ?_⟩
  rw [List.mem_singleton.1 he]
  exact Operand.proper_value (Value.proper_document h)

theorem proper_ofCombinator (op : Combinator) {docs : List Document}
    (h : ∀ d ∈ docs, d.Proper) : (ofCombinator op docs).Proper := by
  refine ⟨fun v hv => ?_, by simp [ofCombinator]⟩
  rw [← Option.some.inj hv]
  refine Value.proper_array fun w hw => ?_
  obtain ⟨d, hd, rfl⟩ := List.mem_map.1 hw
  exact Value.proper_document (h d hd)

theorem proper_compileOperators {d : Document} (hd : d.Proper) (negated : Bool)
    {xs : List (Operator × Operand)} (hxs : ∀ e ∈ xs, e.2.Proper) :
    (compileOperators d negated xs).Proper := by
  induction xs generalizing d negated with
  | nil =>
      rw [compileOperators]
      split
      · exact Document.proper_single _ (Value.proper_document hd)
      · exact hd
  | cons e rest ih =>
      obtain ⟨he, hrest⟩ := List.forall_mem_cons.1 hxs
      rw [compileOperators]
      split
      · have hsingle := Document.proper_single e.1.key he.render
        exact ih (Document.proper_insert hd _ (Value.proper_document hsingle)) false hrest
      · split
        · exact ih hd true hrest
        · exact ih (Document.proper_insert hd _ he.render) false hrest

theorem Proper.operatorDocument (h : n.Proper) : n.operatorDocument.Proper :=
  proper_compileOperators Document.proper_empty false h.operators

theorem Proper.compile (h : n.Proper) : n.compile.Proper := by
  have hops := h.operatorDocument
  rw [Node.compile]
  split
  · exact hops
  · split
    · rename_i v hv
      exact Document.proper_insertAll (Document.proper_single _ (h.equality v hv)) hops.of_mem
    · exact Document.proper_single _ (Value.proper_document hops)

end Node

namespace Criteria

/-- All nodes of the chain are proper. -/
def Proper (c : Criteria) : Prop :=
  ∀ n ∈ c.chain, n.Proper

variable {c d : Criteria}

section Compile

theorem proper_mergeEntries {doc doc' : Document} (hdoc : doc.Proper)
    {xs : List (String × Value)} (hxs : ∀ e ∈ xs, e.2.Proper)
    (h : mergeEntries doc xs = .ok doc') : doc'.Proper := by
  induction xs generalizing doc with
  | nil =>
      cases h
      exact hdoc
  | cons e rest ih =>
      obtain ⟨he, hrest⟩ := List.forall_mem_cons.1 hxs
      rw [mergeEntries] at h
      split at h
      · cases h
      · exact ih (Document.proper_insert hdoc e.1 he) hrest h

theorem proper_mergeNodes {doc doc' : Document} (hdoc : doc.Proper) {ns : List Node}
    (hns : ∀ n ∈ ns, n.Proper) (h : mergeNodes doc ns = .ok doc') : doc'.Proper := by
  induction ns generalizing doc with
  | nil =>
      cases h
      exact hdoc
  | cons n rest ih =>
      obtain ⟨hn, hrest⟩ := List.forall_mem_cons.1 hns
      obtain ⟨merged, hmerged, hnext⟩ := exists_of_bind_eq_ok h
      exact ih (proper_mergeEntries hdoc hn.compile.of_mem hmerged) hrest hnext

theorem Proper.compile (hc : c.Proper) {doc : Document} (h : c.compile = .ok doc) :
    doc.Proper := by
  -- the chain is generalised, as compiling tells a single node apart
  unfold Proper at hc
  rw [Criteria.compile] at h
  generalize c.chain = ns at hc h
  unfold compileChain at h
  split at h
  · cases h
    exact (hc _ List.mem_cons_self).compile
  · exact proper_mergeNodes Document.proper_empty hc h

theorem proper_compileAll {cs : List Criteria} (hcs : ∀ c ∈ cs, c.Proper) {docs : List Document}
    (h : compileAll cs = .ok docs) : ∀ doc ∈ docs, doc.Proper := by
  induction cs generalizing docs with
  | nil =>
      cases h
      simp
  | cons c rest ih =>
      obtain ⟨hc, hrest⟩ := List.forall_mem_cons.1 hcs
      obtain ⟨doc, hdoc, hnext⟩ := exists_of_bind_eq_ok h
      obtain ⟨others, hothers, hlast⟩ := exists_of_bind_eq_ok hnext
      cases hlast
      exact List.forall_mem_cons.2 ⟨hc.compile hdoc, ih hrest hothers⟩

end Compile

section Calls

/-- All values that a call is given are proper. -/
def Call.Proper : Call → Prop
  | .equals v => v.Proper
  | .compare _ v => v.Proper
  | .member _ vs => ∀ v ∈ vs, v.Proper
  | .modulo divisor remainder => divisor.Proper ∧ remainder.Proper
  | .elemMatch d => d.Proper
  | .andSchema schema => schema.Proper
  | .combine _ cs => ∀ c ∈ cs, c.Proper
  | _ => True

theorem proper_candidates {op : Operator} {vs items : List Value} (hvs : ∀ v ∈ vs, v.Proper)
    (h : candidates op vs = .ok items) : ∀ v ∈ items, v.Proper := by
  unfold candidates at h
  split at h
  · cases h
    have harray := hvs _ List.mem_cons_self
    rw [Value.Proper] at harray
    exact Value.properItems_iff.1 harray
  · split at h
    · cases h
    · cases h
      exact hvs
  · cases h
    exact hvs

/-- What a call records is proper if what it is given is. -/
theorem proper_of_recorded {s : Call} (hs : s.Proper) {op : Operator} {o : Operand}
    (h : s.recorded = some (op, .ok o)) : o.Proper := by
  cases s with
  | compare c v =>
      cases h
      exact Operand.proper_value hs
  | member m vs =>
      simp only [Call.recorded, Option.some.injEq, Prod.mk.injEq] at h
      obtain ⟨items, hitems, rfl⟩ := exists_of_map_eq_ok h.2
      exact Operand.proper_value (Value.proper_array (proper_candidates hs hitems))
  | modulo divisor remainder =>
      cases h
      refine Operand.proper_value (Value.proper_array ?_)
      exact List.forall_mem_cons.2 ⟨hs.1, by simpa using hs.2⟩
  | elemMatch d =>
      simp only [Call.recorded, Option.some.injEq, Prod.mk.injEq] at h
      obtain ⟨doc, hdoc, rfl⟩ := exists_of_map_eq_ok h.2
      exact Operand.proper_value (Value.proper_document (hs.compile hdoc))
  | testBits t mask =>
      simp only [Call.recorded, Option.some.injEq, Prod.mk.injEq] at h
      obtain ⟨v, hv, rfl⟩ := exists_of_map_eq_ok h.2
      exact Operand.proper_value (Bitmask.proper_of_toValue hv)
  | typeOf types =>
      cases h
      refine Operand.proper_value (Value.proper_array fun v hv => ?_)
      obtain ⟨t, _, rfl⟩ := List.mem_map.1 hv
      simp [Value.Proper]
  | _ =>
      cases h
      all_goals simp [Operand.Proper, Value.Proper]

theorem Proper.modify (hc : c.Proper) {f : Node → Node} (hf : (f c.active).Proper) :
    (c.modify f).Proper :=
  forall_chain_modify hc hf

theorem Proper.active (hc : c.Proper) : c.active.Proper :=
  hc _ (active_mem_chain c)

theorem Proper.put (hc : c.Proper) (op : Operator) {o : Operand} (ho : o.Proper) :
    (c.put op o).Proper :=
  hc.modify (hc.active.put op ho)

theorem Proper.append (hc : c.Proper) {n : Node} (hn : n.Proper) (h : c.append n = .ok d) :
    d.Proper := by
  unfold Criteria.append at h
  split at h
  · cases h
  · cases h
    intro m hm
    rw [chain, ← List.cons_append, ← List.append_assoc] at hm
    rcases List.mem_append.1 hm with hm | hm
    · exact hc m hm
    · rwa [List.mem_singleton.1 hm]

theorem Proper.matchPattern (hc : c.Proper) (p : Pattern) : (c.matchPattern p).Proper := by
  refine hc.modify ?_
  split
  · exact hc.active.put _ (Operand.proper_value (by simp [Value.Proper]))
  · exact hc.active.setEquality (by simp [Value.Proper])

theorem proper_of_boundedOperand? {b : Bound} {distance : Number.Binary64} {o o' : Operand}
    (ho : o.Proper) (h : boundedOperand? b distance o = some o') : o'.Proper := by
  have hnew : ∀ doc : Document, doc.Proper →
      (Operand.value (.document (doc.insert b.operator.key (.double distance)))).Proper :=
    fun doc hdoc => Operand.proper_value
      (Value.proper_document (Document.proper_insert hdoc _ (by simp [Value.Proper])))
  unfold boundedOperand? at h
  split at h
  · rename_i doc
    cases h
    have hdoc := ho _ rfl
    rw [Value.Proper] at hdoc
    exact hnew doc hdoc
  · cases h
    exact hnew _ (Geo.Geometry.proper_toOperand _)
  · cases h

theorem Proper.bound (hc : c.Proper) (b : Bound) (distance : Number.Binary64) :
    (c.bound b distance).Proper := by
  rcases bound_cases c b distance with ⟨op, o, o', _, ho, ho', hbound⟩ | hbound
  · have hmem : (op, o) ∈ c.active.operators := Assoc.mem_of_get?_eq_some ho
    rw [hbound]
    exact hc.put op (proper_of_boundedOperand? (hc.active.operators _ hmem) ho')
  · rw [hbound]
    exact hc.put _ (Operand.proper_value (by simp [Value.Proper]))

/-- Calls that are given proper values keep criteria proper. -/
theorem Proper.call (hc : c.Proper) {s : Call} (hs : s.Proper) (h : c.call s = .ok d) :
    d.Proper := by
  cases hr : s.recorded with
  | some e =>
      obtain ⟨op, r⟩ := e
      rw [call_of_recorded hr] at h
      obtain ⟨o, rfl, rfl⟩ := exists_of_map_eq_ok h
      exact hc.put op (proper_of_recorded hs hr)
  | none =>
      cases s with
      | andField key =>
          simp only [Criteria.call, andField] at h
          split at h
          · cases h
          · cases h
            intro n hn
            rcases List.mem_append.1 hn with hn | hn
            · exact hc n hn
            · rw [List.mem_singleton.1 hn]
              exact Node.proper_ofTarget _
      | equals v =>
          simp only [Criteria.call, equals] at h
          split at h
          · cases h
          · split at h
            · cases h
            · cases h
              exact hc.modify (hc.active.setEquality hs)
      | negate =>
          cases h
          exact hc.put .not (by simp [Operand.Proper])
      | matchSource source options =>
          simp only [Criteria.call, matchSource] at h
          split at h
          · cases h
            exact hc.matchPattern _
          · cases h
      | matchPattern p =>
          cases h
          exact hc.matchPattern p
      | bound b distance =>
          cases h
          exact hc.bound b distance
      | andSchema schema =>
          exact hc.append (Node.proper_ofSchema hs) h
      | combine op cs =>
          obtain ⟨docs, hdocs, happend⟩ := exists_of_bind_eq_ok h
          exact hc.append (Node.proper_ofCombinator op (proper_compileAll hs hdocs)) happend
      | _ =>
          simp [Call.recorded] at hr

theorem Proper.run (hc : c.Proper) {steps : List Call} (hsteps : ∀ s ∈ steps, s.Proper) :
    (c.run steps).Proper := by
  induction steps generalizing c with
  | nil =>
      exact hc
  | cons s rest ih =>
      obtain ⟨hs, hrest⟩ := List.forall_mem_cons.1 hsteps
      have hnext : (c.callOrKeep s).Proper := by
        unfold callOrKeep
        split
        · rename_i d h
          exact hc.call hs h
        · exact hc
      exact ih hnext hrest

theorem proper_ofNode {n : Node} (hn : n.Proper) : (ofNode n).Proper := by
  intro m hm
  rwa [List.mem_singleton.1 hm]

end Calls

end Criteria

end DocFilter
