import DocFilter.Proofs.ActiveNode

/-!
# What calls leave alone

A call may write to the value of the active node or to one of few operators,
which can be told from the call (`Call.writes`).  If it is accepted, it writes
to one of these slots at most and appends one node at most (`Framed`).

A place of the chain is *settled* if another node is active.  The node in a
settled place never changes again, because only an appended node becomes active
(`chain_run_of_settled`).
-/

namespace DocFilter
namespace Criteria

section Slots

/-- The operators to one of which a call may write. -/
def Call.writes : Call → List Operator
  | .negate => [.not]
  | .matchSource _ _ => [.not]
  | .matchPattern _ => [.not]
  | .bound b _ => [.near, .nearSphere, b.operator]
  | s => (s.recorded.map Prod.fst).toList

/-- The call may write to the value that the field must equal. -/
def Call.WritesValue : Call → Prop
  | .equals _ => True
  | .matchSource _ _ => True
  | .matchPattern _ => True
  | _ => False

/-- What a call writes to a node: nothing, the value to equal, or one operator, which is added at
the end or replaced where it stands. -/
inductive Written (s : Call) (n : Node) : Node → Prop
  | nothing : Written s n n
  | value (v : Value) (hs : s.WritesValue) : Written s n { n with equality := some v }
  | added (op : Operator) (o : Operand) (hs : op ∈ s.writes)
      (hnew : op ∉ Assoc.keys n.operators) :
      Written s n { n with operators := n.operators ++ [(op, o)] }
  | replaced (op : Operator) (old o : Operand) (front back : List (Operator × Operand))
      (hs : op ∈ s.writes) (hplace : n.operators = front ++ (op, old) :: back)
      (hfirst : op ∉ Assoc.keys front) :
      Written s n { n with operators := front ++ (op, o) :: back }

variable {s : Call} {n m : Node} {op : Operator}

theorem written_put (n : Node) (o : Operand) (hs : op ∈ s.writes) : Written s n (n.put op o) := by
  by_cases hkey : op ∈ Assoc.keys n.operators
  · obtain ⟨front, old, back, hplace, hfirst⟩ := Assoc.exists_split_of_mem_keys hkey
    have hput : n.put op o = { n with operators := front ++ (op, o) :: back } := by
      rw [Node.put, hplace, Assoc.put_append_cons o old back hfirst]
    rw [hput]
    exact .replaced op old o front back hs hplace hfirst
  · have hput : n.put op o = { n with operators := n.operators ++ [(op, o)] } := by
      rw [Node.put, Assoc.put_of_notMem o hkey]
    rw [hput]
    exact .added op o hs hkey

theorem writes_of_pattern {p : Pattern} (h : s.pattern? = some p) :
    s.WritesValue ∧ Operator.not ∈ s.writes := by
  cases s with
  | matchSource source options => exact ⟨trivial, by simp [Call.writes]⟩
  | matchPattern p => exact ⟨trivial, by simp [Call.writes]⟩
  | _ => cases h

theorem mem_writes_of_recorded {r : Except Error Operand} (h : s.recorded = some (op, r)) :
    op ∈ s.writes := by
  cases s with
  | negate | matchSource | matchPattern | bound => cases h
  | _ => simp [Call.writes, h]

/-- What becomes of the active node is what the call writes to it. -/
theorem written_of_touched (h : Touched n s m) : Written s n m := by
  cases h with
  | appended _ _ => exact .nothing
  | equality v _ _ => exact .value v trivial
  | negation => exact written_put n _ (by simp [Call.writes])
  | pattern hs _ => exact .value _ (writes_of_pattern hs).1
  | negatedPattern hs _ => exact written_put n _ (writes_of_pattern hs).2
  | record hs => exact written_put n _ (mem_writes_of_recorded hs)
  | bounded b distance =>
      rcases Node.bounded_cases n b distance with ⟨_, o, _, _, h⟩ | ⟨_, ⟨_, o, _, _, h⟩ | h⟩
      · rw [h]
        exact written_put n o (by simp [Call.writes])
      · rw [h]
        exact written_put n o (by simp [Call.writes])
      · rw [h]
        exact written_put n _ (by simp [Call.writes])

end Slots

section Calls

/-- The call goes on with another field. -/
def Call.movesOn : Call → Bool
  | .andField _ => true
  | _ => false

/-- What an accepted call leaves alone: all nodes but the active one, and on that one all slots but
one.  The node that is appended, if any, becomes active only if the call goes on with a field. -/
structure Framed (c : Criteria) (s : Call) (d : Criteria) : Prop where
  chain : ∃ n new, d.chain = c.before ++ n :: c.after ++ new ∧ new.length ≤ 1 ∧
    Written s c.active n
  cursor : d.before.length = if s.movesOn then c.chain.length else c.before.length

variable {c d : Criteria} {s : Call} {i : Nat} {n : Node}

theorem length_chain_of_change (h : Change c d) : d.chain.length ≤ c.chain.length + 1 := by
  cases h <;> simp [chain, negate, put, modify] <;> omega

theorem before_of_append {m : Node} (h : c.append m = .ok d) : d.before = c.before := by
  unfold append at h
  split at h
  · cases h
  · cases h
    rfl

/-- Only going on with a field makes another node active. -/
theorem length_before_of_call (h : c.call s = .ok d) :
    d.before.length = if s.movesOn then c.chain.length else c.before.length := by
  cases hs : s.recorded with
  | some e =>
      obtain ⟨op, r⟩ := e
      have hstays : s.movesOn = false := by
        cases s with
        | andField => cases hs
        | _ => rfl
      rw [call_of_recorded hs] at h
      obtain ⟨o, rfl, rfl⟩ := exists_of_map_eq_ok h
      rw [hstays]
      rfl
  | none =>
      cases s with
      | andField key =>
          simp only [call, andField] at h
          split at h
          · cases h
          · cases h
            rfl
      | equals v =>
          simp only [call, equals] at h
          split at h
          · cases h
          · split at h
            · cases h
            · cases h
              rfl
      | negate | matchPattern | bound =>
          cases h
          rfl
      | matchSource source options =>
          simp only [call, matchSource] at h
          split at h
          · cases h
            rfl
          · cases h
      | andSchema schema =>
          exact congrArg List.length (before_of_append h)
      | combine op cs =>
          obtain ⟨docs, _, happend⟩ := exists_of_bind_eq_ok h
          exact congrArg List.length (before_of_append happend)
      | _ =>
          simp [Call.recorded] at hs

theorem framed_of_call (h : c.call s = .ok d) : Framed c s d := by
  refine ⟨?_, length_before_of_call h⟩
  obtain ⟨n, new, hn, hchain, _⟩ := chain_of_call h
  refine ⟨n, new, hchain, ?_, written_of_touched hn⟩
  have hlength := length_chain_of_change (change_of_call h)
  rw [hchain] at hlength
  simp only [chain, List.length_append, List.length_cons] at hlength
  omega

end Calls

section Runs

variable {c d : Criteria} {s : Call} {i : Nat}

/-- The place is in the chain, and its node is not active. -/
def Settled (c : Criteria) (i : Nat) : Prop :=
  i < c.chain.length ∧ i ≠ c.before.length

/-- A call keeps the node in a settled place, and the place settled. -/
theorem Settled.call (hi : Settled c i) (h : c.call s = .ok d) :
    Settled d i ∧ d.chain[i]? = c.chain[i]? := by
  obtain ⟨hlt, hne⟩ := hi
  have hn : c.chain[i]? = some c.chain[i] := List.getElem?_eq_getElem hlt
  obtain ⟨m, hm, hcase⟩ := getElem?_chain_of_call h hn
  rcases hcase with ⟨heq, _⟩ | ⟨_, rfl⟩
  · exact absurd heq hne
  · refine ⟨⟨(List.getElem?_eq_some_iff.1 hm).1, ?_⟩, hm.trans hn.symm⟩
    rw [length_before_of_call h]
    split
    · exact Nat.ne_of_lt hlt
    · exact hne

theorem Settled.callOrKeep (hi : Settled c i) (s : Call) :
    Settled (c.callOrKeep s) i ∧ (c.callOrKeep s).chain[i]? = c.chain[i]? := by
  unfold Criteria.callOrKeep
  split
  · rename_i d h
    exact hi.call h
  · exact ⟨hi, rfl⟩

/-- A run never changes the node in a settled place. -/
theorem Settled.run (hi : Settled c i) (steps : List Call) :
    Settled (c.run steps) i ∧ (c.run steps).chain[i]? = c.chain[i]? := by
  induction steps generalizing c with
  | nil => exact ⟨hi, rfl⟩
  | cons s steps ih =>
      obtain ⟨hnext, hkept⟩ := hi.callOrKeep s
      obtain ⟨hlast, hrest⟩ := ih hnext
      exact ⟨hlast, hrest.trans hkept⟩

theorem length_chain_of_appends (h : c.call s = .ok d) (hs : s.Appends) :
    d.chain.length = c.chain.length + 1 := by
  cases s with
  | andField key =>
      simp only [Criteria.call, andField] at h
      split at h
      · cases h
      · cases h
        simp [chain, Nat.add_assoc]
  | andSchema schema =>
      rw [(chain_of_append h).2, List.length_append, List.length_singleton]
  | combine op cs =>
      obtain ⟨docs, _, happend⟩ := exists_of_bind_eq_ok h
      rw [(chain_of_append happend).2, List.length_append, List.length_singleton]
  | _ => exact hs.elim

/-- A node is settled as soon as a field is appended and becomes active in its stead.  A schema or a
combinator is settled as soon as it is appended. -/
theorem settled_of_appends (h : c.call s = .ok d) (hs : s.Appends) :
    Settled d (if s.movesOn then c.before.length else c.chain.length) := by
  have hlength := length_chain_of_appends h hs
  have hcursor := length_before_of_call h
  have hactive : c.before.length < c.chain.length := by
    simp [chain]
  split
  · rename_i hmoves
    rw [if_pos hmoves] at hcursor
    exact ⟨by omega, by omega⟩
  · rename_i hstays
    rw [if_neg hstays] at hcursor
    exact ⟨by omega, by omega⟩

/-- **Calls write to one slot of the active node at most.**  An accepted call leaves all other nodes
and slots as they are and appends one node at most.  What is appended without becoming active is
settled, and so is a node in whose stead another becomes active; and what is settled at some point
of a run is never changed by what follows. -/
theorem calls_write_one_slot (c : Criteria) :
    (∀ s d, c.call s = .ok d → Framed c s d ∧
      (s.Appends → Settled d (if s.movesOn then c.before.length else c.chain.length))) ∧
      ∀ front back i, Settled (c.run front) i →
        (c.run (front ++ back)).chain[i]? = (c.run front).chain[i]? := by
  refine ⟨fun s d h => ⟨framed_of_call h, settled_of_appends h⟩, ?_⟩
  intro front back i hi
  rw [run_append]
  exact (hi.run back).2

/-- A bound takes the place of the operand beside another operator, and calls on the next field
leave the node alone. -/
theorem calls_write_one_slot_bounded :
    ∃ d, ((field "a").run [.near (.geometry (.point ⟨⟨0⟩, ⟨0⟩⟩)), .present true]).call
        (.bound .max ⟨0⟩) = .ok d ∧
      d.active.operators.map Prod.fst = [.near, .present] ∧
      Framed ((field "a").run [.near (.geometry (.point ⟨⟨0⟩, ⟨0⟩⟩)), .present true])
        (.bound .max ⟨0⟩) d ∧
      Settled (d.run [.andField "b"]) 0 ∧
      (d.run ([.andField "b"] ++ [.negate, .present false])).chain[0]? =
        (d.run [.andField "b"]).chain[0]? := by
  refine ⟨_, rfl, rfl, ((calls_write_one_slot _).1 _ _ rfl).1, ?_, ?_⟩
  · exact ⟨by decide, by decide⟩
  · exact (calls_write_one_slot _).2 _ _ _ ⟨by decide, by decide⟩

end Runs

end Criteria

end DocFilter
