import DocFilter.Proofs.Arrangement

/-!
# What calls do to the active node

An accepted call does two things to a chain at most: it changes the node that
is active when it is made, and it appends a node behind.  `Touched` lists what
can become of the active node, and `chain_of_call` says that the other nodes
stay as they were.

So a property that new nodes have is kept by a call exactly if the active node
keeps it (`forall_chain_of_call_iff`), and it holds all along a run exactly if
no call of the run breaks it on the node that is active then
(`forall_chain_along_iff`).
-/

namespace DocFilter

open Number (Binary64)

namespace Node

/-- The node matched against a pattern, which a pending negation takes as its own. -/
def matched (n : Node) (p : Pattern) : Node :=
  if n.hasDanglingNot then n.put .not (.value (.regex p))
  else { n with equality := some (.regex p) }

/-- The node with a bound on the distance of what it is near to. -/
def bounded (n : Node) (b : Bound) (distance : Binary64) : Node :=
  match Criteria.boundOn? n .near b distance with
  | some m => m
  | none =>
      match Criteria.boundOn? n .nearSphere b distance with
      | some m => m
      | none => n.put b.operator (.value (.double distance))

/-- A bound goes to the first of the two operators that can be given one, or stands by itself. -/
theorem bounded_cases (n : Node) (b : Bound) (distance : Binary64) :
    (∃ o o', n.operand? .near = some o ∧ Criteria.boundedOperand? b distance o = some o' ∧
        n.bounded b distance = n.put .near o') ∨
      (∀ o, n.operand? .near = some o → Criteria.boundedOperand? b distance o = none) ∧
        ((∃ o o', n.operand? .nearSphere = some o ∧
            Criteria.boundedOperand? b distance o = some o' ∧
            n.bounded b distance = n.put .nearSphere o') ∨
          n.bounded b distance = n.put b.operator (.value (.double distance))) := by
  have hcases : ∀ op, (∃ o o', n.operand? op = some o ∧
      Criteria.boundedOperand? b distance o = some o' ∧
      Criteria.boundOn? n op b distance = some (n.put op o')) ∨
        (∀ o, n.operand? op = some o → Criteria.boundedOperand? b distance o = none) ∧
          Criteria.boundOn? n op b distance = none := by
    intro op
    cases ho : n.operand? op with
    | none =>
        exact Or.inr ⟨by simp, by simp [Criteria.boundOn?, ho]⟩
    | some o =>
        cases ho' : Criteria.boundedOperand? b distance o with
        | none => exact Or.inr ⟨by simpa using ho', by simp [Criteria.boundOn?, ho, ho']⟩
        | some o' => exact Or.inl ⟨o, o', rfl, ho', by simp [Criteria.boundOn?, ho, ho']⟩
  rcases hcases .near with ⟨o, o', ho, ho', hn⟩ | ⟨hnear, hn⟩
  · exact Or.inl ⟨o, o', ho, ho', by simp [bounded, hn]⟩
  · refine Or.inr ⟨hnear, ?_⟩
    rcases hcases .nearSphere with ⟨o, o', ho, ho', hs⟩ | ⟨_, hs⟩
    · exact Or.inl ⟨o, o', ho, ho', by simp [bounded, hn, hs]⟩
    · exact Or.inr (by simp [bounded, hn, hs])

theorem exists_bounded_eq_put (n : Node) (b : Bound) (distance : Binary64) :
    ∃ op o, op ≠ .not ∧ n.bounded b distance = n.put op o := by
  rcases bounded_cases n b distance with ⟨_, o, _, _, h⟩ | ⟨_, ⟨_, o, _, _, h⟩ | h⟩
  · exact ⟨.near, o, by simp, h⟩
  · exact ⟨.nearSphere, o, by simp, h⟩
  · exact ⟨b.operator, _, by cases b <;> simp [Bound.operator], h⟩

/-- A node as it is when it is appended. -/
def IsNew (n : Node) : Prop :=
  (∃ key, n = { target := .field key }) ∨ n.IsElement

theorem IsNew.operand? {n : Node} (h : n.IsNew) {op : Operator} (hop : op ≠ .jsonSchema) :
    n.operand? op = none := by
  rcases h with ⟨key, rfl⟩ | ⟨schema, rfl⟩ | ⟨c, docs, rfl⟩
  · rfl
  · simp [ofSchema, Node.operand?, Assoc.get?_cons, hop.symm]
  · rfl

theorem IsNew.hasDanglingNot {n : Node} (h : n.IsNew) : n.hasDanglingNot = false := by
  rcases h with ⟨key, rfl⟩ | h
  · rfl
  · exact h.hasDanglingNot

end Node

namespace Criteria

/-- The call appends a node. -/
def Call.Appends : Call → Prop
  | .andField _ => True
  | .andSchema _ => True
  | .combine _ _ => True
  | _ => False

/-- The pattern that a call matches the field against, if it compiles. -/
def Call.pattern? : Call → Option Pattern
  | .matchSource source options => (Pattern.compile source options).toOption
  | .matchPattern p => some p
  | _ => none

/-- What becomes of the node that is active when a call is made, if the call is accepted. -/
inductive Touched (n : Node) : Call → Node → Prop
  | appended {s : Call} (hs : s.Appends) (h : n.hasDanglingNot = false) : Touched n s n
  | equality (v : Value) (hnone : n.equality = none) (h : n.hasDanglingNot = false) :
      Touched n (.equals v) { n with equality := some v }
  | negation : Touched n .negate (n.put .not .negation)
  | pattern {s : Call} {p : Pattern} (hs : s.pattern? = some p) (h : n.hasDanglingNot = false) :
      Touched n s { n with equality := some (.regex p) }
  | negatedPattern {s : Call} {p : Pattern} (hs : s.pattern? = some p)
      (h : n.hasDanglingNot = true) : Touched n s (n.put .not (.value (.regex p)))
  | record {s : Call} {op : Operator} {o : Operand} (hs : s.recorded = some (op, .ok o)) :
      Touched n s (n.put op o)
  | bounded (b : Bound) (distance : Binary64) :
      Touched n (.bound b distance) (n.bounded b distance)

end Criteria

namespace Criteria

variable {c d : Criteria} {s : Call}

section Chain

theorem chain_of_modify {f : Node → Node} :
    (c.modify f).chain = c.before ++ f c.active :: c.after :=
  rfl

theorem chain_of_append {n : Node} (h : c.append n = .ok d) :
    c.active.hasDanglingNot = false ∧ d.chain = c.chain ++ [n] := by
  unfold append at h
  split at h
  · cases h
  · rename_i hdangling
    cases h
    exact ⟨by simpa using hdangling, by simp [chain]⟩

theorem touched_of_pattern {p : Pattern} (hs : s.pattern? = some p) (n : Node) :
    Touched n s (n.matched p) := by
  cases h : n.hasDanglingNot with
  | true =>
      rw [Node.matched, if_pos h]
      exact .negatedPattern hs h
  | false =>
      rw [Node.matched, h, if_neg Bool.false_ne_true]
      exact .pattern hs h

/-- A call changes the node that is active when it is made, and appends a node at most. -/
theorem chain_of_call (h : c.call s = .ok d) : ∃ n new, Touched c.active s n ∧
    d.chain = c.before ++ n :: c.after ++ new ∧ ∀ m ∈ new, m.IsNew := by
  have happended : ∀ m : Node, m.IsNew → s.Appends → c.active.hasDanglingNot = false →
      d.chain = c.chain ++ [m] → ∃ n new, Touched c.active s n ∧
        d.chain = c.before ++ n :: c.after ++ new ∧ ∀ m ∈ new, m.IsNew :=
    fun m hm hs hdangling hchain =>
      ⟨c.active, [m], .appended hs hdangling, hchain, by simpa using hm⟩
  have hwritten : ∀ f : Node → Node, Touched c.active s (f c.active) → d = c.modify f →
      ∃ n new, Touched c.active s n ∧
        d.chain = c.before ++ n :: c.after ++ new ∧ ∀ m ∈ new, m.IsNew := by
    rintro f hf rfl
    exact ⟨f c.active, [], hf, by rw [chain_of_modify, List.append_nil], by simp⟩
  cases hs : s.recorded with
  | some e =>
      obtain ⟨op, r⟩ := e
      rw [call_of_recorded hs] at h
      obtain ⟨o, rfl, hd⟩ := exists_of_map_eq_ok h
      exact hwritten (fun n => n.put op o) (.record hs) hd.symm
  | none =>
      cases s with
      | andField key =>
          simp only [call, andField] at h
          split at h
          · cases h
          · rename_i hdangling
            cases h
            exact happended _ (Or.inl ⟨key, rfl⟩) trivial (by simpa using hdangling) rfl
      | equals v =>
          simp only [call, equals] at h
          split at h
          · cases h
          · rename_i hnone
            split at h
            · cases h
            · rename_i hdangling
              cases h
              exact hwritten _ (.equality v (by simpa using hnone) (by simpa using hdangling)) rfl
      | negate =>
          cases h
          exact hwritten (fun n => n.put .not .negation) .negation rfl
      | matchSource source options =>
          simp only [call, matchSource] at h
          cases hp : Pattern.compile source options with
          | ok p =>
              rw [hp] at h
              cases h
              have hpattern : (Call.matchSource source options).pattern? = some p := by
                rw [Call.pattern?, hp]
                rfl
              exact hwritten _ (touched_of_pattern hpattern c.active) rfl
          | error e =>
              rw [hp] at h
              cases h
      | matchPattern p =>
          cases h
          exact hwritten _ (touched_of_pattern rfl c.active) rfl
      | bound b distance =>
          cases h
          exact hwritten _ (.bounded b distance) rfl
      | andSchema schema =>
          obtain ⟨hdangling, hchain⟩ := chain_of_append h
          exact happended _ (Or.inr (Or.inl ⟨schema, rfl⟩)) trivial hdangling hchain
      | combine op cs =>
          obtain ⟨docs, _, happend⟩ := exists_of_bind_eq_ok h
          obtain ⟨hdangling, hchain⟩ := chain_of_append happend
          exact happended _ (Or.inr (Or.inr ⟨op, docs, rfl⟩)) trivial hdangling hchain
      | _ =>
          simp [Call.recorded] at hs

/-- A call leaves every node in its place, and as it was unless it is the active one. -/
theorem getElem?_chain_of_call {i : Nat} {n : Node} (h : c.call s = .ok d)
    (hn : c.chain[i]? = some n) : ∃ m, d.chain[i]? = some m ∧
      (i = c.before.length ∧ n = c.active ∧ Touched n s m ∨ i ≠ c.before.length ∧ m = n) := by
  obtain ⟨m, new, hm, hchain, _⟩ := chain_of_call h
  have hi : i < c.chain.length := by
    by_contra hge
    rw [List.getElem?_eq_none (by omega)] at hn
    cases hn
  have hlength : c.chain.length = (c.before ++ m :: c.after).length := by
    simp [chain]
  rw [hchain, List.getElem?_append_left (by omega)]
  by_cases heq : i = c.before.length
  · have hactive : n = c.active := by
      rw [heq, getElem?_chain_active] at hn
      exact (Option.some.inj hn).symm
    refine ⟨m, ?_, Or.inl ⟨heq, hactive, hactive ▸ hm⟩⟩
    simp [heq]
  · refine ⟨n, ?_, Or.inr ⟨heq, rfl⟩⟩
    rw [← hn, chain, List.getElem?_append, List.getElem?_append]
    split
    · rfl
    · obtain ⟨k, hk⟩ : ∃ k, i - c.before.length = k + 1 := ⟨i - c.before.length - 1, by omega⟩
      rw [hk, List.getElem?_cons_succ, List.getElem?_cons_succ]

end Chain

section Runs

theorem run_append (c : Criteria) (xs ys : List Call) : c.run (xs ++ ys) = (c.run xs).run ys :=
  List.foldl_append

/-- A property that a call keeps exactly if it does not break it holds all along a run exactly if
no call of the run breaks it. -/
theorem holds_along_iff {P : Criteria → Prop} {B : Criteria → Call → Prop}
    (hstep : ∀ c s, Reachable c → P c → (P (c.callOrKeep s) ↔ ¬ B c s))
    (hc : Reachable c) (h : P c) (steps : List Call) :
    (∀ front, front <+: steps → P (c.run front)) ↔
      ∀ front s, front ++ [s] <+: steps → ¬ B (c.run front) s := by
  have hrun : ∀ front s, c.run (front ++ [s]) = (c.run front).callOrKeep s :=
    fun front s => run_append c front [s]
  constructor
  · intro hall front s hfront
    have hbefore : P (c.run front) := hall front ((List.prefix_append front [s]).trans hfront)
    have hafter : P (c.run (front ++ [s])) := hall _ hfront
    rw [hrun] at hafter
    exact (hstep _ s (hc.run front) hbefore).1 hafter
  · intro hnone front
    induction front using List.reverseRecOn with
    | nil =>
        intro _
        exact h
    | append_singleton front s ih =>
        intro hfront
        have hbefore : P (c.run front) := ih ((List.prefix_append front [s]).trans hfront)
        rw [hrun]
        exact (hstep _ s (hc.run front) hbefore).2 (hnone front s hfront)

/-- What holds of new nodes is kept by a call exactly if it holds of what becomes of the active
node. -/
theorem forall_chain_of_call_iff {P : Node → Prop} (hnew : ∀ n : Node, n.IsNew → P n)
    (hc : ∀ n ∈ c.chain, P n) (h : c.call s = .ok d) :
    ∃ n, Touched c.active s n ∧ ((∀ m ∈ d.chain, P m) ↔ P n) := by
  obtain ⟨n, new, hn, hchain, hnews⟩ := chain_of_call h
  refine ⟨n, hn, ?_⟩
  constructor
  · intro hd
    refine hd n ?_
    simp [hchain]
  · intro hPn m hm
    rw [hchain, List.mem_append, List.mem_append, List.mem_cons] at hm
    rcases hm with (hb | rfl | ha) | hm
    · exact hc m (mem_chain.2 (Or.inl hb))
    · exact hPn
    · exact hc m (mem_chain.2 (Or.inr (Or.inr ha)))
    · exact hnew m (hnews m hm)

/-- What holds of new nodes, and of what becomes of a node of which it held, holds of all nodes. -/
theorem Reachable.forall_chain {P : Node → Prop} (hroot : P { target := .root })
    (hnew : ∀ n : Node, n.IsNew → P n) (htouched : ∀ n s m, Touched n s m → P n → P m)
    (hc : Reachable c) : ∀ n ∈ c.chain, P n := by
  induction hc with
  | root => simpa [Criteria.root, ofNode, chain] using hroot
  | field key => simpa [Criteria.field, ofNode, chain] using hnew _ (Or.inl ⟨key, rfl⟩)
  | ofSchema schema =>
      simpa [Criteria.ofSchema, ofNode, chain] using hnew _ (Or.inr (Or.inl ⟨schema, rfl⟩))
  | call s _ h ih =>
      obtain ⟨n, hn, hiff⟩ := forall_chain_of_call_iff hnew ih h
      exact hiff.2 (htouched _ s n hn (ih _ (active_mem_chain _)))

/-- What holds of new nodes holds of all nodes along a run exactly if no call of the run breaks it
on the node that is active when the call is made. -/
theorem forall_chain_along_iff {P : Node → Prop} {B : Node → Call → Prop}
    (hnew : ∀ n : Node, n.IsNew → P n)
    (hstep : ∀ (c : Criteria) (s : Call) (n : Node), Reachable c → Touched c.active s n →
      P c.active → (P n ↔ ¬ B c.active s))
    (haccepted : ∀ (c : Criteria) (s : Call), B c.active s → ∃ d, c.call s = .ok d)
    (hc : Reachable c) (h : ∀ n ∈ c.chain, P n) (steps : List Call) :
    (∀ front, front <+: steps → ∀ n ∈ (c.run front).chain, P n) ↔
      ∀ front s, front ++ [s] <+: steps → ¬ B (c.run front).active s := by
  refine holds_along_iff (P := fun c => ∀ n ∈ c.chain, P n) (B := fun c s => B c.active s)
    ?_ hc h steps
  intro c s hc hold
  cases hs : c.call s with
  | error e =>
      have hkeep : c.callOrKeep s = c := by
        simp [callOrKeep, hs]
      have hunbroken : ¬ B c.active s := by
        intro hbroken
        obtain ⟨d, hd⟩ := haccepted c s hbroken
        rw [hs] at hd
        cases hd
      rw [hkeep]
      exact iff_of_true hold hunbroken
  | ok d =>
      have hkeep : c.callOrKeep s = d := by
        simp [callOrKeep, hs]
      obtain ⟨n, hn, hiff⟩ := forall_chain_of_call_iff hnew hold hs
      rw [hkeep, hiff]
      exact hstep c s n hc hn (hold _ (active_mem_chain c))

end Runs

end Criteria

end DocFilter
