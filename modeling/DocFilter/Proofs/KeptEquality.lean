import DocFilter.Proofs.ActiveNode
import DocFilter.Proofs.RefusedCalls

/-!
# Which values to equal are kept

A node that has been given a value to equal has one ever after.  It keeps the
value against every call but one: a second value is refused, while a pattern
that no pending negation takes replaces the value that was there.

So a value is kept all along a run exactly if every pattern that is matched
while its node is active and no negation waits is the value itself.
-/

namespace DocFilter

namespace Node

variable {n m : Node} {s : Criteria.Call} {v : Value}

/-- A value is kept against every call but a pattern that no pending negation takes. -/
theorem equality_of_touched (h : Criteria.Touched n s m) (hv : n.equality = some v) :
    m.equality = some v ∧ (n.hasDanglingNot = true ∨ s.pattern? = none) ∨
      n.hasDanglingNot = false ∧ ∃ p, s.pattern? = some p ∧ m.equality = some (.regex p) := by
  cases h with
  | appended hs _ =>
      refine Or.inl ⟨hv, Or.inr ?_⟩
      cases s with
      | andField | andSchema | combine => rfl
      | _ => exact hs.elim
  | equality _ hnone _ =>
      rw [hv] at hnone
      cases hnone
  | negation => exact Or.inl ⟨hv, Or.inr rfl⟩
  | pattern hs hsettled => exact Or.inr ⟨hsettled, _, hs, rfl⟩
  | negatedPattern _ hwaits => exact Or.inl ⟨hv, Or.inl hwaits⟩
  | record hs =>
      refine Or.inl ⟨hv, Or.inr ?_⟩
      cases s with
      | matchSource | matchPattern => cases hs
      | _ => rfl
  | bounded b distance =>
      obtain ⟨_, _, _, hm⟩ := exists_bounded_eq_put n b distance
      exact Or.inl ⟨by rw [hm]; exact hv, Or.inr rfl⟩

end Node

namespace Criteria

/-- The value that the node in a place of the chain must equal. -/
def equalityAt (c : Criteria) (i : Nat) : Option Value :=
  c.chain[i]? >>= Node.equality

/-- The call matches the node in a place, whose value to equal is another, against a pattern. -/
def Replaces (v : Value) (i : Nat) (c : Criteria) (s : Call) : Prop :=
  c.before.length = i ∧ c.active.hasDanglingNot = false ∧
    ∃ p, s.pattern? = some p ∧ v ≠ .regex p

variable {c d : Criteria} {s : Call} {i : Nat} {v : Value}

theorem exists_call_of_pattern {p : Pattern} (h : s.pattern? = some p) : ∃ d, c.call s = .ok d := by
  cases s with
  | matchPattern p => exact ⟨_, rfl⟩
  | matchSource source options =>
      cases hp : Pattern.compile source options with
      | ok p => exact ⟨c.matchPattern p, by simp [call, matchSource, hp]⟩
      | error e => simp [Call.pattern?, hp, Except.toOption] at h
  | _ => cases h

/-- A value is kept in its place or replaced by a pattern. -/
theorem equalityAt_of_call (h : c.call s = .ok d) (hv : c.equalityAt i = some v) :
    d.equalityAt i = some v ∧ ¬ Replaces v i c s ∨
      Replaces v i c s ∧ ∃ p, v ≠ .regex p ∧ d.equalityAt i = some (.regex p) := by
  obtain ⟨n, hn, hvalue⟩ := Option.bind_eq_some_iff.1 hv
  obtain ⟨m, hm, hcase⟩ := getElem?_chain_of_call h hn
  have hat : d.equalityAt i = m.equality := by
    rw [equalityAt, hm]
    rfl
  rw [hat]
  rcases hcase with ⟨hi, rfl, htouched⟩ | ⟨hi, rfl⟩
  · rcases Node.equality_of_touched htouched hvalue with ⟨hkept, hnone⟩ | ⟨hsettled, p, hs, hp⟩
    · refine Or.inl ⟨hkept, ?_⟩
      rintro ⟨_, hsettled, p, hs, _⟩
      rcases hnone with hwaits | hnone
      · exact Bool.false_ne_true (hsettled.symm.trans hwaits)
      · rw [hs] at hnone
        cases hnone
    · by_cases hsame : v = .regex p
      · refine Or.inl ⟨by rw [hp, hsame], ?_⟩
        rintro ⟨_, _, q, hq, hne⟩
        rw [hs] at hq
        cases hq
        exact hne hsame
      · exact Or.inr ⟨⟨hi.symm, hsettled, p, hs, hsame⟩, p, hsame, hp⟩
  · exact Or.inl ⟨hvalue, fun hreplaces => hi hreplaces.1.symm⟩

theorem equalityAt_callOrKeep_iff (hv : c.equalityAt i = some v) :
    (c.callOrKeep s).equalityAt i = some v ↔ ¬ Replaces v i c s := by
  cases hs : c.call s with
  | error e =>
      have hkeep : c.callOrKeep s = c := by
        simp [callOrKeep, hs]
      rw [hkeep]
      refine iff_of_true hv ?_
      rintro ⟨_, _, p, hp, _⟩
      obtain ⟨d, hd⟩ := exists_call_of_pattern (c := c) hp
      rw [hs] at hd
      cases hd
  | ok d =>
      have hkeep : c.callOrKeep s = d := by
        simp [callOrKeep, hs]
      rw [hkeep]
      rcases equalityAt_of_call hs hv with ⟨hkept, hnot⟩ | ⟨hreplaces, p, hne, hp⟩
      · exact iff_of_true hkept hnot
      · refine iff_of_false ?_ (not_not_intro hreplaces)
        rw [hp]
        exact fun heq => hne (Option.some.inj heq).symm

/-- A place that has a value has one after any run. -/
theorem exists_equalityAt_run (hv : c.equalityAt i = some v) (steps : List Call) :
    ∃ w, (c.run steps).equalityAt i = some w := by
  induction steps generalizing c v with
  | nil => exact ⟨v, hv⟩
  | cons s steps ih =>
      have hnext : ∃ w, (c.callOrKeep s).equalityAt i = some w := by
        cases hs : c.call s with
        | error e => exact ⟨v, by simpa [callOrKeep, hs] using hv⟩
        | ok d =>
            simp only [callOrKeep, hs]
            rcases equalityAt_of_call hs hv with ⟨hkept, _⟩ | ⟨_, p, _, hp⟩
            · exact ⟨v, hkept⟩
            · exact ⟨_, hp⟩
      obtain ⟨w, hw⟩ := hnext
      exact ih hw

/-- A node with a value refuses every other that is given as a value. -/
theorem equals_of_equality (hv : c.active.equality.isSome) (w : Value) :
    ∃ e, c.call (.equals w) = .error e ∧ e.kind = .conflictingAssignment := by
  obtain ⟨e, he⟩ : ∃ e, c.call (.equals w) = .error e := by
    simp [call, equals, hv]
  refine ⟨e, he, ?_⟩
  exact (refusedFor_of_call he).kind rfl

/-- **A value to equal is kept, unless a pattern replaces it.**  A place of the chain that has a
value has one ever after.  It has the same value all along a run exactly if no call of the run
matches its node against another pattern while no negation waits; and whenever its node is active,
a second value is refused. -/
theorem equality_is_kept_iff (hc : Reachable c) (hv : c.equalityAt i = some v)
    (steps : List Call) :
    (∃ w, (c.run steps).equalityAt i = some w) ∧
      ((∀ front, front <+: steps → (c.run front).equalityAt i = some v) ↔
        ∀ front s, front ++ [s] <+: steps → ¬ Replaces v i (c.run front) s) ∧
      ∀ w, (c.run steps).before.length = i → ∃ e,
        (c.run steps).call (.equals w) = .error e ∧ e.kind = .conflictingAssignment := by
  refine ⟨exists_equalityAt_run hv steps, ?_, ?_⟩
  · exact holds_along_iff (P := fun c => c.equalityAt i = some v) (B := Replaces v i)
      (fun _ _ _ hv => equalityAt_callOrKeep_iff hv) hc hv steps
  · rintro w rfl
    obtain ⟨u, hu⟩ := exists_equalityAt_run hv steps
    have hactive : (c.run steps).active.equality = some u := by
      simpa [equalityAt, getElem?_chain_active] using hu
    exact equals_of_equality (by rw [hactive]; rfl) w

/-- A pattern becomes the operand of a negation, and then the value of the field behind. -/
theorem equality_is_kept_iff_negated : Reachable ((field "a").run [.equals .null]) ∧
    ((field "a").run [.equals .null]).equalityAt 0 = some .null ∧
      ∀ front, front <+: [.negate, .matchPattern ⟨"b", {}, .lockstep #[]⟩, .andField "c",
          .matchPattern ⟨"b", {}, .lockstep #[]⟩] →
        (((field "a").run [.equals .null]).run front).equalityAt 0 = some .null := by
  have hstart : Reachable ((field "a").run [.equals .null]) := (Reachable.field "a").run _
  refine ⟨hstart, rfl, (equality_is_kept_iff hstart rfl _).2.1.2 ?_⟩
  rintro front s ⟨rest, hrest⟩ ⟨hplace, hsettled, p, hp, _⟩
  rcases front with _ | ⟨s₁, _ | ⟨s₂, _ | ⟨s₃, _ | ⟨s₄, front⟩⟩⟩⟩
  · obtain ⟨rfl, _⟩ : s = _ ∧ _ := by simpa using hrest
    cases hp
  · obtain ⟨rfl, rfl, _⟩ : s₁ = _ ∧ s = _ ∧ _ := by simpa using hrest
    cases hsettled
  · obtain ⟨rfl, rfl, rfl, _⟩ : s₁ = _ ∧ s₂ = _ ∧ s = _ ∧ _ := by simpa using hrest
    cases hp
  · obtain ⟨rfl, rfl, rfl, rfl, _⟩ : s₁ = _ ∧ s₂ = _ ∧ s₃ = _ ∧ s = _ ∧ _ := by
      simpa using hrest
    cases hplace
  · simp at hrest

-- Without a negation in between, the pattern takes the place of the value.
example (p : Pattern) :
    (((field "a").run [.equals .null]).run [.matchPattern p]).equalityAt 0 = some (.regex p) :=
  rfl

end Criteria

end DocFilter
