import DocFilter.Proofs.ScopeVariables

/-!
# Resolution and the bindings of a chain

A scope resolves a field after the scopes around it have, and may do so again
at every level.  The outcome depends on the chain only through one question: is
the field *bound*, that is, does some scope on the chain bind it?  If not, the
answer of the context stands.  If it is bound, the answer is turned into a
variable once, however many scopes bind the field (`resolve_of_bound`).

Whether a field is bound can be read off the union of the names on the chain
(`bound_iff`), so neither the order nor the grouping of the names matters.
-/

namespace DocFilter

namespace Context

variable {c : Context} {f : Field}

/-- A context has no field with an empty name or path, whatever it exposes. -/
theorem resolve_eq_emptyField_iff :
    c.resolve f = .error .emptyField ↔ f.name = "" ∨ f.target = "" := by
  unfold resolve
  split
  · next h =>
      rw [Bool.or_eq_true, String.isEmpty_iff, String.isEmpty_iff] at h
      exact iff_of_true rfl h
  · next h =>
      rw [Bool.or_eq_true, String.isEmpty_iff, String.isEmpty_iff] at h
      refine iff_of_false ?_ h
      split <;> simp

end Context

namespace Scope

section Chain

/-- Some scope on the chain binds the field. -/
def Bound (f : Field) : Scope → Prop
  | .root _ => False
  | .nested names parent => binds names f = true ∨ Bound f parent

/-- The scope with further names nested in it, the outermost first. -/
def nest (s : Scope) (inner : List (List String)) : Scope :=
  inner.foldl (fun s names => .nested names s) s

/-- The scope that is left of a chain without its innermost scopes. -/
def enclosing : Nat → Scope → Scope
  | n + 1, .nested _ parent => enclosing n parent
  | _, s => s

theorem nest_concat (s : Scope) (inner : List (List String)) (names : List String) :
    s.nest (inner ++ [names]) = nested names (s.nest inner) := by
  simp [nest]

theorem enclosing_zero (s : Scope) : s.enclosing 0 = s := by
  cases s <;> rfl

theorem enclosing_nest (s : Scope) (inner : List (List String)) :
    (s.nest inner).enclosing inner.length = s := by
  induction inner using List.reverseRecOn with
  | nil =>
      exact enclosing_zero s
  | append_singleton inner names ih =>
      rw [nest_concat, List.length_append, List.length_singleton, enclosing]
      exact ih

/-- A field is bound on a chain if the union of its names binds it. -/
theorem bound_iff {s : Scope} {f : Field} : s.Bound f ↔ binds s.boundNames f = true := by
  induction s with
  | root c =>
      simp [Bound]
  | nested names s ih =>
      rw [Bound, ih, boundNames_nested, binds_append, Bool.or_eq_true]

/-- Only which names there are counts. -/
theorem binds_congr {xs ys : List String} (h : ∀ x, x ∈ xs ↔ x ∈ ys) (f : Field) :
    binds xs f = binds ys f := by
  rw [Bool.eq_iff_iff]
  simp only [binds, Bool.or_eq_true, Bool.and_eq_true, List.contains_iff_mem, h]

end Chain

section Resolution

variable {s t : Scope} {f : Field} {r : Reference}

theorem resolve_of_not_bound (h : ¬ s.Bound f) : s.resolve f = s.context.resolve f := by
  rw [bound_iff] at h
  rw [resolve_eq, if_neg h]

theorem resolve_of_bound (h : s.Bound f) :
    s.resolve f = asVariable f.target (s.context.resolve f) := by
  rw [bound_iff] at h
  rw [resolve_eq, if_pos h]

theorem resolve_eq_of_same_names (hcontext : s.context = t.context)
    (h : ∀ x, x ∈ s.boundNames ↔ x ∈ t.boundNames) : s.resolve f = t.resolve f := by
  rw [resolve_eq, resolve_eq, hcontext, binds_congr h]

theorem isVariable_of_asVariable {path : String} {x : Except ResolveError Reference}
    (h : asVariable path x = .ok r) : r.isVariable = true := by
  have htoVariable : ∀ q : Reference, q.toVariable.isVariable = true := by
    rintro ((_ | ⟨_, _⟩) | ⟨_, _⟩) <;> rfl
  rw [asVariable] at h
  cases hpath : orPath path x with
  | ok q =>
      rw [hpath] at h
      cases h
      exact htoVariable q
  | error e =>
      rw [hpath] at h
      cases h

/-- Nothing but an empty name or path keeps a bound field from being a variable. -/
theorem asVariable_resolve_eq_error_iff {c : Context} {e : ResolveError} :
    asVariable f.target (c.resolve f) = .error e ↔
      e = .emptyField ∧ (f.name = "" ∨ f.target = "") := by
  rw [← Context.resolve_eq_emptyField_iff (c := c)]
  cases hresolve : c.resolve f with
  | ok r =>
      simp [asVariable, orPath, Except.map]
  | error e' =>
      cases e' with
      | invalidReference target =>
          simp [asVariable, orPath, Except.map]
      | emptyField =>
          simp [asVariable, orPath, Except.map, eq_comm]

/-- What resolves at all is a variable if it is bound, and a path in the document if not. -/
theorem isVariable_iff_bound (h : s.resolve f = .ok r) : r.isVariable = true ↔ s.Bound f := by
  by_cases hbound : s.Bound f
  · rw [resolve_of_bound hbound] at h
    exact iff_of_true (isVariable_of_asVariable h) hbound
  · rw [resolve_of_not_bound hbound] at h
    exact iff_of_false (by simp [Context.isVariable_of_resolve h]) hbound

theorem exists_variable_iff : (∃ r, s.resolve f = .ok r ∧ r.isVariable = true) ↔
    s.Bound f ∧ f.name ≠ "" ∧ f.target ≠ "" := by
  rw [← not_or]
  constructor
  · rintro ⟨r, h, hvariable⟩
    have hbound := (isVariable_iff_bound h).1 hvariable
    refine ⟨hbound, fun hempty => ?_⟩
    rw [resolve_of_bound hbound, asVariable_resolve_eq_error_iff.2 ⟨rfl, hempty⟩] at h
    cases h
  · rintro ⟨hbound, hnonempty⟩
    rw [resolve_of_bound hbound]
    cases hresolve : asVariable f.target (s.context.resolve f) with
    | ok r =>
        exact ⟨r, rfl, isVariable_of_asVariable hresolve⟩
    | error e =>
        exact absurd (asVariable_resolve_eq_error_iff.1 hresolve).2 hnonempty

/-- **Resolution through a chain of scopes.**  Let the answer of the context be given.  If no scope
binds the field it stands; if some scope does, a path becomes a variable, a path that is not exposed
becomes a variable all the same, and an empty field stays one.  Therefore only the context and the
union of the bound names count, a field resolves to a variable exactly if it is bound and neither
its name nor its path is empty, and scopes further in make no difference. -/
theorem resolve_by_union_of_bindings (s : Scope) (f : Field) :
    (¬ s.Bound f → s.resolve f = s.context.resolve f) ∧
      (s.Bound f → s.resolve f =
        match s.context.resolve f with
        | .ok r => .ok r.toVariable
        | .error (.invalidReference _) => .ok (Reference.ofPath f.target).toVariable
        | .error .emptyField => .error .emptyField) ∧
      (∀ t : Scope, t.context = s.context → (∀ x, x ∈ t.boundNames ↔ x ∈ s.boundNames) →
        t.resolve f = s.resolve f) ∧
      (∀ r, s.resolve f = .ok r → (r.isVariable = true ↔ s.Bound f)) ∧
      ((∃ r, s.resolve f = .ok r ∧ r.isVariable = true) ↔
        s.Bound f ∧ f.name ≠ "" ∧ f.target ≠ "") ∧
      ∀ inner, ((s.nest inner).enclosing inner.length).resolve f = s.resolve f := by
  refine ⟨resolve_of_not_bound, fun hbound => ?_, fun t => resolve_eq_of_same_names,
    fun r => isVariable_iff_bound, exists_variable_iff, fun inner => ?_⟩
  · rw [resolve_of_bound hbound]
    cases s.context.resolve f with
    | ok r =>
        rfl
    | error e =>
        cases e <;> rfl
  · rw [enclosing_nest]

/-- A field that is bound but reads no path is refused. -/
theorem bound_field_without_path_is_refused :
    (nested ["items"] (root {})).Bound ⟨"items", ""⟩ ∧
      ¬ ∃ r, (nested ["items"] (root {})).resolve ⟨"items", ""⟩ = .ok r ∧
        r.isVariable = true := by
  refine ⟨Or.inl (by decide), ?_⟩
  rintro ⟨r, h, _⟩
  have hrefused : (nested ["items"] (root {})).resolve ⟨"items", ""⟩ = .error .emptyField := by
    decide +kernel
  rw [hrefused] at h
  cases h

end Resolution

end Scope

end DocFilter
