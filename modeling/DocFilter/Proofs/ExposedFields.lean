import DocFilter.Proofs.Bindings

/-!
# What a restricted context gives away

A context that exposes certain names only is asked for a field by its name and
answers with the path that the field reads.  The two begin alike unless the
field is an alias, and it is the name that is judged: an alias under an exposed
name reads any path it is given (`resolve_eq_path_iff`), and an alias under
another name is refused even if its path is exposed
(`resolve_eq_invalidReference_iff`).

So a restriction guards the paths that are read (`Guarded`) exactly as far as
the name of a field is exposed when its path is.
-/

namespace DocFilter

namespace Context

variable {c : Context} {f : Field} {names : List String}

theorem exposes_iff (h : c.exposed = some names) :
    c.exposes f = true ↔ Path.root f.name ∈ names := by
  rw [exposes, h]
  exact List.contains_iff_mem

/-- A field that has a name and a path is found or refused by its name. -/
theorem resolve_of_nonempty (hname : f.name ≠ "") (htarget : f.target ≠ "") :
    c.resolve f =
      if c.exposes f then .ok (.ofPath (c.mapPath f.target))
      else .error (.invalidReference f.target) := by
  have hempty : ¬ (f.name.isEmpty || f.target.isEmpty) = true := by
    simp [String.isEmpty_iff, hname, htarget]
  rw [resolve, if_neg hempty]

theorem resolve_eq_ok_iff {r : Reference} : c.resolve f = .ok r ↔
    f.name ≠ "" ∧ f.target ≠ "" ∧ c.exposes f = true ∧ r = .ofPath (c.mapPath f.target) := by
  by_cases hempty : f.name = "" ∨ f.target = ""
  · rw [resolve_eq_emptyField_iff.2 hempty]
    refine iff_of_false (by simp) ?_
    rintro ⟨hname, htarget, _⟩
    exact hempty.elim hname htarget
  · obtain ⟨hname, htarget⟩ := not_or.1 hempty
    rw [resolve_of_nonempty hname htarget]
    cases c.exposes f <;> simp [hname, htarget, eq_comm]

end Context

namespace Scope

variable {s : Scope} {f : Field} {names : List String} {segments : List String}

section Answers

/-- The path of a field is given away if the field is not bound and its name is exposed. -/
theorem resolve_eq_path_iff (h : s.context.exposed = some names) :
    s.resolve f = .ok (.path segments) ↔
      f.name ≠ "" ∧ f.target ≠ "" ∧ ¬ s.Bound f ∧ Path.root f.name ∈ names ∧
        segments = Path.split (s.context.mapPath f.target) := by
  by_cases hbound : s.Bound f
  · refine iff_of_false ?_ (fun hpath => hpath.2.2.1 hbound)
    intro hresolve
    have hvariable := (isVariable_iff_bound hresolve).2 hbound
    cases hvariable
  · rw [resolve_of_not_bound hbound, Context.resolve_eq_ok_iff, Context.exposes_iff h]
    simp [hbound, Reference.ofPath]

/-- A field that is not bound is refused if its name is not exposed, and the path is told. -/
theorem resolve_eq_invalidReference_iff (h : s.context.exposed = some names) (hname : f.name ≠ "")
    (htarget : f.target ≠ "") (hbound : ¬ s.Bound f) {path : String} :
    s.resolve f = .error (.invalidReference path) ↔
      Path.root f.name ∉ names ∧ path = f.target := by
  rw [resolve_of_not_bound hbound, Context.resolve_of_nonempty hname htarget,
    ← Context.exposes_iff h]
  cases s.context.exposes f <;> simp [eq_comm]

theorem exists_invalidReference_iff (h : s.context.exposed = some names) (hname : f.name ≠ "")
    (htarget : f.target ≠ "") (hbound : ¬ s.Bound f) :
    (∃ path, s.resolve f = .error (.invalidReference path)) ↔ Path.root f.name ∉ names := by
  simp [resolve_eq_invalidReference_iff h hname htarget hbound]

end Answers

section Restriction

/-- Of a field only an exposed path is given away, and a field that no scope binds is refused
exactly if its path is not exposed. -/
structure Guarded (s : Scope) (names : List String) (f : Field) : Prop where
  path : ∀ segments, s.resolve f = .ok (.path segments) → f.rootSegment ∈ names
  refused : f.name ≠ "" → f.target ≠ "" → ¬ s.Bound f →
    ((∃ path, s.resolve f = .error (.invalidReference path)) ↔ f.rootSegment ∉ names)

theorem guarded_iff (h : s.context.exposed = some names) :
    s.Guarded names f ↔ (f.name ≠ "" → f.target ≠ "" → ¬ s.Bound f →
      (Path.root f.name ∈ names ↔ f.rootSegment ∈ names)) := by
  constructor
  · intro hguarded hname htarget hbound
    have hrefused := hguarded.refused hname htarget hbound
    rw [exists_invalidReference_iff h hname htarget hbound] at hrefused
    exact not_iff_not.1 hrefused
  · intro halike
    refine ⟨fun segments hresolve => ?_, fun hname htarget hbound => ?_⟩
    · obtain ⟨hname, htarget, hbound, hexposed, _⟩ := (resolve_eq_path_iff h).1 hresolve
      exact (halike hname htarget hbound).1 hexposed
    · rw [exists_invalidReference_iff h hname htarget hbound]
      exact not_congr (halike hname htarget hbound)

/-- **What a restriction guards.**  Under a context that exposes certain names only, a path is given
away exactly if its field is not bound and the name of the field is exposed, and a field that is
not bound is refused exactly if its name is not exposed.  The same holds of the path in place of the
name exactly if the name is exposed when the path is and only then, as it is if both begin alike. -/
theorem restriction_guards_paths_iff (h : s.context.exposed = some names) (f : Field) :
    (∀ segments, s.resolve f = .ok (.path segments) ↔
        f.name ≠ "" ∧ f.target ≠ "" ∧ ¬ s.Bound f ∧ Path.root f.name ∈ names ∧
          segments = Path.split (s.context.mapPath f.target)) ∧
      (f.name ≠ "" → f.target ≠ "" → ¬ s.Bound f →
        (s.resolve f = .error (.invalidReference f.target) ↔ Path.root f.name ∉ names)) ∧
      (s.Guarded names f ↔ (f.name ≠ "" → f.target ≠ "" → ¬ s.Bound f →
        (Path.root f.name ∈ names ↔ f.rootSegment ∈ names))) ∧
      (Path.root f.name = f.rootSegment → s.Guarded names f) := by
  refine ⟨fun segments => resolve_eq_path_iff h, fun hname htarget hbound => ?_, guarded_iff h,
    fun halike => ?_⟩
  · rw [resolve_eq_invalidReference_iff h hname htarget hbound, and_iff_left rfl]
  · rw [guarded_iff h, halike]
    intro _ _ _
    exact Iff.rfl

/-- A field below an exposed name is guarded also where another name is bound, and an alias under
an exposed name is not. -/
theorem restriction_guards_paths_iff_aliased :
    (nested ["item"] (root { exposed := some ["total"] })).Guarded ["total"]
        (.ofName "total.net") ∧
      (nested ["item"] (root { exposed := some ["total"] })).resolve ⟨"total", "order.amount"⟩ =
        .ok (.path ["order", "amount"]) ∧
      ¬ (nested ["item"] (root { exposed := some ["total"] })).Guarded ["total"]
        ⟨"total", "order.amount"⟩ := by
  have hexposed : (nested ["item"] (root { exposed := some ["total"] })).context.exposed =
      some ["total"] := rfl
  have hpath : (nested ["item"] (root { exposed := some ["total"] })).resolve
      ⟨"total", "order.amount"⟩ = .ok (.path ["order", "amount"]) := by
    decide +kernel
  refine ⟨(restriction_guards_paths_iff hexposed _).2.2.2 rfl, hpath, fun hguarded => ?_⟩
  obtain ⟨hname, htarget, hbound, hnamed, _⟩ :=
    ((restriction_guards_paths_iff hexposed _).1 _).1 hpath
  have hmem := ((restriction_guards_paths_iff hexposed _).2.2.1.1 hguarded hname htarget
    hbound).1 hnamed
  revert hmem
  decide +kernel

-- Under a name that is not exposed, an exposed path is refused.
example : (root { exposed := some ["order"] }).resolve ⟨"total", "order.amount"⟩ =
    .error (.invalidReference "order.amount") := by
  decide +kernel

end Restriction

end Scope

end DocFilter
