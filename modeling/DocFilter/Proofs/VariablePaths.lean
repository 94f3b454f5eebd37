import DocFilter.Proofs.Bindings

/-!
# How much of a context a variable shows

A bound field resolves to a variable under every context, exposed or not.  Its
path is the path of the field, save for the first segment: if the context
exposes the field and stores the first segment under another name, this name
stands in its place (`asVariable_resolve`).  So two contexts give the same
variable exactly if they have the same name for the first segment, and the
variable has the path of the field exactly if this name is the segment itself.
-/

namespace DocFilter

namespace Path

/-- Only its own first segment in front of what follows it gives the path back. -/
theorem append_tail_eq_self_iff {head path : String} :
    head ++ tail path = path ↔ head = root path := by
  constructor
  · intro h
    have hroot : head ++ tail path = root path ++ tail path :=
      h.trans (root_append_tail path).symm
    exact (String.append_left_inj _).1 hroot
  · rintro rfl
    exact root_append_tail path

end Path

namespace Reference

theorem raw_ofPath (path : String) : (ofPath path).raw = path :=
  Path.join_split path

/-- The path does not depend on what its first segment is taken for. -/
theorem raw_toVariable (r : Reference) : r.toVariable.raw = r.raw := by
  rcases r with (_ | ⟨s, ss⟩) | ⟨name, segments⟩
  · simp [toVariable, raw, Path.join, Path.joinChars]
  · rfl
  · rfl

theorem raw_toVariable_ofPath (path : String) : (ofPath path).toVariable.raw = path := by
  rw [raw_toVariable, raw_ofPath]

theorem toVariable_ofPath_inj {p q : String} :
    (ofPath p).toVariable = (ofPath q).toVariable ↔ p = q := by
  constructor
  · intro h
    rw [← raw_toVariable_ofPath p, h, raw_toVariable_ofPath]
  · rintro rfl
    rfl

end Reference

namespace Context

variable (c : Context) (f : Field)

/-- What stands in the path of a variable for the first segment of a bound field. -/
def storedHead : String :=
  (c.renamed? f).getD f.rootSegment

variable {c f}

theorem mapPath_eq_storedHead (h : c.exposes f = true) :
    c.mapPath f.target = c.storedHead f ++ Path.tail f.target := by
  rw [storedHead, renamed?, if_pos h, mapPath, Field.rootSegment]
  cases Assoc.get? (Path.root f.target) c.mappings with
  | none =>
      rw [Option.getD_none, Path.root_append_tail]
  | some stored =>
      rfl

theorem target_eq_storedHead (h : c.exposes f = false) :
    f.target = c.storedHead f ++ Path.tail f.target := by
  rw [storedHead, renamed?, if_neg (by simp [h]), Option.getD_none, Field.rootSegment,
    Path.root_append_tail]

end Context

namespace Scope

section Answers

variable {c c' : Context} {f : Field}

/-- An answer of the context, turned into a variable, has the path of the field with the stored
name in front. -/
theorem asVariable_resolve (hname : f.name ≠ "") (htarget : f.target ≠ "") :
    asVariable f.target (c.resolve f) =
      .ok (Reference.ofPath (c.storedHead f ++ Path.tail f.target)).toVariable := by
  have hempty : ¬ (f.name.isEmpty || f.target.isEmpty) = true := by
    simp [String.isEmpty_iff, hname, htarget]
  rw [Context.resolve, if_neg hempty]
  cases hexposes : c.exposes f with
  | true =>
      rw [← Context.mapPath_eq_storedHead hexposes]
      rfl
  | false =>
      rw [← Context.target_eq_storedHead hexposes]
      rfl

theorem resolveName_eq (s : Scope) (name : String) :
    s.resolveName name = asVariable name (s.context.resolve (.ofName name)) := by
  induction s with
  | root c =>
      rfl
  | nested names s ih =>
      rw [resolveName, ih, asVariable_asVariable]
      rfl

/-- Two references that two contexts give for one field are variables.  They are the same exactly
if the contexts have the same name for the first segment of the path, and the first has the path of
the field exactly if its context leaves this segment as it is. -/
structure VariablesOf (c c' : Context) (f : Field) (r r' : Reference) : Prop where
  isVariable : r.isVariable = true ∧ r'.isVariable = true
  same_iff : r = r' ↔ c.storedHead f = c'.storedHead f
  raw_iff : r.raw = f.target ↔ c.storedHead f = f.rootSegment

theorem exists_variablesOf (c c' : Context) (hname : f.name ≠ "") (htarget : f.target ≠ "") :
    ∃ r r', asVariable f.target (c.resolve f) = .ok r ∧
      asVariable f.target (c'.resolve f) = .ok r' ∧ VariablesOf c c' f r r' := by
  have hr := asVariable_resolve (c := c) hname htarget
  have hr' := asVariable_resolve (c := c') hname htarget
  refine ⟨_, _, hr, hr', ⟨isVariable_of_asVariable hr, isVariable_of_asVariable hr'⟩, ?_, ?_⟩
  · rw [Reference.toVariable_ofPath_inj, String.append_left_inj]
  · rw [Reference.raw_toVariable_ofPath, Path.append_tail_eq_self_iff, Field.rootSegment]

end Answers

section Variables

/-- **How variables depend on the context.**  A field that is bound under two contexts resolves to a
variable under both, and so does every name; and all that can tell the two variables apart is the
name that the contexts have for the first segment of the path. -/
theorem variables_agree_iff_stored_alike (s t : Scope) :
    (∀ f : Field, s.Bound f → t.Bound f → f.name ≠ "" → f.target ≠ "" →
        ∃ r r', s.resolve f = .ok r ∧ t.resolve f = .ok r' ∧
          VariablesOf s.context t.context f r r') ∧
      ∀ name, name ≠ "" → ∃ r r', s.resolveName name = .ok r ∧ t.resolveName name = .ok r' ∧
        VariablesOf s.context t.context (.ofName name) r r' := by
  constructor
  · intro f hs ht hname htarget
    rw [resolve_of_bound hs, resolve_of_bound ht]
    exact exists_variablesOf _ _ hname htarget
  · intro name hname
    rw [resolveName_eq, resolveName_eq]
    exact exists_variablesOf _ _ hname hname

/-- A context that stores the bound items elsewhere gives variables of its own. -/
theorem variables_agree_iff_stored_alike_elsewhere :
    (nested ["items"] (root { mappings := [("items", "stored")] })).Bound (.ofName "items.qty") ∧
      (nested ["items"] (root {})).Bound (.ofName "items.qty") ∧
      (∃ r r', (nested ["items"] (root { mappings := [("items", "stored")] })).resolve
            (.ofName "items.qty") = .ok r ∧
          (nested ["items"] (root {})).resolve (.ofName "items.qty") = .ok r' ∧
          r.raw ≠ "items.qty" ∧ r ≠ r') ∧
      ∃ r r', (nested ["items"] (root { mappings := [("items", "stored")] })).resolveName
            "items" = .ok r ∧
          (nested ["items"] (root {})).resolveName "items" = .ok r' ∧
          r.raw ≠ "items" ∧ r ≠ r' := by
  have hs : (nested ["items"] (root { mappings := [("items", "stored")] })).Bound
      (.ofName "items.qty") := Or.inl (by decide +kernel)
  have ht : (nested ["items"] (root {})).Bound (.ofName "items.qty") :=
    Or.inl (by decide +kernel)
  obtain ⟨hfields, hnames⟩ :=
    variables_agree_iff_stored_alike (nested ["items"] (root { mappings := [("items", "stored")] }))
      (nested ["items"] (root {}))
  obtain ⟨r, r', hr, hr', hfield⟩ := hfields _ hs ht (by decide) (by decide)
  obtain ⟨q, q', hq, hq', hnamed⟩ := hnames "items" (by decide)
  refine ⟨hs, ht, ⟨r, r', hr, hr', fun h => ?_, fun h => ?_⟩, q, q', hq, hq', fun h => ?_,
    fun h => ?_⟩
  · exact absurd (hfield.raw_iff.1 h) (by decide +kernel)
  · exact absurd (hfield.same_iff.1 h) (by decide +kernel)
  · exact absurd (hnamed.raw_iff.1 h) (by decide +kernel)
  · exact absurd (hnamed.same_iff.1 h) (by decide +kernel)

end Variables

end Scope

end DocFilter
