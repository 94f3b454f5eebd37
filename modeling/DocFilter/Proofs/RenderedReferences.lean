import DocFilter.Proofs.ExposedFields
import DocFilter.Proofs.VariablePaths

/-!
# What the text of a reference tells

A path is written after one dollar sign and a variable after two, and only the
text goes to the server.  The two are told apart as long as no path begins with
a dollar sign of its own.  Neither fields nor mappings are held to that, so the
text of a path may be that of a variable (`Mimics`).

This is the only way for two references to share a text (`text_eq_iff`), and it
takes a field that is not bound and whose first segment is stored under a name
that begins with a dollar sign (`two_dollar_signs_mark_variables_iff`).
-/

namespace DocFilter

namespace Path

/-- The path begins with a dollar sign. -/
def BeginsWithDollar (path : String) : Prop :=
  ['$'] <+: path.toList

instance (path : String) : Decidable (BeginsWithDollar path) :=
  inferInstanceAs (Decidable (['$'] <+: path.toList))

theorem beginsWithDollar_iff {path : String} :
    BeginsWithDollar path ↔ ∃ rest, path = "$" ++ rest := by
  constructor
  · rintro ⟨cs, hcs⟩
    refine ⟨String.ofList cs, ?_⟩
    rw [← String.toList_inj, String.toList_append, ← hcs, String.toList_ofList (l := cs)]
    rfl
  · rintro ⟨rest, rfl⟩
    exact ⟨rest.toList, by rw [String.toList_append]; rfl⟩

/-- What follows the first segment of a path is empty or begins with a dot, so the first segment
decides. -/
theorem beginsWithDollar_append_tail {head path : String} :
    BeginsWithDollar (head ++ tail path) ↔ BeginsWithDollar head := by
  rw [BeginsWithDollar, BeginsWithDollar, String.toList_append, tail, String.toList_ofList]
  cases hhead : head.toList with
  | nil =>
      rw [List.nil_append]
      refine iff_of_false ?_ (by simp)
      rintro ⟨cs, hcs⟩
      have hdot := List.head?_dropWhile_not (· != '.') path.toList
      rw [← hcs] at hdot
      simp at hdot
  | cons c rest =>
      rw [List.cons_append, List.cons_prefix_cons, List.cons_prefix_cons]
      simp

end Path

namespace Reference

open DocFilter.Path (BeginsWithDollar)

/-- The text begins like that of a variable. -/
def ReadsAsVariable (text : String) : Prop :=
  ['$', '$'] <+: text.toList

instance (text : String) : Decidable (ReadsAsVariable text) :=
  inferInstanceAs (Decidable (['$', '$'] <+: text.toList))

/-- A reference to a path with a dollar sign in front, and the variable that is written alike. -/
def Mimics (r r' : Reference) : Prop :=
  ∃ path, r = .ofPath ("$" ++ path) ∧ r' = (Reference.ofPath path).toVariable

variable {r r' : Reference} {path path' : String}

theorem isVariable_toVariable (r : Reference) : r.toVariable.isVariable = true := by
  rcases r with (_ | ⟨s, ss⟩) | ⟨name, segments⟩ <;> rfl

theorem text_ofPath (path : String) : (ofPath path).text = "$" ++ path := by
  rw [text, raw_ofPath]
  rfl

theorem text_toVariable_ofPath (path : String) : (ofPath path).toVariable.text = "$$" ++ path := by
  rw [text, raw_toVariable_ofPath, isVariable_toVariable]
  rfl

theorem ofPath_inj : ofPath path = ofPath path' ↔ path = path' := by
  constructor
  · intro h
    rw [← raw_ofPath path, h, raw_ofPath]
  · rintro rfl
    rfl

theorem readsAsVariable_text_ofPath :
    ReadsAsVariable (ofPath path).text ↔ BeginsWithDollar path := by
  rw [text_ofPath, ReadsAsVariable, BeginsWithDollar, String.toList_append]
  exact List.cons_prefix_cons.trans (and_iff_right rfl)

theorem readsAsVariable_text_toVariable :
    ReadsAsVariable (ofPath path).toVariable.text := by
  rw [text_toVariable_ofPath, ReadsAsVariable, String.toList_append]
  exact List.prefix_append _ _

theorem Mimics.text_eq (h : r.Mimics r') : r.text = r'.text := by
  obtain ⟨path, rfl, rfl⟩ := h
  rw [text_ofPath, text_toVariable_ofPath, ← String.append_assoc]
  rfl

theorem Mimics.ne (h : r.Mimics r') : r ≠ r' := by
  rintro rfl
  obtain ⟨path, hpath, hvariable⟩ := h
  have hkind : r.isVariable = true := by rw [hvariable, isVariable_toVariable]
  rw [hpath] at hkind
  cases hkind

theorem mimics_of_text_eq (h : (ofPath path).text = (ofPath path').toVariable.text) :
    (ofPath path).Mimics (ofPath path').toVariable := by
  rw [text_ofPath, text_toVariable_ofPath, show "$$" ++ path' = "$" ++ ("$" ++ path') by
    rw [← String.append_assoc]; rfl, String.append_right_inj] at h
  exact ⟨path', by rw [h], rfl⟩

end Reference

namespace Context

variable (c : Context) (f : Field)

/-- The path of a field with its first segment as it is stored. -/
def storedPath : String :=
  c.storedHead f ++ Path.tail f.target

end Context

namespace Scope

open DocFilter.Path (BeginsWithDollar)
open Reference (ReadsAsVariable Mimics)

section Answers

variable {s t : Scope} {f g : Field} {r q : Reference}

/-- What a field resolves to is the stored path, or the variable that it begins with. -/
theorem eq_storedPath_of_resolve (h : s.resolve f = .ok r) :
    s.Bound f ∧ r = (Reference.ofPath (s.context.storedPath f)).toVariable ∨
      ¬ s.Bound f ∧ r = .ofPath (s.context.storedPath f) := by
  by_cases hbound : s.Bound f
  · have hnonempty : ¬ (f.name = "" ∨ f.target = "") := by
      intro hempty
      rw [resolve_of_bound hbound] at h
      have herror := asVariable_resolve_eq_error_iff (c := s.context).2 ⟨rfl, hempty⟩
      cases h.symm.trans herror
    obtain ⟨hname, htarget⟩ := not_or.1 hnonempty
    rw [resolve_of_bound hbound, asVariable_resolve hname htarget] at h
    exact Or.inl ⟨hbound, (Except.ok.inj h).symm⟩
  · rw [resolve_of_not_bound hbound, Context.resolve_eq_ok_iff] at h
    obtain ⟨_, _, hexposes, rfl⟩ := h
    rw [Context.mapPath_eq_storedHead hexposes]
    exact Or.inr ⟨hbound, rfl⟩

/-- Two fields resolve to references with one text only if these are the same, or if one is a path
that mimics the other. -/
theorem text_eq_iff (hr : s.resolve f = .ok r) (hq : t.resolve g = .ok q) :
    r.text = q.text ↔ r = q ∨ r.Mimics q ∨ q.Mimics r := by
  constructor
  · intro h
    rcases eq_storedPath_of_resolve hr with ⟨_, rfl⟩ | ⟨_, rfl⟩
    · rcases eq_storedPath_of_resolve hq with ⟨_, rfl⟩ | ⟨_, rfl⟩
      · rw [Reference.text_toVariable_ofPath, Reference.text_toVariable_ofPath,
          String.append_right_inj] at h
        exact Or.inl (by rw [h])
      · exact Or.inr (Or.inr (Reference.mimics_of_text_eq h.symm))
    · rcases eq_storedPath_of_resolve hq with ⟨_, rfl⟩ | ⟨_, rfl⟩
      · exact Or.inr (Or.inl (Reference.mimics_of_text_eq h))
      · rw [Reference.text_ofPath, Reference.text_ofPath, String.append_right_inj] at h
        exact Or.inl (by rw [h])
  · rintro (rfl | h | h)
    · rfl
    · exact h.text_eq
    · exact h.text_eq.symm

/-- A path that mimics a variable is that of a field which is not bound and which is stored under a
name that begins with a dollar sign. -/
theorem beginsWithDollar_of_mimics (hr : s.resolve f = .ok r) (h : r.Mimics q) :
    ¬ s.Bound f ∧ BeginsWithDollar (s.context.storedHead f) := by
  obtain ⟨path, hpath, _⟩ := h
  rcases eq_storedPath_of_resolve hr with ⟨_, rfl⟩ | ⟨hbound, rfl⟩
  · have hkind := Reference.isVariable_toVariable (.ofPath (s.context.storedPath f))
    rw [hpath] at hkind
    cases hkind
  · rw [Reference.ofPath_inj, Context.storedPath] at hpath
    refine ⟨hbound, Path.beginsWithDollar_append_tail.1 (Path.beginsWithDollar_iff.2 ⟨path, hpath⟩)⟩

end Answers

section Texts

variable {s : Scope} {f : Field} {r : Reference}

/-- **When two dollar signs mark a variable.**  The text of every variable begins with two dollar
signs, and so does that of a path whose first segment is stored under a name with a dollar sign in
front.  So the text tells whether a field resolved to a variable exactly if the field is bound or is
stored under no such name; and two references that share their text are the same, unless one of
them is such a path and the other is the variable that it mimics. -/
theorem two_dollar_signs_mark_variables_iff (h : s.resolve f = .ok r) :
    r.toValue = .string r.text ∧
      (ReadsAsVariable r.text ↔
        r.isVariable = true ∨ BeginsWithDollar (s.context.storedHead f)) ∧
      ((ReadsAsVariable r.text ↔ r.isVariable = true) ↔
        s.Bound f ∨ ¬ BeginsWithDollar (s.context.storedHead f)) ∧
      ∀ (t : Scope) g q, t.resolve g = .ok q →
        ((r.text = q.text → r = q) ↔ ¬ r.Mimics q ∧ ¬ q.Mimics r) ∧
          (r.Mimics q → ¬ s.Bound f ∧ BeginsWithDollar (s.context.storedHead f)) ∧
          (q.Mimics r → ¬ t.Bound g ∧ BeginsWithDollar (t.context.storedHead g)) := by
  have hreads : ReadsAsVariable r.text ↔
      r.isVariable = true ∨ BeginsWithDollar (s.context.storedHead f) := by
    rcases eq_storedPath_of_resolve h with ⟨_, rfl⟩ | ⟨_, rfl⟩
    · exact iff_of_true Reference.readsAsVariable_text_toVariable
        (Or.inl (Reference.isVariable_toVariable _))
    · rw [Reference.readsAsVariable_text_ofPath, Context.storedPath,
        Path.beginsWithDollar_append_tail]
      exact (or_iff_right (by simp [Reference.ofPath, Reference.isVariable])).symm
  refine ⟨rfl, hreads, ?_, ?_⟩
  · rw [hreads, isVariable_iff_bound h]
    tauto
  · intro t g q hq
    refine ⟨?_, beginsWithDollar_of_mimics h, beginsWithDollar_of_mimics hq⟩
    rw [text_eq_iff h hq]
    constructor
    · intro heq
      constructor
      · intro hmimics
        exact hmimics.ne (heq (Or.inr (Or.inl hmimics)))
      · intro hmimics
        exact hmimics.ne (heq (Or.inr (Or.inr hmimics))).symm
    · rintro ⟨hr, hq⟩ (heq | hmimics | hmimics)
      · exact heq
      · exact absurd hmimics hr
      · exact absurd hmimics hq

/-- A field named with a dollar sign in front is not bound and resolves to a path, but it is written
like the bound items. -/
theorem two_dollar_signs_mark_variables_iff_mimicked :
    (nested ["items"] (root {})).resolve (.ofName "$items") = .ok (.path ["$items"]) ∧
      (nested ["items"] (root {})).resolve (.ofName "items") = .ok (.variable "items" []) ∧
      ReadsAsVariable (Reference.path ["$items"]).text ∧
      ¬ (ReadsAsVariable (Reference.path ["$items"]).text ↔
        (Reference.path ["$items"]).isVariable = true) ∧
      ¬ ((Reference.path ["$items"]).text = (Reference.variable "items" []).text →
        Reference.path ["$items"] = .variable "items" []) := by
  have hpath : (nested ["items"] (root {})).resolve (.ofName "$items") =
      .ok (.path ["$items"]) := by
    decide +kernel
  have hvariable : (nested ["items"] (root {})).resolve (.ofName "items") =
      .ok (.variable "items" []) := by
    decide +kernel
  have hdollar : BeginsWithDollar
      ((nested ["items"] (root {})).context.storedHead (.ofName "$items")) := by
    decide +kernel
  have hbound : ¬ (nested ["items"] (root {})).Bound (.ofName "$items") := by
    rw [bound_iff]
    decide +kernel
  have hmimics : (Reference.path ["$items"]).Mimics (.variable "items" []) := by
    refine ⟨"items", ?_, ?_⟩ <;> decide +kernel
  obtain ⟨_, hreads, htold, htexts⟩ := two_dollar_signs_mark_variables_iff hpath
  refine ⟨hpath, hvariable, hreads.2 (Or.inr hdollar), fun h => ?_, fun h => ?_⟩
  · exact (htold.1 h).elim hbound (fun hplain => hplain hdollar)
  · exact ((htexts _ _ _ hvariable).1.1 h).1 hmimics

-- A mapping to such a name has the same effect on a field that is spelled without dollar signs.
example : (nested ["items"] (root { mappings := [("qty", "$items")] })).resolve
    (.ofName "qty.sum") = .ok (.path ["$items", "sum"]) := by
  decide +kernel

end Texts

end Scope

end DocFilter
