import DocFilter.Proofs.OrderedMap
import DocFilter.Reference.Scope
import Mathlib.Data.List.TakeWhile

/-!
# The variables that a scope refers to

A field that is bound on the chain of scopes resolves to a variable.  The
variable gets its name from the path that the context answers, and this path
is the stored one: the name that is bound appears in it only as far as the
context left the first segment of the field alone.

Resolution is first brought into a flat form, in which only the names bound on
the whole chain count (`resolve_eq`).  From this form the variable is read off.
-/

namespace DocFilter

namespace Path

section Roots

/-- What precedes the first dot of a text is not changed by a tail, which is empty or begins with a
dot. -/
theorem takeWhile_append_dropWhile_dot (stored cs : List Char) :
    (stored ++ cs.dropWhile (· != '.')).takeWhile (· != '.') = stored.takeWhile (· != '.') := by
  induction stored with
  | nil =>
      cases hdrop : cs.dropWhile (· != '.') with
      | nil =>
          rfl
      | cons c rest =>
          have hc : (c != '.') = false := by
            have hhead := List.head?_dropWhile_not (· != '.') cs
            simpa [hdrop] using hhead
          simp [hc]
  | cons c rest ih =>
      by_cases hc : c = '.'
      · simp [hc]
      · simp [hc, ih]

theorem root_append_tail_of (stored path : String) : root (stored ++ tail path) = root stored := by
  rw [root, root, tail, String.toList_append, String.toList_ofList,
    takeWhile_append_dropWhile_dot]

theorem splitChars_eq_cons (cs : List Char) :
    ∃ ss, splitChars cs = cs.takeWhile (· != '.') :: ss := by
  induction cs with
  | nil =>
      exact ⟨[], rfl⟩
  | cons c rest ih =>
      by_cases hc : c = '.'
      · exact ⟨splitChars rest, by simp [splitChars, hc]⟩
      · obtain ⟨ss, hss⟩ := ih
        exact ⟨ss, by simp [splitChars, hc, hss]⟩

/-- The first segment of a path is its root. -/
theorem split_eq_cons (path : String) : ∃ ss, split path = root path :: ss := by
  obtain ⟨ss, hss⟩ := splitChars_eq_cons path.toList
  exact ⟨ss.map String.ofList, by rw [split, hss, List.map_cons, root]⟩

theorem root_eq_self {path : String} (h : '.' ∉ path.toList) : root path = path := by
  have hall : path.toList.takeWhile (· != '.') = path.toList := by
    refine List.takeWhile_eq_self_iff.2 fun c hc => ?_
    have hne : c ≠ '.' := fun he => h (he ▸ hc)
    simpa using hne
  rw [root, hall, String.ofList_toList]

end Roots

end Path

namespace Reference

/-- The first segment of a path becomes the name of the variable. -/
theorem toVariable_ofPath (path : String) :
    ∃ segments, (ofPath path).toVariable = .variable (Path.root path) segments := by
  obtain ⟨ss, hss⟩ := Path.split_eq_cons path
  exact ⟨ss, by rw [ofPath, hss, toVariable]⟩

theorem toVariable_toVariable (r : Reference) : r.toVariable.toVariable = r.toVariable := by
  rcases r with (_ | ⟨s, ss⟩) | ⟨name, segments⟩ <;> rfl

end Reference

namespace Context

variable (c : Context) (f : Field)

/-- The name under which the context stores the first segment of a field, if it stores it under
another name than its own. -/
def renamed? : Option String :=
  if c.exposes f then Assoc.get? f.rootSegment c.mappings else none

/-- The first segment of the path under which a field is stored. -/
def storedRoot : String :=
  match c.renamed? f with
  | some stored => Path.root stored
  | none => f.rootSegment

variable {c f}

theorem root_mapPath (h : c.exposes f = true) :
    Path.root (c.mapPath f.target) = c.storedRoot f := by
  rw [storedRoot, renamed?, if_pos h, mapPath, Field.rootSegment]
  cases Assoc.get? (Path.root f.target) c.mappings with
  | none =>
      rfl
  | some stored =>
      exact Path.root_append_tail_of stored f.target

theorem storedRoot_of_not_exposes (h : c.exposes f = false) : c.storedRoot f = f.rootSegment := by
  rw [storedRoot, renamed?, if_neg (by simp [h])]

/-- A context answers a path, and never a variable. -/
theorem isVariable_of_resolve {r : Reference} (h : c.resolve f = .ok r) : r.isVariable = false := by
  unfold resolve at h
  split at h
  · cases h
  · split at h
    · cases h
      rfl
    · cases h

end Context

namespace Scope

section Names

/-- The names bound by a scope and by those around it. -/
def boundNames : Scope → List String
  | .root _ => []
  | .nested names parent => names ++ parent.boundNames

@[simp] theorem boundNames_root (c : Context) : (root c).boundNames = [] :=
  rfl

@[simp] theorem boundNames_nested (names : List String) (s : Scope) :
    (nested names s).boundNames = names ++ s.boundNames :=
  rfl

@[simp] theorem binds_nil (f : Field) : binds [] f = false := by
  simp [binds]

theorem binds_append (xs ys : List String) (f : Field) :
    binds (xs ++ ys) f = (binds xs f || binds ys f) := by
  rw [Bool.eq_iff_iff]
  simp only [binds, Bool.or_eq_true, Bool.and_eq_true, List.contains_iff_mem, List.mem_append]
  tauto

/-- A bound field whose name is its path begins with a bound name. -/
theorem rootSegment_mem_of_binds {names : List String} {f : Field}
    (hdots : ∀ b ∈ names, '.' ∉ b.toList) (hplain : f.name = f.target)
    (h : binds names f = true) : f.rootSegment ∈ names := by
  rw [binds, Bool.or_eq_true, Bool.and_eq_true, List.contains_iff_mem, List.contains_iff_mem] at h
  rcases h with hname | ⟨_, hroot⟩
  · have hdot : '.' ∉ f.target.toList := hplain ▸ hdots f.name hname
    rw [Field.rootSegment, Path.root_eq_self hdot, ← hplain]
    exact hname
  · exact hroot

end Names

section Answers

theorem asVariable_asVariable (path : String) (r : Except ResolveError Reference) :
    asVariable path (asVariable path r) = asVariable path r := by
  cases r with
  | ok r =>
      exact congrArg Except.ok (Reference.toVariable_toVariable r)
  | error e =>
      cases e with
      | invalidReference target =>
          exact congrArg Except.ok (Reference.toVariable_toVariable (.ofPath path))
      | emptyField =>
          rfl

/-- Only the names bound on the whole chain count, and not which scope binds them. -/
theorem resolve_eq (s : Scope) (f : Field) :
    s.resolve f =
      if binds s.boundNames f then asVariable f.target (s.context.resolve f)
      else s.context.resolve f := by
  induction s with
  | root c =>
      simp [resolve, context]
  | nested names s ih =>
      rw [resolve, ih, boundNames_nested, binds_append, context]
      cases binds names f with
      | false =>
          simp
      | true =>
          cases binds s.boundNames f with
          | false =>
              simp
          | true =>
              simp [asVariable_asVariable]

/-- A variable is named after the stored path. -/
theorem variable_eq_storedRoot {c : Context} {f : Field} {x : String} {segments : List String}
    (h : asVariable f.target (c.resolve f) = .ok (.variable x segments)) : x = c.storedRoot f := by
  have hname : ∀ path, (Reference.ofPath path).toVariable = .variable x segments →
      x = Path.root path := by
    intro path hpath
    obtain ⟨ss, hss⟩ := Reference.toVariable_ofPath path
    rw [hss] at hpath
    cases hpath
    rfl
  unfold Context.resolve at h
  split at h
  · cases h
  · split at h
    · next hexposes =>
        rw [← Context.root_mapPath hexposes]
        exact hname _ (Except.ok.inj h)
    · next hexposes =>
        rw [Context.storedRoot_of_not_exposes (Bool.eq_false_iff.2 hexposes)]
        exact hname _ (Except.ok.inj h)

end Answers

section Variables

variable {s : Scope} {f : Field} {x : String} {segments : List String}

/-- **When a variable that a field resolves to is in scope.**  It is named after the first segment
under which the context stores the field.  If the context renames this segment, the name that it
gives has to be bound, too.  If not, the variable is in scope except for a field that is bound under
its name only and reads a path that begins with no bound name. -/
theorem variable_in_scope_iff (hdots : ∀ b ∈ s.boundNames, '.' ∉ b.toList)
    (h : s.resolve f = .ok (.variable x segments)) :
    x = s.context.storedRoot f ∧
      (x ∈ s.boundNames ↔
        (∃ stored, s.context.renamed? f = some stored ∧ Path.root stored ∈ s.boundNames) ∨
          (s.context.renamed? f = none ∧ (f.name = f.target ∨ f.rootSegment ∈ s.boundNames))) := by
  rw [resolve_eq] at h
  split at h
  · next hbinds =>
      have hx := variable_eq_storedRoot h
      refine ⟨hx, ?_⟩
      rw [hx, Context.storedRoot]
      cases hrenamed : s.context.renamed? f with
      | some stored =>
          simp
      | none =>
          have hplain : f.name = f.target → f.rootSegment ∈ s.boundNames :=
            fun hname => rootSegment_mem_of_binds hdots hname hbinds
          simp only [reduceCtorEq, false_and, exists_false, false_or, true_and]
          exact ⟨Or.inr, fun hor => hor.elim hplain id⟩
  · have hpath := Context.isVariable_of_resolve h
    cases hpath

/-- A bound item that is stored elsewhere becomes a variable that no scope binds. -/
theorem variable_in_scope_iff_stored_elsewhere :
    (∀ b ∈ (nested ["items"] (root { mappings := [("items", "stored")] })).boundNames,
        '.' ∉ b.toList) ∧
      (nested ["items"] (root { mappings := [("items", "stored")] })).resolve
        (.ofName "items.qty") = .ok (.variable "stored" ["qty"]) ∧
      "stored" ∉ (nested ["items"] (root { mappings := [("items", "stored")] })).boundNames := by
  have hdots : ∀ b ∈ (nested ["items"] (root { mappings := [("items", "stored")] })).boundNames,
      '.' ∉ b.toList := by
    decide +kernel
  have hresolve : (nested ["items"] (root { mappings := [("items", "stored")] })).resolve
      (.ofName "items.qty") = .ok (.variable "stored" ["qty"]) := by
    decide +kernel
  have hrenamed : (root { mappings := [("items", "stored")] }).context.renamed?
      (.ofName "items.qty") = some "stored" := by
    decide +kernel
  refine ⟨hdots, hresolve, fun hmem => ?_⟩
  rcases (variable_in_scope_iff hdots hresolve).2.1 hmem with ⟨stored, hstored, hroot⟩ | ⟨hnone, _⟩
  · cases hrenamed.symm.trans hstored
    revert hroot
    decide +kernel
  · cases hrenamed.symm.trans hnone

-- Bound under its name only, an item becomes the variable that its path begins with.
example : (nested ["item"] (root {})).resolve ⟨"item", "order.lines"⟩ =
    .ok (.variable "order" ["lines"]) := by
  decide +kernel

end Variables

end Scope

end DocFilter
