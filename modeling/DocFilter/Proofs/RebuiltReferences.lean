import DocFilter.Proofs.RenderedReferences

/-!
# References put together again

A dotted path is split at its dots, and segments are joined with dots between
them.  Every text can be split, and joining gives it back.  Segments that are
joined can be told apart again only if there is one at least and none of them
holds a dot (`Path.split_join_iff`).

A reference consists of segments, of which a variable takes the first as its
name.  So its kind and its path give it back under the same condition, and its
text in any case (`references_rebuild_iff_undotted`).
-/

namespace DocFilter

namespace Path

section Joining

variable {path s : String} {segments : List String}

theorem split_ne_nil (path : String) : split path ≠ [] := by
  obtain ⟨ss, hss⟩ := split_eq_cons path
  rw [hss]
  exact List.cons_ne_nil _ _

theorem not_mem_of_mem_split (h : s ∈ split path) : '.' ∉ s.toList := by
  obtain ⟨cs, hcs, rfl⟩ := List.mem_map.1 h
  rw [String.toList_ofList]
  exact not_mem_of_mem_splitChars hcs

/-- Segments are told apart in their path exactly if there is one and none holds a dot. -/
theorem split_join_iff :
    split (join segments) = segments ↔ segments ≠ [] ∧ ∀ s ∈ segments, '.' ∉ s.toList := by
  constructor
  · intro h
    rw [← h]
    exact ⟨split_ne_nil _, fun s => not_mem_of_mem_split⟩
  · rintro ⟨hne, hundotted⟩
    have hchars : splitChars (joinChars (segments.map String.toList)) =
        segments.map String.toList := by
      rw [joinChars_eq_intercalate, splitChars_eq_splitOn]
      exact List.splitOn_intercalate '.' (List.forall_mem_map.2 hundotted) (by simpa using hne)
    rw [split, join, String.toList_ofList, hchars, List.map_map]
    simp [Function.comp_def]

end Joining

end Path

namespace Reference

/-- The segments of the dotted path.  A variable is named by the first one. -/
def segments : Reference → List String
  | .path segments => segments
  | .variable name segments => name :: segments

/-- The reference of the same kind to the dotted path. -/
def rebuilt (r : Reference) : Reference :=
  if r.isVariable then (ofPath r.raw).toVariable else ofPath r.raw

variable {path name : String} {ss : List String}

theorem raw_eq_join_segments (r : Reference) : r.raw = Path.join r.segments := by
  cases r <;> rfl

theorem toVariable_ofPath_eq_iff :
    (ofPath path).toVariable = .variable name ss ↔ Path.split path = name :: ss := by
  obtain ⟨rest, hrest⟩ := Path.split_eq_cons path
  rw [ofPath, hrest, toVariable, Reference.variable.injEq, List.cons.injEq]

/-- A reference is given back by its kind and its path exactly if its segments are by the path. -/
theorem rebuilt_eq_self_iff (r : Reference) :
    r.rebuilt = r ↔ r.segments ≠ [] ∧ ∀ s ∈ r.segments, '.' ∉ s.toList := by
  rw [← Path.split_join_iff, ← raw_eq_join_segments]
  rcases r with ss | ⟨name, ss⟩
  · exact (Reference.path.injEq ..).to_iff
  · exact toVariable_ofPath_eq_iff

theorem text_rebuilt (r : Reference) : r.rebuilt.text = r.text := by
  rcases r with ss | ⟨name, ss⟩
  · exact text_ofPath _
  · exact text_toVariable_ofPath _

/-- **Paths and references convert without loss.**  The reference to a path, also taken as that to a
variable, has this path; its segments hold no dot, and the first one is the first segment of the
path.  Taking a reference as a variable twice is the same as once.  A reference is given back by its
kind and its path exactly if it has a segment, which a variable always has, and no segment holds a
dot; otherwise what is made from them still has the same text. -/
theorem references_rebuild_iff_undotted :
    (∀ path : String, (ofPath path).raw = path ∧ (ofPath path).toVariable.raw = path ∧
        (ofPath path).segments.head? = some (Path.root path) ∧
        ∀ s ∈ (ofPath path).segments, '.' ∉ s.toList) ∧
      ∀ r : Reference, r.toVariable.toVariable = r.toVariable ∧
        (r.rebuilt = r ↔ r.segments ≠ [] ∧ ∀ s ∈ r.segments, '.' ∉ s.toList) ∧
        r.rebuilt.text = r.text := by
  refine ⟨fun path => ⟨raw_ofPath path, raw_toVariable_ofPath path, ?_, ?_⟩, fun r => ?_⟩
  · obtain ⟨ss, hss⟩ := Path.split_eq_cons path
    rw [ofPath, segments, hss, List.head?_cons]
  · exact fun s => Path.not_mem_of_mem_split
  · exact ⟨toVariable_toVariable r, rebuilt_eq_self_iff r, text_rebuilt r⟩

/-- Empty segments are kept wherever they stand.  A dotted name of a variable is not: what is made
from its path has the name's first segment as name, and is written alike. -/
theorem references_rebuild_iff_undotted_empty :
    (ofPath ".a..").raw = ".a.." ∧ (ofPath ".a..").segments = ["", "a", "", ""] ∧
      (Reference.variable "" ["a", ""]).rebuilt = .variable "" ["a", ""] ∧
      (Reference.variable "a.b" []).rebuilt = .variable "a" ["b"] ∧
      (Reference.variable "a.b" []).rebuilt.text = (Reference.variable "a.b" []).text ∧
      (Reference.path []).rebuilt ≠ .path [] := by
  obtain ⟨hpaths, hreferences⟩ := references_rebuild_iff_undotted
  refine ⟨(hpaths _).1, by decide +kernel, (hreferences _).2.1.2 (by decide +kernel),
    by decide +kernel, (hreferences _).2.2, fun h => ?_⟩
  exact ((hreferences _).2.1.1 h).1 rfl

end Reference

end DocFilter
