/-!
# Dotted paths

A dotted path is a text whose segments are separated by dots.  Segments may be empty, and every
text has at least one, so splitting and joining undo each other.
-/

namespace DocFilter
namespace Path

/-- The segments of a path, as lists of characters. -/
def splitChars : List Char → List (List Char)
  | [] => [[]]
  | c :: cs =>
      if c = '.' then [] :: splitChars cs
      else
        match splitChars cs with
        | [] => [[c]]
        | s :: ss => (c :: s) :: ss

/-- Segments with dots between them. -/
def joinChars : List (List Char) → List Char
  | [] => []
  | [s] => s
  | s :: ss => s ++ '.' :: joinChars ss

/-- The segments of a path. -/
def split (path : String) : List String :=
  (splitChars path.toList).map String.ofList

/-- The path of segments. -/
def join (segments : List String) : String :=
  String.ofList (joinChars (segments.map String.toList))

/-- The first segment of a path. -/
def root (path : String) : String :=
  String.ofList (path.toList.takeWhile (· != '.'))

/-- What follows the first segment of a path, with the dot in front. -/
def tail (path : String) : String :=
  String.ofList (path.toList.dropWhile (· != '.'))

/-- Does the path have more than one segment? -/
def isDotted (path : String) : Bool :=
  path.toList.contains '.'

section Segments

theorem splitChars_ne_nil (cs : List Char) : splitChars cs ≠ [] := by
  cases cs with
  | nil =>
      simp [splitChars]
  | cons c rest =>
      simp only [splitChars]
      split
      · simp
      · split <;> simp

/-- A first character that is no dot belongs to the first segment of the rest. -/
theorem splitChars_cons_of_ne {c : Char} (h : c ≠ '.') (cs : List Char) :
    ∃ s ss, splitChars cs = s :: ss ∧ splitChars (c :: cs) = (c :: s) :: ss := by
  cases hs : splitChars cs with
  | nil =>
      exact absurd hs (splitChars_ne_nil cs)
  | cons s ss =>
      exact ⟨s, ss, rfl, by simp [splitChars, h, hs]⟩

theorem splitChars_eq_splitOn (cs : List Char) : splitChars cs = cs.splitOn '.' := by
  induction cs with
  | nil =>
      rfl
  | cons c rest ih =>
      rw [List.splitOn_cons_eq_if_modifyHead, ← ih]
      by_cases hc : c = '.'
      · simp [splitChars, hc]
      · obtain ⟨s, ss, hrest, hcons⟩ := splitChars_cons_of_ne hc rest
        simp [hcons, hrest, hc]

theorem joinChars_eq_intercalate (ss : List (List Char)) :
    joinChars ss = ['.'].intercalate ss := by
  fun_induction joinChars ss with
  | case1 =>
      rfl
  | case2 s =>
      simp
  | case3 s ss hne ih =>
      rw [ih, List.intercalate_cons_of_ne_nil hne, List.append_assoc]
      rfl

/-- The segments, joined again, are the path. -/
theorem joinChars_splitChars (cs : List Char) : joinChars (splitChars cs) = cs := by
  rw [joinChars_eq_intercalate, splitChars_eq_splitOn, List.intercalate_splitOn]

/-- No segment holds a dot. -/
theorem not_mem_of_mem_splitChars {cs s : List Char} (h : s ∈ splitChars cs) : '.' ∉ s := by
  induction cs generalizing s with
  | nil =>
      have hs : s = [] := by
        simpa [splitChars] using h
      simp [hs]
  | cons c rest ih =>
      by_cases hc : c = '.'
      · subst hc
        rcases (by simpa [splitChars] using h : s = [] ∨ s ∈ splitChars rest) with rfl | hm
        · simp
        · exact ih hm
      · obtain ⟨t, ts, hrest, hcons⟩ := splitChars_cons_of_ne hc rest
        rw [hcons] at h
        rcases List.mem_cons.1 h with rfl | hm
        · have ht : '.' ∉ t := ih (by rw [hrest]; exact List.mem_cons_self)
          have hne : ¬ '.' = c := fun hd => hc hd.symm
          simp [hne, ht]
        · exact ih (by rw [hrest]; exact List.mem_cons_of_mem t hm)

/-- The segments, joined again, are the path. -/
theorem join_split (path : String) : join (split path) = path := by
  simp [join, split, Function.comp_def, joinChars_splitChars]

/-- A path is its first segment and what follows it. -/
theorem root_append_tail (path : String) : root path ++ tail path = path := by
  rw [root, tail, ← String.ofList_append, List.takeWhile_append_dropWhile, String.ofList_toList]

end Segments

end Path
end DocFilter
