import DocFilter.Assoc
import Mathlib.Data.List.Forall2
import Mathlib.Data.List.Induction
import Mathlib.Data.List.Nodup

/-!
# Insertion-ordered maps as lists

This module adds to the two views of an insertion-ordered map, its values by
key and its list of keys, a third one: where an entry stands in the list.

* A new key is appended and a present one is replaced where it stands
  (`put_of_notMem`, `put_append_cons`).
* With distinct keys, lookup and membership of entries are the same thing
  (`get?_eq_some_iff`).
* Entries with new and distinct keys are simply appended (`putAll_eq_append`).
* Of entries with one key the first gives the place and the last the value
  (`keys_putAll`, `get?_putAll_reverse`), so what comes of putting entries can
  be told from the list of them (`accumulated_putAll`).

The second part compares two maps entry by entry.  Maps are *aligned* along a
relation of values if they have the same keys in the same order and related
values; lookup and putting respect alignment.
-/

namespace DocFilter
namespace Assoc

universe u v w

variable {κ : Type u} {α : Type v} [DecidableEq κ]

section Keys

omit [DecidableEq κ] in
@[simp] theorem keys_nil : keys ([] : List (κ × α)) = [] := rfl

omit [DecidableEq κ] in
@[simp] theorem keys_cons (e : κ × α) (xs : List (κ × α)) : keys (e :: xs) = e.1 :: keys xs := rfl

omit [DecidableEq κ] in
@[simp] theorem keys_append (xs ys : List (κ × α)) : keys (xs ++ ys) = keys xs ++ keys ys :=
  List.map_append

omit [DecidableEq κ] in
theorem length_keys (xs : List (κ × α)) : (keys xs).length = xs.length :=
  List.length_map _

omit [DecidableEq κ] in
theorem mem_keys_of_mem {e : κ × α} {xs : List (κ × α)} (h : e ∈ xs) : e.1 ∈ keys xs :=
  List.mem_map_of_mem h

omit [DecidableEq κ] in
theorem exists_mem_of_mem_keys {k : κ} {xs : List (κ × α)} (h : k ∈ keys xs) :
    ∃ v, (k, v) ∈ xs := by
  obtain ⟨⟨k', v⟩, hm, rfl⟩ := List.mem_map.1 h
  exact ⟨v, hm⟩

omit [DecidableEq κ] in
/-- With distinct keys, that of an entry does not occur before it. -/
theorem notMem_keys_of_nodup {e : κ × α} {xs ys : List (κ × α)}
    (h : (keys (xs ++ e :: ys)).Nodup) : e.1 ∉ keys xs := by
  rw [keys_append, keys_cons] at h
  intro hmem
  exact (List.nodup_append.1 h).2.2 e.1 hmem e.1 List.mem_cons_self rfl

/-- A present key splits the list at its first entry. -/
theorem exists_split_of_mem_keys {k : κ} {xs : List (κ × α)} (h : k ∈ keys xs) :
    ∃ ys v zs, xs = ys ++ (k, v) :: zs ∧ k ∉ keys ys := by
  induction xs with
  | nil =>
      simp at h
  | cons e rest ih =>
      by_cases he : e.1 = k
      · exact ⟨[], e.2, rest, by rw [← he, List.nil_append], by simp⟩
      · have hr : k ∈ keys rest := by
          rcases List.mem_cons.1 h with hk | hk
          · exact absurd hk.symm he
          · exact hk
        obtain ⟨ys, v, zs, rfl, hys⟩ := ih hr
        refine ⟨e :: ys, v, zs, rfl, ?_⟩
        rintro hm
        rcases List.mem_cons.1 hm with hk | hk
        · exact he hk.symm
        · exact hys hk

end Keys

section Placement

theorem put_of_notMem {k : κ} (v : α) {xs : List (κ × α)} (h : k ∉ keys xs) :
    put k v xs = xs ++ [(k, v)] := by
  induction xs with
  | nil =>
      rfl
  | cons e rest ih =>
      have hne : e.1 ≠ k := fun he => h (by simp [he])
      have hr : k ∉ keys rest := fun hm => h (List.mem_cons_of_mem _ hm)
      simp [put, hne, ih hr]

theorem erase_of_notMem {k : κ} {xs : List (κ × α)} (h : k ∉ keys xs) : erase k xs = xs := by
  induction xs with
  | nil =>
      rfl
  | cons e rest ih =>
      have hne : e.1 ≠ k := fun he => h (by simp [he])
      have hr : k ∉ keys rest := fun hm => h (List.mem_cons_of_mem _ hm)
      simp [erase, hne, ih hr]

theorem put_append_cons {k : κ} (v w : α) {xs : List (κ × α)} (ys : List (κ × α))
    (h : k ∉ keys xs) : put k v (xs ++ (k, w) :: ys) = xs ++ (k, v) :: ys := by
  induction xs with
  | nil =>
      simp [put]
  | cons e rest ih =>
      have hne : e.1 ≠ k := fun he => h (by simp [he])
      have hr : k ∉ keys rest := fun hm => h (List.mem_cons_of_mem _ hm)
      simp [put, hne, ih hr]

/-- Of two values put under one key the second counts. -/
theorem put_put (k : κ) (v w : α) (xs : List (κ × α)) : put k w (put k v xs) = put k w xs := by
  induction xs with
  | nil =>
      simp [put]
  | cons e rest ih =>
      by_cases he : e.1 = k
      · simp [put, he]
      · simp [put, he, ih]

/-- An entry after putting has the value put, or it was there before. -/
theorem eq_or_mem_of_mem_put {k : κ} {v : α} {e : κ × α} {xs : List (κ × α)}
    (h : e ∈ put k v xs) : e.2 = v ∨ e ∈ xs := by
  by_cases hk : k ∈ keys xs
  · obtain ⟨ys, w, zs, rfl, hys⟩ := exists_split_of_mem_keys hk
    rw [put_append_cons v w zs hys] at h
    rcases List.mem_append.1 h with hm | hm
    · exact Or.inr (List.mem_append_left _ hm)
    · rcases List.mem_cons.1 hm with rfl | hm
      · exact Or.inl rfl
      · exact Or.inr (List.mem_append_right _ (List.mem_cons_of_mem _ hm))
  · rw [put_of_notMem v hk] at h
    rcases List.mem_append.1 h with hm | hm
    · exact Or.inr hm
    · rw [List.mem_singleton.1 hm]
      exact Or.inl rfl

/-- Putting a key keeps the entry of another key, and what is behind it or what is before it. -/
theorem exists_put_append_cons {k l : κ} (hkl : k ≠ l) (v w : α) (xs ys : List (κ × α)) :
    ∃ xs' ys', put k v (xs ++ (l, w) :: ys) = xs' ++ (l, w) :: ys' ∧
      (ys' = ys ∨ ys' = put k v ys) := by
  induction xs with
  | nil =>
      exact ⟨[], put k v ys, by simp [put, hkl.symm], Or.inr rfl⟩
  | cons e rest ih =>
      by_cases he : e.1 = k
      · exact ⟨(e.1, v) :: rest, ys, by simp [put, he], Or.inl rfl⟩
      · obtain ⟨xs', ys', hput, hys⟩ := ih
        exact ⟨e :: xs', ys', by simp [put, he, hput], hys⟩

/-- Entries with new and distinct keys are appended as they are. -/
theorem putAll_eq_append {xs ys : List (κ × α)} (h : (keys (xs ++ ys)).Nodup) :
    putAll xs ys = xs ++ ys := by
  induction ys generalizing xs with
  | nil =>
      simp [putAll]
  | cons e rest ih =>
      have hsplit : xs ++ e :: rest = (xs ++ [e]) ++ rest := by simp
      have hput : put e.1 e.2 xs = xs ++ [e] := put_of_notMem e.2 (notMem_keys_of_nodup h)
      rw [hsplit] at h ⊢
      rw [← ih h, ← hput]
      rfl

end Placement

section Lookup

theorem mem_of_get?_eq_some {k : κ} {v : α} {xs : List (κ × α)} (h : get? k xs = some v) :
    (k, v) ∈ xs := by
  induction xs with
  | nil =>
      simp at h
  | cons e rest ih =>
      rw [get?_cons] at h
      split at h
      · rename_i he
        have hv : e.2 = v := by simpa using h
        rw [← he, ← hv]
        exact List.mem_cons_self
      · exact List.mem_cons_of_mem _ (ih h)

/-- The first entry of a key splits the list where lookup finds its value. -/
theorem exists_split_of_get?_eq_some {k : κ} {v : α} {xs : List (κ × α)} (h : get? k xs = some v) :
    ∃ ys zs, xs = ys ++ (k, v) :: zs ∧ k ∉ keys ys := by
  obtain ⟨ys, w, zs, rfl, hys⟩ :=
    exists_split_of_mem_keys (mem_keys_of_mem (mem_of_get?_eq_some h))
  have hget := get?_put_self k w (ys ++ (k, w) :: zs)
  rw [put_append_cons w w zs hys, h] at hget
  obtain rfl := Option.some.inj hget
  exact ⟨ys, zs, rfl, hys⟩

/-- With distinct keys an entry is what lookup finds under its key. -/
theorem get?_eq_some_iff {xs : List (κ × α)} (h : (keys xs).Nodup) {k : κ} {v : α} :
    get? k xs = some v ↔ (k, v) ∈ xs := by
  refine ⟨mem_of_get?_eq_some, fun hm => ?_⟩
  induction xs with
  | nil =>
      simp at hm
  | cons e rest ih =>
      obtain ⟨he, hr⟩ := List.nodup_cons.1 h
      rcases List.mem_cons.1 hm with rfl | hm
      · simp [get?_cons]
      · have hne : e.1 ≠ k := by
          intro hk
          rw [hk] at he
          exact he (mem_keys_of_mem hm)
        rw [get?_cons, if_neg hne]
        exact ih hr hm

/-- Of a key that occurs on both sides, the new value counts. -/
theorem get?_putAll {xs ys : List (κ × α)} (h : (keys ys).Nodup) (k : κ) :
    get? k (putAll xs ys) = (get? k ys).or (get? k xs) := by
  induction ys generalizing xs with
  | nil =>
      rfl
  | cons e rest ih =>
      obtain ⟨he, hr⟩ := List.nodup_cons.1 h
      have hstep : putAll xs (e :: rest) = putAll (put e.1 e.2 xs) rest := rfl
      rw [hstep, ih hr, get?_cons]
      by_cases hk : e.1 = k
      · have hnone : get? k rest = none := (get?_eq_none_iff k rest).2 (hk ▸ he)
        rw [if_pos hk, hnone, ← hk, get?_put_self]
        rfl
      · rw [if_neg hk, get?_put_of_ne hk]

/-- The entries after putting are the new ones and those whose key is not among the new. -/
theorem mem_putAll_iff {xs ys : List (κ × α)} (hxs : (keys xs).Nodup) (hys : (keys ys).Nodup)
    {e : κ × α} : e ∈ putAll xs ys ↔ e ∈ ys ∨ e.1 ∉ keys ys ∧ e ∈ xs := by
  have hget : ∀ zs : List (κ × α), (keys zs).Nodup → (get? e.1 zs = some e.2 ↔ e ∈ zs) :=
    fun zs hzs => get?_eq_some_iff hzs
  rw [← hget _ (nodup_keys_putAll ys hxs), get?_putAll hys, Option.or_eq_some_iff, hget ys hys,
    get?_eq_none_iff, hget xs hxs]

theorem ofList_concat (xs : List (κ × α)) (e : κ × α) :
    ofList (xs ++ [e]) = put e.1 e.2 (ofList xs) := by
  simp [ofList, putAll]

theorem putAll_concat (xs ys : List (κ × α)) (e : κ × α) :
    putAll xs (ys ++ [e]) = put e.1 e.2 (putAll xs ys) := by
  simp [putAll]

/-- The keys that were there keep their places, and new ones follow in the order of their first
entries. -/
theorem keys_putAll (xs ys : List (κ × α)) :
    keys (putAll xs ys) = keys xs ++ (keys ys).eraseDups.filter (· ∉ keys xs) := by
  induction ys using List.reverseRecOn with
  | nil =>
      simp [putAll]
  | append_singleton ys e ih =>
      rw [putAll_concat, keys_put, ih, keys_append, List.eraseDups_append]
      by_cases hxs : e.1 ∈ keys xs
      · by_cases hys : e.1 ∈ keys ys <;> simp [hxs, hys, List.removeAll, List.eraseDups_cons]
      · by_cases hys : e.1 ∈ keys ys <;> simp [hxs, hys, List.removeAll, List.eraseDups_cons]

/-- Of several new entries with one key the last gives the value. -/
theorem get?_putAll_reverse (k : κ) (xs ys : List (κ × α)) :
    get? k (putAll xs ys) = (get? k ys.reverse).or (get? k xs) := by
  induction ys using List.reverseRecOn with
  | nil =>
      rfl
  | append_singleton ys e ih =>
      rw [putAll_concat, List.reverse_concat, get?_cons]
      by_cases h : e.1 = k
      · rw [if_pos h, ← h, get?_put_self, Option.some_or]
      · rw [if_neg h, get?_put_of_ne h, ih]

theorem get?_putAll_of_notMem {k : κ} {xs ys : List (κ × α)} (h : k ∉ keys ys) :
    get? k (putAll xs ys) = get? k xs := by
  have hnone : get? k ys.reverse = none := by
    rw [get?_eq_none_iff, keys, List.map_reverse, List.mem_reverse]
    exact h
  rw [get?_putAll_reverse, hnone, Option.none_or]

theorem keys_ofList (xs : List (κ × α)) : keys (ofList xs) = (keys xs).eraseDups := by
  rw [ofList, keys_putAll]
  simp

theorem get?_ofList (k : κ) (xs : List (κ × α)) : get? k (ofList xs) = get? k xs.reverse := by
  rw [ofList, get?_putAll_reverse, get?_nil, Option.or_none]

/-- Lookup under renamed keys. -/
theorem get?_map {κ' : Type w} [DecidableEq κ'] {β : Type*} {f : κ → κ'}
    (hf : Function.Injective f) (g : α → β) (k : κ) (xs : List (κ × α)) :
    get? (f k) (xs.map fun e => (f e.1, g e.2)) = (get? k xs).map g := by
  induction xs with
  | nil =>
      rfl
  | cons e rest ih =>
      rw [List.map_cons, get?_cons, get?_cons, ih]
      by_cases he : e.1 = k
      · rw [if_pos he, if_pos (congrArg f he), Option.map_some]
      · rw [if_neg he, if_neg (fun h => he (hf h))]

/-- Only the entries of a key count for its lookup. -/
theorem get?_filter (k : κ) (xs : List (κ × α)) :
    get? k (xs.filter fun e => e.1 = k) = get? k xs := by
  induction xs with
  | nil =>
      rfl
  | cons e rest ih =>
      by_cases he : e.1 = k
      · rw [List.filter_cons_of_pos (by simpa using he), get?_cons, get?_cons, if_pos he, if_pos he]
      · rw [List.filter_cons_of_neg (by simpa using he), get?_cons, if_neg he, ih]

/-- What comes of a map when entries are put one after the other. -/
structure Accumulated (xs new ys : List (κ × α)) : Prop where
  /-- The last entry with a key gives its value. -/
  last : ∀ front k v back, new = front ++ (k, v) :: back → k ∉ keys back → get? k ys = some v
  /-- Other keys have the values that they had. -/
  kept : ∀ k, k ∉ keys new → get? k ys = get? k xs
  /-- Present keys stay in their places, and new ones follow in the order of their first
  entries. -/
  placed : keys ys = keys xs ++ (keys new).eraseDups.filter (· ∉ keys xs)

theorem accumulated_putAll (xs new : List (κ × α)) : Accumulated xs new (putAll xs new) where
  last := by
    rintro front k v back rfl hlast
    have hsplit : putAll xs (front ++ (k, v) :: back) =
        putAll (put k v (putAll xs front)) back := by
      simp [putAll]
    rw [hsplit, get?_putAll_of_notMem hlast, get?_put_self]
  kept _ hk := get?_putAll_of_notMem hk
  placed := keys_putAll xs new

theorem length_put (k : κ) (v : α) (xs : List (κ × α)) :
    (put k v xs).length = if k ∈ keys xs then xs.length else xs.length + 1 := by
  rw [← length_keys, keys_put]
  split
  · exact length_keys xs
  · rw [List.length_append, length_keys, List.length_singleton]

end Lookup

section Alignment

variable {β : Type w}

/-- Two maps have the same keys in the same order, and related values. -/
def Aligned (R : α → β → Prop) (xs : List (κ × α)) (ys : List (κ × β)) : Prop :=
  List.Forall₂ (fun e f => e.1 = f.1 ∧ R e.2 f.2) xs ys

variable {R : α → β → Prop} {xs : List (κ × α)} {ys : List (κ × β)}

omit [DecidableEq κ] in
/-- Each entry of one map has a partner in the other. -/
theorem Aligned.exists_of_mem (h : Aligned R xs ys) {e : κ × α} (he : e ∈ xs) :
    ∃ f ∈ ys, e.1 = f.1 ∧ R e.2 f.2 := by
  induction h with
  | nil =>
      simp at he
  | @cons e' f xs ys hef _ ih =>
      rcases List.mem_cons.1 he with rfl | he
      · exact ⟨f, List.mem_cons_self, hef⟩
      · obtain ⟨f', hf', hr⟩ := ih he
        exact ⟨f', List.mem_cons_of_mem _ hf', hr⟩

theorem Aligned.put (h : Aligned R xs ys) (k : κ) {v : α} {w : β} (hvw : R v w) :
    Aligned R (put k v xs) (put k w ys) := by
  induction h with
  | nil =>
      exact .cons ⟨rfl, hvw⟩ .nil
  | @cons e f xs ys he ht ih =>
      by_cases hk : e.1 = k
      · have hf : f.1 = k := he.1.symm.trans hk
        simp only [Assoc.put, hk, hf, if_true]
        exact .cons ⟨rfl, hvw⟩ ht
      · have hf : f.1 ≠ k := fun hf => hk (he.1.trans hf)
        simp only [Assoc.put, hk, hf, if_false]
        exact .cons he ih

theorem Aligned.putAll (h : Aligned R xs ys) {xs' : List (κ × α)} {ys' : List (κ × β)}
    (h' : Aligned R xs' ys') : Aligned R (putAll xs xs') (putAll ys ys') := by
  induction h' generalizing xs ys with
  | nil =>
      exact h
  | @cons e f xs' ys' he _ ih =>
      have hput : Aligned R (Assoc.put e.1 e.2 xs) (Assoc.put f.1 f.2 ys) := by
        rw [← he.1]
        exact h.put e.1 he.2
      exact ih hput

/-- Aligned maps have related values under each key, or none. -/
theorem Aligned.get? (h : Aligned R xs ys) (k : κ) :
    (get? k xs = none ∧ get? k ys = none) ∨
      ∃ v w, get? k xs = some v ∧ get? k ys = some w ∧ R v w := by
  induction h with
  | nil =>
      exact Or.inl ⟨rfl, rfl⟩
  | @cons e f xs ys he _ ih =>
      by_cases hk : e.1 = k
      · have hf : f.1 = k := he.1.symm.trans hk
        exact Or.inr ⟨e.2, f.2, by simp [get?_cons, hk], by simp [get?_cons, hf], he.2⟩
      · have hf : f.1 ≠ k := fun hf => hk (he.1.trans hf)
        simpa [get?_cons, hk, hf] using ih

end Alignment

end Assoc
end DocFilter
