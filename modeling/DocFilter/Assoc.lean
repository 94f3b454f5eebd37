/-!
# Insertion-ordered maps

A map is the list of its entries in the order in which their keys were first put.  Putting a key
again replaces the value where it stands.  No operation changes the order of other entries.

Two views describe a map: the value of each key, and the list of its keys.  The lemmas say what
every operation does to either, and that keys stay distinct.
-/

namespace DocFilter
namespace Assoc

universe u v

variable {κ : Type u} {α : Type v} [DecidableEq κ]

/-- The value of a key. -/
def get? (k : κ) : List (κ × α) → Option α
  | [] => none
  | (k', v) :: rest => if k' = k then some v else get? k rest

/-- Is the key present? -/
def contains (k : κ) (xs : List (κ × α)) : Bool :=
  (get? k xs).isSome

/-- Gives a key a value, in its place if it is present and at the end if not. -/
def put (k : κ) (v : α) : List (κ × α) → List (κ × α)
  | [] => [(k, v)]
  | (k', v') :: rest => if k' = k then (k', v) :: rest else (k', v') :: put k v rest

/-- Removes a key. -/
def erase (k : κ) : List (κ × α) → List (κ × α)
  | [] => []
  | (k', v) :: rest => if k' = k then rest else (k', v) :: erase k rest

/-- Changes the value of a key, which may be absent before or after, and gives the value that it
had.  A value that is changed stays in its place, and one that is added comes last. -/
def alter (k : κ) (change : Option α → Option α) : List (κ × α) → Option α × List (κ × α)
  | [] => (none, ((change none).map (k, ·)).toList)
  | (k', v) :: rest =>
      if k' = k then
        match change (some v) with
        | some w => (some v, (k', w) :: rest)
        | none => (some v, rest)
      else
        let (old, rest) := alter k change rest
        (old, (k', v) :: rest)

/-- Puts a list of entries one after the other. -/
def putAll (xs : List (κ × α)) (new : List (κ × α)) : List (κ × α) :=
  new.foldl (fun acc e => put e.1 e.2 acc) xs

/-- The map that a list of entries makes when they are put one after the other. -/
def ofList (xs : List (κ × α)) : List (κ × α) :=
  putAll [] xs

/-- The keys in order. -/
def keys (xs : List (κ × α)) : List κ :=
  xs.map Prod.fst

section Lookup

@[simp] theorem get?_nil (k : κ) : get? k ([] : List (κ × α)) = none := rfl

theorem get?_cons (k : κ) (e : κ × α) (rest : List (κ × α)) :
    get? k (e :: rest) = if e.1 = k then some e.2 else get? k rest := rfl

/-- A key has no value exactly when it is not among the keys. -/
theorem get?_eq_none_iff (k : κ) (xs : List (κ × α)) :
    get? k xs = none ↔ k ∉ keys xs := by
  induction xs with
  | nil =>
      simp [keys]
  | cons e rest ih =>
      simp only [keys] at ih
      by_cases h : e.1 = k
      · simp [get?_cons, keys, h]
      · have hne : ¬ k = e.1 := fun hk => h hk.symm
        simp [get?_cons, keys, h, hne, ih]

theorem get?_put_self (k : κ) (v : α) (xs : List (κ × α)) :
    get? k (put k v xs) = some v := by
  induction xs with
  | nil =>
      simp [put, get?]
  | cons e rest ih =>
      by_cases h : e.1 = k
      · simp [put, get?, h]
      · simp [put, get?, h, ih]

theorem get?_put_of_ne {k l : κ} (h : k ≠ l) (v : α) (xs : List (κ × α)) :
    get? l (put k v xs) = get? l xs := by
  induction xs with
  | nil =>
      simp [put, get?, h]
  | cons e rest ih =>
      by_cases hk : e.1 = k
      · have hl : e.1 ≠ l := fun hl => h (hk.symm.trans hl)
        simp [put, get?, hk, h]
      · simp [put, get?, hk, ih]

/-- Changing a key puts or erases it, by what becomes of the value that it had. -/
theorem alter_eq (k : κ) (change : Option α → Option α) (xs : List (κ × α)) :
    alter k change xs =
      (get? k xs, match change (get? k xs) with
        | some v => put k v xs
        | none => erase k xs) := by
  induction xs with
  | nil =>
      cases h : change none <;> simp [alter, put, erase, h]
  | cons e rest ih =>
      by_cases he : e.1 = k
      · cases h : change (some e.2) <;> simp [alter, get?_cons, put, erase, he, h]
      · cases h : change (get? k rest) <;> simp [alter, get?_cons, put, erase, he, ih, h]

theorem get?_erase_of_ne {k l : κ} (h : k ≠ l) (xs : List (κ × α)) :
    get? l (erase k xs) = get? l xs := by
  induction xs with
  | nil =>
      rfl
  | cons e rest ih =>
      by_cases hk : e.1 = k
      · simp [erase, get?, hk, h]
      · simp [erase, get?, hk, ih]

end Lookup

section Keys

/-- A key that is present keeps its place, and a new one comes last. -/
theorem keys_put (k : κ) (v : α) (xs : List (κ × α)) :
    keys (put k v xs) = if k ∈ keys xs then keys xs else keys xs ++ [k] := by
  induction xs with
  | nil =>
      simp [put, keys]
  | cons e rest ih =>
      simp only [keys] at ih
      by_cases h : e.1 = k
      · simp [put, keys, h]
      · have hne : ¬ k = e.1 := fun hk => h hk.symm
        by_cases hm : k ∈ rest.map Prod.fst
        · simp [put, keys, h, ih, hm]
        · simp [put, keys, h, hne, ih, hm]

/-- Removing a key keeps the order of the others. -/
theorem keys_erase (k : κ) (xs : List (κ × α)) :
    keys (erase k xs) = (keys xs).erase k := by
  induction xs with
  | nil =>
      rfl
  | cons e rest ih =>
      simp only [keys] at ih
      by_cases h : e.1 = k
      · simp [erase, keys, h]
      · simp [erase, keys, h, ih]

theorem nodup_keys_put (k : κ) (v : α) {xs : List (κ × α)} (h : (keys xs).Nodup) :
    (keys (put k v xs)).Nodup := by
  rw [keys_put]
  split
  · exact h
  · rename_i hk
    refine List.nodup_append.2 ⟨h, by simp, ?_⟩
    intro a ha b hb hab
    have hbk : b = k := by
      simpa using hb
    exact hk (hbk ▸ hab ▸ ha)

theorem nodup_keys_erase (k : κ) {xs : List (κ × α)} (h : (keys xs).Nodup) :
    (keys (erase k xs)).Nodup := by
  rw [keys_erase]
  exact h.erase k

theorem nodup_keys_putAll (new : List (κ × α)) {xs : List (κ × α)} (h : (keys xs).Nodup) :
    (keys (putAll xs new)).Nodup := by
  induction new generalizing xs with
  | nil =>
      exact h
  | cons e rest ih =>
      exact ih (nodup_keys_put e.1 e.2 h)

/-- Putting entries one after the other never repeats a key. -/
theorem nodup_keys_ofList (xs : List (κ × α)) : (keys (ofList xs)).Nodup :=
  nodup_keys_putAll xs (by simp [keys])

/-- In a map with distinct keys a removed key has no value. -/
theorem get?_erase_self (k : κ) {xs : List (κ × α)} (h : (keys xs).Nodup) :
    get? k (erase k xs) = none := by
  rw [get?_eq_none_iff, keys_erase]
  exact h.not_mem_erase

end Keys

end Assoc
end DocFilter
