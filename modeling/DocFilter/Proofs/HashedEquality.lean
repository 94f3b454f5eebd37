import DocFilter.Proofs.Equality
import DocFilter.Value.HashData

/-!
# Equality and hash data of values

Equality of values is an equivalence, and equal values feed the same data to a
hash function.

`LawfulAt` states these laws as seen from one member.  That makes them closed
under pairs, lists and constructors, so that all of them follow from a single
induction over values.  Documents need two facts of their own: with distinct
keys they are equal exactly if they have the same keys with equal values
(`Document.same_iff_get?`), and sorting by key forgets the order of entries
(`HashData.sortEntries_eq_of_perm`).
-/

namespace DocFilter

section Laws

variable {α β δ ε : Type}

/-- Among the members of `P` and as seen from `a`, the relation `R` is an equivalence, and related
members give the same data. -/
structure LawfulAt (P : α → Prop) (R : α → α → Prop) (data : α → δ) (a : α) : Prop where
  refl : R a a
  symm : ∀ b, P b → R a b → R b a
  trans : ∀ b c, P b → P c → R a b → R b c → R a c
  data_eq : ∀ b, P b → R a b → data a = data b

variable {P : α → Prop} {R : α → α → Prop} {data : α → δ} {a : α}
variable {P' : β → Prop} {R' : β → β → Prop} {data' : β → ε} {b : β}

/-- What is related to nothing but itself obeys the laws. -/
theorem lawfulAt_of_eq (h : ∀ b, R a b ↔ a = b) : LawfulAt P R data a where
  refl := (h a).2 rfl
  symm b _ hab := by
    obtain rfl := (h b).1 hab
    exact hab
  trans b c _ _ hab hbc := by
    obtain rfl := (h b).1 hab
    exact hbc
  data_eq b _ hab := by
    rw [(h b).1 hab]

/-- The laws of a view are those of what is viewed. -/
theorem LawfulAt.comap {f : α → β} (h : LawfulAt P' R' data' (f a)) {g : ε → δ}
    (hP : ∀ b, P b → P' (f b)) (hR : ∀ b c, R b c ↔ R' (f b) (f c))
    (hdata : ∀ b, data b = g (data' (f b))) : LawfulAt P R data a where
  refl := (hR a a).2 h.refl
  symm b hb hab := (hR b a).2 (h.symm (f b) (hP b hb) ((hR a b).1 hab))
  trans b c hb hc hab hbc :=
    (hR a c).2 (h.trans (f b) (f c) (hP b hb) (hP c hc) ((hR a b).1 hab) ((hR b c).1 hbc))
  data_eq b hb hab := by
    rw [hdata, hdata, h.data_eq (f b) (hP b hb) ((hR a b).1 hab)]

/-- The laws of what a constructor is given are those of what it makes. -/
theorem LawfulAt.of_constructor {c : β → α} (h : LawfulAt P' R' data' b) {g : ε → δ}
    (hP : ∀ y, P (c y) → P' y) (hR : ∀ y a, R (c y) a ↔ ∃ z, a = c z ∧ R' y z)
    (hdata : ∀ y, data (c y) = g (data' y)) : LawfulAt P R data (c b) where
  refl := (hR b _).2 ⟨b, rfl, h.refl⟩
  symm a ha hba := by
    obtain ⟨y, rfl, hy⟩ := (hR b a).1 hba
    exact (hR y _).2 ⟨b, rfl, h.symm y (hP y ha) hy⟩
  trans a a' ha ha' hba haa := by
    obtain ⟨y, rfl, hy⟩ := (hR b a).1 hba
    obtain ⟨z, rfl, hz⟩ := (hR y a').1 haa
    exact (hR b _).2 ⟨z, rfl, h.trans y z (hP y ha) (hP z ha') hy hz⟩
  data_eq a ha hba := by
    obtain ⟨y, rfl, hy⟩ := (hR b a).1 hba
    rw [hdata, hdata, h.data_eq y (hP y ha) hy]

theorem LawfulAt.prod (h : LawfulAt P R data a) (h' : LawfulAt P' R' data' b) :
    LawfulAt (fun x => P x.1 ∧ P' x.2) (fun x y => R x.1 y.1 ∧ R' x.2 y.2)
      (fun x => (data x.1, data' x.2)) (a, b) where
  refl := ⟨h.refl, h'.refl⟩
  symm x hx hax := ⟨h.symm x.1 hx.1 hax.1, h'.symm x.2 hx.2 hax.2⟩
  trans x y hx hy hax hxy :=
    ⟨h.trans x.1 y.1 hx.1 hy.1 hax.1 hxy.1, h'.trans x.2 y.2 hx.2 hy.2 hax.2 hxy.2⟩
  data_eq x hx hax := Prod.ext (h.data_eq x.1 hx.1 hax.1) (h'.data_eq x.2 hx.2 hax.2)

theorem LawfulAt.list {as : List α} (h : ∀ a ∈ as, LawfulAt P R data a) :
    LawfulAt (fun bs => ∀ b ∈ bs, P b) (List.Forall₂ R) (List.map data) as := by
  induction as with
  | nil =>
      refine ⟨.nil, ?_, ?_, ?_⟩
      · intro bs _ hbs
        cases hbs
        exact .nil
      · intro bs cs _ _ hbs hcs
        cases hbs
        exact hcs
      · intro bs _ hbs
        cases hbs
        rfl
  | cons a as ih =>
      obtain ⟨ha, has⟩ := List.forall_mem_cons.1 h
      have hrest := ih has
      refine ⟨.cons ha.refl hrest.refl, ?_, ?_, ?_⟩
      · intro bs hP hbs
        cases hbs with
        | cons hab habs =>
            obtain ⟨hb, hbs⟩ := List.forall_mem_cons.1 hP
            exact .cons (ha.symm _ hb hab) (hrest.symm _ hbs habs)
      · intro bs cs hP hP' hbs hcs
        cases hbs with
        | cons hab habs =>
            cases hcs with
            | cons hbc hbcs =>
                obtain ⟨hb, hbs⟩ := List.forall_mem_cons.1 hP
                obtain ⟨hc, hcs⟩ := List.forall_mem_cons.1 hP'
                exact .cons (ha.trans _ _ hb hc hab hbc) (hrest.trans _ _ hbs hcs habs hbcs)
      · intro bs hP hbs
        cases hbs with
        | cons hab habs =>
            obtain ⟨hb, hbs⟩ := List.forall_mem_cons.1 hP
            rw [List.map_cons, List.map_cons, ha.data_eq _ hb hab, hrest.data_eq _ hbs habs]

theorem LawfulAt.option {o : Option α} (h : ∀ a, o = some a → LawfulAt P R data a) :
    LawfulAt (fun o => ∀ b, o = some b → P b) (Option.Rel R) (Option.map data) o := by
  cases o with
  | none =>
      refine lawfulAt_of_eq fun p => ⟨fun hp => ?_, fun hp => ?_⟩
      · cases hp
        rfl
      · rw [← hp]
        exact .none
  | some a =>
      refine (h a rfl).of_constructor (fun b hb => hb b rfl) (fun b c => ?_) (fun b => rfl)
      constructor
      · intro hbc
        cases hbc with
        | some hbc => exact ⟨_, rfl, hbc⟩
      · rintro ⟨c, rfl, hbc⟩
        exact .some hbc

end Laws

section Sorting

namespace HashData

variable {k : String} {data : HashData} {xs ys : List (String × HashData)}

theorem insertSorted_perm (k : String) (data : HashData) (xs : List (String × HashData)) :
    (insertSorted k data xs).Perm ((k, data) :: xs) := by
  induction xs with
  | nil =>
      exact .refl _
  | cons e rest ih =>
      by_cases h : k ≤ e.1
      · simp [insertSorted, h]
      · rw [insertSorted, if_neg h]
        exact (ih.cons e).trans (.swap _ _ _)

theorem sortEntries_perm (xs : List (String × HashData)) : (sortEntries xs).Perm xs := by
  induction xs with
  | nil =>
      exact .refl _
  | cons e rest ih =>
      exact (insertSorted_perm e.1 e.2 _).trans (ih.cons e)

/-- The keys ascend. -/
def Ascending (xs : List (String × HashData)) : Prop :=
  xs.Pairwise fun e f => e.1 ≤ f.1

theorem Ascending.insertSorted (h : Ascending xs) : Ascending (insertSorted k data xs) := by
  induction xs with
  | nil =>
      exact List.pairwise_singleton _ _
  | cons e rest ih =>
      obtain ⟨he, hrest⟩ := List.pairwise_cons.1 h
      by_cases hk : k ≤ e.1
      · rw [HashData.insertSorted, if_pos hk]
        refine List.pairwise_cons.2 ⟨?_, h⟩
        intro f hf
        rcases List.mem_cons.1 hf with rfl | hf
        · exact hk
        · exact String.le_trans hk (he f hf)
      · rw [HashData.insertSorted, if_neg hk]
        refine List.pairwise_cons.2 ⟨?_, ih hrest⟩
        intro f hf
        rcases List.mem_cons.1 ((insertSorted_perm k data rest).mem_iff.1 hf) with rfl | hf
        · exact (String.le_total k e.1).resolve_left hk
        · exact he f hf

theorem ascending_sortEntries (xs : List (String × HashData)) : Ascending (sortEntries xs) := by
  induction xs with
  | nil =>
      exact List.Pairwise.nil
  | cons e rest ih =>
      exact Ascending.insertSorted ih

/-- With distinct keys, sorting by key forgets the order of entries. -/
theorem sortEntries_eq_of_perm (hnodup : (Assoc.keys xs).Nodup) (h : xs.Perm ys) :
    sortEntries xs = sortEntries ys := by
  have hperm : (sortEntries xs).Perm (sortEntries ys) :=
    (sortEntries_perm xs).trans (h.trans (sortEntries_perm ys).symm)
  refine hperm.eq_of_pairwise ?_ (ascending_sortEntries xs) (ascending_sortEntries ys)
  rintro ⟨k, x⟩ ⟨l, y⟩ hx hy hkl hlk
  -- entries of one key are one entry, so the order by keys is antisymmetric on these
  obtain rfl : k = l := String.le_antisymm hkl hlk
  have hx' : (k, x) ∈ xs := (sortEntries_perm xs).mem_iff.1 hx
  have hy' : (k, y) ∈ xs := h.mem_iff.2 ((sortEntries_perm ys).mem_iff.1 hy)
  have hget : Assoc.get? k xs = some x := (Assoc.get?_eq_some_iff hnodup).2 hx'
  rw [(Assoc.get?_eq_some_iff hnodup).2 hy'] at hget
  rw [Option.some.inj hget]

end HashData

end Sorting

section Values

theorem Value.hashItems_eq_map (vs : List Value) : hashItems vs = vs.map hashData := by
  induction vs with
  | nil => rfl
  | cons v vs ih => rw [hashItems, ih, List.map_cons]

theorem Document.hashEntries_eq_map (xs : List (String × Value)) :
    hashEntries xs = xs.map fun e => (e.1, e.2.hashData) := by
  induction xs with
  | nil => rfl
  | cons e rest ih => rw [hashEntries, ih, List.map_cons]

theorem Document.keys_hashEntries (xs : List (String × Value)) :
    Assoc.keys (hashEntries xs) = Assoc.keys xs := by
  rw [hashEntries_eq_map, Assoc.keys, List.map_map]
  rfl

/-- Documents with distinct keys are equal exactly if they have the same keys, and equal values
under each. -/
theorem Document.same_iff_get? {d e : Document} (hd : d.Distinct) (he : e.Distinct) :
    d.same e = true ↔ (∀ k, k ∈ d.keys ↔ k ∈ e.keys) ∧
      ∀ k v w, d.get? k = some v → e.get? k = some w → v.same w = true := by
  constructor
  · intro h
    refine ⟨mem_keys_iff_of_same hd h, ?_⟩
    intro k v w hv hw
    obtain ⟨w', hw', hsame⟩ := (same_iff.1 h).2 (k, v) (Assoc.mem_of_get?_eq_some hv)
    rw [hw'] at hw
    obtain rfl := Option.some.inj hw
    exact hsame
  · rintro ⟨hkeys, hvals⟩
    have hperm : d.keys.Perm e.keys := (List.perm_ext_iff_of_nodup hd he).2 hkeys
    refine same_iff.2 ⟨?_, ?_⟩
    · rw [← Assoc.length_keys, ← Assoc.length_keys]
      exact hperm.length_eq
    · intro x hx
      obtain ⟨w, hw⟩ := Assoc.exists_mem_of_mem_keys ((hkeys x.1).1 (Assoc.mem_keys_of_mem hx))
      have hget : e.get? x.1 = some w := (Assoc.get?_eq_some_iff he).2 hw
      exact ⟨w, hget, hvals x.1 x.2 w ((Assoc.get?_eq_some_iff hd).2 hx) hget⟩

/-- Entries of the same keys with the same data are the same entries. -/
theorem Document.hashEntries_subset {d e : Document} (hd : d.Distinct) (he : e.Distinct)
    (hkeys : ∀ k, k ∈ d.keys → k ∈ e.keys)
    (hvals : ∀ k v w, d.get? k = some v → e.get? k = some w → v.hashData = w.hashData) :
    hashEntries d.entries ⊆ hashEntries e.entries := by
  intro x hx
  rw [hashEntries_eq_map] at hx ⊢
  obtain ⟨⟨k, v⟩, hv, rfl⟩ := List.mem_map.1 hx
  obtain ⟨w, hw⟩ := Assoc.exists_mem_of_mem_keys (hkeys k (Assoc.mem_keys_of_mem hv))
  have hdata := hvals k v w ((Assoc.get?_eq_some_iff hd).2 hv) ((Assoc.get?_eq_some_iff he).2 hw)
  exact List.mem_map.2 ⟨(k, w), hw, by rw [hdata]⟩

theorem Document.hashData_eq {d e : Document} (hd : d.Distinct) (he : e.Distinct)
    (hkeys : ∀ k, k ∈ d.keys ↔ k ∈ e.keys)
    (hvals : ∀ k v w, d.get? k = some v → e.get? k = some w → v.hashData = w.hashData) :
    d.hashData = e.hashData := by
  have hnodup : ∀ f : Document, f.Distinct → (Assoc.keys (hashEntries f.entries)).Nodup := by
    intro f hf
    rw [keys_hashEntries]
    exact hf
  have hperm : (hashEntries d.entries).Perm (hashEntries e.entries) := by
    refine (List.perm_ext_iff_of_nodup (hnodup d hd).of_map (hnodup e he).of_map).2 fun x => ?_
    constructor
    · exact fun hx => hashEntries_subset hd he (fun k => (hkeys k).1) hvals hx
    · have hvals' : ∀ k v w, e.get? k = some v → d.get? k = some w → v.hashData = w.hashData :=
        fun k v w hv hw => (hvals k w v hw hv).symm
      exact fun hx => hashEntries_subset he hd (fun k => (hkeys k).2) hvals' hx
  obtain ⟨xs⟩ := d
  obtain ⟨ys⟩ := e
  rw [hashData, hashData, HashData.ofEntries, HashData.ofEntries,
    HashData.sortEntries_eq_of_perm (hnodup ⟨xs⟩ hd) hperm]

/-- Equality of values obeys the laws at a value. -/
abbrev Value.Lawful (v : Value) : Prop :=
  LawfulAt Value.Proper (fun v w => v.same w = true) Value.hashData v

/-- Equality of documents obeys the laws at a document. -/
abbrev Document.Lawful (d : Document) : Prop :=
  LawfulAt Document.Proper (fun d e => d.same e = true) Document.hashData d

/-- Documents inherit the laws from the values of their entries. -/
theorem Document.lawful_of_entries {d : Document} (hd : d.Proper)
    (h : ∀ e ∈ d.entries, e.2.Lawful) : d.Lawful := by
  have hdist : ∀ e : Document, e.Proper → e.Distinct := fun e he => (proper_iff.1 he).1
  have hprop : ∀ (e : Document) k v, e.Proper → e.get? k = some v → v.Proper :=
    fun e k v he hv => (proper_iff.1 he).2 _ (Assoc.mem_of_get?_eq_some hv)
  have hlaw : ∀ k v, d.get? k = some v → v.Lawful :=
    fun k v hv => h _ (Assoc.mem_of_get?_eq_some hv)
  refine ⟨same_self hd, ?_, ?_, ?_⟩
  · intro e he hde
    obtain ⟨hkeys, hvals⟩ := (same_iff_get? (hdist d hd) (hdist e he)).1 hde
    refine (same_iff_get? (hdist e he) (hdist d hd)).2 ⟨fun k => (hkeys k).symm, ?_⟩
    intro k w v hw hv
    exact (hlaw k v hv).symm w (hprop e k w he hw) (hvals k v w hv hw)
  · intro e f he hf hde hef
    obtain ⟨hkeys, hvals⟩ := (same_iff_get? (hdist d hd) (hdist e he)).1 hde
    obtain ⟨hkeys', hvals'⟩ := (same_iff_get? (hdist e he) (hdist f hf)).1 hef
    refine (same_iff_get? (hdist d hd) (hdist f hf)).2 ⟨fun k => (hkeys k).trans (hkeys' k), ?_⟩
    intro k v x hv hx
    -- the value between the two is the one that the middle document has under the key
    have hk : k ∈ e.keys := (hkeys k).1 (Assoc.mem_keys_of_mem (Assoc.mem_of_get?_eq_some hv))
    obtain ⟨w, hmem⟩ := Assoc.exists_mem_of_mem_keys hk
    have hw : e.get? k = some w := (Assoc.get?_eq_some_iff (hdist e he)).2 hmem
    exact (hlaw k v hv).trans w x (hprop e k w he hw) (hprop f k x hf hx) (hvals k v w hv hw)
      (hvals' k w x hw hx)
  · intro e he hde
    obtain ⟨hkeys, hvals⟩ := (same_iff_get? (hdist d hd) (hdist e he)).1 hde
    refine hashData_eq (hdist d hd) (hdist e he) hkeys ?_
    intro k v w hv hw
    exact (hlaw k v hv).data_eq w (hprop e k w he hw) (hvals k v w hv hw)

theorem Pattern.beq_iff {p q : Pattern} :
    (p == q) = true ↔ p.source = q.source ∧ p.options = q.options := by
  change (p.source == q.source && p.options == q.options) = true ↔ _
  rw [Bool.and_eq_true, beq_iff_eq, beq_iff_eq]

theorem Pattern.lawfulAt (p : Pattern) :
    LawfulAt (fun _ => True) (fun p q => (p == q) = true) Pattern.hashData p := by
  have hview : LawfulAt (fun _ => True) (fun x y => x = y) id (p.source, p.options) :=
    lawfulAt_of_eq fun _ => Iff.rfl
  refine hview.comap (f := fun p : Pattern => (p.source, p.options))
    (g := fun x => [.text x.1, .text x.2.text]) (fun _ _ => trivial) (fun p q => ?_) fun _ => rfl
  rw [Pattern.beq_iff, Prod.mk.injEq]

mutual

theorem Value.lawful : ∀ v : Value, v.Proper → v.Lawful
  | .null, _ => lawfulAt_of_eq fun w => by cases w <;> simp [Value.same]
  | .bool _, _ => lawfulAt_of_eq fun w => by cases w <;> simp [Value.same]
  | .int32 _, _ => lawfulAt_of_eq fun w => by cases w <;> simp [Value.same]
  | .int64 _, _ => lawfulAt_of_eq fun w => by cases w <;> simp [Value.same]
  | .double _, _ => lawfulAt_of_eq fun w => by cases w <;> simp [Value.same]
  | .string _, _ => lawfulAt_of_eq fun w => by cases w <;> simp [Value.same]
  | .binary _, _ => lawfulAt_of_eq fun w => by cases w <;> simp [Value.same]
  | .regex p, _ => by
      refine p.lawfulAt.of_constructor (c := Value.regex) (g := (.tag 7 :: ·)) (fun _ _ => trivial)
        (fun p w => ?_) (fun p => ?_)
      · cases w <;> simp [Value.same]
      · rw [Value.hashData]
  | .array vs, h => by
      rw [Value.Proper] at h
      refine (LawfulAt.list (Value.lawful_items vs h)).of_constructor (c := Value.array)
        (g := fun items => .tag 8 :: HashData.ofList items) (fun ws hws => ?_) (fun ws w => ?_)
        (fun ws => ?_)
      · rw [Value.Proper] at hws
        exact Value.properItems_iff.1 hws
      · cases w <;> simp [Value.same, Value.sameItems_iff]
      · rw [Value.hashData, Value.hashItems_eq_map]
  | .document d, h => by
      rw [Value.Proper] at h
      refine (Document.lawful d h).of_constructor (c := Value.document) (g := (.tag 9 :: ·))
        (fun e he => ?_) (fun e w => ?_) (fun e => ?_)
      · rwa [Value.Proper] at he
      · cases w <;> simp [Value.same]
      · rw [Value.hashData]

theorem Document.lawful : ∀ d : Document, d.Proper → d.Lawful
  | ⟨entries⟩, h => by
      have hentries := h
      rw [Document.Proper] at hentries
      exact Document.lawful_of_entries h (Document.lawful_entries entries hentries.2)

theorem Value.lawful_items : ∀ vs : List Value, Value.ProperItems vs → ∀ v ∈ vs, v.Lawful
  | [], _ => by simp
  | v :: vs, h => by
      rw [Value.ProperItems] at h
      exact List.forall_mem_cons.2 ⟨Value.lawful v h.1, Value.lawful_items vs h.2⟩

theorem Document.lawful_entries : ∀ entries : List (String × Value),
    Document.ProperEntries entries → ∀ e ∈ entries, e.2.Lawful
  | [], _ => by simp
  | (_, v) :: rest, h => by
      rw [Document.ProperEntries] at h
      exact List.forall_mem_cons.2 ⟨Value.lawful v h.1, Document.lawful_entries rest h.2⟩

end

end Values

end DocFilter
