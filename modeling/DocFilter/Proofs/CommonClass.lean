import DocFilter.Proofs.CommonEscape

/-!
# Classes in the common syntax

Extended reading copies a class sign by sign and leaves it to plain reading of
the copy what the class is.  The copy need not be the text that was read, because
an escape may be copied as the character that it stands for.

So plain reading of a class is shown to depend on its signs only (`Writes`), not
on the text that writes them, on what stands behind it, or on whether blank
characters are skipped elsewhere.  The copy has the same signs.
-/

namespace DocFilter
namespace Regex

open Text

section Members

variable {anyCase : Bool}

mutual

/-- Of all flags only case folding changes what a class denotes, as long as every class is
admitted. -/
theorem ClassItem.exists_ranges (anyCase : Bool) : ∀ item : ClassItem, ∃ s, ∀ fs : Flags,
    fs.unicode = true → fs.caseInsensitive = anyCase → item.ranges fs = some s
  | .empty => ⟨[], fun _ _ _ => by simp [ranges]⟩
  | .range a b => ⟨[(a.toNat, b.toNat)], fun _ hunicode _ => by simp [ranges, hunicode]⟩
  | .letter k n => ⟨negateIf n (k.ranges true), fun _ hunicode _ => by
      simp [ranges, admitted, hunicode]⟩
  | .named k n => ⟨negateIf n (foldCase { caseInsensitive := anyCase } k.ranges),
      fun fs hunicode hcase => by
        simp [ranges, admitted, hunicode, foldCase_of_unicode hunicode, hcase]⟩
  | .property members n => ⟨negateIf n (foldCase { caseInsensitive := anyCase } members),
      fun fs hunicode hcase => by
        simp [ranges, propertyRanges, hunicode, foldCase_of_unicode hunicode, hcase]⟩
  | .bracketed n body => by
      obtain ⟨s, hs⟩ := exists_ranges anyCase body
      refine ⟨negateIf n (foldCase { caseInsensitive := anyCase } s), fun fs hunicode hcase => ?_⟩
      simp [ranges, admitted, hs fs hunicode hcase, hunicode, foldCase_of_unicode hunicode, hcase]
  | .union items => by
      obtain ⟨s, hs⟩ := exists_rangesAll anyCase items
      exact ⟨s, fun fs hunicode hcase => by rw [ranges, hs fs hunicode hcase]⟩
  | .binary op l r => by
      obtain ⟨s, hs⟩ := exists_ranges anyCase l
      obtain ⟨t, ht⟩ := exists_ranges anyCase r
      refine ⟨op.apply (foldCase { caseInsensitive := anyCase } s)
        (foldCase { caseInsensitive := anyCase } t), fun fs hunicode hcase => ?_⟩
      simp [ranges, hs fs hunicode hcase, ht fs hunicode hcase, foldCase_of_unicode hunicode, hcase]

theorem ClassItem.exists_rangesAll (anyCase : Bool) : ∀ items : List ClassItem, ∃ s, ∀ fs : Flags,
    fs.unicode = true → fs.caseInsensitive = anyCase → ClassItem.rangesAll fs items = some s
  | [] => ⟨[], fun _ _ _ => by simp [rangesAll]⟩
  | item :: items => by
      obtain ⟨s, hs⟩ := exists_ranges anyCase item
      obtain ⟨t, ht⟩ := exists_rangesAll anyCase items
      exact ⟨t.union s, fun fs hunicode hcase => by
        simp [rangesAll, hs fs hunicode hcase, ht fs hunicode hcase]⟩

end

end Members

section Signs

open Reading

/-- The sign that makes a set operation where it stands twice. -/
def SetOp.sign : SetOp → Char
  | .intersection => '&'
  | .difference => '-'
  | .symmetricDifference => '~'

/-- A sign of a class. -/
inductive ClassSign where
  /-- A sign of a set operation, without a backslash before it. -/
  | joint (op : SetOp)
  /-- Any other sign, by what it stands for. -/
  | item (t : Term)

/-- What a sign stands for by itself. -/
def ClassSign.term : ClassSign → Term
  | .joint op => .literal op.sign
  | .item t => t

/-- The text writes the signs of a class. -/
inductive Writes (x : Bool) : List Char → List ClassSign → Prop where
  | nil : Writes x [] []
  | joint {cs ss} (op : SetOp) : Writes x cs ss → Writes x (op.sign :: cs) (.joint op :: ss)
  | literal {c cs ss} : c ∉ ['&', '-', '~', '[', ']', '\\'] → Significant x c → Writes x cs ss →
      Writes x (c :: cs) (.item (.literal c) :: ss)
  | escape {c t cs ss} : (∀ rest, readEscape x (c :: rest) = some (t, rest)) → Writes x cs ss →
      Writes x ('\\' :: c :: cs) (.item t :: ss)

variable {x : Bool} {cs : List Char} {s : ClassSign} {ss : List ClassSign}

theorem significant_sign (x : Bool) (op : SetOp) : Significant x op.sign := by
  cases op <;> exact fun _ => by decide

/-- The first character of a written class, up to the bracket that closes it. -/
theorem Writes.exists_head (h : Writes x cs ss) (rest : List Char) : ∃ c ds,
    cs ++ ']' :: rest = c :: ds ∧ Significant x c ∧ c ≠ '[' ∧ (c = ']' ↔ ss = []) ∧
      ∀ op : SetOp, c = op.sign ↔ ss.head? = some (.joint op) := by
  cases h with
  | nil =>
      refine ⟨']', rest, rfl, fun _ => by decide, by decide, by simp, fun op => ?_⟩
      cases op <;> simp [SetOp.sign]
  | joint op _ =>
      refine ⟨op.sign, _, rfl, significant_sign x op, by cases op <;> decide, ?_, fun op' => ?_⟩
      · cases op <;> simp [SetOp.sign]
      · cases op <;> cases op' <;> simp [SetOp.sign]
  | literal hc hsig _ =>
      simp only [List.mem_cons, List.not_mem_nil, or_false, not_or] at hc
      refine ⟨_, _, rfl, hsig, hc.2.2.2.1, by simp [hc], fun op => ?_⟩
      cases op <;> simp [SetOp.sign, hc]
  | escape _ _ =>
      refine ⟨'\\', _, rfl, fun _ => by decide, by decide, by simp, fun op => ?_⟩
      cases op <;> simp [SetOp.sign]

theorem exists_writes_cons {c : Char} (hc : c ∉ ['[', ']', '\\']) : ∃ s, ∀ {x cs ss},
    Significant x c → Writes x cs ss → Writes x (c :: cs) (s :: ss) := by
  by_cases hop : ∃ op : SetOp, c = op.sign
  · obtain ⟨op, rfl⟩ := hop
    exact ⟨.joint op, fun _ h => h.joint op⟩
  · refine ⟨.item (.literal c), fun hsig h => .literal (fun hsign => ?_) hsig h⟩
    simp only [List.mem_cons, List.not_mem_nil, or_false, not_or] at hc hsign
    rcases hsign with rfl | rfl | rfl | hsign
    · exact hop ⟨.intersection, rfl⟩
    · exact hop ⟨.difference, rfl⟩
    · exact hop ⟨.symmetricDifference, rfl⟩
    · simp [hc] at hsign

theorem Writes.skip (h : Writes x cs ss) (rest : List Char) :
    skip x (cs ++ ']' :: rest) = cs ++ ']' :: rest := by
  obtain ⟨c, ds, heq, hsig, -⟩ := h.exists_head rest
  rw [heq, skip_cons hsig]

theorem signBehind_cons {c : Char} (h : Significant x c) (cs : List Char) :
    signBehind x (c :: cs) = some c := by
  cases x with
  | false => rfl
  | true =>
      obtain ⟨hblank, hcomment⟩ := h rfl
      simp [signBehind, peekSign, hblank, hcomment]

theorem Writes.readClassSign (h : Writes x cs (s :: ss)) : ∃ cs', Writes x cs' ss ∧
    ∀ rest, readClassSign x (cs ++ rest) = some (s.term, cs' ++ rest) := by
  cases h with
  | joint op h =>
      refine ⟨_, h, fun rest => ?_⟩
      cases op <;> rfl
  | literal hc _ h =>
      refine ⟨_, h, fun rest => ?_⟩
      simp only [List.mem_cons, List.not_mem_nil, or_false, not_or] at hc
      rw [List.cons_append, Reading.readClassSign]
      · rfl
      · exact hc.2.2.2.2.2
  | escape hread h => exact ⟨_, h, fun rest => hread _⟩

theorem Writes.signBehind (h : Writes x cs ss) (rest : List Char) :
    (signBehind x (cs ++ ']' :: rest) = some ']' ∨ signBehind x (cs ++ ']' :: rest) = some '-') ↔
      ss = [] ∨ ss.head? = some (.joint .difference) := by
  obtain ⟨c, ds, heq, hsig, -, hclose, hjoint⟩ := h.exists_head rest
  rw [heq, signBehind_cons hsig, Option.some.injEq, Option.some.injEq, hclose]
  exact or_congr_right (hjoint .difference)

/-- The range between two signs that stand for characters in order. -/
def rangeBetween? (s t : ClassSign) : Option ClassItem :=
  s.term.char?.bind fun a => t.term.char?.bind fun b => if a ≤ b then some (.range a b) else none

/-- A hyphen with another sign behind it makes a range. -/
theorem Writes.readRange_range {t : ClassSign}
    (h : Writes x cs (s :: .joint .difference :: t :: ss)) (ht : t ≠ .joint .difference) :
    ∃ cs', Writes x cs' ss ∧ ∀ rest, readRange x (cs ++ ']' :: rest) =
      (rangeBetween? s t).bind fun item => some (item, cs' ++ ']' :: rest) := by
  obtain ⟨cs₁, h₁, hfirst⟩ := h.readClassSign
  cases h₁ with
  | @joint cs₂ _ _ h₂ =>
      obtain ⟨cs₃, h₃, hsecond⟩ := h₂.readClassSign
      refine ⟨cs₃, h₃, fun rest => ?_⟩
      have hread : Reading.readClassSign x (cs ++ ']' :: rest) =
          some (s.term, '-' :: (cs₂ ++ ']' :: rest)) := hfirst (']' :: rest)
      have hhyphen : Reading.skip x ('-' :: (cs₂ ++ ']' :: rest)) = '-' :: (cs₂ ++ ']' :: rest) :=
        skip_cons (fun _ => by decide) _
      have hbehind := h₂.signBehind rest
      simp only [List.head?_cons, Option.some.injEq, ht, or_false, iff_false,
        List.cons_ne_nil] at hbehind
      simp only [readRange, hread, hhyphen, hbehind, h₂.skip, hsecond, rangeBetween?, if_false,
        Option.bind_eq_bind, Option.bind_some, Option.bind_assoc]
      congr
      funext a
      congr
      funext b
      split <;> rfl

/-- A sign without such a hyphen behind it makes an item. -/
theorem Writes.readRange_item (h : Writes x cs (s :: ss))
    (hss : ∀ t ss', ss = .joint .difference :: t :: ss' → t = .joint .difference) :
    ∃ cs', Writes x cs' ss ∧ ∀ rest, readRange x (cs ++ ']' :: rest) =
      (classItem? s.term).bind fun item => some (item, cs' ++ ']' :: rest) := by
  obtain ⟨cs₁, h₁, hfirst⟩ := h.readClassSign
  refine ⟨cs₁, h₁, fun rest => ?_⟩
  have hread : Reading.readClassSign x (cs ++ ']' :: rest) = some (s.term, cs₁ ++ ']' :: rest) :=
    hfirst (']' :: rest)
  obtain ⟨c, ds, heq, hsig, -, -, hjoint⟩ := h₁.exists_head rest
  by_cases hc : c = '-'
  · obtain ⟨ss₂, rfl⟩ : ∃ ss₂, ss = .joint .difference :: ss₂ :=
      List.head?_eq_some_iff.1 ((hjoint .difference).1 hc)
    cases h₁ with
    | @joint cs₂ _ _ h₂ =>
        have hbehind : Reading.signBehind x (cs₂ ++ ']' :: rest) = some ']' ∨
            Reading.signBehind x (cs₂ ++ ']' :: rest) = some '-' := by
          refine (h₂.signBehind rest).2 ?_
          cases ss₂ with
          | nil => exact Or.inl rfl
          | cons t ss₂ => exact Or.inr (congrArg some (hss t ss₂ rfl))
        have hhyphen : Reading.skip x ('-' :: (cs₂ ++ ']' :: rest)) = '-' :: (cs₂ ++ ']' :: rest) :=
          skip_cons (fun _ => by decide) _
        have hread' : Reading.readClassSign x (cs ++ ']' :: rest) =
            some (s.term, '-' :: (cs₂ ++ ']' :: rest)) := hread
        simp [readRange, hread', hhyphen, hbehind, SetOp.sign]
  · rw [heq] at hread ⊢
    simp only [readRange, hread, skip_cons hsig, Option.bind_eq_bind, Option.bind_some]
    split
    · contradiction
    · simp_all
    · rfl

variable {pending : Option (SetOp × ClassItem)} {items : List ClassItem} {fuel : Nat}

theorem readClassBody_operation (op : SetOp) (cs : List Char) :
    readClassBody x (fuel + 1) pending items (op.sign :: op.sign :: cs) =
      readClassBody x fuel (some (op, closeOperand pending items)) [] cs := by
  have hskip := skip_cons (significant_sign x op) (op.sign :: cs)
  rw [readClassBody, hskip]
  cases op <;> rfl

theorem Writes.readClassBody_item (h : Writes x cs (s :: ss))
    (hs : ∀ op, s = .joint op → ss.head? ≠ some (.joint op)) (rest : List Char) :
    readClassBody x (fuel + 1) pending items (cs ++ ']' :: rest) =
      (readRange x (cs ++ ']' :: rest)).bind fun e =>
        readClassBody x fuel pending (e.1 :: items) e.2 := by
  obtain ⟨c, ds, heq, hsig, hopen, hclose, hjoint⟩ := h.exists_head rest
  have hsingle : ∀ op : SetOp, c = op.sign → ∀ ds', ds ≠ op.sign :: ds' := by
    rintro op hc ds' rfl
    obtain rfl : s = .joint op := by simpa using (hjoint op).1 hc
    cases h with
    | joint _ h₁ =>
        obtain ⟨c', ds'', heq', -, -, -, hjoint'⟩ := h₁.exists_head rest
        have hds : c' :: ds'' = op.sign :: ds' := by
          rw [← heq']
          exact (List.cons.inj heq).2
        exact hs op rfl ((hjoint' op).1 (List.cons.inj hds).1)
  have hne : c ≠ ']' := fun hc => by simpa using hclose.1 hc
  rw [readClassBody, heq, skip_cons hsig]
  split <;> rename_i heq'
  · cases heq'
  · exact absurd (List.cons.inj heq').1 hne
  · exact absurd (List.cons.inj heq').1 hopen
  · exact absurd (List.cons.inj heq').2 (hsingle .intersection (List.cons.inj heq').1 _)
  · exact absurd (List.cons.inj heq').2 (hsingle .difference (List.cons.inj heq').1 _)
  · exact absurd (List.cons.inj heq').2 (hsingle .symmetricDifference (List.cons.inj heq').1 _)
  · rfl

/-- Written signs are read as an item up to the bracket behind them, whatever text writes them. -/
def BodyReads (pending : Option (SetOp × ClassItem)) (items : List ClassItem)
    (ss : List ClassSign) (item : ClassItem) : Prop :=
  ∀ x cs, Writes x cs ss → ∀ fuel rest u behind,
    readClassBody x fuel pending items (cs ++ ']' :: rest) = some (u, behind) →
      u = item ∧ behind = rest

theorem bodyReads_nil : BodyReads pending items [] (closeOperand pending items) := by
  intro x cs h fuel rest u behind hread
  cases h
  cases fuel with
  | zero => cases hread
  | succ fuel =>
      have hskip : skip x (']' :: rest) = ']' :: rest := skip_cons (fun _ => by decide) rest
      rw [List.nil_append, readClassBody, hskip] at hread
      cases hread
      exact ⟨rfl, rfl⟩

theorem BodyReads.operation {op : SetOp} {item : ClassItem}
    (h : BodyReads (some (op, closeOperand pending items)) [] ss item) :
    BodyReads pending items (.joint op :: .joint op :: ss) item := by
  intro x cs hcs fuel rest u behind hread
  cases hcs with
  | joint _ hcs =>
      cases hcs with
      | joint _ hcs =>
          cases fuel with
          | zero => cases hread
          | succ fuel =>
              rw [List.cons_append, List.cons_append, readClassBody_operation] at hread
              exact h x _ hcs fuel rest u behind hread

theorem exists_bodyReads_of_item {ss' : List ClassSign} {r : Option ClassItem}
    (hs : ∀ op, s = .joint op → ss.head? ≠ some (.joint op))
    (hrange : ∀ x cs, Writes x cs (s :: ss) → ∃ cs', Writes x cs' ss' ∧ ∀ rest,
      readRange x (cs ++ ']' :: rest) = r.bind fun item => some (item, cs' ++ ']' :: rest))
    (h : ∀ first, ∃ item, BodyReads pending (first :: items) ss' item) :
    ∃ item, BodyReads pending items (s :: ss) item := by
  obtain ⟨item, hitem⟩ := h (r.getD .empty)
  refine ⟨item, fun x cs hcs fuel rest u behind hread => ?_⟩
  cases fuel with
  | zero => cases hread
  | succ fuel =>
      obtain ⟨cs', hcs', hrest⟩ := hrange x cs hcs
      rw [hcs.readClassBody_item hs, hrest] at hread
      cases r with
      | none => cases hread
      | some first => exact hitem x cs' hcs' fuel rest u behind hread

theorem exists_bodyReads : ∀ (ss : List ClassSign) (pending : Option (SetOp × ClassItem))
    (items : List ClassItem), ∃ item, BodyReads pending items ss item
  | [], pending, items => ⟨closeOperand pending items, bodyReads_nil⟩
  | s :: ss, pending, items => by
      -- an operation takes precedence over a range, because a hyphen can belong to either
      by_cases hop : ∃ op ss', s = .joint op ∧ ss = .joint op :: ss'
      · obtain ⟨op, ss', rfl, rfl⟩ := hop
        obtain ⟨item, hitem⟩ := exists_bodyReads ss' (some (op, closeOperand pending items)) []
        exact ⟨item, hitem.operation⟩
      have hs : ∀ op, s = .joint op → ss.head? ≠ some (.joint op) := by
        intro op heq hhead
        obtain ⟨ss', hss⟩ := List.head?_eq_some_iff.1 hhead
        exact hop ⟨op, ss', heq, hss⟩
      by_cases hrange : ∃ t ss', ss = .joint .difference :: t :: ss' ∧ t ≠ .joint .difference
      · obtain ⟨t, ss', rfl, ht⟩ := hrange
        exact exists_bodyReads_of_item hs (fun x cs hcs => hcs.readRange_range ht)
          fun first => exists_bodyReads ss' pending (first :: items)
      · refine exists_bodyReads_of_item hs (fun x cs hcs => hcs.readRange_item ?_)
          fun first => exists_bodyReads ss pending (first :: items)
        exact fun t ss' hss => Classical.byContradiction fun ht => hrange ⟨t, ss', hss, ht⟩
termination_by ss => ss.length

theorem takeHyphens_of_ne {c : Char} (hc : c ≠ '-') (n : Nat) (cs : List Char) :
    takeHyphens x n (c :: cs) = ([], c :: cs) := by
  cases n with
  | zero => rfl
  | succ n =>
      rw [takeHyphens]
      exact fun _ _ _ h => hc (List.cons.inj h).1

/-- Hyphens at the front of a class are items. -/
theorem exists_takeHyphens (ss : List ClassSign) : ∃ items ss', (items = [] → ss' = ss) ∧
    ∀ x cs, Writes x cs ss → ∃ cs', Writes x cs' ss' ∧ ∀ n rest, cs.length ≤ n →
      takeHyphens x n (cs ++ ']' :: rest) = (items, cs' ++ ']' :: rest) := by
  induction ss with
  | nil =>
      refine ⟨[], [], fun _ => rfl, fun x cs hcs => ⟨cs, hcs, fun n rest _ => ?_⟩⟩
      cases hcs
      exact takeHyphens_of_ne (by decide) n rest
  | cons s ss ih =>
      by_cases hs : s = .joint .difference
      · subst hs
        obtain ⟨items, ss', -, h⟩ := ih
        refine ⟨.range '-' '-' :: items, ss', by simp, fun x cs hcs => ?_⟩
        cases hcs with
        | joint _ hcs₁ =>
            obtain ⟨cs', hcs', htake⟩ := h x _ hcs₁
            refine ⟨cs', hcs', fun n rest hn => ?_⟩
            cases n with
            | zero => cases hn
            | succ n =>
                have hrest := htake n rest (Nat.le_of_succ_le_succ hn)
                simp [SetOp.sign, takeHyphens, hcs₁.skip, hrest]
      · refine ⟨[], s :: ss, fun _ => rfl, fun x cs hcs => ⟨cs, hcs, fun n rest _ => ?_⟩⟩
        obtain ⟨c, ds, heq, -, -, -, hjoint⟩ := hcs.exists_head rest
        have hc : c ≠ '-' := fun hc => hs (by simpa using (hjoint .difference).1 hc)
        rw [heq, takeHyphens_of_ne hc]

/-- The sign that negates a class, if asked for. -/
def negation (negated : Bool) : List Char :=
  if negated then ['^'] else []

theorem openClass_of_takeHyphens {negated : Bool} {w v : List Char}
    (hskip : Reading.skip x w = w) (hfront : negated = false → w.head? ≠ some '^')
    (htake : takeHyphens x w.length w = (items, v)) (hclose : items = [] → v.head? ≠ some ']') :
    openClass x (negation negated ++ w) = (negated, items, v) := by
  have hcaret : Reading.skip x ('^' :: w) = '^' :: w := skip_cons (fun _ => by decide) w
  have hne : negated = false → ∀ w', w ≠ '^' :: w' := by
    rintro hnegated w' rfl
    exact hfront hnegated rfl
  cases negated with
  | true =>
      simp only [openClass, negation, if_true, List.cons_append, List.nil_append, hcaret, hskip,
        htake]
      split <;> simp_all
  | false =>
      have hne' := hne rfl
      simp only [openClass, negation, Bool.false_eq_true, if_false, List.nil_append, hskip, htake]
      split <;> simp_all

/-- Written signs are read as a class up to the bracket behind them, whatever text writes them. -/
theorem exists_class (negated : Bool) (hss : ss ≠ []) : ∃ body, ∀ x cs, Writes x cs ss →
    (negated = false → cs.head? ≠ some '^') → ∀ rest u behind,
      readClass x (negation negated ++ cs ++ ']' :: rest) = some (u, behind) →
        u = .charClass negated body ∧ behind = rest := by
  obtain ⟨items, ss', hitems, hhyphens⟩ := exists_takeHyphens ss
  obtain ⟨body, hbody⟩ := exists_bodyReads ss' none items.reverse
  refine ⟨body, fun x cs hcs hfront rest u behind hread => ?_⟩
  obtain ⟨cs', hcs', htake⟩ := hhyphens x cs hcs
  have hopen : openClass x (negation negated ++ (cs ++ ']' :: rest)) =
      (negated, items, cs' ++ ']' :: rest) := by
    refine openClass_of_takeHyphens (hcs.skip rest) (fun hnegated hhead => ?_)
      (htake _ rest (by simp)) (fun hnil hhead => ?_)
    · cases cs with
      | nil => simp at hhead
      | cons c cs => exact hfront hnegated hhead
    · obtain ⟨c, ds, heq, -, -, hc, -⟩ := hcs'.exists_head rest
      rw [heq, List.head?_cons, Option.some.injEq, hc] at hhead
      exact hss (hitems hnil ▸ hhead)
  rw [List.append_assoc] at hread
  simp only [readClass, hopen, Option.bind_eq_bind, Option.bind_eq_some_iff] at hread
  obtain ⟨⟨item, behind'⟩, hread, heq⟩ := hread
  cases heq
  obtain ⟨rfl, rfl⟩ := hbody x cs' hcs' _ rest item _ hread
  exact ⟨rfl, rfl⟩

end Signs

namespace Extended
namespace Reading

open Regex.Reading (Adds standsForItself)

section Copies

variable {x : Bool} {p : Progress} {c : Char} {cs rest : List Char} {ss : List ClassSign}

/-- A quoted character is a sign that stands for the character. -/
theorem writes_quoteInClass (c : Char) (h : Writes false cs ss) :
    Writes false (quoteInClass c ++ cs) (.item (.literal c) :: ss) := by
  unfold quoteInClass
  split
  · rename_i hc
    refine Writes.escape (fun rest => ?_) h
    simp only [List.contains_eq_mem, decide_eq_true_eq, String.reduceToList, List.mem_cons,
      List.not_mem_nil, or_false] at hc
    rcases hc with rfl | rfl | rfl | rfl | rfl | rfl | rfl | rfl | rfl | rfl | rfl | rfl | rfl |
      rfl | rfl | rfl | rfl | rfl <;> rfl
  · rename_i hc
    refine Writes.literal (fun hsign => ?_) (Regex.Reading.significant_false c) h
    simp only [List.mem_cons, List.not_mem_nil, or_false] at hsign
    rcases hsign with rfl | rfl | rfl | rfl | rfl | rfl <;> exact hc (by decide)

theorem exists_head_quoteInClass (c : Char) : ∃ d cs, quoteInClass c = d :: cs ∧ d ≠ '^' := by
  unfold quoteInClass
  split
  · exact ⟨'\\', [c], rfl, by decide⟩
  · rename_i hc
    refine ⟨c, [], rfl, ?_⟩
    rintro rfl
    exact hc (by decide)

theorem spellEscape_of_common {t : Term} (h : escapesAlike c = true) (hstart : c ≠ 'A')
    (hend : c ≠ 'z') (hcommon : readCommonEscape p c rest = some (t, rest)) :
    spellEscape p (c :: rest) =
      match t with
      | .literal d _ => some (quoteInClass d, rest)
      | .charClass cs _ => some (cs, rest)
      | _ => none := by
  have hplain : isPlainInClass c = false := by
    have hne : ∀ d, escapesAlike d = false → c ≠ d := by
      rintro d hd rfl
      exact Bool.false_ne_true (hd.symm.trans h)
    simp [isPlainInClass, hstart, hend, hne 'B' rfl, hne 'G' rfl, hne 'K' rfl, hne 'k' rfl]
  unfold spellEscape
  split <;> rename_i heq <;> cases heq
  · exact absurd h (by decide)
  · exact absurd h (by decide)
  · exact absurd h (by decide)
  · simp only [isDigit_of_escapesAlike h, hplain, hcommon, Bool.false_eq_true, if_false,
      Option.bind_eq_bind, Option.bind_some]
    cases t <;> rfl

/-- An escape is copied as a sign that stands for the same. -/
theorem spellEscape_alike (h : escapesAlike c = true) (hstart : c ≠ 'A') (hend : c ≠ 'z') :
    ∃ t w, (∀ rest, Regex.Reading.readEscape x (c :: rest) = some (t, rest)) ∧
      (∀ p rest, spellEscape p (c :: rest) = some (w, rest)) ∧
      (∀ cs ss, Writes false cs ss → Writes false (w ++ cs) (.item t :: ss)) ∧
      ∃ d v, w = d :: v ∧ d ≠ '^' := by
  rcases escape_cases h hstart hend with ⟨d, -, hplain, hextended⟩ |
    ⟨kind, negated, hplain, hextended⟩
  · exact ⟨.literal d, quoteInClass d, hplain x,
      fun p rest => spellEscape_of_common h hstart hend (hextended p rest),
      fun cs ss => writes_quoteInClass d, exists_head_quoteInClass d⟩
  · exact ⟨.letterClass kind negated, ['\\', c], hplain x,
      fun p rest => spellEscape_of_common h hstart hend (hextended p rest),
      fun cs ss => Writes.escape (hplain false), '\\', [c], rfl, by decide⟩

/-- A class is copied up to the bracket that closes it as a text with the same signs. -/
theorem spellClass_alike {fuel : Nat} {w : List Char}
    (h : spellClass p fuel 0 cs = some (w, rest)) (hcs : readAlike x .inside cs = true) :
    ∃ b b' ss, cs = b ++ ']' :: rest ∧ w = b' ++ [']'] ∧ Writes x b ss ∧ Writes false b' ss ∧
      (b'.head? = some '^' → b.head? = some '^') ∧ readAlike x .behind rest = true := by
  induction fuel generalizing cs w with
  | zero => cases h
  | succ fuel ih =>
      cases cs with
      | nil => cases h
      | cons c cs =>
          obtain ⟨hsig, hopen, hcases⟩ := readAlike_inside_cons hcs
          rcases hcases with ⟨rfl, hquoted⟩ | ⟨rfl, hbehind⟩ | ⟨hescape, hclose, hinside⟩
          · cases cs with
            | nil => cases h
            | cons c cs =>
                obtain ⟨⟨hc, hstart, hend⟩, hinside⟩ := readAlike_quoted_cons hquoted
                obtain ⟨t, v, hread, hspell, hwrites, d, v', rfl, hd⟩ :=
                  spellEscape_alike (x := x) hc hstart hend
                simp only [spellClass, if_true, hspell, Option.bind_eq_bind, Option.bind_some,
                  Option.bind_eq_some_iff] at h
                obtain ⟨⟨others, rest'⟩, hothers, heq⟩ := h
                cases heq
                obtain ⟨b, b', ss, rfl, rfl, hb, hb', -, hrest⟩ := ih hothers hinside
                refine ⟨'\\' :: c :: b, d :: v' ++ b', .item t :: ss, rfl, by simp,
                  .escape hread hb, hwrites _ _ hb', fun heq => ?_, hrest⟩
                exact absurd (Option.some.inj heq) hd
          · cases h
            exact ⟨[], [], [], rfl, rfl, .nil, .nil, id, hbehind⟩
          · simp only [spellClass, hescape, hclose, hopen, if_false, Option.bind_eq_bind,
              Option.bind_eq_some_iff] at h
            obtain ⟨⟨others, rest'⟩, hothers, heq⟩ := h
            cases heq
            obtain ⟨b, b', ss, rfl, rfl, hb, hb', -, hrest⟩ := ih hothers hinside
            obtain ⟨s, hs⟩ := exists_writes_cons (c := c) (by simp [hopen, hclose, hescape])
            exact ⟨c :: b, c :: b', s :: ss, rfl, by simp, hs hsig hb,
              hs (Regex.Reading.significant_false c) hb', fun heq => heq, hrest⟩

theorem classFront_eq (hcs : cs.head? ≠ some ']' ∧ ∀ rest, cs ≠ '^' :: ']' :: rest) :
    ∃ negated cs', cs = negation negated ++ cs' ∧ classFront cs = (negation negated, cs') ∧
      cs'.head? ≠ some ']' ∧ (negated = false → cs'.head? ≠ some '^') ∧
      (readAlike x .inside cs = true → readAlike x .inside cs' = true) := by
  obtain ⟨hclose, hcaret⟩ := hcs
  by_cases hnegated : cs.head? = some '^'
  · obtain ⟨cs', rfl⟩ := List.head?_eq_some_iff.1 hnegated
    have hclose' : cs'.head? ≠ some ']' := by
      intro hhead
      obtain ⟨rest, rfl⟩ := List.head?_eq_some_iff.1 hhead
      exact hcaret rest rfl
    refine ⟨true, cs', rfl, ?_, hclose', by simp, fun h => ?_⟩
    · unfold classFront
      split <;> simp_all [negation]
    · simpa using (readAlike_inside_cons h).2.2
  · refine ⟨false, cs, rfl, ?_, hclose, fun _ => hnegated, id⟩
    unfold classFront
    split <;> simp_all [negation]

/-- Both readers take a class for the same set. -/
theorem readClass_alike {fs : Flags} {n : Nat} {t : Term} (hunicode : fs.unicode = true)
    (hp : p.flags = fs) (h : readClass p cs = some (t, rest))
    (hfront : cs.head? ≠ some ']' ∧ ∀ rest, cs ≠ '^' :: ']' :: rest)
    (hcs : readAlike fs.ignoreSpace .inside cs = true) :
    ∃ c, readAlike fs.ignoreSpace .behind rest = true ∧ rest.length < cs.length ∧
      Adds fs n ('[' :: cs) n rest [c] ∧ Spells n t n c ∧ t.isEmpty = false := by
  obtain ⟨negated, cs', rfl, heq, hclose, hcaret, hinside⟩ :=
    classFront_eq (x := fs.ignoreSpace) hfront
  simp only [readClass, heq, Option.bind_eq_bind, Option.bind_eq_some_iff] at h
  obtain ⟨⟨body, rest'⟩, hspell, h⟩ := h
  cases h
  obtain ⟨b, b', ss, rfl, rfl, hb, hb', hhead, hrest⟩ := spellClass_alike hspell (hinside hcs)
  have hss : ss ≠ [] := by
    rintro rfl
    cases hb
    exact hclose rfl
  have hcaret' : negated = false → b.head? ≠ some '^' := by
    intro hnegated hb
    obtain ⟨w, rfl⟩ := List.head?_eq_some_iff.1 hb
    exact hcaret hnegated rfl
  obtain ⟨item, hclass⟩ := exists_class negated hss
  obtain ⟨s, hs⟩ := ClassItem.exists_ranges p.flags.caseInsensitive (.bracketed negated item)
  have hcore : ∀ fs : Flags, fs.unicode = true → fs.caseInsensitive = p.flags.caseInsensitive →
      Core.ofTerm? fs (.charClass negated item) = some (.ofSet true s, fs) := by
    intro fs hunicode hcase
    simp [Core.ofTerm?, hs fs hunicode hcase, hunicode]
  refine ⟨.ofSet true s, hrest, ?_, ?_, ?_, rfl⟩
  · simp only [List.length_append, List.length_cons]
    omega
  · refine Adds.of_leads (Regex.Reading.leads_class (fun u behind hread => ?_) n)
      (hcore fs hunicode (congrArg _ hp.symm))
    exact hclass _ b hb hcaret' rest' u behind (by simpa using hread)
  · refine spells_charClass (by simp [NotLazy]) (hcore _ rfl rfl) fun rest => ?_
    refine Regex.Reading.leads_class (fun u behind hread => ?_) n
    exact hclass _ b' hb' (fun hnegated hb' => hcaret' hnegated (hhead hb')) rest u behind
      (by simpa using hread)

end Copies

end Reading
end Extended

end Regex
end DocFilter
