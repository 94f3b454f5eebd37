import DocFilter.Proofs.PlainReading
import DocFilter.Regex.Extended.Term

/-!
# Counts of repetitions

Counts in braces are one number, or two of which the second may be left out.
Plain and extended reading take them for the same numbers, up to the largest
number that each admits, and the counts that extended reading has read are
written so that plain reading takes them for the same again.
-/

namespace DocFilter
namespace Regex
namespace Reading

open Text

/-- The text consists of decimal digits. -/
def Digits (ds : List Char) : Prop :=
  ∀ c ∈ ds, c.isDigit = true

/-- The number that decimal digits write. -/
def decimal (ds : List Char) : Nat :=
  number 10 (fun c => c.toNat - 48) ds

variable {x : Bool} {c : Char} {ds es cs rest : List Char}

section Digits

theorem blank_of_isDigit (h : c.isDigit = true) :
    isBlank c = false ∧ c ≠ '#' ∧ c ≠ ',' ∧ c ≠ '\x7d' := by
  have hsmall : ∀ n < 58, (Char.ofNat n).isDigit = true →
      isBlank (Char.ofNat n) = false ∧ Char.ofNat n ≠ '#' ∧ Char.ofNat n ≠ ',' ∧
        Char.ofNat n ≠ '\x7d' := by
    decide
  have hle : c.toNat < 58 := Nat.lt_succ_of_le (Char.isDigit_iff_toNat.1 h).2
  have hc := hsmall c.toNat hle
  rw [Char.ofNat_toNat] at hc
  exact hc h

/-- A sign that ends a count. -/
def EndsCount (c : Char) : Prop :=
  c = ',' ∨ c = '\x7d'

theorem EndsCount.not_isDigit (h : EndsCount c) : c.isDigit = false := by
  rcases h with rfl | rfl <;> decide

/-- Nothing is skipped before a count or the sign that ends it. -/
theorem Digits.exists_head (hds : Digits ds) (hc : EndsCount c) (rest : List Char) : ∃ d cs,
    ds ++ c :: rest = d :: cs ∧ isBlank d = false ∧ d ≠ '#' := by
  cases ds with
  | nil => exact ⟨c, rest, rfl, by rcases hc with rfl | rfl <;> decide⟩
  | cons d ds =>
      obtain ⟨hblank, hcomment, -⟩ := blank_of_isDigit (hds d List.mem_cons_self)
      exact ⟨d, ds ++ c :: rest, rfl, hblank, hcomment⟩

theorem Digits.skip (hds : Digits ds) (hc : EndsCount c) (rest : List Char) :
    skip x (ds ++ c :: rest) = ds ++ c :: rest := by
  obtain ⟨d, cs, heq, hblank, hcomment⟩ := hds.exists_head hc rest
  rw [heq, skip_cons fun _ => ⟨hblank, hcomment⟩]

theorem Digits.dropWhile_isBlank (hds : Digits ds) (hc : EndsCount c) (rest : List Char) :
    (ds ++ c :: rest).dropWhile isBlank = ds ++ c :: rest := by
  obtain ⟨d, cs, heq, hblank, -⟩ := hds.exists_head hc rest
  rw [heq, List.dropWhile_cons_of_neg (by simp [hblank])]

theorem Digits.takeDigits (hds : Digits ds) (hc : EndsCount c) {fuel : Nat}
    (hfuel : ds.length ≤ fuel) : takeDigits x fuel (ds ++ c :: rest) = (ds, c :: rest) := by
  induction ds generalizing fuel with
  | nil => cases fuel <;> simp [Reading.takeDigits, hc.not_isDigit]
  | cons d ds ih =>
      cases fuel with
      | zero => cases hfuel
      | succ fuel =>
          have hds' : Digits ds := fun e he => hds e (List.mem_cons_of_mem d he)
          have hrest := ih hds' (Nat.le_of_succ_le_succ hfuel)
          simp [Reading.takeDigits, hds d List.mem_cons_self, hds'.skip hc, hrest]

theorem Digits.readDecimal (hds : Digits ds) (hc : EndsCount c) {e : Nat × List Char}
    (h : readDecimal x (ds ++ c :: rest) = some e) :
    e = (decimal ds, c :: rest) ∧ decimal ds ≤ maxCount := by
  have hlength : ds.length ≤ (ds ++ c :: rest).length := by simp
  have hnil : Digits [] := fun d hd => by cases hd
  have hblank : (c :: rest).dropWhile isBlank = c :: rest := hnil.dropWhile_isBlank hc rest
  have hskip : Reading.skip x (c :: rest) = c :: rest := hnil.skip hc rest
  simp only [Reading.readDecimal, hds.dropWhile_isBlank hc, hds.takeDigits hc hlength, hblank,
    hskip, Option.ite_none_left_eq_some, Bool.or_eq_true, decide_eq_true_eq, not_or,
    Nat.not_lt] at h
  exact ⟨(Option.some.inj h.2).symm, h.1.2⟩

end Digits

section Counts

/-- The text behind an opening brace writes counts. -/
inductive WritesCounts : List Char → Nat → Option Nat → Prop where
  | exactly {ds : List Char} : Digits ds → ds ≠ [] →
      WritesCounts (ds ++ ['\x7d']) (decimal ds) (some (decimal ds))
  | atLeast {ds : List Char} : Digits ds → ds ≠ [] →
      WritesCounts (ds ++ [',', '\x7d']) (decimal ds) none
  | between {ds es : List Char} : Digits ds → ds ≠ [] → Digits es → es ≠ [] →
      WritesCounts (ds ++ ',' :: es ++ ['\x7d']) (decimal ds) (some (decimal es))

variable {w : List Char} {least : Nat} {most : Option Nat}

/-- What writes counts is read as them, if they are not too large. -/
theorem WritesCounts.readCounts (h : WritesCounts w least most)
    {e : Nat × Option Nat × List Char} (hread : readCounts x (w ++ rest) = some e) :
    e = (least, most, rest) ∧ ∀ n, most = some n → n ≤ maxCount := by
  cases h with
  | exactly hds hne =>
      have hend : EndsCount '\x7d' := Or.inr rfl
      rw [List.append_assoc, List.singleton_append, Reading.readCounts, hds.skip hend] at hread
      obtain ⟨e₁, hfirst, hread⟩ := Option.bind_eq_some_iff.1 hread
      obtain ⟨rfl, hle⟩ := hds.readDecimal hend hfirst
      cases hread
      refine ⟨rfl, ?_⟩
      rintro n ⟨⟩
      exact hle
  | atLeast hds hne =>
      have hcomma : EndsCount ',' := Or.inl rfl
      rw [List.append_assoc, List.cons_append, List.singleton_append, Reading.readCounts,
        hds.skip hcomma] at hread
      obtain ⟨e₁, hfirst, hread⟩ := Option.bind_eq_some_iff.1 hread
      obtain ⟨rfl, hle⟩ := hds.readDecimal hcomma hfirst
      have hskip : Reading.skip x ('\x7d' :: rest) = '\x7d' :: rest :=
        skip_cons (fun _ => by decide) rest
      simp only [hskip] at hread
      cases hread
      exact ⟨rfl, fun n hn => by cases hn⟩
  | @between ds es hds hne hes hne' =>
      have hcomma : EndsCount ',' := Or.inl rfl
      have hend : EndsCount '\x7d' := Or.inr rfl
      rw [List.append_assoc, List.singleton_append, List.append_assoc, List.cons_append,
        Reading.readCounts, hds.skip hcomma] at hread
      obtain ⟨e₁, hfirst, hread⟩ := Option.bind_eq_some_iff.1 hread
      obtain ⟨rfl, hle⟩ := hds.readDecimal hcomma hfirst
      simp only [hes.skip hend] at hread
      split at hread
      · rename_i heq
        obtain ⟨d, es, rfl⟩ := List.exists_cons_of_ne_nil hne'
        obtain ⟨-, -, -, hd⟩ := blank_of_isDigit (hes d List.mem_cons_self)
        exact absurd (List.cons.inj heq).1 hd
      · obtain ⟨e₂, hsecond, hread⟩ := Option.bind_eq_some_iff.1 hread
        obtain ⟨rfl, hle'⟩ := hes.readDecimal hend hsecond
        simp only [Option.ite_none_right_eq_some] at hread
        obtain ⟨-, heq⟩ := hread
        cases heq
        refine ⟨rfl, ?_⟩
        rintro n ⟨⟩
        exact hle'

theorem WritesCounts.repeats (h : WritesCounts w least most) :
    Repeats x ('\x7b' :: w) least most :=
  repeats_counts fun _ _ hread => (h.readCounts hread).1

section Spelling

/-- The digits of a number write it. -/
theorem writes_toString (n : Nat) : Digits (toString n).toList ∧ (toString n).toList ≠ [] ∧
    decimal (toString n).toList = n := by
  rw [Nat.toString_eq_repr, Nat.toList_repr]
  refine ⟨fun c => Nat.isDigit_of_mem_toDigits (by decide) (by decide), Nat.toDigits_ne_nil, ?_⟩
  have hfold : decimal (Nat.toDigits 10 n) = Nat.ofDigitChars 10 (Nat.toDigits 10 n) 0 := by
    rw [Nat.ofDigitChars_eq_foldl]
    simp only [decimal, number, Nat.mul_comm]
    rfl
  rw [hfold, Nat.ofDigitChars_ten_toDigits]

/-- The spelling of counts repeats as often as they say. -/
theorem repeats_spellCounts (least : Nat) (most : Option Nat) :
    Repeats x (Extended.Term.spellCounts least most) least most := by
  obtain ⟨hdigits, hne, hleast⟩ := writes_toString least
  unfold Extended.Term.spellCounts
  split
  · exact repeats_sign rfl
  · exact repeats_sign rfl
  · exact repeats_sign rfl
  · have hcounts := WritesCounts.atLeast hdigits hne
    rw [hleast] at hcounts
    exact hcounts.repeats
  · rename_i n _
    obtain ⟨hdigits', hne', hmost⟩ := writes_toString n
    split
    · rename_i heq
      subst heq
      have hcounts := WritesCounts.exactly hdigits hne
      rw [hleast] at hcounts
      simpa using hcounts.repeats
    · have hcounts := WritesCounts.between hdigits hne hdigits' hne'
      rw [hleast, hmost] at hcounts
      simpa using hcounts.repeats

end Spelling

end Counts

end Reading
end Regex
end DocFilter
