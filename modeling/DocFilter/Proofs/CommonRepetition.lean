import DocFilter.Proofs.CommonSyntax
import DocFilter.Proofs.RepetitionCounts

/-!
# Repetitions in the common syntax

Behind a part that may be repeated both readers find the same repetition sign, or
the same counts, and behind these the same question mark.  Counts are the same
only as long as both readers admit them: plain reading refuses numbers of more
than 32 bits, extended reading takes numbers of more than 64 for no counts at
all.
-/

namespace DocFilter
namespace Regex
namespace Extended
namespace Reading

open Regex.Reading (Digits Repeats Significant WritesCounts blank_of_isDigit countsOfSign? decimal
  maxCount readGreedy repeats_sign)

section Skipping

variable {p : Progress} {c : Char} {cs rest : List Char}

theorem skip_cons (h : Significant p.flags.ignoreSpace c)
    (hc : c = '(' → ∀ rest, cs ≠ '?' :: '#' :: rest) : skip p (c :: cs) = some (c :: cs) := by
  rw [skip, List.length_cons, dropBlanks]
  · cases hx : p.flags.ignoreSpace with
    | false => rfl
    | true =>
        obtain ⟨hblank, hcomment⟩ := h hx
        have hskipped : isSkipped c = false := by
          refine Bool.eq_false_iff.2 fun hskipped => ?_
          simp only [isSkipped, Bool.or_eq_true, beq_iff_eq] at hskipped
          rcases hskipped with ((rfl | rfl) | rfl) | rfl
          all_goals exact absurd hblank (by decide)
        simp [hcomment, hskipped]
  · exact fun rest hopen hcs => hc hopen rest hcs

theorem skip_of_readAlike (h : readAlike p.flags.ignoreSpace .start cs = true) :
    skip p cs = some cs := by
  cases cs with
  | nil => rfl
  | cons c cs =>
      obtain ⟨hsig, hcases⟩ := readAlike_start_cons h
      refine skip_cons hsig ?_
      rintro rfl rest rfl
      simp at hcases

end Skipping

section Counts

variable {p : Progress} {cs rest : List Char} {n : Nat}

theorem exists_digits_of_readNumber (h : readNumber cs = some (n, rest)) :
    ∃ ds, cs = ds ++ rest ∧ Digits ds ∧ ds ≠ [] ∧ n = decimal ds := by
  simp only [readNumber, Option.ite_none_left_eq_some, Bool.or_eq_true, not_or] at h
  obtain ⟨⟨hne, -⟩, heq⟩ := h
  cases heq
  refine ⟨cs.takeWhile Char.isDigit, ?_, fun c => List.all_eq_true.1 List.all_takeWhile c,
    by simpa using hne, rfl⟩
  exact (List.prefix_iff_eq_append.1 (List.takeWhile_prefix _)).symm

theorem countInFront?_eq_some (h : countInFront? cs = some (n, rest)) :
    readNumber cs = some (n, rest) ∧ n ≤ maxCount := by
  simpa [countInFront?, Option.filter_eq_some_iff] using h

/-- Nothing is skipped before a digit or what stands behind digits. -/
theorem skip_of_isDigit {c : Char} (h : c.isDigit = true ∨ c = ',' ∨ c = '\x7d') (cs : List Char) :
    skip p (c :: cs) = some (c :: cs) := by
  rcases h with h | rfl | rfl
  · obtain ⟨hblank, hcomment, -⟩ := blank_of_isDigit h
    refine skip_cons (fun _ => ⟨hblank, hcomment⟩) ?_
    rintro rfl
    exact absurd h (by decide)
  · exact skip_cons (fun _ => by decide) (by simp)
  · exact skip_cons (fun _ => by decide) (by simp)

theorem notMem_of_digits {ds : List Char} (h : Digits ds) : '\x7d' ∉ ds := by
  intro hmem
  exact absurd (h _ hmem) (by decide)

/-- Counts begin with a digit. -/
theorem skip_of_readNumber (h : readNumber cs = some (n, rest)) :
    skip p cs = some cs ∧ ∀ w, cs ≠ ',' :: w := by
  obtain ⟨ds, rfl, hds, hne, -⟩ := exists_digits_of_readNumber h
  obtain ⟨d, ds, rfl⟩ := List.exists_cons_of_ne_nil hne
  have hd := hds d List.mem_cons_self
  refine ⟨skip_of_isDigit (Or.inl hd) _, fun w heq => ?_⟩
  exact absurd ((List.cons.inj heq).1 ▸ hd) (by decide)

/-- Counts that both readers admit are read as what they write. -/
theorem exists_counts_of_beginsCounts (h : beginsCounts cs = true) (p : Progress) :
    ∃ v rest least most, cs = v ++ '\x7d' :: rest ∧ '\x7d' ∉ v ∧
      WritesCounts (v ++ ['\x7d']) least most ∧ readCounts p cs = some (least, most, rest) := by
  have hcomma : ∀ w, skip p (',' :: w) = some (',' :: w) :=
    skip_of_isDigit (Or.inr (Or.inl rfl))
  have hclose : ∀ w, skip p ('\x7d' :: w) = some ('\x7d' :: w) :=
    skip_of_isDigit (Or.inr (Or.inr rfl))
  unfold beginsCounts at h
  split at h
  · rename_i least rest hfront
    obtain ⟨hread, -⟩ := countInFront?_eq_some hfront
    obtain ⟨hskip, hne⟩ := skip_of_readNumber (p := p) hread
    have hcounts : readCounts p cs = some (least, some least, rest) := by
      simp [readCounts, hskip, hread, hclose]
    obtain ⟨ds, rfl, hds, hne', rfl⟩ := exists_digits_of_readNumber hread
    exact ⟨ds, rest, _, _, rfl, notMem_of_digits hds, .exactly hds hne', hcounts⟩
  · rename_i least rest hfront
    obtain ⟨hread, -⟩ := countInFront?_eq_some hfront
    obtain ⟨hskip, hne⟩ := skip_of_readNumber (p := p) hread
    have hnone : readNumber ('\x7d' :: rest) = none := by
      simp [readNumber]
    have hcounts : readCounts p cs = some (least, none, rest) := by
      simp [readCounts, hskip, hread, hcomma, hclose, hnone]
    obtain ⟨ds, rfl, hds, hne', rfl⟩ := exists_digits_of_readNumber hread
    exact ⟨ds ++ [','], rest, _, _, by simp, by simp [notMem_of_digits hds],
      by simpa using WritesCounts.atLeast hds hne', hcounts⟩
  · rename_i least rest _ hfront
    split at h
    · rename_i most rest' hfront'
      obtain ⟨hread, -⟩ := countInFront?_eq_some hfront
      obtain ⟨hread', hle⟩ := countInFront?_eq_some hfront'
      obtain ⟨hskip, hne⟩ := skip_of_readNumber (p := p) hread
      obtain ⟨hskip', -⟩ := skip_of_readNumber (p := p) hread'
      have hmost : most ≠ maxNumber := by
        rintro rfl
        exact absurd hle (by decide)
      have hcounts : readCounts p cs = some (least, some most, rest') := by
        simp [readCounts, hskip, hread, hcomma, hclose, hskip', hread', hmost]
      obtain ⟨ds, rfl, hds, hds', rfl⟩ := exists_digits_of_readNumber hread
      obtain ⟨es, rfl, hes, hes', rfl⟩ := exists_digits_of_readNumber hread'
      exact ⟨ds ++ ',' :: es, rest', _, _, by simp,
        by simp [notMem_of_digits hds, notMem_of_digits hes],
        by simpa using WritesCounts.between hds hds' hes hes', hcounts⟩
    · cases h
  · cases h

end Counts

section Signs

variable {p : Progress} {x : Bool} {c : Char} {cs : List Char} {least : Nat} {most : Option Nat}

theorem readRepetition_of_sign (h : countsOfSign? c = some (least, most)) (rest : List Char) :
    readRepetition p (c :: rest) = some (least, most, rest) := by
  unfold countsOfSign? at h
  split at h <;> cases h <;> rfl

/-- Where a part may begin stands no repetition sign. -/
theorem head?_ne_of_readAlike (h : readAlike x .start cs = true)
    (hc : c ∈ ['?', '*', '+', '\x7b']) : cs.head? ≠ some c := by
  cases cs with
  | nil => simp
  | cons d cs =>
      intro hd
      obtain rfl : d = c := by simpa using hd
      simp only [List.mem_cons, List.not_mem_nil, or_false] at hc
      rcases hc with rfl | rfl | rfl | rfl <;> simpa using (readAlike_start_cons h).2

theorem readRepetition_of_readAlike (h : readAlike x .start cs = true) :
    readRepetition p cs = none := by
  unfold readRepetition
  split
  · exact absurd rfl (head?_ne_of_readAlike h (by simp))
  · exact absurd rfl (head?_ne_of_readAlike h (by simp))
  · exact absurd rfl (head?_ne_of_readAlike h (by simp))
  · exact absurd rfl (head?_ne_of_readAlike h (by simp))
  · rfl

/-- Behind a part a part begins, or both readers find the same repetition. -/
theorem readRepetition_alike (h : readAlike p.flags.ignoreSpace .behind cs = true) :
    skip p cs = some cs ∧ (readAlike p.flags.ignoreSpace .start cs = true ∨
      ∃ w rest least most, cs = w ++ rest ∧ readRepetition p cs = some (least, most, rest) ∧
        Repeats p.flags.ignoreSpace w least most ∧
        readAlike p.flags.ignoreSpace .repeated rest = true) := by
  cases cs with
  | nil => exact ⟨rfl, Or.inl rfl⟩
  | cons c cs =>
      rcases readAlike_behind_cons h with ⟨hsign, hrepeated⟩ | ⟨rfl, hcounts, hcounting⟩ |
        ⟨-, hstart⟩
      · obtain ⟨least, most, hsigns⟩ : ∃ least most, countsOfSign? c = some (least, most) := by
          rcases hsign with rfl | rfl | rfl <;> exact ⟨_, _, rfl⟩
        refine ⟨?_, Or.inr ⟨[c], cs, least, most, rfl, readRepetition_of_sign hsigns cs,
          repeats_sign hsigns, hrepeated⟩⟩
        rcases hsign with rfl | rfl | rfl <;> exact skip_cons (fun _ => by decide) (by simp)
      · obtain ⟨v, rest, least, most, rfl, hv, hwrites, hread⟩ :=
          exists_counts_of_beginsCounts hcounts p
        exact ⟨skip_cons (fun _ => by decide) (by simp), Or.inr ⟨'\x7b' :: (v ++ ['\x7d']), rest,
          least, most, by simp, hread, hwrites.repeats, readAlike_of_counting hcounting hv⟩⟩
      · exact ⟨skip_of_readAlike hstart, Or.inl hstart⟩

/-- Behind a repetition sign and the question mark that it may have a part begins. -/
theorem readGreedy_of_readAlike (h : readAlike p.flags.ignoreSpace .repeated cs = true) :
    skip p cs = some cs ∧ Regex.Reading.skip p.flags.ignoreSpace cs = cs ∧
      readAlike p.flags.ignoreSpace .start (readGreedy cs).2 = true ∧
      (readGreedy cs).2.length ≤ cs.length := by
  cases cs with
  | nil => exact ⟨rfl, by cases p.flags.ignoreSpace <;> rfl, rfl, Nat.le_refl _⟩
  | cons c cs =>
      rcases readAlike_repeated_cons h with ⟨rfl, hstart⟩ | ⟨hc, hstart⟩
      · exact ⟨skip_cons (fun _ => by decide) (by simp),
          Regex.Reading.skip_cons (fun _ => by decide) cs, hstart, Nat.le_succ _⟩
      · have hgreedy : readGreedy (c :: cs) = (true, c :: cs) := by
          unfold readGreedy
          split
          · rename_i heq
            cases heq
            exact absurd hc (by decide)
          · rfl
        rw [hgreedy]
        exact ⟨skip_of_readAlike hstart, Regex.Reading.skip_of_readAlike hstart, hstart,
          Nat.le_refl _⟩

end Signs

end Reading
end Extended
end Regex
end DocFilter
