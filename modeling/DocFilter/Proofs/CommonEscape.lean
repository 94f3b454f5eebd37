import DocFilter.Proofs.CommonSyntax
import DocFilter.Proofs.SpelledTerm

/-!
# Escapes in the common syntax

An escape stands for a character without case, for a class with a letter or for
an anchor.  Plain reading folds the case of the character and extended reading
does not, which makes no difference because no other character folds to it.
-/

namespace DocFilter
namespace Regex

open Text

section Case

/-- The code point may be moved by folding, or another moved to it. -/
def MayFold (n : Nat) : Prop :=
  65 ≤ n ∧ n ≤ 90 ∨ 97 ≤ n ∧ n ≤ 122 ∨ 128 ≤ n

instance (n : Nat) : Decidable (MayFold n) :=
  inferInstanceAs (Decidable (_ ∨ _))

theorem mayFold_of_mem_foldPairs : ∀ p ∈ foldPairs, MayFold p.1 ∧ MayFold p.2 := by
  decide +kernel

theorem mem_point {n k : Nat} : Ranges.mem (Ranges.point n) k = true ↔ k = n := by
  simp only [Ranges.mem, Ranges.point]
  split
  · simp
    omega
  · split
    · simp
      omega
    · simp
      omega

/-- A character without case is alone in its closure. -/
theorem closeUnderFolding_point {n : Nat} (h : ¬ MayFold n) :
    closeUnderFolding (Ranges.point n) = Ranges.point n := by
  have hnone : ∀ f : Nat × Nat → Nat, (∀ p ∈ foldPairs, MayFold (f p)) →
      ∀ g : Nat × Nat → Nat × Nat, (foldPairs.filterMap fun p =>
        if Ranges.mem (Ranges.point n) (f p) then some (g p) else none) = [] := by
    intro f hf g
    refine List.filterMap_eq_nil_iff.2 fun p hp => ?_
    have hne : f p ≠ n := by
      rintro rfl
      exact h (hf p hp)
    simp [mem_point, hne]
  have hunion : (Ranges.point n).union [] = Ranges.point n := by
    simp [Ranges.union, Ranges.point, Ranges.join]
  have htargets := hnone Prod.fst (fun p hp => (mayFold_of_mem_foldPairs p hp).1)
    fun p => (p.2, p.2)
  have hsources := hnone Prod.snd (fun p hp => (mayFold_of_mem_foldPairs p hp).2)
    fun p => (p.1, p.1)
  simp only [closeUnderFolding, htargets, Ranges.normalize, List.foldr_nil, hunion, hsources]

theorem foldCase_point {fs : Flags} (hunicode : fs.unicode = true) {n : Nat} (h : ¬ MayFold n) :
    foldCase fs (Ranges.point n) = Ranges.point n := by
  unfold foldCase
  rw [if_pos hunicode, closeUnderFolding_point h, ite_self]

theorem foldCase_of_unicode {fs : Flags} (hunicode : fs.unicode = true) (s : Ranges) :
    foldCase fs s = foldCase { caseInsensitive := fs.caseInsensitive } s := by
  simp [foldCase, hunicode]

end Case

section Escapes

open Extended (Spells spells_literal spells_charClass spells_look)

variable {fs : Flags} {x : Bool} {c d : Char}

theorem standsForItself_iff : Reading.standsForItself c = true ↔
    c.toNat < 128 ∧ c.isAlpha = false ∧ c.isDigit = false ∧ c ≠ '<' ∧ c ≠ '>' := by
  simp [Reading.standsForItself, Char.isAlphanum, and_assoc]

theorem not_mayFold_of_standsForItself (h : Reading.standsForItself c = true) :
    ¬ MayFold c.toNat := by
  have hsmall : ∀ n < 128, Reading.standsForItself (Char.ofNat n) = true → ¬ MayFold n := by
    decide
  obtain ⟨hascii, -⟩ := standsForItself_iff.1 h
  exact hsmall c.toNat hascii (by rwa [Char.ofNat_toNat])

theorem Reading.readEscape_of_standsForItself (h : Reading.standsForItself c = true)
    (rest : List Char) : Reading.readEscape x (c :: rest) = some (.literal c, rest) := by
  simp only [Reading.readEscape]
  split <;> first | exact absurd h (by decide) | rw [if_pos h]

/-- A sign behind a backslash stands for itself in extended expressions too. -/
theorem Extended.Reading.readCommonEscape_of_standsForItself (h : Reading.standsForItself c = true)
    (p : Extended.Reading.Progress) (rest : List Char) :
    Extended.Reading.readCommonEscape p c rest = some (.literal c false, rest) := by
  obtain ⟨-, halpha, -⟩ := standsForItself_iff.1 h
  have hclass : Extended.Reading.letterClass? p c = none := by
    have hletter : ∀ d, d.isAlpha = true → c ≠ d := by
      rintro d hd rfl
      exact Bool.false_ne_true (halpha.symm.trans hd)
    simp [Extended.Reading.letterClass?, Extended.Reading.isClassLetter, hletter]
  have hchar : Extended.Reading.escapedChar? c = some c := by
    unfold Extended.Reading.escapedChar?
    split <;> first | exact absurd h (by decide) | simp [halpha]
  unfold Extended.Reading.readCommonEscape
  split <;> first | exact absurd h (by decide) | simp [hclass, hchar]

/-- Both readers take an escape for the same character, which has no case, or for the same class
with a letter, unless it is an anchor. -/
theorem escape_cases (h : escapesAlike c = true) (hstart : c ≠ 'A') (hend : c ≠ 'z') :
    (∃ d, ¬ MayFold d.toNat ∧
      (∀ x rest, Reading.readEscape x (c :: rest) = some (.literal d, rest)) ∧
      ∀ p rest, Extended.Reading.readCommonEscape p c rest = some (.literal d false, rest)) ∨
    ∃ kind negated,
      (∀ x rest, Reading.readEscape x (c :: rest) = some (.letterClass kind negated, rest)) ∧
      ∀ p rest, Extended.Reading.readCommonEscape p c rest =
        some (.charClass ['\\', c] p.flags.caseInsensitive, rest) := by
  simp only [escapesAlike, Bool.or_eq_true, List.contains_eq_mem, decide_eq_true_eq, List.mem_cons,
    List.not_mem_nil, hstart, hend, or_false] at h
  rcases h with hself | rfl | rfl | rfl | rfl | rfl | rfl | rfl | rfl | rfl | rfl | rfl | rfl
  · exact Or.inl ⟨c, not_mayFold_of_standsForItself hself,
      fun _ => Reading.readEscape_of_standsForItself hself,
      Extended.Reading.readCommonEscape_of_standsForItself hself⟩
  · exact Or.inr ⟨.digit, false, fun _ _ => rfl, fun _ _ => rfl⟩
  · exact Or.inr ⟨.digit, true, fun _ _ => rfl, fun _ _ => rfl⟩
  · exact Or.inr ⟨.space, false, fun _ _ => rfl, fun _ _ => rfl⟩
  · exact Or.inr ⟨.space, true, fun _ _ => rfl, fun _ _ => rfl⟩
  · exact Or.inr ⟨.word, false, fun _ _ => rfl, fun _ _ => rfl⟩
  · exact Or.inr ⟨.word, true, fun _ _ => rfl, fun _ _ => rfl⟩
  all_goals exact Or.inl ⟨_, by decide, fun _ _ => rfl, fun _ _ => rfl⟩

theorem isDigit_of_escapesAlike (h : escapesAlike c = true) : c.isDigit = false := by
  simp only [escapesAlike, Bool.or_eq_true, List.contains_eq_mem, decide_eq_true_eq] at h
  have hletters : ['d', 'D', 's', 'S', 'w', 'W', 'a', 'f', 'n', 'r', 't', 'v', 'A', 'z'].all
      (fun d => !d.isDigit) = true := rfl
  rcases h with hself | hletter
  · exact (standsForItself_iff.1 hself).2.2.1
  · simpa using List.all_eq_true.1 hletters c hletter

/-- An escape that is the same inside a class and outside is read as such. -/
theorem Extended.Reading.readEscape_of_common {p : Extended.Reading.Progress} {u : Extended.Term}
    {rest : List Char} (h : escapesAlike c = true) (hstart : c ≠ 'A') (hend : c ≠ 'z')
    (hcommon : Extended.Reading.readCommonEscape p c rest = some (u, rest)) :
    Extended.Reading.readEscape p (c :: rest) = some (u, p, rest) := by
  have hlook : Extended.Reading.escapedLook? c rest = none := by
    unfold Extended.Reading.escapedLook?
    split <;> first | contradiction | exact absurd h (by decide) | rfl
  simp only [Extended.Reading.readEscape, isDigit_of_escapesAlike h, Bool.false_eq_true, if_false]
  split <;> first | exact absurd h (by decide) | simp [hlook, hcommon]

/-- Both readers take an escape for a character without case. -/
theorem escape_literal (hunicode : fs.unicode = true) (hd : ¬ MayFold d.toNat) (n : Nat) :
    Core.ofTerm? fs (.literal d) = some (.ofSet true (Ranges.point d.toNat), fs) ∧
      Spells n (.literal d false) n (.ofSet true (Ranges.point d.toNat)) := by
  constructor
  · simp [Core.ofTerm?, foldCase_point hunicode hd, hunicode]
  · simpa [foldCase] using spells_literal n d false

/-- Both readers take an escape for a class with a letter. -/
theorem escape_letter (hunicode : fs.unicode = true) (kind : LetterClass) (negated : Bool)
    (hread : ∀ rest, Reading.readEscape false (c :: rest) =
      some (.letterClass kind negated, rest)) (n : Nat) :
    Core.ofTerm? fs (.letterClass kind negated) =
        some (.ofSet true (negateIf negated (kind.ranges true)), fs) ∧
      Spells n (.charClass ['\\', c] fs.caseInsensitive) n
        (.ofSet true (negateIf negated (kind.ranges true))) := by
  constructor
  · simp [Core.ofTerm?, admitted, hunicode]
  · have hcore : Core.ofTerm? { caseInsensitive := fs.caseInsensitive }
        (.letterClass kind negated) = some (.ofSet true (negateIf negated (kind.ranges true)), _) :=
      rfl
    refine spells_charClass (by simp [Extended.NotLazy]) hcore fun rest => ?_
    exact Reading.leads_escape (hread rest) n

/-- Both readers take an escape for an anchor. -/
theorem escape_anchor {a : Anchor} (l : Look) (ha : a.look fs = l)
    (hl : l ∈ [.textStart, .textEnd, .lineStart false, .lineEnd false]) (n : Nat) :
    Core.ofTerm? fs (.anchor a) = some (.look l, fs) ∧ Spells n (.look l) n (.look l) :=
  ⟨by simp [Core.ofTerm?, ha], spells_look n hl⟩

/-- An escape outside of classes means the same to both readers. -/
theorem readEscape_alike (hunicode : fs.unicode = true) (h : escapesAlike c = true)
    (n : Nat) (rest : List Char) :
    ∃ t u d, Reading.readEscape x (c :: rest) = some (t, rest) ∧
      (∀ p : Extended.Reading.Progress, p.flags = fs →
        Extended.Reading.readEscape p (c :: rest) = some (u, p, rest)) ∧
      (Core.ofTerm? fs t = some (d, fs) ∧ Spells n u n d) ∧ u.isEmpty = false := by
  by_cases hstart : c = 'A'
  · subst hstart
    exact ⟨_, _, _, rfl, fun _ _ => rfl, escape_anchor .textStart rfl (by decide) n, rfl⟩
  by_cases hend : c = 'z'
  · subst hend
    exact ⟨_, _, _, rfl, fun _ _ => rfl, escape_anchor .textEnd rfl (by decide) n, rfl⟩
  rcases escape_cases h hstart hend with ⟨d, hd, hplain, hextended⟩ |
    ⟨kind, negated, hplain, hextended⟩
  · exact ⟨_, _, _, hplain x rest, fun p _ =>
      Extended.Reading.readEscape_of_common h hstart hend (hextended p rest),
      escape_literal hunicode hd n, rfl⟩
  · refine ⟨_, .charClass ['\\', c] fs.caseInsensitive, _, hplain x rest, ?_,
      escape_letter hunicode kind negated (hplain false) n, rfl⟩
    rintro p rfl
    exact Extended.Reading.readEscape_of_common h hstart hend (hextended p rest)

end Escapes

end Regex
end DocFilter
