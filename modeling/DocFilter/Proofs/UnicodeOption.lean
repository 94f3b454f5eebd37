import DocFilter.Proofs.PatternIdentity

/-!
# The option that changes nothing

Options reach the two searches by different ways.  Lockstep search is given
flags, and backtracking search an expression with a change of flags in front.
Both start from flags under which classes follow Unicode, so turning this on
once more changes neither the flags nor what the expression in front has to say.

What is left of option letters is then the set of the others
(`unicode_option_changes_nothing`).  Both ways lead to the same flags, those
that the letters turn on one after the other (`Options.Translated`).
-/

namespace DocFilter
namespace Pattern

open Regex
open Regex.Extended.Reading (readAtom opened)

namespace Options

section Translation

/-- The letters as a change that turns their flags on. -/
def changes (cs : List Char) : FlagChange :=
  (cs.filterMap Flag.ofChar?).map (·, true)

variable {o o' : Options} {c : Char} {cs : List Char} {s t : String}

/-- An option turns on the flag of its letter, which for Unicode is on already. -/
theorem flags_of_add? (h : o.add? c = some o') : o'.flags = o.flags.apply (changes [c]) := by
  unfold add? at h
  split at h <;> cases h <;> rfl

theorem apply_changes_cons (fs : Flags) (c : Char) (cs : List Char) :
    fs.apply (changes (c :: cs)) = (fs.apply (changes [c])).apply (changes cs) := by
  rw [Flags.apply, Flags.apply, Flags.apply, ← List.foldl_append, changes, changes, changes,
    ← List.map_append, ← List.filterMap_append, List.singleton_append]

theorem flags_of_addAll (h : o.addAll cs = .ok o') : o'.flags = o.flags.apply (changes cs) := by
  induction cs generalizing o with
  | nil =>
      cases h
      rfl
  | cons c cs ih =>
      rw [addAll] at h
      cases hadd : o.add? c with
      | none =>
          rw [hadd] at h
          cases h
      | some o₁ =>
          rw [hadd] at h
          rw [ih h, flags_of_add? hadd, ← apply_changes_cons]

/-- Both searches start from the flags that the letters turn on: lockstep search is given them, and
backtracking search reads them off what is put in front of the expression, or has them anyway. -/
structure Translated (letters : List Char) (o : Options) : Prop where
  lockstep : o.flags = ({} : Flags).apply (changes letters)
  backtracking : o.inlineFlags = [] ∧ o.flags = {} ∨ ∀ bound fuel cs,
    readAtom (fuel + 2) 0 (opened {} bound 0) (o.inlineFlags ++ cs) =
      some (.empty, opened o.flags bound 0, cs)

theorem translated (h : ofString s = .ok o) : Translated s.toList o where
  lockstep := flags_of_addAll h
  backtracking := by
    by_cases ho : o.inlineFlags = []
    · exact .inl ⟨ho, flags_of_inlineFlags ho⟩
    · exact .inr fun bound fuel cs => readAtom_inlineFlags ho bound fuel cs

/-- Letters that are the same but for `u` are read as options that are the same but for Unicode. -/
theorem eq_but_unicode (hs : ofString s = .ok o) (ht : ofString t = .ok o')
    (h : ∀ c, c ≠ 'u' → (c ∈ s.toList ↔ c ∈ t.toList)) :
    o' = { o with unicode := o'.unicode } := by
  rw [addAll_eq_ok hs, addAll_eq_ok ht]
  simp [h]

end Translation

end Options

section Alike

variable {o o' : Options} {limits : Limits} {source letters letters' : String} {cs : List Char}

/-- Compiling gives two patterns that are searched alike and answer alike for every text, or refuses
the source twice. -/
inductive ActAlike (source : String) : Except Error Pattern → Except Error Pattern → Prop where
  | refused : ActAlike source (.error (.invalid source)) (.error (.invalid source))
  | accepted {p q : Pattern} : p.isBacktracking = q.isBacktracking →
      (∀ text, p.isMatch text = q.isMatch text) → ActAlike source (.ok p) (.ok q)

/-- Neither the flags nor the change of flags in front says whether the Unicode option is given. -/
theorem compile?_unicode (limits : Limits) (o : Options) (unicode : Bool) (cs : List Char) :
    Matcher.compile? limits { o with unicode } cs = Matcher.compile? limits o cs :=
  rfl

theorem actAlike_of_compile? (ho : Options.ofString letters = .ok o)
    (ho' : Options.ofString letters' = .ok o')
    (h : Matcher.compile? limits o' source.toList = Matcher.compile? limits o source.toList) :
    ActAlike source (compile source letters limits) (compile source letters' limits) := by
  simp only [compile, ho, ho', h]
  cases Matcher.compile? limits o source.toList with
  | none => exact .refused
  | some matcher => exact .accepted rfl fun _ => rfl

/-- **The Unicode option changes nothing.**  If all letters are options, and others have the same
letters but for `u`, in any order and with any repetition, then a source is accepted with both or
refused with both.  If it is accepted, both patterns are searched alike and answer alike for every
text.  What both searches start from are the flags that the letters turn on. -/
theorem unicode_option_changes_nothing (source letters letters' : String) (limits : Limits)
    (hknown : ∀ c ∈ letters.toList, c ∈ Options.alphabet)
    (hletters : ∀ c, c ≠ 'u' → (c ∈ letters.toList ↔ c ∈ letters'.toList)) :
    ActAlike source (compile source letters limits) (compile source letters' limits) ∧
      ∃ o, Options.ofString letters = .ok o ∧ Options.Translated letters.toList o := by
  have hknown' : ∀ c ∈ letters'.toList, c ∈ Options.alphabet := by
    intro c hc
    by_cases hu : c = 'u'
    · simp [hu, Options.alphabet]
    · exact hknown c ((hletters c hu).2 hc)
  obtain ⟨o, ho⟩ := Options.exists_addAll (o := {}) hknown
  obtain ⟨o', ho'⟩ := Options.exists_addAll (o := {}) hknown'
  have hsame : Matcher.compile? limits o' source.toList =
      Matcher.compile? limits o source.toList := by
    rw [Options.eq_but_unicode ho ho' hletters, compile?_unicode]
  exact ⟨actAlike_of_compile? ho ho' hsame, o, ho, Options.translated ho⟩

/-- An expression that repeats what it captured is searched by backtracking, whether Unicode is
asked for or not, and a group left open is refused. -/
theorem unicode_option_changes_nothing_captured : ∃ p q : Pattern,
    compile "(a+) \\1 $" "xmxu" { backtrack := 3 } = .ok p ∧
      compile "(a+) \\1 $" "mx" { backtrack := 3 } = .ok q ∧
      p.isBacktracking = true ∧ q.isBacktracking = true ∧
      p.isMatch "xaa\nb" = .ok true ∧ q.isMatch "xaa\nb" = .ok true ∧
      ActAlike "(a" (compile "(a" "xmxu" {}) (compile "(a" "mx" {}) ∧
      ∃ o, Options.ofString "xmxu" = .ok o ∧
        o.flags = ({} : Flags).apply (Options.changes ['x', 'm', 'x', 'u']) := by
  have hxmxu : "xmxu".toList = ['x', 'm', 'x', 'u'] := by decide +kernel
  have hmx : "mx".toList = ['m', 'x'] := by decide +kernel
  have hknown : ∀ c ∈ "xmxu".toList, c ∈ Options.alphabet := by
    simp [hxmxu, Options.alphabet]
  have hletters : ∀ c, c ≠ 'u' → (c ∈ "xmxu".toList ↔ c ∈ "mx".toList) := by
    intro c hc
    simp only [hxmxu, hmx, List.mem_cons, List.not_mem_nil, or_false]
    constructor
    · rintro (rfl | rfl | rfl | hu)
      · exact .inr rfl
      · exact .inl rfl
      · exact .inr rfl
      · exact absurd hu hc
    · rintro (rfl | rfl) <;> simp
  obtain ⟨p, hp, hbacktracking, hanswer⟩ : ∃ p,
      compile "(a+) \\1 $" "xmxu" { backtrack := 3 } = .ok p ∧ p.isBacktracking = true ∧
        p.isMatch "xaa\nb" = .ok true :=
    exists_of_answer? (by decide +kernel)
  obtain ⟨hacts, o, ho, htranslated⟩ :=
    unicode_option_changes_nothing "(a+) \\1 $" "xmxu" "mx" { backtrack := 3 } hknown hletters
  have hrefused := (unicode_option_changes_nothing "(a" "xmxu" "mx" {} hknown hletters).1
  rw [hp] at hacts
  generalize hq : compile "(a+) \\1 $" "mx" { backtrack := 3 } = result at hacts
  cases hacts with
  | @accepted _ q hsearch hmatch =>
      exact ⟨p, q, hp, rfl, hbacktracking, hsearch ▸ hbacktracking, hanswer,
        hmatch "xaa\nb" ▸ hanswer, hrefused, o, ho, hxmxu ▸ htranslated.lockstep⟩

end Alike

end Pattern
end DocFilter
