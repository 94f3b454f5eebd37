import DocFilter.Proofs.EqualPatterns
import DocFilter.Proofs.HashedEquality
import DocFilter.Proofs.Unambiguous
import Mathlib.Data.Char
import Mathlib.Data.List.Sort

/-!
# What a pattern is identified by

Options are given as text in any order and with any repetition, and they are
read as a set.  The text that is written back for them lists its members in
ascending order, so it is the same for all texts with the same characters
(`Canonical`), and it is read back as the options it was written for.  It is the
text given, without its repetitions and sorted (`canonicalText_eq`).

So a pattern is its source and the set of the option characters: this is what
its equality, its hash data and its rendering all depend on, and all that they
depend on.
-/

namespace DocFilter
namespace Pattern

section Letters

namespace Options

/-- The first character of a text that is no option. -/
structure FirstUnknown (cs : List Char) (c : Char) : Prop where
  exists_split : ∃ front back, cs = front ++ c :: back ∧ ∀ d ∈ front, d ∈ alphabet
  unknown : c ∉ alphabet

/-- The characters of a text in strictly ascending order. -/
structure Canonical (cs letters : List Char) : Prop where
  ascending : letters.Pairwise (· < ·)
  mem_iff : ∀ c, c ∈ letters ↔ c ∈ cs

variable {o o' : Options} {c : Char} {cs : List Char} {s t : String}

theorem add?_eq_none_iff : o.add? c = none ↔ c ∉ alphabet := by
  unfold add?
  split <;> simp_all [alphabet]

theorem mem_alphabet_of_add? (h : o.add? c = some o') : c ∈ alphabet := by
  by_contra hc
  rw [add?_eq_none_iff.2 hc] at h
  cases h

/-- The first character that is no option is reported. -/
theorem addAll_eq_error_iff : o.addAll cs = .error c ↔ FirstUnknown cs c := by
  induction cs generalizing o with
  | nil =>
      refine iff_of_false (by simp [addAll]) ?_
      rintro ⟨⟨front, back, hsplit, _⟩, _⟩
      simp at hsplit
  | cons d rest ih =>
      rw [addAll]
      cases hadd : o.add? d with
      | none =>
          have hd : d ∉ alphabet := add?_eq_none_iff.1 hadd
          constructor
          · intro h
            cases h
            exact ⟨⟨[], rest, rfl, by simp⟩, hd⟩
          · rintro ⟨⟨front, back, hsplit, hfront⟩, _⟩
            cases front with
            | nil =>
                cases hsplit
                rfl
            | cons e front =>
                cases hsplit
                exact absurd (hfront d List.mem_cons_self) hd
      | some o₁ =>
          have hd : d ∈ alphabet := mem_alphabet_of_add? hadd
          simp only
          rw [ih]
          constructor
          · rintro ⟨⟨front, back, rfl, hfront⟩, hc⟩
            exact ⟨⟨d :: front, back, rfl, List.forall_mem_cons.2 ⟨hd, hfront⟩⟩, hc⟩
          · rintro ⟨⟨front, back, hsplit, hfront⟩, hc⟩
            cases front with
            | nil =>
                cases hsplit
                exact absurd hd hc
            | cons e front =>
                cases hsplit
                exact ⟨⟨front, back, rfl, (List.forall_mem_cons.1 hfront).2⟩, hc⟩

theorem exists_addAll (h : ∀ d ∈ cs, d ∈ alphabet) : ∃ o', o.addAll cs = .ok o' := by
  cases hadd : o.addAll cs with
  | ok o' =>
      exact ⟨o', rfl⟩
  | error c =>
      obtain ⟨⟨front, back, rfl, _⟩, hc⟩ := addAll_eq_error_iff.1 hadd
      exact absurd (h c (by simp)) hc

theorem mem_alphabet_of_addAll (h : o.addAll cs = .ok o') : ∀ d ∈ cs, d ∈ alphabet := by
  induction cs generalizing o with
  | nil =>
      simp
  | cons d rest ih =>
      rw [addAll] at h
      cases hadd : o.add? d with
      | none =>
          rw [hadd] at h
          cases h
      | some o₁ =>
          rw [hadd] at h
          exact List.forall_mem_cons.2 ⟨mem_alphabet_of_add? hadd, ih h⟩

theorem ascending_letters (o : Options) : o.letters.Pairwise (· < ·) := by
  obtain ⟨i, m, s, u, x⟩ := o
  cases i <;> cases m <;> cases s <;> cases u <;> cases x <;> decide

theorem mem_letters_iff : c ∈ o.letters ↔
    c = 'i' ∧ o.caseInsensitive = true ∨ c = 'm' ∧ o.multiLine = true ∨
      c = 's' ∧ o.dotAll = true ∨ c = 'u' ∧ o.unicode = true ∨
      c = 'x' ∧ o.ignoreSpace = true := by
  have hpart : ∀ (b : Bool) (d : Char), c ∈ (if b then [d] else []) ↔ c = d ∧ b = true := by
    intro b d
    cases b <;> simp
  simp only [letters, List.mem_append, hpart, or_assoc]

/-- The text of options lists the characters that they were read from. -/
theorem canonical_text (h : ofString s = .ok o) : Canonical s.toList o.text.toList := by
  rw [text, String.toList_ofList]
  refine ⟨ascending_letters o, fun c => ?_⟩
  have hknown : c ∈ s.toList → c ∈ alphabet := mem_alphabet_of_addAll h c
  rw [mem_letters_iff, addAll_eq_ok h]
  simp only [Bool.false_or, List.contains_iff_mem]
  constructor
  · rintro (⟨rfl, hc⟩ | ⟨rfl, hc⟩ | ⟨rfl, hc⟩ | ⟨rfl, hc⟩ | ⟨rfl, hc⟩) <;> exact hc
  · intro hc
    have halphabet := hknown hc
    simp only [alphabet, List.mem_cons, List.not_mem_nil, or_false] at halphabet
    rcases halphabet with rfl | rfl | rfl | rfl | rfl <;> simp [hc]

/-- A letter is among options exactly if it was before or has been added. -/
theorem mem_letters_add? {d : Char} (h : o.add? c = some o') :
    d ∈ o'.letters ↔ d ∈ o.letters ∨ d = c := by
  rw [mem_letters_iff, mem_letters_iff]
  unfold add? at h
  split at h <;> grind

/-- Sorting letters without repetition writes the options that have them. -/
theorem mergeSort_eq_letters (hnodup : cs.Nodup) (hmem : ∀ c, c ∈ cs ↔ c ∈ o.letters) :
    cs.mergeSort = o.letters := by
  have hletters := ascending_letters o
  have hperm : cs.mergeSort.Perm o.letters :=
    (List.mergeSort_perm cs _).trans ((List.perm_ext_iff_of_nodup hnodup hletters.nodup).2 hmem)
  exact hperm.eq_of_pairwise' (List.pairwise_mergeSort' (· ≤ ·) cs) (hletters.imp le_of_lt)

/-- Collecting letters finds the same options as adding them one after the other, and the same
first character that is none. -/
theorem collect_eq_addAll {seen : List Char} (hnodup : seen.Nodup)
    (hmem : ∀ c, c ∈ seen ↔ c ∈ o.letters) :
    (collect seen cs).map (·.mergeSort) = (o.addAll cs).map letters := by
  induction cs generalizing o seen with
  | nil =>
      rw [collect, addAll, Except.map, Except.map, mergeSort_eq_letters hnodup hmem]
  | cons c cs ih =>
      rw [collect, addAll]
      cases hadd : o.add? c with
      | none =>
          rw [if_neg (add?_eq_none_iff.1 hadd)]
          rfl
      | some o₁ =>
          rw [if_pos (mem_alphabet_of_add? hadd)]
          have hmem₁ : ∀ d, d ∈ o₁.letters ↔ d ∈ seen ∨ d = c := by
            intro d
            rw [mem_letters_add? hadd, hmem]
          -- a letter that is there already is not appended, and adding its option changes nothing
          by_cases hc : c ∈ seen
          · rw [if_pos hc]
            refine ih hnodup fun d => ?_
            rw [hmem₁]
            constructor
            · exact Or.inl
            · rintro (hd | rfl)
              · exact hd
              · exact hc
          · rw [if_neg hc]
            have hnodup₁ : (seen ++ [c]).Nodup := by
              simpa using hnodup.concat hc
            refine ih hnodup₁ fun d => ?_
            rw [hmem₁, List.mem_append, List.mem_singleton]

/-- The options of a text are written as its letters without repetition and sorted. -/
theorem canonicalText_eq (s : String) : canonicalText s = (ofString s).map text := by
  have hcollect : (collect [] s.toList).map (·.mergeSort) = (ofString s).map letters :=
    collect_eq_addAll List.nodup_nil (by simp [mem_letters_iff])
  calc
    canonicalText s = ((collect [] s.toList).map (·.mergeSort)).map String.ofList := by
      rw [canonicalText]
      cases collect [] s.toList <;> rfl
    _ = ((ofString s).map letters).map String.ofList := by
      rw [hcollect]
    _ = (ofString s).map text := by
      cases ofString s <;> rfl

theorem text_inj : o.text = o'.text ↔ o = o' := by
  constructor
  · intro h
    have hread := ofString_text o
    rw [h, ofString_text o'] at hread
    exact (Except.ok.inj hread).symm
  · rintro rfl
    rfl

/-- Options are the same exactly if the texts they were read from have the same characters. -/
theorem eq_iff_same_letters (hs : ofString s = .ok o) (ht : ofString t = .ok o') :
    o = o' ↔ ∀ c, c ∈ s.toList ↔ c ∈ t.toList := by
  constructor
  · rintro rfl c
    rw [← (canonical_text hs).mem_iff, (canonical_text ht).mem_iff]
  · exact ofString_congr hs ht

end Options

end Letters

section Identity

variable {p q : Pattern} {source letters : String} {limits : Limits}

theorem hashData_eq_iff :
    p.hashData = q.hashData ↔ p.source = q.source ∧ p.options = q.options := by
  simp [Pattern.hashData, Options.text_inj]

/-- Options are left out only where there are none, so the text of them can be read off. -/
theorem optionEntries_inj {a b : String}
    (h : (if a.isEmpty then [] else [("$options", Wire.Tree.string a)]) =
      if b.isEmpty then [] else [("$options", Wire.Tree.string b)]) : a = b := by
  by_cases ha : a.isEmpty = true
  · by_cases hb : b.isEmpty = true
    · rw [String.isEmpty_iff.1 ha, String.isEmpty_iff.1 hb]
    · rw [if_pos ha, if_neg hb] at h
      cases h
  · by_cases hb : b.isEmpty = true
    · rw [if_neg ha, if_pos hb] at h
      cases h
    · rw [if_neg ha, if_neg hb] at h
      cases h
      rfl

theorem tree_regex_inj : Wire.Tree.regex p = Wire.Tree.regex q ↔
    p.source = q.source ∧ p.options = q.options := by
  rw [← Options.text_inj]
  unfold Wire.Tree.regex
  simp only [Wire.Tree.ofList_optionChars]
  constructor
  · intro h
    simp only [Wire.Tree.object.injEq, List.cons.injEq, Prod.mk.injEq, Wire.Tree.string.injEq,
      true_and] at h
    exact ⟨h.1, optionEntries_inj h.2⟩
  · rintro ⟨hsource, htext⟩
    rw [hsource, htext]

theorem render_regex_eq_iff : (Value.regex p).render = (Value.regex q).render ↔
    p.source = q.source ∧ p.options = q.options := by
  rw [Value.render, Value.render, String.ofList_inj, Wire.value_eq_print, Wire.value_eq_print,
    Wire.Tree.print_inj, Wire.tree, Wire.tree, tree_regex_inj]

/-- Options are refused before the source is looked at. -/
theorem compile_eq_unsupportedOption_iff {c : Char} :
    compile source letters limits = .error (.unsupportedOption c) ↔
      Options.FirstUnknown letters.toList c := by
  rw [← Options.addAll_eq_error_iff (o := {}), ← Options.ofString, compile]
  cases Options.ofString letters with
  | error d =>
      simp
  | ok o =>
      simp only [reduceCtorEq, iff_false]
      split <;> simp

/-- A pattern is compiled from its own source and options to the same pattern. -/
theorem compile_again (h : compile source letters limits = .ok p) :
    compile p.source p.options.text limits = .ok p := by
  obtain ⟨o, m, _, hm, rfl⟩ := exists_of_compile h
  simp only [compile, Options.ofString_text, hm]

/-- Two patterns are the same, feed the same data to a hash function and are rendered alike, each
exactly if `P` holds. -/
structure IdenticalIff (p q : Pattern) (P : Prop) : Prop where
  same : (p == q) = true ↔ P
  hashed : p.hashData = q.hashData ↔ P
  rendered : (Value.regex p).render = (Value.regex q).render ↔ P

theorem identicalIff_of_compile {source' letters' : String} {limits' : Limits}
    (hp : compile source letters limits = .ok p) (hq : compile source' letters' limits' = .ok q) :
    IdenticalIff p q (source = source' ∧ ∀ c, c ∈ letters.toList ↔ c ∈ letters'.toList) := by
  obtain ⟨o, m, ho, _, rfl⟩ := exists_of_compile hp
  obtain ⟨o', m', ho', _, rfl⟩ := exists_of_compile hq
  rw [← Options.eq_iff_same_letters ho ho']
  exact ⟨Pattern.beq_iff, hashData_eq_iff, render_regex_eq_iff⟩

/-- **A pattern is its source and the set of its options.**  Whatever the source, the first
character that is no option is refused.  If there is none, the options are written back as the
characters given, in strictly ascending order, and nothing but the source can be refused.  A
compiled pattern compiles from its own source and options to itself, and two of them are the same,
are hashed alike and are rendered alike exactly if their sources are the same and their options
have the same characters. -/
theorem identified_by_source_and_option_set (source letters : String) (limits : Limits) :
    (∀ c, compile source letters limits = .error (.unsupportedOption c) ↔
        Options.FirstUnknown letters.toList c) ∧
      ((∀ c ∈ letters.toList, c ∈ Options.alphabet) →
        ∃ o, Options.ofString letters = .ok o ∧
          Options.Canonical letters.toList o.text.toList ∧
          (compile source letters limits = .error (.invalid source) ∨
            ∃ p, compile source letters limits = .ok p ∧ p.source = source ∧ p.options = o)) ∧
      ∀ p, compile source letters limits = .ok p →
        compile p.source p.options.text limits = .ok p ∧ (p == p) = true ∧
          ∀ source' letters' limits' q, compile source' letters' limits' = .ok q →
            IdenticalIff p q
              (source = source' ∧ ∀ c, c ∈ letters.toList ↔ c ∈ letters'.toList) := by
  refine ⟨fun c => compile_eq_unsupportedOption_iff, fun hknown => ?_, fun p hp => ?_⟩
  · obtain ⟨o, ho⟩ := Options.exists_addAll (o := {}) hknown
    refine ⟨o, ho, Options.canonical_text ho, ?_⟩
    rw [← Options.ofString] at ho
    simp only [compile, ho]
    cases Matcher.compile? limits o source.toList with
    | none =>
        exact Or.inl rfl
    | some matcher =>
        exact Or.inr ⟨_, rfl, rfl, rfl⟩
  · refine ⟨compile_again hp, Pattern.beq_iff.2 ⟨rfl, rfl⟩, ?_⟩
    intro source' letters' limits' q hq
    exact identicalIff_of_compile hp hq

/-- Options in another order and with repetitions make the same pattern, also where its other limits
call for another search; and an option that does not exist is reported for any source. -/
theorem identified_by_source_and_option_set_reordered : ∃ p q : Pattern,
    compile "^a+b" "sm" {} = .ok p ∧ compile "^a+b" "mssm" { nest := 0 } = .ok q ∧
      p.isBacktracking = false ∧ q.isBacktracking = true ∧
      Options.Canonical "sm".toList p.options.text.toList ∧
      compile p.source p.options.text {} = .ok p ∧
      (p == q) = true ∧ p.hashData = q.hashData ∧
      (Value.regex p).render = (Value.regex q).render ∧
      compile "(" "igm" {} = .error (.unsupportedOption 'g') := by
  obtain ⟨p, hp, hlockstep, _⟩ : ∃ p, compile "^a+b" "sm" {} = .ok p ∧ p.isBacktracking = false ∧
      p.isMatch "\naab" = .ok true :=
    exists_of_answer? (by decide +kernel)
  obtain ⟨q, hq, hbacktracking, _⟩ : ∃ q, compile "^a+b" "mssm" { nest := 0 } = .ok q ∧
      q.isBacktracking = true ∧ q.isMatch "\naab" = .ok true :=
    exists_of_answer? (by decide +kernel)
  have hsm : "sm".toList = ['s', 'm'] := by decide +kernel
  have hmssm : "mssm".toList = ['m', 's', 's', 'm'] := by decide +kernel
  have hknown : ∀ c ∈ "sm".toList, c ∈ Options.alphabet := by
    simp [hsm, Options.alphabet]
  have hletters : ∀ c, c ∈ "sm".toList ↔ c ∈ "mssm".toList := by
    intro c
    simp only [hsm, hmssm, List.mem_cons, List.not_mem_nil, or_false]
    constructor
    · rintro (rfl | rfl) <;> simp
    · rintro (rfl | rfl | rfl | rfl) <;> simp
  obtain ⟨_, hread, hcompiled⟩ := identified_by_source_and_option_set "^a+b" "sm" {}
  obtain ⟨hagain, _, hidentical⟩ := hcompiled p hp
  have hcanonical : Options.Canonical "sm".toList p.options.text.toList := by
    obtain ⟨o, _, ho, hinvalid | ⟨p', hp', _, rfl⟩⟩ := hread hknown
    · cases hp.symm.trans hinvalid
    · cases hp.symm.trans hp'
      exact ho
  have hpq := hidentical _ _ _ q hq
  refine ⟨p, q, hp, hq, hlockstep, hbacktracking, hcanonical, hagain, hpq.same.2 ⟨rfl, hletters⟩,
    hpq.hashed.2 ⟨rfl, hletters⟩, hpq.rendered.2 ⟨rfl, hletters⟩, ?_⟩
  have higm : "igm".toList = ['i', 'g', 'm'] := by decide +kernel
  refine ((identified_by_source_and_option_set "(" "igm" {}).1 'g').2 ⟨⟨['i'], ['m'], higm, ?_⟩, ?_⟩
  · simp [Options.alphabet]
  · simp [Options.alphabet]

end Identity

end Pattern
end DocFilter
