import DocFilter.Pattern.Basic
import DocFilter.Proofs.CommonReading

/-!
# Patterns that are the same match alike

Patterns are the same if their sources and options are, whatever limits they
were compiled under.  The limits decide which search a pattern gets, and the two
searches read a source by different rules.

So patterns that are the same answer alike, where both answer, if the nesting
limits allow lockstep search for both or for neither, or if the source is
written so that both readers take it alike.  In between lie sources that mean
one thing to lockstep search and another to backtracking.
-/

namespace DocFilter
namespace Pattern

open Regex

section Options

namespace Options

variable {o o' : Options}

theorem addAll_eq_ok {cs : List Char} (h : o.addAll cs = .ok o') : o' =
    { caseInsensitive := o.caseInsensitive || cs.contains 'i'
      multiLine := o.multiLine || cs.contains 'm'
      dotAll := o.dotAll || cs.contains 's'
      unicode := o.unicode || cs.contains 'u'
      ignoreSpace := o.ignoreSpace || cs.contains 'x' } := by
  induction cs generalizing o with
  | nil =>
      cases h
      simp
  | cons c cs ih =>
      rw [addAll] at h
      unfold add? at h
      split at h
      · rename_i o₁ hadd
        rw [ih h]
        split at hadd <;> cases hadd <;> simp
      · cases h

/-- Options are those of any text with the same letters. -/
theorem ofString_congr {s t : String} (hs : ofString s = .ok o) (ht : ofString t = .ok o')
    (h : ∀ c, c ∈ s.toList ↔ c ∈ t.toList) : o = o' := by
  rw [addAll_eq_ok hs, addAll_eq_ok ht]
  simp [h]

theorem ignoreSpace_of_ofString {s : String} (h : ofString s = .ok o) :
    o.ignoreSpace = s.toList.contains 'x' := by
  rw [addAll_eq_ok h]
  rfl

end Options

end Options

section Search

open Extended

/-- A search that is not given up finds the same with more returns. -/
theorem runFrom_of_le {text : Array Char} {start : Nat} {code : Array Extended.Inst}
    {returns more : Nat} {b : Machine.Branch} {stack : Machine.Stack} (hle : returns ≤ more)
    (h : Machine.runFrom text start code returns b stack ≠ .aborted) :
    Machine.runFrom text start code more b stack =
      Machine.runFrom text start code returns b stack := by
  induction returns generalizing more b stack with
  | zero =>
      rw [Machine.runFrom] at h ⊢
      cases more with
      | zero => rw [Machine.runFrom]
      | succ more =>
          rw [Machine.runFrom]
          cases hleg : Machine.runLeg text start code Machine.legFuel b stack with
          | accepted => rfl
          | exhausted => rfl
          | failed stack' =>
              simp only [hleg] at h ⊢
              cases hbranches : stack'.branches with
              | nil => simp
              | cons b' branches => simp [hbranches] at h
  | succ returns ih =>
      obtain ⟨more, rfl⟩ : ∃ k, more = k + 1 := ⟨more - 1, by omega⟩
      rw [Machine.runFrom] at h ⊢
      rw [Machine.runFrom]
      cases hleg : Machine.runLeg text start code Machine.legFuel b stack with
      | accepted => rfl
      | exhausted => rfl
      | failed stack' =>
          simp only [hleg] at h ⊢
          cases hbranches : stack'.branches with
          | nil => rfl
          | cons b' branches =>
              simp only [hbranches] at h ⊢
              exact ih (by omega) h

/-- Searches that are not given up find the same under any two limits. -/
theorem search_eq_of_not_aborted {s : Searcher} {text : Array Char} {limit limit' : Nat}
    (h : s.search limit text ≠ .aborted) (h' : s.search limit' text ≠ .aborted) :
    s.search limit text = s.search limit' text := by
  cases s with
  | lockstep program => rfl
  | backtracking program =>
      rcases Nat.le_total limit limit' with hle | hle
      · exact (runFrom_of_le hle h).symm
      · exact runFrom_of_le hle h'

end Search

section Plain

variable {bounds bounds' : Plain.Bounds} {fs : Flags} {cs : List Char} {program : Program}

theorem plain_compile_eq_ok (h : Plain.compile bounds fs cs = .ok program) : ∃ t c fs',
    Term.ofChars? fs.ignoreSpace cs = some t ∧ t.depth ≤ bounds.depth ∧
      Core.ofTerm? fs t = some (c, fs') ∧ c.fits bounds.room = true ∧
        program = Program.ofCore c := by
  unfold Plain.compile Plain.compileTerm at h
  split at h
  · cases h
  · rename_i t ht
    split at h
    · cases h
    · rename_i hdepth
      split at h
      · cases h
      · rename_i c fs' hcore
        split at h
        · rename_i hfits
          cases h
          exact ⟨t, c, fs', ht, by omega, hcore, hfits, rfl⟩
        · cases h

theorem plain_compile_unique {program' : Program} (h : Plain.compile bounds fs cs = .ok program)
    (h' : Plain.compile bounds' fs cs = .ok program') : program = program' := by
  obtain ⟨t, c, fs₁, ht, -, hc, -, rfl⟩ := plain_compile_eq_ok h
  obtain ⟨t', c', fs₂, ht', -, hc', -, rfl⟩ := plain_compile_eq_ok h'
  rw [ht] at ht'
  cases ht'
  rw [hc] at hc'
  cases hc'
  rfl

/-- What compiles under one bound and is refused under another nests too deep for the other. -/
theorem plain_compile_refused (h : Plain.compile bounds fs cs = .ok program)
    (h' : Plain.compile bounds' fs cs = .error .refused) :
    ∃ t, Term.ofChars? fs.ignoreSpace cs = some t ∧ t.depth ≤ bounds.depth ∧
      bounds'.depth < t.depth := by
  obtain ⟨t, c, fs₁, ht, hdepth, hc, -⟩ := plain_compile_eq_ok h
  refine ⟨t, ht, hdepth, ?_⟩
  simp only [Plain.compile, ht, Plain.compileTerm, hc] at h'
  split at h'
  · assumption
  · split at h' <;> cases h'

end Plain

section Searcher

open Extended (Searcher)

theorem searcher_unique {room room' : Nat} {cs : List Char} {s s' : Searcher}
    (h : Searcher.compile? room cs = some s) (h' : Searcher.compile? room' cs = some s') :
    s = s' := by
  simp only [Searcher.compile?, Option.bind_eq_bind, Option.bind_eq_some_iff] at h h'
  obtain ⟨t, ht, h⟩ := h
  obtain ⟨t', ht', h'⟩ := h'
  rw [ht] at ht'
  cases ht'
  by_cases hhard : t.hard = true
  · rw [if_pos hhard] at h h'
    exact Option.some.inj (h.symm.trans h')
  · rw [if_neg hhard] at h h'
    split at h
    · rename_i program hplain
      split at h'
      · rename_i program' hplain'
        rw [plain_compile_unique hplain hplain'] at h
        exact Option.some.inj (h.symm.trans h')
      · cases h'
    · cases h

/-- A searcher for a term without hard parts searches in lockstep for the plain expression. -/
theorem searcher_of_easy {room : Nat} {cs : List Char} {s : Searcher} {t : Extended.Term}
    (h : Searcher.compile? room cs = some s) (ht : Extended.Term.ofChars? cs = some t)
    (heasy : t.hard = false) : ∃ program, s = .lockstep program ∧
      Plain.compile { room } {} (t.spell 0) = .ok program := by
  simp only [Searcher.compile?, Option.bind_eq_bind, Option.bind_eq_some_iff] at h
  obtain ⟨t', ht', h⟩ := h
  rw [ht] at ht'
  cases ht'
  rw [heasy, if_neg Bool.false_ne_true] at h
  split at h
  · rename_i program hplain
    exact ⟨program, (Option.some.inj h).symm, hplain⟩
  · cases h

end Searcher

section InlineFlags

open Extended.Reading
open Regex.Reading (Closes Closing chosen)

variable {o : Options} {bound fuel : Nat} {cs : List Char}

theorem readGroup_letters (ho : o.inlineFlags ≠ []) (bound fuel : Nat) (cs : List Char) :
    readGroup (fuel + 1) 1 (opened {} bound 0)
      ('?' :: ({ o with unicode := false }.letters ++ ')' :: cs)) =
        some (.empty, opened o.flags bound 0, cs) := by
  obtain ⟨i, m, s, u, x⟩ := o
  rw [readGroup]
  cases i <;> cases m <;> cases s <;> cases x <;> first | exact absurd rfl ho | rfl

/-- The change of flags in front of an expression is read as an empty part. -/
theorem readAtom_inlineFlags (ho : o.inlineFlags ≠ []) (bound fuel : Nat) (cs : List Char) :
    readAtom (fuel + 2) 0 (opened {} bound 0) (o.inlineFlags ++ cs) =
      some (.empty, opened o.flags bound 0, cs) := by
  rw [← readGroup_letters ho bound fuel cs]
  obtain ⟨i, m, s, u, x⟩ := o
  rw [readAtom]
  cases i <;> cases m <;> cases s <;> cases x <;> first | exact absurd rfl ho | rfl

/-- Options in front of a text that both readers read alike are read as its flags. -/
theorem readParts_inlineFlags (ho : o.inlineFlags ≠ []) (bound fuel : Nat)
    (hcs : readAlike o.ignoreSpace .start cs = true) :
    readParts (fuel + 4) 0 (opened {} bound 0) [] (o.inlineFlags ++ cs) =
      readParts (fuel + 3) 0 (opened o.flags bound 0) [] cs := by
  have hpiece : readPiece (fuel + 3) 0 (opened {} bound 0) (o.inlineFlags ++ cs) =
      some (.empty, opened o.flags bound 0, cs) := by
    have hskip : skip (opened o.flags bound 0) cs = some cs := skip_of_readAlike hcs
    simp [readPiece, readAtom_inlineFlags ho, hskip, readRepetition_of_readAlike hcs]
  rw [readParts]
  simp [hpiece, ho, Extended.Term.isEmpty]

theorem flags_of_inlineFlags (ho : o.inlineFlags = []) : o.flags = {} := by
  obtain ⟨i, m, s, u, x⟩ := o
  cases i <;> cases m <;> cases s <;> cases x <;> first | rfl | cases ho

theorem exists_readBranches_of_ofChars? {t : Extended.Term}
    (ht : Extended.Term.ofChars? cs = some t) : ∃ bound p,
      readBranches (8 * cs.length + 16) 0 (opened {} bound 0) cs = some (t, p, []) := by
  simp only [Extended.Term.ofChars?] at ht
  split at ht
  · rename_i t' p hread
    cases ht
    exact ⟨_, p, hread⟩
  · cases ht

/-- What the expression of a common text means, read as an extended one behind its options. -/
theorem exists_closes_of_ofChars? {t : Extended.Term}
    (ht : Extended.Term.ofChars? (o.inlineFlags ++ cs) = some t)
    (hcs : readAlike o.ignoreSpace .start cs = true) :
    ∃ m ds, Closes o.flags 0 cs m [] ds ∧ Extended.Spells 0 t m (chosen ds) := by
  obtain ⟨bound, p, hread⟩ := exists_readBranches_of_ofChars? ht
  have hagree : ∀ fuel, ReadersAgree o.flags bound fuel := readersAgree rfl rfl bound
  by_cases ho : o.inlineFlags = []
  · rw [ho, ← flags_of_inlineFlags ho] at hread
    obtain ⟨m, ds, -, -, -, -, hcloses, hspells, -⟩ :=
      (hagree _).branches 0 0 cs t p [] hread hcs
    exact ⟨m, ds, hcloses, hspells⟩
  · obtain ⟨fuel, hfuel⟩ : ∃ fuel, 8 * (o.inlineFlags ++ cs).length + 16 = fuel + 4 + 1 :=
      ⟨8 * (o.inlineFlags ++ cs).length + 11, rfl⟩
    rw [hfuel] at hread
    simp only [readBranches, Option.bind_eq_bind, Option.bind_eq_some_iff] at hread
    obtain ⟨⟨first, p₁, rest₁⟩, hparts, rest₂, hskip, hread⟩ := hread
    -- the options are read as an empty part, and then the text as it stands
    rw [readParts_inlineFlags ho bound fuel hcs] at hparts
    obtain ⟨ts, rfl, hfirst⟩ := (hagree _).parts 0 0 [] cs first p₁ rest₁ hparts hcs
    rw [hfirst.skip] at hskip
    cases hskip
    obtain ⟨m, ds, -, -, -, -, hcloses, hspells, -⟩ :=
      branches_of_first (hagree (fuel + 4)).moreBranches hread hfirst
    exact ⟨m, ds, hcloses, hspells⟩

end InlineFlags

section Matching

variable {o : Options} {limits limits' : Limits} {source text : String} {cs : List Char}
  {p q : Pattern} {a b : Bool}

/-- A searcher for a text that both readers read alike runs the plain program, which fits. -/
theorem searcher_of_readAlike {room : Nat} {s : Extended.Searcher} {t : Term} {c : Core}
    {fs : Flags} (hcs : readAlike o.ignoreSpace .start cs = true)
    (hs : Extended.Searcher.compile? room (o.inlineFlags ++ cs) = some s)
    (ht : Term.ofChars? o.ignoreSpace cs = some t) (hc : Core.ofTerm? o.flags t = some (c, fs)) :
    s = .lockstep (Program.ofCore c) ∧ c.fits room = true := by
  obtain ⟨u, hu, -⟩ := Option.bind_eq_some_iff.1 hs
  obtain ⟨m, ds, hcloses, hspells⟩ := exists_closes_of_ofChars? hu hcs
  obtain ⟨program, rfl, hspelled⟩ := searcher_of_easy hs hu hspells.easy
  obtain ⟨t', c', fs', ht', -, hc', hfits, rfl⟩ := plain_compile_eq_ok hspelled
  obtain ⟨es, hes, hchosen⟩ := hspells.body [] (Or.inl rfl)
  rw [List.append_nil] at hes
  rw [hes.ofTerm? ht', hchosen] at hc'
  rw [hcloses.ofTerm? ht] at hc
  cases hc
  cases hc'
  exact ⟨rfl, hfits⟩

/-- Both searches run the same program for a text that both readers read alike. -/
theorem searcher_eq_lockstep {bounds : Plain.Bounds} {room : Nat} {program : Program}
    {s : Extended.Searcher} (hcs : readAlike o.ignoreSpace .start cs = true)
    (hplain : Plain.compile bounds o.flags cs = .ok program)
    (hs : Extended.Searcher.compile? room (o.inlineFlags ++ cs) = some s) :
    s = .lockstep program := by
  obtain ⟨t, c, fs, ht, -, hc, -, rfl⟩ := plain_compile_eq_ok hplain
  exact (searcher_of_readAlike hcs hs ht hc).1

theorem exists_of_compile {letters : String} (h : compile source letters limits = .ok p) : ∃ o m,
    Options.ofString letters = .ok o ∧ Matcher.compile? limits o source.toList = some m ∧
      p = ⟨source, o, m⟩ := by
  unfold compile at h
  split at h
  · cases h
  · rename_i o ho
    split at h
    · rename_i m hm
      cases h
      exact ⟨o, m, ho, hm, rfl⟩
    · cases h

theorem matcher_cases {m : Matcher} (h : Matcher.compile? limits o cs = some m) :
    (∃ program, m = .lockstep program ∧
      Plain.compile { depth := limits.nest, room := limits.size } o.flags cs = .ok program) ∨
    ∃ s, m = .backtracking s limits.backtrack ∧
      Plain.compile { depth := limits.nest, room := limits.size } o.flags cs = .error .refused ∧
      Extended.Searcher.compile? limits.size (o.inlineFlags ++ cs) = some s := by
  unfold Matcher.compile? at h
  split at h
  · rename_i program hprogram
    cases h
    exact Or.inl ⟨program, rfl, hprogram⟩
  · cases h
  · rename_i hrefused
    obtain ⟨s, hs, rfl⟩ := Option.map_eq_some_iff.1 h
    exact Or.inr ⟨s, rfl, hrefused, hs⟩

theorem isMatch_lockstep {program : Program} (h : p.matcher = .lockstep program) :
    p.isMatch text = .ok (Search.isMatch program text.toList.toArray) := by
  rw [isMatch, h]

theorem search_of_isMatch {s : Extended.Searcher} {limit : Nat}
    (h : p.matcher = .backtracking s limit) (ha : p.isMatch text = .ok a) :
    s.search limit text.toList.toArray = if a then .found else .notFound := by
  simp only [isMatch, h] at ha
  cases hsearch : s.search limit text.toList.toArray with
  | found =>
      rw [hsearch] at ha
      cases ha
      rfl
  | notFound =>
      rw [hsearch] at ha
      cases ha
      rfl
  | aborted =>
      rw [hsearch] at ha
      cases ha

/-- Both limits allow the nesting of a source, or neither does. -/
def NestsAlike (ignoreSpace : Bool) (source : String) (limits limits' : Limits) : Prop :=
  ∀ t, Regex.Term.ofChars? ignoreSpace source.toList = some t →
    (t.depth ≤ limits.nest ↔ t.depth ≤ limits'.nest)

theorem NestsAlike.symm {x : Bool} (h : NestsAlike x source limits limits') :
    NestsAlike x source limits' limits :=
  fun t ht => (h t ht).symm

/-- A pattern for lockstep search and one for backtracking search answer alike if both readers read
the source alike.  Limits that treat its nesting alike do not make two such patterns. -/
theorem isMatch_eq_of_mixed {program : Program} {s : Extended.Searcher}
    {limit room size size' : Nat} (hp : p.matcher = .lockstep program)
    (hq : q.matcher = .backtracking s limit)
    (hplain : Plain.compile { depth := limits.nest, room := size } o.flags source.toList =
      .ok program)
    (hrefused : Plain.compile { depth := limits'.nest, room := size' } o.flags source.toList =
      .error .refused)
    (hs : Extended.Searcher.compile? room (o.inlineFlags ++ source.toList) = some s)
    (h : NestsAlike o.ignoreSpace source limits limits' ∨
      readAlike o.ignoreSpace .start source.toList = true)
    (ha : p.isMatch text = .ok a) (hb : q.isMatch text = .ok b) : a = b := by
  rcases h with hnest | hcs
  · obtain ⟨t, ht, hle, hlt⟩ := plain_compile_refused hplain hrefused
    exact absurd ((hnest t ht).1 hle) (Nat.not_le.2 hlt)
  · cases searcher_eq_lockstep hcs hplain hs
    rw [isMatch_lockstep hp] at ha
    have hsearch := search_of_isMatch hq hb
    cases ha
    rw [Extended.Searcher.search] at hsearch
    split at hsearch <;> cases b <;> simp_all

/-- **Patterns that are the same match alike.**  Two patterns compiled from one source with the same
option letters are the same.  Where both answer for a text they answer alike, if the limits allow
the nesting of the source under both or under neither, or if the source is written so that both
readers take it alike. -/
theorem equal_patterns_match_alike {letters letters' : String}
    (hletters : ∀ c, c ∈ letters.toList ↔ c ∈ letters'.toList)
    (hp : compile source letters limits = .ok p) (hq : compile source letters' limits' = .ok q)
    (h : NestsAlike (letters.toList.contains 'x') source limits limits' ∨
      readAlike (letters.toList.contains 'x') .start source.toList = true)
    (ha : p.isMatch text = .ok a) (hb : q.isMatch text = .ok b) : (p == q) = true ∧ a = b := by
  obtain ⟨o, m, ho, hm, rfl⟩ := exists_of_compile hp
  obtain ⟨o', m', ho', hm', rfl⟩ := exists_of_compile hq
  obtain rfl : o = o' := Options.ofString_congr ho ho' hletters
  rw [← Options.ignoreSpace_of_ofString ho] at h
  refine ⟨by simp [BEq.beq], ?_⟩
  rcases matcher_cases hm with ⟨program, rfl, hplain⟩ | ⟨s, rfl, hrefused, hs⟩
  · rcases matcher_cases hm' with ⟨program', rfl, hplain'⟩ | ⟨s', rfl, hrefused', hs'⟩
    · cases plain_compile_unique hplain hplain'
      rw [isMatch_lockstep rfl] at ha hb
      exact Except.ok.inj (ha.symm.trans hb)
    · exact isMatch_eq_of_mixed rfl rfl hplain hrefused' hs' h ha hb
  · rcases matcher_cases hm' with ⟨program', rfl, hplain'⟩ | ⟨s', rfl, hrefused', hs'⟩
    · have hmixed := h.imp_left NestsAlike.symm
      exact (isMatch_eq_of_mixed rfl rfl hplain' hrefused hs hmixed hb ha).symm
    -- both search by backtracking, under limits that neither search has reached
    · cases searcher_unique hs hs'
      have hsearch := search_of_isMatch rfl ha
      have hsearch' := search_of_isMatch rfl hb
      have heq : s.search limits.backtrack text.toList.toArray =
          s.search limits'.backtrack text.toList.toArray :=
        search_eq_of_not_aborted (by rw [hsearch]; cases a <;> simp)
          (by rw [hsearch']; cases b <;> simp)
      rw [hsearch, hsearch'] at heq
      cases a <;> cases b <;> simp_all

/-- How a pattern is searched, and its answer for a text. -/
def answer? (source letters : String) (limits : Limits) (text : String) : Option (Bool × Bool) :=
  (compile source letters limits).toOption.bind fun p =>
    (p.isMatch text).toOption.map fun b => (p.isBacktracking, b)

theorem exists_of_answer? {letters : String} {e : Bool}
    (h : answer? source letters limits text = some (e, b)) :
    ∃ p, compile source letters limits = .ok p ∧ p.isBacktracking = e ∧
      p.isMatch text = .ok b := by
  obtain ⟨p, hp, h⟩ := Option.bind_eq_some_iff.1 h
  obtain ⟨b', hb, h⟩ := Option.map_eq_some_iff.1 h
  cases h
  cases hcompile : compile source letters limits with
  | error e => simp [hcompile, Except.toOption] at hp
  | ok q =>
      obtain rfl : q = p := by simpa [hcompile, Except.toOption] using hp
      refine ⟨q, rfl, rfl, ?_⟩
      cases hmatch : q.isMatch text with
      | error e => simp [hmatch, Except.toOption] at hb
      | ok c => simpa [hmatch, Except.toOption] using hb

/-- A pattern that is searched in lockstep under one limit and by backtracking under another. -/
theorem equal_patterns_match_alike_nested : ∃ p q : Pattern,
    compile "^([a-b]\x7b2\x7d|ba)+?c$" "m" {} = .ok p ∧
      compile "^([a-b]\x7b2\x7d|ba)+?c$" "mm" { nest := 0 } = .ok q ∧
      p.isBacktracking = false ∧ q.isBacktracking = true ∧
      p.isMatch "x\nabbac\n" = .ok true ∧ q.isMatch "x\nabbac\n" = .ok true ∧ (p == q) = true := by
  obtain ⟨p, hp, hlockstep, ha⟩ : ∃ p, compile "^([a-b]\x7b2\x7d|ba)+?c$" "m" {} = .ok p ∧
      p.isBacktracking = false ∧ p.isMatch "x\nabbac\n" = .ok true :=
    exists_of_answer? (by decide +kernel)
  obtain ⟨q, hq, hbacktracking, hb⟩ : ∃ q,
      compile "^([a-b]\x7b2\x7d|ba)+?c$" "mm" { nest := 0 } = .ok q ∧
        q.isBacktracking = true ∧ q.isMatch "x\nabbac\n" = .ok true :=
    exists_of_answer? (by decide +kernel)
  have hletters : ∀ c, c ∈ "m".toList ↔ c ∈ "mm".toList := by
    intro c
    simp
  exact ⟨p, q, hp, hq, hlockstep, hbacktracking, ha, hb,
    (equal_patterns_match_alike hletters hp hq (Or.inr (by decide +kernel)) ha hb).1⟩

-- Lockstep search repeats a repetition, backtracking search makes it atomic.
example : answer? "a++a" "" {} "aa" = some (false, true) ∧
    answer? "a++a" "" { nest := 0 } "aa" = some (true, false) := by
  decide +kernel

end Matching

end Pattern
end DocFilter
