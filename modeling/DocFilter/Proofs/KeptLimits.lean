import DocFilter.Proofs.EqualPatterns

/-!
# Which limits a compiled pattern keeps

Lockstep search refuses an expression that nests too deeply or whose automaton
needs too much room.  Only the second refusal is told apart from all others and
stops the compilation; after the first, the expression is handed to
backtracking search like one that cannot be read.

So an expression that nests too deeply is refused exactly if backtracking search
cannot take it either, and a pattern keeps the nesting limit exactly if it is
searched in lockstep (`limits_are_kept_iff`).  Backtracking search has no limit
on nesting of its own; it limits room only for expressions without hard parts.
-/

namespace DocFilter
namespace Pattern

open Regex

section Overrun

variable {bounds : Plain.Bounds} {fs : Flags} {cs : List Char}

/-- Lockstep search reads a text as this term, and under the flags as this core. -/
def Reads (fs : Flags) (cs : List Char) (t : Regex.Term) (c : Core) : Prop :=
  Regex.Term.ofChars? fs.ignoreSpace cs = some t ∧ ∃ fs', Core.ofTerm? fs t = some (c, fs')

/-- The text can be read, but nests too deeply. -/
def NestsTooDeep (depth : Nat) (fs : Flags) (cs : List Char) : Prop :=
  ∃ t, Regex.Term.ofChars? fs.ignoreSpace cs = some t ∧ depth < t.depth

/-- Nothing but its automaton is in the way of the text. -/
def NeedsRoom (bounds : Plain.Bounds) (fs : Flags) (cs : List Char) : Prop :=
  ∃ t c, Reads fs cs t c ∧ t.depth ≤ bounds.depth ∧ c.fits bounds.room = false

theorem plain_compile_of_nestsTooDeep (h : NestsTooDeep bounds.depth fs cs) :
    Plain.compile bounds fs cs = .error .refused := by
  obtain ⟨t, ht, hdepth⟩ := h
  simp only [Plain.compile, ht, Plain.compileTerm, if_pos hdepth]

theorem plain_compile_of_reads {t : Regex.Term} {c : Core} (h : Reads fs cs t c)
    (hdepth : t.depth ≤ bounds.depth) : Plain.compile bounds fs cs =
      if c.fits bounds.room then .ok (Program.ofCore c) else .error .tooLarge := by
  obtain ⟨ht, fs', hc⟩ := h
  have hnest : ¬ bounds.depth < t.depth := Nat.not_lt.2 hdepth
  simp only [Plain.compile, ht, Plain.compileTerm, if_neg hnest, hc]

theorem plain_compile_of_needsRoom (h : NeedsRoom bounds fs cs) :
    Plain.compile bounds fs cs = .error .tooLarge := by
  obtain ⟨t, c, hreads, hdepth, hroom⟩ := h
  rw [plain_compile_of_reads hreads hdepth, hroom]
  rfl

/-- What compiles keeps both limits. -/
theorem kept_of_plain_compile {t : Regex.Term} {c : Core} {program : Program}
    (h : Plain.compile bounds fs cs = .ok program) (hreads : Reads fs cs t c) :
    t.depth ≤ bounds.depth ∧ c.fits bounds.room = true := by
  obtain ⟨t', c', fs₁, ht', hdepth, hc', hfits, -⟩ := plain_compile_eq_ok h
  obtain ⟨ht, fs₂, hc⟩ := hreads
  cases ht.symm.trans ht'
  cases hc.symm.trans hc'
  exact ⟨hdepth, hfits⟩

theorem depth_lt_of_plain_compile {t : Regex.Term} {c : Core}
    (h : Plain.compile bounds fs cs = .error .refused) (hreads : Reads fs cs t c) :
    bounds.depth < t.depth := by
  rcases Nat.lt_or_ge bounds.depth t.depth with hlt | hle
  · exact hlt
  · rw [plain_compile_of_reads hreads hle] at h
    split at h <;> cases h

end Overrun

section Compilation

variable {o : Options} {limits : Limits} {source letters : String} {p : Pattern}

/-- The limits for lockstep search. -/
def Limits.bounds (limits : Limits) : Plain.Bounds :=
  { depth := limits.nest, room := limits.size }

/-- The limits that an accepted pattern keeps. -/
structure Kept (limits : Limits) (o : Options) (source : String) (p : Pattern) : Prop where
  /-- The nesting limit is kept exactly by the patterns that are searched in lockstep. -/
  nesting : ∀ t c, Reads o.flags source.toList t c →
    (t.depth ≤ limits.nest ↔ p.isBacktracking = false)
  /-- They keep the limit on room as well. -/
  room : p.isBacktracking = false → ∀ t c, Reads o.flags source.toList t c →
    c.fits limits.size = true
  /-- Backtracking search keeps the limit on room for what both readers take alike. -/
  commonRoom : readAlike o.ignoreSpace .start source.toList = true →
    ∀ t c, Reads o.flags source.toList t c → c.fits limits.size = true
  /-- Otherwise it keeps the limit on room, and the default of the nesting limit, for the plain
  expression that it makes of a source without hard parts. -/
  easy : p.isBacktracking = true → ∀ u,
    Extended.Term.ofChars? (o.inlineFlags ++ source.toList) = some u → u.hard = false →
      ∃ program, Plain.compile { depth := ({} : Limits).nest, room := limits.size } {}
        (u.spell 0) = .ok program

theorem compile_eq_invalid_iff (ho : Options.ofString letters = .ok o) :
    compile source letters limits = .error (.invalid source) ↔
      Matcher.compile? limits o source.toList = none := by
  unfold compile
  simp only [ho]
  cases Matcher.compile? limits o source.toList <;> simp

theorem matcher_eq_none_of_needsRoom {cs : List Char} (h : NeedsRoom limits.bounds o.flags cs) :
    Matcher.compile? limits o cs = none := by
  have hplain := plain_compile_of_needsRoom h
  rw [Limits.bounds] at hplain
  rw [Matcher.compile?, hplain]

/-- An expression that nests too deeply is left to backtracking search. -/
theorem matcher_eq_none_iff_of_nestsTooDeep {cs : List Char}
    (h : NestsTooDeep limits.nest o.flags cs) : Matcher.compile? limits o cs = none ↔
      Extended.Searcher.compile? limits.size (o.inlineFlags ++ cs) = none := by
  have hplain : Plain.compile limits.bounds o.flags cs = .error .refused :=
    plain_compile_of_nestsTooDeep h
  rw [Limits.bounds] at hplain
  rw [Matcher.compile?, hplain]
  simp

theorem kept_of_compile (ho : Options.ofString letters = .ok o)
    (h : compile source letters limits = .ok p) : Kept limits o source p := by
  obtain ⟨o', m, ho', hm, rfl⟩ := exists_of_compile h
  cases ho.symm.trans ho'
  rcases matcher_cases hm with ⟨program, rfl, hplain⟩ | ⟨s, rfl, hrefused, hs⟩
  · have hkept := fun t c (hreads : Reads o.flags source.toList t c) =>
      kept_of_plain_compile hplain hreads
    exact {
      nesting := fun t c hreads => iff_of_true (hkept t c hreads).1 rfl
      room := fun _ t c hreads => (hkept t c hreads).2
      commonRoom := fun _ t c hreads => (hkept t c hreads).2
      easy := fun hback => by cases hback }
  -- what lockstep search can read has been refused for its nesting alone
  · exact {
      nesting := fun t c hreads => iff_of_false
        (Nat.not_le.2 (depth_lt_of_plain_compile hrefused hreads)) (by simp [isBacktracking])
      room := fun hlockstep => by cases hlockstep
      commonRoom := fun hcs t c ⟨ht, fs, hc⟩ => (searcher_of_readAlike hcs hs ht hc).2
      easy := fun _ u hu heasy => by
        obtain ⟨program, -, hprogram⟩ := searcher_of_easy hs hu heasy
        exact ⟨program, hprogram⟩ }

/-- **Which limits are kept.**  Options that do not exist are refused under all limits.  With
options that do, a source that nests within its limit and needs too much room is refused, and one
that nests too deeply is refused exactly if backtracking search cannot take it.  An accepted pattern
keeps the nesting limit exactly if it is searched in lockstep. -/
theorem limits_are_kept_iff (source letters : String) (limits : Limits) :
    (∀ c, Options.ofString letters = .error c →
      compile source letters limits = .error (.unsupportedOption c)) ∧
      ∀ o, Options.ofString letters = .ok o →
        (NeedsRoom limits.bounds o.flags source.toList →
          compile source letters limits = .error (.invalid source)) ∧
        (NestsTooDeep limits.nest o.flags source.toList →
          (compile source letters limits = .error (.invalid source) ↔
            Extended.Searcher.compile? limits.size (o.inlineFlags ++ source.toList) = none)) ∧
        ∀ p, compile source letters limits = .ok p → Kept limits o source p := by
  refine ⟨fun c hc => by rw [compile, hc], fun o ho => ⟨?_, ?_, fun p => kept_of_compile ho⟩⟩
  · intro h
    rw [compile_eq_invalid_iff ho]
    exact matcher_eq_none_of_needsRoom h
  · intro h
    rw [compile_eq_invalid_iff ho]
    exact matcher_eq_none_iff_of_nestsTooDeep h

/-- A source is refused for want of room, and another one nests too deeply and is accepted, since
backtracking search can take it.  The latter still keeps the limit on room. -/
theorem limits_are_kept_iff_nested :
    compile "a+" "m" { size := 0 } = .error (.invalid "a+") ∧
      NestsTooDeep 0 {} "(a|b)*".toList ∧
      Extended.Searcher.compile? 10485760 "(a|b)*".toList ≠ none ∧
      ∃ p, compile "(a|b)*" "" { nest := 0 } = .ok p ∧ p.isBacktracking = true ∧
        ∃ t c, Reads {} "(a|b)*".toList t c ∧ ¬ t.depth ≤ 0 ∧ c.fits 10485760 = true := by
  have hmulti := (limits_are_kept_iff "a+" "m" { size := 0 }).2 { multiLine := true } rfl
  have hnested := (limits_are_kept_iff "(a|b)*" "" { nest := 0 }).2 {} rfl
  have hroom : NeedsRoom { depth := 250, room := 0 } { multiLine := true } "a+".toList := by
    have hcs : "a+".toList = ['a', '+'] := by decide
    rw [hcs]
    exact ⟨_, _, ⟨rfl, _, rfl⟩, by decide +kernel, by decide +kernel⟩
  have hdeep : NestsTooDeep 0 {} "(a|b)*".toList := ⟨_, rfl, by decide +kernel⟩
  obtain ⟨p, hp, hback, -⟩ : ∃ p, compile "(a|b)*" "" { nest := 0 } = .ok p ∧
      p.isBacktracking = true ∧ p.isMatch "ab" = .ok true :=
    exists_of_answer? (by decide +kernel)
  have hcommon : readAlike false .start "(a|b)*".toList = true := by decide +kernel
  have hkept := hnested.2.2 p hp
  obtain ⟨t, c, hreads⟩ : ∃ t c, Reads {} "(a|b)*".toList t c := ⟨_, _, rfl, _, rfl⟩
  refine ⟨hmulti.1 hroom, hdeep, ?_, p, hp, hback, t, c, hreads, ?_, ?_⟩
  · intro hsearcher
    have hrefused := (hnested.2.1 hdeep).2 hsearcher
    cases hrefused.symm.trans hp
  · rw [hkept.nesting t c hreads, hback]
    exact Bool.noConfusion
  · exact hkept.commonRoom hcommon t c hreads

end Compilation

end Pattern
end DocFilter
