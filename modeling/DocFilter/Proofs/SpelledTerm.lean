import DocFilter.Proofs.RepetitionCounts

/-!
# Terms written as plain expressions

A term without hard parts is searched through the plain expression that writes
it.  `Spells` says what reading that expression gives: the term's own core
expression, whatever parentheses its surroundings demand, and groups numbered in
the order in which they are opened.

The lemmas follow the constructors, so that whoever reads a term can build what
is said of it along with the term.
-/

namespace DocFilter
namespace Regex
namespace Extended

open Text
open Regex.Reading

/-- The text does not begin with a sign that would make a repetition before it lazy. -/
def NotLazy (cs : List Char) : Prop :=
  cs.head? ≠ some '?'

theorem NotLazy.append {cs rest : List Char} (h : NotLazy cs) (hrest : NotLazy rest) :
    NotLazy (cs ++ rest) := by
  cases cs with
  | nil => exact hrest
  | cons c cs => simpa [NotLazy] using h

theorem notLazy_of_closing {rest : List Char} (h : Closing rest) : NotLazy rest := by
  rcases h with rfl | ⟨rest, rfl⟩ <;> simp [NotLazy]

/-- Reading the plain expression that writes a term gives a core expression and opens groups. -/
structure Spells (n : Nat) (t : Term) (m : Nat) (c : Core) : Prop where
  easy : t.hard = false
  notLazy : ∀ level, NotLazy (t.spell level)
  atom : t.isEmpty = false → ∀ rest, Adds {} n (t.spell 3 ++ rest) m rest [c]
  piece : t.isEmpty = false → ∀ rest, NotLazy rest → Adds {} n (t.spell 2 ++ rest) m rest [c]
  branch : ∀ rest, NotLazy rest → ∃ ds, Adds {} n (t.spell 1 ++ rest) m rest ds ∧ joined ds = c
  body : ∀ rest, Closing rest → ∃ ds, Closes {} n (t.spell 0 ++ rest) m rest ds ∧ chosen ds = c

variable {n m k : Nat} {t : Term} {ts : List Term} {c d : Core} {cs rest : List Char}

section Wrapping

/-- Parentheses that change flags around a text. -/
theorem adds_wrapped (flags : List Char) (changes : FlagChange) (cs : List Char) {ds : List Core}
    (hflags : ∀ rest, readOpening (opened false n) ('?' :: flags ++ ':' :: rest) =
      some (.group (.flags changes), opened false n, rest))
    (hskip : (Flags.apply {} changes).ignoreSpace = false)
    (h : Closes (Flags.apply {} changes) n (cs ++ ')' :: rest) m (')' :: rest) ds) :
    Adds {} n ('(' :: '?' :: flags ++ ':' :: cs ++ [')'] ++ rest) m rest [chosen ds] := by
  have hadds : Adds {} n ('(' :: ('?' :: flags ++ ':' :: (cs ++ ')' :: rest))) m rest [chosen ds] :=
    Adds.flags (hflags (cs ++ ')' :: rest)) hskip h
  simpa using hadds

theorem adds_wrapIf {ds : List Core} (h : Closes {} n (cs ++ ')' :: rest) m (')' :: rest) ds) :
    Adds {} n (Term.wrapIf true cs ++ rest) m rest [chosen ds] :=
  adds_wrapped [] [] cs (fun _ => rfl) rfl h

end Wrapping

section Atoms

/-- A term that is written alike in all surroundings. -/
theorem spells_of_text (cs : List Char) (hspell : ∀ level, t.spell level = cs)
    (heasy : t.hard = false) (hcs : NotLazy cs)
    (h : ∀ rest, Adds {} n (cs ++ rest) m rest [c]) : Spells n t m c where
  easy := heasy
  notLazy level := by rwa [hspell]
  atom _ rest := by
    rw [hspell]
    exact h rest
  piece _ rest _ := by
    rw [hspell]
    exact h rest
  branch rest _ := by
    rw [hspell]
    exact ⟨[c], h rest, rfl⟩
  body rest hrest := by
    rw [hspell]
    exact ⟨[c], (h rest).closes hrest, rfl⟩

theorem spells_empty (n : Nat) : Spells n .empty n .empty where
  easy := rfl
  notLazy _ := by simp [NotLazy, Term.spell]
  atom h := absurd h (by simp [Term.isEmpty])
  piece h := absurd h (by simp [Term.isEmpty])
  branch rest _ := ⟨[], Adds.refl _ n rest, rfl⟩
  body rest hrest := ⟨[.empty], (Adds.refl {} n rest).closes hrest, rfl⟩

theorem spells_any (n : Nat) (newline : Bool) :
    Spells n (.any newline) n (.ofSet true (Core.dotSet { dotAll := newline })) := by
  cases newline with
  | false =>
      refine spells_of_text ['.'] (fun _ => rfl) rfl (by simp [NotLazy]) fun rest => ?_
      exact Adds.of_leads (leads_dot _ n rest) rfl
  | true =>
      refine spells_of_text "(?s:.)".toList (fun _ => rfl) rfl (by simp [NotLazy])
        fun rest => ?_
      have hdot : Adds { dotAll := true } n ('.' :: ')' :: rest) n (')' :: rest) _ :=
        Adds.of_leads (leads_dot false n _) rfl
      exact adds_wrapped ['s'] [(.dotAll, true)] ['.'] (fun _ => rfl) rfl
        (hdot.closes (Or.inr ⟨rest, rfl⟩))

/-- An anchor that looks for the start or the end of the text, or of a line that a line feed
ends. -/
theorem spells_look (n : Nat) {l : Look}
    (h : l ∈ [.textStart, .textEnd, .lineStart false, .lineEnd false]) :
    Spells n (.look l) n (.look l) := by
  simp only [List.mem_cons, List.not_mem_nil, or_false] at h
  rcases h with rfl | rfl | rfl | rfl
  · refine spells_of_text ['^'] (fun _ => rfl) rfl (by simp [NotLazy]) fun rest => ?_
    exact Adds.of_leads (leads_caret _ n rest) rfl
  · refine spells_of_text ['$'] (fun _ => rfl) rfl (by simp [NotLazy]) fun rest => ?_
    exact Adds.of_leads (leads_dollar _ n rest) rfl
  · refine spells_of_text "(?m:^)".toList (fun _ => rfl) rfl (by simp [NotLazy])
      fun rest => ?_
    have hcaret : Adds { multiLine := true } n ('^' :: ')' :: rest) n (')' :: rest) _ :=
      Adds.of_leads (leads_caret false n _) rfl
    exact adds_wrapped ['m'] [(.multiLine, true)] ['^'] (fun _ => rfl) rfl
      (hcaret.closes (Or.inr ⟨rest, rfl⟩))
  · refine spells_of_text "(?m:$)".toList (fun _ => rfl) rfl (by simp [NotLazy])
      fun rest => ?_
    have hdollar : Adds { multiLine := true } n ('$' :: ')' :: rest) n (')' :: rest) _ :=
      Adds.of_leads (leads_dollar false n _) rfl
    exact adds_wrapped ['m'] [(.multiLine, true)] ['$'] (fun _ => rfl) rfl
      (hdollar.closes (Or.inr ⟨rest, rfl⟩))

/-- What is written in either case, if asked for. -/
theorem adds_foldIf (anyCase : Bool)
    (h : ∀ rest, Adds { caseInsensitive := anyCase } n (cs ++ rest) n rest [c]) (rest : List Char) :
    Adds {} n (Term.foldIf anyCase cs ++ rest) n rest [c] := by
  cases anyCase with
  | false => exact h rest
  | true =>
      exact adds_wrapped ['i'] [(.caseInsensitive, true)] cs (fun _ => rfl) rfl
        ((h (')' :: rest)).closes (Or.inr ⟨rest, rfl⟩))

theorem notLazy_foldIf (anyCase : Bool) (h : NotLazy cs) : NotLazy (Term.foldIf anyCase cs) := by
  cases anyCase with
  | false => exact h
  | true => simp [NotLazy, Term.foldIf]

theorem notLazy_quote (c : Char) : NotLazy (Term.quote c) := by
  unfold Term.quote
  split
  · simp [NotLazy]
  · rename_i hc
    rintro h
    obtain rfl : c = '?' := by simpa using h
    exact hc (by decide)

/-- A quoted character is read as itself. -/
theorem leads_quote (n : Nat) (c : Char) (rest : List Char) :
    Leads false n (Term.quote c ++ rest) n rest [.literal c] := by
  unfold Term.quote
  split
  · rename_i hc
    refine leads_escape ?_ n
    simp only [List.contains_eq_mem, decide_eq_true_eq, String.reduceToList, List.mem_cons,
      List.not_mem_nil, or_false] at hc
    rcases hc with rfl | rfl | rfl | rfl | rfl | rfl | rfl | rfl | rfl | rfl | rfl | rfl | rfl |
      rfl | rfl <;> rfl
  · rename_i hc
    refine leads_literal (significant_false c) ?_ rest
    intro hsign
    simp only [signs, List.mem_cons, List.not_mem_nil, or_false] at hsign
    rcases hsign with rfl | rfl | rfl | rfl | rfl | rfl | rfl | rfl | rfl | rfl | rfl | rfl <;>
      exact hc (by decide)

theorem spells_literal (n : Nat) (c : Char) (anyCase : Bool) : Spells n (.literal c anyCase) n
    (.ofSet true (foldCase { caseInsensitive := anyCase } (Ranges.point c.toNat))) := by
  refine spells_of_text _ (fun _ => rfl) rfl (notLazy_foldIf anyCase (notLazy_quote c)) ?_
  exact adds_foldIf anyCase fun rest => Adds.of_leads (leads_quote n c rest) rfl

/-- A class is written as it was read. -/
theorem spells_charClass {anyCase : Bool} {u : Regex.Term} (hcs : NotLazy cs)
    (hu : Core.ofTerm? { caseInsensitive := anyCase } u =
      some (c, { caseInsensitive := anyCase }))
    (h : ∀ rest, Leads false n (cs ++ rest) n rest [u]) :
    Spells n (.charClass cs anyCase) n c := by
  refine spells_of_text _ (fun _ => rfl) rfl (notLazy_foldIf anyCase hcs) ?_
  exact adds_foldIf anyCase fun rest => Adds.of_leads (h rest) hu

end Atoms

section Compounds

/-- Terms in a row, each with its core expression, that open groups one after the other. -/
def SpellsAll : Nat → List Term → Nat → List Core → Prop
  | n, [], m, ds => m = n ∧ ds = []
  | n, t :: ts, m, ds => ∃ k c es, ds = c :: es ∧ Spells n t k c ∧ SpellsAll k ts m es

variable {ds es : List Core} {us : List Term}

theorem SpellsAll.easy (h : SpellsAll n ts m ds) : Term.hardAny ts = false := by
  induction ts generalizing n ds with
  | nil => rfl
  | cons t ts ih =>
      obtain ⟨k, c, es, rfl, ht, hts⟩ := h
      simp [Term.hardAny, ht.easy, ih hts]

theorem SpellsAll.notLazy_flatten (h : SpellsAll n ts m ds) (level : Nat) :
    NotLazy (Term.spellAll level ts).flatten := by
  induction ts generalizing n ds with
  | nil => simp [NotLazy, Term.spellAll]
  | cons t ts ih =>
      obtain ⟨k, c, es, rfl, ht, hts⟩ := h
      exact (ht.notLazy level).append (ih hts)

theorem SpellsAll.notLazy_bars (h : SpellsAll n ts m ds) (level : Nat) :
    NotLazy (Term.joinByBars (Term.spellAll level ts)) := by
  rcases ts with _ | ⟨t, _ | ⟨u, ts⟩⟩
  · simp [NotLazy, Term.spellAll, Term.joinByBars]
  · obtain ⟨k, c, es, rfl, ht, -⟩ := h
    exact ht.notLazy level
  · obtain ⟨k, c, es, rfl, ht, -⟩ := h
    exact (ht.notLazy level).append (by simp [NotLazy])

/-- Pieces in a row. -/
theorem SpellsAll.adds (h : SpellsAll n ts m ds) (hts : ∀ t ∈ ts, t.isEmpty = false)
    (hrest : NotLazy rest) :
    Adds {} n ((Term.spellAll 2 ts).flatten ++ rest) m rest ds := by
  induction ts generalizing n ds with
  | nil =>
      obtain ⟨rfl, rfl⟩ := h
      exact Adds.refl _ _ rest
  | cons t ts ih =>
      obtain ⟨k, c, es, rfl, ht, hrow⟩ := h
      have hfirst := ht.piece (hts t List.mem_cons_self)
        ((Term.spellAll 2 ts).flatten ++ rest) ((hrow.notLazy_flatten 2).append hrest)
      have hothers := ih hrow fun u hu => hts u (List.mem_cons_of_mem t hu)
      simpa [Term.spellAll] using hfirst.trans hothers

/-- Branches with bars between them. -/
theorem SpellsAll.closes (h : SpellsAll n (t :: ts) m ds) (hrest : Closing rest) :
    Closes {} n (Term.joinByBars (Term.spellAll 1 (t :: ts)) ++ rest) m rest ds := by
  induction ts generalizing n t ds with
  | nil =>
      obtain ⟨k, c, es, rfl, ht, rfl, rfl⟩ := h
      obtain ⟨ds, hds, rfl⟩ := ht.branch rest (notLazy_of_closing hrest)
      exact hds.closes hrest
  | cons u ts ih =>
      obtain ⟨k, c, es, rfl, ht, hrow⟩ := h
      have hbar : NotLazy ('|' :: (Term.joinByBars (Term.spellAll 1 (u :: ts)) ++ rest)) := by
        simp [NotLazy]
      obtain ⟨ds, hds, rfl⟩ := ht.branch _ hbar
      simpa [Term.spellAll, Term.joinByBars] using hds.closes_bar (ih hrow)

/-- A term that is written in parentheses wherever something stands beside it. -/
theorem spells_of_body (hlevels : ∀ level, t.spell level = Term.wrapIf (0 < level) (t.spell 0))
    (heasy : t.hard = false) (hcs : NotLazy (t.spell 0))
    (h : ∀ rest, Closing rest → ∃ ds, Closes {} n (t.spell 0 ++ rest) m rest ds ∧ chosen ds = c) :
    Spells n t m c := by
  have hwrapped : ∀ rest, Adds {} n (Term.wrapIf true (t.spell 0) ++ rest) m rest [c] := by
    intro rest
    obtain ⟨ds, hds, rfl⟩ := h (')' :: rest) (Or.inr ⟨rest, rfl⟩)
    exact adds_wrapIf hds
  refine ⟨heasy, ?_, ?_, ?_, ?_, h⟩
  · intro level
    rw [hlevels]
    cases level with
    | zero => exact hcs
    | succ level => simp [NotLazy, Term.wrapIf]
  · intro _ rest
    rw [hlevels]
    exact hwrapped rest
  · intro _ rest _
    rw [hlevels]
    exact hwrapped rest
  · intro rest _
    rw [hlevels]
    exact ⟨[c], hwrapped rest, rfl⟩

/-- Parts in a row as one term, none of them empty. -/
theorem spells_ofParts (h : SpellsAll n ts m ds) (hts : ∀ t ∈ ts, t.isEmpty = false) :
    Spells n (Term.ofParts ts) m (joined ds) := by
  rcases ts with _ | ⟨t, _ | ⟨u, ts⟩⟩
  · obtain ⟨rfl, rfl⟩ := h
    exact spells_empty _
  · obtain ⟨k, c, es, rfl, ht, rfl, rfl⟩ := h
    exact ht
  · have hrow := fun rest (hrest : NotLazy rest) => h.adds hts hrest
    have hbody : ∀ rest, Closing rest → ∃ ds',
        Closes {} n ((Term.spellAll 2 (t :: u :: ts)).flatten ++ rest) m rest ds' ∧
          chosen ds' = joined ds :=
      fun rest hrest => ⟨[joined ds], (hrow rest (notLazy_of_closing hrest)).closes hrest, rfl⟩
    have hwrapped : ∀ rest, Adds {} n
        (Term.wrapIf true (Term.spellAll 2 (t :: u :: ts)).flatten ++ rest) m rest [joined ds] := by
      intro rest
      obtain ⟨ds', hds', hchosen⟩ := hbody (')' :: rest) (Or.inr ⟨rest, rfl⟩)
      rw [← hchosen]
      exact adds_wrapIf hds'
    refine ⟨h.easy, ?_, fun _ rest => hwrapped rest, fun _ rest _ => hwrapped rest, ?_, hbody⟩
    · intro level
      simp only [Term.ofParts, Term.spell, Term.wrapIf]
      split
      · simp [NotLazy]
      · exact h.notLazy_flatten 2
    · exact fun rest hrest => ⟨ds, hrow rest hrest, rfl⟩

theorem spells_alternatives {u : Term} (h : SpellsAll n (t :: u :: ts) m ds) :
    Spells n (.alternatives (t :: u :: ts)) m (.ofBranches ds) := by
  have hchosen : chosen ds = .ofBranches ds := by
    obtain ⟨k, c, es, rfl, -, l, d, fs, rfl, -, -⟩ := h
    rfl
  refine spells_of_body (fun _ => by simp [Term.spell, Term.wrapIf]) h.easy ?_ ?_
  · simpa [Term.spell, Term.wrapIf] using h.notLazy_bars 1
  · intro rest hrest
    refine ⟨ds, ?_, hchosen⟩
    simpa [Term.spell, Term.wrapIf] using h.closes hrest

theorem spells_capture (h : Spells (n + 1) t m c) :
    Spells n (.capture (n + 1) t) m (.capture (n + 1) c) := by
  refine spells_of_text ('(' :: t.spell 0 ++ [')']) (fun _ => rfl) h.easy (by simp [NotLazy]) ?_
  intro rest
  have hrest : Closing (')' :: rest) := Or.inr ⟨rest, rfl⟩
  obtain ⟨ds, hds, rfl⟩ := h.body _ hrest
  have hadds : Adds {} n ('(' :: (t.spell 0 ++ ')' :: rest)) m rest
      [.capture (n + 1) (chosen ds)] :=
    Adds.capture hds ((h.notLazy 0).append (notLazy_of_closing hrest)) rfl
  simpa using hadds

theorem readGreedy_append (greedy : Bool) (hrest : NotLazy rest) :
    readGreedy ((if greedy then [] else ['?']) ++ rest) = (greedy, rest) := by
  cases greedy with
  | false => rfl
  | true =>
      cases rest with
      | nil => rfl
      | cons c rest =>
          unfold readGreedy
          split
          · simp_all [NotLazy]
          · simp

theorem spells_repeated (least : Nat) (most : Option Nat) (greedy : Bool) (h : Spells n t m c)
    (ht : t.isEmpty = false) :
    Spells n (.repeated t least most greedy) m (.ofRepeated c least most greedy) := by
  have hpiece : ∀ rest, NotLazy rest →
      Adds {} n ((Term.repeated t least most greedy).spell 0 ++ rest) m rest
        [.ofRepeated c least most greedy] := by
    intro rest hrest
    have hadds := (h.atom ht (Term.spellCounts least most ++
      ((if greedy then [] else ['?']) ++ rest))).repeated (repeats_spellCounts least most) rfl
    rw [readGreedy_append greedy hrest] at hadds
    simpa [Term.spell, Term.wrapIf] using hadds
  have hbody : ∀ rest, Closing rest → ∃ ds,
      Closes {} n ((Term.repeated t least most greedy).spell 0 ++ rest) m rest ds ∧
        chosen ds = .ofRepeated c least most greedy :=
    fun rest hrest => ⟨[_], (hpiece rest (notLazy_of_closing hrest)).closes hrest, rfl⟩
  refine ⟨h.easy, ?_, ?_, fun _ => hpiece, fun rest hrest => ⟨[_], hpiece rest hrest, rfl⟩, hbody⟩
  · intro level
    simp only [Term.spell, Term.wrapIf]
    split
    · simp [NotLazy]
    · have hne : t.spell 3 ≠ [] := by
        simpa using ne_nil_of_adds (h.atom ht [])
      obtain ⟨d, ds, hspell⟩ := List.exists_cons_of_ne_nil hne
      have hhead := h.notLazy 3
      rw [hspell] at hhead ⊢
      simpa [NotLazy] using hhead
  · intro _ rest
    obtain ⟨ds, hds, hchosen⟩ := hbody (')' :: rest) (Or.inr ⟨rest, rfl⟩)
    rw [← hchosen]
    exact adds_wrapIf hds

end Compounds

end Extended
end Regex
end DocFilter
