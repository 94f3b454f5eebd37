import DocFilter.Regex.Reading
import DocFilter.Regex.Core

/-!
# Steps of reading

Reading goes through a text sign by sign and keeps the parts of the last branch
and the branches before it.  `Leads` says what reading adds to the parts between
two places of a text, and `Ends` what it has added when it stops.  Both speak
only of reading that succeeds, so how much fuel is left plays no role.

There is one lemma for each sign.  They hold where no blank character has to be
skipped: either none are skipped, or the text has none.
-/

namespace DocFilter
namespace Regex
namespace Reading

open Text

/-- Reading has opened some groups without a name. -/
def opened (x : Bool) (n : Nat) : Progress :=
  { ignoreSpace := x, captures := n }

/-- Reading passes from one text to another and adds parts to the last branch. -/
def Leads (x : Bool) (n : Nat) (cs : List Char) (m : Nat) (rest : List Char) (ts : List Term) :
    Prop :=
  ∀ fuel branches parts r, readBranches fuel (opened x n) branches parts cs = some r →
    ∃ fuel', readBranches fuel' (opened x m) branches (ts.reverse ++ parts) rest = some r

/-- Reading stops before a text.  It adds parts to the last branch and then more branches. -/
def Ends (x : Bool) (n : Nat) (cs : List Char) (m : Nat) (rest : List Char) (ts bs : List Term) :
    Prop :=
  ∀ fuel branches parts r, readBranches fuel (opened x n) branches parts cs = some r →
    r = (Term.ofBranches (branches.reverse ++ Term.ofParts (parts.reverse ++ ts) :: bs),
      opened x m, rest)

/-- The character is not skipped. -/
def Significant (x : Bool) (c : Char) : Prop :=
  x = true → isBlank c = false ∧ c ≠ '#'

/-- The signs that do not stand for themselves. -/
def signs : List Char :=
  [')', '|', '(', '[', '\x7b', '\\', '.', '^', '$', '?', '*', '+']

variable {x : Bool} {n m k : Nat} {c : Char} {cs rest behind : List Char} {ts us bs : List Term}
  {t : Term}

theorem significant_false (c : Char) : Significant false c :=
  fun h => absurd h Bool.false_ne_true

theorem skip_cons (h : Significant x c) (cs : List Char) : skip x (c :: cs) = c :: cs := by
  cases x with
  | false => rfl
  | true =>
      obtain ⟨hblank, hcomment⟩ := h rfl
      simp [skip, dropBlanks, hblank, hcomment]

section Composition

-- the equations of the reader are made here once, for all lemmas that follow one step of it
attribute [local simp] readBranches

theorem Leads.refl (x : Bool) (n : Nat) (cs : List Char) : Leads x n cs n cs [] :=
  fun fuel _ _ _ h => ⟨fuel, h⟩

theorem Leads.trans (h : Leads x n cs m rest ts) (h' : Leads x m rest k behind us) :
    Leads x n cs k behind (ts ++ us) := by
  intro fuel branches parts r hr
  obtain ⟨fuel', hr'⟩ := h fuel branches parts r hr
  rw [List.reverse_append, List.append_assoc]
  exact h' fuel' branches _ r hr'

theorem Leads.ends (h : Leads x n cs m rest ts) (h' : Ends x m rest k behind us bs) :
    Ends x n cs k behind (ts ++ us) bs := by
  intro fuel branches parts r hr
  obtain ⟨fuel', hr'⟩ := h fuel branches parts r hr
  rw [h' fuel' branches _ r hr', List.reverse_append, List.reverse_reverse, List.append_assoc]

theorem ends_nil (x : Bool) (n : Nat) : Ends x n [] n [] [] [] := by
  intro fuel branches parts r h
  cases fuel with
  | zero => cases h
  | succ fuel =>
      have hskip : skip x [] = [] := by
        cases x <;> rfl
      simp only [readBranches, opened, hskip] at h
      cases h
      simp [closeBranches, opened]

theorem ends_close (x : Bool) (n : Nat) (cs : List Char) :
    Ends x n (')' :: cs) n (')' :: cs) [] [] := by
  intro fuel branches parts r h
  cases fuel with
  | zero => cases h
  | succ fuel =>
      have hskip : skip x (')' :: cs) = ')' :: cs := skip_cons (fun _ => by decide) cs
      simp only [readBranches, opened, hskip, if_true] at h
      cases h
      simp [closeBranches, opened]

theorem ends_bar (h : Ends x n cs m rest ts bs) :
    Ends x n ('|' :: cs) m rest [] (Term.ofParts ts :: bs) := by
  intro fuel branches parts r hr
  cases fuel with
  | zero => cases hr
  | succ fuel =>
      have hskip : skip x ('|' :: cs) = '|' :: cs := skip_cons (fun _ => by decide) cs
      simp only [readBranches, opened, hskip] at hr
      rw [h _ _ _ r hr]
      simp

end Composition

section Signs

/-- A character that is no sign stands for itself. -/
theorem leads_literal (h : Significant x c) (hc : c ∉ signs) (cs : List Char) :
    Leads x n (c :: cs) n cs [.literal c] := by
  intro fuel branches parts r hr
  cases fuel with
  | zero => cases hr
  | succ fuel =>
      simp only [signs, List.mem_cons, List.not_mem_nil, or_false, not_or] at hc
      obtain ⟨h₁, h₂, h₃, h₄, h₅, h₆, h₇, h₈, h₉, h₁₀, h₁₁, h₁₂⟩ := hc
      have hcounts : countsOfSign? c = none := by
        unfold countsOfSign?
        split <;> first | contradiction | rfl
      refine ⟨fuel, ?_⟩
      simp only [readBranches, opened, skip_cons h, if_neg h₁, if_neg h₂, if_neg h₃, if_neg h₄,
        if_neg h₅, if_neg h₆, if_neg h₇, if_neg h₈, if_neg h₉, hcounts] at hr
      exact hr

theorem leads_dot (x : Bool) (n : Nat) (cs : List Char) : Leads x n ('.' :: cs) n cs [.dot] := by
  intro fuel branches parts r hr
  cases fuel with
  | zero => cases hr
  | succ fuel =>
      have hskip : skip x ('.' :: cs) = '.' :: cs := skip_cons (fun _ => by decide) cs
      simp only [readBranches, opened, hskip] at hr
      exact ⟨fuel, hr⟩

theorem leads_caret (x : Bool) (n : Nat) (cs : List Char) :
    Leads x n ('^' :: cs) n cs [.anchor .caret] := by
  intro fuel branches parts r hr
  cases fuel with
  | zero => cases hr
  | succ fuel =>
      have hskip : skip x ('^' :: cs) = '^' :: cs := skip_cons (fun _ => by decide) cs
      simp only [readBranches, opened, hskip] at hr
      exact ⟨fuel, hr⟩

theorem leads_dollar (x : Bool) (n : Nat) (cs : List Char) :
    Leads x n ('$' :: cs) n cs [.anchor .dollar] := by
  intro fuel branches parts r hr
  cases fuel with
  | zero => cases hr
  | succ fuel =>
      have hskip : skip x ('$' :: cs) = '$' :: cs := skip_cons (fun _ => by decide) cs
      simp only [readBranches, opened, hskip] at hr
      exact ⟨fuel, hr⟩

theorem leads_escape (h : readEscape x cs = some (t, rest)) (n : Nat) :
    Leads x n ('\\' :: cs) n rest [t] := by
  intro fuel branches parts r hr
  cases fuel with
  | zero => cases hr
  | succ fuel =>
      have hskip : skip x ('\\' :: cs) = '\\' :: cs := skip_cons (fun _ => by decide) cs
      simp only [readBranches, opened, hskip] at hr
      exact ⟨fuel, by simpa [h, opened] using hr⟩

theorem leads_class (h : ∀ u behind, readClass x cs = some (u, behind) → u = t ∧ behind = rest)
    (n : Nat) : Leads x n ('[' :: cs) n rest [t] := by
  intro fuel branches parts r hr
  cases fuel with
  | zero => cases hr
  | succ fuel =>
      have hskip : skip x ('[' :: cs) = '[' :: cs := skip_cons (fun _ => by decide) cs
      cases hclass : readClass x cs with
      | none => simp [readBranches, opened, hskip, hclass] at hr
      | some e =>
          obtain ⟨u, behind⟩ := e
          obtain ⟨rfl, rfl⟩ := h u behind hclass
          exact ⟨fuel, by simpa [readBranches, opened, hskip, hclass] using hr⟩

/-- A group is one part, whatever its branches are. -/
theorem leads_group {kind : GroupKind}
    (h : readOpening (opened x n) cs = some (.group kind, opened x k, rest))
    (hbody : Ends x k rest m (')' :: behind) ts bs) :
    Leads x n ('(' :: cs) m behind [.group kind (Term.ofBranches (Term.ofParts ts :: bs))] := by
  intro fuel branches parts r hr
  cases fuel with
  | zero => cases hr
  | succ fuel =>
      have hskip : skip x ('(' :: cs) = '(' :: cs := skip_cons (fun _ => by decide) cs
      have hopening : readOpening { ignoreSpace := x, captures := n } cs =
          some (.group kind, opened x k, rest) := h
      simp only [readBranches, opened, hskip] at hr
      cases hinner : readBranches fuel (opened x k) [] [] rest with
      | none => simp [hopening, hinner] at hr
      | some e =>
          have he := hbody fuel [] [] e hinner
          subst he
          have hinner' : readBranches fuel { ignoreSpace := x, captures := k } [] [] rest =
              some (Term.ofBranches (Term.ofParts ts :: bs), opened x m, ')' :: behind) := hinner
          exact ⟨fuel, by simpa [hopening, hinner', opened] using hr⟩

/-- Reading the text repeats the part before it. -/
def Repeats (x : Bool) (w : List Char) (least : Nat) (most : Option Nat) : Prop :=
  ∀ fuel m branches parts rest r, skip x rest = rest →
    readBranches fuel (opened x m) branches parts (w ++ rest) = some r →
      ∃ fuel', ((repeatLast least most (readGreedy rest).1 parts).bind fun parts =>
        readBranches fuel' (opened x m) branches parts (readGreedy rest).2) = some r

theorem repeats_sign {least : Nat} {most : Option Nat} (h : countsOfSign? c = some (least, most)) :
    Repeats x [c] least most := by
  intro fuel m branches parts rest r _ hr
  cases fuel with
  | zero => cases hr
  | succ fuel =>
      have hsign : c = '?' ∨ c = '*' ∨ c = '+' := by
        unfold countsOfSign? at h
        split at h <;> simp_all
      have hskip : skip x (c :: rest) = c :: rest :=
        skip_cons (fun _ => by rcases hsign with rfl | rfl | rfl <;> decide) rest
      have hread : readBranches (fuel + 1) (opened x m) branches parts (c :: rest) =
          (repeatLast least most (readGreedy rest).1 parts).bind fun parts =>
            readBranches fuel (opened x m) branches parts (readGreedy rest).2 := by
        rcases hsign with rfl | rfl | rfl <;>
          simp [readBranches, opened, hskip, h, Option.bind_eq_bind]
      exact ⟨fuel, hread.symm.trans hr⟩

theorem repeats_counts {w : List Char} {least : Nat} {most : Option Nat}
    (h : ∀ rest e, readCounts x (w ++ rest) = some e → e = (least, most, rest)) :
    Repeats x ('\x7b' :: w) least most := by
  intro fuel m branches parts rest r hrest hr
  cases fuel with
  | zero => cases hr
  | succ fuel =>
      have hskip : skip x ('\x7b' :: (w ++ rest)) = '\x7b' :: (w ++ rest) :=
        skip_cons (fun _ => by decide) _
      cases hcounts : readCounts x (w ++ rest) with
      | none => simp [readBranches, opened, hskip, hcounts] at hr
      | some e =>
          obtain rfl := h rest e hcounts
          refine ⟨fuel, ?_⟩
          rw [← hr]
          simp [readBranches, opened, hskip, hcounts, hrest, Option.bind_eq_bind]

/-- A part is repeated by what stands behind it. -/
theorem leads_repeated {w : List Char} {least : Nat} {most : Option Nat}
    (h : Leads x n cs m (w ++ rest) [t]) (hw : Repeats x w least most)
    (hrest : skip x rest = rest) :
    Leads x n cs m (readGreedy rest).2 [.repeated t least most (readGreedy rest).1] := by
  intro fuel branches parts r hr
  obtain ⟨fuel, hr⟩ := h fuel branches parts r hr
  -- what was added is the last part read, so that it is what the repetition takes
  obtain ⟨fuel, hr⟩ := hw fuel m branches _ rest r hrest hr
  simp only [List.reverse_cons, List.reverse_nil, List.nil_append, List.cons_append] at hr ⊢
  cases ht : repeatLast least most (readGreedy rest).1 (t :: parts) with
  | none => simp [ht] at hr
  | some parts' =>
      have hparts : parts' = .repeated t least most (readGreedy rest).1 :: parts := by
        cases t <;> simp_all [repeatLast]
      subst hparts
      exact ⟨fuel, by simpa [ht] using hr⟩

end Signs

section Meaning

variable {fs : Flags} {c d : Core} {ds es : List Core}

/-- Reading passes from one text to another and adds parts with these core expressions. -/
def Adds (fs : Flags) (n : Nat) (cs : List Char) (m : Nat) (rest : List Char) (ds : List Core) :
    Prop :=
  ∃ ts, Leads fs.ignoreSpace n cs m rest ts ∧ Core.ofTerms? fs ts = some (ds, fs)

/-- Reading stops before a text and has read branches with these core expressions. -/
def Closes (fs : Flags) (n : Nat) (cs : List Char) (m : Nat) (rest : List Char)
    (ds : List Core) : Prop :=
  ∃ ts bs, Ends fs.ignoreSpace n cs m rest ts bs ∧
    Core.ofTerms? fs (Term.ofParts ts :: bs) = some (ds, fs)

/-- The core expression of parts in a row. -/
def joined : List Core → Core
  | [] => .empty
  | [c] => c
  | cs => .ofParts cs

/-- The core expression of branches. -/
def chosen : List Core → Core
  | [] => .empty
  | [c] => c
  | cs => .ofBranches cs

theorem ofTerms?_cons {fs' fs'' : Flags} (h : Core.ofTerm? fs t = some (c, fs'))
    (hs : Core.ofTerms? fs' ts = some (ds, fs'')) :
    Core.ofTerms? fs (t :: ts) = some (c :: ds, fs'') := by
  simp [Core.ofTerms?, h, hs]

theorem exists_of_ofTerms?_cons {fs'' : Flags}
    (h : Core.ofTerms? fs (t :: ts) = some (ds, fs'')) :
    ∃ c fs' es, ds = c :: es ∧ Core.ofTerm? fs t = some (c, fs') ∧
      Core.ofTerms? fs' ts = some (es, fs'') := by
  simp only [Core.ofTerms?, Option.bind_eq_bind, Option.bind_eq_some_iff] at h
  obtain ⟨⟨c, fs'⟩, hc, ⟨es, fs₂⟩, hes, hds⟩ := h
  cases hds
  exact ⟨c, fs', es, rfl, hc, hes⟩

theorem ofTerms?_append {fs' fs'' : Flags} (h : Core.ofTerms? fs ts = some (ds, fs'))
    (hs : Core.ofTerms? fs' us = some (es, fs'')) :
    Core.ofTerms? fs (ts ++ us) = some (ds ++ es, fs'') := by
  induction ts generalizing fs ds with
  | nil =>
      cases h
      exact hs
  | cons t ts ih =>
      obtain ⟨c, fs₁, cs, rfl, hc, hcs⟩ := exists_of_ofTerms?_cons h
      exact ofTerms?_cons hc (ih hcs)

theorem length_of_ofTerms? {fs' : Flags} (h : Core.ofTerms? fs ts = some (ds, fs')) :
    ds.length = ts.length := by
  induction ts generalizing fs ds with
  | nil =>
      cases h
      rfl
  | cons t ts ih =>
      obtain ⟨c, fs₁, cs, rfl, hc, hcs⟩ := exists_of_ofTerms?_cons h
      rw [List.length_cons, List.length_cons, ih hcs]

theorem ofTerm?_ofParts {fs' : Flags} (h : Core.ofTerms? fs ts = some (ds, fs')) :
    Core.ofTerm? fs (Term.ofParts ts) = some (joined ds, fs') := by
  rcases ts with _ | ⟨t, _ | ⟨u, ts⟩⟩
  · cases h
    rfl
  · obtain ⟨c, fs₁, cs, rfl, hc, hcs⟩ := exists_of_ofTerms?_cons h
    cases hcs
    exact hc
  · obtain ⟨c, fs₁, cs, rfl, hc, hcs⟩ := exists_of_ofTerms?_cons h
    obtain ⟨c', fs₂, cs', rfl, hc', hcs'⟩ := exists_of_ofTerms?_cons hcs
    simp [Term.ofParts, Core.ofTerm?, h, joined]

theorem ofTerm?_ofBranches {fs' : Flags} (h : Core.ofTerms? fs ts = some (ds, fs')) :
    Core.ofTerm? fs (Term.ofBranches ts) = some (chosen ds, fs') := by
  rcases ts with _ | ⟨t, _ | ⟨u, ts⟩⟩
  · cases h
    rfl
  · obtain ⟨c, fs₁, cs, rfl, hc, hcs⟩ := exists_of_ofTerms?_cons h
    cases hcs
    exact hc
  · obtain ⟨c, fs₁, cs, rfl, hc, hcs⟩ := exists_of_ofTerms?_cons h
    obtain ⟨c', fs₂, cs', rfl, hc', hcs'⟩ := exists_of_ofTerms?_cons hcs
    simp [Term.ofBranches, Core.ofTerm?, h, chosen]

theorem Adds.of_leads (h : Leads fs.ignoreSpace n cs m rest [t])
    (hc : Core.ofTerm? fs t = some (c, fs)) : Adds fs n cs m rest [c] :=
  ⟨[t], h, ofTerms?_cons hc rfl⟩

theorem Adds.refl (fs : Flags) (n : Nat) (cs : List Char) : Adds fs n cs n cs [] :=
  ⟨[], Leads.refl _ n cs, rfl⟩

theorem Adds.trans (h : Adds fs n cs m rest ds) (h' : Adds fs m rest k behind es) :
    Adds fs n cs k behind (ds ++ es) := by
  obtain ⟨ts, hts, hds⟩ := h
  obtain ⟨us, hus, hes⟩ := h'
  exact ⟨ts ++ us, hts.trans hus, ofTerms?_append hds hes⟩

/-- A text that is empty or begins with a closing parenthesis ends the branches before it. -/
def Closing (cs : List Char) : Prop :=
  cs = [] ∨ ∃ rest, cs = ')' :: rest

theorem Adds.closes (h : Adds fs n cs m rest ds) (hrest : Closing rest) :
    Closes fs n cs m rest [joined ds] := by
  obtain ⟨ts, hts, hds⟩ := h
  have hend : Ends fs.ignoreSpace m rest m rest [] [] := by
    rcases hrest with rfl | ⟨rest, rfl⟩
    · exact ends_nil _ m
    · exact ends_close _ m rest
  refine ⟨ts, [], by simpa using hts.ends hend, ?_⟩
  exact ofTerms?_cons (ofTerm?_ofParts hds) rfl

theorem Adds.closes_bar (h : Adds fs n cs m ('|' :: rest) ds)
    (h' : Closes fs m rest k behind es) : Closes fs n cs k behind (joined ds :: es) := by
  obtain ⟨ts, hts, hds⟩ := h
  obtain ⟨us, bs, hus, hes⟩ := h'
  refine ⟨ts, Term.ofParts us :: bs, by simpa using hts.ends (ends_bar hus), ?_⟩
  exact ofTerms?_cons (ofTerm?_ofParts hds) hes

/-- Parentheses that record what the branches between them match. -/
theorem Adds.capture (h : Closes fs (n + 1) cs m (')' :: rest) ds) (hcs : cs.head? ≠ some '?')
    (hskip : skip fs.ignoreSpace cs = cs) :
    Adds fs n ('(' :: cs) m rest [.capture (n + 1) (chosen ds)] := by
  obtain ⟨ts, bs, hts, hds⟩ := h
  have hopening : readOpening (opened fs.ignoreSpace n) cs =
      some (.group (.capture (n + 1)), opened fs.ignoreSpace (n + 1), cs) := by
    unfold readOpening
    rw [opened, hskip]
    split <;> simp_all [opened]
  refine Adds.of_leads (leads_group hopening hts) ?_
  simp [Core.ofTerm?, ofTerm?_ofBranches hds]

/-- Parentheses that change flags, though not whether blank characters are skipped. -/
theorem Adds.flags {changes : FlagChange}
    (hopening : readOpening (opened fs.ignoreSpace n) cs =
      some (.group (.flags changes), opened fs.ignoreSpace n, rest))
    (hskip : (fs.apply changes).ignoreSpace = fs.ignoreSpace)
    (h : Closes (fs.apply changes) n rest m (')' :: behind) ds) :
    Adds fs n ('(' :: cs) m behind [chosen ds] := by
  obtain ⟨ts, bs, hts, hds⟩ := h
  rw [hskip] at hts
  refine Adds.of_leads (leads_group hopening hts) ?_
  simp [Core.ofTerm?, ofTerm?_ofBranches hds]

theorem Adds.repeated {w : List Char} {least : Nat} {most : Option Nat}
    (h : Adds fs n cs m (w ++ rest) [c]) (hw : Repeats fs.ignoreSpace w least most)
    (hrest : skip fs.ignoreSpace rest = rest) :
    Adds fs n cs m (readGreedy rest).2
      [.ofRepeated c least most ((readGreedy rest).1 != fs.swapGreed)] := by
  obtain ⟨ts, hts, hds⟩ := h
  obtain ⟨t, rfl⟩ := List.length_eq_one_iff.1 (length_of_ofTerms? hds).symm
  obtain ⟨c', fs₁, cs', hcs, ht, hnil⟩ := exists_of_ofTerms?_cons hds
  cases hnil
  cases hcs
  refine Adds.of_leads (leads_repeated hts hw hrest) ?_
  simp [Core.ofTerm?, ht]

/-- No part is read from an empty text. -/
theorem ne_nil_of_adds (h : Adds fs n cs m [] [c]) : cs ≠ [] := by
  rintro rfl
  obtain ⟨ts, hts, hds⟩ := h
  have hread : readBranches 1 (opened fs.ignoreSpace n) [] [.dot] [] =
      some (.dot, opened fs.ignoreSpace n, []) := by
    have hskip : skip fs.ignoreSpace [] = [] := by
      cases fs.ignoreSpace <;> rfl
    simp [readBranches, opened, hskip, closeBranches, Term.ofBranches, Term.ofParts]
  obtain ⟨fuel, hr⟩ := hts 1 [] [.dot] _ hread
  have hend := ends_nil _ m fuel [] _ _ hr
  obtain ⟨t, rfl⟩ := List.length_eq_one_iff.1 (length_of_ofTerms? hds).symm
  simp [Term.ofBranches, Term.ofParts] at hend

/-- The core expression of a term that is read as a whole. -/
theorem Closes.ofTerm? (h : Closes fs 0 cs m [] ds)
    (ht : Term.ofChars? fs.ignoreSpace cs = some t) :
    Core.ofTerm? fs t = some (chosen ds, fs) := by
  obtain ⟨ts, bs, hts, hds⟩ := h
  unfold Term.ofChars? at ht
  split at ht
  · rename_i hread
    cases ht
    have heq := hts _ [] [] _ hread
    cases heq
    exact ofTerm?_ofBranches hds
  · cases ht

end Meaning

end Reading
end Regex
end DocFilter
