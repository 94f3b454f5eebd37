import DocFilter.Proofs.CommonClass
import DocFilter.Proofs.CommonRepetition

/-!
# Both readings of the common syntax

Where extended reading of a text in the common syntax succeeds, plain reading of
the text and plain reading of the expression that writes the extended term add
the same core expressions.  `ReadersAgree` says so for every function of
extended reading at once, with what is left of the text still in the common
syntax, and is proved by induction on the fuel.
-/

namespace DocFilter
namespace Regex
namespace Extended
namespace Reading

open Text
open Regex.Reading (Adds Closes Closing joined chosen Significant leads_literal leads_dot
  leads_caret leads_dollar leads_escape signs countsOfSign? readGreedy)

/-- Extended reading under given flags has opened some groups without a name. -/
def opened (fs : Flags) (bound n : Nat) : Progress :=
  { flags := fs, captures := n, refBound := bound }

/-- A text at which branches or their parts end. -/
def Stops (cs : List Char) : Prop :=
  Closing cs ∨ ∃ rest, cs = '|' :: rest

section Agreement

variable (fs : Flags) (bound fuel : Nat)

/-- Both readers read the same branches, up to a closing parenthesis or the end. -/
def ReadsBranches (n : Nat) (cs : List Char) (t : Term) (p : Progress) (rest : List Char) : Prop :=
  ∃ m ds, p = opened fs bound m ∧ readAlike fs.ignoreSpace .start rest = true ∧
    rest.length ≤ cs.length ∧ Closing rest ∧ Closes fs n cs m rest ds ∧
    Spells n t m (chosen ds) ∧ (rest = cs ∨ t.isEmpty = false)

/-- Both readers read the same parts of a branch. -/
def ReadsParts (n : Nat) (cs : List Char) (ts : List Term) (p : Progress) (rest : List Char) :
    Prop :=
  ∃ m ds, p = opened fs bound m ∧ readAlike fs.ignoreSpace .start rest = true ∧
    rest.length ≤ cs.length ∧ Stops rest ∧ (∀ t ∈ ts, t.isEmpty = false) ∧
    Adds fs n cs m rest ds ∧ SpellsAll n ts m ds ∧ (ts = [] → rest = cs)

/-- Both readers step over the same part, from where one may begin to a place behind it. -/
def StepsOver (place : Place) (n : Nat) (cs : List Char) (t : Term) (p : Progress)
    (rest : List Char) : Prop :=
  ∃ m c, p = opened fs bound m ∧ readAlike fs.ignoreSpace place rest = true ∧
    rest.length < cs.length ∧ Adds fs n cs m rest [c] ∧ Spells n t m c ∧ t.isEmpty = false

def BranchesAgree : Prop :=
  ∀ depth n cs t p rest, readBranches fuel depth (opened fs bound n) cs = some (t, p, rest) →
    readAlike fs.ignoreSpace .start cs = true → ReadsBranches fs bound n cs t p rest

/-- The branches behind a bar mean the same to both readers, whatever stands before the bar. -/
def MoreBranchesAgree : Prop :=
  ∀ depth n branches cs t p rest,
    readMoreBranches fuel depth (opened fs bound n) branches cs = some (t, p, rest) →
      readAlike fs.ignoreSpace .start cs = true → Stops cs → ∃ m ts ds, p = opened fs bound m ∧
        readAlike fs.ignoreSpace .start rest = true ∧ rest.length ≤ cs.length ∧ Closing rest ∧
        t = .alternatives (branches.reverse ++ ts) ∧ (ts = [] → Closing cs) ∧
        SpellsAll n ts m ds ∧
        ∀ k before es, Adds fs k before n cs es → Closes fs k before m rest (joined es :: ds)

def PartsAgree : Prop :=
  ∀ depth n parts cs t p rest,
    readParts fuel depth (opened fs bound n) parts cs = some (t, p, rest) →
      readAlike fs.ignoreSpace .start cs = true →
        ∃ ts, t = Term.ofParts (parts.reverse ++ ts) ∧ ReadsParts fs bound n cs ts p rest

def PieceAgrees : Prop :=
  ∀ depth n cs t p rest, readPiece fuel depth (opened fs bound n) cs = some (t, p, rest) →
    readAlike fs.ignoreSpace .start cs = true →
      rest = cs ∧ Stops cs ∧ p = opened fs bound n ∨ StepsOver fs bound .start n cs t p rest

def AtomAgrees : Prop :=
  ∀ depth n cs t p rest, readAtom fuel depth (opened fs bound n) cs = some (t, p, rest) →
    readAlike fs.ignoreSpace .start cs = true →
      rest = cs ∧ Stops cs ∧ p = opened fs bound n ∧ t = .empty ∨
        StepsOver fs bound .behind n cs t p rest

def GroupAgrees : Prop :=
  ∀ depth n cs t p rest, readGroup fuel depth (opened fs bound n) cs = some (t, p, rest) →
    readAlike fs.ignoreSpace .start ('(' :: cs) = true →
      StepsOver fs bound .behind n ('(' :: cs) t p rest

def BodyAgrees : Prop :=
  ∀ depth n make cs t p rest,
    readBody fuel depth (opened fs bound n) make cs = some (t, p, rest) →
      readAlike fs.ignoreSpace .start cs = true → ∃ m u ds, p = opened fs bound m ∧
        readAlike fs.ignoreSpace .behind rest = true ∧ rest.length < cs.length ∧ t = make u ∧
        Closes fs n cs m (')' :: rest) ds ∧ Spells n u m (chosen ds)

/-- Both readers agree wherever they begin. -/
structure ReadersAgree : Prop where
  branches : BranchesAgree fs bound fuel
  moreBranches : MoreBranchesAgree fs bound fuel
  parts : PartsAgree fs bound fuel
  piece : PieceAgrees fs bound fuel
  atom : AtomAgrees fs bound fuel
  group : GroupAgrees fs bound fuel
  body : BodyAgrees fs bound fuel

end Agreement

section Steps

variable {fs : Flags} {bound fuel : Nat}

theorem isEmpty_ofParts {t : Term} {ts : List Term} (h : ∀ u ∈ t :: ts, u.isEmpty = false) :
    (Term.ofParts (t :: ts)).isEmpty = false := by
  cases ts with
  | nil => exact h t List.mem_cons_self
  | cons u ts => rfl

theorem ReadsParts.skip {n : Nat} {cs rest : List Char} {ts : List Term} {p : Progress}
    (h : ReadsParts fs bound n cs ts p rest) : skip p rest = some rest := by
  obtain ⟨k, ds, rfl, halike, -⟩ := h
  exact skip_of_readAlike halike

/-- The branches up to a closing parenthesis, once the first is read. -/
theorem branches_of_first {fuel' depth n : Nat} {cs rest₁ rest : List Char} {ts : List Term}
    {t : Term} {p₁ p : Progress} (hmore : MoreBranchesAgree fs bound fuel')
    (h : (match rest₁ with
      | '|' :: _ => readMoreBranches fuel' depth p₁ [Term.ofParts ts] rest₁
      | _ => (checkNames p₁).bind fun _ => some (Term.ofParts ts, p₁, rest₁)) = some (t, p, rest))
    (hfirst : ReadsParts fs bound n cs ts p₁ rest₁) : ReadsBranches fs bound n cs t p rest := by
  obtain ⟨k, ds, rfl, halike, hlength, hstops, hts, hadds, hspells, hnil⟩ := hfirst
  have hjoined : Spells n (Term.ofParts ts) k (joined ds) := spells_ofParts hspells hts
  rcases hstops with hclosing | ⟨rest₃, rfl⟩
  · have hread : (t, p, rest) = (Term.ofParts ts, opened fs bound k, rest₁) := by
      rcases hclosing with rfl | ⟨rest₃, rfl⟩ <;> simpa [checkNames, opened, eq_comm] using h
    cases hread
    refine ⟨k, [joined ds], rfl, halike, hlength, hclosing, hadds.closes hclosing, hjoined, ?_⟩
    cases ts with
    | nil => exact Or.inl (hnil rfl)
    | cons u ts => exact Or.inr (isEmpty_ofParts hts)
  · obtain ⟨m, us, es, rfl, halike', hlength', hclosing, rfl, hne, hall, hcloses⟩ :=
      hmore depth k [Term.ofParts ts] _ t p rest h halike (Or.inr ⟨rest₃, rfl⟩)
    cases us with
    | nil =>
        rcases hne rfl with hnil | ⟨_, hclose⟩
        · cases hnil
        · cases hclose
    | cons u us =>
        have hbranches : SpellsAll n (Term.ofParts ts :: u :: us) m (joined ds :: es) :=
          ⟨k, _, es, rfl, hjoined, hall⟩
        have hchosen : chosen (joined ds :: es) = .ofBranches (joined ds :: es) := by
          obtain ⟨_, _, _, rfl, _⟩ := hall
          rfl
        refine ⟨m, joined ds :: es, rfl, halike', Nat.le_trans hlength' hlength, hclosing,
          hcloses n cs ds hadds, ?_, Or.inr rfl⟩
        rw [hchosen]
        exact spells_alternatives hbranches

theorem branches_agree (ih : ReadersAgree fs bound fuel) : BranchesAgree fs bound (fuel + 1) := by
  intro depth n cs t p rest h hcs
  simp only [readBranches, Option.bind_eq_bind, Option.bind_eq_some_iff] at h
  obtain ⟨⟨first, p₁, rest₁⟩, hparts, rest₂, hskip, h⟩ := h
  obtain ⟨ts, rfl, hfirst⟩ := ih.parts depth n [] cs first p₁ rest₁ hparts hcs
  rw [hfirst.skip] at hskip
  cases hskip
  exact branches_of_first ih.moreBranches h hfirst

theorem moreBranches_agree (ih : ReadersAgree fs bound fuel) :
    MoreBranchesAgree fs bound (fuel + 1) := by
  intro depth n branches cs t p rest h hcs hstops
  rcases hstops with hclosing | ⟨rest₁, rfl⟩
  · have hread : (t, p, rest) = (.alternatives branches.reverse, opened fs bound n, cs) := by
      rcases hclosing with rfl | ⟨rest₁, rfl⟩ <;> simpa [readMoreBranches, eq_comm] using h
    cases hread
    exact ⟨n, [], [], rfl, hcs, Nat.le_refl _, hclosing, by simp, fun _ => hclosing, ⟨rfl, rfl⟩,
      fun k before es hadds => hadds.closes hclosing⟩
  · simp only [readMoreBranches, Option.bind_eq_bind, Option.bind_eq_some_iff] at h
    obtain ⟨⟨u, p₁, rest₂⟩, hparts, rest₃, hskip, h⟩ := h
    have hbar : readAlike fs.ignoreSpace .start rest₁ = true := by
      simpa using (readAlike_start_cons hcs).2
    obtain ⟨ts, rfl, k, ds, rfl, halike, hlength, hstops, hts, hadds, hspells, -⟩ :=
      ih.parts depth n [] rest₁ u p₁ rest₂ hparts hbar
    rw [skip_of_readAlike halike] at hskip
    cases hskip
    obtain ⟨m, us, es, rfl, halike', hlength', hclosing, rfl, -, hmore, hcloses⟩ :=
      ih.moreBranches depth k (Term.ofParts ts :: branches) rest₂ t p rest h halike hstops
    refine ⟨m, Term.ofParts ts :: us, joined ds :: es, rfl, halike', ?_, hclosing, by simp,
      by simp, ⟨k, _, es, rfl, spells_ofParts hspells hts, hmore⟩, ?_⟩
    · rw [List.length_cons]
      omega
    · intro l before es' hbefore
      exact hbefore.closes_bar (hcloses n rest₁ ds hadds)

theorem parts_agree (ih : ReadersAgree fs bound fuel) : PartsAgree fs bound (fuel + 1) := by
  intro depth n parts cs t p rest h hcs
  simp only [readParts] at h
  split at h
  · rename_i hempty
    obtain rfl : cs = [] := by simpa using hempty
    cases h
    exact ⟨[], by simp, n, [], rfl, hcs, Nat.le_refl _, Or.inl (Or.inl rfl), by simp,
      Adds.refl _ n [], ⟨rfl, rfl⟩, fun _ => rfl⟩
  · simp only [Option.bind_eq_bind, Option.bind_eq_some_iff] at h
    obtain ⟨⟨u, p₁, rest₁⟩, hpiece, h⟩ := h
    rcases ih.piece depth n cs u p₁ rest₁ hpiece hcs with ⟨rfl, hstops, rfl⟩ | hover
    · simp only [if_true] at h
      cases h
      exact ⟨[], by simp, n, [], rfl, hcs, Nat.le_refl _, hstops, by simp, Adds.refl _ n _,
        ⟨rfl, rfl⟩, fun _ => rfl⟩
    · obtain ⟨k, c, rfl, halike, hlength, hadds, hspells, hu⟩ := hover
      -- the part consumes characters, which keeps reading from stopping here
      rw [if_neg (by simpa using Nat.ne_of_lt hlength), hu, if_neg Bool.false_ne_true] at h
      obtain ⟨ts, rfl, m, ds, rfl, halike', hlength', hstops, hts, hmore, hall, -⟩ :=
        ih.parts depth k (u :: parts) rest₁ t p rest h halike
      refine ⟨u :: ts, by simp, m, c :: ds, rfl, halike', by omega, hstops, ?_,
        hadds.trans hmore, ⟨k, c, ds, rfl, hspells, hall⟩, by simp⟩
      intro v hv
      rcases List.mem_cons.1 hv with rfl | hv
      · exact hu
      · exact hts v hv

theorem body_agrees (ih : ReadersAgree fs bound fuel) : BodyAgrees fs bound (fuel + 1) := by
  intro depth n make cs t p rest h hcs
  simp only [readBody, Option.bind_eq_bind, Option.bind_eq_some_iff] at h
  obtain ⟨⟨u, p₁, rest₁⟩, hbranches, rest₂, hclose, h⟩ := h
  cases h
  obtain ⟨m, ds, rfl, halike, hlength, hclosing, hcloses, hspells, -⟩ :=
    ih.branches depth n cs u p₁ rest₁ hbranches hcs
  rw [readClose, skip_of_readAlike halike] at hclose
  rcases hclosing with rfl | ⟨rest₃, rfl⟩
  · cases hclose
  · cases hclose
    have hbehind : readAlike fs.ignoreSpace .behind rest = true := by
      simpa using (readAlike_start_cons halike).2
    rw [List.length_cons] at hlength
    exact ⟨m, u, ds, rfl, hbehind, hlength, rfl, hcloses, hspells⟩

theorem atom_agrees (hunicode : fs.unicode = true) (hcrlf : fs.crlf = false)
    (ih : ReadersAgree fs bound fuel) : AtomAgrees fs bound (fuel + 1) := by
  intro depth n cs t p rest h hcs
  have hskip : skip (opened fs bound n) cs = some cs := skip_of_readAlike hcs
  simp only [readAtom, hskip, Option.bind_eq_bind, Option.bind_some] at h
  cases cs with
  | nil =>
      cases h
      exact Or.inl ⟨rfl, Or.inl (Or.inl rfl), rfl, rfl⟩
  | cons c cs =>
      obtain ⟨hsig, hcases⟩ := readAlike_start_cons hcs
      have hover : ∀ {u : Term} {d : Core}, readAlike fs.ignoreSpace .behind cs = true →
          Adds fs n (c :: cs) n cs [d] → Spells n u n d → u.isEmpty = false →
            some (u, opened fs bound n, cs) = some (t, p, rest) →
              StepsOver fs bound .behind n (c :: cs) t p rest := by
        intro u d halike hadds hspells hu heq
        cases heq
        exact ⟨n, d, rfl, halike, Nat.lt_succ_self _, hadds, hspells, hu⟩
      rcases hcases with ⟨rfl, hescape⟩ | ⟨rfl, -⟩ | ⟨rfl, -⟩ | ⟨rfl, -⟩ | ⟨rfl, hfront, hinside⟩ |
        ⟨hsigns, hbehind⟩
      · right
        cases cs with
        | nil => cases h
        | cons d cs =>
            obtain ⟨hd, hbehind⟩ := readAlike_escaped_cons hescape
            obtain ⟨u, v, e, hplain, hextended, ⟨hcore, hspells⟩, hv⟩ :=
              readEscape_alike (x := fs.ignoreSpace) hunicode hd n cs
            have hread : readEscape (opened fs bound n) (d :: cs) = some (t, p, rest) := by
              simpa using h
            rw [hextended _ rfl] at hread
            cases hread
            have hadds := Adds.of_leads (leads_escape hplain n) hcore
            refine ⟨n, e, rfl, hbehind, ?_, hadds, hspells, hv⟩
            rw [List.length_cons, List.length_cons]
            omega
      · exact Or.inr (ih.group (depth + 1) n cs t p rest (by simpa using h) hcs)
      · exact Or.inr (ih.group (depth + 1) n cs t p rest (by simpa using h) hcs)
      · left
        cases h
        exact ⟨rfl, Or.inr ⟨cs, rfl⟩, rfl, rfl⟩
      · right
        have hread : (readClass (opened fs bound n) cs).bind
            (fun e => some (e.1, opened fs bound n, e.2)) = some (t, p, rest) := by
          simpa using h
        obtain ⟨⟨u, rest₁⟩, hclass, heq⟩ := Option.bind_eq_some_iff.1 hread
        cases heq
        obtain ⟨c, halike, hlength, hadds, hspells, hu⟩ :=
          readClass_alike hunicode rfl hclass hfront hinside
        exact ⟨n, c, rfl, halike, Nat.lt_succ_of_lt hlength, hadds, hspells, hu⟩
      · simp only [List.mem_cons, List.not_mem_nil, or_false, not_or] at hsigns
        obtain ⟨h₁, h₂, h₃, h₄, h₅, h₆, h₇, h₈⟩ := hsigns
        by_cases hdot : c = '.'
        · subst hdot
          have hcore : Core.ofTerm? fs .dot =
              some (.ofSet true (Core.dotSet { dotAll := fs.dotAll }), fs) := by
            simp [Core.ofTerm?, admitted, hunicode, Core.dotSet, hcrlf]
          exact Or.inr (hover hbehind (Adds.of_leads (leads_dot _ n cs) hcore)
            (spells_any n fs.dotAll) rfl h)
        by_cases hcaret : c = '^'
        · subst hcaret
          have hcore : Core.ofTerm? fs (.anchor .caret) =
              some (.look (if fs.multiLine then .lineStart false else .textStart), fs) := by
            simp [Core.ofTerm?, Anchor.look, hcrlf]
          exact Or.inr (hover hbehind (Adds.of_leads (leads_caret _ n cs) hcore)
            (spells_look n (by cases fs.multiLine <;> decide)) rfl h)
        by_cases hdollar : c = '$'
        · subst hdollar
          have hcore : Core.ofTerm? fs (.anchor .dollar) =
              some (.look (if fs.multiLine then .lineEnd false else .textEnd), fs) := by
            simp [Core.ofTerm?, Anchor.look, hcrlf]
          exact Or.inr (hover hbehind (Adds.of_leads (leads_dollar _ n cs) hcore)
            (spells_look n (by cases fs.multiLine <;> decide)) rfl h)
        by_cases hclose : c = ')'
        · left
          subst hclose
          cases h
          exact ⟨rfl, Or.inl (Or.inr ⟨cs, rfl⟩), rfl, rfl⟩
        · have hliteral : c ∉ signs := by
            simp [signs, h₁, h₂, h₃, h₄, h₅, h₆, h₇, h₈, hdot, hcaret, hdollar, hclose]
          have hcore : Core.ofTerm? fs (.literal c) =
              some (.ofSet true (foldCase { caseInsensitive := fs.caseInsensitive }
                (Ranges.point c.toNat)), fs) := by
            rw [Core.ofTerm?, hunicode, foldCase_of_unicode hunicode]
          have hread : some (Term.literal c fs.caseInsensitive, opened fs bound n, cs) =
              some (t, p, rest) := by
            simpa [opened, h₁, h₂, h₃, h₄, h₅, h₆, h₇, hdot, hcaret, hdollar, hclose] using h
          exact Or.inr (hover hbehind (Adds.of_leads (leads_literal hsig hliteral cs) hcore)
            (spells_literal n c fs.caseInsensitive) rfl hread)

theorem readGroup_capture {p : Progress} {depth : Nat} {cs : List Char}
    (hskip : skip p cs = some cs) (hcs : cs.head? ≠ some '?') (hdepth : ¬ maxNesting ≤ depth) :
    readGroup (fuel + 1) depth p cs = readBody fuel depth { p with captures := p.captures + 1 }
      (.capture (p.captures + 1)) cs := by
  simp only [readGroup, hskip, if_neg hdepth, Option.bind_eq_bind, Option.bind_some]
  split <;> first | rfl | exact absurd rfl hcs

theorem readGroup_flags {depth n : Nat} (cs : List Char) (hdepth : ¬ maxNesting ≤ depth) :
    readGroup (fuel + 1) depth (opened fs bound n) ('?' :: ':' :: cs) =
      (readBranches fuel depth (opened fs bound n) cs).bind fun e =>
        match e.2.2 with
        | ')' :: rest => some (e.1, { e.2.1 with flags := fs }, rest)
        | _ => none := by
  have hskip : skip (opened fs bound n) ('?' :: ':' :: cs) = some ('?' :: ':' :: cs) :=
    skip_cons (fun _ => by decide) (by simp)
  have hflags : ∀ fuel, readFlags (fuel + 1) (opened fs bound n) false (':' :: cs) =
      some (opened fs bound n, true, cs) := by
    intro fuel
    have hcolon : skip (opened fs bound n) (':' :: cs) = some (':' :: cs) :=
      skip_cons (fun _ => by decide) (by simp)
    rw [readFlags, hcolon]
    rfl
  have hlacks : lacksFlags (':' :: cs) = false := rfl
  rw [readGroup, if_neg hdepth, hskip]
  simp [hlacks, hflags]
  rfl

theorem group_agrees (ih : ReadersAgree fs bound fuel) : GroupAgrees fs bound (fuel + 1) := by
  intro depth n cs t p rest h hcs
  by_cases hdepth : maxNesting ≤ depth
  · simp [readGroup, hdepth] at h
  obtain ⟨hsig, hcases⟩ := readAlike_start_cons hcs
  rcases hcases with ⟨hc, -⟩ | ⟨-, d, rest₁, rfl, hd, halike⟩ | ⟨-, hmark, halike⟩ | ⟨hc, -⟩ |
    ⟨hc, -⟩ | ⟨hc, -⟩
  · cases hc
  · rw [readGroup_flags _ hdepth, Option.bind_eq_some_iff] at h
    obtain ⟨⟨u, p₁, rest₂⟩, hbranches, h⟩ := h
    obtain ⟨m, ds, rfl, halike', hlength, hclosing, hcloses, hspells, hu⟩ :=
      ih.branches depth n (d :: rest₁) u p₁ rest₂ hbranches halike
    rcases hclosing with rfl | ⟨rest₃, rfl⟩
    · cases h
    · obtain ⟨rfl, rfl, rfl⟩ : u = t ∧ opened fs bound m = p ∧ rest₃ = rest := by
        simpa [opened] using h
      have hbehind : readAlike fs.ignoreSpace .behind rest₃ = true := by
        simpa using (readAlike_start_cons halike').2
      have hne : u.isEmpty = false := by
        rcases hu with heq | hu
        · cases heq
          exact absurd rfl hd
        · exact hu
      refine ⟨m, chosen ds, rfl, hbehind, ?_, ?_, hspells, hne⟩
      · simp only [List.length_cons] at hlength ⊢
        omega
      · have hopening : Regex.Reading.readOpening (Regex.Reading.opened fs.ignoreSpace n)
            ('?' :: ':' :: d :: rest₁) =
              some (.group (.flags []), Regex.Reading.opened fs.ignoreSpace n, d :: rest₁) := by
          have hmark : Regex.Reading.skip fs.ignoreSpace ('?' :: ':' :: d :: rest₁) = _ :=
            Regex.Reading.skip_cons (fun _ => by decide) _
          rw [Regex.Reading.readOpening, Regex.Reading.opened, hmark]
          rfl
        exact Adds.flags hopening rfl hcloses
  · rw [readGroup_capture (skip_of_readAlike halike) hmark hdepth] at h
    obtain ⟨m, u, ds, rfl, hbehind, hlength, rfl, hcloses, hspells⟩ :=
      ih.body depth (n + 1) _ cs t p rest h halike
    refine ⟨m, _, rfl, hbehind, ?_, Adds.capture hcloses hmark
      (Regex.Reading.skip_of_readAlike halike), spells_capture hspells, rfl⟩
    rw [List.length_cons]
    omega
  · cases hc
  · cases hc
  · simp at hc

theorem readPiece_of_repetition {p q : Progress} {depth least : Nat} {most : Option Nat}
    {cs rest₁ rest : List Char} {u : Term} (hatom : readAtom fuel depth p cs = some (u, q, rest₁))
    (hskip : skip q rest₁ = some rest₁)
    (hcounts : readRepetition q rest₁ = some (least, most, rest))
    (hskip' : skip q rest = some rest) (hplus : (readGreedy rest).2.head? ≠ some '+') :
    readPiece (fuel + 1) depth p cs = if u.repeatable then
      some (.repeated u least most ((!(readGreedy rest).1) == q.flags.swapGreed), q,
        (readGreedy rest).2) else none := by
  simp only [readPiece, hatom, hskip, hskip', hcounts, Option.bind_eq_bind, Option.bind_some]
  congr 1
  cases rest with
  | nil => rfl
  | cons c rest =>
      by_cases hc : c = '?'
      · subst hc
        simp only [readGreedy] at hplus ⊢
        split
        · simp_all
        · rfl
      · have hgreedy : readGreedy (c :: rest) = (true, c :: rest) := by
          unfold readGreedy
          split <;> simp_all
        rw [hgreedy] at hplus ⊢
        split
        · simp_all
        · split <;> simp_all

theorem piece_agrees (ih : ReadersAgree fs bound fuel) : PieceAgrees fs bound (fuel + 1) := by
  intro depth n cs t p rest h hcs
  have hread := h
  simp only [readPiece, Option.bind_eq_bind, Option.bind_eq_some_iff] at h
  obtain ⟨⟨u, p₁, rest₁⟩, hatom, rest₂, hskip, h⟩ := h
  rcases ih.atom depth n cs u p₁ rest₁ hatom hcs with ⟨rfl, hstops, rfl, rfl⟩ | hover
  · rw [skip_of_readAlike hcs] at hskip
    cases hskip
    rw [readRepetition_of_readAlike hcs] at h
    cases h
    exact Or.inl ⟨rfl, hstops, rfl⟩
  · right
    obtain ⟨m, c, rfl, hbehind, hlength, hadds, hspells, hu⟩ := hover
    obtain ⟨hskipped, hstart | ⟨w, rest₃, least, most, rfl, hcounts, hrepeats, hrepeated⟩⟩ :=
      readRepetition_alike (p := opened fs bound m) hbehind
    · rw [hskipped] at hskip
      cases hskip
      rw [readRepetition_of_readAlike hstart] at h
      cases h
      exact ⟨m, c, rfl, hstart, hlength, hadds, hspells, hu⟩
    · obtain ⟨hskip', hskip'', hstart, hlength'⟩ :=
        readGreedy_of_readAlike (p := opened fs bound m) hrepeated
      have hplus := head?_ne_of_readAlike hstart (c := '+') (by simp)
      rw [readPiece_of_repetition hatom hskipped hcounts hskip' hplus] at hread
      split at hread
      · have hflip : ((!(readGreedy rest₃).1) == (opened fs bound m).flags.swapGreed) =
            ((readGreedy rest₃).1 != fs.swapGreed) := by
          rw [opened]
          cases (readGreedy rest₃).1 <;> cases fs.swapGreed <;> rfl
        rw [hflip] at hread
        cases hread
        refine ⟨m, _, rfl, hstart, ?_, hadds.repeated hrepeats hskip'',
          spells_repeated least most _ hspells hu, rfl⟩
        rw [List.length_append] at hlength
        omega
      · cases hread

/-- Both readers agree on texts of the common syntax. -/
theorem readersAgree (hunicode : fs.unicode = true) (hcrlf : fs.crlf = false) (bound fuel : Nat) :
    ReadersAgree fs bound fuel := by
  induction fuel with
  | zero =>
      constructor
      · exact fun depth n cs t p rest h => by simp [readBranches] at h
      · exact fun depth n branches cs t p rest h => by simp [readMoreBranches] at h
      · exact fun depth n parts cs t p rest h => by simp [readParts] at h
      · exact fun depth n cs t p rest h => by simp [readPiece] at h
      · exact fun depth n cs t p rest h => by simp [readAtom] at h
      · exact fun depth n cs t p rest h => by simp [readGroup] at h
      · exact fun depth n make cs t p rest h => by simp [readBody] at h
  | succ fuel ih =>
      exact ⟨branches_agree ih, moreBranches_agree ih, parts_agree ih, piece_agrees ih,
        atom_agrees hunicode hcrlf ih, group_agrees ih, body_agrees ih⟩

end Steps

end Reading
end Extended
end Regex
end DocFilter
