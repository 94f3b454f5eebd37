import DocFilter.Proofs.PlainReading
import DocFilter.Regex.Extended.Reading

/-!
# What both readers read alike

Plain and extended expressions are read by different rules.  The rules agree on
characters, dots, anchors, groups without names, bars, the usual escapes, classes
without classes in them, and repetition signs and counts that stand directly
behind what they repeat, with nothing but a question mark behind them.  Where
blank characters are skipped there must be none, because the readers do not
agree on which characters are blank.

`readAlike` says so of a text, sign by sign.  There is one lemma for each place
where a sign may stand.
-/

namespace DocFilter
namespace Regex

open Text

/-- Where in an expression a sign stands. -/
inductive Place where
  /-- Where a part may begin. -/
  | start
  /-- Behind a part that may be repeated. -/
  | behind
  /-- Behind a repetition sign. -/
  | repeated
  /-- Behind a backslash. -/
  | escaped
  /-- Behind a parenthesis that records nothing. -/
  | opening
  /-- Inside brackets. -/
  | inside
  /-- Behind a backslash inside brackets. -/
  | quoted
  /-- Inside the braces of counts. -/
  | counting
deriving DecidableEq, Repr

/-- Is the character left alone when blank characters are skipped? -/
def isSignificant (ignoreSpace : Bool) (c : Char) : Bool :=
  !ignoreSpace || (!isBlank c && c != '#')

/-- Does a backslash before the character mean the same to both readers, and nothing hard? -/
def escapesAlike (c : Char) : Bool :=
  Reading.standsForItself c ||
    ['d', 'D', 's', 'S', 'w', 'W', 'a', 'f', 'n', 'r', 't', 'v', 'A', 'z'].contains c

/-- Does the character repeat what stands before it? -/
def isRepetition (c : Char) : Bool :=
  ['?', '*', '+', '\x7b'].contains c

/-- A count at the front of the text that both readers admit, and the text behind it. -/
def countInFront? (cs : List Char) : Option (Nat × List Char) :=
  (Extended.Reading.readNumber cs).filter (·.1 ≤ Reading.maxCount)

/-- Does the text behind a brace begin with one count, or with two of which the second may be left
out? -/
def beginsCounts (cs : List Char) : Bool :=
  match countInFront? cs with
  | some (_, '\x7d' :: _) => true
  | some (_, ',' :: '\x7d' :: _) => true
  | some (_, ',' :: rest) =>
      match countInFront? rest with
      | some (_, '\x7d' :: _) => true
      | _ => false
  | _ => false

namespace Place

/-- The place behind an opening parenthesis. -/
def behindParenthesis? : List Char → Option Place
  | '?' :: ':' :: c :: _ => if c = ')' then none else some .opening
  | '?' :: _ => none
  | _ => some .start

/-- The place behind an opening bracket. -/
def behindBracket? : List Char → Option Place
  | ']' :: _ => none
  | '^' :: ']' :: _ => none
  | _ => some .inside

/-- The place behind a repetition sign, which must stand behind a part or make a repetition lazy. -/
def behindRepetition? (place : Place) (c : Char) (rest : List Char) : Option Place :=
  match place with
  | .behind =>
      if c = '\x7b' then if beginsCounts rest then some .counting else none
      else some .repeated
  | .repeated => if c = '?' then some .start else none
  | _ => none

/-- The place behind a sign, if both readers take the sign alike where it stands. -/
def next? (ignoreSpace : Bool) (place : Place) (c : Char) (rest : List Char) : Option Place :=
  match place with
  | .escaped => if escapesAlike c then some .behind else none
  | .opening => if c = ':' then some .start else some .opening
  | .inside =>
      if !isSignificant ignoreSpace c ∨ c = '[' then none
      else if c = '\\' then some .quoted
      else if c = ']' then some .behind
      else some .inside
  | .quoted => if escapesAlike c ∧ c ≠ 'A' ∧ c ≠ 'z' then some .inside else none
  | .counting => if c = '\x7d' then some .repeated else some .counting
  | _ =>
      if !isSignificant ignoreSpace c then none
      else if c = '\\' then some .escaped
      else if c = '(' then behindParenthesis? rest
      else if c = '|' then some .start
      else if c = '[' then behindBracket? rest
      else if isRepetition c then place.behindRepetition? c rest
      else some .behind

end Place

/-- Do both readers take every sign of a text alike? -/
def readAlike (ignoreSpace : Bool) : Place → List Char → Bool
  | _, [] => true
  | place, c :: cs =>
      match place.next? ignoreSpace c cs with
      | some place => readAlike ignoreSpace place cs
      | none => false

section Places

variable {x : Bool} {place place' : Place} {c : Char} {cs : List Char}

theorem isSignificant_iff : isSignificant x c = true ↔ Reading.Significant x c := by
  cases x <;> simp [isSignificant, Reading.Significant]

theorem exists_of_readAlike_cons (h : readAlike x place (c :: cs) = true) :
    ∃ place', place.next? x c cs = some place' ∧ readAlike x place' cs = true := by
  rw [readAlike] at h
  cases hplace : place.next? x c cs with
  | none => simp [hplace] at h
  | some place' => exact ⟨place', rfl, by simpa [hplace] using h⟩

theorem Place.behindParenthesis?_eq_some (h : behindParenthesis? cs = some place) :
    (place = .opening ∧ ∃ d rest, cs = '?' :: ':' :: d :: rest ∧ d ≠ ')') ∨
      place = .start ∧ cs.head? ≠ some '?' := by
  unfold behindParenthesis? at h
  split at h
  · rename_i d rest
    split at h <;> cases h
    exact Or.inl ⟨rfl, d, rest, rfl, ‹_›⟩
  · cases h
  · rename_i hmark
    cases h
    refine Or.inr ⟨rfl, fun hhead => ?_⟩
    obtain ⟨rest, rfl⟩ := List.head?_eq_some_iff.1 hhead
    exact hmark rest rfl

theorem Place.behindBracket?_eq_some (h : behindBracket? cs = some place) :
    place = .inside ∧ cs.head? ≠ some ']' ∧ ∀ rest, cs ≠ '^' :: ']' :: rest := by
  unfold behindBracket? at h
  split at h
  · cases h
  · cases h
  · rename_i hclose hcaret
    cases h
    refine ⟨rfl, fun hhead => ?_, fun rest heq => hcaret rest heq⟩
    obtain ⟨rest, rfl⟩ := List.head?_eq_some_iff.1 hhead
    exact hclose rest rfl

/-- The signs that may stand where a part may begin. -/
theorem readAlike_start_cons (h : readAlike x .start (c :: cs) = true) :
    Reading.Significant x c ∧
      (c = '\\' ∧ readAlike x .escaped cs = true ∨
        c = '(' ∧ (∃ d rest, cs = '?' :: ':' :: d :: rest ∧ d ≠ ')' ∧
          readAlike x .start (d :: rest) = true) ∨
        c = '(' ∧ cs.head? ≠ some '?' ∧ readAlike x .start cs = true ∨
        c = '|' ∧ readAlike x .start cs = true ∨
        c = '[' ∧ (cs.head? ≠ some ']' ∧ ∀ rest, cs ≠ '^' :: ']' :: rest) ∧
          readAlike x .inside cs = true ∨
        c ∉ ['\\', '(', '|', '[', '?', '*', '+', '\x7b'] ∧ readAlike x .behind cs = true) := by
  obtain ⟨place, hplace, h⟩ := exists_of_readAlike_cons h
  rw [← isSignificant_iff]
  simp only [Place.next?] at hplace
  split at hplace
  · cases hplace
  rename_i hsig
  refine ⟨by simpa using hsig, ?_⟩
  split at hplace
  · cases hplace
    exact Or.inl ⟨‹_›, h⟩
  right
  split at hplace
  · rcases Place.behindParenthesis?_eq_some hplace with ⟨rfl, d, rest, rfl, hd⟩ | ⟨rfl, hmark⟩
    · exact Or.inl ⟨‹_›, d, rest, rfl, hd, by simpa [readAlike, Place.next?] using h⟩
    · exact Or.inr (Or.inl ⟨‹_›, hmark, h⟩)
  right; right
  split at hplace
  · cases hplace
    exact Or.inl ⟨‹_›, h⟩
  right
  split at hplace
  · obtain ⟨rfl, hfront⟩ := Place.behindBracket?_eq_some hplace
    exact Or.inl ⟨‹_›, hfront, h⟩
  right
  split at hplace
  · cases hplace
  · rename_i hrepetition
    cases hplace
    simp only [isRepetition, List.contains_eq_mem, decide_eq_true_eq] at hrepetition
    exact ⟨by simp_all, h⟩

theorem next?_of_not_isRepetition (h : isRepetition c = false)
    (hplace : place = .behind ∨ place = .repeated) :
    place.next? x c cs = Place.start.next? x c cs := by
  rcases hplace with rfl | rfl <;> simp [Place.next?, h]

theorem Reading.skip_of_readAlike (h : readAlike x .start cs = true) : Reading.skip x cs = cs := by
  cases cs with
  | nil => cases x <;> rfl
  | cons c cs => exact Reading.skip_cons (readAlike_start_cons h).1 cs

theorem significant_of_isRepetition (h : isRepetition c = true) (x : Bool) :
    Reading.Significant x c := by
  simp only [isRepetition, List.contains_eq_mem, decide_eq_true_eq, List.mem_cons,
    List.not_mem_nil, or_false] at h
  rcases h with rfl | rfl | rfl | rfl <;> exact fun _ => by decide

/-- A repetition sign is looked at where it stands. -/
theorem next?_of_isRepetition (h : isRepetition c = true)
    (hplace : place = .behind ∨ place = .repeated) :
    place.next? x c cs = place.behindRepetition? c cs := by
  have hsig := isSignificant_iff.2 (significant_of_isRepetition h x)
  have hsigns := h
  simp only [isRepetition, List.contains_eq_mem, decide_eq_true_eq, List.mem_cons,
    List.not_mem_nil, or_false] at hsigns
  rcases hplace with rfl | rfl <;> rcases hsigns with rfl | rfl | rfl | rfl <;>
    simp [Place.next?, hsig, h]

/-- Behind a part stands a repetition sign, counts, or what may stand where a part begins. -/
theorem readAlike_behind_cons (h : readAlike x .behind (c :: cs) = true) :
    (c = '?' ∨ c = '*' ∨ c = '+') ∧ readAlike x .repeated cs = true ∨
      c = '\x7b' ∧ beginsCounts cs = true ∧ readAlike x .counting cs = true ∨
      isRepetition c = false ∧ readAlike x .start (c :: cs) = true := by
  cases hrepetition : isRepetition c with
  | false =>
      rw [readAlike, next?_of_not_isRepetition hrepetition (Or.inl rfl)] at h
      exact Or.inr (Or.inr ⟨rfl, by rwa [readAlike]⟩)
  | true =>
      obtain ⟨place, hplace, h⟩ := exists_of_readAlike_cons h
      rw [next?_of_isRepetition hrepetition (Or.inl rfl)] at hplace
      simp only [isRepetition, List.contains_eq_mem, decide_eq_true_eq, List.mem_cons,
        List.not_mem_nil, or_false] at hrepetition
      simp only [Place.behindRepetition?] at hplace
      split at hplace
      · split at hplace <;> cases hplace
        exact Or.inr (Or.inl ⟨‹_›, ‹_›, h⟩)
      · cases hplace
        exact Or.inl ⟨by simp_all, h⟩

/-- Behind a repetition sign stands a question mark, or what may stand where a part begins. -/
theorem readAlike_repeated_cons (h : readAlike x .repeated (c :: cs) = true) :
    c = '?' ∧ readAlike x .start cs = true ∨
      isRepetition c = false ∧ readAlike x .start (c :: cs) = true := by
  cases hrepetition : isRepetition c with
  | false =>
      rw [readAlike, next?_of_not_isRepetition hrepetition (Or.inr rfl)] at h
      exact Or.inr ⟨rfl, by rwa [readAlike]⟩
  | true =>
      obtain ⟨place, hplace, h⟩ := exists_of_readAlike_cons h
      rw [next?_of_isRepetition hrepetition (Or.inr rfl)] at hplace
      simp only [Place.behindRepetition?] at hplace
      split at hplace <;> cases hplace
      exact Or.inl ⟨‹_›, h⟩

theorem readAlike_escaped_cons (h : readAlike x .escaped (c :: cs) = true) :
    escapesAlike c = true ∧ readAlike x .behind cs = true := by
  obtain ⟨place, hplace, h⟩ := exists_of_readAlike_cons h
  simp only [Place.next?] at hplace
  split at hplace <;> cases hplace
  exact ⟨‹_›, h⟩

theorem readAlike_inside_cons (h : readAlike x .inside (c :: cs) = true) :
    Reading.Significant x c ∧ c ≠ '[' ∧
      (c = '\\' ∧ readAlike x .quoted cs = true ∨
        c = ']' ∧ readAlike x .behind cs = true ∨
        c ≠ '\\' ∧ c ≠ ']' ∧ readAlike x .inside cs = true) := by
  obtain ⟨place, hplace, h⟩ := exists_of_readAlike_cons h
  rw [← isSignificant_iff]
  simp only [Place.next?] at hplace
  split at hplace
  · cases hplace
  rename_i hc
  simp only [Bool.not_eq_true', not_or, Bool.not_eq_false] at hc
  refine ⟨hc.1, hc.2, ?_⟩
  split at hplace
  · cases hplace
    exact Or.inl ⟨‹_›, h⟩
  · split at hplace <;> cases hplace
    · exact Or.inr (Or.inl ⟨‹_›, h⟩)
    · exact Or.inr (Or.inr ⟨‹_›, ‹_›, h⟩)

theorem readAlike_quoted_cons (h : readAlike x .quoted (c :: cs) = true) :
    (escapesAlike c = true ∧ c ≠ 'A' ∧ c ≠ 'z') ∧ readAlike x .inside cs = true := by
  obtain ⟨place, hplace, h⟩ := exists_of_readAlike_cons h
  simp only [Place.next?] at hplace
  split at hplace <;> cases hplace
  exact ⟨‹_›, h⟩

/-- Behind the brace that closes counts stands what may stand behind a repetition sign. -/
theorem readAlike_of_counting {ds : List Char}
    (h : readAlike x .counting (ds ++ '\x7d' :: cs) = true) (hds : '\x7d' ∉ ds) :
    readAlike x .repeated cs = true := by
  induction ds with
  | nil => simpa [readAlike, Place.next?] using h
  | cons d ds ih =>
      simp only [List.mem_cons, not_or] at hds
      refine ih ?_ hds.2
      simpa [readAlike, Place.next?, Ne.symm hds.1] using h

end Places

end Regex
end DocFilter
