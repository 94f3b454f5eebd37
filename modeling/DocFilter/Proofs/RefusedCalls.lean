import DocFilter.Proofs.InPlace
import DocFilter.Proofs.OperatorDocument
import DocFilter.Proofs.PaddedText
import Mathlib.Data.List.TakeWhile

/-!
# Which calls are refused

A call is refused for what stands on the active node, for the shape of its
argument, or because criteria or a pattern that it is given do not compile.
`RefusedFor` lists all these reasons with the error that is reported; each is
said of the node and the argument alone.

Every call is refused exactly for a reason on the list
(`call_eq_error_iff`), and leaves the criteria as they were.
-/

namespace DocFilter

open Text

section Positions

namespace Bitmask

/-- The largest bit position. -/
def maxPosition : Nat := 2147483647

/-- All positions are small enough. -/
def InRange (ps : List UInt32) : Prop :=
  ∀ p ∈ ps, p.toNat ≤ maxPosition

variable {front : List UInt32} {ps rest : List (Option UInt32)} {p : UInt32} {index : Nat}
variable {e : Criteria.Error}

theorem positionValues_cons_eq_error_iff (hp : p.toNat ≤ maxPosition) :
    positionValues index (some p :: rest) = .error e ↔
      positionValues (index + 1) rest = .error e := by
  have hlt : p.toNat < 2147483648 := Nat.lt_succ_of_le hp
  rw [positionValues, if_pos hlt, Criteria.bind_eq_error_iff]
  constructor
  · rintro (h | ⟨vs, _, h⟩)
    · exact h
    · cases h
  · exact Or.inl

theorem positionValues_append_eq_error_iff (h : InRange front) :
    positionValues index (front.map some ++ rest) = .error e ↔
      positionValues (index + front.length) rest = .error e := by
  induction front generalizing index with
  | nil =>
      rfl
  | cons p front ih =>
      obtain ⟨hp, hfront⟩ := List.forall_mem_cons.1 h
      rw [List.map_cons, List.cons_append, positionValues_cons_eq_error_iff hp, ih hfront,
        List.length_cons, Nat.add_assoc, Nat.add_comm 1]

theorem positionValues_of_tooLarge (hp : maxPosition < p.toNat) :
    positionValues index (some p :: rest) = .error (.positionOutOfRange p) := by
  have hlt : ¬ p.toNat < 2147483648 := Nat.not_lt_of_ge hp
  rw [positionValues, if_neg hlt]

/-- All positions are there and small enough, or a first one is not. -/
theorem positions_cases (ps : List (Option UInt32)) :
    (∃ front, ps = front.map some ∧ InRange front) ∨
      (∃ front rest, ps = front.map some ++ none :: rest ∧ InRange front) ∨
        ∃ front p rest, ps = front.map some ++ some p :: rest ∧ InRange front ∧
          maxPosition < p.toNat := by
  induction ps with
  | nil =>
      exact Or.inl ⟨[], rfl, by simp [InRange]⟩
  | cons x rest ih =>
      cases x with
      | none =>
          exact Or.inr (Or.inl ⟨[], rest, rfl, by simp [InRange]⟩)
      | some p =>
          by_cases hp : p.toNat ≤ maxPosition
          · have hcons : ∀ front, InRange front → InRange (p :: front) :=
              fun front hfront => List.forall_mem_cons.2 ⟨hp, hfront⟩
            rcases ih with ⟨front, rfl, hfront⟩ | ⟨front, rest, rfl, hfront⟩ |
              ⟨front, q, rest, rfl, hfront, hq⟩
            · exact Or.inl ⟨p :: front, rfl, hcons front hfront⟩
            · exact Or.inr (Or.inl ⟨p :: front, rest, rfl, hcons front hfront⟩)
            · exact Or.inr (Or.inr ⟨p :: front, q, rest, rfl, hcons front hfront, hq⟩)
          · exact Or.inr (Or.inr ⟨[], p, rest, rfl, by simp [InRange], by omega⟩)

/-- The first position that is missing or too large is reported. -/
theorem positionValues_eq_error_iff : positionValues 0 ps = .error e ↔
    (∃ front rest, ps = front.map some ++ none :: rest ∧ InRange front ∧
        e = .missingPosition front.length) ∨
      ∃ front p rest, ps = front.map some ++ some p :: rest ∧ InRange front ∧
        maxPosition < p.toNat ∧ e = .positionOutOfRange p := by
  have hmissing : ∀ front rest, InRange front →
      positionValues 0 (front.map some ++ none :: rest) =
        .error (.missingPosition front.length) := by
    intro front rest hfront
    rw [positionValues_append_eq_error_iff hfront, Nat.zero_add, positionValues]
  have hlarge : ∀ front p rest, InRange front → maxPosition < p.toNat →
      positionValues 0 (front.map some ++ some p :: rest) = .error (.positionOutOfRange p) := by
    intro front p rest hfront hp
    rw [positionValues_append_eq_error_iff hfront, positionValues_of_tooLarge hp]
  constructor
  · intro h
    rcases positions_cases ps with ⟨front, rfl, hfront⟩ | ⟨front, rest, rfl, hfront⟩ |
      ⟨front, p, rest, rfl, hfront, hp⟩
    · rw [← List.append_nil (front.map some), positionValues_append_eq_error_iff hfront] at h
      cases h
    · rw [hmissing front rest hfront] at h
      cases h
      exact Or.inl ⟨front, rest, rfl, hfront, rfl⟩
    · rw [hlarge front p rest hfront hp] at h
      cases h
      exact Or.inr ⟨front, p, rest, rfl, hfront, hp, rfl⟩
  · rintro (⟨front, rest, rfl, hfront, rfl⟩ | ⟨front, p, rest, rfl, hfront, hp, rfl⟩)
    · exact hmissing front rest hfront
    · exact hlarge front p rest hfront hp

end Bitmask

end Positions

section EncodedMasks

theorem Text.trimChars_eq_nil_iff {cs : List Char} :
    trimChars cs = [] ↔ ∀ ch ∈ cs, isBlank ch = true := by
  rw [trimChars, List.reverse_eq_nil_iff, List.dropWhile_eq_nil_iff]
  simp only [List.mem_reverse]
  constructor
  · intro h ch hch
    rw [← List.takeWhile_append_dropWhile (p := isBlank) (l := cs)] at hch
    rcases List.mem_append.1 hch with htake | hdrop
    · exact List.mem_takeWhile_imp htake
    · exact h ch hdrop
  · intro h ch hch
    exact h ch ((List.dropWhile_sublist _).subset hch)

namespace Bitmask

variable {mask : String} {e : Criteria.Error}

/-- The text between the blank characters at the ends of a mask is Base64. -/
def Encodes (mask : String) : Prop :=
  Base64.Padded (utf8Bytes (trim mask))

theorem isEmpty_trim (mask : String) : (trim mask).isEmpty = allBlank mask := by
  rw [Bool.eq_iff_iff, String.isEmpty_iff, trim, String.ofList_eq_empty_iff, trimChars_eq_nil_iff,
    allBlank, List.all_eq_true]

theorem decodeText_eq_error_iff : decodeText mask = .error e ↔
    allBlank mask = true ∧ e = .blankMask ∨
      allBlank mask = false ∧ ∃ cause, Base64.decode (utf8Bytes (trim mask)) = .error cause ∧
        e = .undecodableMask (trim mask) cause := by
  rw [decodeText]
  simp only [isEmpty_trim]
  cases allBlank mask with
  | true =>
      simp [eq_comm]
  | false =>
      cases Base64.decode (utf8Bytes (trim mask)) with
      | ok bytes =>
          simp
      | error cause =>
          simp [eq_comm]

theorem not_encodes_iff :
    ¬ Encodes mask ↔ ∃ cause, Base64.decode (utf8Bytes (trim mask)) = .error cause := by
  rw [Encodes, ← Base64.exists_decode_iff]
  cases Base64.decode (utf8Bytes (trim mask)) with
  | ok bytes =>
      simp
  | error cause =>
      simp

end Bitmask

end EncodedMasks

namespace Criteria

section Reasons

/-- The operators of the node end with a negation that waits for the next one. -/
def EndsNegated (n : Node) : Prop :=
  ∃ xs, n.operators = xs ++ [(.not, .negation)]

/-- All criteria of a list compile, to these documents. -/
def CompileTo (cs : List Criteria) (docs : List Document) : Prop :=
  List.Forall₂ (fun c doc => c.compile = .ok doc) cs docs

/-- Why a call is refused when this node is active.  Calls that do not occur here are never
refused. -/
inductive RefusedFor (n : Node) : Call → Error → Prop
  | andField (key : String) (h : EndsNegated n) : RefusedFor n (.andField key) (.negatedField key)
  | andSchema (schema : Document) (h : EndsNegated n) :
      RefusedFor n (.andSchema schema) (.negatedElement (Node.ofSchema schema).compile)
  | equalityTaken (v w : Value) (h : n.equality = some w) : RefusedFor n (.equals v) .equalityTaken
  | equalityNegated (v : Value) (h : n.equality = none) (hn : EndsNegated n) :
      RefusedFor n (.equals v) .equalityNegated
  | secondArray (m : Membership) (v : Value) (items : List Value) (rest : List Value) :
      RefusedFor n (.member m (v :: .array items :: rest)) (.ambiguousArgument m.operator)
  | source (source options : String) (e : Pattern.Error)
      (h : Pattern.compile source options = .error e) :
      RefusedFor n (.matchSource source options) (.pattern e)
  | elemMatch (d : Criteria) (e : Error) (h : d.compile = .error e) : RefusedFor n (.elemMatch d) e
  /-- The first of the criteria that does not compile gives the error. -/
  | argument (op : Combinator) (front rest : List Criteria) (docs : List Document) (d : Criteria)
      (e : Error) (hfront : CompileTo front docs) (h : d.compile = .error e) :
      RefusedFor n (.combine op (front ++ d :: rest)) e
  | combine (op : Combinator) (cs : List Criteria) (docs : List Document) (h : CompileTo cs docs)
      (hn : EndsNegated n) :
      RefusedFor n (.combine op cs) (.negatedElement (Node.ofCombinator op docs).compile)
  | blankMask (t : BitTest) (mask : String) (h : allBlank mask = true) :
      RefusedFor n (.testBits t (.encoded mask)) .blankMask
  | undecodableMask (t : BitTest) (mask : String) (cause : Base64.DecodeError)
      (h : allBlank mask = false) (he : ¬ Bitmask.Encodes mask)
      (hc : Base64.decode (Bitmask.utf8Bytes (trim mask)) = .error cause) :
      RefusedFor n (.testBits t (.encoded mask)) (.undecodableMask (trim mask) cause)
  /-- All positions before the one that is reported are there and small enough. -/
  | missingPosition (t : BitTest) (front : List UInt32) (rest : List (Option UInt32))
      (h : Bitmask.InRange front) :
      RefusedFor n (.testBits t (.positions (front.map some ++ none :: rest)))
        (.missingPosition front.length)
  | positionOutOfRange (t : BitTest) (front : List UInt32) (p : UInt32)
      (rest : List (Option UInt32)) (h : Bitmask.InRange front)
      (hp : Bitmask.maxPosition < p.toNat) :
      RefusedFor n (.testBits t (.positions (front.map some ++ some p :: rest)))
        (.positionOutOfRange p)

/-- The kind of error with which a call is refused, unless something it is given does not
compile. -/
def Call.refusal? : Call → Option Error.Kind
  | .andField _ => some .illegalNesting
  | .andSchema _ => some .illegalNesting
  | .equals _ => some .conflictingAssignment
  | .member _ _ => some .ambiguousArgument
  | .testBits _ _ => some .invalidBitmask
  | _ => none

variable {n : Node} {s : Call} {e : Error}

theorem RefusedFor.kind (h : RefusedFor n s e) {k : Error.Kind} (hk : s.refusal? = some k) :
    e.kind = k := by
  cases h <;> simp_all [Call.refusal?, Error.kind]

end Reasons

section Exactness

variable {c : Criteria} {e : Error}

theorem hasDanglingNot_iff_endsNegated {n : Node} : n.hasDanglingNot = true ↔ EndsNegated n :=
  Node.hasDanglingNot_iff

theorem append_eq_error_iff {n : Node} :
    c.append n = .error e ↔ EndsNegated c.active ∧ e = .negatedElement n.compile := by
  rw [← hasDanglingNot_iff_endsNegated, append]
  cases c.active.hasDanglingNot with
  | true =>
      simp [eq_comm]
  | false =>
      simp

theorem andField_eq_error_iff {key : String} :
    c.andField key = .error e ↔ EndsNegated c.active ∧ e = .negatedField key := by
  rw [← hasDanglingNot_iff_endsNegated, andField]
  cases c.active.hasDanglingNot with
  | true =>
      simp [eq_comm]
  | false =>
      simp

theorem equals_eq_error_iff {v : Value} : c.equals v = .error e ↔
    (∃ w, c.active.equality = some w) ∧ e = .equalityTaken ∨
      c.active.equality = none ∧ EndsNegated c.active ∧ e = .equalityNegated := by
  rw [← hasDanglingNot_iff_endsNegated, equals]
  cases c.active.equality with
  | some w =>
      constructor
      · intro h
        cases h
        exact Or.inl ⟨⟨w, rfl⟩, rfl⟩
      · rintro (⟨_, rfl⟩ | ⟨hnone, _⟩)
        · rfl
        · cases hnone
  | none =>
      cases c.active.hasDanglingNot with
      | true =>
          simp [eq_comm]
      | false =>
          simp

theorem candidates_eq_error_iff {op : Operator} {vs : List Value} : candidates op vs = .error e ↔
    ∃ v items rest, vs = v :: .array items :: rest ∧ e = .ambiguousArgument op := by
  rcases vs with _ | ⟨v, _ | ⟨w, rest⟩⟩
  · simp [candidates]
  · cases v <;> simp [candidates]
  · cases w <;> simp [candidates, Value.isArray, eq_comm]

theorem compileAll_eq_ok_iff {cs : List Criteria} {docs : List Document} :
    compileAll cs = .ok docs ↔ CompileTo cs docs := by
  induction cs generalizing docs with
  | nil =>
      simp [compileAll, CompileTo, eq_comm]
  | cons c cs ih =>
      rw [compileAll]
      constructor
      · intro h
        obtain ⟨doc, hdoc, h⟩ := exists_of_bind_eq_ok h
        obtain ⟨docs', hdocs, h⟩ := exists_of_bind_eq_ok h
        cases h
        exact .cons hdoc (ih.1 hdocs)
      · intro h
        cases h with
        | cons hdoc hdocs =>
            rw [hdoc, ih.2 hdocs]
            rfl

theorem compileAll_eq_error_iff {cs : List Criteria} : compileAll cs = .error e ↔
    ∃ front d rest docs, cs = front ++ d :: rest ∧ CompileTo front docs ∧ d.compile = .error e := by
  induction cs with
  | nil =>
      simp [compileAll]
  | cons c cs ih =>
      rw [compileAll, bind_eq_error_iff]
      constructor
      · rintro (h | ⟨doc, hdoc, h⟩)
        · exact ⟨[], c, cs, [], rfl, .nil, h⟩
        · rcases bind_eq_error_iff.1 h with h | ⟨_, _, h⟩
          · obtain ⟨front, d, rest, docs, rfl, hfront, hd⟩ := ih.1 h
            exact ⟨c :: front, d, rest, doc :: docs, rfl, .cons hdoc hfront, hd⟩
          · cases h
      · rintro ⟨front, d, rest, docs, hsplit, hfront, hd⟩
        cases hfront with
        | nil =>
            obtain ⟨rfl, rfl⟩ : c = d ∧ cs = rest := by simpa using hsplit
            exact Or.inl hd
        | @cons c' doc front docs hdoc hfront =>
            obtain ⟨rfl, hcs⟩ : c = c' ∧ cs = front ++ d :: rest := by simpa using hsplit
            refine Or.inr ⟨doc, hdoc, bind_eq_error_iff.2 (Or.inl ?_)⟩
            exact ih.2 ⟨front, d, rest, docs, hcs, hfront, hd⟩

theorem testBits_eq_error_iff {t : BitTest} {mask : Bitmask} :
    c.testBits t mask = .error e ↔ mask.toValue = .error e := by
  rw [testBits, bind_eq_error_iff]
  constructor
  · rintro (h | ⟨_, _, h⟩)
    · exact h
    · cases h
  · exact Or.inl

theorem testBits_encoded_eq_error_iff {t : BitTest} {mask : String} :
    c.testBits t (.encoded mask) = .error e ↔
      allBlank mask = true ∧ e = .blankMask ∨
        allBlank mask = false ∧ ∃ cause,
          Base64.decode (Bitmask.utf8Bytes (trim mask)) = .error cause ∧
            e = .undecodableMask (trim mask) cause := by
  rw [testBits_eq_error_iff, Bitmask.toValue, Bitmask.decodeText_eq_error_iff]

theorem testBits_positions_eq_error_iff {t : BitTest} {ps : List (Option UInt32)} :
    c.testBits t (.positions ps) = .error e ↔ Bitmask.positionValues 0 ps = .error e := by
  rw [testBits_eq_error_iff, Bitmask.toValue, bind_eq_error_iff]
  constructor
  · rintro (h | ⟨_, _, h⟩)
    · exact h
    · cases h
  · exact Or.inl

theorem refusedFor_of_testBits {t : BitTest} {mask : Bitmask} (h : c.testBits t mask = .error e) :
    RefusedFor c.active (.testBits t mask) e := by
  cases mask with
  | numeric m =>
      cases h
  | encoded m =>
      rcases testBits_encoded_eq_error_iff.1 h with
        ⟨hblank, rfl⟩ | ⟨hblank, cause, hcause, rfl⟩
      · exact .blankMask t m hblank
      · exact .undecodableMask t m cause hblank (Bitmask.not_encodes_iff.2 ⟨cause, hcause⟩) hcause
  | positions ps =>
      rcases Bitmask.positionValues_eq_error_iff.1 (testBits_positions_eq_error_iff.1 h) with
        ⟨front, rest, rfl, hfront, rfl⟩ | ⟨front, p, rest, rfl, hfront, hp, rfl⟩
      · exact .missingPosition t front rest hfront
      · exact .positionOutOfRange t front p rest hfront hp

theorem refusedFor_of_call {s : Call} (h : c.call s = .error e) : RefusedFor c.active s e := by
  cases s with
  | andField key =>
      obtain ⟨hn, rfl⟩ := andField_eq_error_iff.1 h
      exact .andField key hn
  | equals v =>
      rcases equals_eq_error_iff.1 h with ⟨⟨w, hw⟩, rfl⟩ | ⟨hnone, hn, rfl⟩
      · exact .equalityTaken v w hw
      · exact .equalityNegated v hnone hn
  | member m vs =>
      rcases bind_eq_error_iff.1 h with h | ⟨_, _, h⟩
      · obtain ⟨v, items, rest, rfl, rfl⟩ := candidates_eq_error_iff.1 h
        exact .secondArray m v items rest
      · cases h
  | matchSource source options =>
      simp only [call, matchSource] at h
      split at h
      · cases h
      · rename_i pe hpe
        cases h
        exact .source source options pe hpe
  | elemMatch d =>
      rcases bind_eq_error_iff.1 h with h | ⟨_, _, h⟩
      · exact .elemMatch d e h
      · cases h
  | andSchema schema =>
      obtain ⟨hn, rfl⟩ := append_eq_error_iff.1 h
      exact .andSchema schema hn
  | combine op cs =>
      rcases bind_eq_error_iff.1 h with h | ⟨docs, hdocs, h⟩
      · obtain ⟨front, d, rest, docs, rfl, hfront, hd⟩ := compileAll_eq_error_iff.1 h
        exact .argument op front rest docs d e hfront hd
      · obtain ⟨hn, rfl⟩ := append_eq_error_iff.1 h
        exact .combine op cs docs (compileAll_eq_ok_iff.1 hdocs) hn
  | testBits t mask =>
      exact refusedFor_of_testBits h
  | _ =>
      cases h

end Exactness

end Criteria

end DocFilter
