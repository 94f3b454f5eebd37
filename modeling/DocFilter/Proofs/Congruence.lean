import DocFilter.Proofs.Chain
import DocFilter.Proofs.Reachable
import DocFilter.Proofs.SameNode

/-!
# Equality of criteria is a congruence

Equality of criteria compares chains and disregards which node is active.  It
is nevertheless respected by every call, because the place of the active node
can be read off the chain (`Reachable.length_before`): equal reachable criteria
agree before, at and behind the active node (`Reachable.same_of_beq`).

Calls are *the same* if their arguments are equal.  One step of the same calls
keeps equal criteria equal or is refused on both sides for the same kind of
reason (`call_agree`); runs of the same calls follow by induction.
-/

namespace DocFilter

open Number (Binary64)
open Geo

section Values

namespace Value

theorem same_array_left {vs : List Value} {w : Value} (h : (Value.array vs).same w = true) :
    ∃ ws, w = .array ws ∧ sameItems vs ws = true := by
  cases w with
  | array ws =>
      rw [same_array] at h
      exact ⟨ws, rfl, h⟩
  | _ =>
      simp [Value.same] at h

theorem same_array_right {v : Value} {ws : List Value} (h : v.same (.array ws) = true) :
    ∃ vs, v = .array vs := by
  cases v with
  | array vs =>
      exact ⟨vs, rfl⟩
  | _ =>
      simp [Value.same] at h

theorem same_document_left {d : Document} {w : Value} (h : (Value.document d).same w = true) :
    ∃ e, w = .document e ∧ d.same e = true := by
  cases w with
  | document e =>
      rw [same_document] at h
      exact ⟨e, rfl, h⟩
  | _ =>
      simp [Value.same] at h

theorem same_document_right {v : Value} {e : Document} (h : v.same (.document e) = true) :
    ∃ d, v = .document d := by
  cases v with
  | document d =>
      exact ⟨d, rfl⟩
  | _ =>
      simp [Value.same] at h

theorem isArray_iff {v : Value} : v.isArray = true ↔ ∃ vs, v = .array vs := by
  cases v <;> simp [isArray]

theorem isArray_eq_of_same {v w : Value} (h : v.same w = true) : v.isArray = w.isArray := by
  rw [Bool.eq_iff_iff, isArray_iff, isArray_iff]
  constructor
  · rintro ⟨vs, rfl⟩
    obtain ⟨ws, hw, _⟩ := same_array_left h
    exact ⟨ws, hw⟩
  · rintro ⟨ws, rfl⟩
    exact same_array_right h

end Value

theorem Bitmask.proper_of_positionValues {ps : List (Option UInt32)} {index : Nat}
    {vs : List Value} (h : Bitmask.positionValues index ps = .ok vs) : ∀ v ∈ vs, v.Proper := by
  induction ps generalizing index vs with
  | nil =>
      cases h
      simp
  | cons p ps ih =>
      cases p with
      | none =>
          cases h
      | some p =>
          rw [Bitmask.positionValues] at h
          split at h
          · obtain ⟨ws, hws, hvs⟩ := Criteria.exists_of_bind_eq_ok h
            cases hvs
            intro v hv
            rcases List.mem_cons.1 hv with rfl | hv
            · simp [Value.Proper]
            · exact ih hws v hv
          · cases h

/-- Masks give values that equal themselves. -/
theorem Bitmask.proper_of_toValue {mask : Bitmask} {v : Value} (h : mask.toValue = .ok v) :
    v.Proper := by
  cases mask with
  | numeric m =>
      cases h
      simp [Value.Proper]
  | encoded m =>
      simp only [Bitmask.toValue, Bitmask.decodeText] at h
      split at h
      · cases h
      · split at h
        · cases h
          simp [Value.Proper]
        · cases h
  | positions ps =>
      obtain ⟨vs, hvs, harray⟩ := Criteria.exists_of_bind_eq_ok h
      cases harray
      exact Value.proper_array (Bitmask.proper_of_positionValues hvs)

end Values

namespace Criteria

variable {a b : Criteria}

section Same

/-- Criteria that agree before, at and behind the active node. -/
structure Same (a b : Criteria) : Prop where
  before : List.Forall₂ Node.Same a.before b.before
  active : Node.Same a.active b.active
  after : List.Forall₂ Node.Same a.after b.after

theorem sameChain_iff {ms ns : List Node} :
    sameChain ms ns = true ↔ List.Forall₂ Node.Same ms ns := by
  induction ms generalizing ns with
  | nil =>
      cases ns with
      | nil =>
          simp [sameChain]
      | cons n ns =>
          simp [sameChain]
  | cons m ms ih =>
      cases ns with
      | nil =>
          simp [sameChain]
      | cons n ns =>
          simp [sameChain, ih, Node.same_iff]

theorem beq_iff : (a == b) = true ↔ List.Forall₂ Node.Same a.chain b.chain :=
  sameChain_iff

theorem Same.chain (h : Same a b) : List.Forall₂ Node.Same a.chain b.chain :=
  List.rel_append h.before (.cons h.active h.after)

theorem Same.beq (h : Same a b) : (a == b) = true :=
  beq_iff.2 h.chain

theorem map_target_eq {ms ns : List Node} (h : List.Forall₂ Node.Same ms ns) :
    ms.map Node.target = ns.map Node.target := by
  induction h with
  | nil =>
      rfl
  | cons hmn _ ih =>
      rw [List.map_cons, List.map_cons, hmn.target, ih]

/-- Equal chains put the active node at the same place. -/
theorem Reachable.same_of_beq (ha : Reachable a) (hb : Reachable b) (hab : (a == b) = true) :
    Same a b := by
  have hchain := beq_iff.1 hab
  have hlen : a.before.length = b.before.length := by
    rw [ha.length_before, hb.length_before, map_target_eq hchain]
  have htake := List.forall₂_take a.before.length hchain
  have hdrop := List.forall₂_drop a.before.length hchain
  rw [Criteria.chain, List.take_left, Criteria.chain, hlen, List.take_left] at htake
  rw [Criteria.chain, List.drop_left, Criteria.chain, hlen, List.drop_left] at hdrop
  cases hdrop with
  | cons hactive hafter =>
      exact ⟨htake, hactive, hafter⟩

theorem Same.put (h : Same a b) (op : Operator) {o o' : Operand} (ho : o.same o' = true) :
    Same (a.put op o) (b.put op o') :=
  ⟨h.before, h.active.put op ho, h.after⟩

theorem Same.put_value (h : Same a b) (op : Operator) {v w : Value} (hvw : v.same w = true) :
    Same (a.put op (.value v)) (b.put op (.value w)) :=
  h.put op hvw

end Same

section Chaining

theorem compile_agree (h : (a == b) = true) : Agree AlignedDistinct a.compile b.compile :=
  compileChain_agree (beq_iff.1 h)

theorem append_agree (h : Same a b) {m n : Node} (hmn : Node.Same m n) :
    Agree Same (a.append m) (b.append n) := by
  rw [append, append, h.active.hasDanglingNot]
  split
  · exact .error rfl
  · exact .ok ⟨h.before, h.active, List.rel_append h.after (.cons hmn .nil)⟩

theorem compileAll_agree {cs ds : List Criteria}
    (h : List.Forall₂ (fun c d => (c == d) = true) cs ds) :
    Agree (List.Forall₂ fun d e => Document.same d e = true) (compileAll cs) (compileAll ds) := by
  induction h with
  | nil =>
      exact .ok .nil
  | cons hcd _ ih =>
      refine (compile_agree hcd).bind fun d e hde => ih.bind fun docs docs' hdocs => ?_
      exact .ok (.cons (Document.same_of_aligned hde.2 hde.1) hdocs)

theorem same_ofCombinator (op : Combinator) {docs docs' : List Document}
    (h : List.Forall₂ (fun d e => Document.same d e = true) docs docs') :
    Node.Same (.ofCombinator op docs) (.ofCombinator op docs') := by
  refine ⟨rfl, .some ?_, .nil⟩
  rw [Value.same_array, Value.sameItems_iff, List.forall₂_map_left_iff,
    List.forall₂_map_right_iff]
  exact h.imp fun d e hde => by rwa [Value.same_document]

theorem combine_agree (h : Same a b) (op : Combinator) {cs ds : List Criteria}
    (hcs : List.Forall₂ (fun c d => (c == d) = true) cs ds) :
    Agree Same (a.combine op cs) (b.combine op ds) :=
  (compileAll_agree hcs).bind fun _ _ hdocs => append_agree h (same_ofCombinator op hdocs)

theorem andSchema_agree (h : Same a b) {schema schema' : Document}
    (hs : schema.same schema' = true) : Agree Same (a.andSchema schema) (b.andSchema schema') := by
  refine append_agree h ⟨rfl, .none, .cons ⟨rfl, ?_⟩ .nil⟩
  change (Value.document schema).same (.document schema') = true
  rwa [Value.same_document]

theorem andField_agree (h : Same a b) (key : String) :
    Agree Same (a.andField key) (b.andField key) := by
  rw [andField, andField, h.active.hasDanglingNot]
  split
  · exact .error rfl
  · exact .ok ⟨h.chain, ⟨rfl, .none, .nil⟩, .nil⟩

end Chaining

section Recording

theorem equals_agree (h : Same a b) {v w : Value} (hvw : v.same w = true) :
    Agree Same (a.equals v) (b.equals w) := by
  rw [equals, equals, h.active.isSome_equality, h.active.hasDanglingNot]
  split
  · exact .error rfl
  · split
    · exact .error rfl
    · exact .ok ⟨h.before, h.active.setEquality hvw, h.after⟩

theorem candidates_agree (op : Operator) {vs ws : List Value}
    (h : List.Forall₂ (fun v w => Value.same v w = true) vs ws) :
    Agree (List.Forall₂ fun v w => Value.same v w = true) (candidates op vs)
      (candidates op ws) := by
  cases h with
  | nil =>
      exact .ok .nil
  | @cons v w vs ws hvw ht =>
      cases ht with
      | nil =>
          by_cases hv : v.isArray = true
          · obtain ⟨items, rfl⟩ := Value.isArray_iff.1 hv
            obtain ⟨items', rfl, hitems⟩ := Value.same_array_left hvw
            exact .ok (Value.sameItems_iff.1 hitems)
          · have hw : ¬ w.isArray = true := by
              rwa [← Value.isArray_eq_of_same hvw]
            have hone : ∀ u : Value, ¬ u.isArray = true → candidates op [u] = .ok [u] := by
              intro u hu
              cases u <;> simp_all [candidates, Value.isArray]
            rw [hone v hv, hone w hw]
            exact .ok (.cons hvw .nil)
      | @cons v' w' vs ws hvw' ht =>
          have htwo : ∀ (u u' : Value) (us : List Value), candidates op (u :: u' :: us) =
              if u'.isArray then .error (.ambiguousArgument op) else .ok (u :: u' :: us) := by
            intro u u' us
            cases u <;> rfl
          rw [htwo, htwo, Value.isArray_eq_of_same hvw']
          split
          · exact .error rfl
          · exact .ok (.cons hvw (.cons hvw' ht))

theorem member_agree (h : Same a b) (m : Membership) {vs ws : List Value}
    (hvs : List.Forall₂ (fun v w => Value.same v w = true) vs ws) :
    Agree Same (a.member m vs) (b.member m ws) := by
  refine (candidates_agree m.operator hvs).bind fun items items' hitems => ?_
  refine .ok (h.put_value m.operator ?_)
  rw [Value.same_array]
  exact Value.sameItems_iff.2 hitems

theorem matchPattern_same (h : Same a b) {p q : Pattern} (hpq : (p == q) = true) :
    Same (a.matchPattern p) (b.matchPattern q) := by
  have hvalue : (Value.regex p).same (.regex q) = true := by
    rwa [Value.same]
  refine ⟨h.before, ?_, h.after⟩
  simp only [matchPattern, modify, h.active.hasDanglingNot]
  split
  · exact h.active.put .not hvalue
  · exact h.active.setEquality hvalue

theorem matchSource_agree (h : Same a b) (source options : String) :
    Agree Same (a.matchSource source options) (b.matchSource source options) := by
  rw [matchSource, matchSource]
  cases Pattern.compile source options with
  | error e =>
      exact .error rfl
  | ok p =>
      exact .ok (matchPattern_same h (by simp [BEq.beq]))

theorem elemMatch_agree (h : Same a b) {c d : Criteria} (hcd : (c == d) = true) :
    Agree Same (a.elemMatch c) (b.elemMatch d) := by
  refine (compile_agree hcd).bind fun d e hde => .ok (h.put_value .elemMatch ?_)
  rw [Value.same_document]
  exact Document.same_of_aligned hde.2 hde.1

theorem testBits_agree (h : Same a b) (t : BitTest) (mask : Bitmask) :
    Agree Same (a.testBits t mask) (b.testBits t mask) := by
  rw [testBits, testBits]
  cases hm : mask.toValue with
  | error e =>
      exact .error rfl
  | ok v =>
      exact .ok (h.put_value t.operator (Value.same_self (Bitmask.proper_of_toValue hm)))

end Recording

section Distances

/-- Equal operands can carry a bound or not, and are equal with the bound if they can. -/
theorem boundedOperand?_rel (x : Bound) (distance : Binary64) {o o' : Operand}
    (h : o.same o' = true) (ho : ∀ d, o = .value (.document d) → d.Proper) :
    Option.Rel (fun o o' => Operand.same o o' = true) (boundedOperand? x distance o)
      (boundedOperand? x distance o') := by
  have hdistance : (Value.double distance).same (.double distance) = true :=
    Value.same_self (by simp [Value.Proper])
  rcases Operand.value_or_eq_of_same h with ⟨v, w, rfl, rfl, hvw⟩ | ⟨rfl, hnot⟩
  · by_cases hv : ∃ d, v = .document d
    · obtain ⟨d, rfl⟩ := hv
      obtain ⟨e, rfl, hde⟩ := Value.same_document_left hvw
      refine .some ?_
      change (Value.document _).same (.document _) = true
      rw [Value.same_document]
      exact Document.same_insert (Document.proper_iff.1 (ho d rfl)).1 hde _ hdistance
    · have hw : ¬ ∃ e, w = .document e := by
        rintro ⟨e, rfl⟩
        exact hv (Value.same_document_right hvw)
      have hnone : ∀ u : Value, (¬ ∃ d, u = .document d) →
          boundedOperand? x distance (.value u) = none := by
        intro u hu
        cases u <;> simp_all [boundedOperand?]
      rw [hnone v hv, hnone w hw]
      exact .none
  · cases hb : boundedOperand? x distance o with
    | none =>
        exact .none
    | some o' =>
        cases o with
        | shape s =>
            cases s with
            | geometry g =>
                cases hb
                refine .some (Value.same_self ?_)
                rw [Value.Proper]
                exact Document.proper_insert g.proper_toOperand _ (by simp [Value.Proper])
            | _ =>
                simp [boundedOperand?] at hb
        | value v =>
            exact absurd rfl (hnot v)
        | _ =>
            simp [boundedOperand?] at hb

theorem boundOn?_rel {m n : Node} (h : Node.Same m n) (hm : m.WellFormed) {op : Operator}
    (hop : op.IsNear) (x : Bound) (distance : Binary64) :
    Option.Rel Node.Same (boundOn? m op x distance) (boundOn? n op x distance) := by
  unfold boundOn?
  rcases Assoc.Aligned.get? h.operators op with ⟨hm', hn'⟩ | ⟨o, o', hm', hn', ho⟩
  · rw [Node.operand?, Node.operand?, hm', hn']
    exact .none
  · have hproper : ∀ d, o = .value (.document d) → d.Proper := by
      rintro d rfl
      rcases hm.near op hop _ hm' with ⟨s, hs⟩ | ⟨e, he, hproper, _⟩
      · cases hs
      · cases he
        exact hproper
    have hrel := boundedOperand?_rel x distance ho hproper
    rw [Node.operand?, Node.operand?, hm', hn', Option.bind_eq_bind, Option.bind_some,
      Option.bind_some]
    generalize boundedOperand? x distance o = r at hrel
    generalize boundedOperand? x distance o' = r' at hrel
    cases hrel with
    | none =>
        exact .none
    | some hr =>
        exact .some (h.put op hr)

theorem bound_same (h : Same a b) (ha : a.active.WellFormed) (x : Bound) (distance : Binary64) :
    Same (a.bound x distance) (b.bound x distance) := by
  have hnear := boundOn?_rel h.active ha (Or.inl rfl : Operator.near.IsNear) x distance
  have hsphere := boundOn?_rel h.active ha (Or.inr rfl : Operator.nearSphere.IsNear) x distance
  refine ⟨h.before, ?_, h.after⟩
  simp only [bound, modify]
  generalize boundOn? a.active .near x distance = r at hnear
  generalize boundOn? b.active .near x distance = r' at hnear
  cases hnear with
  | some hr =>
      exact hr
  | none =>
      generalize boundOn? a.active .nearSphere x distance = r at hsphere
      generalize boundOn? b.active .nearSphere x distance = r' at hsphere
      cases hsphere with
      | some hr =>
          exact hr
      | none =>
          exact h.active.put _ (Value.same_self (by simp [Value.Proper]))

end Distances

section Calls

/-- The same call, made with equal arguments. -/
inductive Call.Same : Call → Call → Prop
  | andField (key : String) : Same (.andField key) (.andField key)
  | equals {v w : Value} (h : (v == w) = true) : Same (.equals v) (.equals w)
  | negate : Same .negate .negate
  | compare (op : Comparison) {v w : Value} (h : (v == w) = true) :
      Same (.compare op v) (.compare op w)
  | member (op : Membership) {vs ws : List Value}
      (h : List.Forall₂ (fun v w : Value => (v == w) = true) vs ws) :
      Same (.member op vs) (.member op ws)
  | modulo {v w v' w' : Value} (h : (v == w) = true) (h' : (v' == w') = true) :
      Same (.modulo v v') (.modulo w w')
  | size (n : Int32) : Same (.size n) (.size n)
  | present (b : Bool) : Same (.present b) (.present b)
  | typeNumber (n : Int32) : Same (.typeNumber n) (.typeNumber n)
  | typeOf (types : List TypeAlias) : Same (.typeOf types) (.typeOf types)
  | matchSource (source options : String) :
      Same (.matchSource source options) (.matchSource source options)
  | matchPattern {p q : Pattern} (h : (p == q) = true) : Same (.matchPattern p) (.matchPattern q)
  | near {s t : Shape} (h : (s == t) = true) : Same (.near s) (.near t)
  | nearSphere {s t : Shape} (h : (s == t) = true) : Same (.nearSphere s) (.nearSphere t)
  | within {s t : Shape} (h : (s == t) = true) : Same (.within s) (.within t)
  | withinSphere (c : Geo.Circle) : Same (.withinSphere c) (.withinSphere c)
  | intersects {g h : Geometry} (hgh : (g == h) = true) : Same (.intersects g) (.intersects h)
  | bound (b : Bound) (distance : Binary64) : Same (.bound b distance) (.bound b distance)
  | elemMatch {c d : Criteria} (h : (c == d) = true) : Same (.elemMatch c) (.elemMatch d)
  | andSchema {schema schema' : Document} (h : (schema == schema') = true) :
      Same (.andSchema schema) (.andSchema schema')
  | combine (op : Combinator) {cs ds : List Criteria}
      (h : List.Forall₂ (fun c d : Criteria => (c == d) = true) cs ds) :
      Same (.combine op cs) (.combine op ds)
  | testBits (t : BitTest) (mask : Bitmask) : Same (.testBits t mask) (.testBits t mask)

variable {s t : Call}

theorem same_typeNames (types : List TypeAlias) :
    (Value.array (types.map fun t => .string t.name)).same
      (.array (types.map fun t => .string t.name)) = true := by
  refine Value.same_self (Value.proper_array fun v hv => ?_)
  obtain ⟨t, _, rfl⟩ := List.mem_map.1 hv
  simp [Value.Proper]

/-- The same call on equal criteria is accepted on both, which stay equal, or refused on both. -/
theorem call_agree (h : Same a b) (ha : a.active.WellFormed) (hst : Call.Same s t) :
    Agree Same (a.call s) (b.call t) := by
  cases hst with
  | andField key =>
      exact andField_agree h key
  | equals hvw =>
      exact equals_agree h hvw
  | negate =>
      exact .ok (h.put .not rfl)
  | compare op hvw =>
      exact .ok (h.put_value op.operator hvw)
  | member op hvs =>
      exact member_agree h op hvs
  | modulo hvw hvw' =>
      refine .ok (h.put_value .mod ?_)
      rw [Value.same_array, Value.sameItems_iff]
      exact .cons hvw (.cons hvw' .nil)
  | size n =>
      exact .ok (h.put_value .size (Value.same_self (by simp [Value.Proper])))
  | present x =>
      exact .ok (h.put_value .present (Value.same_self (by simp [Value.Proper])))
  | typeNumber n =>
      exact .ok (h.put_value .type (Value.same_self (by simp [Value.Proper])))
  | typeOf types =>
      exact .ok (h.put_value .type (same_typeNames types))
  | matchSource source options =>
      exact matchSource_agree h source options
  | matchPattern hpq =>
      exact .ok (matchPattern_same h hpq)
  | near hs =>
      exact .ok (h.put .near hs)
  | nearSphere hs =>
      exact .ok (h.put .nearSphere hs)
  | within hs =>
      exact .ok (h.put .geoWithin hs)
  | withinSphere c =>
      exact .ok (h.put .geoWithin (by simp [Operand.same, BEq.beq, Shape.same]))
  | intersects hgh =>
      exact .ok (h.put .geoIntersects hgh)
  | bound x distance =>
      exact .ok (bound_same h ha x distance)
  | elemMatch hcd =>
      exact elemMatch_agree h hcd
  | andSchema hs =>
      exact andSchema_agree h hs
  | combine op hcs =>
      exact combine_agree h op hcs
  | testBits x mask =>
      exact testBits_agree h x mask

theorem Agree.callOrKeep (h : Same a b) (hst : Agree Same (a.call s) (b.call t)) :
    Same (a.callOrKeep s) (b.callOrKeep t) := by
  rw [Criteria.callOrKeep, Criteria.callOrKeep]
  generalize a.call s = x at hst
  generalize b.call t = y at hst
  cases hst with
  | ok hxy =>
      exact hxy
  | error _ =>
      exact h

end Calls

section Runs

/-- Both chains compile, to equal documents, or both collide at the same key. -/
def CompileAlike (a b : Criteria) : Prop :=
  (∃ d e, a.compile = .ok d ∧ b.compile = .ok e ∧ (d == e) = true) ∨
    ∃ key v w v' w', a.compile = .error (.duplicateKey key v w) ∧
      b.compile = .error (.duplicateKey key v' w')

theorem compileAlike_of_beq (h : (a == b) = true) : CompileAlike a b := by
  have hagree := compile_agree h
  cases ha : a.compile with
  | ok d =>
      rw [ha] at hagree
      generalize hb : b.compile = y at hagree
      cases hagree with
      | ok hde =>
          exact Or.inl ⟨d, _, ha, hb, Document.same_of_aligned hde.2 hde.1⟩
  | error e =>
      rw [ha] at hagree
      generalize hb : b.compile = y at hagree
      cases hagree with
      | error hkind =>
          obtain ⟨key, v, w, rfl⟩ := duplicateKey_of_compileChain ha
          obtain ⟨key', v', w', rfl⟩ := duplicateKey_of_compileChain hb
          obtain rfl : key = key' := by
            simpa [Error.kind] using hkind
          exact Or.inr ⟨key, v, w, v', w', ha, hb⟩

/-- Two runs side by side: before and after every call the criteria are equal and compile alike,
and every call is accepted on both sides or refused on both for the same kind of reason. -/
def RunsAlike (a b : Criteria) : List (Call × Call) → Prop
  | [] => (a == b) = true ∧ CompileAlike a b
  | (s, t) :: rest =>
      ((a == b) = true ∧ CompileAlike a b) ∧
        Agree (fun c d => (c == d) = true) (a.call s) (b.call t) ∧
          RunsAlike (a.callOrKeep s) (b.callOrKeep t) rest

/-- The induction is on the calls that are left; that both sides are reachable carries it, as equal
reachable criteria are active at the same place. -/
theorem runsAlike_of_beq (ha : Reachable a) (hb : Reachable b) (hab : (a == b) = true)
    (steps : List (Call × Call)) (hsteps : ∀ p ∈ steps, Call.Same p.1 p.2) :
    RunsAlike a b steps := by
  induction steps generalizing a b with
  | nil =>
      exact ⟨hab, compileAlike_of_beq hab⟩
  | cons p rest ih =>
      obtain ⟨s, t⟩ := p
      have hsame : Same a b := ha.same_of_beq hb hab
      have hactive : a.active.WellFormed := ha.nodes_wellFormed _ (active_mem_chain a)
      have hcall : Agree Same (a.call s) (b.call t) :=
        call_agree hsame hactive (hsteps (s, t) List.mem_cons_self)
      refine ⟨⟨hab, compileAlike_of_beq hab⟩, hcall.imp fun _ _ h => h.beq, ?_⟩
      exact ih (ha.callOrKeep s) (hb.callOrKeep t) (hcall.callOrKeep hsame).beq
        fun q hq => hsteps q (List.mem_cons_of_mem _ hq)

/-- **Equality is a congruence for the builder.**  The place of the active node is determined by
the chain, and runs of the same calls that begin at equal criteria go alike all the way. -/
theorem equality_is_congruence (ha : Reachable a) (hb : Reachable b) (hab : (a == b) = true) :
    (∀ c, Reachable c → c.before.length = lastField (c.chain.map Node.target)) ∧
      ∀ steps : List (Call × Call), (∀ p ∈ steps, Call.Same p.1 p.2) → RunsAlike a b steps :=
  ⟨fun _ hc => hc.length_before, fun steps hsteps => runsAlike_of_beq ha hb hab steps hsteps⟩

/-- Two criteria whose values list their entries in different orders go on alike. -/
theorem equality_is_congruence_reordered :
    ((field "f").run [.equals (.document ⟨[("x", .null), ("y", .bool true)]⟩)] ==
        (field "f").run [.equals (.document ⟨[("y", .bool true), ("x", .null)]⟩)]) = true ∧
      RunsAlike
        ((field "f").run [.equals (.document ⟨[("x", .null), ("y", .bool true)]⟩)])
        ((field "f").run [.equals (.document ⟨[("y", .bool true), ("x", .null)]⟩)])
        [(.equals .null, .equals .null), (.andField "g", .andField "g"),
          (.near (.geometry (.point ⟨⟨0⟩, ⟨0⟩⟩)), .near (.geometry (.point ⟨⟨0⟩, ⟨0⟩⟩))),
          (.bound .max ⟨0⟩, .bound .max ⟨0⟩)] := by
  have hab : ((field "f").run [.equals (.document ⟨[("x", .null), ("y", .bool true)]⟩)] ==
      (field "f").run [.equals (.document ⟨[("y", .bool true), ("x", .null)]⟩)]) = true := by
    cbv
  refine ⟨hab, (equality_is_congruence ((Reachable.field "f").run _) ((Reachable.field "f").run _)
    hab).2 _ ?_⟩
  simp only [List.forall_mem_cons]
  exact ⟨.equals (by cbv), .andField "g", .near (by cbv), .bound .max ⟨0⟩, by simp⟩

end Runs

end Criteria

end DocFilter
