import DocFilter.Criteria.Compile
import DocFilter.Proofs.OperatorDocument
import DocFilter.Proofs.Refusal
import DocFilter.Proofs.Shape

/-!
# Equal nodes compile alike

Equal nodes record the same operators in the same order, with equal operands.
Therefore they compile to documents that agree entry by entry, keys included
(`Node.Same.compile`), and chains of equal nodes compile to such documents or
collide at the same key (`compileChain_agree`).

Agreement entry by entry is more than equality of documents, which disregards
order.  It is what merging needs: the first key that is taken already is the
same in both chains.
-/

namespace DocFilter

section Documents

namespace Document

theorem aligned_empty : Document.empty.Aligned .empty :=
  List.Forall₂.nil

theorem Aligned.single (k : String) {v w : Value} (h : v.same w = true) :
    (Document.single k v).Aligned (.single k w) :=
  .cons ⟨rfl, h⟩ .nil

theorem Aligned.insert {d e : Document} (h : d.Aligned e) (k : String) {v w : Value}
    (hvw : v.same w = true) : (d.insert k v).Aligned (e.insert k w) :=
  Assoc.Aligned.put h k hvw

theorem Aligned.insertAll {d e d' e' : Document} (h : d.Aligned e) (h' : d'.Aligned e') :
    (d.insertAll d').Aligned (e.insertAll e') :=
  Assoc.Aligned.putAll h h'

end Document

end Documents

namespace Node

section Same

/-- Operators recorded in the same order with equal operands. -/
def SameOperators (xs ys : List (Operator × Operand)) : Prop :=
  Assoc.Aligned (fun o o' => Operand.same o o' = true) xs ys

theorem sameOperators_iff {xs ys : List (Operator × Operand)} :
    sameOperators xs ys = true ↔ SameOperators xs ys := by
  induction xs generalizing ys with
  | nil =>
      cases ys with
      | nil =>
          simp [sameOperators, SameOperators, Assoc.Aligned]
      | cons f ys =>
          simp [sameOperators, SameOperators, Assoc.Aligned]
  | cons e xs ih =>
      cases ys with
      | nil =>
          simp [sameOperators, SameOperators, Assoc.Aligned]
      | cons f ys =>
          have hrest : sameOperators xs ys = true ↔ SameOperators xs ys := ih
          simp only [SameOperators, Assoc.Aligned] at hrest
          simp [sameOperators, SameOperators, Assoc.Aligned, hrest]

/-- Nodes about the same thing, with equal operators in the same order and equal values to equal. -/
structure Same (m n : Node) : Prop where
  target : m.target = n.target
  equality : Option.Rel (fun v w => Value.same v w = true) m.equality n.equality
  operators : SameOperators m.operators n.operators

theorem sameEquality_iff {a b : Option Value} :
    sameEquality a b = true ↔ Option.Rel (fun v w => Value.same v w = true) a b := by
  cases a with
  | none =>
      cases b with
      | none =>
          exact iff_of_true rfl .none
      | some w =>
          exact iff_of_false (by simp [sameEquality]) (by rintro ⟨⟩)
  | some v =>
      cases b with
      | none =>
          exact iff_of_false (by simp [sameEquality]) (by rintro ⟨⟩)
      | some w =>
          refine ⟨fun h => .some h, fun h => ?_⟩
          cases h with
          | some h =>
              exact h

theorem same_iff {m n : Node} : m.same n = true ↔ Same m n := by
  rw [Node.same, Bool.and_eq_true, Bool.and_eq_true, beq_iff_eq, sameEquality_iff,
    sameOperators_iff]
  exact ⟨fun ⟨⟨ht, he⟩, ho⟩ => ⟨ht, he, ho⟩, fun h => ⟨⟨h.target, h.equality⟩, h.operators⟩⟩

variable {m n : Node}

theorem Same.put (h : Same m n) (op : Operator) {o o' : Operand} (ho : o.same o' = true) :
    Same (m.put op o) (n.put op o') :=
  ⟨h.target, h.equality, Assoc.Aligned.put h.operators op ho⟩

theorem Same.setEquality (h : Same m n) {v w : Value} (hvw : v.same w = true) :
    Same { m with equality := some v } { n with equality := some w } :=
  ⟨h.target, .some hvw, h.operators⟩

theorem Same.isSome_equality (h : Same m n) : m.equality.isSome = n.equality.isSome := by
  have heq := h.equality
  generalize m.equality = a at heq
  generalize n.equality = b at heq
  cases heq with
  | none =>
      rfl
  | some _ =>
      rfl

/-- Of equal operators in the same order the last is a waiting negation in both or in neither. -/
theorem SameOperators.getLast? {xs ys : List (Operator × Operand)} (h : SameOperators xs ys) :
    Option.Rel (fun e f => e.1 = f.1 ∧ e.2.same f.2 = true) xs.getLast? ys.getLast? := by
  induction h with
  | nil =>
      exact .none
  | @cons e f xs ys he ht ih =>
      cases ht with
      | nil =>
          exact .some he
      | @cons e' f' xs ys he' ht =>
          rw [List.getLast?_cons_cons, List.getLast?_cons_cons]
          exact ih

theorem Same.hasDanglingNot (h : Same m n) : m.hasDanglingNot = n.hasDanglingNot := by
  have hlast := SameOperators.getLast? h.operators
  unfold Node.hasDanglingNot
  cases hm : m.operators.getLast? with
  | none =>
      rw [hm] at hlast
      generalize n.operators.getLast? = b at hlast
      cases hlast
      rfl
  | some e =>
      rw [hm] at hlast
      generalize n.operators.getLast? = b at hlast
      cases hlast with
      | @some e f hef =>
          obtain ⟨op, o⟩ := e
          obtain ⟨op', o'⟩ := f
          obtain ⟨rfl, ho⟩ : op = op' ∧ o.same o' = true := hef
          have hneg := Operand.isNegation_eq_of_same ho
          cases op <;> cases o <;> cases o' <;> simp_all [Operand.isNegation]

end Same

section Compile

/-- Equal operators add entries that agree to documents that agree. -/
theorem compileOperators_aligned {xs ys : List (Operator × Operand)} (h : SameOperators xs ys)
    {d e : Document} (hde : d.Aligned e) (he : e.Distinct) (negated : Bool) :
    (compileOperators d negated xs).Aligned (compileOperators e negated ys) := by
  induction h generalizing d e negated with
  | nil =>
      cases negated with
      | true =>
          refine Document.Aligned.single _ ?_
          rw [Value.same_document]
          exact Document.same_of_aligned he hde
      | false =>
          exact hde
  | @cons x y xs ys hxy _ ih =>
      obtain ⟨op, o⟩ := x
      obtain ⟨op', o'⟩ := y
      obtain ⟨rfl, ho⟩ : op = op' ∧ o.same o' = true := hxy
      have hrender := Operand.same_render ho
      rw [compileOperators, compileOperators, Operand.isNegation_eq_of_same ho]
      split
      · have hsingle : (Document.single op.key o.render).same (.single op.key o'.render) = true :=
          Document.same_of_aligned (Document.distinct_single _ _) (.single _ hrender)
        refine ih (hde.insert _ ?_) (Document.distinct_insert he _ _) false
        rw [Value.same_document]
        exact hsingle
      · split
        · exact ih hde he true
        · exact ih (hde.insert _ hrender) (Document.distinct_insert he _ _) false

variable {m n : Node}

theorem Same.operatorDocument (h : Same m n) :
    m.operatorDocument.Aligned n.operatorDocument :=
  compileOperators_aligned h.operators Document.aligned_empty Document.distinct_empty false

theorem distinct_compile (n : Node) : n.compile.Distinct := by
  rw [Node.compile]
  split
  · exact distinct_operatorDocument n
  · split
    · exact Document.distinct_insertAll (Document.distinct_single _ _) _
    · exact Document.distinct_single _ _

/-- Equal nodes compile to documents that agree entry by entry. -/
theorem Same.compile (h : Same m n) : m.compile.Aligned n.compile := by
  have hkey : m.key? = n.key? := by
    rw [Node.key?, Node.key?, h.target]
  have hops := h.operatorDocument
  rw [Node.compile, Node.compile, hkey]
  cases n.key? with
  | none =>
      exact hops
  | some key =>
      have heq := h.equality
      generalize m.equality = a at heq
      generalize n.equality = b at heq
      cases heq with
      | none =>
          refine Document.Aligned.single _ ?_
          rw [Value.same_document]
          exact Document.same_of_aligned (distinct_operatorDocument n) hops
      | some hvw =>
          exact (Document.Aligned.single key hvw).insertAll hops

end Compile

end Node

namespace Criteria

section Chain

/-- Documents that agree entry by entry, the second of them without repeated keys. -/
def AlignedDistinct (d e : Document) : Prop :=
  d.Aligned e ∧ e.Distinct

theorem mergeEntries_agree {xs ys : List (String × Value)}
    (h : Assoc.Aligned (fun v w => Value.same v w = true) xs ys) {d e : Document}
    (hde : AlignedDistinct d e) :
    Agree AlignedDistinct (mergeEntries d xs) (mergeEntries e ys) := by
  induction h generalizing d e with
  | nil =>
      exact .ok hde
  | @cons x y xs ys hxy _ ih =>
      obtain ⟨k, v⟩ := x
      obtain ⟨k', w⟩ := y
      obtain ⟨rfl, hvw⟩ : k = k' ∧ v.same w = true := hxy
      rw [mergeEntries, mergeEntries]
      rcases Assoc.Aligned.get? hde.1 k with ⟨hd, he⟩ | ⟨v', w', hd, he, _⟩
      · rw [Document.get?, hd, Document.get?, he]
        exact ih ⟨hde.1.insert k hvw, Document.distinct_insert hde.2 k w⟩
      · rw [Document.get?, hd, Document.get?, he]
        exact .error rfl

theorem mergeNodes_agree {ms ns : List Node} (h : List.Forall₂ Node.Same ms ns) {d e : Document}
    (hde : AlignedDistinct d e) : Agree AlignedDistinct (mergeNodes d ms) (mergeNodes e ns) := by
  induction h generalizing d e with
  | nil =>
      exact .ok hde
  | cons hmn _ ih =>
      exact (mergeEntries_agree hmn.compile hde).bind fun _ _ hde' => ih hde'

/-- Chains of equal nodes compile to documents that agree entry by entry, or collide alike. -/
theorem compileChain_agree {ms ns : List Node} (h : List.Forall₂ Node.Same ms ns) :
    Agree AlignedDistinct (compileChain ms) (compileChain ns) := by
  cases h with
  | nil =>
      exact .ok ⟨Document.aligned_empty, Document.distinct_empty⟩
  | cons hmn ht =>
      cases ht with
      | nil =>
          exact .ok ⟨hmn.compile, Node.distinct_compile _⟩
      | cons hmn' ht =>
          exact mergeNodes_agree (.cons hmn (.cons hmn' ht))
            ⟨Document.aligned_empty, Document.distinct_empty⟩

end Chain

end Criteria

end DocFilter
