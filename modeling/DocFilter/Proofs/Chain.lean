import DocFilter.Criteria.Call
import DocFilter.Proofs.SameNode

/-!
# When a chain compiles, and to what

Every node compiles to a document with distinct keys, so a key can be taken
only by another node.  A chain compiles exactly if its nodes are *apart*, that
is, if no two of them have a key in common, and then to the entries of all its
nodes, one node after the other.  If the nodes are not apart, compilation stops
at the *first collision*: the first entry in chain order whose key a node
before it has.

Both conditions are about nodes.  Merging sees one list of entries instead, for
it makes no difference where one node ends and the next begins
(`mergeNodes_eq`).  There the conditions say that the keys of the list are
distinct (`nodup_keys_flatMap_iff`), or what its first repeated key is
(`firstCollision_iff`).
-/

namespace DocFilter

namespace Assoc

universe u v

variable {κ : Type u} {α : Type v}

/-- Entries that are not distinct have a first one whose key is repeated. -/
theorem exists_first_repetition {xs ys : List (κ × α)} (hxs : (keys xs).Nodup)
    (h : ¬ (keys (xs ++ ys)).Nodup) :
    ∃ zs k v ws, ys = zs ++ (k, v) :: ws ∧ (keys (xs ++ zs)).Nodup ∧ k ∈ keys (xs ++ zs) := by
  induction ys generalizing xs with
  | nil =>
      rw [List.append_nil] at h
      exact absurd hxs h
  | cons e rest ih =>
      obtain ⟨k, v⟩ := e
      by_cases hk : k ∈ keys xs
      · refine ⟨[], k, v, rest, rfl, ?_, ?_⟩
        · rwa [List.append_nil]
        · rwa [List.append_nil]
      · have hnodup : (keys (xs ++ [(k, v)])).Nodup := by
          rw [keys_append]
          exact hxs.append (List.nodup_singleton k) (List.disjoint_singleton.2 hk)
        have hsplit : xs ++ (k, v) :: rest = (xs ++ [(k, v)]) ++ rest := by simp
        rw [hsplit] at h
        obtain ⟨zs, l, w, ws, rfl, hzs, hl⟩ := ih hnodup h
        refine ⟨(k, v) :: zs, l, w, ws, rfl, ?_, ?_⟩
        · rwa [List.append_cons]
        · rwa [List.append_cons]

end Assoc

namespace Criteria

section Merging

variable {d : Document} {xs ys : List (String × Value)} {key : String} {existing value : Value}

theorem mergeEntries_append (d : Document) (xs ys : List (String × Value)) :
    mergeEntries d (xs ++ ys) = mergeEntries d xs >>= fun e => mergeEntries e ys := by
  induction xs generalizing d with
  | nil =>
      rfl
  | cons x xs ih =>
      obtain ⟨k, v⟩ := x
      rw [List.cons_append, mergeEntries, mergeEntries]
      cases d.get? k with
      | some _ =>
          rfl
      | none =>
          exact ih _

/-- Merging nodes is merging all their entries. -/
theorem mergeNodes_eq (d : Document) (ns : List Node) :
    mergeNodes d ns = mergeEntries d (ns.flatMap fun n => n.compile.entries) := by
  induction ns generalizing d with
  | nil =>
      rfl
  | cons n ns ih =>
      rw [List.flatMap_cons, mergeEntries_append, mergeNodes]
      exact congrArg _ (funext ih)

theorem mergeEntries_of_nodup (h : (Assoc.keys (d.entries ++ xs)).Nodup) :
    mergeEntries d xs = .ok ⟨d.entries ++ xs⟩ := by
  induction xs generalizing d with
  | nil =>
      simp [mergeEntries]
  | cons x xs ih =>
      obtain ⟨k, v⟩ := x
      have hnew : k ∉ Assoc.keys d.entries := Assoc.notMem_keys_of_nodup h
      have hnone : d.get? k = none := (Assoc.get?_eq_none_iff k d.entries).2 hnew
      have hinsert : d.insert k v = ⟨d.entries ++ [(k, v)]⟩ := by
        rw [Document.insert, Assoc.put_of_notMem v hnew]
      have hsplit : d.entries ++ (k, v) :: xs = d.entries ++ [(k, v)] ++ xs :=
        List.append_cons ..
      rw [hsplit] at h ⊢
      rw [mergeEntries, hnone, hinsert]
      exact ih h

/-- Merging stops at a key that is taken, and reports both values. -/
theorem mergeEntries_of_taken (h : (Assoc.keys (d.entries ++ xs)).Nodup)
    (hkey : (key, existing) ∈ d.entries ++ xs) :
    mergeEntries d (xs ++ (key, value) :: ys) = .error (.duplicateKey key existing value) := by
  have htaken : Document.get? ⟨d.entries ++ xs⟩ key = some existing :=
    (Assoc.get?_eq_some_iff h).2 hkey
  rw [mergeEntries_append, mergeEntries_of_nodup h]
  change mergeEntries ⟨d.entries ++ xs⟩ ((key, value) :: ys) = _
  rw [mergeEntries, htaken]

end Merging

section Nodes

/-- No two nodes of the chain have a key in common. -/
def KeysApart (ns : List Node) : Prop :=
  ns.Pairwise fun m n => m.compile.keys.Disjoint n.compile.keys

/-- The first entry in chain order whose key a node before it has, and the value that the key has
there. -/
def FirstCollision (ns : List Node) (key : String) (existing value : Value) : Prop :=
  ∃ before n after xs ys,
    ns = before ++ n :: after ∧ n.compile.entries = xs ++ (key, value) :: ys ∧
      (∃ m ∈ before, (key, existing) ∈ m.compile.entries) ∧
      KeysApart before ∧ ∀ m ∈ before, m.compile.keys.Disjoint (Assoc.keys xs)

theorem keys_flatMap (ns : List Node) :
    Assoc.keys (ns.flatMap fun n => n.compile.entries) = ns.flatMap fun n => n.compile.keys := by
  rw [Assoc.keys, List.map_flatMap]
  rfl

theorem nodup_keys_flatMap_iff {ns : List Node} :
    (Assoc.keys (ns.flatMap fun n => n.compile.entries)).Nodup ↔ KeysApart ns := by
  rw [keys_flatMap, List.nodup_flatMap]
  exact and_iff_right fun n _ => Node.distinct_compile n

/-- An entry of the chain is an entry of one of its nodes, behind the entries of the nodes before
this one. -/
theorem exists_node_of_flatMap_eq {ns : List Node} {e : String × Value}
    {xs ys : List (String × Value)}
    (h : (ns.flatMap fun n => n.compile.entries) = xs ++ e :: ys) :
    ∃ before n after zs zs', ns = before ++ n :: after ∧ n.compile.entries = zs ++ e :: zs' ∧
      xs = (before.flatMap fun n => n.compile.entries) ++ zs := by
  induction ns generalizing xs with
  | nil =>
      simp at h
  | cons n ns ih =>
      rw [List.flatMap_cons] at h
      rcases List.append_eq_append_iff.1 h with ⟨ws, rfl, hrest⟩ | ⟨ws, hn, hrest⟩
      · obtain ⟨before, m, after, zs, zs', rfl, hm, rfl⟩ := ih hrest
        exact ⟨n :: before, m, after, zs, zs', rfl, hm, by simp⟩
      · cases ws with
        | nil =>
            -- The node ends right before the entry, which is the first of the nodes behind.
            have hstart : (ns.flatMap fun n => n.compile.entries) = [] ++ e :: ys := by
              simpa using hrest.symm
            obtain ⟨before, m, after, zs, zs', rfl, hm, hnil⟩ := ih hstart
            refine ⟨n :: before, m, after, zs, zs', rfl, hm, ?_⟩
            rw [List.append_nil] at hn
            rw [List.flatMap_cons, List.append_assoc, ← hnil, hn, List.append_nil]
        | cons w ws =>
            obtain ⟨rfl, _⟩ := List.cons.inj hrest
            exact ⟨[], n, ns, xs, ws, rfl, hn, by simp⟩

/-- The first collision of a chain is the first repeated key among the entries of all its nodes. -/
theorem firstCollision_iff {ns : List Node} {key : String} {existing value : Value} :
    FirstCollision ns key existing value ↔
      ∃ xs ys, (ns.flatMap fun n => n.compile.entries) = xs ++ (key, value) :: ys ∧
        (Assoc.keys xs).Nodup ∧ (key, existing) ∈ xs := by
  constructor
  · rintro ⟨before, n, after, xs, ys, rfl, hn, ⟨m, hm, hkey⟩, hbefore, hxs⟩
    refine ⟨(before.flatMap fun n => n.compile.entries) ++ xs,
      ys ++ after.flatMap fun n => n.compile.entries, ?_, ?_, ?_⟩
    · simp [hn]
    · have hdistinct : (Assoc.keys xs).Nodup := by
        have hnodup := Node.distinct_compile n
        rw [Document.Distinct, Document.keys, hn, Assoc.keys_append] at hnodup
        exact hnodup.of_append_left
      rw [Assoc.keys_append]
      refine (nodup_keys_flatMap_iff.2 hbefore).append hdistinct ?_
      rw [keys_flatMap]
      intro k hk hk'
      obtain ⟨m', hm', hkm'⟩ := List.mem_flatMap.1 hk
      exact hxs m' hm' hkm' hk'
    · exact List.mem_append_left _ (List.mem_flatMap.2 ⟨m, hm, hkey⟩)
  · rintro ⟨xs, ys, hsplit, hnodup, hkey⟩
    obtain ⟨before, n, after, zs, zs', rfl, hn, rfl⟩ := exists_node_of_flatMap_eq hsplit
    rw [Assoc.keys_append] at hnodup
    have hdisjoint := List.disjoint_of_nodup_append hnodup
    refine ⟨before, n, after, zs, zs', rfl, hn, ?_, ?_, ?_⟩
    · -- The key is not repeated within the node, so a node before it has the key.
      have hnew : key ∉ Assoc.keys zs := by
        have hdistinct := Node.distinct_compile n
        rw [Document.Distinct, Document.keys, hn] at hdistinct
        exact Assoc.notMem_keys_of_nodup hdistinct
      rcases List.mem_append.1 hkey with hbefore | hzs
      · exact List.mem_flatMap.1 hbefore
      · exact absurd (Assoc.mem_keys_of_mem hzs) hnew
    · exact nodup_keys_flatMap_iff.1 hnodup.of_append_left
    · intro m hm k hk hk'
      rw [keys_flatMap] at hdisjoint
      exact hdisjoint (List.mem_flatMap.2 ⟨m, hm, hk⟩) hk'

end Nodes

section Compilation

variable {ns : List Node} {d : Document} {e : Error}

/-- For a single node, merging would have given the same. -/
theorem compileChain_eq_mergeNodes (ns : List Node) : compileChain ns = mergeNodes .empty ns := by
  unfold compileChain
  split
  · next n =>
      have hnodup : (Assoc.keys (Document.empty.entries ++ n.compile.entries)).Nodup :=
        Node.distinct_compile n
      rw [mergeNodes_eq, List.flatMap_singleton, mergeEntries_of_nodup hnodup]
      exact congrArg Except.ok (Document.mk_entries n.compile).symm
  · rfl

theorem compileChain_eq_mergeEntries (ns : List Node) :
    compileChain ns = mergeEntries .empty (ns.flatMap fun n => n.compile.entries) := by
  rw [compileChain_eq_mergeNodes, mergeNodes_eq]

theorem compileChain_of_keysApart (h : KeysApart ns) :
    compileChain ns = .ok ⟨ns.flatMap fun n => n.compile.entries⟩ := by
  rw [compileChain_eq_mergeEntries]
  exact mergeEntries_of_nodup (nodup_keys_flatMap_iff.2 h)

theorem compileChain_of_firstCollision {key : String} {existing value : Value}
    (h : FirstCollision ns key existing value) :
    compileChain ns = .error (.duplicateKey key existing value) := by
  obtain ⟨xs, ys, hsplit, hnodup, hexisting⟩ := firstCollision_iff.1 h
  rw [compileChain_eq_mergeEntries, hsplit]
  exact mergeEntries_of_taken hnodup hexisting

theorem exists_firstCollision (h : ¬ KeysApart ns) :
    ∃ key existing value, FirstCollision ns key existing value := by
  have hstart : (Assoc.keys ([] : List (String × Value))).Nodup := List.nodup_nil
  have hrepeated : ¬ (Assoc.keys ([] ++ ns.flatMap fun n => n.compile.entries)).Nodup :=
    fun hnodup => h (nodup_keys_flatMap_iff.1 hnodup)
  obtain ⟨xs, key, value, ys, hsplit, hnodup, hkey⟩ :=
    Assoc.exists_first_repetition hstart hrepeated
  obtain ⟨existing, hexisting⟩ := Assoc.exists_mem_of_mem_keys hkey
  exact ⟨key, existing, value, firstCollision_iff.2 ⟨xs, ys, hsplit, hnodup, hexisting⟩⟩

theorem compileChain_eq_ok_iff : compileChain ns = .ok d ↔
    KeysApart ns ∧ d.entries = ns.flatMap fun n => n.compile.entries := by
  by_cases hapart : KeysApart ns
  · rw [compileChain_of_keysApart hapart]
    constructor
    · intro h
      cases h
      exact ⟨hapart, rfl⟩
    · rintro ⟨_, hentries⟩
      rw [← hentries, Document.mk_entries]
  · obtain ⟨key, existing, value, hfirst⟩ := exists_firstCollision hapart
    rw [compileChain_of_firstCollision hfirst]
    exact iff_of_false (by simp) fun h => hapart h.1

theorem compileChain_eq_error_iff : compileChain ns = .error e ↔
    ∃ key existing value, FirstCollision ns key existing value ∧
      e = .duplicateKey key existing value := by
  constructor
  · intro h
    have hapart : ¬ KeysApart ns := by
      intro hapart
      rw [compileChain_of_keysApart hapart] at h
      cases h
    obtain ⟨key, existing, value, hfirst⟩ := exists_firstCollision hapart
    rw [compileChain_of_firstCollision hfirst] at h
    exact ⟨key, existing, value, hfirst, (Except.error.inj h).symm⟩
  · rintro ⟨key, existing, value, hfirst, rfl⟩
    exact compileChain_of_firstCollision hfirst

/-- A chain compiles to the entries of its nodes, one node after the other. -/
theorem entries_of_compileChain (h : compileChain ns = .ok d) :
    d.entries = ns.flatMap fun n => n.compile.entries :=
  (compileChain_eq_ok_iff.1 h).2

/-- Nothing but a taken key keeps a chain from compiling. -/
theorem duplicateKey_of_compileChain (h : compileChain ns = .error e) :
    ∃ key v w, e = .duplicateKey key v w := by
  obtain ⟨key, existing, value, _, he⟩ := compileChain_eq_error_iff.1 h
  exact ⟨key, existing, value, he⟩

/-- **What a chain compiles to.**  It compiles exactly if no two nodes have a key in common, and
then to the entries of all its nodes in chain order; otherwise it is refused for the key of the
first collision, and the wording gives the value that is there and the one that is not added.  For
a single node, merging would have given the same. -/
theorem compile_concatenates_or_collides (c : Criteria) :
    ((∃ d, c.compile = .ok d) ↔ KeysApart c.chain) ∧
      (∀ d, c.compile = .ok d ↔
        KeysApart c.chain ∧ d.entries = c.chain.flatMap fun n => n.compile.entries) ∧
      (∀ e, c.compile = .error e ↔
        ∃ key existing value, FirstCollision c.chain key existing value ∧
          e = .duplicateKey key existing value ∧
          e.message = "cannot add a second '" ++ key ++ "' expression specified as '" ++ key ++
            " : " ++ value.render ++ "'; criteria already contains '" ++ key ++ " : " ++
            existing.render ++ "'") ∧
      ∀ n, c.chain = [n] → c.compile = .ok n.compile ∧ mergeNodes .empty [n] = .ok n.compile := by
  refine ⟨⟨?_, ?_⟩, fun d => compileChain_eq_ok_iff, fun e => ⟨?_, ?_⟩, fun n hn => ?_⟩
  · rintro ⟨d, h⟩
    exact (compileChain_eq_ok_iff.1 h).1
  · intro hapart
    exact ⟨⟨_⟩, compileChain_eq_ok_iff.2 ⟨hapart, rfl⟩⟩
  · intro h
    obtain ⟨key, existing, value, hfirst, rfl⟩ := compileChain_eq_error_iff.1 h
    exact ⟨key, existing, value, hfirst, rfl, rfl⟩
  · rintro ⟨key, existing, value, hfirst, rfl, _⟩
    exact compileChain_of_firstCollision hfirst
  · have hsingle : compileChain [n] = .ok n.compile := rfl
    rw [compile, hn, ← compileChain_eq_mergeNodes]
    exact ⟨hsingle, hsingle⟩

-- Beside a value to equal, operators are entries of their own, and they collide as well.
example : ((field "a").run [.equals .null, .compare .gt .null, .andField "b", .equals .null,
    .compare .gt (.bool true)]).compile = .error (.duplicateKey "$gt" .null (.bool true)) := by
  rfl

end Compilation

end Criteria

end DocFilter
