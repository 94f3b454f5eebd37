import DocFilter.Proofs.Refusal
import DocFilter.Text.Base64
import Mathlib.Data.List.Basic

/-!
# Which texts are Base64

Padded text consists of groups of four bytes.  All of them are symbols of the
alphabet, except that one or two padding signs may stand at the very end.

The decoder treats the full groups apart from the last one and looks for
padding in the last one only.  It accepts exactly the padded texts
(`exists_decode_iff`).
-/

namespace DocFilter
namespace Text
namespace Base64

open Criteria (exists_of_bind_eq_ok)

section Grammar

/-- The byte is a symbol of the alphabet. -/
def IsSymbol (b : UInt8) : Prop :=
  (value? b).isSome = true

/-- Groups of four symbols, with up to two padding signs in place of the last symbols. -/
def Padded (bytes : List UInt8) : Prop :=
  bytes.length % 4 = 0 ∧ ∃ symbols pads, bytes = symbols ++ List.replicate pads padding ∧
    pads ≤ 2 ∧ ∀ b ∈ symbols, IsSymbol b

theorem IsSymbol.ne_padding {b : UInt8} (h : IsSymbol b) : b ≠ padding := by
  rintro rfl
  simp [IsSymbol, value?, padding] at h

theorem exists_valueAt_iff {b : UInt8} {offset : Nat} :
    (∃ v, valueAt b offset = .ok v) ↔ IsSymbol b := by
  unfold valueAt IsSymbol
  cases value? b with
  | none =>
      simp
  | some v =>
      simp

theorem isSymbol_of_valueAt {b : UInt8} {offset v : Nat} (h : valueAt b offset = .ok v) :
    IsSymbol b :=
  exists_valueAt_iff.1 ⟨v, h⟩

end Grammar

section FullGroups

variable {bytes out : List UInt8} {offset : Nat}

theorem isSymbol_of_decodeQuads (h : decodeQuads offset bytes = .ok out)
    (hlen : bytes.length % 4 = 0) : ∀ b ∈ bytes, IsSymbol b := by
  fun_induction decodeQuads offset bytes generalizing out with
  | case1 offset a b c d rest ih =>
      obtain ⟨v, hv, h⟩ := exists_of_bind_eq_ok h
      obtain ⟨w, hw, h⟩ := exists_of_bind_eq_ok h
      obtain ⟨x, hx, h⟩ := exists_of_bind_eq_ok h
      obtain ⟨y, hy, h⟩ := exists_of_bind_eq_ok h
      obtain ⟨tail, htail, _⟩ := exists_of_bind_eq_ok h
      have hrest : ∀ b ∈ rest, IsSymbol b :=
        ih htail (by simp only [List.length_cons] at hlen; omega)
      simp only [List.forall_mem_cons]
      exact ⟨isSymbol_of_valueAt hv, isSymbol_of_valueAt hw, isSymbol_of_valueAt hx,
        isSymbol_of_valueAt hy, hrest⟩
  | case2 bytes offset hshort =>
      rcases bytes with _ | ⟨a, _ | ⟨b, _ | ⟨c, _ | ⟨d, rest⟩⟩⟩⟩
      · simp
      · simp at hlen
      · simp at hlen
      · simp at hlen
      · exact (hshort a b c d rest rfl).elim

theorem exists_decodeQuads (offset : Nat) (h : ∀ b ∈ bytes, IsSymbol b) :
    ∃ out, decodeQuads offset bytes = .ok out := by
  fun_induction decodeQuads offset bytes with
  | case1 offset a b c d rest ih =>
      simp only [List.forall_mem_cons] at h
      obtain ⟨ha, hb, hc, hd, hrest⟩ := h
      obtain ⟨v, hv⟩ := exists_valueAt_iff.2 ha
      obtain ⟨w, hw⟩ := exists_valueAt_iff.2 hb
      obtain ⟨x, hx⟩ := exists_valueAt_iff.2 hc
      obtain ⟨y, hy⟩ := exists_valueAt_iff.2 hd
      obtain ⟨tail, htail⟩ := ih hrest
      refine ⟨quadBytes v w x y ++ tail, ?_⟩
      rw [hv, hw, hx, hy, htail]
      rfl
  | case2 =>
      exact ⟨[], rfl⟩

end FullGroups

section LastGroup

variable {start offset first count n : Nat} {bytes : List UInt8} {vs : List Nat}

/-- Behind a padding sign only padding signs may follow. -/
theorem lastSymbols_padded (h : start + 2 ≤ offset) :
    lastSymbols start offset (some (first, count)) (List.replicate n padding) =
      .ok ([], count + n) := by
  induction n generalizing offset count with
  | zero =>
      rfl
  | succ n ih =>
      have hoffset : ¬ offset < start + 2 := by omega
      rw [List.replicate_succ, lastSymbols, if_pos rfl, if_neg hoffset, ih (by omega),
        Nat.add_assoc, Nat.add_comm 1 n]

theorem replicate_of_lastSymbols
    (h : lastSymbols start offset (some (first, count)) bytes = .ok (vs, n)) :
    vs = [] ∧ ∃ m, bytes = List.replicate m padding ∧ n = count + m := by
  induction bytes generalizing offset count with
  | nil =>
      cases h
      exact ⟨rfl, 0, rfl, rfl⟩
  | cons b rest ih =>
      rw [lastSymbols] at h
      split at h
      · rename_i hb
        split at h
        · cases h
        · obtain ⟨hvs, m, hm, hn⟩ := ih h
          exact ⟨hvs, m + 1, by rw [hb, hm, List.replicate_succ], by omega⟩
      · cases h

/-- Symbols may be followed by padding signs, which do not stand first or second in the group. -/
theorem lastSymbols_symbols (start offset n : Nat) {symbols : List UInt8}
    (hsymbols : ∀ b ∈ symbols, IsSymbol b) (h : n = 0 ∨ start + 2 ≤ offset + symbols.length) :
    lastSymbols start offset none (symbols ++ List.replicate n padding) =
      .ok (symbols.filterMap value?, n) := by
  induction symbols generalizing offset with
  | nil =>
      cases n with
      | zero =>
          rfl
      | succ n =>
          have hoffset : ¬ offset < start + 2 := by
            simp only [List.length_nil] at h
            omega
          rw [List.nil_append, List.replicate_succ, lastSymbols, if_pos rfl, if_neg hoffset,
            lastSymbols_padded (by omega), Nat.add_comm 1 n, List.filterMap_nil]
  | cons b rest ih =>
      obtain ⟨hb, hrest⟩ := List.forall_mem_cons.1 hsymbols
      obtain ⟨v, hv⟩ := Option.isSome_iff_exists.1 hb
      have htail := ih (offset + 1) hrest (by
        simp only [List.length_cons] at h
        omega)
      rw [List.cons_append, lastSymbols, if_neg hb.ne_padding]
      simp only
      rw [valueAt, hv, htail, List.filterMap_cons_some hv]
      rfl

theorem length_filterMap_value? {symbols : List UInt8} (h : ∀ b ∈ symbols, IsSymbol b) :
    (symbols.filterMap value?).length = symbols.length := by
  rw [List.length_filterMap_eq_countP, List.countP_eq_length]
  exact h

theorem split_of_lastSymbols (h : lastSymbols start offset none bytes = .ok (vs, n)) :
    ∃ symbols, bytes = symbols ++ List.replicate n padding ∧ vs.length = symbols.length ∧
      ∀ b ∈ symbols, IsSymbol b := by
  induction bytes generalizing offset vs with
  | nil =>
      cases h
      exact ⟨[], rfl, rfl, by simp⟩
  | cons b rest ih =>
      rw [lastSymbols] at h
      split at h
      · rename_i hb
        split at h
        · cases h
        · obtain ⟨rfl, m, hm, hn⟩ := replicate_of_lastSymbols h
          refine ⟨[], ?_, rfl, by simp⟩
          rw [hb, hm, hn, List.nil_append, Nat.add_comm, List.replicate_succ]
      · obtain ⟨v, hv, h⟩ := exists_of_bind_eq_ok h
        obtain ⟨⟨ws, k⟩, hws, h⟩ := exists_of_bind_eq_ok h
        cases h
        obtain ⟨symbols, hsplit, hlen, hsymbols⟩ := ih hws
        refine ⟨b :: symbols, by rw [hsplit, List.cons_append], by simp [hlen], ?_⟩
        exact List.forall_mem_cons.2 ⟨isSymbol_of_valueAt hv, hsymbols⟩

end LastGroup

section Decode

variable {bytes : List UInt8}

theorem padded_of_decodeLast {start : Nat} {out : List UInt8}
    (h : decodeLast start bytes = .ok out) :
    ∃ symbols pads, bytes = symbols ++ List.replicate pads padding ∧ 2 ≤ symbols.length ∧
      bytes.length % 4 = 0 ∧ ∀ b ∈ symbols, IsSymbol b := by
  obtain ⟨⟨vs, n⟩, hlast, h⟩ := exists_of_bind_eq_ok h
  obtain ⟨symbols, hsplit, hlen, hsymbols⟩ := split_of_lastSymbols hlast
  simp only at h
  split at h
  · cases h
  · rename_i htwo
    split at h
    · cases h
    · rename_i hfour
      refine ⟨symbols, n, hsplit, by omega, ?_, hsymbols⟩
      rw [hsplit, List.length_append, List.length_replicate]
      omega

theorem decodeLast_symbols (start pads : Nat) {symbols : List UInt8}
    (hsymbols : ∀ b ∈ symbols, IsSymbol b) (htwo : 2 ≤ symbols.length)
    (hfour : (symbols.length + pads) % 4 = 0) :
    decodeLast start (symbols ++ List.replicate pads padding) =
      .ok (lastBytes (symbols.filterMap value?)) := by
  have hlen := length_filterMap_value? hsymbols
  have hlen2 : ¬ (symbols.filterMap value?).length < 2 := by omega
  have hlen4 : ¬ ((symbols.filterMap value?).length + pads) % 4 ≠ 0 := by omega
  rw [decodeLast, lastSymbols_symbols start start pads hsymbols (by omega)]
  simp only [bind, Except.bind]
  rw [if_neg hlen2, if_neg hlen4]

/-- **The decoder accepts exactly the padded texts.** -/
theorem exists_decode_iff : (∃ out, decode bytes = .ok out) ↔ Padded bytes := by
  by_cases hnil : bytes = []
  · subst hnil
    exact iff_of_true ⟨[], rfl⟩ ⟨rfl, [], 0, rfl, by omega, by simp⟩
  have hpos : 0 < bytes.length := List.length_pos_iff.2 hnil
  have hempty : bytes.isEmpty = false := by simpa using hnil
  obtain ⟨start, hstart⟩ : ∃ start, start = (bytes.length - 1) / 4 * 4 := ⟨_, rfl⟩
  constructor
  · rintro ⟨out, h⟩
    rw [decode, hempty] at h
    simp only [Bool.false_eq_true, if_false] at h
    obtain ⟨_, _, h⟩ := exists_of_bind_eq_ok h
    obtain ⟨front, hfront, h⟩ := exists_of_bind_eq_ok h
    obtain ⟨back, hback, _⟩ := exists_of_bind_eq_ok h
    rw [← hstart] at hfront hback
    obtain ⟨symbols, pads, hsplit, htwo, hfour, hsymbols⟩ := padded_of_decodeLast hback
    have hfull : (bytes.take start).length % 4 = 0 := by
      rw [List.length_take]
      omega
    have hlen : (bytes.drop start).length = symbols.length + pads := by
      rw [hsplit, List.length_append, List.length_replicate]
    rw [List.length_drop] at hfour hlen
    refine ⟨by omega, bytes.take start ++ symbols, pads, ?_, by omega, ?_⟩
    · rw [List.append_assoc, ← hsplit, List.take_append_drop]
    · intro b hb
      rcases List.mem_append.1 hb with hb | hb
      · exact isSymbol_of_decodeQuads hfront hfull b hb
      · exact hsymbols b hb
  · rintro ⟨hfour, symbols, pads, hsplit, htwo, hsymbols⟩
    have hlen : bytes.length = symbols.length + pads := by
      rw [hsplit, List.length_append, List.length_replicate]
    have hle : start ≤ symbols.length := by omega
    have htake : bytes.take start = symbols.take start := by
      rw [hsplit, List.take_append_of_le_length hle]
    have hdrop : bytes.drop start = symbols.drop start ++ List.replicate pads padding := by
      rw [hsplit, List.drop_append_of_le_length hle]
    have hfirst : ∀ b ∈ symbols.take start, IsSymbol b :=
      fun b hb => hsymbols b (List.mem_of_mem_take hb)
    have hlast : ∀ b ∈ symbols.drop start, IsSymbol b :=
      fun b hb => hsymbols b (List.mem_of_mem_drop hb)
    obtain ⟨front, hfront⟩ := exists_decodeQuads 0 hfirst
    have hback := decodeLast_symbols start pads hlast
      (by rw [List.length_drop]; omega) (by rw [List.length_drop]; omega)
    have hlone : checkLoneByte bytes = .ok () := by
      rw [checkLoneByte]
      split
      · omega
      · rfl
    refine ⟨front ++ lastBytes ((symbols.drop start).filterMap value?), ?_⟩
    rw [decode, hempty, hlone]
    simp only [Bool.false_eq_true, if_false]
    rw [← hstart, htake, hdrop, hfront, hback]
    rfl

end Decode

end Base64
end Text
end DocFilter
