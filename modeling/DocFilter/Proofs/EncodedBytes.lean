import DocFilter.Proofs.PaddedText

/-!
# Byte strings and their Base64 texts

Encoding writes four symbols for every three bytes and pads the group of the
last ones.  Decoding cuts the text in front of its last group; the byte string
is cut at the same place here, in front of its last one to three bytes.

What has been encoded decodes to the same bytes (`decode_encodeBytes`).  The
converse does not hold, since decoding ignores the low bits that the last
symbol leaves over.
-/

namespace DocFilter
namespace Text
namespace Base64

open Criteria (exists_of_bind_eq_ok)

section Symbols

/-- The symbol of a six-bit value as a byte. -/
def symbolByte (n : Nat) : UInt8 :=
  (symbol n).toUInt8

/-- The text of a byte string, as bytes. -/
def encodeBytes (bytes : List UInt8) : List UInt8 :=
  (encodeChars bytes).map Char.toUInt8

variable {n : Nat}

theorem value?_symbolByte : ∀ {n}, n < 64 → value? (symbolByte n) = some n := by
  decide

theorem isSymbol_symbolByte (h : n < 64) : IsSymbol (symbolByte n) := by
  rw [IsSymbol, value?_symbolByte h]
  rfl

theorem valueAt_symbolByte (h : n < 64) (offset : Nat) :
    valueAt (symbol n).toUInt8 offset = .ok n := by
  rw [← symbolByte, valueAt, value?_symbolByte h]

/-- The first six bits of a byte, its last two before four of the next, and so on are the values
of symbols. -/
theorem sextets_lt (a b c : UInt8) : a.toNat / 4 < 64 ∧ a.toNat % 4 * 16 + b.toNat / 16 < 64 ∧
    b.toNat % 16 * 4 + c.toNat / 64 < 64 ∧ c.toNat % 64 < 64 := by
  have ha := a.toNat_lt
  have hb := b.toNat_lt
  have hc := c.toNat_lt
  omega

/-- The bytes are put together again from the values of their symbols. -/
theorem quadBytes_sextets (a b c : UInt8) :
    quadBytes (a.toNat / 4) (a.toNat % 4 * 16 + b.toNat / 16) (b.toNat % 16 * 4 + c.toNat / 64)
      (c.toNat % 64) = [a, b, c] := by
  have hb := b.toNat_lt
  have hc := c.toNat_lt
  have hfirst : a.toNat / 4 * 4 + (a.toNat % 4 * 16 + b.toNat / 16) / 16 = a.toNat := by omega
  have hsecond : (a.toNat % 4 * 16 + b.toNat / 16) % 16 * 16 +
      (b.toNat % 16 * 4 + c.toNat / 64) / 4 = b.toNat := by omega
  have hthird : (b.toNat % 16 * 4 + c.toNat / 64) % 4 * 64 + c.toNat % 64 = c.toNat := by omega
  rw [quadBytes, hfirst, hsecond, hthird]
  simp only [UInt8.ofNat_toNat]

end Symbols

section Cut

variable {front back : List UInt8}

theorem encodeChars_append (h : front.length % 3 = 0) :
    encodeChars (front ++ back) = encodeChars front ++ encodeChars back := by
  fun_induction encodeChars front with
  | case1 => rfl
  | case2 a => simp at h
  | case3 a b => simp at h
  | case4 a b c rest ih =>
      have hrest := ih (by simp only [List.length_cons] at h; omega)
      simp only [List.cons_append, encodeChars, hrest]

theorem encodeBytes_append (h : front.length % 3 = 0) :
    encodeBytes (front ++ back) = encodeBytes front ++ encodeBytes back := by
  rw [encodeBytes, encodeChars_append h, List.map_append]
  rfl

theorem length_encodeBytes (bytes : List UInt8) :
    (encodeBytes bytes).length = (bytes.length + 2) / 3 * 4 := by
  rw [encodeBytes, List.length_map]
  fun_induction encodeChars bytes with
  | case1 => rfl
  | case2 a => simp
  | case3 a b => simp
  | case4 a b c rest ih =>
      simp only [List.length_cons, ih]
      omega

/-- Every byte string but the empty one ends with one to three bytes behind groups of three. -/
theorem exists_cut {bytes : List UInt8} (h : bytes ≠ []) :
    ∃ front back, bytes = front ++ back ∧ front.length % 3 = 0 ∧ 1 ≤ back.length ∧
      back.length ≤ 3 := by
  have hpos : 0 < bytes.length := List.length_pos_iff.2 h
  have hcut := (List.take_append_drop ((bytes.length - 1) / 3 * 3) bytes).symm
  refine ⟨_, _, hcut, ?_, ?_, ?_⟩
  · rw [List.length_take]
    omega
  · rw [List.length_drop]
    omega
  · rw [List.length_drop]
    omega

end Cut

section RoundTrip

variable {bytes front back : List UInt8}

/-- Full groups decode to the bytes they were written for, wherever they stand. -/
theorem decodeQuads_encodeBytes (offset : Nat) (h : bytes.length % 3 = 0) :
    decodeQuads offset (encodeBytes bytes) = .ok bytes := by
  rw [encodeBytes]
  fun_induction encodeChars bytes generalizing offset with
  | case1 => rfl
  | case2 a => simp at h
  | case3 a b => simp at h
  | case4 a b c rest ih =>
      have hrest := ih (offset + 4) (by simp only [List.length_cons] at h; omega)
      obtain ⟨hv, hw, hx, hy⟩ := sextets_lt a b c
      simp only [List.map_cons, decodeQuads]
      rw [valueAt_symbolByte hv, valueAt_symbolByte hw, valueAt_symbolByte hx,
        valueAt_symbolByte hy, hrest]
      simp only [bind, Except.bind, quadBytes_sextets]
      rfl

/-- The last group decodes to the bytes of the values whose symbols it has. -/
theorem decodeLast_symbolBytes (start : Nat) (values : List Nat) (pads : Nat)
    (hvalues : ∀ n ∈ values, n < 64) (htwo : 2 ≤ values.length)
    (hfour : (values.length + pads) % 4 = 0) :
    decodeLast start (values.map symbolByte ++ List.replicate pads padding) =
      .ok (lastBytes values) := by
  have hsymbols : ∀ b ∈ values.map symbolByte, IsSymbol b :=
    List.forall_mem_map.2 fun n hn => isSymbol_symbolByte (hvalues n hn)
  have hread : (values.map symbolByte).filterMap value? = values := by
    rw [List.filterMap_map]
    exact (List.filterMap_congr fun n hn => value?_symbolByte (hvalues n hn)).trans
      List.filterMap_some
  rw [decodeLast_symbols start pads hsymbols (by rwa [List.length_map])
    (by rwa [List.length_map]), hread]

/-- The last group decodes to the last bytes, of which there are one to three. -/
theorem decodeLast_encodeBytes (start : Nat) (hpos : 1 ≤ back.length) (hle : back.length ≤ 3) :
    decodeLast start (encodeBytes back) = .ok back := by
  -- bytes that are missing count as zero, and the symbols that are theirs alone are left out
  match back with
  | [a] =>
      obtain ⟨hv, hw, -, -⟩ := sextets_lt a 0 0
      have hlast := decodeLast_symbolBytes start [a.toNat / 4, a.toNat % 4 * 16] 2
        (by simpa using ⟨hv, hw⟩) (by simp) (by simp)
      have hbytes := quadBytes_sextets a 0 0
      simp only [UInt8.toNat_zero, Nat.zero_div, Nat.zero_mod, Nat.add_zero, Nat.zero_mul] at hbytes
      rw [lastBytes, hbytes] at hlast
      exact hlast
  | [a, b] =>
      obtain ⟨hv, hw, hx, -⟩ := sextets_lt a b 0
      have hlast := decodeLast_symbolBytes start
        [a.toNat / 4, a.toNat % 4 * 16 + b.toNat / 16, b.toNat % 16 * 4] 1
        (by simpa using ⟨hv, hw, hx⟩) (by simp) (by simp)
      have hbytes := quadBytes_sextets a b 0
      simp only [UInt8.toNat_zero, Nat.zero_div, Nat.zero_mod, Nat.add_zero] at hbytes
      rw [lastBytes, hbytes] at hlast
      exact hlast
  | [a, b, c] =>
      obtain ⟨hv, hw, hx, hy⟩ := sextets_lt a b c
      have hlast := decodeLast_symbolBytes start [a.toNat / 4, a.toNat % 4 * 16 + b.toNat / 16,
        b.toNat % 16 * 4 + c.toNat / 64, c.toNat % 64] 0 (by simpa using ⟨hv, hw, hx, hy⟩)
        (by simp) (by simp)
      rw [lastBytes, quadBytes_sextets] at hlast
      exact hlast

/-- Full groups and a last one are decoded apart. -/
theorem decode_append {out last : List UInt8} (hfour : front.length % 4 = 0)
    (hlen : back.length = 4) (hfront : decodeQuads 0 front = .ok out)
    (hback : decodeLast front.length back = .ok last) :
    decode (front ++ back) = .ok (out ++ last) := by
  have hlength : (front ++ back).length = front.length + 4 := by
    rw [List.length_append, hlen]
  have hempty : (front ++ back).isEmpty = false := by
    rw [List.isEmpty_eq_false_iff, ← List.length_pos_iff]
    omega
  have hlone : checkLoneByte (front ++ back) = .ok () := by
    rw [checkLoneByte]
    split
    · omega
    · rfl
  have hstart : ((front ++ back).length - 1) / 4 * 4 = front.length := by omega
  rw [decode, hempty, hlone]
  simp only [Bool.false_eq_true, if_false]
  rw [hstart, List.take_left, List.drop_left, hfront, hback]
  rfl

/-- **What has been encoded decodes to the same bytes.** -/
theorem decode_encodeBytes (bytes : List UInt8) : decode (encodeBytes bytes) = .ok bytes := by
  by_cases hnil : bytes = []
  · subst hnil
    rfl
  obtain ⟨front, back, rfl, hthree, hpos, hle⟩ := exists_cut hnil
  have hfront := length_encodeBytes front
  have hback := length_encodeBytes back
  rw [encodeBytes_append hthree]
  exact decode_append (by omega) (by omega) (decodeQuads_encodeBytes 0 hthree)
    (decodeLast_encodeBytes _ hpos hle)

end RoundTrip

section Accepted

variable {bytes out : List UInt8}

theorem lastBytes_ne_nil {values : List Nat} (htwo : 2 ≤ values.length)
    (hfour : values.length ≤ 4) : lastBytes values ≠ [] := by
  match values with
  | [] | [_] => simp at htwo
  | [v, w] | [v, w, x] | [v, w, x, y] => simp [lastBytes, quadBytes]
  | _ :: _ :: _ :: _ :: _ :: _ =>
      simp only [List.length_cons] at hfour
      omega

theorem decodeLast_ne_nil {start : Nat} (h : decodeLast start bytes = .ok out)
    (hle : bytes.length ≤ 4) : out ≠ [] := by
  obtain ⟨symbols, pads, rfl, htwo, hfour, hsymbols⟩ := padded_of_decodeLast h
  rw [List.length_append, List.length_replicate] at hle hfour
  rw [decodeLast_symbols start pads hsymbols htwo hfour] at h
  cases h
  have hlen := length_filterMap_value? hsymbols
  exact lastBytes_ne_nil (by omega) (by omega)

/-- A text that has something in it decodes to bytes. -/
theorem decode_ne_nil (h : decode bytes = .ok out) (hne : bytes ≠ []) : out ≠ [] := by
  have hpos : 0 < bytes.length := List.length_pos_iff.2 hne
  have hempty : bytes.isEmpty = false := List.isEmpty_eq_false_iff.2 hne
  rw [decode, hempty] at h
  simp only [Bool.false_eq_true, if_false] at h
  obtain ⟨_, _, h⟩ := exists_of_bind_eq_ok h
  obtain ⟨front, _, h⟩ := exists_of_bind_eq_ok h
  obtain ⟨back, hback, h⟩ := exists_of_bind_eq_ok h
  cases h
  have hlast : back ≠ [] := decodeLast_ne_nil hback (by
    rw [List.length_drop]
    omega)
  simp [hlast]

end Accepted

end Base64
end Text
end DocFilter
