import DocFilter.Proofs.EncodedBytes
import Mathlib.Algebra.Group.Nat.Defs
import Mathlib.Data.List.Infix

/-!
# The bits of a Base64 text

A symbol stands for six bits and a byte for eight, so a text stands for the
bytes that its bits make when they are laid end to end.  Of the last symbol two
bits are left over for each padding sign; decoding ignores them and encoding
writes them as zeros.

`valueBytes` gives the bytes of the values of any number of symbols.  Decoding
is shown to compute it (`decode_symbolBytes`); its bits, its length and its
encoding are then read off by recursion on groups of four values.
-/

namespace DocFilter
namespace Text
namespace Base64

section Bits

/-- The lowest bits of a number, the highest of them first. -/
def bits (width n : Nat) : List Bool :=
  (List.range width).reverse.map n.testBit

/-- The bits of a byte. -/
def byteBits (b : UInt8) : List Bool :=
  bits 8 b.toNat

theorem length_bits (width n : Nat) : (bits width n).length = width := by
  simp [bits]

theorem length_flatMap_bits {α : Type} (width : Nat) (f : α → Nat) (xs : List α) :
    (xs.flatMap fun x => bits width (f x)).length = width * xs.length := by
  simp [List.length_flatMap, length_bits, Nat.mul_comm]

/-- The bits above a place are those of the number without its lower bits. -/
theorem bits_add (width low n : Nat) :
    bits (width + low) n = bits width (n / 2 ^ low) ++ bits low n := by
  have hhigh : (List.range width).reverse.map (fun i => n.testBit (low + i)) =
      bits width (n / 2 ^ low) := by
    refine List.map_congr_left fun i _ => ?_
    rw [Nat.testBit_div_two_pow, Nat.add_comm]
  rw [← hhigh, Nat.add_comm, bits, bits, List.range_add, List.reverse_append, List.map_append,
    ← List.map_reverse, List.map_map]
  rfl

theorem bits_congr {width m n : Nat} (h : m % 2 ^ width = n % 2 ^ width) :
    bits width m = bits width n := by
  refine List.map_congr_left fun i hi => ?_
  have hlt : i < width := List.mem_range.1 (List.mem_reverse.1 hi)
  have hbit := congrArg (fun k => k.testBit i) h
  simpa [hlt] using hbit

theorem byteBits_ofNat (n : Nat) : byteBits (UInt8.ofNat n) = bits 8 n := by
  rw [byteBits, UInt8.toNat_ofNat']
  exact bits_congr (Nat.mod_mod _ _)

/-- Four symbols have the bits of three bytes. -/
theorem flatMap_byteBits_quadBytes {v w x y : Nat} (hw : w < 64) (hx : x < 64) (hy : y < 64) :
    (quadBytes v w x y).flatMap byteBits = [v, w, x, y].flatMap (bits 6) := by
  have hfirst : bits 8 (v * 4 + w / 16) = bits 6 v ++ bits 2 (w / 16) := by
    rw [bits_add 6 2, show (v * 4 + w / 16) / 2 ^ 2 = v by omega,
      bits_congr (show (v * 4 + w / 16) % 2 ^ 2 = w / 16 % 2 ^ 2 by omega)]
  have hsecond : bits 8 (w % 16 * 16 + x / 4) = bits 4 w ++ bits 4 (x / 4) := by
    rw [bits_add 4 4, bits_congr (show (w % 16 * 16 + x / 4) / 2 ^ 4 % 2 ^ 4 = w % 2 ^ 4 by omega),
      bits_congr (show (w % 16 * 16 + x / 4) % 2 ^ 4 = x / 4 % 2 ^ 4 by omega)]
  have hthird : bits 8 (x % 4 * 64 + y) = bits 2 x ++ bits 6 y := by
    rw [bits_add 2 6, bits_congr (show (x % 4 * 64 + y) / 2 ^ 6 % 2 ^ 2 = x % 2 ^ 2 by omega),
      bits_congr (show (x % 4 * 64 + y) % 2 ^ 6 = y % 2 ^ 6 by omega)]
  have hw' : bits 6 w = bits 2 (w / 16) ++ bits 4 w := bits_add 2 4 w
  have hx' : bits 6 x = bits 4 (x / 4) ++ bits 2 x := bits_add 4 2 x
  simp only [quadBytes, List.flatMap_cons, List.flatMap_nil, byteBits_ofNat, hfirst, hsecond,
    hthird, hw', hx', List.append_assoc, List.append_nil]

end Bits

section Values

/-- The bytes of six-bit values.  Bits that do not make a byte are left over. -/
def valueBytes : List Nat → List UInt8
  | v :: w :: x :: y :: rest => quadBytes v w x y ++ valueBytes rest
  | [v, w, x] => (quadBytes v w x 0).take 2
  | [v, w] => (quadBytes v w 0 0).take 1
  | [_] => []
  | [] => []

/-- The values with the lowest bits of the last one cleared. -/
def clearLast (low : Nat) : List Nat → List Nat
  | [] => []
  | [n] => [n / 2 ^ low * 2 ^ low]
  | n :: rest => n :: clearLast low rest

variable {values front back : List Nat} {pads : Nat}

theorem clearLast_concat (low n : Nat) (front : List Nat) :
    clearLast low (front ++ [n]) = front ++ [n / 2 ^ low * 2 ^ low] := by
  induction front with
  | nil =>
      rfl
  | cons m rest ih =>
      have hne : rest ++ [n] ≠ [] := by simp
      rw [List.cons_append, clearLast, ih, List.cons_append]
      exact hne

theorem lastBytes_eq_valueBytes (htwo : 2 ≤ values.length) (hfour : values.length ≤ 4) :
    lastBytes values = valueBytes values := by
  match values with
  | [] | [_] => simp at htwo
  | [_, _] | [_, _, _] => rfl
  | [v, w, x, y] =>
      rw [valueBytes, valueBytes, List.append_nil, lastBytes]
  | _ :: _ :: _ :: _ :: _ :: _ =>
      simp only [List.length_cons] at hfour
      omega

theorem valueBytes_append (hfour : front.length % 4 = 0) :
    valueBytes (front ++ back) = valueBytes front ++ valueBytes back := by
  fun_induction valueBytes front with
  | case1 v w x y rest ih =>
      have hrest := ih (by simp only [List.length_cons] at hfour; omega)
      rw [List.cons_append, List.cons_append, List.cons_append, List.cons_append, valueBytes,
        hrest, List.append_assoc]
  | case2 v w x => simp at hfour
  | case3 v w => simp at hfour
  | case4 v => simp at hfour
  | case5 => rfl

theorem length_valueBytes (values : List Nat) :
    (valueBytes values).length = 3 * values.length / 4 := by
  fun_induction valueBytes values with
  | case1 v w x y rest ih =>
      simp only [List.length_append, quadBytes, List.length_cons, List.length_nil, ih]
      omega
  | case2 v w x => simp [quadBytes]
  | case3 v w => simp [quadBytes]
  | case4 v => simp
  | case5 => rfl

/-- The first bytes of a group have the first bits of its symbols.  What is missing of the group
counts as zeros. -/
theorem flatMap_byteBits_take {v w x count : Nat} {values : List Nat} (hw : w < 64) (hx : x < 64)
    (hvalues : values <+: [v, w, x, 0]) (hle : 8 * count ≤ 6 * values.length) :
    ((quadBytes v w x 0).take count).flatMap byteBits <+: values.flatMap (bits 6) := by
  obtain ⟨zeros, hzeros⟩ := hvalues
  obtain ⟨spare, hspare⟩ := List.take_prefix count (quadBytes v w x 0)
  have hgroup : ((quadBytes v w x 0).take count).flatMap byteBits <+:
      [v, w, x, 0].flatMap (bits 6) := by
    refine ⟨spare.flatMap byteBits, ?_⟩
    rw [← List.flatMap_append, hspare, flatMap_byteBits_quadBytes hw hx (by omega)]
  have hsymbols : values.flatMap (bits 6) <+: [v, w, x, 0].flatMap (bits 6) := by
    refine ⟨zeros.flatMap (bits 6), ?_⟩
    rw [← List.flatMap_append, hzeros]
  refine List.prefix_of_prefix_length_le hgroup hsymbols ?_
  have hcount : ((quadBytes v w x 0).take count).length ≤ count := List.length_take_le ..
  have hbytes : (((quadBytes v w x 0).take count).flatMap byteBits).length =
      8 * ((quadBytes v w x 0).take count).length := length_flatMap_bits 8 UInt8.toNat _
  have hvalues : (values.flatMap (bits 6)).length = 6 * values.length :=
    length_flatMap_bits 6 id values
  omega

/-- The bits of the bytes are the first bits of the symbols. -/
theorem flatMap_byteBits_valueBytes (h : ∀ n ∈ values, n < 64) :
    (valueBytes values).flatMap byteBits <+: values.flatMap (bits 6) := by
  fun_induction valueBytes values with
  | case1 v w x y rest ih =>
      simp only [List.forall_mem_cons] at h
      obtain ⟨_, hw, hx, hy, hrest⟩ := h
      obtain ⟨spare, hspare⟩ := ih hrest
      refine ⟨spare, ?_⟩
      rw [List.flatMap_append, flatMap_byteBits_quadBytes hw hx hy, List.append_assoc, hspare]
      simp only [List.flatMap_cons, List.flatMap_nil, List.append_assoc, List.append_nil]
  | case2 v w x =>
      simp only [List.forall_mem_cons] at h
      exact flatMap_byteBits_take h.2.1 h.2.2.1 ⟨[0], rfl⟩ (by simp)
  | case3 v w =>
      simp only [List.forall_mem_cons] at h
      exact flatMap_byteBits_take h.2.1 (by omega) ⟨[0, 0], rfl⟩ (by simp)
  | case4 v => exact List.nil_prefix
  | case5 => exact List.prefix_rfl

/-- The values of four symbols are read off the three bytes that were made of them. -/
theorem sextets_quadBytes {v w x y : Nat} (hv : v < 64) (hw : w < 64) (hx : x < 64) (hy : y < 64) :
    (v * 4 + w / 16) % 256 / 4 = v ∧
      (v * 4 + w / 16) % 256 % 4 * 16 + (w % 16 * 16 + x / 4) % 256 / 16 = w ∧
      (w % 16 * 16 + x / 4) % 256 % 16 * 4 + (x % 4 * 64 + y) % 256 / 64 = x ∧
      (x % 4 * 64 + y) % 256 % 64 = y := by
  omega

theorem encodeChars_quadBytes_append {v w x y : Nat} (hv : v < 64) (hw : w < 64) (hx : x < 64)
    (hy : y < 64) (rest : List UInt8) : encodeChars (quadBytes v w x y ++ rest) =
      symbol v :: symbol w :: symbol x :: symbol y :: encodeChars rest := by
  obtain ⟨hfirst, hsecond, hthird, hfourth⟩ := sextets_quadBytes hv hw hx hy
  simp only [quadBytes, List.cons_append, List.nil_append, encodeChars, UInt8.toNat_ofNat',
    Nat.reducePow, hfirst, hsecond, hthird, hfourth]

/-- The bytes are encoded as the values they were made of, without the bits that were left over. -/
theorem encodeChars_valueBytes (h : ∀ n ∈ values, n < 64) (hfour : (values.length + pads) % 4 = 0)
    (hpads : pads ≤ 2) : encodeChars (valueBytes values) =
      (clearLast (2 * pads) values).map symbol ++ List.replicate pads '=' := by
  fun_induction valueBytes values with
  | case1 v w x y rest ih =>
      simp only [List.forall_mem_cons] at h
      obtain ⟨hv, hw, hx, hy, hrest⟩ := h
      have hlength : (rest.length + pads) % 4 = 0 := by
        simp only [List.length_cons] at hfour
        omega
      rw [encodeChars_quadBytes_append hv hw hx hy, ih hrest hlength]
      cases rest with
      | nil =>
          obtain rfl : pads = 0 := by
            simp only [List.length_nil] at hlength
            omega
          simp [clearLast]
      | cons z rest =>
          simp [clearLast]
  | case2 v w x =>
      simp only [List.forall_mem_cons] at h
      obtain ⟨hv, hw, hx, _⟩ := h
      obtain rfl : pads = 1 := by
        simp only [List.length_cons, List.length_nil] at hfour
        omega
      obtain ⟨hfirst, hsecond, -⟩ := sextets_quadBytes hv hw hx hx
      have hthird : (w % 16 * 16 + x / 4) % 256 % 16 * 4 = x / 4 * 4 := by omega
      simp only [quadBytes, List.take_succ_cons, List.take_zero, encodeChars,
        UInt8.toNat_ofNat', Nat.reducePow, Nat.reduceMul, hfirst, hsecond, hthird, clearLast]
      rfl
  | case3 v w =>
      simp only [List.forall_mem_cons] at h
      obtain ⟨hv, hw, _⟩ := h
      obtain rfl : pads = 2 := by
        simp only [List.length_cons, List.length_nil] at hfour
        omega
      obtain ⟨hfirst, -⟩ := sextets_quadBytes hv hw hw hw
      have hsecond : (v * 4 + w / 16) % 256 % 4 * 16 = w / 16 * 16 := by omega
      simp only [quadBytes, List.take_succ_cons, List.take_zero, encodeChars,
        UInt8.toNat_ofNat', Nat.reducePow, Nat.reduceMul, hfirst, hsecond, clearLast]
      rfl
  | case4 v =>
      simp only [List.length_cons, List.length_nil] at hfour
      omega
  | case5 =>
      obtain rfl : pads = 0 := by
        simp only [List.length_nil] at hfour
        omega
      rfl

end Values

section Decoding

variable {values : List Nat} {pads : Nat}

/-- Full groups decode to the bytes of their values. -/
theorem decodeQuads_symbolBytes (offset : Nat) (h : ∀ n ∈ values, n < 64)
    (hfour : values.length % 4 = 0) :
    decodeQuads offset (values.map symbolByte) = .ok (valueBytes values) := by
  fun_induction valueBytes values generalizing offset with
  | case1 v w x y rest ih =>
      simp only [List.forall_mem_cons] at h
      obtain ⟨hv, hw, hx, hy, hrest⟩ := h
      have htail := ih (offset + 4) hrest (by simp only [List.length_cons] at hfour; omega)
      simp only [List.map_cons, decodeQuads, symbolByte]
      rw [valueAt_symbolByte hv, valueAt_symbolByte hw, valueAt_symbolByte hx,
        valueAt_symbolByte hy]
      simp only [bind, Except.bind] at htail ⊢
      rw [htail]
      rfl
  | case2 v w x => simp at hfour
  | case3 v w => simp at hfour
  | case4 v => simp at hfour
  | case5 => rfl

/-- A padded text decodes to the bytes of the values of its symbols. -/
theorem decode_symbolBytes (h : ∀ n ∈ values, n < 64) (hne : values ≠ [])
    (hfour : (values.length + pads) % 4 = 0) (hpads : pads ≤ 2) :
    decode (values.map symbolByte ++ List.replicate pads padding) = .ok (valueBytes values) := by
  have hpos : 0 < values.length := List.length_pos_iff.2 hne
  -- the values of the full groups, and those of the group that is decoded apart
  obtain ⟨front, back, rfl, hfront, hback⟩ : ∃ front back, values = front ++ back ∧
      front.length % 4 = 0 ∧ back.length + pads = 4 := by
    refine ⟨values.take ((values.length + pads - 4)), values.drop (values.length + pads - 4),
      (List.take_append_drop _ _).symm, ?_, ?_⟩
    · rw [List.length_take]
      omega
    · rw [List.length_drop]
      omega
  obtain ⟨hfrontLt, hbackLt⟩ := List.forall_mem_append.1 h
  have hlast := decodeLast_symbolBytes (front.map symbolByte).length back pads hbackLt (by omega)
    (by omega)
  rw [lastBytes_eq_valueBytes (by omega) (by omega)] at hlast
  rw [List.map_append, List.append_assoc, valueBytes_append hfront]
  refine decode_append ?_ ?_ (decodeQuads_symbolBytes 0 hfrontLt hfront) hlast
  · rw [List.length_map, hfront]
  · rw [List.length_append, List.length_map, List.length_replicate, hback]

end Decoding

end Base64
end Text
end DocFilter
