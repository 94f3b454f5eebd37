import DocFilter.Proofs.SymbolBits

/-!
# The standard Base64 text

Standard Base64 lays the bits of the bytes end to end, cuts them in sixes,
filling the last with zeros, and looks each six up in the alphabet; padding
signs make the text a multiple of four long.  `standardChars` says so, with no
reference to the groups of three bytes that the encoder goes by.

The encoder writes this text (`encodeChars_eq_standardChars`): three bytes have
the bits of four symbols, and what the last one or two bytes lack of a group
counts as zeros in the last of their symbols.
-/

namespace DocFilter
namespace Text
namespace Base64

section Alphabet

/-- The symbols of the standard alphabet, in the order of their values. -/
def alphabet : List Char :=
  "ABCDEFGHIJKLMNOPQRSTUVWXYZabcdefghijklmnopqrstuvwxyz0123456789+/".toList

/-- The six-bit value of a symbol: its place in the alphabet. -/
def sextet (ch : Char) : Nat :=
  alphabet.idxOf ch

variable {ch : Char} {n : Nat}

theorem alphabet_eq : alphabet = (List.range 64).map symbol := by
  decide

theorem symbol_mem_alphabet (h : n < 64) : symbol n ∈ alphabet := by
  rw [alphabet_eq]
  exact List.mem_map.2 ⟨n, List.mem_range.2 h, rfl⟩

theorem sextet_symbol : ∀ {n}, n < 64 → sextet (symbol n) = n := by
  decide

theorem exists_symbol (h : ch ∈ alphabet) : ∃ n < 64, ch = symbol n := by
  rw [alphabet_eq] at h
  obtain ⟨n, hn, rfl⟩ := List.mem_map.1 h
  exact ⟨n, List.mem_range.1 hn, rfl⟩

theorem sextet_lt (h : ch ∈ alphabet) : sextet ch < 64 := by
  obtain ⟨n, hn, rfl⟩ := exists_symbol h
  rwa [sextet_symbol hn]

theorem symbol_sextet (h : ch ∈ alphabet) : symbol (sextet ch) = ch := by
  obtain ⟨n, hn, rfl⟩ := exists_symbol h
  rw [sextet_symbol hn]

theorem alphabet_getD (h : n < 64) : alphabet.getD n '=' = symbol n := by
  rw [alphabet_eq, List.getD_eq_getElem?_getD, List.getElem?_map, List.getElem?_range h]
  rfl

end Alphabet

section Definition

/-- The number that bits write, the highest of them first. -/
def ofBits (bs : List Bool) : Nat :=
  bs.foldl (fun n b => 2 * n + b.toNat) 0

/-- Bits in sixes, the last of them filled up with zeros. -/
def sixes : List Bool → List (List Bool)
  | b₁ :: b₂ :: b₃ :: b₄ :: b₅ :: b₆ :: rest => [b₁, b₂, b₃, b₄, b₅, b₆] :: sixes rest
  | [] => []
  | rest => [rest ++ List.replicate (6 - rest.length) false]

/-- The letter that the alphabet has for six bits. -/
def letter (six : List Bool) : Char :=
  alphabet.getD (ofBits six) '='

/-- The letters of bits, with padding signs behind them up to a multiple of four. -/
def paddedLetters (bs : List Bool) : List Char :=
  let letters := (sixes bs).map letter
  letters ++ List.replicate ((4 - letters.length % 4) % 4) '='

/-- The standard Base64 text of a byte string. -/
def standardChars (bytes : List UInt8) : List Char :=
  paddedLetters (bytes.flatMap byteBits)

end Definition

section Letters

variable {width low n : Nat}

theorem ofBits_append_singleton (bs : List Bool) (b : Bool) :
    ofBits (bs ++ [b]) = 2 * ofBits bs + b.toNat := by
  rw [ofBits, List.foldl_append]
  rfl

/-- The lowest bits of a number write its remainder. -/
theorem ofBits_bits (width n : Nat) : ofBits (bits width n) = n % 2 ^ width := by
  induction width generalizing n with
  | zero =>
      rw [Nat.pow_zero, Nat.mod_one]
      rfl
  | succ width ih =>
      have hsplit : bits (width + 1) n = bits width (n / 2) ++ [n.testBit 0] := bits_add width 1 n
      rw [hsplit, ofBits_append_singleton, ih, Nat.pow_succ, Nat.mul_comm (2 ^ width), Nat.mod_mul,
        Nat.testBit_zero]
      rcases Nat.mod_two_eq_zero_or_one n with h | h <;> simp [h, Nat.add_comm]

theorem letter_bits (h : n < 64) : letter (bits 6 n) = symbol n := by
  have hvalue : ofBits (bits 6 n) = n := by
    rw [ofBits_bits]
    exact Nat.mod_eq_of_lt h
  rw [letter, hvalue, alphabet_getD h]

theorem bits_zero (width : Nat) : bits width 0 = List.replicate width false := by
  rw [bits, List.eq_replicate_iff]
  simp

/-- Zeros behind the bits of a number shift it. -/
theorem bits_append_zeros (width low n : Nat) :
    bits width n ++ List.replicate low false = bits (width + low) (n * 2 ^ low) := by
  have hpos : 0 < 2 ^ low := Nat.two_pow_pos low
  have hlow : bits low (n * 2 ^ low) = bits low 0 :=
    bits_congr (by rw [Nat.mul_mod_left, Nat.zero_mod])
  rw [bits_add, Nat.mul_div_cancel n hpos, hlow, bits_zero]

end Letters

section Groups

variable {values : List Nat} {six bs rest : List Bool}

theorem sixes_append (h : six.length = 6) : sixes (six ++ rest) = six :: sixes rest := by
  match six, h with
  | [_, _, _, _, _, _], _ => rfl

theorem sixes_last (hpos : 0 < bs.length) (hlt : bs.length < 6) :
    sixes bs = [bs ++ List.replicate (6 - bs.length) false] := by
  match bs with
  | [] => simp at hpos
  | [_] | [_, _] | [_, _, _] | [_, _, _, _] | [_, _, _, _, _] => rfl
  | _ :: _ :: _ :: _ :: _ :: _ :: _ =>
      simp only [List.length_cons] at hlt
      omega

/-- The letters of six-bit values are their symbols. -/
theorem letters_values (h : ∀ n ∈ values, n < 64) (rest : List Bool) :
    (sixes (values.flatMap (bits 6) ++ rest)).map letter =
      values.map symbol ++ (sixes rest).map letter := by
  induction values with
  | nil =>
      rfl
  | cons n values ih =>
      obtain ⟨hn, hvalues⟩ := List.forall_mem_cons.1 h
      rw [List.flatMap_cons, List.append_assoc, sixes_append (length_bits 6 n), List.map_cons,
        letter_bits hn, ih hvalues, List.map_cons, List.cons_append]

/-- A full group is written in front of what follows. -/
theorem paddedLetters_values (h : ∀ n ∈ values, n < 64) (hfour : values.length % 4 = 0) :
    paddedLetters (values.flatMap (bits 6) ++ rest) = values.map symbol ++ paddedLetters rest := by
  have hlength : (values.map symbol ++ (sixes rest).map letter).length % 4 =
      ((sixes rest).map letter).length % 4 := by
    rw [List.length_append, List.length_map]
    omega
  simp only [paddedLetters, letters_values h, hlength, List.append_assoc]

/-- Bits behind the last full value are filled up with zeros, and the group with padding signs. -/
theorem paddedLetters_last (width low pads n : Nat) (h : ∀ n ∈ values, n < 64) (hpos : 0 < width)
    (hlow : 0 < low) (hsix : width + low = 6) (hfour : values.length + 1 + pads = 4) :
    paddedLetters (values.flatMap (bits 6) ++ bits width n) =
      values.map symbol ++ symbol (n * 2 ^ low % 64) :: List.replicate pads '=' := by
  have hwidth : (bits width n).length = width := length_bits width n
  have hlast : sixes (bits width n) = [bits 6 (n * 2 ^ low % 64)] := by
    have hvalue : n * 2 ^ low % 2 ^ 6 = n * 2 ^ low % 64 % 2 ^ 6 := (Nat.mod_mod _ 64).symm
    rw [sixes_last (by omega) (by omega), hwidth, show 6 - width = low by omega,
      bits_append_zeros, hsix, bits_congr hvalue]
  have hpads : (4 - (values.length + 1) % 4) % 4 = pads := by omega
  simp only [paddedLetters, letters_values h, hlast, List.map_cons, List.map_nil,
    letter_bits (Nat.mod_lt _ (by decide : 64 > 0)), List.length_append, List.length_map,
    List.length_cons, List.length_nil, Nat.zero_add, hpads, List.append_assoc, List.cons_append,
    List.nil_append]

end Groups

section Encoder

/-- A byte has the bits of its quotient in front of those of its remainder. -/
theorem byteBits_split (width low : Nat) (h : width + low = 8) (a : UInt8) :
    byteBits a = bits width (a.toNat / 2 ^ low) ++ bits low a.toNat := by
  rw [byteBits, ← h, bits_add]

theorem flatMap_byteBits_one (a : UInt8) :
    [a].flatMap byteBits = [a.toNat / 4].flatMap (bits 6) ++ bits 2 a.toNat := by
  simpa using byteBits_split 6 2 rfl a

theorem flatMap_byteBits_two (a b : UInt8) : [a, b].flatMap byteBits =
    [a.toNat / 4, a.toNat % 4 * 16 + b.toNat / 16].flatMap (bits 6) ++ bits 4 b.toNat := by
  have hb := b.toNat_lt
  have hhigh : (a.toNat % 4 * 16 + b.toNat / 16) / 2 ^ 4 % 2 ^ 2 = a.toNat % 2 ^ 2 := by omega
  have hlow : (a.toNat % 4 * 16 + b.toNat / 16) % 2 ^ 4 = b.toNat / 2 ^ 4 % 2 ^ 4 := by omega
  have hmiddle : bits 6 (a.toNat % 4 * 16 + b.toNat / 16) =
      bits 2 a.toNat ++ bits 4 (b.toNat / 2 ^ 4) := by
    rw [bits_add 2 4, bits_congr hhigh, bits_congr hlow]
  simp [byteBits_split 6 2 rfl a, byteBits_split 4 4 rfl b, hmiddle]

theorem flatMap_byteBits_three (a b c : UInt8) : [a, b, c].flatMap byteBits =
    [a.toNat / 4, a.toNat % 4 * 16 + b.toNat / 16, b.toNat % 16 * 4 + c.toNat / 64,
      c.toNat % 64].flatMap (bits 6) := by
  obtain ⟨_, hw, hx, hy⟩ := sextets_lt a b c
  rw [← flatMap_byteBits_quadBytes hw hx hy, quadBytes_sextets]

/-- The encoder writes the standard text. -/
theorem encodeChars_eq_standardChars (bytes : List UInt8) :
    encodeChars bytes = standardChars bytes := by
  fun_induction encodeChars bytes with
  | case1 =>
      rfl
  | case2 a =>
      obtain ⟨hv, _⟩ := sextets_lt a a a
      have hlast : a.toNat * 2 ^ 4 % 64 = a.toNat % 4 * 16 := by omega
      rw [standardChars, flatMap_byteBits_one,
        paddedLetters_last 2 4 2 _ (by simp [hv]) (by decide) (by decide) rfl rfl, hlast]
      rfl
  | case3 a b =>
      obtain ⟨hv, hw, _⟩ := sextets_lt a b b
      have hlast : b.toNat * 2 ^ 2 % 64 = b.toNat % 16 * 4 := by omega
      rw [standardChars, flatMap_byteBits_two,
        paddedLetters_last 4 2 1 _ (by simp [hv, hw]) (by decide) (by decide) rfl rfl, hlast]
      rfl
  | case4 a b c rest ih =>
      obtain ⟨hv, hw, hx, hy⟩ := sextets_lt a b c
      have hgroup : (a :: b :: c :: rest).flatMap byteBits =
          [a, b, c].flatMap byteBits ++ rest.flatMap byteBits := by
        rw [← List.flatMap_append]
        rfl
      rw [standardChars, hgroup, flatMap_byteBits_three,
        paddedLetters_values (by simp [hv, hw, hx, hy]) (by simp), ih]
      rfl

example : standardChars [102, 111, 111, 98] = "Zm9vYg==".toList := by
  decide

theorem encode_eq_ofList (bytes : List UInt8) :
    encode bytes = String.ofList (standardChars bytes) := by
  rw [encode, encodeChars_eq_standardChars]

end Encoder

end Base64
end Text
end DocFilter
