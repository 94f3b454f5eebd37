import DocFilter.Proofs.MaskRoundTrip
import DocFilter.Proofs.StandardText

/-!
# The grammar of masks

A mask in Base64 is trimmed first.  What is left has to be symbols of the
standard alphabet with at most two padding signs behind them, in groups of four
(`Grammatical`).  The decoder looks at the bytes of the text in UTF-8; these are
symbols and padding signs only if every character is, since the bytes of a
character outside ASCII lie above all of them.

The bytes that are recorded are the bits of the symbols laid end to end, and
they are rendered as the same text, but for the bits of the last symbol that no
byte takes up (`StandsFor`).
-/

namespace DocFilter

open Text

section Characters

namespace Text.Base64

variable {ch : Char}

theorem ne_padding_sign_of_mem (h : ch ∈ alphabet) : ch ≠ '=' := by
  rintro rfl
  revert h
  decide

/-- Among the characters of ASCII, the bytes tell the symbols and the padding sign apart from all
others. -/
theorem symbol_or_sign_of_byte (hascii : ch.toNat < 128) :
    (IsSymbol ch.toUInt8 → ch ∈ alphabet) ∧ (ch.toUInt8 = padding → ch = '=') := by
  have hall : ∀ n < 128,
      ((value? (Char.ofNat n).toUInt8).isSome = true → Char.ofNat n ∈ alphabet) ∧
        ((Char.ofNat n).toUInt8 = padding → Char.ofNat n = '=') := by
    decide +kernel
  have hch := hall ch.toNat hascii
  rwa [Char.ofNat_toNat] at hch

theorem IsSymbol.lt {b : UInt8} (h : IsSymbol b) : b.toNat < 128 := by
  rw [IsSymbol, value?] at h
  by_contra hlt
  repeat rw [if_neg (by omega)] at h
  cases h

end Text.Base64

/-- A character outside ASCII has a first byte that is outside as well. -/
theorem Bitmask.ascii_of_utf8EncodeChar {ch : Char}
    (h : ∀ b ∈ String.utf8EncodeChar ch, b.toNat < 128) : ch.toNat < 128 := by
  have hlead : ∀ b c : UInt8, 128 ≤ c.toNat → ¬ (b ||| c).toNat < 128 := by
    intro b c hc
    have hor : c.toNat ≤ b.toNat ||| c.toNat := Nat.right_le_or
    rw [UInt8.toNat_or]
    omega
  obtain hsize | hsize | hsize | hsize := Char.utf8Size_eq ch
  · have hval : ch.val ≤ 127 := Char.utf8Size_eq_one_iff.1 hsize
    exact Nat.lt_succ_of_le (UInt32.le_iff_toNat_le.1 hval)
  · rw [String.utf8EncodeChar_eq_cons_cons hsize] at h
    exact (hlead _ _ (by decide) (h _ List.mem_cons_self)).elim
  · rw [String.utf8EncodeChar_eq_cons_cons_cons hsize] at h
    exact (hlead _ _ (by decide) (h _ List.mem_cons_self)).elim
  · rw [String.utf8EncodeChar_eq_cons_cons_cons_cons hsize] at h
    exact (hlead _ _ (by decide) (h _ List.mem_cons_self)).elim

end Characters

section Grammar

namespace Text.Base64

/-- Groups of four symbols, at least one, with up to two padding signs in place of the last
symbols. -/
structure Grammatical (cs : List Char) : Prop where
  ne_nil : cs ≠ []
  groups : cs.length % 4 = 0
  shape : ∃ symbols pads, cs = symbols ++ List.replicate pads '=' ∧ pads ≤ 2 ∧
    ∀ ch ∈ symbols, ch ∈ alphabet

/-- The second text is the first, except that the bits of its last symbol that no byte takes up are
zeros: two of them for each padding sign. -/
def Cleared (cs text : List Char) : Prop :=
  ∃ front last last' pads, cs = front ++ last :: List.replicate pads '=' ∧
    text = front ++ last' :: List.replicate pads '=' ∧ last ∈ alphabet ∧ last' ∈ alphabet ∧
    sextet last' = sextet last / 4 ^ pads * 4 ^ pads

/-- The text in Base64 stands for these bytes, which are encoded as the other text. -/
structure StandsFor (cs : List Char) (bytes : List UInt8) (text : List Char) : Prop where
  length : bytes.length + cs.count '=' = 3 * cs.length / 4
  leading : bytes.flatMap byteBits <+:
    (cs.filter (· ≠ '=')).flatMap fun ch => bits 6 (sextet ch)
  cleared : Cleared cs text

variable {cs symbols : List Char} {pads : Nat}

/-- What is padded as bytes was padded as characters. -/
theorem grammatical_of_padded (hne : cs ≠ [])
    (h : Padded (Bitmask.utf8Bytes (String.ofList cs))) : Grammatical cs := by
  obtain ⟨hfour, symbols, pads, hsplit, hpads, hsymbols⟩ := h
  have hbyte : ∀ b ∈ symbols ++ List.replicate pads padding, b.toNat < 128 := by
    intro b hb
    rcases List.mem_append.1 hb with hb | hb
    · exact (hsymbols b hb).lt
    · rw [List.eq_of_mem_replicate hb]
      decide
  have hascii : ∀ ch ∈ cs, ch.toNat < 128 := by
    intro ch hch
    refine Bitmask.ascii_of_utf8EncodeChar fun b hb => hbyte b ?_
    rw [← hsplit, Bitmask.utf8Bytes_ofList]
    exact List.mem_flatMap.2 ⟨ch, hch, hb⟩
  rw [Bitmask.utf8Bytes_of_ascii hascii] at hsplit hfour
  obtain ⟨front, back, rfl, hfront, hback⟩ := List.map_eq_append_iff.1 hsplit
  have hsigns : back = List.replicate pads '=' := by
    refine List.eq_replicate_iff.2 ⟨?_, ?_⟩
    · simpa using congrArg List.length hback
    · intro ch hch
      have hpad : ch.toUInt8 = padding :=
        List.eq_of_mem_replicate (hback ▸ List.mem_map_of_mem hch)
      exact (symbol_or_sign_of_byte (hascii ch (List.mem_append_right _ hch))).2 hpad
  refine ⟨hne, by simpa using hfour, front, pads, by rw [hsigns], hpads, ?_⟩
  intro ch hch
  have hsymbol : IsSymbol ch.toUInt8 := hsymbols _ (hfront ▸ List.mem_map_of_mem hch)
  exact (symbol_or_sign_of_byte (hascii ch (List.mem_append_left _ hch))).1 hsymbol

theorem values_lt (h : ∀ ch ∈ symbols, ch ∈ alphabet) : ∀ n ∈ symbols.map sextet, n < 64 :=
  List.forall_mem_map.2 fun ch hch => sextet_lt (h ch hch)

/-- A text of symbols is written with the symbols of their values. -/
theorem map_symbol_sextet (h : ∀ ch ∈ symbols, ch ∈ alphabet) :
    (symbols.map sextet).map symbol = symbols := by
  rw [List.map_map]
  exact (List.map_congr_left fun ch hch => symbol_sextet (h ch hch)).trans (List.map_id _)

variable (hsymbols : ∀ ch ∈ symbols, ch ∈ alphabet) (hne : symbols ≠ [])
  (hfour : (symbols.length + pads) % 4 = 0) (hpads : pads ≤ 2)
include hsymbols hne hfour hpads

theorem decode_symbols :
    decode (Bitmask.utf8Bytes (String.ofList (symbols ++ List.replicate pads '='))) =
      .ok (valueBytes (symbols.map sextet)) := by
  have hascii : ∀ ch ∈ symbols ++ List.replicate pads '=', ch.toNat < 128 := by
    intro ch hch
    rcases List.mem_append.1 hch with hch | hch
    · obtain ⟨n, hn, rfl⟩ := exists_symbol (hsymbols ch hch)
      exact (transparent_symbol hn).ascii
    · rw [List.eq_of_mem_replicate hch]
      decide
  have hbytes : (symbols ++ List.replicate pads '=').map Char.toUInt8 =
      (symbols.map sextet).map symbolByte ++ List.replicate pads padding := by
    have hread : symbols.map Char.toUInt8 = (symbols.map sextet).map symbolByte := by
      conv_lhs => rw [← map_symbol_sextet hsymbols, List.map_map]
      rfl
    rw [List.map_append, List.map_replicate, hread]
    rfl
  rw [Bitmask.utf8Bytes_of_ascii hascii, hbytes]
  exact decode_symbolBytes (values_lt hsymbols) (by simpa using hne) (by simpa using hfour) hpads

theorem cleared_symbols : Cleared (symbols ++ List.replicate pads '=')
    (encodeChars (valueBytes (symbols.map sextet))) := by
  rw [encodeChars_valueBytes (values_lt hsymbols) (by simpa using hfour) hpads]
  obtain ⟨front, last, rfl⟩ : ∃ front last, symbols = front ++ [last] :=
    ⟨_, _, (List.dropLast_append_getLast hne).symm⟩
  simp only [List.forall_mem_append, List.forall_mem_singleton] at hsymbols
  obtain ⟨hfront, hlast⟩ := hsymbols
  have hlt : sextet last / 4 ^ pads * 4 ^ pads < 64 :=
    (Nat.div_mul_le_self _ _).trans_lt (sextet_lt hlast)
  refine ⟨front, last, symbol (sextet last / 4 ^ pads * 4 ^ pads), pads, ?_, ?_, hlast,
    symbol_mem_alphabet hlt, sextet_symbol hlt⟩
  · simp
  · rw [List.map_append, List.map_singleton, clearLast_concat, List.map_append,
      map_symbol_sextet hfront, Nat.pow_mul]
    simp

theorem standsFor_symbols : StandsFor (symbols ++ List.replicate pads '=')
    (valueBytes (symbols.map sextet)) (encodeChars (valueBytes (symbols.map sextet))) where
  length := by
    have hcount : symbols.count '=' = 0 :=
      List.count_eq_zero.2 fun h => ne_padding_sign_of_mem (hsymbols _ h) rfl
    rw [length_valueBytes, List.length_map, List.count_append, hcount, List.count_replicate_self,
      List.length_append, List.length_replicate]
    omega
  leading := by
    have hkept : (symbols ++ List.replicate pads '=').filter (· ≠ '=') = symbols := by
      rw [List.filter_append, List.filter_eq_self.2, List.filter_eq_nil_iff.2, List.append_nil]
      · intro ch hch
        simp [List.eq_of_mem_replicate hch]
      · intro ch hch
        simpa using ne_padding_sign_of_mem (hsymbols ch hch)
    have hbits : (symbols.flatMap fun ch => bits 6 (sextet ch)) =
        (symbols.map sextet).flatMap (bits 6) := (List.flatMap_map ..).symm
    rw [hkept, hbits]
    exact flatMap_byteBits_valueBytes (values_lt hsymbols)
  cleared := cleared_symbols hsymbols hne hfour hpads

end Text.Base64

end Grammar

section Reading

open Base64

namespace Bitmask

variable {mask : String}

/-- A text that decodes has been trimmed to one in the grammar. -/
theorem grammatical_of_decodeText {v : Value} (h : decodeText mask = .ok v) :
    Grammatical (trimChars mask.toList) := by
  rw [decodeText, trim] at h
  split at h
  · cases h
  · rename_i hempty
    split at h
    · rename_i bytes hdecode
      refine grammatical_of_padded ?_ (exists_decode_iff.1 ⟨bytes, hdecode⟩)
      intro hnil
      exact hempty (by rw [hnil]; rfl)
    · cases h

/-- A text in the grammar decodes to the bytes that it stands for. -/
theorem exists_decodeText (h : Grammatical (trimChars mask.toList)) :
    ∃ bytes, decodeText mask = .ok (.binary bytes) ∧
      StandsFor (trimChars mask.toList) bytes (encodeChars bytes) := by
  obtain ⟨symbols, pads, hsplit, hpads, hsymbols⟩ := h.shape
  have hfour : (symbols.length + pads) % 4 = 0 := by
    have hgroups := h.groups
    rwa [hsplit, List.length_append, List.length_replicate] at hgroups
  have hne : symbols ≠ [] := by
    rintro rfl
    obtain rfl : pads = 0 := by
      simp only [List.length_nil] at hfour
      omega
    exact h.ne_nil hsplit
  have hempty : (String.ofList (symbols ++ List.replicate pads '=')).isEmpty = false := by
    rw [Bool.eq_false_iff, Ne, String.isEmpty_iff, String.ofList_eq_empty_iff, ← hsplit]
    exact h.ne_nil
  refine ⟨valueBytes (symbols.map sextet), ?_, ?_⟩
  · rw [decodeText]
    simp only [trim, hsplit, hempty, decode_symbols hsymbols hne hfour hpads]
    rfl
  · rw [hsplit]
    exact standsFor_symbols hsymbols hne hfour hpads

end Bitmask

namespace Criteria

/-- **Masks are read by the grammar of Base64.**  For every bit test on all criteria, a mask is
accepted exactly if its trimmed text is in the grammar.  The bytes recorded for it are the leading
bits of its symbols, and the text in their rendering is the trimmed text with the unused bits of
the last symbol cleared. -/
theorem masks_are_read_by_grammar (c : Criteria) (t : BitTest) (mask : String) :
    ((∃ d, c.call (.testBits t (.encoded mask)) = .ok d) ↔
      Grammatical (trimChars mask.toList)) ∧
      (Grammatical (trimChars mask.toList) → ∃ bytes text, RecordsMask c t mask bytes ∧
        StandsFor (trimChars mask.toList) bytes text ∧
        (Value.binary bytes).render =
          Wire.binaryOpening ++ String.ofList text ++ Wire.binaryClosing) := by
  have hread : Grammatical (trimChars mask.toList) → ∃ bytes, RecordsMask c t mask bytes ∧
      StandsFor (trimChars mask.toList) bytes (encodeChars bytes) := by
    intro h
    obtain ⟨bytes, hdecode, hstands⟩ := Bitmask.exists_decodeText h
    exact ⟨bytes, recordsMask_of_decodeText hdecode, hstands⟩
  refine ⟨⟨?_, ?_⟩, ?_⟩
  · rintro ⟨d, h⟩
    simp only [call, testBits, Bitmask.toValue] at h
    obtain ⟨v, hv, -⟩ := exists_of_bind_eq_ok h
    exact Bitmask.grammatical_of_decodeText hv
  · intro h
    obtain ⟨bytes, hrecords, -⟩ := hread h
    exact ⟨_, hrecords.accepted⟩
  · intro h
    obtain ⟨bytes, hrecords, hstands⟩ := hread h
    exact ⟨bytes, encodeChars bytes, hrecords, hstands, Wire.ofList_binary bytes⟩

/-- Two symbols with two signs behind them stand for one byte, whatever blank characters there are
around; the four low bits of the second symbol are cleared.  With one sign they are refused. -/
theorem masks_are_read_by_grammar_two_symbols :
    (∃ bytes text, bytes.length = 1 ∧
      RecordsMask (field "a") .allSet "\u3000/x== " bytes ∧
      StandsFor ['/', 'x', '=', '='] bytes text ∧
      Cleared ['/', 'x', '=', '='] ['/', 'w', '=', '='] ∧
      (Value.binary bytes).render =
        Wire.binaryOpening ++ String.ofList text ++ Wire.binaryClosing) ∧
      ¬ ∃ d, (field "a").call (.testBits .allSet (.encoded "/x=")) = .ok d := by
  have htrim : trimChars "\u3000/x== ".toList = ['/', 'x', '=', '='] := by
    decide +kernel
  have hgrammar : Grammatical (trimChars "\u3000/x== ".toList) := by
    have hsymbols : ∀ ch ∈ ['/', 'x'], ch ∈ alphabet :=
      List.forall_mem_cons.2 ⟨by decide, List.forall_mem_singleton.2 (by decide)⟩
    rw [htrim]
    exact ⟨by decide, by decide, ['/', 'x'], 2, by decide, by decide, hsymbols⟩
  obtain ⟨bytes, text, hrecords, hstands, hrender⟩ :=
    (masks_are_read_by_grammar (field "a") .allSet "\u3000/x== ").2 hgrammar
  rw [htrim] at hstands
  refine ⟨⟨bytes, text, ?_, hrecords, hstands, ?_, hrender⟩, ?_⟩
  · have hlength : bytes.length + 2 = 3 := hstands.length
    omega
  · exact ⟨['/'], 'x', 'w', 2, by decide, by decide, by decide, by decide, by decide⟩
  · intro h
    have hgroups := ((masks_are_read_by_grammar (field "a") .allSet "/x=").1.1 h).groups
    revert hgroups
    decide

end Criteria

end Reading

end DocFilter
