import DocFilter.Proofs.EncodedBytes
import DocFilter.Proofs.RefusedCalls

/-!
# Masks that come back from the wire

A mask in Base64 is trimmed, taken as bytes in UTF-8 and decoded; what it
encodes is recorded as a byte string, which is rendered by encoding it again.
The symbols of the alphabet are ASCII characters that are neither blank nor
escaped in quotes, so the text that the encoder writes gets through all of
these steps unchanged.

A text that is accepted need not be the one that is rendered for it: blank
characters and the low bits that the last symbol leaves over are lost.  But
the rendered text is accepted in its turn and gives the same bytes
(`masks_round_trip`).
-/

namespace DocFilter

open Text

section Symbols

namespace Text.Base64

/-- The characters of an encoded text: symbols of the alphabet and the padding sign. -/
theorem mem_encodeChars {bytes : List UInt8} {ch : Char} (h : ch ∈ encodeChars bytes) :
    ch = '=' ∨ ∃ n < 64, ch = symbol n := by
  fun_induction encodeChars bytes with
  | case1 => simp at h
  | case2 a =>
      obtain ⟨hv, hw, -, -⟩ := sextets_lt a 0 0
      simp only [List.mem_cons, List.not_mem_nil, or_false] at h
      rcases h with h | h | h | h
      · exact .inr ⟨_, hv, h⟩
      · exact .inr ⟨_, hw, h⟩
      · exact .inl h
      · exact .inl h
  | case3 a b =>
      obtain ⟨hv, hw, hx, -⟩ := sextets_lt a b 0
      simp only [List.mem_cons, List.not_mem_nil, or_false] at h
      rcases h with h | h | h | h
      · exact .inr ⟨_, hv, h⟩
      · exact .inr ⟨_, hw, h⟩
      · exact .inr ⟨_, hx, h⟩
      · exact .inl h
  | case4 a b c rest ih =>
      obtain ⟨hv, hw, hx, hy⟩ := sextets_lt a b c
      simp only [List.mem_cons] at h
      rcases h with h | h | h | h | h
      · exact .inr ⟨_, hv, h⟩
      · exact .inr ⟨_, hw, h⟩
      · exact .inr ⟨_, hx, h⟩
      · exact .inr ⟨_, hy, h⟩
      · exact ih h

/-- A character that trimming, UTF-8 and quotes leave as it is. -/
structure Transparent (ch : Char) : Prop where
  ascii : ch.toNat < 128
  solid : isBlank ch = false
  unquoted : escapeChar ch = [ch]

theorem transparent_symbol {n : Nat} (h : n < 64) : Transparent (symbol n) := by
  have hall : ∀ n < 64, (symbol n).toNat < 128 ∧ isBlank (symbol n) = false ∧
      escapeChar (symbol n) = [symbol n] := by
    decide
  exact ⟨(hall n h).1, (hall n h).2.1, (hall n h).2.2⟩

theorem transparent_of_mem_encodeChars {bytes : List UInt8} {ch : Char}
    (h : ch ∈ encodeChars bytes) : Transparent ch := by
  rcases mem_encodeChars h with rfl | ⟨n, hn, rfl⟩
  · exact ⟨by decide, by decide, by decide⟩
  · exact transparent_symbol hn

theorem encodeChars_ne_nil {bytes : List UInt8} (h : bytes ≠ []) : encodeChars bytes ≠ [] := by
  have hpos : 0 < bytes.length := List.length_pos_iff.2 h
  have hlen := length_encodeBytes bytes
  rw [encodeBytes, List.length_map] at hlen
  rw [← List.length_pos_iff]
  omega

end Text.Base64

end Symbols

section Steps

/-- The text has blank characters only. -/
def Text.Blank (cs : List Char) : Prop :=
  ∀ ch ∈ cs, isBlank ch = true

theorem Text.dropWhile_blank_append {front cs : List Char} (hfront : Blank front)
    (hcs : ∀ ch ∈ cs, isBlank ch = false) (hne : cs ≠ []) (back : List Char) :
    (front ++ cs ++ back).dropWhile isBlank = cs ++ back := by
  obtain ⟨ch, rest, rfl⟩ := List.exists_cons_of_ne_nil hne
  have hsolid : isBlank ch = false := hcs ch (by simp)
  rw [List.append_assoc, List.dropWhile_append_of_pos hfront, List.cons_append,
    List.dropWhile_cons_of_neg (by simp [hsolid])]

/-- Trimming takes away what is blank around a text. -/
theorem Text.trimChars_append {front cs back : List Char} (hfront : Blank front)
    (hback : Blank back) (hcs : ∀ ch ∈ cs, isBlank ch = false) (hne : cs ≠ []) :
    trimChars (front ++ cs ++ back) = cs := by
  -- read backwards, what is behind the text comes in front of it
  have hbehind : Blank back.reverse := fun ch hch => hback ch (List.mem_reverse.1 hch)
  have hreverse : (back.reverse ++ cs.reverse ++ []).dropWhile isBlank = cs.reverse ++ [] :=
    dropWhile_blank_append hbehind (fun ch hch => hcs ch (List.mem_reverse.1 hch))
      (by simpa using hne) []
  rw [List.append_nil, List.append_nil] at hreverse
  rw [trimChars, dropWhile_blank_append hfront hcs hne, List.reverse_append, hreverse,
    List.reverse_reverse]

/-- Text that needs no escapes stands in quotes as it is. -/
theorem Text.escapeChars_of_unquoted {cs : List Char} (h : ∀ ch ∈ cs, escapeChar ch = [ch]) :
    escapeChars cs = cs := by
  rw [escapeChars, List.flatMap_congr h, List.flatMap_singleton']

namespace Bitmask

theorem toList_loop_eq (bs : ByteArray) (i : Nat) (r : List UInt8) :
    ByteArray.toList.loop bs i r = r.reverse ++ bs.data.toList.drop i := by
  fun_induction ByteArray.toList.loop bs i r with
  | case1 i r hlt ih =>
      have hlength : i < bs.data.toList.length := by simpa using hlt
      rw [ih, List.drop_eq_getElem_cons hlength]
      simp [ByteArray.get!, hlt]
  | case2 i r hge =>
      have hlength : bs.data.toList.length ≤ i := by simpa using Nat.le_of_not_lt hge
      rw [List.drop_eq_nil_of_le hlength, List.append_nil]

/-- The characters of a text are written in UTF-8 one after the other. -/
theorem utf8Bytes_ofList (cs : List Char) :
    utf8Bytes (String.ofList cs) = cs.flatMap String.utf8EncodeChar := by
  rw [utf8Bytes, String.toUTF8_eq_toByteArray, ByteArray.toList, toList_loop_eq,
    String.toByteArray_ofList, List.utf8Encode, List.toList_data_toByteArray]
  rfl

theorem utf8Bytes_of_ascii {cs : List Char} (h : ∀ ch ∈ cs, ch.toNat < 128) :
    utf8Bytes (String.ofList cs) = cs.map Char.toUInt8 := by
  have hchar : ∀ ch ∈ cs, String.utf8EncodeChar ch = [ch.toUInt8] := by
    intro ch hch
    have hval : ch.val ≤ 127 := UInt32.le_iff_toNat_le.2 (Nat.le_of_lt_succ (h ch hch))
    rw [String.utf8EncodeChar_eq_singleton (Char.utf8Size_eq_one_iff.2 hval), Char.toUInt8_val]
  rw [utf8Bytes_ofList, List.flatMap_congr hchar, ← List.map_eq_flatMap]

theorem utf8Bytes_ne_nil {cs : List Char} (h : cs ≠ []) : utf8Bytes (String.ofList cs) ≠ [] := by
  obtain ⟨ch, rest, rfl⟩ := List.exists_cons_of_ne_nil h
  have hpos := ch.utf8Size_pos
  rw [utf8Bytes_ofList, List.flatMap_cons, ← List.length_pos_iff, List.length_append,
    String.length_utf8EncodeChar]
  omega

variable {bytes : List UInt8} {front back : List Char} {mask : String}

/-- An encoded text with blank characters around it is decoded to the bytes it was written for. -/
theorem decodeText_encoded (hne : bytes ≠ []) (hfront : Blank front) (hback : Blank back) :
    decodeText (String.ofList (front ++ Base64.encodeChars bytes ++ back)) =
      .ok (.binary bytes) := by
  have hchars : ∀ ch ∈ Base64.encodeChars bytes, Base64.Transparent ch :=
    fun _ hch => Base64.transparent_of_mem_encodeChars hch
  have htrim : trim (String.ofList (front ++ Base64.encodeChars bytes ++ back)) =
      String.ofList (Base64.encodeChars bytes) := by
    rw [trim, String.toList_ofList, trimChars_append hfront hback
      (fun ch hch => (hchars ch hch).solid) (Base64.encodeChars_ne_nil hne)]
  have hnonempty : (String.ofList (Base64.encodeChars bytes)).isEmpty = false := by
    rw [Bool.eq_false_iff, Ne, String.isEmpty_iff, String.ofList_eq_empty_iff]
    exact Base64.encodeChars_ne_nil hne
  have hbytes : utf8Bytes (String.ofList (Base64.encodeChars bytes)) = Base64.encodeBytes bytes :=
    utf8Bytes_of_ascii fun ch hch => (hchars ch hch).ascii
  rw [decodeText]
  simp only [htrim, hnonempty, hbytes, Base64.decode_encodeBytes]
  rfl

/-- A mask that is accepted gives bytes, at least one. -/
theorem exists_of_decodeText {v : Value} (h : decodeText mask = .ok v) :
    ∃ bytes, bytes ≠ [] ∧ v = .binary bytes := by
  rw [decodeText] at h
  split at h
  · cases h
  · rename_i hempty
    split at h
    · rename_i bytes hdecode
      cases h
      have hchars : trimChars mask.toList ≠ [] := by
        intro hnil
        rw [trim, hnil] at hempty
        exact hempty rfl
      exact ⟨bytes, Base64.decode_ne_nil hdecode (utf8Bytes_ne_nil hchars), rfl⟩
    · cases h

end Bitmask

end Steps

section Rendering

namespace Wire

/-- What stands before the text in Base64. -/
def binaryOpening : String :=
  "\x7b\"$binary\":\x7b\"base64\":\""

/-- What stands behind the text in Base64. -/
def binaryClosing : String :=
  "\",\"subType\":\"00\"\x7d\x7d"

theorem binaryOpening_eq : binaryOpening =
    String.ofList ('\x7b' :: (quoteChars "$binary" ++ ':' :: '\x7b' ::
      (quoteChars "base64" ++ [':', '"']))) := by
  decide

theorem binaryClosing_eq : binaryClosing =
    String.ofList ('"' :: ',' :: (quoteChars "subType" ++ ':' ::
      (quoteChars "00" ++ ['\x7d', '\x7d']))) := by
  decide

/-- A byte string is rendered around its text in Base64. -/
theorem ofList_binary (bytes : List UInt8) :
    String.ofList (binary bytes) = binaryOpening ++ Base64.encode bytes ++ binaryClosing := by
  have htext : escapeChars (Base64.encodeChars bytes) = Base64.encodeChars bytes :=
    escapeChars_of_unquoted fun ch hch => (Base64.transparent_of_mem_encodeChars hch).unquoted
  have hquoted : quoteChars (Base64.encode bytes) = '"' :: Base64.encodeChars bytes ++ ['"'] := by
    rw [quoteChars, Base64.encode, String.toList_ofList, htext]
  rw [binaryOpening_eq, binaryClosing_eq, Base64.encode, ← String.ofList_append,
    ← String.ofList_append, binary, inBraces, inBraces, entry, entry, entry, hquoted]
  simp only [List.cons_append, List.append_assoc, List.nil_append]

end Wire

end Rendering

namespace Criteria

section RoundTrip

/-- The mask is accepted, and these bytes are recorded as the operand of the bit test. -/
structure RecordsMask (c : Criteria) (t : BitTest) (mask : String) (bytes : List UInt8) : Prop where
  accepted : c.call (.testBits t (.encoded mask)) = .ok (c.put t.operator (.value (.binary bytes)))
  operand : (c.put t.operator (.value (.binary bytes))).active.operand? t.operator =
    some (.value (.binary bytes))

variable {c : Criteria} {t : BitTest} {mask : String} {bytes : List UInt8}

theorem recordsMask_of_decodeText (h : Bitmask.decodeText mask = .ok (.binary bytes)) :
    RecordsMask c t mask bytes where
  accepted := by
    simp only [call, testBits, Bitmask.toValue, h]
    rfl
  operand := Assoc.get?_put_self ..

theorem exists_of_testBits_encoded {d : Criteria}
    (h : c.call (.testBits t (.encoded mask)) = .ok d) :
    ∃ bytes, bytes ≠ [] ∧ d = c.put t.operator (.value (.binary bytes)) := by
  simp only [call, testBits, Bitmask.toValue] at h
  obtain ⟨v, hv, h⟩ := exists_of_bind_eq_ok h
  obtain ⟨bytes, hne, rfl⟩ := Bitmask.exists_of_decodeText hv
  cases h
  exact ⟨bytes, hne, rfl⟩

/-- **Masks round-trip to the wire.**  The text that encodes some bytes, with anything blank around
it, is accepted for every bit test on all criteria, records exactly these bytes, and is the text in
their rendering.  For every mask that is accepted, the text in the rendering of what is recorded is
accepted as well, and the same bytes are recorded. -/
theorem masks_round_trip (c : Criteria) (t : BitTest) :
    (∀ bytes front back, bytes ≠ [] → Blank front → Blank back →
      RecordsMask c t (String.ofList (front ++ Base64.encodeChars bytes ++ back)) bytes ∧
        (Value.binary bytes).render =
          Wire.binaryOpening ++ Base64.encode bytes ++ Wire.binaryClosing) ∧
      ∀ mask d, c.call (.testBits t (.encoded mask)) = .ok d →
        ∃ bytes text, bytes ≠ [] ∧ d = c.put t.operator (.value (.binary bytes)) ∧
          (Value.binary bytes).render = Wire.binaryOpening ++ text ++ Wire.binaryClosing ∧
          ∀ c' t', RecordsMask c' t' text bytes := by
  refine ⟨?_, ?_⟩
  · intro bytes front back hne hfront hback
    exact ⟨recordsMask_of_decodeText (Bitmask.decodeText_encoded hne hfront hback),
      Wire.ofList_binary bytes⟩
  · intro mask d h
    obtain ⟨bytes, hne, rfl⟩ := exists_of_testBits_encoded h
    have hblank : Blank [] := by simp [Blank]
    have hagain := Bitmask.decodeText_encoded hne hblank hblank
    rw [List.nil_append, List.append_nil] at hagain
    exact ⟨bytes, Base64.encode bytes, hne, rfl, Wire.ofList_binary bytes,
      fun _ _ => recordsMask_of_decodeText hagain⟩

/-- A wide blank in front does not count, and neither do the four bits that the last symbol leaves
over: the mask comes back with other text, which gives the same byte. -/
theorem masks_round_trip_leftover :
    RecordsMask (field "a") .allSet
        (String.ofList (['\u3000'] ++ Base64.encodeChars [0xff] ++ [])) [0xff] ∧
      Base64.encode [0xff] = "/w==" ∧
      ∃ d, (field "a").call (.testBits .anyClear (.encoded "/x==")) = .ok d ∧
        ∃ bytes text, bytes ≠ [] ∧ d = (field "a").put .bitsAnyClear (.value (.binary bytes)) ∧
          (Value.binary bytes).render = Wire.binaryOpening ++ text ++ Wire.binaryClosing ∧
          ∀ c' t', RecordsMask c' t' text bytes := by
  have htrim : trim "/x==" = String.ofList ['/', 'x', '=', '='] := by decide
  have hread : (String.ofList ['/', 'x', '=', '=']).isEmpty = false := by decide
  have hbytes : Bitmask.utf8Bytes (String.ofList ['/', 'x', '=', '=']) =
      [0x2f, 0x78, 0x3d, 0x3d] :=
    Bitmask.utf8Bytes_of_ascii (by simp)
  have haccepted : (field "a").call (.testBits .anyClear (.encoded "/x==")) =
      .ok ((field "a").put .bitsAnyClear (.value (.binary [0xff]))) := by
    simp only [call, testBits, Bitmask.toValue, Bitmask.decodeText, htrim, hread, hbytes]
    rfl
  have hfront : Blank ['\u3000'] := List.forall_mem_singleton.2 (by decide)
  have hback : Blank [] := by simp [Blank]
  refine ⟨?_, by decide, _, haccepted, ?_⟩
  · exact ((masks_round_trip (field "a") .allSet).1 [0xff] _ _ (by decide) hfront hback).1
  · exact (masks_round_trip (field "a") .anyClear).2 _ _ haccepted

end RoundTrip

end Criteria

end DocFilter
