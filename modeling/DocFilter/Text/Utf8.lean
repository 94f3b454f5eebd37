import DocFilter.Text.Ranges

/-!
# Sets of code points as byte sequences

In UTF-8 a code point is one to four bytes.  A set of code points is then a list of sequences of
byte ranges: a code point is in the set if its bytes lie, one by one, in the ranges of one of
the sequences.  The sequences are in ascending order and as few as the order allows.  As a tree
they are joined where they begin alike.
-/

namespace DocFilter
namespace Text
namespace Utf8

/-- A range for each byte. -/
abbrev ByteRanges := List (Nat × Nat)

/-- The code points from the first to the last that take the same number of bytes. -/
structure Band where
  first : Nat
  last : Nat
  /-- The number of bytes behind the first one. -/
  tails : Nat
  /-- What marks the first byte. -/
  mark : Nat

/-- The bands of all code points that stand for characters. -/
def bands : List Band :=
  [⟨0, 0x7F, 0, 0⟩, ⟨0x80, 0x7FF, 1, 0xC0⟩, ⟨0x800, 0xD7FF, 2, 0xE0⟩, ⟨0xE000, 0xFFFF, 2, 0xE0⟩,
    ⟨0x10000, 0x10FFFF, 3, 0xF0⟩]

/-- Every value of a digit to the base 64. -/
def anyDigit : Nat × Nat :=
  (0, 63)

/-- The numbers from `lo` to `hi` as ranges of digits to the base 64, `tails` of them behind the
first.  What remains at the two ends once the first digit is fixed is split further. -/
def digitRanges : Nat → Nat → Nat → List ByteRanges
  | 0, lo, hi => [[(lo, hi)]]
  | tails + 1, lo, hi =>
      let unit := Nat.pow 64 (tails + 1)
      let a := lo / unit
      let b := hi / unit
      if a = b then (digitRanges tails (lo % unit) (hi % unit)).map ((a, a) :: ·)
      else
        let wholeFront := lo % unit = 0
        let wholeBack := hi % unit = unit - 1
        let front :=
          if wholeFront then []
          else (digitRanges tails (lo % unit) (unit - 1)).map ((a, a) :: ·)
        let back :=
          if wholeBack then []
          else (digitRanges tails 0 (hi % unit)).map ((b, b) :: ·)
        let start := if wholeFront then a else a + 1
        let stop := if wholeBack then b + 1 else b
        let middle :=
          if start < stop then [(start, stop - 1) :: List.replicate (tails + 1) anyDigit] else []
        front ++ middle ++ back

/-- Ranges of digits as ranges of bytes. -/
def mark (band : Band) : ByteRanges → ByteRanges
  | [] => []
  | (lo, hi) :: rest =>
      (lo + band.mark, hi + band.mark) :: rest.map fun r => (r.1 + 0x80, r.2 + 0x80)

/-- The sequences for the code points of an interval. -/
def ofInterval (lo hi : Nat) : List ByteRanges :=
  bands.flatMap fun band =>
    let first := max lo band.first
    let last := min hi band.last
    if first ≤ last then (digitRanges band.tails first last).map (mark band) else []

/-- The bytes of a character. -/
def bytes (c : Char) : List Nat :=
  (String.utf8EncodeChar c).map UInt8.toNat

/-- The sequences for a set of code points. -/
def ofRanges (s : Ranges) : List ByteRanges :=
  s.flatMap fun r => ofInterval r.1 r.2

/-- Sequences of byte ranges as a tree. -/
inductive Tree where
  /-- No sequence, or the empty rest of one. -/
  | done
  /-- The sequences that begin with a range, with what remains of them behind it, before the other
  sequences. -/
  | branch (lo hi : Nat) (below others : Tree)
deriving Repr

namespace Tree

/-- Adds a sequence before the others. -/
def insert : ByteRanges → Tree → Tree
  | [], t => t
  | r :: rs, .done => .branch r.1 r.2 (insert rs .done) .done
  | r :: rs, .branch lo hi below others =>
      if r = (lo, hi) then .branch lo hi (insert rs below) others
      else .branch r.1 r.2 (insert rs .done) (.branch lo hi below others)

/-- The tree of sequences in ascending order. -/
def ofSequences (sequences : List ByteRanges) : Tree :=
  sequences.foldr insert .done

end Tree

end Utf8
end Text
end DocFilter
