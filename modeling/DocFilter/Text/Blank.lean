import DocFilter.Text.Ranges

/-!
# Blank text

The Unicode property White_Space, trimming by it, and the test for text that has nothing else.
-/

namespace DocFilter
namespace Text

/-- Code points with the property White_Space. -/
def whiteSpace : Ranges :=
  [(0x0009, 0x000D), (0x0020, 0x0020), (0x0085, 0x0085), (0x00A0, 0x00A0),
    (0x1680, 0x1680), (0x2000, 0x200A), (0x2028, 0x2029), (0x202F, 0x202F),
    (0x205F, 0x205F), (0x3000, 0x3000)]

/-- Does the property White_Space hold of this character? -/
def isBlank (c : Char) : Bool :=
  Ranges.mem whiteSpace c.toNat

/-- The text without the blank characters at its two ends. -/
def trimChars (cs : List Char) : List Char :=
  ((cs.dropWhile isBlank).reverse.dropWhile isBlank).reverse

/-- The text without the blank characters at its two ends. -/
def trim (s : String) : String :=
  String.ofList (trimChars s.toList)

/-- Does the text consist of blank characters only?  The empty text does. -/
def allBlank (s : String) : Bool :=
  s.toList.all isBlank

end Text
end DocFilter
