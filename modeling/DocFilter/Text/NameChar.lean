import DocFilter.Text.Numeric

/-!
# Characters of names

Names consist of alphabetic and numeric characters by version 17 of Unicode, one version later
than the classes of characters, so what that version added is listed here.
-/

namespace DocFilter
namespace Text

/-- Code points that became alphabetic in version 17. -/
def newlyAlphabetic : Ranges :=
  [(0x088F, 0x088F), (0x0C5C, 0x0C5C), (0x0CDC, 0x0CDC), (0xA7CE, 0xA7CF),
    (0xA7D2, 0xA7D2), (0xA7D4, 0xA7D4), (0xA7F1, 0xA7F1), (0x10940, 0x10959),
    (0x10EC5, 0x10EC7), (0x10EFA, 0x10EFB), (0x11B60, 0x11B67), (0x11DB0, 0x11DDB),
    (0x16EA0, 0x16EB8), (0x16EBB, 0x16ED3), (0x16FF2, 0x16FF6), (0x187F8, 0x187FF),
    (0x18D09, 0x18D1E), (0x18D80, 0x18DF2), (0x1E6C0, 0x1E6DE), (0x1E6E0, 0x1E6F5),
    (0x1E6FE, 0x1E6FF), (0x2B73A, 0x2B73F), (0x2CEA2, 0x2CEAD), (0x323B0, 0x33479)]

/-- Code points that became decimal digits or numerals in version 17. -/
def newlyNumeric : Ranges :=
  [(0x11DE0, 0x11DE9), (0x16FF4, 0x16FF6)]

/-- Is the character alphabetic as far as names are concerned? -/
def isNameLetter (c : Char) : Bool :=
  isAlphabetic c || Ranges.mem newlyAlphabetic c.toNat

/-- Is the character alphabetic or numeric as far as names are concerned? -/
def isNameSign (c : Char) : Bool :=
  isAlphanumeric c || Ranges.mem newlyAlphabetic c.toNat || Ranges.mem newlyNumeric c.toNat

end Text
end DocFilter
