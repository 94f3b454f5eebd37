import DocFilter.Text.Property.Derived
import DocFilter.Text.Property.Emoji
import DocFilter.Text.Property.Shape

/-!
# Classes for words

Where a text divides into words follows from the classes of neighbouring code points.  Code
points without a class of their own have none here.
-/

namespace DocFilter
namespace Text
namespace WordBreak

open Property

/-- Code points that extend the one before them. -/
def extending : Ranges :=
  Ranges.unions [graphemeExtend, spacingMarks, emojiModifier]

/-- Format characters that do not vanish between letters. -/
def visibleFormats : Ranges :=
  [(0x0600, 0x0605), (0x06DD, 0x06DD), (0x070F, 0x070F), (0x0890, 0x0891),
    (0x08E2, 0x08E2), (0x200B, 0x200D), (0x110BD, 0x110BD), (0x110CD, 0x110CD),
    (0xE0020, 0xE007F)]

/-- Further code points that belong to numbers. -/
def numberSigns : Ranges :=
  [(0x0600, 0x0605), (0x066B, 0x066B), (0x06DD, 0x06DD), (0x0890, 0x0891),
    (0x08E2, 0x08E2), (0x19DA, 0x19DA), (0x110BD, 0x110BD), (0x110CD, 0x110CD)]

/-- Code points that make up words with Katakana letters. -/
def katakana : Ranges :=
  [(0x3031, 0x3035), (0x309B, 0x309C), (0x30A0, 0x30FA), (0x30FC, 0x30FF),
    (0x31F0, 0x31FF), (0x32D0, 0x32FE), (0x3300, 0x3357), (0xFF66, 0xFF9D),
    (0x1AFF0, 0x1AFF3), (0x1AFF5, 0x1AFFB), (0x1AFFD, 0x1AFFE), (0x1B000, 0x1B000),
    (0x1B120, 0x1B122), (0x1B155, 0x1B155), (0x1B164, 0x1B167)]

/-- The Hebrew letters. -/
def hebrewLetters : Ranges :=
  [(0x05D0, 0x05EA), (0x05EF, 0x05F2), (0xFB1D, 0xFB1D), (0xFB1F, 0xFB28),
    (0xFB2A, 0xFB36), (0xFB38, 0xFB3C), (0xFB3E, 0xFB3E), (0xFB40, 0xFB41),
    (0xFB43, 0xFB44), (0xFB46, 0xFB4F)]

/-- Letters of scripts that do not separate words by spaces. -/
def unspaced : Ranges :=
  [(0x0E01, 0x0E30), (0x0E32, 0x0E33), (0x0E40, 0x0E46), (0x0E81, 0x0E82),
    (0x0E84, 0x0E84), (0x0E86, 0x0E8A), (0x0E8C, 0x0EA3), (0x0EA5, 0x0EA5),
    (0x0EA7, 0x0EB0), (0x0EB2, 0x0EB3), (0x0EBD, 0x0EBD), (0x0EC0, 0x0EC4),
    (0x0EC6, 0x0EC6), (0x0EDC, 0x0EDF), (0x1000, 0x102A), (0x103F, 0x103F),
    (0x1050, 0x1055), (0x105A, 0x105D), (0x1061, 0x1061), (0x1065, 0x1066),
    (0x106E, 0x1070), (0x1075, 0x1081), (0x108E, 0x108E), (0x1780, 0x17B3),
    (0x17D7, 0x17D7), (0x17DC, 0x17DC), (0x1950, 0x196D), (0x1970, 0x1974),
    (0x1980, 0x19AB), (0x19B0, 0x19C9), (0x1A20, 0x1A54), (0x1AA7, 0x1AA7),
    (0x3041, 0x3096), (0x309D, 0x309F), (0xA9E0, 0xA9E4), (0xA9E6, 0xA9EF),
    (0xA9FA, 0xA9FE), (0xAA60, 0xAA76), (0xAA7A, 0xAA7A), (0xAA7E, 0xAAAF),
    (0xAAB1, 0xAAB1), (0xAAB5, 0xAAB6), (0xAAB9, 0xAABD), (0xAAC0, 0xAAC0),
    (0xAAC2, 0xAAC2), (0xAADB, 0xAADD), (0x11700, 0x1171A), (0x11740, 0x11746),
    (0x1B001, 0x1B11F), (0x1B132, 0x1B132), (0x1B150, 0x1B152)]

/-- Further code points that stand in words like letters. -/
def letterExtras : Ranges :=
  [(0x02C2, 0x02C5), (0x02D2, 0x02D7), (0x02DE, 0x02DF), (0x02E5, 0x02EB),
    (0x02ED, 0x02ED), (0x02EF, 0x02FF), (0x055A, 0x055C), (0x055E, 0x055E),
    (0x058A, 0x058A), (0x05F3, 0x05F3), (0x070F, 0x070F), (0xA708, 0xA716),
    (0xA720, 0xA721), (0xA789, 0xA78A), (0xAB5B, 0xAB5B)]

/-- Letters that words consist of. -/
def letters : Ranges :=
  (alphabetic.diff
    (Ranges.unions [ideographic, extending, hebrewLetters, katakana, unspaced])).union letterExtras

/-- Signs that may stand between letters. -/
def betweenLetters : Ranges :=
  [(0x003A, 0x003A), (0x00B7, 0x00B7), (0x0387, 0x0387), (0x055F, 0x055F),
    (0x05F4, 0x05F4), (0x2027, 0x2027), (0xFE13, 0xFE13), (0xFE55, 0xFE55),
    (0xFF1A, 0xFF1A)]

/-- Signs that may stand between digits. -/
def betweenDigits : Ranges :=
  [(0x002C, 0x002C), (0x003B, 0x003B), (0x037E, 0x037E), (0x0589, 0x0589),
    (0x060C, 0x060D), (0x066C, 0x066C), (0x07F8, 0x07F8), (0x2044, 0x2044),
    (0xFE50, 0xFE50), (0xFE54, 0xFE54), (0xFF0C, 0xFF0C), (0xFF1B, 0xFF1B)]

/-- Signs that may stand between letters and between digits. -/
def betweenBoth : Ranges :=
  [(0x002E, 0x002E), (0x2018, 0x2019), (0x2024, 0x2024), (0xFE52, 0xFE52),
    (0xFF07, 0xFF07), (0xFF0E, 0xFF0E)]

/-- Code points that begin a new line. -/
def newlines : Ranges :=
  [(0x000B, 0x000C), (0x0085, 0x0085), (0x2028, 0x2029)]

/-- Spaces that stay together. -/
def spaces : Ranges :=
  [(0x0020, 0x0020), (0x1680, 0x1680), (0x2000, 0x2006), (0x2008, 0x200A),
    (0x205F, 0x205F), (0x3000, 0x3000)]

/-- The classes with their names. -/
def classes : List (List String × Ranges) :=
  [(["le", "aletter"], letters),
    (["cr"], [(0x000D, 0x000D)]),
    (["dq", "doublequote"], [(0x0022, 0x0022)]),
    (["extend"], extending),
    (["ex", "extendnumlet"], connectorPunctuation.union [(0x202F, 0x202F)]),
    (["fo", "format"], formatCharacters.diff visibleFormats),
    (["hl", "hebrewletter"], hebrewLetters),
    (["ka", "katakana"], katakana),
    (["lf"], [(0x000A, 0x000A)]),
    (["ml", "midletter"], betweenLetters),
    (["mn", "midnum"], betweenDigits),
    (["mb", "midnumlet"], betweenBoth),
    (["nl", "newline"], newlines),
    (["nu", "numeric"], decimalDigits.union numberSigns),
    (["ri", "regionalindicator"], regionalIndicator),
    (["sq", "singlequote"], [(0x0027, 0x0027)]),
    (["wsegspace"], spaces),
    (["zwj"], [(0x200D, 0x200D)])]

/-- The code points of the class with a name. -/
def rangesOfName? (name : String) : Option Ranges :=
  (classes.find? fun entry => entry.1.contains name).map Prod.snd

end WordBreak
end Text
end DocFilter
