import DocFilter.Text.Blank
import DocFilter.Text.Property.Derived
import DocFilter.Text.Property.Punctuation

/-!
# Classes for sentences

Where a text divides into sentences follows from the classes of neighbouring code points.  Code
points without a class of their own have none here.
-/

namespace DocFilter
namespace Text
namespace SentenceBreak

open Property

/-- Code points that extend the one before them. -/
def extending : Ranges :=
  Ranges.unions [graphemeExtend, spacingMarks, [(0x200D, 0x200D)]]

/-- Format characters that do not vanish in a sentence. -/
def visibleFormats : Ranges :=
  [(0x0600, 0x0605), (0x06DD, 0x06DD), (0x0890, 0x0891), (0x08E2, 0x08E2),
    (0x200C, 0x200D), (0x110BD, 0x110BD), (0x110CD, 0x110CD), (0xE0020, 0xE007F)]

/-- Code points that separate lines or paragraphs. -/
def separators : Ranges :=
  [(0x0085, 0x0085), (0x2028, 0x2029)]

/-- White space that breaks lines. -/
def lineBreaks : Ranges :=
  [(0x000A, 0x000A), (0x000D, 0x000D), (0x0085, 0x0085), (0x2028, 0x2029)]

/-- Small Georgian letters, which no sentence tells apart by case. -/
def mkhedruli : Ranges :=
  [(0x10D0, 0x10FA), (0x10FD, 0x10FF)]

/-- Capital Georgian letters, which no sentence tells apart by case. -/
def mtavruli : Ranges :=
  [(0x1C90, 0x1CBA), (0x1CBD, 0x1CBF)]

/-- Small letters. -/
def lowerLetters : Ranges :=
  (lowercase.diff graphemeExtend).diff mkhedruli

/-- Capital letters. -/
def upperLetters : Ranges :=
  (uppercase.union titlecaseLetters).diff mtavruli

/-- Letters without case. -/
def caselessLetters : Ranges :=
  Ranges.unions
    [alphabetic.diff (Ranges.unions [lowercase, uppercase, titlecaseLetters, extending]),
      [(0x05F3, 0x05F3)], mkhedruli, mtavruli]

/-- Further code points that belong to numbers. -/
def numberSigns : Ranges :=
  [(0x0600, 0x0605), (0x066B, 0x066C), (0x06DD, 0x06DD), (0x0890, 0x0891),
    (0x08E2, 0x08E2), (0x19DA, 0x19DA), (0x110BD, 0x110BD), (0x110CD, 0x110CD)]

/-- Signs that may end a sentence. -/
def fullStops : Ranges :=
  [(0x002E, 0x002E), (0x2024, 0x2024), (0xFE52, 0xFE52), (0xFF0E, 0xFF0E)]

/-- Further signs that close or open quotations. -/
def closingExtras : Ranges :=
  [(0x275B, 0x2760), (0x2E00, 0x2E01), (0x2E06, 0x2E08), (0x2E0B, 0x2E0B),
    (0x1F676, 0x1F678)]

/-- Quotation marks and brackets. -/
def closing : Ranges :=
  (Ranges.unions
    [openPunctuation, closePunctuation, initialPunctuation, finalPunctuation, quotationMark,
      closingExtras]).diff [(0xFF02, 0xFF02), (0xFF07, 0xFF07)]

/-- Signs behind which a sentence goes on. -/
def continuing : Ranges :=
  [(0x002C, 0x002D), (0x003A, 0x003B), (0x037E, 0x037E), (0x055D, 0x055D),
    (0x060C, 0x060D), (0x07F8, 0x07F8), (0x1802, 0x1802), (0x1808, 0x1808),
    (0x2013, 0x2014), (0x3001, 0x3001), (0xFE10, 0xFE11), (0xFE13, 0xFE14),
    (0xFE31, 0xFE32), (0xFE50, 0xFE51), (0xFE54, 0xFE55), (0xFE58, 0xFE58),
    (0xFE63, 0xFE63), (0xFF0C, 0xFF0D), (0xFF1A, 0xFF1B), (0xFF64, 0xFF64)]

/-- The classes with their names. -/
def classes : List (List String × Ranges) :=
  [(["at", "aterm"], fullStops),
    (["cr"], [(0x000D, 0x000D)]),
    (["cl", "close"], closing),
    (["ex", "extend"], extending),
    (["fo", "format"], formatCharacters.diff visibleFormats),
    (["lf"], [(0x000A, 0x000A)]),
    (["lo", "lower"], lowerLetters),
    (["nu", "numeric"], decimalDigits.union numberSigns),
    (["le", "oletter"], caselessLetters),
    (["sc", "scontinue"], continuing),
    (["st", "sterm"], sentenceTerminal.diff fullStops),
    (["se", "sep"], separators),
    (["sp"], whiteSpace.diff lineBreaks),
    (["up", "upper"], upperLetters)]

/-- The code points of the class with a name. -/
def rangesOfName? (name : String) : Option Ranges :=
  (classes.find? fun entry => entry.1.contains name).map Prod.snd

end SentenceBreak
end Text
end DocFilter
