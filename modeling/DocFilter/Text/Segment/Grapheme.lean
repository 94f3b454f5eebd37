import DocFilter.Text.Property.Derived
import DocFilter.Text.Property.Emoji

/-!
# Classes for graphemes

Where a text divides into graphemes follows from the classes of neighbouring code points.  Code
points without a class of their own have none here.
-/

namespace DocFilter
namespace Text
namespace Grapheme

open Property

/-- Code points that join the grapheme behind them. -/
def prepended : Ranges :=
  [(0x0600, 0x0605), (0x06DD, 0x06DD), (0x070F, 0x070F), (0x0890, 0x0891),
    (0x08E2, 0x08E2), (0x0D4E, 0x0D4E), (0x110BD, 0x110BD), (0x110CD, 0x110CD),
    (0x111C2, 0x111C3), (0x113D1, 0x113D1), (0x1193F, 0x1193F), (0x11941, 0x11941),
    (0x11A3A, 0x11A3A), (0x11A84, 0x11A89), (0x11D46, 0x11D46), (0x11F02, 0x11F02)]

/-- Code points that extend the grapheme before them. -/
def extending : Ranges :=
  graphemeExtend.union emojiModifier

/-- Spacing marks that begin a grapheme of their own. -/
def freeMarks : Ranges :=
  [(0x102B, 0x102C), (0x1038, 0x1038), (0x1062, 0x1064), (0x1067, 0x106D),
    (0x1083, 0x1083), (0x1087, 0x108C), (0x108F, 0x108F), (0x109A, 0x109C),
    (0x1A61, 0x1A61), (0x1A63, 0x1A64), (0xAA7B, 0xAA7B), (0xAA7D, 0xAA7D),
    (0x11720, 0x11721)]

/-- Marks and vowels with a width of their own that belong to the grapheme before them. -/
def spacing : Ranges :=
  ((spacingMarks.diff graphemeExtend).diff freeMarks).union [(0x0E33, 0x0E33), (0x0EB3, 0x0EB3)]

/-- Unassigned code points that are set aside for controls. -/
def reserved : Ranges :=
  [(0x2065, 0x2065), (0xFFF0, 0xFFF8), (0xE0000, 0xE0000), (0xE0002, 0xE001F),
    (0xE0080, 0xE00FF), (0xE01F0, 0xE0FFF)]

/-- Format characters that belong to a grapheme. -/
def joiningFormats : Ranges :=
  [(0x0600, 0x0605), (0x06DD, 0x06DD), (0x070F, 0x070F), (0x0890, 0x0891),
    (0x08E2, 0x08E2), (0x200C, 0x200D), (0x110BD, 0x110BD), (0x110CD, 0x110CD),
    (0xE0020, 0xE007F)]

/-- Separators, controls and format characters that stand alone. -/
def standingAlone : Ranges :=
  (Ranges.unions
    [lineSeparators, paragraphSeparators, controls.diff [(0x000A, 0x000A), (0x000D, 0x000D)],
      formatCharacters.diff joiningFormats, reserved])

/-- The Korean syllables without a final consonant: the first of each block of 28. -/
def openSyllables : Ranges :=
  (List.range 399).map fun k => (0xAC00 + 28 * k, 0xAC00 + 28 * k)

/-- The Korean syllables with a final consonant: the others of each block. -/
def closedSyllables : Ranges :=
  (List.range 399).map fun k => (0xAC01 + 28 * k, 0xAC1B + 28 * k)

/-- The classes with their names. -/
def classes : List (List String × Ranges) :=
  [(["cn", "control"], standingAlone),
    (["cr"], [(0x000D, 0x000D)]),
    (["ex", "extend"], extending),
    (["l"], [(0x1100, 0x115F), (0xA960, 0xA97C)]),
    (["lf"], [(0x000A, 0x000A)]),
    (["lv"], openSyllables),
    (["lvt"], closedSyllables),
    (["pp", "prepend"], prepended),
    (["ri", "regionalindicator"], regionalIndicator),
    (["sm", "spacingmark"], spacing),
    (["t"], [(0x11A8, 0x11FF), (0xD7CB, 0xD7FB)]),
    (["v"], [(0x1160, 0x11A7), (0xD7B0, 0xD7C6), (0x16D63, 0x16D63), (0x16D67, 0x16D6A)]),
    (["zwj"], [(0x200D, 0x200D)])]

/-- The code points of the class with a name. -/
def rangesOfName? (name : String) : Option Ranges :=
  (classes.find? fun entry => entry.1.contains name).map Prod.snd

end Grapheme
end Text
end DocFilter
