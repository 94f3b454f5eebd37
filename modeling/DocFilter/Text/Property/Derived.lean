import DocFilter.Text.Alphabetic
import DocFilter.Text.Category.Letter
import DocFilter.Text.Category.Mark
import DocFilter.Text.Category.Other
import DocFilter.Text.Category.Punctuation
import DocFilter.Text.Category.Symbol
import DocFilter.Text.Numeric

/-!
# Derived properties

Properties that follow from the general categories up to a few code points, which are listed.
-/

namespace DocFilter
namespace Text
namespace Property

/-- All letters. -/
def letters : Ranges :=
  Ranges.unions
    [uppercaseLetters, lowercaseLetters, titlecaseLetters, modifierLetters, otherLetters]

/-- Further code points with the property Lowercase. -/
def lowercaseExtras : Ranges :=
  [(0x00AA, 0x00AA), (0x00BA, 0x00BA), (0x02B0, 0x02B8), (0x02C0, 0x02C1),
    (0x02E0, 0x02E4), (0x0345, 0x0345), (0x037A, 0x037A), (0x10FC, 0x10FC),
    (0x1D2C, 0x1D6A), (0x1D78, 0x1D78), (0x1D9B, 0x1DBF), (0x2071, 0x2071),
    (0x207F, 0x207F), (0x2090, 0x209C), (0x2170, 0x217F), (0x24D0, 0x24E9),
    (0x2C7C, 0x2C7D), (0xA69C, 0xA69D), (0xA770, 0xA770), (0xA7F2, 0xA7F4),
    (0xA7F8, 0xA7F9), (0xAB5C, 0xAB5F), (0xAB69, 0xAB69), (0x10780, 0x10780),
    (0x10783, 0x10785), (0x10787, 0x107B0), (0x107B2, 0x107BA), (0x1E030, 0x1E06D)]

/-- Small letters and other code points that look like them. -/
def lowercase : Ranges :=
  lowercaseLetters.union lowercaseExtras

/-- Further code points with the property Uppercase. -/
def uppercaseExtras : Ranges :=
  [(0x2160, 0x216F), (0x24B6, 0x24CF), (0x1F130, 0x1F149), (0x1F150, 0x1F169),
    (0x1F170, 0x1F189)]

/-- Capital letters and other code points that look like them. -/
def uppercase : Ranges :=
  uppercaseLetters.union uppercaseExtras

/-- Code points that have a case. -/
def cased : Ranges :=
  Ranges.unions [lowercase, uppercase, titlecaseLetters]

/-- Further code points with the property Case_Ignorable. -/
def caseIgnorableExtras : Ranges :=
  [(0x0027, 0x0027), (0x002E, 0x002E), (0x003A, 0x003A), (0x00B7, 0x00B7),
    (0x0387, 0x0387), (0x055F, 0x055F), (0x05F4, 0x05F4), (0x2018, 0x2019),
    (0x2024, 0x2024), (0x2027, 0x2027), (0xFE13, 0xFE13), (0xFE52, 0xFE52),
    (0xFE55, 0xFE55), (0xFF07, 0xFF07), (0xFF0E, 0xFF0E), (0xFF1A, 0xFF1A)]

/-- Code points that do not separate the cased ones around them. -/
def caseIgnorable : Ranges :=
  (Ranges.unions [nonspacingMarks, enclosingMarks, formatCharacters, modifierLetters,
    modifierSymbols]).union caseIgnorableExtras

/-- Further code points with the property Changes_When_Lowercased. -/
def changesWhenLowercasedExtras : Ranges :=
  [(0x2160, 0x216F), (0x24B6, 0x24CF)]

/-- Code points without the property Changes_When_Lowercased. -/
def changesWhenLowercasedExceptions : Ranges :=
  [(0x03D2, 0x03D4), (0x2102, 0x2102), (0x2107, 0x2107), (0x210B, 0x210D),
    (0x2110, 0x2112), (0x2115, 0x2115), (0x2119, 0x211D), (0x2124, 0x2124),
    (0x2128, 0x2128), (0x212C, 0x212D), (0x2130, 0x2131), (0x2133, 0x2133),
    (0x213E, 0x213F), (0x2145, 0x2145), (0x1D400, 0x1D419), (0x1D434, 0x1D44D),
    (0x1D468, 0x1D481), (0x1D49C, 0x1D49C), (0x1D49E, 0x1D49F), (0x1D4A2, 0x1D4A2),
    (0x1D4A5, 0x1D4A6), (0x1D4A9, 0x1D4AC), (0x1D4AE, 0x1D4B5), (0x1D4D0, 0x1D4E9),
    (0x1D504, 0x1D505), (0x1D507, 0x1D50A), (0x1D50D, 0x1D514), (0x1D516, 0x1D51C),
    (0x1D538, 0x1D539), (0x1D53B, 0x1D53E), (0x1D540, 0x1D544), (0x1D546, 0x1D546),
    (0x1D54A, 0x1D550), (0x1D56C, 0x1D585), (0x1D5A0, 0x1D5B9), (0x1D5D4, 0x1D5ED),
    (0x1D608, 0x1D621), (0x1D63C, 0x1D655), (0x1D670, 0x1D689), (0x1D6A8, 0x1D6C0),
    (0x1D6E2, 0x1D6FA), (0x1D71C, 0x1D734), (0x1D756, 0x1D76E), (0x1D790, 0x1D7A8),
    (0x1D7CA, 0x1D7CA)]

/-- Code points that change in lower case. -/
def changesWhenLowercased : Ranges :=
  ((uppercaseLetters.union titlecaseLetters).union changesWhenLowercasedExtras)
    |>.diff changesWhenLowercasedExceptions

/-- Further code points with the property Changes_When_Uppercased. -/
def changesWhenUppercasedExtras : Ranges :=
  [(0x01C5, 0x01C5), (0x01C8, 0x01C8), (0x01CB, 0x01CB), (0x01F2, 0x01F2),
    (0x0345, 0x0345), (0x1F88, 0x1F8F), (0x1F98, 0x1F9F), (0x1FA8, 0x1FAF),
    (0x1FBC, 0x1FBC), (0x1FCC, 0x1FCC), (0x1FFC, 0x1FFC), (0x2170, 0x217F),
    (0x24D0, 0x24E9)]

/-- Code points without the property Changes_When_Uppercased. -/
def changesWhenUppercasedExceptions : Ranges :=
  [(0x0138, 0x0138), (0x018D, 0x018D), (0x01AA, 0x01AB), (0x01BA, 0x01BA),
    (0x01BE, 0x01BE), (0x0221, 0x0221), (0x0234, 0x0239), (0x0255, 0x0255),
    (0x0258, 0x0258), (0x025A, 0x025A), (0x025D, 0x025F), (0x0262, 0x0262),
    (0x0267, 0x0267), (0x026D, 0x026E), (0x0270, 0x0270), (0x0273, 0x0274),
    (0x0276, 0x027C), (0x027E, 0x027F), (0x0281, 0x0281), (0x0284, 0x0286),
    (0x028D, 0x0291), (0x0293, 0x0293), (0x0295, 0x029C), (0x029F, 0x02AF),
    (0x03FC, 0x03FC), (0x0560, 0x0560), (0x0588, 0x0588), (0x1D00, 0x1D2B),
    (0x1D6B, 0x1D77), (0x1D7A, 0x1D7C), (0x1D7E, 0x1D8D), (0x1D8F, 0x1D9A),
    (0x1E9C, 0x1E9D), (0x1E9F, 0x1E9F), (0x210A, 0x210A), (0x210E, 0x210F),
    (0x2113, 0x2113), (0x212F, 0x212F), (0x2134, 0x2134), (0x2139, 0x2139),
    (0x213C, 0x213D), (0x2146, 0x2149), (0x2C71, 0x2C71), (0x2C74, 0x2C74),
    (0x2C77, 0x2C7B), (0x2CE4, 0x2CE4), (0xA730, 0xA731), (0xA771, 0xA778),
    (0xA78E, 0xA78E), (0xA795, 0xA795), (0xA7AF, 0xA7AF), (0xA7D3, 0xA7D3),
    (0xA7D5, 0xA7D5), (0xA7FA, 0xA7FA), (0xAB30, 0xAB52), (0xAB54, 0xAB5A),
    (0xAB60, 0xAB68), (0x1D41A, 0x1D433), (0x1D44E, 0x1D454), (0x1D456, 0x1D467),
    (0x1D482, 0x1D49B), (0x1D4B6, 0x1D4B9), (0x1D4BB, 0x1D4BB), (0x1D4BD, 0x1D4C3),
    (0x1D4C5, 0x1D4CF), (0x1D4EA, 0x1D503), (0x1D51E, 0x1D537), (0x1D552, 0x1D56B),
    (0x1D586, 0x1D59F), (0x1D5BA, 0x1D5D3), (0x1D5EE, 0x1D607), (0x1D622, 0x1D63B),
    (0x1D656, 0x1D66F), (0x1D68A, 0x1D6A5), (0x1D6C2, 0x1D6DA), (0x1D6DC, 0x1D6E1),
    (0x1D6FC, 0x1D714), (0x1D716, 0x1D71B), (0x1D736, 0x1D74E), (0x1D750, 0x1D755),
    (0x1D770, 0x1D788), (0x1D78A, 0x1D78F), (0x1D7AA, 0x1D7C2), (0x1D7C4, 0x1D7C9),
    (0x1D7CB, 0x1D7CB), (0x1DF00, 0x1DF09), (0x1DF0B, 0x1DF1E), (0x1DF25, 0x1DF2A)]

/-- Code points that change in upper case. -/
def changesWhenUppercased : Ranges :=
  (lowercaseLetters.union changesWhenUppercasedExtras).diff changesWhenUppercasedExceptions

/-- Further code points with the property Changes_When_Titlecased. -/
def changesWhenTitlecasedExtras : Ranges :=
  [(0x01C4, 0x01C4), (0x01C7, 0x01C7), (0x01CA, 0x01CA), (0x01F1, 0x01F1)]

/-- Code points without the property Changes_When_Titlecased. -/
def changesWhenTitlecasedExceptions : Ranges :=
  [(0x01C5, 0x01C5), (0x01C8, 0x01C8), (0x01CB, 0x01CB), (0x01F2, 0x01F2),
    (0x10D0, 0x10FA), (0x10FD, 0x10FF), (0x1F88, 0x1F8F), (0x1F98, 0x1F9F),
    (0x1FA8, 0x1FAF), (0x1FBC, 0x1FBC), (0x1FCC, 0x1FCC), (0x1FFC, 0x1FFC)]

/-- Code points that change at the start of a title. -/
def changesWhenTitlecased : Ranges :=
  (changesWhenUppercased.union changesWhenTitlecasedExtras).diff changesWhenTitlecasedExceptions

/-- Code points that change in lower, upper or title case. -/
def changesWhenCasemapped : Ranges :=
  Ranges.unions [changesWhenLowercased, changesWhenUppercased, changesWhenTitlecased]

/-- Further code points with the property Changes_When_Casefolded. -/
def changesWhenCasefoldedExtras : Ranges :=
  [(0x00B5, 0x00B5), (0x00DF, 0x00DF), (0x0149, 0x0149), (0x017F, 0x017F),
    (0x0345, 0x0345), (0x03C2, 0x03C2), (0x03D0, 0x03D1), (0x03D5, 0x03D6),
    (0x03F0, 0x03F1), (0x03F5, 0x03F5), (0x0587, 0x0587), (0x13F8, 0x13FD),
    (0x1C80, 0x1C88), (0x1E9A, 0x1E9B), (0x1F80, 0x1F87), (0x1F90, 0x1F97),
    (0x1FA0, 0x1FA7), (0x1FB2, 0x1FB4), (0x1FB7, 0x1FB7), (0x1FC2, 0x1FC4),
    (0x1FC7, 0x1FC7), (0x1FF2, 0x1FF4), (0x1FF7, 0x1FF7), (0xAB70, 0xABBF),
    (0xFB00, 0xFB06), (0xFB13, 0xFB17)]

/-- Code points without the property Changes_When_Casefolded. -/
def changesWhenCasefoldedExceptions : Ranges :=
  [(0x13A0, 0x13F5)]

/-- Code points that change under full case folding. -/
def changesWhenCasefolded : Ranges :=
  (changesWhenLowercased.union changesWhenCasefoldedExtras).diff changesWhenCasefoldedExceptions

/-- Further code points with the property Math. -/
def mathExtras : Ranges :=
  [(0x005E, 0x005E), (0x03D0, 0x03D2), (0x03D5, 0x03D5), (0x03F0, 0x03F1),
    (0x03F4, 0x03F5), (0x2016, 0x2016), (0x2032, 0x2034), (0x2040, 0x2040),
    (0x2061, 0x2064), (0x207D, 0x207E), (0x208D, 0x208E), (0x20D0, 0x20DC),
    (0x20E1, 0x20E1), (0x20E5, 0x20E6), (0x20EB, 0x20EF), (0x2102, 0x2102),
    (0x2107, 0x2107), (0x210A, 0x2113), (0x2115, 0x2115), (0x2119, 0x211D),
    (0x2124, 0x2124), (0x2128, 0x2129), (0x212C, 0x212D), (0x212F, 0x2131),
    (0x2133, 0x2138), (0x213C, 0x213F), (0x2145, 0x2149), (0x2195, 0x2199),
    (0x219C, 0x219F), (0x21A1, 0x21A2), (0x21A4, 0x21A5), (0x21A7, 0x21A7),
    (0x21A9, 0x21AD), (0x21B0, 0x21B1), (0x21B6, 0x21B7), (0x21BC, 0x21CD),
    (0x21D0, 0x21D1), (0x21D3, 0x21D3), (0x21D5, 0x21DB), (0x21DD, 0x21DD),
    (0x21E4, 0x21E5), (0x2308, 0x230B), (0x23B4, 0x23B5), (0x23B7, 0x23B7),
    (0x23D0, 0x23D0), (0x23E2, 0x23E2), (0x25A0, 0x25A1), (0x25AE, 0x25B6),
    (0x25BC, 0x25C0), (0x25C6, 0x25C7), (0x25CA, 0x25CB), (0x25CF, 0x25D3),
    (0x25E2, 0x25E2), (0x25E4, 0x25E4), (0x25E7, 0x25EC), (0x2605, 0x2606),
    (0x2640, 0x2640), (0x2642, 0x2642), (0x2660, 0x2663), (0x266D, 0x266E),
    (0x27C5, 0x27C6), (0x27E6, 0x27EF), (0x2983, 0x2998), (0x29D8, 0x29DB),
    (0x29FC, 0x29FD), (0xFE61, 0xFE61), (0xFE63, 0xFE63), (0xFE68, 0xFE68),
    (0xFF3C, 0xFF3C), (0xFF3E, 0xFF3E), (0x1D400, 0x1D454), (0x1D456, 0x1D49C),
    (0x1D49E, 0x1D49F), (0x1D4A2, 0x1D4A2), (0x1D4A5, 0x1D4A6), (0x1D4A9, 0x1D4AC),
    (0x1D4AE, 0x1D4B9), (0x1D4BB, 0x1D4BB), (0x1D4BD, 0x1D4C3), (0x1D4C5, 0x1D505),
    (0x1D507, 0x1D50A), (0x1D50D, 0x1D514), (0x1D516, 0x1D51C), (0x1D51E, 0x1D539),
    (0x1D53B, 0x1D53E), (0x1D540, 0x1D544), (0x1D546, 0x1D546), (0x1D54A, 0x1D550),
    (0x1D552, 0x1D6A5), (0x1D6A8, 0x1D6C0), (0x1D6C2, 0x1D6DA), (0x1D6DC, 0x1D6FA),
    (0x1D6FC, 0x1D714), (0x1D716, 0x1D734), (0x1D736, 0x1D74E), (0x1D750, 0x1D76E),
    (0x1D770, 0x1D788), (0x1D78A, 0x1D7A8), (0x1D7AA, 0x1D7C2), (0x1D7C4, 0x1D7CB),
    (0x1D7CE, 0x1D7FF), (0x1EE00, 0x1EE03), (0x1EE05, 0x1EE1F), (0x1EE21, 0x1EE22),
    (0x1EE24, 0x1EE24), (0x1EE27, 0x1EE27), (0x1EE29, 0x1EE32), (0x1EE34, 0x1EE37),
    (0x1EE39, 0x1EE39), (0x1EE3B, 0x1EE3B), (0x1EE42, 0x1EE42), (0x1EE47, 0x1EE47),
    (0x1EE49, 0x1EE49), (0x1EE4B, 0x1EE4B), (0x1EE4D, 0x1EE4F), (0x1EE51, 0x1EE52),
    (0x1EE54, 0x1EE54), (0x1EE57, 0x1EE57), (0x1EE59, 0x1EE59), (0x1EE5B, 0x1EE5B),
    (0x1EE5D, 0x1EE5D), (0x1EE5F, 0x1EE5F), (0x1EE61, 0x1EE62), (0x1EE64, 0x1EE64),
    (0x1EE67, 0x1EE6A), (0x1EE6C, 0x1EE72), (0x1EE74, 0x1EE77), (0x1EE79, 0x1EE7C),
    (0x1EE7E, 0x1EE7E), (0x1EE80, 0x1EE89), (0x1EE8B, 0x1EE9B), (0x1EEA1, 0x1EEA3),
    (0x1EEA5, 0x1EEA9), (0x1EEAB, 0x1EEBB)]

/-- Mathematical code points. -/
def math : Ranges :=
  mathSymbols.union mathExtras

/-- Further code points with the property ID_Start. -/
def idStartExtras : Ranges :=
  [(0x1885, 0x1886), (0x2118, 0x2118), (0x212E, 0x212E), (0x309B, 0x309C)]

/-- Code points without the property ID_Start. -/
def idStartExceptions : Ranges :=
  [(0x2E2F, 0x2E2F)]

/-- Code points that may start an identifier. -/
def idStart : Ranges :=
  ((letters.union letterNumbers).union idStartExtras).diff idStartExceptions

/-- Further code points with the property ID_Continue. -/
def idContinueExtras : Ranges :=
  [(0x00B7, 0x00B7), (0x0387, 0x0387), (0x1369, 0x1371), (0x19DA, 0x19DA),
    (0x200C, 0x200D), (0x30FB, 0x30FB), (0xFF65, 0xFF65)]

/-- Code points that may continue an identifier. -/
def idContinue : Ranges :=
  (Ranges.unions [idStart, nonspacingMarks, spacingMarks, decimalDigits, connectorPunctuation])
    |>.union idContinueExtras

/-- Code points without the property XID_Start. -/
def xidStartExceptions : Ranges :=
  [(0x037A, 0x037A), (0x0E33, 0x0E33), (0x0EB3, 0x0EB3), (0x309B, 0x309C),
    (0xFC5E, 0xFC63), (0xFDFA, 0xFDFB), (0xFE70, 0xFE70), (0xFE72, 0xFE72),
    (0xFE74, 0xFE74), (0xFE76, 0xFE76), (0xFE78, 0xFE78), (0xFE7A, 0xFE7A),
    (0xFE7C, 0xFE7C), (0xFE7E, 0xFE7E), (0xFF9E, 0xFF9F)]

/-- Code points that may start an identifier in every normal form. -/
def xidStart : Ranges :=
  idStart.diff xidStartExceptions

/-- Code points without the property XID_Continue. -/
def xidContinueExceptions : Ranges :=
  [(0x037A, 0x037A), (0x309B, 0x309C), (0xFC5E, 0xFC63), (0xFDFA, 0xFDFB),
    (0xFE70, 0xFE70), (0xFE72, 0xFE72), (0xFE74, 0xFE74), (0xFE76, 0xFE76),
    (0xFE78, 0xFE78), (0xFE7A, 0xFE7A), (0xFE7C, 0xFE7C), (0xFE7E, 0xFE7E)]

/-- Code points that may continue an identifier in every normal form. -/
def xidContinue : Ranges :=
  idContinue.diff xidContinueExceptions

/-- Further code points with the property Grapheme_Extend. -/
def graphemeExtendExtras : Ranges :=
  [(0x09BE, 0x09BE), (0x09D7, 0x09D7), (0x0B3E, 0x0B3E), (0x0B57, 0x0B57),
    (0x0BBE, 0x0BBE), (0x0BD7, 0x0BD7), (0x0CC0, 0x0CC0), (0x0CC2, 0x0CC2),
    (0x0CC7, 0x0CC8), (0x0CCA, 0x0CCB), (0x0CD5, 0x0CD6), (0x0D3E, 0x0D3E),
    (0x0D57, 0x0D57), (0x0DCF, 0x0DCF), (0x0DDF, 0x0DDF), (0x1715, 0x1715),
    (0x1734, 0x1734), (0x1B35, 0x1B35), (0x1B3B, 0x1B3B), (0x1B3D, 0x1B3D),
    (0x1B43, 0x1B44), (0x1BAA, 0x1BAA), (0x1BF2, 0x1BF3), (0x200C, 0x200C),
    (0x302E, 0x302F), (0xA953, 0xA953), (0xA9C0, 0xA9C0), (0xFF9E, 0xFF9F),
    (0x111C0, 0x111C0), (0x11235, 0x11235), (0x1133E, 0x1133E), (0x1134D, 0x1134D),
    (0x11357, 0x11357), (0x113B8, 0x113B8), (0x113C2, 0x113C2), (0x113C5, 0x113C5),
    (0x113C7, 0x113C9), (0x113CF, 0x113CF), (0x114B0, 0x114B0), (0x114BD, 0x114BD),
    (0x115AF, 0x115AF), (0x116B6, 0x116B6), (0x11930, 0x11930), (0x1193D, 0x1193D),
    (0x11F41, 0x11F41), (0x16FF0, 0x16FF1), (0x1D165, 0x1D166), (0x1D16D, 0x1D172),
    (0xE0020, 0xE007F)]

/-- Code points that extend the grapheme before them. -/
def graphemeExtend : Ranges :=
  (nonspacingMarks.union enclosingMarks).union graphemeExtendExtras


/-- Alphabetic code points that are neither letters nor letter numbers. -/
def alphabeticExtras : Ranges :=
  alphabetic.diff (letters.union letterNumbers)

/-- Code points that may start an identifier with a mathematical sign. -/
def idCompatMathStart : Ranges :=
  [(0x2202, 0x2202), (0x2207, 0x2207), (0x221E, 0x221E), (0x1D6C1, 0x1D6C1),
    (0x1D6DB, 0x1D6DB), (0x1D6FB, 0x1D6FB), (0x1D715, 0x1D715), (0x1D735, 0x1D735),
    (0x1D74F, 0x1D74F), (0x1D76F, 0x1D76F), (0x1D789, 0x1D789), (0x1D7A9, 0x1D7A9),
    (0x1D7C3, 0x1D7C3)]

/-- Code points that may continue an identifier with a mathematical sign. -/
def idCompatMathContinue : Ranges :=
  idCompatMathStart.union
    [(0x00B2, 0x00B3), (0x00B9, 0x00B9), (0x2070, 0x2070), (0x2074, 0x207E),
      (0x2080, 0x208E)]

end Property
end Text
end DocFilter
