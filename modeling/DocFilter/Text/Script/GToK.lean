import DocFilter.Text.Script.Basic

/-!
# Scripts from G to K

Their names and code points.
-/

namespace DocFilter
namespace Text

/-- The scripts whose names begin with G to K. -/
def scriptsGToK : List Script :=
  [⟨["gara", "garay"],
      [(0x10D40, 0x10D65), (0x10D69, 0x10D85), (0x10D8E, 0x10D8F)],
      [(0x060C, 0x060C), (0x061B, 0x061B), (0x061F, 0x061F)],
      []⟩,
    ⟨["geor", "georgian"],
      [(0x10A0, 0x10C5), (0x10C7, 0x10C7), (0x10CD, 0x10CD), (0x10D0, 0x10FA),
        (0x10FC, 0x10FF), (0x1C90, 0x1CBA), (0x1CBD, 0x1CBF), (0x2D00, 0x2D25),
        (0x2D27, 0x2D27), (0x2D2D, 0x2D2D)],
      [(0x00B7, 0x00B7), (0x0589, 0x0589), (0x10FB, 0x10FB), (0x205A, 0x205A),
        (0x2E31, 0x2E31)],
      []⟩,
    ⟨["glag", "glagolitic"],
      [(0x2C00, 0x2C5F), (0x1E000, 0x1E006), (0x1E008, 0x1E018), (0x1E01B, 0x1E021),
        (0x1E023, 0x1E024), (0x1E026, 0x1E02A)],
      [(0x00B7, 0x00B7), (0x0303, 0x0303), (0x0305, 0x0305), (0x0484, 0x0484),
        (0x0487, 0x0487), (0x0589, 0x0589), (0x10FB, 0x10FB), (0x205A, 0x205A),
        (0x2E43, 0x2E43), (0xA66F, 0xA66F)],
      []⟩,
    ⟨["goth", "gothic"],
      [(0x10330, 0x1034A)],
      [(0x00B7, 0x00B7), (0x0304, 0x0305), (0x0308, 0x0308), (0x0331, 0x0331)],
      []⟩,
    ⟨["gran", "grantha"],
      [(0x11300, 0x11303), (0x11305, 0x1130C), (0x1130F, 0x11310), (0x11313, 0x11328),
        (0x1132A, 0x11330), (0x11332, 0x11333), (0x11335, 0x11339), (0x1133C, 0x11344),
        (0x11347, 0x11348), (0x1134B, 0x1134D), (0x11350, 0x11350), (0x11357, 0x11357),
        (0x1135D, 0x11363), (0x11366, 0x1136C), (0x11370, 0x11374)],
      [(0x0951, 0x0952), (0x0964, 0x0965), (0x0BE6, 0x0BF3), (0x1CD0, 0x1CD0),
        (0x1CD2, 0x1CD3), (0x1CF2, 0x1CF4), (0x1CF8, 0x1CF9), (0x20F0, 0x20F0),
        (0x1133B, 0x1133B), (0x11FD0, 0x11FD1), (0x11FD3, 0x11FD3)],
      []⟩,
    ⟨["grek", "greek"],
      [(0x0370, 0x0373), (0x0375, 0x0377), (0x037A, 0x037D), (0x037F, 0x037F),
        (0x0384, 0x0384), (0x0386, 0x0386), (0x0388, 0x038A), (0x038C, 0x038C),
        (0x038E, 0x03A1), (0x03A3, 0x03E1), (0x03F0, 0x03FF), (0x1D26, 0x1D2A),
        (0x1D5D, 0x1D61), (0x1D66, 0x1D6A), (0x1DBF, 0x1DBF), (0x1F00, 0x1F15),
        (0x1F18, 0x1F1D), (0x1F20, 0x1F45), (0x1F48, 0x1F4D), (0x1F50, 0x1F57),
        (0x1F59, 0x1F59), (0x1F5B, 0x1F5B), (0x1F5D, 0x1F5D), (0x1F5F, 0x1F7D),
        (0x1F80, 0x1FB4), (0x1FB6, 0x1FC4), (0x1FC6, 0x1FD3), (0x1FD6, 0x1FDB),
        (0x1FDD, 0x1FEF), (0x1FF2, 0x1FF4), (0x1FF6, 0x1FFE), (0x2126, 0x2126),
        (0xAB65, 0xAB65), (0x10140, 0x1018E), (0x101A0, 0x101A0), (0x1D200, 0x1D245)],
      [(0x00B7, 0x00B7), (0x0300, 0x0301), (0x0304, 0x0304), (0x0306, 0x0306),
        (0x0308, 0x0308), (0x0313, 0x0313), (0x0342, 0x0342), (0x0345, 0x0345),
        (0x0374, 0x0374), (0x1DC0, 0x1DC1), (0x205D, 0x205D)],
      []⟩,
    ⟨["gujr", "gujarati"],
      [(0x0A81, 0x0A83), (0x0A85, 0x0A8D), (0x0A8F, 0x0A91), (0x0A93, 0x0AA8),
        (0x0AAA, 0x0AB0), (0x0AB2, 0x0AB3), (0x0AB5, 0x0AB9), (0x0ABC, 0x0AC5),
        (0x0AC7, 0x0AC9), (0x0ACB, 0x0ACD), (0x0AD0, 0x0AD0), (0x0AE0, 0x0AE3),
        (0x0AE6, 0x0AF1), (0x0AF9, 0x0AFF)],
      [(0x0951, 0x0952), (0x0964, 0x0965), (0xA830, 0xA839)],
      []⟩,
    ⟨["gong", "gunjalagondi"],
      [(0x11D60, 0x11D65), (0x11D67, 0x11D68), (0x11D6A, 0x11D8E), (0x11D90, 0x11D91),
        (0x11D93, 0x11D98), (0x11DA0, 0x11DA9)],
      [(0x00B7, 0x00B7), (0x0964, 0x0965)],
      []⟩,
    ⟨["guru", "gurmukhi"],
      [(0x0A01, 0x0A03), (0x0A05, 0x0A0A), (0x0A0F, 0x0A10), (0x0A13, 0x0A28),
        (0x0A2A, 0x0A30), (0x0A32, 0x0A33), (0x0A35, 0x0A36), (0x0A38, 0x0A39),
        (0x0A3C, 0x0A3C), (0x0A3E, 0x0A42), (0x0A47, 0x0A48), (0x0A4B, 0x0A4D),
        (0x0A51, 0x0A51), (0x0A59, 0x0A5C), (0x0A5E, 0x0A5E), (0x0A66, 0x0A76)],
      [(0x0951, 0x0952), (0x0964, 0x0965), (0xA830, 0xA839)],
      []⟩,
    ⟨["gukh", "gurungkhema"],
      [(0x16100, 0x16139)],
      [(0x0965, 0x0965)],
      []⟩,
    ⟨["hani", "han"],
      [(0x2E80, 0x2E99), (0x2E9B, 0x2EF3), (0x2F00, 0x2FD5), (0x3005, 0x3005),
        (0x3007, 0x3007), (0x3021, 0x3029), (0x3038, 0x303B), (0x3400, 0x4DBF),
        (0x4E00, 0x9FFF), (0xF900, 0xFA6D), (0xFA70, 0xFAD9), (0x16FE2, 0x16FE3),
        (0x16FF0, 0x16FF1), (0x20000, 0x2A6DF), (0x2A700, 0x2B739), (0x2B740, 0x2B81D),
        (0x2B820, 0x2CEA1), (0x2CEB0, 0x2EBE0), (0x2EBF0, 0x2EE5D), (0x2F800, 0x2FA1D),
        (0x30000, 0x3134A), (0x31350, 0x323AF)],
      [(0x00B7, 0x00B7), (0x2FF0, 0x2FFF), (0x3001, 0x3003), (0x3006, 0x3006),
        (0x3008, 0x3011), (0x3013, 0x301F), (0x302A, 0x302D), (0x3030, 0x3030),
        (0x3037, 0x3037), (0x303C, 0x303F), (0x30FB, 0x30FB), (0x3190, 0x319F),
        (0x31C0, 0x31E5), (0x31EF, 0x31EF), (0x3220, 0x3247), (0x3280, 0x32B0),
        (0x32C0, 0x32CB), (0x32FF, 0x32FF), (0x3358, 0x3370), (0x337B, 0x337F),
        (0x33E0, 0x33FE), (0xA700, 0xA707), (0xFE45, 0xFE46), (0xFF61, 0xFF65),
        (0x1D360, 0x1D371), (0x1F250, 0x1F251)],
      []⟩,
    ⟨["hang", "hangul"],
      [(0x1100, 0x11FF), (0x302E, 0x302F), (0x3131, 0x318E), (0x3200, 0x321E),
        (0x3260, 0x327E), (0xA960, 0xA97C), (0xAC00, 0xD7A3), (0xD7B0, 0xD7C6),
        (0xD7CB, 0xD7FB), (0xFFA0, 0xFFBE), (0xFFC2, 0xFFC7), (0xFFCA, 0xFFCF),
        (0xFFD2, 0xFFD7), (0xFFDA, 0xFFDC)],
      [(0x3001, 0x3003), (0x3008, 0x3011), (0x3013, 0x301F), (0x3030, 0x3030),
        (0x3037, 0x3037), (0x30FB, 0x30FB), (0xFE45, 0xFE46), (0xFF61, 0xFF65)],
      []⟩,
    ⟨["rohg", "hanifirohingya"],
      [(0x10D00, 0x10D27), (0x10D30, 0x10D39)],
      [(0x060C, 0x060C), (0x061B, 0x061B), (0x061F, 0x061F), (0x0640, 0x0640),
        (0x06D4, 0x06D4)],
      []⟩,
    ⟨["hano", "hanunoo"],
      [(0x1720, 0x1734)],
      [(0x1735, 0x1736)],
      []⟩,
    ⟨["hatr", "hatran"],
      [(0x108E0, 0x108F2), (0x108F4, 0x108F5), (0x108FB, 0x108FF)],
      [],
      []⟩,
    ⟨["hebr", "hebrew"],
      [(0x0591, 0x05C7), (0x05D0, 0x05EA), (0x05EF, 0x05F4), (0xFB1D, 0xFB36),
        (0xFB38, 0xFB3C), (0xFB3E, 0xFB3E), (0xFB40, 0xFB41), (0xFB43, 0xFB44),
        (0xFB46, 0xFB4F)],
      [(0x0307, 0x0308)],
      []⟩,
    ⟨["hira", "hiragana"],
      [(0x3041, 0x3096), (0x309D, 0x309F), (0x1B001, 0x1B11F), (0x1B132, 0x1B132),
        (0x1B150, 0x1B152), (0x1F200, 0x1F200)],
      [(0x3001, 0x3003), (0x3008, 0x3011), (0x3013, 0x301F), (0x3030, 0x3035),
        (0x3037, 0x3037), (0x303C, 0x303D), (0x3099, 0x309C), (0x30A0, 0x30A0),
        (0x30FB, 0x30FC), (0xFE45, 0xFE46), (0xFF61, 0xFF65), (0xFF70, 0xFF70),
        (0xFF9E, 0xFF9F)],
      []⟩,
    ⟨["armi", "imperialaramaic"],
      [(0x10840, 0x10855), (0x10857, 0x1085F)],
      [],
      []⟩,
    ⟨["zinh", "inherited", "qaai"],
      [(0x0300, 0x036F), (0x0485, 0x0486), (0x064B, 0x0655), (0x0670, 0x0670),
        (0x0951, 0x0954), (0x1AB0, 0x1ACE), (0x1CD0, 0x1CD2), (0x1CD4, 0x1CE0),
        (0x1CE2, 0x1CE8), (0x1CED, 0x1CED), (0x1CF4, 0x1CF4), (0x1CF8, 0x1CF9),
        (0x1DC0, 0x1DFF), (0x200C, 0x200D), (0x20D0, 0x20F0), (0x302A, 0x302D),
        (0x3099, 0x309A), (0xFE00, 0xFE0F), (0xFE20, 0xFE2D), (0x101FD, 0x101FD),
        (0x102E0, 0x102E0), (0x1133B, 0x1133B), (0x1CF00, 0x1CF2D), (0x1CF30, 0x1CF46),
        (0x1D167, 0x1D169), (0x1D17B, 0x1D182), (0x1D185, 0x1D18B), (0x1D1AA, 0x1D1AD),
        (0xE0100, 0xE01EF)],
      [],
      [(0x0300, 0x030E), (0x0310, 0x0311), (0x0313, 0x0313), (0x0320, 0x0320),
        (0x0323, 0x0325), (0x032D, 0x032E), (0x0330, 0x0331), (0x0342, 0x0342),
        (0x0345, 0x0345), (0x0358, 0x0358), (0x035E, 0x035E), (0x0363, 0x036F),
        (0x0485, 0x0486), (0x064B, 0x0655), (0x0670, 0x0670), (0x0951, 0x0952),
        (0x1CD0, 0x1CD2), (0x1CD4, 0x1CE0), (0x1CE2, 0x1CE8), (0x1CED, 0x1CED),
        (0x1CF4, 0x1CF4), (0x1CF8, 0x1CF9), (0x1DC0, 0x1DC1), (0x1DF8, 0x1DF8),
        (0x1DFA, 0x1DFA), (0x20F0, 0x20F0), (0x302A, 0x302D), (0x3099, 0x309A),
        (0x102E0, 0x102E0), (0x1133B, 0x1133B)]⟩,
    ⟨["phli", "inscriptionalpahlavi"],
      [(0x10B60, 0x10B72), (0x10B78, 0x10B7F)],
      [],
      []⟩,
    ⟨["prti", "inscriptionalparthian"],
      [(0x10B40, 0x10B55), (0x10B58, 0x10B5F)],
      [],
      []⟩,
    ⟨["java", "javanese"],
      [(0xA980, 0xA9CD), (0xA9D0, 0xA9D9), (0xA9DE, 0xA9DF)],
      [(0xA9CF, 0xA9CF)],
      []⟩,
    ⟨["kthi", "kaithi"],
      [(0x11080, 0x110C2), (0x110CD, 0x110CD)],
      [(0x0966, 0x096F), (0x2E31, 0x2E31), (0xA830, 0xA839)],
      []⟩,
    ⟨["knda", "kannada"],
      [(0x0C80, 0x0C8C), (0x0C8E, 0x0C90), (0x0C92, 0x0CA8), (0x0CAA, 0x0CB3),
        (0x0CB5, 0x0CB9), (0x0CBC, 0x0CC4), (0x0CC6, 0x0CC8), (0x0CCA, 0x0CCD),
        (0x0CD5, 0x0CD6), (0x0CDD, 0x0CDE), (0x0CE0, 0x0CE3), (0x0CE6, 0x0CEF),
        (0x0CF1, 0x0CF3)],
      [(0x0951, 0x0952), (0x0964, 0x0965), (0x1CD0, 0x1CD0), (0x1CD2, 0x1CD3),
        (0x1CDA, 0x1CDA), (0x1CF2, 0x1CF2), (0x1CF4, 0x1CF4), (0xA830, 0xA835)],
      []⟩,
    ⟨["kana", "katakana"],
      [(0x30A1, 0x30FA), (0x30FD, 0x30FF), (0x31F0, 0x31FF), (0x32D0, 0x32FE),
        (0x3300, 0x3357), (0xFF66, 0xFF6F), (0xFF71, 0xFF9D), (0x1AFF0, 0x1AFF3),
        (0x1AFF5, 0x1AFFB), (0x1AFFD, 0x1AFFE), (0x1B000, 0x1B000), (0x1B120, 0x1B122),
        (0x1B155, 0x1B155), (0x1B164, 0x1B167)],
      [(0x0305, 0x0305), (0x0323, 0x0323), (0x3001, 0x3003), (0x3008, 0x3011),
        (0x3013, 0x301F), (0x3030, 0x3035), (0x3037, 0x3037), (0x303C, 0x303D),
        (0x3099, 0x309C), (0x30A0, 0x30A0), (0x30FB, 0x30FC), (0xFE45, 0xFE46),
        (0xFF61, 0xFF65), (0xFF70, 0xFF70), (0xFF9E, 0xFF9F)],
      []⟩,
    ⟨["kawi"],
      [(0x11F00, 0x11F10), (0x11F12, 0x11F3A), (0x11F3E, 0x11F5A)],
      [],
      []⟩,
    ⟨["kali", "kayahli"],
      [(0xA900, 0xA92D), (0xA92F, 0xA92F)],
      [(0xA92E, 0xA92E)],
      []⟩,
    ⟨["khar", "kharoshthi"],
      [(0x10A00, 0x10A03), (0x10A05, 0x10A06), (0x10A0C, 0x10A13), (0x10A15, 0x10A17),
        (0x10A19, 0x10A35), (0x10A38, 0x10A3A), (0x10A3F, 0x10A48), (0x10A50, 0x10A58)],
      [],
      []⟩,
    ⟨["kits", "khitansmallscript"],
      [(0x16FE4, 0x16FE4), (0x18B00, 0x18CD5), (0x18CFF, 0x18CFF)],
      [],
      []⟩,
    ⟨["khmr", "khmer"],
      [(0x1780, 0x17DD), (0x17E0, 0x17E9), (0x17F0, 0x17F9), (0x19E0, 0x19FF)],
      [],
      []⟩,
    ⟨["khoj", "khojki"],
      [(0x11200, 0x11211), (0x11213, 0x11241)],
      [(0x0AE6, 0x0AEF), (0xA830, 0xA839)],
      []⟩,
    ⟨["sind", "khudawadi"],
      [(0x112B0, 0x112EA), (0x112F0, 0x112F9)],
      [(0x0964, 0x0965), (0xA830, 0xA839)],
      []⟩,
    ⟨["krai", "kiratrai"],
      [(0x16D40, 0x16D79)],
      [],
      []⟩]

end Text
end DocFilter
