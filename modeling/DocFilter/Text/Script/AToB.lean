import DocFilter.Text.Script.Basic

/-!
# Scripts from A to B

Their names and code points.
-/

namespace DocFilter
namespace Text

/-- The scripts whose names begin with A to B. -/
def scriptsAToB : List Script :=
  [⟨["adlm", "adlam"],
      [(0x1E900, 0x1E94B), (0x1E950, 0x1E959), (0x1E95E, 0x1E95F)],
      [(0x061F, 0x061F), (0x0640, 0x0640), (0x204F, 0x204F), (0x2E41, 0x2E41)],
      []⟩,
    ⟨["ahom"],
      [(0x11700, 0x1171A), (0x1171D, 0x1172B), (0x11730, 0x11746)],
      [],
      []⟩,
    ⟨["hluw", "anatolianhieroglyphs"],
      [(0x14400, 0x14646)],
      [],
      []⟩,
    ⟨["arab", "arabic"],
      [(0x0600, 0x0604), (0x0606, 0x060B), (0x060D, 0x061A), (0x061C, 0x061E),
        (0x0620, 0x063F), (0x0641, 0x064A), (0x0656, 0x066F), (0x0671, 0x06DC),
        (0x06DE, 0x06FF), (0x0750, 0x077F), (0x0870, 0x088E), (0x0890, 0x0891),
        (0x0897, 0x08E1), (0x08E3, 0x08FF), (0xFB50, 0xFBC2), (0xFBD3, 0xFD3D),
        (0xFD40, 0xFD8F), (0xFD92, 0xFDC7), (0xFDCF, 0xFDCF), (0xFDF0, 0xFDFF),
        (0xFE70, 0xFE74), (0xFE76, 0xFEFC), (0x10E60, 0x10E7E), (0x10EC2, 0x10EC4),
        (0x10EFC, 0x10EFF), (0x1EE00, 0x1EE03), (0x1EE05, 0x1EE1F), (0x1EE21, 0x1EE22),
        (0x1EE24, 0x1EE24), (0x1EE27, 0x1EE27), (0x1EE29, 0x1EE32), (0x1EE34, 0x1EE37),
        (0x1EE39, 0x1EE39), (0x1EE3B, 0x1EE3B), (0x1EE42, 0x1EE42), (0x1EE47, 0x1EE47),
        (0x1EE49, 0x1EE49), (0x1EE4B, 0x1EE4B), (0x1EE4D, 0x1EE4F), (0x1EE51, 0x1EE52),
        (0x1EE54, 0x1EE54), (0x1EE57, 0x1EE57), (0x1EE59, 0x1EE59), (0x1EE5B, 0x1EE5B),
        (0x1EE5D, 0x1EE5D), (0x1EE5F, 0x1EE5F), (0x1EE61, 0x1EE62), (0x1EE64, 0x1EE64),
        (0x1EE67, 0x1EE6A), (0x1EE6C, 0x1EE72), (0x1EE74, 0x1EE77), (0x1EE79, 0x1EE7C),
        (0x1EE7E, 0x1EE7E), (0x1EE80, 0x1EE89), (0x1EE8B, 0x1EE9B), (0x1EEA1, 0x1EEA3),
        (0x1EEA5, 0x1EEA9), (0x1EEAB, 0x1EEBB), (0x1EEF0, 0x1EEF1)],
      [(0x060C, 0x060C), (0x061B, 0x061B), (0x061F, 0x061F), (0x0640, 0x0640),
        (0x064B, 0x0655), (0x0670, 0x0670), (0x204F, 0x204F), (0x2E41, 0x2E41),
        (0xFD3E, 0xFD3F), (0x102E0, 0x102FB)],
      []⟩,
    ⟨["armn", "armenian"],
      [(0x0531, 0x0556), (0x0559, 0x058A), (0x058D, 0x058F), (0xFB13, 0xFB17)],
      [(0x0308, 0x0308)],
      []⟩,
    ⟨["avst", "avestan"],
      [(0x10B00, 0x10B35), (0x10B39, 0x10B3F)],
      [(0x00B7, 0x00B7), (0x2E30, 0x2E31)],
      []⟩,
    ⟨["bali", "balinese"],
      [(0x1B00, 0x1B4C), (0x1B4E, 0x1B7F)],
      [],
      []⟩,
    ⟨["bamu", "bamum"],
      [(0xA6A0, 0xA6F7), (0x16800, 0x16A38)],
      [],
      []⟩,
    ⟨["bass", "bassavah"],
      [(0x16AD0, 0x16AED), (0x16AF0, 0x16AF5)],
      [],
      []⟩,
    ⟨["batk", "batak"],
      [(0x1BC0, 0x1BF3), (0x1BFC, 0x1BFF)],
      [],
      []⟩,
    ⟨["beng", "bengali"],
      [(0x0980, 0x0983), (0x0985, 0x098C), (0x098F, 0x0990), (0x0993, 0x09A8),
        (0x09AA, 0x09B0), (0x09B2, 0x09B2), (0x09B6, 0x09B9), (0x09BC, 0x09C4),
        (0x09C7, 0x09C8), (0x09CB, 0x09CE), (0x09D7, 0x09D7), (0x09DC, 0x09DD),
        (0x09DF, 0x09E3), (0x09E6, 0x09FE)],
      [(0x02BC, 0x02BC), (0x0951, 0x0952), (0x0964, 0x0965), (0x1CD0, 0x1CD0),
        (0x1CD2, 0x1CD2), (0x1CD5, 0x1CD6), (0x1CD8, 0x1CD8), (0x1CE1, 0x1CE1),
        (0x1CEA, 0x1CEA), (0x1CED, 0x1CED), (0x1CF2, 0x1CF2), (0x1CF5, 0x1CF7),
        (0xA8F1, 0xA8F1)],
      []⟩,
    ⟨["bhks", "bhaiksuki"],
      [(0x11C00, 0x11C08), (0x11C0A, 0x11C36), (0x11C38, 0x11C45), (0x11C50, 0x11C6C)],
      [],
      []⟩,
    ⟨["bopo", "bopomofo"],
      [(0x02EA, 0x02EB), (0x3105, 0x312F), (0x31A0, 0x31BF)],
      [(0x02C7, 0x02C7), (0x02C9, 0x02CB), (0x02D9, 0x02D9), (0x3001, 0x3003),
        (0x3008, 0x3011), (0x3013, 0x301F), (0x302A, 0x302D), (0x3030, 0x3030),
        (0x3037, 0x3037), (0x30FB, 0x30FB), (0xFE45, 0xFE46), (0xFF61, 0xFF65)],
      []⟩,
    ⟨["brah", "brahmi"],
      [(0x11000, 0x1104D), (0x11052, 0x11075), (0x1107F, 0x1107F)],
      [],
      []⟩,
    ⟨["brai", "braille"],
      [(0x2800, 0x28FF)],
      [],
      []⟩,
    ⟨["bugi", "buginese"],
      [(0x1A00, 0x1A1B), (0x1A1E, 0x1A1F)],
      [(0xA9CF, 0xA9CF)],
      []⟩,
    ⟨["buhd", "buhid"],
      [(0x1740, 0x1753)],
      [(0x1735, 0x1736)],
      []⟩]

end Text
end DocFilter
