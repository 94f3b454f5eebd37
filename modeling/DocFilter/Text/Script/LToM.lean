import DocFilter.Text.Script.Basic

/-!
# Scripts from L to M

Their names and code points.
-/

namespace DocFilter
namespace Text

/-- The scripts whose names begin with L to M. -/
def scriptsLToM : List Script :=
  [⟨["laoo", "lao"],
      [(0x0E81, 0x0E82), (0x0E84, 0x0E84), (0x0E86, 0x0E8A), (0x0E8C, 0x0EA3),
        (0x0EA5, 0x0EA5), (0x0EA7, 0x0EBD), (0x0EC0, 0x0EC4), (0x0EC6, 0x0EC6),
        (0x0EC8, 0x0ECE), (0x0ED0, 0x0ED9), (0x0EDC, 0x0EDF)],
      [],
      []⟩,
    ⟨["latn", "latin"],
      [(0x0041, 0x005A), (0x0061, 0x007A), (0x00AA, 0x00AA), (0x00BA, 0x00BA),
        (0x00C0, 0x00D6), (0x00D8, 0x00F6), (0x00F8, 0x02B8), (0x02E0, 0x02E4),
        (0x1D00, 0x1D25), (0x1D2C, 0x1D5C), (0x1D62, 0x1D65), (0x1D6B, 0x1D77),
        (0x1D79, 0x1DBE), (0x1E00, 0x1EFF), (0x2071, 0x2071), (0x207F, 0x207F),
        (0x2090, 0x209C), (0x212A, 0x212B), (0x2132, 0x2132), (0x214E, 0x214E),
        (0x2160, 0x2188), (0x2C60, 0x2C7F), (0xA722, 0xA787), (0xA78B, 0xA7CD),
        (0xA7D0, 0xA7D1), (0xA7D3, 0xA7D3), (0xA7D5, 0xA7DC), (0xA7F2, 0xA7FF),
        (0xAB30, 0xAB5A), (0xAB5C, 0xAB64), (0xAB66, 0xAB69), (0xFB00, 0xFB06),
        (0xFF21, 0xFF3A), (0xFF41, 0xFF5A), (0x10780, 0x10785), (0x10787, 0x107B0),
        (0x107B2, 0x107BA), (0x1DF00, 0x1DF1E), (0x1DF25, 0x1DF2A)],
      [(0x00B7, 0x00B7), (0x02BC, 0x02BC), (0x02C7, 0x02C7), (0x02C9, 0x02CB),
        (0x02CD, 0x02CD), (0x02D7, 0x02D7), (0x02D9, 0x02D9), (0x0300, 0x030E),
        (0x0310, 0x0311), (0x0313, 0x0313), (0x0320, 0x0320), (0x0323, 0x0325),
        (0x032D, 0x032E), (0x0330, 0x0331), (0x0358, 0x0358), (0x035E, 0x035E),
        (0x0363, 0x036F), (0x0485, 0x0486), (0x0951, 0x0952), (0x10FB, 0x10FB),
        (0x1DF8, 0x1DF8), (0x202F, 0x202F), (0x20F0, 0x20F0), (0x2E17, 0x2E17),
        (0xA700, 0xA707), (0xA92E, 0xA92E)],
      []⟩,
    ⟨["lepc", "lepcha"],
      [(0x1C00, 0x1C37), (0x1C3B, 0x1C49), (0x1C4D, 0x1C4F)],
      [],
      []⟩,
    ⟨["limb", "limbu"],
      [(0x1900, 0x191E), (0x1920, 0x192B), (0x1930, 0x193B), (0x1940, 0x1940),
        (0x1944, 0x194F)],
      [(0x0965, 0x0965)],
      []⟩,
    ⟨["lina", "lineara"],
      [(0x10600, 0x10736), (0x10740, 0x10755), (0x10760, 0x10767)],
      [(0x10107, 0x10133)],
      []⟩,
    ⟨["linb", "linearb"],
      [(0x10000, 0x1000B), (0x1000D, 0x10026), (0x10028, 0x1003A), (0x1003C, 0x1003D),
        (0x1003F, 0x1004D), (0x10050, 0x1005D), (0x10080, 0x100FA)],
      [(0x10100, 0x10102), (0x10107, 0x10133), (0x10137, 0x1013F)],
      []⟩,
    ⟨["lisu"],
      [(0xA4D0, 0xA4FF), (0x11FB0, 0x11FB0)],
      [(0x02BC, 0x02BC), (0x02CD, 0x02CD), (0x300A, 0x300B)],
      []⟩,
    ⟨["lyci", "lycian"],
      [(0x10280, 0x1029C)],
      [(0x205A, 0x205A)],
      []⟩,
    ⟨["lydi", "lydian"],
      [(0x10920, 0x10939), (0x1093F, 0x1093F)],
      [(0x00B7, 0x00B7), (0x2E31, 0x2E31)],
      []⟩,
    ⟨["mahj", "mahajani"],
      [(0x11150, 0x11176)],
      [(0x00B7, 0x00B7), (0x0964, 0x096F), (0xA830, 0xA839)],
      []⟩,
    ⟨["maka", "makasar"],
      [(0x11EE0, 0x11EF8)],
      [],
      []⟩,
    ⟨["mlym", "malayalam"],
      [(0x0D00, 0x0D0C), (0x0D0E, 0x0D10), (0x0D12, 0x0D44), (0x0D46, 0x0D48),
        (0x0D4A, 0x0D4F), (0x0D54, 0x0D63), (0x0D66, 0x0D7F)],
      [(0x0951, 0x0952), (0x0964, 0x0965), (0x1CDA, 0x1CDA), (0x1CF2, 0x1CF2),
        (0xA830, 0xA832)],
      []⟩,
    ⟨["mand", "mandaic"],
      [(0x0840, 0x085B), (0x085E, 0x085E)],
      [(0x0640, 0x0640)],
      []⟩,
    ⟨["mani", "manichaean"],
      [(0x10AC0, 0x10AE6), (0x10AEB, 0x10AF6)],
      [(0x0640, 0x0640)],
      []⟩,
    ⟨["marc", "marchen"],
      [(0x11C70, 0x11C8F), (0x11C92, 0x11CA7), (0x11CA9, 0x11CB6)],
      [],
      []⟩,
    ⟨["gonm", "masaramgondi"],
      [(0x11D00, 0x11D06), (0x11D08, 0x11D09), (0x11D0B, 0x11D36), (0x11D3A, 0x11D3A),
        (0x11D3C, 0x11D3D), (0x11D3F, 0x11D47), (0x11D50, 0x11D59)],
      [(0x0964, 0x0965)],
      []⟩,
    ⟨["medf", "medefaidrin"],
      [(0x16E40, 0x16E9A)],
      [],
      []⟩,
    ⟨["mtei", "meeteimayek"],
      [(0xAAE0, 0xAAF6), (0xABC0, 0xABED), (0xABF0, 0xABF9)],
      [],
      []⟩,
    ⟨["mend", "mendekikakui"],
      [(0x1E800, 0x1E8C4), (0x1E8C7, 0x1E8D6)],
      [],
      []⟩,
    ⟨["merc", "meroiticcursive"],
      [(0x109A0, 0x109B7), (0x109BC, 0x109CF), (0x109D2, 0x109FF)],
      [],
      []⟩,
    ⟨["mero", "meroitichieroglyphs"],
      [(0x10980, 0x1099F)],
      [(0x205D, 0x205D)],
      []⟩,
    ⟨["plrd", "miao"],
      [(0x16F00, 0x16F4A), (0x16F4F, 0x16F87), (0x16F8F, 0x16F9F)],
      [],
      []⟩,
    ⟨["modi"],
      [(0x11600, 0x11644), (0x11650, 0x11659)],
      [(0xA830, 0xA839)],
      []⟩,
    ⟨["mong", "mongolian"],
      [(0x1800, 0x1801), (0x1804, 0x1804), (0x1806, 0x1819), (0x1820, 0x1878),
        (0x1880, 0x18AA), (0x11660, 0x1166C)],
      [(0x1802, 0x1803), (0x1805, 0x1805), (0x202F, 0x202F), (0x3001, 0x3002),
        (0x3008, 0x300B)],
      []⟩,
    ⟨["mroo", "mro"],
      [(0x16A40, 0x16A5E), (0x16A60, 0x16A69), (0x16A6E, 0x16A6F)],
      [],
      []⟩,
    ⟨["mult", "multani"],
      [(0x11280, 0x11286), (0x11288, 0x11288), (0x1128A, 0x1128D), (0x1128F, 0x1129D),
        (0x1129F, 0x112A9)],
      [(0x0A66, 0x0A6F)],
      []⟩,
    ⟨["mymr", "myanmar"],
      [(0x1000, 0x109F), (0xA9E0, 0xA9FE), (0xAA60, 0xAA7F), (0x116D0, 0x116E3)],
      [(0xA92E, 0xA92E)],
      []⟩]

end Text
end DocFilter
