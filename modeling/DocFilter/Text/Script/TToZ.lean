import DocFilter.Text.Script.Basic

/-!
# Scripts from T to Z

Their names and code points.
-/

namespace DocFilter
namespace Text

/-- The scripts whose names begin with T to Z. -/
def scriptsTToZ : List Script :=
  [⟨["tglg", "tagalog"],
      [(0x1700, 0x1715), (0x171F, 0x171F)],
      [(0x1735, 0x1736)],
      []⟩,
    ⟨["tagb", "tagbanwa"],
      [(0x1760, 0x176C), (0x176E, 0x1770), (0x1772, 0x1773)],
      [(0x1735, 0x1736)],
      []⟩,
    ⟨["tale", "taile"],
      [(0x1950, 0x196D), (0x1970, 0x1974)],
      [(0x0300, 0x0301), (0x0307, 0x0308), (0x030C, 0x030C), (0x1040, 0x1049)],
      []⟩,
    ⟨["lana", "taitham"],
      [(0x1A20, 0x1A5E), (0x1A60, 0x1A7C), (0x1A7F, 0x1A89), (0x1A90, 0x1A99),
        (0x1AA0, 0x1AAD)],
      [],
      []⟩,
    ⟨["tavt", "taiviet"],
      [(0xAA80, 0xAAC2), (0xAADB, 0xAADF)],
      [],
      []⟩,
    ⟨["takr", "takri"],
      [(0x11680, 0x116B9), (0x116C0, 0x116C9)],
      [(0x0964, 0x0965), (0xA830, 0xA839)],
      []⟩,
    ⟨["taml", "tamil"],
      [(0x0B82, 0x0B83), (0x0B85, 0x0B8A), (0x0B8E, 0x0B90), (0x0B92, 0x0B95),
        (0x0B99, 0x0B9A), (0x0B9C, 0x0B9C), (0x0B9E, 0x0B9F), (0x0BA3, 0x0BA4),
        (0x0BA8, 0x0BAA), (0x0BAE, 0x0BB9), (0x0BBE, 0x0BC2), (0x0BC6, 0x0BC8),
        (0x0BCA, 0x0BCD), (0x0BD0, 0x0BD0), (0x0BD7, 0x0BD7), (0x0BE6, 0x0BFA),
        (0x11FC0, 0x11FF1), (0x11FFF, 0x11FFF)],
      [(0x0951, 0x0952), (0x0964, 0x0965), (0x1CDA, 0x1CDA), (0xA8F3, 0xA8F3),
        (0x11301, 0x11301), (0x11303, 0x11303), (0x1133B, 0x1133C)],
      []⟩,
    ⟨["tnsa", "tangsa"],
      [(0x16A70, 0x16ABE), (0x16AC0, 0x16AC9)],
      [],
      []⟩,
    ⟨["tang", "tangut"],
      [(0x16FE0, 0x16FE0), (0x17000, 0x187F7), (0x18800, 0x18AFF), (0x18D00, 0x18D08)],
      [(0x2FF0, 0x2FFF), (0x31EF, 0x31EF)],
      []⟩,
    ⟨["telu", "telugu"],
      [(0x0C00, 0x0C0C), (0x0C0E, 0x0C10), (0x0C12, 0x0C28), (0x0C2A, 0x0C39),
        (0x0C3C, 0x0C44), (0x0C46, 0x0C48), (0x0C4A, 0x0C4D), (0x0C55, 0x0C56),
        (0x0C58, 0x0C5A), (0x0C5D, 0x0C5D), (0x0C60, 0x0C63), (0x0C66, 0x0C6F),
        (0x0C77, 0x0C7F)],
      [(0x0951, 0x0952), (0x0964, 0x0965), (0x1CDA, 0x1CDA), (0x1CF2, 0x1CF2)],
      []⟩,
    ⟨["thaa", "thaana"],
      [(0x0780, 0x07B1)],
      [(0x060C, 0x060C), (0x061B, 0x061C), (0x061F, 0x061F), (0x0660, 0x0669),
        (0xFDF2, 0xFDF2), (0xFDFD, 0xFDFD)],
      []⟩,
    ⟨["thai"],
      [(0x0E01, 0x0E3A), (0x0E40, 0x0E5B)],
      [(0x02BC, 0x02BC), (0x02D7, 0x02D7), (0x0303, 0x0303), (0x0331, 0x0331)],
      []⟩,
    ⟨["tibt", "tibetan"],
      [(0x0F00, 0x0F47), (0x0F49, 0x0F6C), (0x0F71, 0x0F97), (0x0F99, 0x0FBC),
        (0x0FBE, 0x0FCC), (0x0FCE, 0x0FD4), (0x0FD9, 0x0FDA)],
      [(0x3008, 0x300B)],
      []⟩,
    ⟨["tfng", "tifinagh"],
      [(0x2D30, 0x2D67), (0x2D6F, 0x2D70), (0x2D7F, 0x2D7F)],
      [(0x0302, 0x0302), (0x0304, 0x0304), (0x0307, 0x0307), (0x0309, 0x0309)],
      []⟩,
    ⟨["tirh", "tirhuta"],
      [(0x11480, 0x114C7), (0x114D0, 0x114D9)],
      [(0x0951, 0x0952), (0x0964, 0x0965), (0x1CF2, 0x1CF2), (0xA830, 0xA839)],
      []⟩,
    ⟨["todr", "todhri"],
      [(0x105C0, 0x105F3)],
      [(0x0301, 0x0301), (0x0304, 0x0304), (0x0307, 0x0307), (0x0311, 0x0311),
        (0x0313, 0x0313), (0x035E, 0x035E)],
      []⟩,
    ⟨["toto"],
      [(0x1E290, 0x1E2AE)],
      [(0x02BC, 0x02BC)],
      []⟩,
    ⟨["tutg", "tulutigalari"],
      [(0x11380, 0x11389), (0x1138B, 0x1138B), (0x1138E, 0x1138E), (0x11390, 0x113B5),
        (0x113B7, 0x113C0), (0x113C2, 0x113C2), (0x113C5, 0x113C5), (0x113C7, 0x113CA),
        (0x113CC, 0x113D5), (0x113D7, 0x113D8), (0x113E1, 0x113E2)],
      [(0x0CE6, 0x0CEF), (0x1CF2, 0x1CF2), (0x1CF4, 0x1CF4), (0xA830, 0xA835),
        (0xA8F1, 0xA8F1)],
      []⟩,
    ⟨["ugar", "ugaritic"],
      [(0x10380, 0x1039D), (0x1039F, 0x1039F)],
      [],
      []⟩,
    ⟨["vaii", "vai"],
      [(0xA500, 0xA62B)],
      [],
      []⟩,
    ⟨["vith", "vithkuqi"],
      [(0x10570, 0x1057A), (0x1057C, 0x1058A), (0x1058C, 0x10592), (0x10594, 0x10595),
        (0x10597, 0x105A1), (0x105A3, 0x105B1), (0x105B3, 0x105B9), (0x105BB, 0x105BC)],
      [],
      []⟩,
    ⟨["wcho", "wancho"],
      [(0x1E2C0, 0x1E2F9), (0x1E2FF, 0x1E2FF)],
      [],
      []⟩,
    ⟨["wara", "warangciti"],
      [(0x118A0, 0x118F2), (0x118FF, 0x118FF)],
      [],
      []⟩,
    ⟨["yezi", "yezidi"],
      [(0x10E80, 0x10EA9), (0x10EAB, 0x10EAD), (0x10EB0, 0x10EB1)],
      [(0x060C, 0x060C), (0x061B, 0x061B), (0x061F, 0x061F), (0x0660, 0x0669)],
      []⟩,
    ⟨["yiii", "yi"],
      [(0xA000, 0xA48C), (0xA490, 0xA4C6)],
      [(0x3001, 0x3002), (0x3008, 0x3011), (0x3014, 0x301B), (0x30FB, 0x30FB),
        (0xFF61, 0xFF65)],
      []⟩,
    ⟨["zanb", "zanabazarsquare"],
      [(0x11A00, 0x11A47)],
      [],
      []⟩]

end Text
end DocFilter
