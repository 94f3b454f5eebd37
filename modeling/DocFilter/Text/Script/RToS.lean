import DocFilter.Text.Script.Basic

/-!
# Scripts from R to S

Their names and code points.
-/

namespace DocFilter
namespace Text

/-- The scripts whose names begin with R to S. -/
def scriptsRToS : List Script :=
  [⟨["rjng", "rejang"],
      [(0xA930, 0xA953), (0xA95F, 0xA95F)],
      [],
      []⟩,
    ⟨["runr", "runic"],
      [(0x16A0, 0x16EA), (0x16EE, 0x16F8)],
      [(0x16EB, 0x16ED)],
      []⟩,
    ⟨["samr", "samaritan"],
      [(0x0800, 0x082D), (0x0830, 0x083E)],
      [(0x2E31, 0x2E31)],
      []⟩,
    ⟨["saur", "saurashtra"],
      [(0xA880, 0xA8C5), (0xA8CE, 0xA8D9)],
      [],
      []⟩,
    ⟨["shrd", "sharada"],
      [(0x11180, 0x111DF)],
      [(0x0951, 0x0951), (0x1CD7, 0x1CD7), (0x1CD9, 0x1CD9), (0x1CDC, 0x1CDD),
        (0x1CE0, 0x1CE0), (0xA830, 0xA835), (0xA838, 0xA838)],
      []⟩,
    ⟨["shaw", "shavian"],
      [(0x10450, 0x1047F)],
      [(0x00B7, 0x00B7)],
      []⟩,
    ⟨["sidd", "siddham"],
      [(0x11580, 0x115B5), (0x115B8, 0x115DD)],
      [],
      []⟩,
    ⟨["sgnw", "signwriting"],
      [(0x1D800, 0x1DA8B), (0x1DA9B, 0x1DA9F), (0x1DAA1, 0x1DAAF)],
      [],
      []⟩,
    ⟨["sinh", "sinhala"],
      [(0x0D81, 0x0D83), (0x0D85, 0x0D96), (0x0D9A, 0x0DB1), (0x0DB3, 0x0DBB),
        (0x0DBD, 0x0DBD), (0x0DC0, 0x0DC6), (0x0DCA, 0x0DCA), (0x0DCF, 0x0DD4),
        (0x0DD6, 0x0DD6), (0x0DD8, 0x0DDF), (0x0DE6, 0x0DEF), (0x0DF2, 0x0DF4),
        (0x111E1, 0x111F4)],
      [(0x0964, 0x0965), (0x1CF2, 0x1CF2)],
      []⟩,
    ⟨["sogd", "sogdian"],
      [(0x10F30, 0x10F59)],
      [(0x0640, 0x0640)],
      []⟩,
    ⟨["sora", "sorasompeng"],
      [(0x110D0, 0x110E8), (0x110F0, 0x110F9)],
      [],
      []⟩,
    ⟨["soyo", "soyombo"],
      [(0x11A50, 0x11AA2)],
      [],
      []⟩,
    ⟨["sund", "sundanese"],
      [(0x1B80, 0x1BBF), (0x1CC0, 0x1CC7)],
      [],
      []⟩,
    ⟨["sunu", "sunuwar"],
      [(0x11BC0, 0x11BE1), (0x11BF0, 0x11BF9)],
      [(0x0300, 0x0301), (0x0303, 0x0303), (0x030D, 0x030D), (0x0310, 0x0310),
        (0x032D, 0x032D), (0x0331, 0x0331)],
      []⟩,
    ⟨["sylo", "sylotinagri"],
      [(0xA800, 0xA82C)],
      [(0x0964, 0x0965), (0x09E6, 0x09EF)],
      []⟩,
    ⟨["syrc", "syriac"],
      [(0x0700, 0x070D), (0x070F, 0x074A), (0x074D, 0x074F), (0x0860, 0x086A)],
      [(0x0303, 0x0304), (0x0307, 0x0308), (0x030A, 0x030A), (0x0320, 0x0320),
        (0x0323, 0x0325), (0x032D, 0x032E), (0x0330, 0x0330), (0x060C, 0x060C),
        (0x061B, 0x061C), (0x061F, 0x061F), (0x0640, 0x0640), (0x064B, 0x0655),
        (0x0670, 0x0670), (0x1DF8, 0x1DF8), (0x1DFA, 0x1DFA)],
      []⟩]

end Text
end DocFilter
