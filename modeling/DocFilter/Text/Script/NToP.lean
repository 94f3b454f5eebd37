import DocFilter.Text.Script.Basic

/-!
# Scripts from N to P

Their names and code points.
-/

namespace DocFilter
namespace Text

/-- The scripts whose names begin with N to P. -/
def scriptsNToP : List Script :=
  [⟨["nbat", "nabataean"],
      [(0x10880, 0x1089E), (0x108A7, 0x108AF)],
      [],
      []⟩,
    ⟨["nagm", "nagmundari"],
      [(0x1E4D0, 0x1E4F9)],
      [],
      []⟩,
    ⟨["nand", "nandinagari"],
      [(0x119A0, 0x119A7), (0x119AA, 0x119D7), (0x119DA, 0x119E4)],
      [(0x0964, 0x0965), (0x0CE6, 0x0CEF), (0x1CE9, 0x1CE9), (0x1CF2, 0x1CF2),
        (0x1CFA, 0x1CFA), (0xA830, 0xA835)],
      []⟩,
    ⟨["newa"],
      [(0x11400, 0x1145B), (0x1145D, 0x11461)],
      [],
      []⟩,
    ⟨["talu", "newtailue"],
      [(0x1980, 0x19AB), (0x19B0, 0x19C9), (0x19D0, 0x19DA), (0x19DE, 0x19DF)],
      [],
      []⟩,
    ⟨["nkoo", "nko"],
      [(0x07C0, 0x07FA), (0x07FD, 0x07FF)],
      [(0x060C, 0x060C), (0x061B, 0x061B), (0x061F, 0x061F), (0xFD3E, 0xFD3F)],
      []⟩,
    ⟨["nshu", "nushu"],
      [(0x16FE1, 0x16FE1), (0x1B170, 0x1B2FB)],
      [],
      []⟩,
    ⟨["hmnp", "nyiakengpuachuehmong"],
      [(0x1E100, 0x1E12C), (0x1E130, 0x1E13D), (0x1E140, 0x1E149), (0x1E14E, 0x1E14F)],
      [],
      []⟩,
    ⟨["ogam", "ogham"],
      [(0x1680, 0x169C)],
      [],
      []⟩,
    ⟨["olck", "olchiki"],
      [(0x1C50, 0x1C7F)],
      [],
      []⟩,
    ⟨["hung", "oldhungarian"],
      [(0x10C80, 0x10CB2), (0x10CC0, 0x10CF2), (0x10CFA, 0x10CFF)],
      [(0x205A, 0x205A), (0x205D, 0x205D), (0x2E31, 0x2E31), (0x2E41, 0x2E41)],
      []⟩,
    ⟨["ital", "olditalic"],
      [(0x10300, 0x10323), (0x1032D, 0x1032F)],
      [],
      []⟩,
    ⟨["narb", "oldnortharabian"],
      [(0x10A80, 0x10A9F)],
      [],
      []⟩,
    ⟨["perm", "oldpermic"],
      [(0x10350, 0x1037A)],
      [(0x00B7, 0x00B7), (0x0300, 0x0300), (0x0306, 0x0308), (0x0313, 0x0313),
        (0x0483, 0x0483)],
      []⟩,
    ⟨["xpeo", "oldpersian"],
      [(0x103A0, 0x103C3), (0x103C8, 0x103D5)],
      [],
      []⟩,
    ⟨["sogo", "oldsogdian"],
      [(0x10F00, 0x10F27)],
      [],
      []⟩,
    ⟨["sarb", "oldsoutharabian"],
      [(0x10A60, 0x10A7F)],
      [],
      []⟩,
    ⟨["orkh", "oldturkic"],
      [(0x10C00, 0x10C48)],
      [(0x205A, 0x205A), (0x2E30, 0x2E30)],
      []⟩,
    ⟨["ougr", "olduyghur"],
      [(0x10F70, 0x10F89)],
      [(0x0640, 0x0640), (0x10AF2, 0x10AF2)],
      []⟩,
    ⟨["onao", "olonal"],
      [(0x1E5D0, 0x1E5FA), (0x1E5FF, 0x1E5FF)],
      [(0x0964, 0x0965)],
      []⟩,
    ⟨["orya", "oriya"],
      [(0x0B01, 0x0B03), (0x0B05, 0x0B0C), (0x0B0F, 0x0B10), (0x0B13, 0x0B28),
        (0x0B2A, 0x0B30), (0x0B32, 0x0B33), (0x0B35, 0x0B39), (0x0B3C, 0x0B44),
        (0x0B47, 0x0B48), (0x0B4B, 0x0B4D), (0x0B55, 0x0B57), (0x0B5C, 0x0B5D),
        (0x0B5F, 0x0B63), (0x0B66, 0x0B77)],
      [(0x0951, 0x0952), (0x0964, 0x0965), (0x1CDA, 0x1CDA), (0x1CF2, 0x1CF2)],
      []⟩,
    ⟨["osge", "osage"],
      [(0x104B0, 0x104D3), (0x104D8, 0x104FB)],
      [(0x0301, 0x0301), (0x0304, 0x0304), (0x030B, 0x030B), (0x0358, 0x0358)],
      []⟩,
    ⟨["osma", "osmanya"],
      [(0x10480, 0x1049D), (0x104A0, 0x104A9)],
      [],
      []⟩,
    ⟨["hmng", "pahawhhmong"],
      [(0x16B00, 0x16B45), (0x16B50, 0x16B59), (0x16B5B, 0x16B61), (0x16B63, 0x16B77),
        (0x16B7D, 0x16B8F)],
      [],
      []⟩,
    ⟨["palm", "palmyrene"],
      [(0x10860, 0x1087F)],
      [],
      []⟩,
    ⟨["pauc", "paucinhau"],
      [(0x11AC0, 0x11AF8)],
      [],
      []⟩,
    ⟨["phag", "phagspa"],
      [(0xA840, 0xA877)],
      [(0x1802, 0x1803), (0x1805, 0x1805), (0x202F, 0x202F), (0x3002, 0x3002)],
      []⟩,
    ⟨["phnx", "phoenician"],
      [(0x10900, 0x1091B), (0x1091F, 0x1091F)],
      [],
      []⟩,
    ⟨["phlp", "psalterpahlavi"],
      [(0x10B80, 0x10B91), (0x10B99, 0x10B9C), (0x10BA9, 0x10BAF)],
      [(0x0640, 0x0640)],
      []⟩]

end Text
end DocFilter
