import QueryText.Text.CodeSpan

/-!
# Full case mappings

The context-free part of the Unicode case mappings: one character may become up to three.
The one mapping that looks at its neighbours, that of the capital sigma, is in
`QueryText.Text.FinalSigma`.
-/

set_option autoImplicit false

namespace QueryText.Text

/-- A span of characters mapped to the characters as far from `target` as they are from the
start of the span. -/
structure CaseRun where
  source : CodeSpan
  target : Nat

def upperRuns : List CaseRun :=
  [⟨⟨0x61, 0x7A, 1⟩, 0x41⟩, ⟨⟨0xB5, 0xB5, 1⟩, 0x39C⟩, ⟨⟨0xE0, 0xF6, 1⟩, 0xC0⟩,
   ⟨⟨0xF8, 0xFE, 1⟩, 0xD8⟩, ⟨⟨0xFF, 0xFF, 1⟩, 0x178⟩, ⟨⟨0x101, 0x12F, 2⟩, 0x100⟩,
   ⟨⟨0x131, 0x131, 1⟩, 0x49⟩, ⟨⟨0x133, 0x137, 2⟩, 0x132⟩, ⟨⟨0x13A, 0x148, 2⟩, 0x139⟩,
   ⟨⟨0x14B, 0x177, 2⟩, 0x14A⟩, ⟨⟨0x17A, 0x17E, 2⟩, 0x179⟩, ⟨⟨0x17F, 0x17F, 1⟩, 0x53⟩,
   ⟨⟨0x180, 0x180, 1⟩, 0x243⟩, ⟨⟨0x183, 0x185, 2⟩, 0x182⟩, ⟨⟨0x188, 0x188, 1⟩, 0x187⟩,
   ⟨⟨0x18C, 0x18C, 1⟩, 0x18B⟩, ⟨⟨0x192, 0x192, 1⟩, 0x191⟩, ⟨⟨0x195, 0x195, 1⟩, 0x1F6⟩,
   ⟨⟨0x199, 0x199, 1⟩, 0x198⟩, ⟨⟨0x19A, 0x19A, 1⟩, 0x23D⟩, ⟨⟨0x19B, 0x19B, 1⟩, 0xA7DC⟩,
   ⟨⟨0x19E, 0x19E, 1⟩, 0x220⟩, ⟨⟨0x1A1, 0x1A5, 2⟩, 0x1A0⟩, ⟨⟨0x1A8, 0x1A8, 1⟩, 0x1A7⟩,
   ⟨⟨0x1AD, 0x1AD, 1⟩, 0x1AC⟩, ⟨⟨0x1B0, 0x1B0, 1⟩, 0x1AF⟩, ⟨⟨0x1B4, 0x1B6, 2⟩, 0x1B3⟩,
   ⟨⟨0x1B9, 0x1B9, 1⟩, 0x1B8⟩, ⟨⟨0x1BD, 0x1BD, 1⟩, 0x1BC⟩, ⟨⟨0x1BF, 0x1BF, 1⟩, 0x1F7⟩,
   ⟨⟨0x1C5, 0x1C5, 1⟩, 0x1C4⟩, ⟨⟨0x1C6, 0x1C6, 1⟩, 0x1C4⟩, ⟨⟨0x1C8, 0x1C8, 1⟩, 0x1C7⟩,
   ⟨⟨0x1C9, 0x1C9, 1⟩, 0x1C7⟩, ⟨⟨0x1CB, 0x1CB, 1⟩, 0x1CA⟩, ⟨⟨0x1CC, 0x1CC, 1⟩, 0x1CA⟩,
   ⟨⟨0x1CE, 0x1DC, 2⟩, 0x1CD⟩, ⟨⟨0x1DD, 0x1DD, 1⟩, 0x18E⟩, ⟨⟨0x1DF, 0x1EF, 2⟩, 0x1DE⟩,
   ⟨⟨0x1F2, 0x1F2, 1⟩, 0x1F1⟩, ⟨⟨0x1F3, 0x1F3, 1⟩, 0x1F1⟩, ⟨⟨0x1F5, 0x1F5, 1⟩, 0x1F4⟩,
   ⟨⟨0x1F9, 0x21F, 2⟩, 0x1F8⟩, ⟨⟨0x223, 0x233, 2⟩, 0x222⟩, ⟨⟨0x23C, 0x23C, 1⟩, 0x23B⟩,
   ⟨⟨0x23F, 0x240, 1⟩, 0x2C7E⟩, ⟨⟨0x242, 0x242, 1⟩, 0x241⟩, ⟨⟨0x247, 0x24F, 2⟩, 0x246⟩,
   ⟨⟨0x250, 0x250, 1⟩, 0x2C6F⟩, ⟨⟨0x251, 0x251, 1⟩, 0x2C6D⟩, ⟨⟨0x252, 0x252, 1⟩, 0x2C70⟩,
   ⟨⟨0x253, 0x253, 1⟩, 0x181⟩, ⟨⟨0x254, 0x254, 1⟩, 0x186⟩, ⟨⟨0x256, 0x257, 1⟩, 0x189⟩,
   ⟨⟨0x259, 0x259, 1⟩, 0x18F⟩, ⟨⟨0x25B, 0x25B, 1⟩, 0x190⟩, ⟨⟨0x25C, 0x25C, 1⟩, 0xA7AB⟩,
   ⟨⟨0x260, 0x260, 1⟩, 0x193⟩, ⟨⟨0x261, 0x261, 1⟩, 0xA7AC⟩, ⟨⟨0x263, 0x263, 1⟩, 0x194⟩,
   ⟨⟨0x264, 0x264, 1⟩, 0xA7CB⟩, ⟨⟨0x265, 0x265, 1⟩, 0xA78D⟩, ⟨⟨0x266, 0x266, 1⟩, 0xA7AA⟩,
   ⟨⟨0x268, 0x268, 1⟩, 0x197⟩, ⟨⟨0x269, 0x269, 1⟩, 0x196⟩, ⟨⟨0x26A, 0x26A, 1⟩, 0xA7AE⟩,
   ⟨⟨0x26B, 0x26B, 1⟩, 0x2C62⟩, ⟨⟨0x26C, 0x26C, 1⟩, 0xA7AD⟩, ⟨⟨0x26F, 0x26F, 1⟩, 0x19C⟩,
   ⟨⟨0x271, 0x271, 1⟩, 0x2C6E⟩, ⟨⟨0x272, 0x272, 1⟩, 0x19D⟩, ⟨⟨0x275, 0x275, 1⟩, 0x19F⟩,
   ⟨⟨0x27D, 0x27D, 1⟩, 0x2C64⟩, ⟨⟨0x280, 0x280, 1⟩, 0x1A6⟩, ⟨⟨0x282, 0x282, 1⟩, 0xA7C5⟩,
   ⟨⟨0x283, 0x283, 1⟩, 0x1A9⟩, ⟨⟨0x287, 0x287, 1⟩, 0xA7B1⟩, ⟨⟨0x288, 0x288, 1⟩, 0x1AE⟩,
   ⟨⟨0x289, 0x289, 1⟩, 0x244⟩, ⟨⟨0x28A, 0x28B, 1⟩, 0x1B1⟩, ⟨⟨0x28C, 0x28C, 1⟩, 0x245⟩,
   ⟨⟨0x292, 0x292, 1⟩, 0x1B7⟩, ⟨⟨0x29D, 0x29D, 1⟩, 0xA7B2⟩, ⟨⟨0x29E, 0x29E, 1⟩, 0xA7B0⟩,
   ⟨⟨0x345, 0x345, 1⟩, 0x399⟩, ⟨⟨0x371, 0x373, 2⟩, 0x370⟩, ⟨⟨0x377, 0x377, 1⟩, 0x376⟩,
   ⟨⟨0x37B, 0x37D, 1⟩, 0x3FD⟩, ⟨⟨0x3AC, 0x3AC, 1⟩, 0x386⟩, ⟨⟨0x3AD, 0x3AF, 1⟩, 0x388⟩,
   ⟨⟨0x3B1, 0x3C1, 1⟩, 0x391⟩, ⟨⟨0x3C2, 0x3C2, 1⟩, 0x3A3⟩, ⟨⟨0x3C3, 0x3CB, 1⟩, 0x3A3⟩,
   ⟨⟨0x3CC, 0x3CC, 1⟩, 0x38C⟩, ⟨⟨0x3CD, 0x3CE, 1⟩, 0x38E⟩, ⟨⟨0x3D0, 0x3D0, 1⟩, 0x392⟩,
   ⟨⟨0x3D1, 0x3D1, 1⟩, 0x398⟩, ⟨⟨0x3D5, 0x3D5, 1⟩, 0x3A6⟩, ⟨⟨0x3D6, 0x3D6, 1⟩, 0x3A0⟩,
   ⟨⟨0x3D7, 0x3D7, 1⟩, 0x3CF⟩, ⟨⟨0x3D9, 0x3EF, 2⟩, 0x3D8⟩, ⟨⟨0x3F0, 0x3F0, 1⟩, 0x39A⟩,
   ⟨⟨0x3F1, 0x3F1, 1⟩, 0x3A1⟩, ⟨⟨0x3F2, 0x3F2, 1⟩, 0x3F9⟩, ⟨⟨0x3F3, 0x3F3, 1⟩, 0x37F⟩,
   ⟨⟨0x3F5, 0x3F5, 1⟩, 0x395⟩, ⟨⟨0x3F8, 0x3F8, 1⟩, 0x3F7⟩, ⟨⟨0x3FB, 0x3FB, 1⟩, 0x3FA⟩,
   ⟨⟨0x430, 0x44F, 1⟩, 0x410⟩, ⟨⟨0x450, 0x45F, 1⟩, 0x400⟩, ⟨⟨0x461, 0x481, 2⟩, 0x460⟩,
   ⟨⟨0x48B, 0x4BF, 2⟩, 0x48A⟩, ⟨⟨0x4C2, 0x4CE, 2⟩, 0x4C1⟩, ⟨⟨0x4CF, 0x4CF, 1⟩, 0x4C0⟩,
   ⟨⟨0x4D1, 0x52F, 2⟩, 0x4D0⟩, ⟨⟨0x561, 0x586, 1⟩, 0x531⟩, ⟨⟨0x10D0, 0x10FA, 1⟩, 0x1C90⟩,
   ⟨⟨0x10FD, 0x10FF, 1⟩, 0x1CBD⟩, ⟨⟨0x13F8, 0x13FD, 1⟩, 0x13F0⟩, ⟨⟨0x1C80, 0x1C80, 1⟩, 0x412⟩,
   ⟨⟨0x1C81, 0x1C81, 1⟩, 0x414⟩, ⟨⟨0x1C82, 0x1C82, 1⟩, 0x41E⟩, ⟨⟨0x1C83, 0x1C84, 1⟩, 0x421⟩,
   ⟨⟨0x1C85, 0x1C85, 1⟩, 0x422⟩, ⟨⟨0x1C86, 0x1C86, 1⟩, 0x42A⟩, ⟨⟨0x1C87, 0x1C87, 1⟩, 0x462⟩,
   ⟨⟨0x1C88, 0x1C88, 1⟩, 0xA64A⟩, ⟨⟨0x1C8A, 0x1C8A, 1⟩, 0x1C89⟩, ⟨⟨0x1D79, 0x1D79, 1⟩, 0xA77D⟩,
   ⟨⟨0x1D7D, 0x1D7D, 1⟩, 0x2C63⟩, ⟨⟨0x1D8E, 0x1D8E, 1⟩, 0xA7C6⟩, ⟨⟨0x1E01, 0x1E95, 2⟩, 0x1E00⟩,
   ⟨⟨0x1E9B, 0x1E9B, 1⟩, 0x1E60⟩, ⟨⟨0x1EA1, 0x1EFF, 2⟩, 0x1EA0⟩, ⟨⟨0x1F00, 0x1F07, 1⟩, 0x1F08⟩,
   ⟨⟨0x1F10, 0x1F15, 1⟩, 0x1F18⟩, ⟨⟨0x1F20, 0x1F27, 1⟩, 0x1F28⟩, ⟨⟨0x1F30, 0x1F37, 1⟩, 0x1F38⟩,
   ⟨⟨0x1F40, 0x1F45, 1⟩, 0x1F48⟩, ⟨⟨0x1F51, 0x1F57, 2⟩, 0x1F59⟩, ⟨⟨0x1F60, 0x1F67, 1⟩, 0x1F68⟩,
   ⟨⟨0x1F70, 0x1F71, 1⟩, 0x1FBA⟩, ⟨⟨0x1F72, 0x1F75, 1⟩, 0x1FC8⟩, ⟨⟨0x1F76, 0x1F77, 1⟩, 0x1FDA⟩,
   ⟨⟨0x1F78, 0x1F79, 1⟩, 0x1FF8⟩, ⟨⟨0x1F7A, 0x1F7B, 1⟩, 0x1FEA⟩, ⟨⟨0x1F7C, 0x1F7D, 1⟩, 0x1FFA⟩,
   ⟨⟨0x1FB0, 0x1FB1, 1⟩, 0x1FB8⟩, ⟨⟨0x1FBE, 0x1FBE, 1⟩, 0x399⟩, ⟨⟨0x1FD0, 0x1FD1, 1⟩, 0x1FD8⟩,
   ⟨⟨0x1FE0, 0x1FE1, 1⟩, 0x1FE8⟩, ⟨⟨0x1FE5, 0x1FE5, 1⟩, 0x1FEC⟩, ⟨⟨0x214E, 0x214E, 1⟩, 0x2132⟩,
   ⟨⟨0x2170, 0x217F, 1⟩, 0x2160⟩, ⟨⟨0x2184, 0x2184, 1⟩, 0x2183⟩, ⟨⟨0x24D0, 0x24E9, 1⟩, 0x24B6⟩,
   ⟨⟨0x2C30, 0x2C5F, 1⟩, 0x2C00⟩, ⟨⟨0x2C61, 0x2C61, 1⟩, 0x2C60⟩, ⟨⟨0x2C65, 0x2C65, 1⟩, 0x23A⟩,
   ⟨⟨0x2C66, 0x2C66, 1⟩, 0x23E⟩, ⟨⟨0x2C68, 0x2C6C, 2⟩, 0x2C67⟩, ⟨⟨0x2C73, 0x2C73, 1⟩, 0x2C72⟩,
   ⟨⟨0x2C76, 0x2C76, 1⟩, 0x2C75⟩, ⟨⟨0x2C81, 0x2CE3, 2⟩, 0x2C80⟩, ⟨⟨0x2CEC, 0x2CEE, 2⟩, 0x2CEB⟩,
   ⟨⟨0x2CF3, 0x2CF3, 1⟩, 0x2CF2⟩, ⟨⟨0x2D00, 0x2D25, 1⟩, 0x10A0⟩, ⟨⟨0x2D27, 0x2D27, 1⟩, 0x10C7⟩,
   ⟨⟨0x2D2D, 0x2D2D, 1⟩, 0x10CD⟩, ⟨⟨0xA641, 0xA66D, 2⟩, 0xA640⟩, ⟨⟨0xA681, 0xA69B, 2⟩, 0xA680⟩,
   ⟨⟨0xA723, 0xA72F, 2⟩, 0xA722⟩, ⟨⟨0xA733, 0xA76F, 2⟩, 0xA732⟩, ⟨⟨0xA77A, 0xA77C, 2⟩, 0xA779⟩,
   ⟨⟨0xA77F, 0xA787, 2⟩, 0xA77E⟩, ⟨⟨0xA78C, 0xA78C, 1⟩, 0xA78B⟩, ⟨⟨0xA791, 0xA793, 2⟩, 0xA790⟩,
   ⟨⟨0xA794, 0xA794, 1⟩, 0xA7C4⟩, ⟨⟨0xA797, 0xA7A9, 2⟩, 0xA796⟩, ⟨⟨0xA7B5, 0xA7C3, 2⟩, 0xA7B4⟩,
   ⟨⟨0xA7C8, 0xA7CA, 2⟩, 0xA7C7⟩, ⟨⟨0xA7CD, 0xA7DB, 2⟩, 0xA7CC⟩, ⟨⟨0xA7F6, 0xA7F6, 1⟩, 0xA7F5⟩,
   ⟨⟨0xAB53, 0xAB53, 1⟩, 0xA7B3⟩, ⟨⟨0xAB70, 0xABBF, 1⟩, 0x13A0⟩, ⟨⟨0xFF41, 0xFF5A, 1⟩, 0xFF21⟩,
   ⟨⟨0x10428, 0x1044F, 1⟩, 0x10400⟩, ⟨⟨0x104D8, 0x104FB, 1⟩, 0x104B0⟩,
   ⟨⟨0x10597, 0x105A1, 1⟩, 0x10570⟩, ⟨⟨0x105A3, 0x105B1, 1⟩, 0x1057C⟩,
   ⟨⟨0x105B3, 0x105B9, 1⟩, 0x1058C⟩, ⟨⟨0x105BB, 0x105BC, 1⟩, 0x10594⟩,
   ⟨⟨0x10CC0, 0x10CF2, 1⟩, 0x10C80⟩, ⟨⟨0x10D70, 0x10D85, 1⟩, 0x10D50⟩,
   ⟨⟨0x118C0, 0x118DF, 1⟩, 0x118A0⟩, ⟨⟨0x16E60, 0x16E7F, 1⟩, 0x16E40⟩,
   ⟨⟨0x16EBB, 0x16ED3, 1⟩, 0x16EA0⟩, ⟨⟨0x1E922, 0x1E943, 1⟩, 0x1E900⟩]

def upperExpansions : List (Nat × List Nat) :=
  [(0xDF, [0x53, 0x53]), (0x149, [0x2BC, 0x4E]), (0x1F0, [0x4A, 0x30C]),
   (0x390, [0x399, 0x308, 0x301]), (0x3B0, [0x3A5, 0x308, 0x301]), (0x587, [0x535, 0x552]),
   (0x1E96, [0x48, 0x331]), (0x1E97, [0x54, 0x308]), (0x1E98, [0x57, 0x30A]),
   (0x1E99, [0x59, 0x30A]), (0x1E9A, [0x41, 0x2BE]), (0x1F50, [0x3A5, 0x313]),
   (0x1F52, [0x3A5, 0x313, 0x300]), (0x1F54, [0x3A5, 0x313, 0x301]),
   (0x1F56, [0x3A5, 0x313, 0x342]), (0x1F80, [0x1F08, 0x399]), (0x1F81, [0x1F09, 0x399]),
   (0x1F82, [0x1F0A, 0x399]), (0x1F83, [0x1F0B, 0x399]), (0x1F84, [0x1F0C, 0x399]),
   (0x1F85, [0x1F0D, 0x399]), (0x1F86, [0x1F0E, 0x399]), (0x1F87, [0x1F0F, 0x399]),
   (0x1F88, [0x1F08, 0x399]), (0x1F89, [0x1F09, 0x399]), (0x1F8A, [0x1F0A, 0x399]),
   (0x1F8B, [0x1F0B, 0x399]), (0x1F8C, [0x1F0C, 0x399]), (0x1F8D, [0x1F0D, 0x399]),
   (0x1F8E, [0x1F0E, 0x399]), (0x1F8F, [0x1F0F, 0x399]), (0x1F90, [0x1F28, 0x399]),
   (0x1F91, [0x1F29, 0x399]), (0x1F92, [0x1F2A, 0x399]), (0x1F93, [0x1F2B, 0x399]),
   (0x1F94, [0x1F2C, 0x399]), (0x1F95, [0x1F2D, 0x399]), (0x1F96, [0x1F2E, 0x399]),
   (0x1F97, [0x1F2F, 0x399]), (0x1F98, [0x1F28, 0x399]), (0x1F99, [0x1F29, 0x399]),
   (0x1F9A, [0x1F2A, 0x399]), (0x1F9B, [0x1F2B, 0x399]), (0x1F9C, [0x1F2C, 0x399]),
   (0x1F9D, [0x1F2D, 0x399]), (0x1F9E, [0x1F2E, 0x399]), (0x1F9F, [0x1F2F, 0x399]),
   (0x1FA0, [0x1F68, 0x399]), (0x1FA1, [0x1F69, 0x399]), (0x1FA2, [0x1F6A, 0x399]),
   (0x1FA3, [0x1F6B, 0x399]), (0x1FA4, [0x1F6C, 0x399]), (0x1FA5, [0x1F6D, 0x399]),
   (0x1FA6, [0x1F6E, 0x399]), (0x1FA7, [0x1F6F, 0x399]), (0x1FA8, [0x1F68, 0x399]),
   (0x1FA9, [0x1F69, 0x399]), (0x1FAA, [0x1F6A, 0x399]), (0x1FAB, [0x1F6B, 0x399]),
   (0x1FAC, [0x1F6C, 0x399]), (0x1FAD, [0x1F6D, 0x399]), (0x1FAE, [0x1F6E, 0x399]),
   (0x1FAF, [0x1F6F, 0x399]), (0x1FB2, [0x1FBA, 0x399]), (0x1FB3, [0x391, 0x399]),
   (0x1FB4, [0x386, 0x399]), (0x1FB6, [0x391, 0x342]), (0x1FB7, [0x391, 0x342, 0x399]),
   (0x1FBC, [0x391, 0x399]), (0x1FC2, [0x1FCA, 0x399]), (0x1FC3, [0x397, 0x399]),
   (0x1FC4, [0x389, 0x399]), (0x1FC6, [0x397, 0x342]), (0x1FC7, [0x397, 0x342, 0x399]),
   (0x1FCC, [0x397, 0x399]), (0x1FD2, [0x399, 0x308, 0x300]), (0x1FD3, [0x399, 0x308, 0x301]),
   (0x1FD6, [0x399, 0x342]), (0x1FD7, [0x399, 0x308, 0x342]), (0x1FE2, [0x3A5, 0x308, 0x300]),
   (0x1FE3, [0x3A5, 0x308, 0x301]), (0x1FE4, [0x3A1, 0x313]), (0x1FE6, [0x3A5, 0x342]),
   (0x1FE7, [0x3A5, 0x308, 0x342]), (0x1FF2, [0x1FFA, 0x399]), (0x1FF3, [0x3A9, 0x399]),
   (0x1FF4, [0x38F, 0x399]), (0x1FF6, [0x3A9, 0x342]), (0x1FF7, [0x3A9, 0x342, 0x399]),
   (0x1FFC, [0x3A9, 0x399]), (0xFB00, [0x46, 0x46]), (0xFB01, [0x46, 0x49]),
   (0xFB02, [0x46, 0x4C]), (0xFB03, [0x46, 0x46, 0x49]), (0xFB04, [0x46, 0x46, 0x4C]),
   (0xFB05, [0x53, 0x54]), (0xFB06, [0x53, 0x54]), (0xFB13, [0x544, 0x546]),
   (0xFB14, [0x544, 0x535]), (0xFB15, [0x544, 0x53B]), (0xFB16, [0x54E, 0x546]),
   (0xFB17, [0x544, 0x53D])]

def lowerRuns : List CaseRun :=
  [⟨⟨0x41, 0x5A, 1⟩, 0x61⟩, ⟨⟨0xC0, 0xD6, 1⟩, 0xE0⟩, ⟨⟨0xD8, 0xDE, 1⟩, 0xF8⟩,
   ⟨⟨0x100, 0x12E, 2⟩, 0x101⟩, ⟨⟨0x132, 0x136, 2⟩, 0x133⟩, ⟨⟨0x139, 0x147, 2⟩, 0x13A⟩,
   ⟨⟨0x14A, 0x176, 2⟩, 0x14B⟩, ⟨⟨0x178, 0x178, 1⟩, 0xFF⟩, ⟨⟨0x179, 0x17D, 2⟩, 0x17A⟩,
   ⟨⟨0x181, 0x181, 1⟩, 0x253⟩, ⟨⟨0x182, 0x184, 2⟩, 0x183⟩, ⟨⟨0x186, 0x186, 1⟩, 0x254⟩,
   ⟨⟨0x187, 0x187, 1⟩, 0x188⟩, ⟨⟨0x189, 0x18A, 1⟩, 0x256⟩, ⟨⟨0x18B, 0x18B, 1⟩, 0x18C⟩,
   ⟨⟨0x18E, 0x18E, 1⟩, 0x1DD⟩, ⟨⟨0x18F, 0x18F, 1⟩, 0x259⟩, ⟨⟨0x190, 0x190, 1⟩, 0x25B⟩,
   ⟨⟨0x191, 0x191, 1⟩, 0x192⟩, ⟨⟨0x193, 0x193, 1⟩, 0x260⟩, ⟨⟨0x194, 0x194, 1⟩, 0x263⟩,
   ⟨⟨0x196, 0x196, 1⟩, 0x269⟩, ⟨⟨0x197, 0x197, 1⟩, 0x268⟩, ⟨⟨0x198, 0x198, 1⟩, 0x199⟩,
   ⟨⟨0x19C, 0x19C, 1⟩, 0x26F⟩, ⟨⟨0x19D, 0x19D, 1⟩, 0x272⟩, ⟨⟨0x19F, 0x19F, 1⟩, 0x275⟩,
   ⟨⟨0x1A0, 0x1A4, 2⟩, 0x1A1⟩, ⟨⟨0x1A6, 0x1A6, 1⟩, 0x280⟩, ⟨⟨0x1A7, 0x1A7, 1⟩, 0x1A8⟩,
   ⟨⟨0x1A9, 0x1A9, 1⟩, 0x283⟩, ⟨⟨0x1AC, 0x1AC, 1⟩, 0x1AD⟩, ⟨⟨0x1AE, 0x1AE, 1⟩, 0x288⟩,
   ⟨⟨0x1AF, 0x1AF, 1⟩, 0x1B0⟩, ⟨⟨0x1B1, 0x1B2, 1⟩, 0x28A⟩, ⟨⟨0x1B3, 0x1B5, 2⟩, 0x1B4⟩,
   ⟨⟨0x1B7, 0x1B7, 1⟩, 0x292⟩, ⟨⟨0x1B8, 0x1B8, 1⟩, 0x1B9⟩, ⟨⟨0x1BC, 0x1BC, 1⟩, 0x1BD⟩,
   ⟨⟨0x1C4, 0x1C4, 1⟩, 0x1C6⟩, ⟨⟨0x1C5, 0x1C5, 1⟩, 0x1C6⟩, ⟨⟨0x1C7, 0x1C7, 1⟩, 0x1C9⟩,
   ⟨⟨0x1C8, 0x1C8, 1⟩, 0x1C9⟩, ⟨⟨0x1CA, 0x1CA, 1⟩, 0x1CC⟩, ⟨⟨0x1CB, 0x1DB, 2⟩, 0x1CC⟩,
   ⟨⟨0x1DE, 0x1EE, 2⟩, 0x1DF⟩, ⟨⟨0x1F1, 0x1F1, 1⟩, 0x1F3⟩, ⟨⟨0x1F2, 0x1F4, 2⟩, 0x1F3⟩,
   ⟨⟨0x1F6, 0x1F6, 1⟩, 0x195⟩, ⟨⟨0x1F7, 0x1F7, 1⟩, 0x1BF⟩, ⟨⟨0x1F8, 0x21E, 2⟩, 0x1F9⟩,
   ⟨⟨0x220, 0x220, 1⟩, 0x19E⟩, ⟨⟨0x222, 0x232, 2⟩, 0x223⟩, ⟨⟨0x23A, 0x23A, 1⟩, 0x2C65⟩,
   ⟨⟨0x23B, 0x23B, 1⟩, 0x23C⟩, ⟨⟨0x23D, 0x23D, 1⟩, 0x19A⟩, ⟨⟨0x23E, 0x23E, 1⟩, 0x2C66⟩,
   ⟨⟨0x241, 0x241, 1⟩, 0x242⟩, ⟨⟨0x243, 0x243, 1⟩, 0x180⟩, ⟨⟨0x244, 0x244, 1⟩, 0x289⟩,
   ⟨⟨0x245, 0x245, 1⟩, 0x28C⟩, ⟨⟨0x246, 0x24E, 2⟩, 0x247⟩, ⟨⟨0x370, 0x372, 2⟩, 0x371⟩,
   ⟨⟨0x376, 0x376, 1⟩, 0x377⟩, ⟨⟨0x37F, 0x37F, 1⟩, 0x3F3⟩, ⟨⟨0x386, 0x386, 1⟩, 0x3AC⟩,
   ⟨⟨0x388, 0x38A, 1⟩, 0x3AD⟩, ⟨⟨0x38C, 0x38C, 1⟩, 0x3CC⟩, ⟨⟨0x38E, 0x38F, 1⟩, 0x3CD⟩,
   ⟨⟨0x391, 0x3A1, 1⟩, 0x3B1⟩, ⟨⟨0x3A3, 0x3AB, 1⟩, 0x3C3⟩, ⟨⟨0x3CF, 0x3CF, 1⟩, 0x3D7⟩,
   ⟨⟨0x3D8, 0x3EE, 2⟩, 0x3D9⟩, ⟨⟨0x3F4, 0x3F4, 1⟩, 0x3B8⟩, ⟨⟨0x3F7, 0x3F7, 1⟩, 0x3F8⟩,
   ⟨⟨0x3F9, 0x3F9, 1⟩, 0x3F2⟩, ⟨⟨0x3FA, 0x3FA, 1⟩, 0x3FB⟩, ⟨⟨0x3FD, 0x3FF, 1⟩, 0x37B⟩,
   ⟨⟨0x400, 0x40F, 1⟩, 0x450⟩, ⟨⟨0x410, 0x42F, 1⟩, 0x430⟩, ⟨⟨0x460, 0x480, 2⟩, 0x461⟩,
   ⟨⟨0x48A, 0x4BE, 2⟩, 0x48B⟩, ⟨⟨0x4C0, 0x4C0, 1⟩, 0x4CF⟩, ⟨⟨0x4C1, 0x4CD, 2⟩, 0x4C2⟩,
   ⟨⟨0x4D0, 0x52E, 2⟩, 0x4D1⟩, ⟨⟨0x531, 0x556, 1⟩, 0x561⟩, ⟨⟨0x10A0, 0x10C5, 1⟩, 0x2D00⟩,
   ⟨⟨0x10C7, 0x10C7, 1⟩, 0x2D27⟩, ⟨⟨0x10CD, 0x10CD, 1⟩, 0x2D2D⟩, ⟨⟨0x13A0, 0x13EF, 1⟩, 0xAB70⟩,
   ⟨⟨0x13F0, 0x13F5, 1⟩, 0x13F8⟩, ⟨⟨0x1C89, 0x1C89, 1⟩, 0x1C8A⟩, ⟨⟨0x1C90, 0x1CBA, 1⟩, 0x10D0⟩,
   ⟨⟨0x1CBD, 0x1CBF, 1⟩, 0x10FD⟩, ⟨⟨0x1E00, 0x1E94, 2⟩, 0x1E01⟩, ⟨⟨0x1E9E, 0x1E9E, 1⟩, 0xDF⟩,
   ⟨⟨0x1EA0, 0x1EFE, 2⟩, 0x1EA1⟩, ⟨⟨0x1F08, 0x1F0F, 1⟩, 0x1F00⟩, ⟨⟨0x1F18, 0x1F1D, 1⟩, 0x1F10⟩,
   ⟨⟨0x1F28, 0x1F2F, 1⟩, 0x1F20⟩, ⟨⟨0x1F38, 0x1F3F, 1⟩, 0x1F30⟩, ⟨⟨0x1F48, 0x1F4D, 1⟩, 0x1F40⟩,
   ⟨⟨0x1F59, 0x1F5F, 2⟩, 0x1F51⟩, ⟨⟨0x1F68, 0x1F6F, 1⟩, 0x1F60⟩, ⟨⟨0x1F88, 0x1F8F, 1⟩, 0x1F80⟩,
   ⟨⟨0x1F98, 0x1F9F, 1⟩, 0x1F90⟩, ⟨⟨0x1FA8, 0x1FAF, 1⟩, 0x1FA0⟩, ⟨⟨0x1FB8, 0x1FB9, 1⟩, 0x1FB0⟩,
   ⟨⟨0x1FBA, 0x1FBB, 1⟩, 0x1F70⟩, ⟨⟨0x1FBC, 0x1FBC, 1⟩, 0x1FB3⟩, ⟨⟨0x1FC8, 0x1FCB, 1⟩, 0x1F72⟩,
   ⟨⟨0x1FCC, 0x1FCC, 1⟩, 0x1FC3⟩, ⟨⟨0x1FD8, 0x1FD9, 1⟩, 0x1FD0⟩, ⟨⟨0x1FDA, 0x1FDB, 1⟩, 0x1F76⟩,
   ⟨⟨0x1FE8, 0x1FE9, 1⟩, 0x1FE0⟩, ⟨⟨0x1FEA, 0x1FEB, 1⟩, 0x1F7A⟩, ⟨⟨0x1FEC, 0x1FEC, 1⟩, 0x1FE5⟩,
   ⟨⟨0x1FF8, 0x1FF9, 1⟩, 0x1F78⟩, ⟨⟨0x1FFA, 0x1FFB, 1⟩, 0x1F7C⟩, ⟨⟨0x1FFC, 0x1FFC, 1⟩, 0x1FF3⟩,
   ⟨⟨0x2126, 0x2126, 1⟩, 0x3C9⟩, ⟨⟨0x212A, 0x212A, 1⟩, 0x6B⟩, ⟨⟨0x212B, 0x212B, 1⟩, 0xE5⟩,
   ⟨⟨0x2132, 0x2132, 1⟩, 0x214E⟩, ⟨⟨0x2160, 0x216F, 1⟩, 0x2170⟩, ⟨⟨0x2183, 0x2183, 1⟩, 0x2184⟩,
   ⟨⟨0x24B6, 0x24CF, 1⟩, 0x24D0⟩, ⟨⟨0x2C00, 0x2C2F, 1⟩, 0x2C30⟩, ⟨⟨0x2C60, 0x2C60, 1⟩, 0x2C61⟩,
   ⟨⟨0x2C62, 0x2C62, 1⟩, 0x26B⟩, ⟨⟨0x2C63, 0x2C63, 1⟩, 0x1D7D⟩, ⟨⟨0x2C64, 0x2C64, 1⟩, 0x27D⟩,
   ⟨⟨0x2C67, 0x2C6B, 2⟩, 0x2C68⟩, ⟨⟨0x2C6D, 0x2C6D, 1⟩, 0x251⟩, ⟨⟨0x2C6E, 0x2C6E, 1⟩, 0x271⟩,
   ⟨⟨0x2C6F, 0x2C6F, 1⟩, 0x250⟩, ⟨⟨0x2C70, 0x2C70, 1⟩, 0x252⟩, ⟨⟨0x2C72, 0x2C72, 1⟩, 0x2C73⟩,
   ⟨⟨0x2C75, 0x2C75, 1⟩, 0x2C76⟩, ⟨⟨0x2C7E, 0x2C7F, 1⟩, 0x23F⟩, ⟨⟨0x2C80, 0x2CE2, 2⟩, 0x2C81⟩,
   ⟨⟨0x2CEB, 0x2CED, 2⟩, 0x2CEC⟩, ⟨⟨0x2CF2, 0x2CF2, 1⟩, 0x2CF3⟩, ⟨⟨0xA640, 0xA66C, 2⟩, 0xA641⟩,
   ⟨⟨0xA680, 0xA69A, 2⟩, 0xA681⟩, ⟨⟨0xA722, 0xA72E, 2⟩, 0xA723⟩, ⟨⟨0xA732, 0xA76E, 2⟩, 0xA733⟩,
   ⟨⟨0xA779, 0xA77B, 2⟩, 0xA77A⟩, ⟨⟨0xA77D, 0xA77D, 1⟩, 0x1D79⟩, ⟨⟨0xA77E, 0xA786, 2⟩, 0xA77F⟩,
   ⟨⟨0xA78B, 0xA78B, 1⟩, 0xA78C⟩, ⟨⟨0xA78D, 0xA78D, 1⟩, 0x265⟩, ⟨⟨0xA790, 0xA792, 2⟩, 0xA791⟩,
   ⟨⟨0xA796, 0xA7A8, 2⟩, 0xA797⟩, ⟨⟨0xA7AA, 0xA7AA, 1⟩, 0x266⟩, ⟨⟨0xA7AB, 0xA7AB, 1⟩, 0x25C⟩,
   ⟨⟨0xA7AC, 0xA7AC, 1⟩, 0x261⟩, ⟨⟨0xA7AD, 0xA7AD, 1⟩, 0x26C⟩, ⟨⟨0xA7AE, 0xA7AE, 1⟩, 0x26A⟩,
   ⟨⟨0xA7B0, 0xA7B0, 1⟩, 0x29E⟩, ⟨⟨0xA7B1, 0xA7B1, 1⟩, 0x287⟩, ⟨⟨0xA7B2, 0xA7B2, 1⟩, 0x29D⟩,
   ⟨⟨0xA7B3, 0xA7B3, 1⟩, 0xAB53⟩, ⟨⟨0xA7B4, 0xA7C2, 2⟩, 0xA7B5⟩, ⟨⟨0xA7C4, 0xA7C4, 1⟩, 0xA794⟩,
   ⟨⟨0xA7C5, 0xA7C5, 1⟩, 0x282⟩, ⟨⟨0xA7C6, 0xA7C6, 1⟩, 0x1D8E⟩, ⟨⟨0xA7C7, 0xA7C9, 2⟩, 0xA7C8⟩,
   ⟨⟨0xA7CB, 0xA7CB, 1⟩, 0x264⟩, ⟨⟨0xA7CC, 0xA7DA, 2⟩, 0xA7CD⟩, ⟨⟨0xA7DC, 0xA7DC, 1⟩, 0x19B⟩,
   ⟨⟨0xA7F5, 0xA7F5, 1⟩, 0xA7F6⟩, ⟨⟨0xFF21, 0xFF3A, 1⟩, 0xFF41⟩,
   ⟨⟨0x10400, 0x10427, 1⟩, 0x10428⟩, ⟨⟨0x104B0, 0x104D3, 1⟩, 0x104D8⟩,
   ⟨⟨0x10570, 0x1057A, 1⟩, 0x10597⟩, ⟨⟨0x1057C, 0x1058A, 1⟩, 0x105A3⟩,
   ⟨⟨0x1058C, 0x10592, 1⟩, 0x105B3⟩, ⟨⟨0x10594, 0x10595, 1⟩, 0x105BB⟩,
   ⟨⟨0x10C80, 0x10CB2, 1⟩, 0x10CC0⟩, ⟨⟨0x10D50, 0x10D65, 1⟩, 0x10D70⟩,
   ⟨⟨0x118A0, 0x118BF, 1⟩, 0x118C0⟩, ⟨⟨0x16E40, 0x16E5F, 1⟩, 0x16E60⟩,
   ⟨⟨0x16EA0, 0x16EB8, 1⟩, 0x16EBB⟩, ⟨⟨0x1E900, 0x1E921, 1⟩, 0x1E922⟩]

def lowerExpansions : List (Nat × List Nat) :=
  [(0x130, [0x69, 0x307])]

/-- The image of a character under a list of runs and a list of expansions; a character in
neither is its own image. -/
def caseImage (runs : List CaseRun) (expansions : List (Nat × List Nat)) (character : Char) :
    List Char :=
  match expansions.find? fun entry => entry.1 == character.toNat with
  | some entry => entry.2.map Char.ofNat
  | none =>
    match runs.find? fun run => run.source.contains character with
    | some run => [Char.ofNat (run.target + (character.toNat - run.source.first))]
    | none => [character]

def upperOf (character : Char) : List Char :=
  caseImage upperRuns upperExpansions character

def lowerOf (character : Char) : List Char :=
  caseImage lowerRuns lowerExpansions character

end QueryText.Text
