import GameFleet.Text.Category

/-!
# What characters stand for in the name of a domain

Names of domains are compared without regard to letter case, width and other differences of form.
Each character of a name stands for itself, for other characters or for nothing, or it may not be
in a name at all.

- `Domain.mapped?`: the characters that one character stands for. Where they differ from it and
  none of them is of ASCII, the character is left as it is: which letter of another script a name
  holds decides nothing.
- `Domain.standsForItself`: whether a character may be in a name and stands for itself.
-/

namespace GameFleet.Domain

open Text

/-- Characters that stand for nothing. -/
def ignored : Ranges := #[
  (0xAD, 0xAD), (0x34F, 0x34F), (0x115F, 0x1160), (0x17B4, 0x17B5), (0x180B, 0x180D),
  (0x180F, 0x180F), (0x200B, 0x200B), (0x2060, 0x2060), (0x2064, 0x2064), (0x3164, 0x3164),
  (0xFE00, 0xFE0F), (0xFEFF, 0xFEFF), (0xFFA0, 0xFFA0), (0x1BCA0, 0x1BCA3), (0xE0100, 0xE01EF)]

/-- Characters that stand for something and yet may not be in a name. -/
def refused : Ranges := #[
  (0xA8, 0xA8), (0xAF, 0xAF), (0xB4, 0xB4), (0xB8, 0xB8), (0x2D8, 0x2DD), (0x37A, 0x37A),
  (0x384, 0x385), (0x1806, 0x1806), (0x1FBD, 0x1FBD), (0x1FBF, 0x1FC1), (0x1FCD, 0x1FCF),
  (0x1FDD, 0x1FDF), (0x1FED, 0x1FEE), (0x1FFD, 0x1FFE), (0x2017, 0x2017), (0x2024, 0x2026),
  (0x203E, 0x203E), (0x2047, 0x2049), (0x2100, 0x2101), (0x2105, 0x2106), (0x2488, 0x249B),
  (0x2A74, 0x2A74), (0x2FF0, 0x2FFF), (0x309B, 0x309C), (0x31EF, 0x31EF), (0x33C2, 0x33C2),
  (0x33C7, 0x33C7), (0x33D8, 0x33D8), (0xFC5E, 0xFC63), (0xFDFA, 0xFDFB), (0xFE12, 0xFE13),
  (0xFE16, 0xFE16), (0xFE19, 0xFE19), (0xFE30, 0xFE30), (0xFE47, 0xFE4C), (0xFE52, 0xFE52),
  (0xFE55, 0xFE56), (0xFE5F, 0xFE5F), (0xFE64, 0xFE65), (0xFE68, 0xFE68), (0xFE6A, 0xFE6B),
  (0xFE70, 0xFE70), (0xFE72, 0xFE72), (0xFE74, 0xFE74), (0xFE76, 0xFE76), (0xFE78, 0xFE78),
  (0xFE7A, 0xFE7A), (0xFE7C, 0xFE7C), (0xFE7E, 0xFE7E), (0xFF03, 0xFF03), (0xFF05, 0xFF05),
  (0xFF0F, 0xFF0F), (0xFF1A, 0xFF1A), (0xFF1C, 0xFF1C), (0xFF1E, 0xFF20), (0xFF3B, 0xFF3E),
  (0xFF5C, 0xFF5C), (0xFFE3, 0xFFE3), (0xFFFC, 0xFFFD), (0x1F100, 0x1F100)]

/-- Characters that stand for others. -/
def replaced : Ranges := #[
  (0xAA, 0xAA), (0xB2, 0xB3), (0xB5, 0xB5), (0xB9, 0xBA), (0xBC, 0xBE), (0xC0, 0xD6), (0xD8, 0xDE),
  (0x100, 0x100), (0x102, 0x102), (0x104, 0x104), (0x106, 0x106), (0x108, 0x108), (0x10A, 0x10A),
  (0x10C, 0x10C), (0x10E, 0x10E), (0x110, 0x110), (0x112, 0x112), (0x114, 0x114), (0x116, 0x116),
  (0x118, 0x118), (0x11A, 0x11A), (0x11C, 0x11C), (0x11E, 0x11E), (0x120, 0x120), (0x122, 0x122),
  (0x124, 0x124), (0x126, 0x126), (0x128, 0x128), (0x12A, 0x12A), (0x12C, 0x12C), (0x12E, 0x12E),
  (0x130, 0x130), (0x132, 0x134), (0x136, 0x136), (0x139, 0x139), (0x13B, 0x13B), (0x13D, 0x13D),
  (0x13F, 0x141), (0x143, 0x143), (0x145, 0x145), (0x147, 0x147), (0x149, 0x14A), (0x14C, 0x14C),
  (0x14E, 0x14E), (0x150, 0x150), (0x152, 0x152), (0x154, 0x154), (0x156, 0x156), (0x158, 0x158),
  (0x15A, 0x15A), (0x15C, 0x15C), (0x15E, 0x15E), (0x160, 0x160), (0x162, 0x162), (0x164, 0x164),
  (0x166, 0x166), (0x168, 0x168), (0x16A, 0x16A), (0x16C, 0x16C), (0x16E, 0x16E), (0x170, 0x170),
  (0x172, 0x172), (0x174, 0x174), (0x176, 0x176), (0x178, 0x179), (0x17B, 0x17B), (0x17D, 0x17D),
  (0x17F, 0x17F), (0x181, 0x182), (0x184, 0x184), (0x186, 0x187), (0x189, 0x18B), (0x18E, 0x191),
  (0x193, 0x194), (0x196, 0x198), (0x19C, 0x19D), (0x19F, 0x1A0), (0x1A2, 0x1A2), (0x1A4, 0x1A4),
  (0x1A6, 0x1A7), (0x1A9, 0x1A9), (0x1AC, 0x1AC), (0x1AE, 0x1AF), (0x1B1, 0x1B3), (0x1B5, 0x1B5),
  (0x1B7, 0x1B8), (0x1BC, 0x1BC), (0x1C4, 0x1CD), (0x1CF, 0x1CF), (0x1D1, 0x1D1), (0x1D3, 0x1D3),
  (0x1D5, 0x1D5), (0x1D7, 0x1D7), (0x1D9, 0x1D9), (0x1DB, 0x1DB), (0x1DE, 0x1DE), (0x1E0, 0x1E0),
  (0x1E2, 0x1E2), (0x1E4, 0x1E4), (0x1E6, 0x1E6), (0x1E8, 0x1E8), (0x1EA, 0x1EA), (0x1EC, 0x1EC),
  (0x1EE, 0x1EE), (0x1F1, 0x1F4), (0x1F6, 0x1F8), (0x1FA, 0x1FA), (0x1FC, 0x1FC), (0x1FE, 0x1FE),
  (0x200, 0x200), (0x202, 0x202), (0x204, 0x204), (0x206, 0x206), (0x208, 0x208), (0x20A, 0x20A),
  (0x20C, 0x20C), (0x20E, 0x20E), (0x210, 0x210), (0x212, 0x212), (0x214, 0x214), (0x216, 0x216),
  (0x218, 0x218), (0x21A, 0x21A), (0x21C, 0x21C), (0x21E, 0x21E), (0x220, 0x220), (0x222, 0x222),
  (0x224, 0x224), (0x226, 0x226), (0x228, 0x228), (0x22A, 0x22A), (0x22C, 0x22C), (0x22E, 0x22E),
  (0x230, 0x230), (0x232, 0x232), (0x23A, 0x23B), (0x23D, 0x23E), (0x241, 0x241), (0x243, 0x246),
  (0x248, 0x248), (0x24A, 0x24A), (0x24C, 0x24C), (0x24E, 0x24E), (0x2B0, 0x2B8), (0x2E0, 0x2E4),
  (0x340, 0x341), (0x343, 0x343), (0x345, 0x345), (0x370, 0x370), (0x372, 0x372), (0x374, 0x374),
  (0x376, 0x376), (0x37E, 0x37F), (0x386, 0x38A), (0x38C, 0x38C), (0x38E, 0x38F), (0x391, 0x3A1),
  (0x3A3, 0x3AB), (0x3CF, 0x3D6), (0x3D8, 0x3D8), (0x3DA, 0x3DA), (0x3DC, 0x3DC), (0x3DE, 0x3DE),
  (0x3E0, 0x3E0), (0x3E2, 0x3E2), (0x3E4, 0x3E4), (0x3E6, 0x3E6), (0x3E8, 0x3E8), (0x3EA, 0x3EA),
  (0x3EC, 0x3EC), (0x3EE, 0x3EE), (0x3F0, 0x3F2), (0x3F4, 0x3F5), (0x3F7, 0x3F7), (0x3F9, 0x3FA),
  (0x3FD, 0x42F), (0x460, 0x460), (0x462, 0x462), (0x464, 0x464), (0x466, 0x466), (0x468, 0x468),
  (0x46A, 0x46A), (0x46C, 0x46C), (0x46E, 0x46E), (0x470, 0x470), (0x472, 0x472), (0x474, 0x474),
  (0x476, 0x476), (0x478, 0x478), (0x47A, 0x47A), (0x47C, 0x47C), (0x47E, 0x47E), (0x480, 0x480),
  (0x48A, 0x48A), (0x48C, 0x48C), (0x48E, 0x48E), (0x490, 0x490), (0x492, 0x492), (0x494, 0x494),
  (0x496, 0x496), (0x498, 0x498), (0x49A, 0x49A), (0x49C, 0x49C), (0x49E, 0x49E), (0x4A0, 0x4A0),
  (0x4A2, 0x4A2), (0x4A4, 0x4A4), (0x4A6, 0x4A6), (0x4A8, 0x4A8), (0x4AA, 0x4AA), (0x4AC, 0x4AC),
  (0x4AE, 0x4AE), (0x4B0, 0x4B0), (0x4B2, 0x4B2), (0x4B4, 0x4B4), (0x4B6, 0x4B6), (0x4B8, 0x4B8),
  (0x4BA, 0x4BA), (0x4BC, 0x4BC), (0x4BE, 0x4BE), (0x4C0, 0x4C1), (0x4C3, 0x4C3), (0x4C5, 0x4C5),
  (0x4C7, 0x4C7), (0x4C9, 0x4C9), (0x4CB, 0x4CB), (0x4CD, 0x4CD), (0x4D0, 0x4D0), (0x4D2, 0x4D2),
  (0x4D4, 0x4D4), (0x4D6, 0x4D6), (0x4D8, 0x4D8), (0x4DA, 0x4DA), (0x4DC, 0x4DC), (0x4DE, 0x4DE),
  (0x4E0, 0x4E0), (0x4E2, 0x4E2), (0x4E4, 0x4E4), (0x4E6, 0x4E6), (0x4E8, 0x4E8), (0x4EA, 0x4EA),
  (0x4EC, 0x4EC), (0x4EE, 0x4EE), (0x4F0, 0x4F0), (0x4F2, 0x4F2), (0x4F4, 0x4F4), (0x4F6, 0x4F6),
  (0x4F8, 0x4F8), (0x4FA, 0x4FA), (0x4FC, 0x4FC), (0x4FE, 0x4FE), (0x500, 0x500), (0x502, 0x502),
  (0x504, 0x504), (0x506, 0x506), (0x508, 0x508), (0x50A, 0x50A), (0x50C, 0x50C), (0x50E, 0x50E),
  (0x510, 0x510), (0x512, 0x512), (0x514, 0x514), (0x516, 0x516), (0x518, 0x518), (0x51A, 0x51A),
  (0x51C, 0x51C), (0x51E, 0x51E), (0x520, 0x520), (0x522, 0x522), (0x524, 0x524), (0x526, 0x526),
  (0x528, 0x528), (0x52A, 0x52A), (0x52C, 0x52C), (0x52E, 0x52E), (0x531, 0x556), (0x587, 0x587),
  (0x675, 0x678), (0x958, 0x95F), (0x9DC, 0x9DD), (0x9DF, 0x9DF), (0xA33, 0xA33), (0xA36, 0xA36),
  (0xA59, 0xA5B), (0xA5E, 0xA5E), (0xB5C, 0xB5D), (0xE33, 0xE33), (0xEB3, 0xEB3), (0xEDC, 0xEDD),
  (0xF0C, 0xF0C), (0xF43, 0xF43), (0xF4D, 0xF4D), (0xF52, 0xF52), (0xF57, 0xF57), (0xF5C, 0xF5C),
  (0xF69, 0xF69), (0xF73, 0xF73), (0xF75, 0xF79), (0xF81, 0xF81), (0xF93, 0xF93), (0xF9D, 0xF9D),
  (0xFA2, 0xFA2), (0xFA7, 0xFA7), (0xFAC, 0xFAC), (0xFB9, 0xFB9), (0x10A0, 0x10C5),
  (0x10C7, 0x10C7), (0x10CD, 0x10CD), (0x10FC, 0x10FC), (0x13F8, 0x13FD), (0x1C80, 0x1C89),
  (0x1C90, 0x1CBA), (0x1CBD, 0x1CBF), (0x1D2C, 0x1D2E), (0x1D30, 0x1D3A), (0x1D3C, 0x1D4D),
  (0x1D4F, 0x1D6A), (0x1D78, 0x1D78), (0x1D9B, 0x1DBF), (0x1E00, 0x1E00), (0x1E02, 0x1E02),
  (0x1E04, 0x1E04), (0x1E06, 0x1E06), (0x1E08, 0x1E08), (0x1E0A, 0x1E0A), (0x1E0C, 0x1E0C),
  (0x1E0E, 0x1E0E), (0x1E10, 0x1E10), (0x1E12, 0x1E12), (0x1E14, 0x1E14), (0x1E16, 0x1E16),
  (0x1E18, 0x1E18), (0x1E1A, 0x1E1A), (0x1E1C, 0x1E1C), (0x1E1E, 0x1E1E), (0x1E20, 0x1E20),
  (0x1E22, 0x1E22), (0x1E24, 0x1E24), (0x1E26, 0x1E26), (0x1E28, 0x1E28), (0x1E2A, 0x1E2A),
  (0x1E2C, 0x1E2C), (0x1E2E, 0x1E2E), (0x1E30, 0x1E30), (0x1E32, 0x1E32), (0x1E34, 0x1E34),
  (0x1E36, 0x1E36), (0x1E38, 0x1E38), (0x1E3A, 0x1E3A), (0x1E3C, 0x1E3C), (0x1E3E, 0x1E3E),
  (0x1E40, 0x1E40), (0x1E42, 0x1E42), (0x1E44, 0x1E44), (0x1E46, 0x1E46), (0x1E48, 0x1E48),
  (0x1E4A, 0x1E4A), (0x1E4C, 0x1E4C), (0x1E4E, 0x1E4E), (0x1E50, 0x1E50), (0x1E52, 0x1E52),
  (0x1E54, 0x1E54), (0x1E56, 0x1E56), (0x1E58, 0x1E58), (0x1E5A, 0x1E5A), (0x1E5C, 0x1E5C),
  (0x1E5E, 0x1E5E), (0x1E60, 0x1E60), (0x1E62, 0x1E62), (0x1E64, 0x1E64), (0x1E66, 0x1E66),
  (0x1E68, 0x1E68), (0x1E6A, 0x1E6A), (0x1E6C, 0x1E6C), (0x1E6E, 0x1E6E), (0x1E70, 0x1E70),
  (0x1E72, 0x1E72), (0x1E74, 0x1E74), (0x1E76, 0x1E76), (0x1E78, 0x1E78), (0x1E7A, 0x1E7A),
  (0x1E7C, 0x1E7C), (0x1E7E, 0x1E7E), (0x1E80, 0x1E80), (0x1E82, 0x1E82), (0x1E84, 0x1E84),
  (0x1E86, 0x1E86), (0x1E88, 0x1E88), (0x1E8A, 0x1E8A), (0x1E8C, 0x1E8C), (0x1E8E, 0x1E8E),
  (0x1E90, 0x1E90), (0x1E92, 0x1E92), (0x1E94, 0x1E94), (0x1E9A, 0x1E9B), (0x1E9E, 0x1E9E),
  (0x1EA0, 0x1EA0), (0x1EA2, 0x1EA2), (0x1EA4, 0x1EA4), (0x1EA6, 0x1EA6), (0x1EA8, 0x1EA8),
  (0x1EAA, 0x1EAA), (0x1EAC, 0x1EAC), (0x1EAE, 0x1EAE), (0x1EB0, 0x1EB0), (0x1EB2, 0x1EB2),
  (0x1EB4, 0x1EB4), (0x1EB6, 0x1EB6), (0x1EB8, 0x1EB8), (0x1EBA, 0x1EBA), (0x1EBC, 0x1EBC),
  (0x1EBE, 0x1EBE), (0x1EC0, 0x1EC0), (0x1EC2, 0x1EC2), (0x1EC4, 0x1EC4), (0x1EC6, 0x1EC6),
  (0x1EC8, 0x1EC8), (0x1ECA, 0x1ECA), (0x1ECC, 0x1ECC), (0x1ECE, 0x1ECE), (0x1ED0, 0x1ED0),
  (0x1ED2, 0x1ED2), (0x1ED4, 0x1ED4), (0x1ED6, 0x1ED6), (0x1ED8, 0x1ED8), (0x1EDA, 0x1EDA),
  (0x1EDC, 0x1EDC), (0x1EDE, 0x1EDE), (0x1EE0, 0x1EE0), (0x1EE2, 0x1EE2), (0x1EE4, 0x1EE4),
  (0x1EE6, 0x1EE6), (0x1EE8, 0x1EE8), (0x1EEA, 0x1EEA), (0x1EEC, 0x1EEC), (0x1EEE, 0x1EEE),
  (0x1EF0, 0x1EF0), (0x1EF2, 0x1EF2), (0x1EF4, 0x1EF4), (0x1EF6, 0x1EF6), (0x1EF8, 0x1EF8),
  (0x1EFA, 0x1EFA), (0x1EFC, 0x1EFC), (0x1EFE, 0x1EFE), (0x1F08, 0x1F0F), (0x1F18, 0x1F1D),
  (0x1F28, 0x1F2F), (0x1F38, 0x1F3F), (0x1F48, 0x1F4D), (0x1F59, 0x1F59), (0x1F5B, 0x1F5B),
  (0x1F5D, 0x1F5D), (0x1F5F, 0x1F5F), (0x1F68, 0x1F6F), (0x1F71, 0x1F71), (0x1F73, 0x1F73),
  (0x1F75, 0x1F75), (0x1F77, 0x1F77), (0x1F79, 0x1F79), (0x1F7B, 0x1F7B), (0x1F7D, 0x1F7D),
  (0x1F80, 0x1FAF), (0x1FB2, 0x1FB4), (0x1FB7, 0x1FBC), (0x1FBE, 0x1FBE), (0x1FC2, 0x1FC4),
  (0x1FC7, 0x1FCC), (0x1FD3, 0x1FD3), (0x1FD8, 0x1FDB), (0x1FE3, 0x1FE3), (0x1FE8, 0x1FEC),
  (0x1FEF, 0x1FEF), (0x1FF2, 0x1FF4), (0x1FF7, 0x1FFC), (0x2011, 0x2011), (0x2033, 0x2034),
  (0x2036, 0x2037), (0x203C, 0x203C), (0x2057, 0x2057), (0x2070, 0x2071), (0x2074, 0x208E),
  (0x2090, 0x209C), (0x20A8, 0x20A8), (0x2102, 0x2103), (0x2107, 0x2107), (0x2109, 0x2113),
  (0x2115, 0x2116), (0x2119, 0x211D), (0x2120, 0x2122), (0x2124, 0x2124), (0x2126, 0x2126),
  (0x2128, 0x2128), (0x212A, 0x212D), (0x212F, 0x2139), (0x213B, 0x2140), (0x2145, 0x2149),
  (0x2150, 0x217F), (0x2183, 0x2183), (0x2189, 0x2189), (0x222C, 0x222D), (0x222F, 0x2230),
  (0x2329, 0x232A), (0x2460, 0x2487), (0x249C, 0x24EA), (0x2A0C, 0x2A0C), (0x2A75, 0x2A76),
  (0x2ADC, 0x2ADC), (0x2C00, 0x2C2F), (0x2C60, 0x2C60), (0x2C62, 0x2C64), (0x2C67, 0x2C67),
  (0x2C69, 0x2C69), (0x2C6B, 0x2C6B), (0x2C6D, 0x2C70), (0x2C72, 0x2C72), (0x2C75, 0x2C75),
  (0x2C7C, 0x2C80), (0x2C82, 0x2C82), (0x2C84, 0x2C84), (0x2C86, 0x2C86), (0x2C88, 0x2C88),
  (0x2C8A, 0x2C8A), (0x2C8C, 0x2C8C), (0x2C8E, 0x2C8E), (0x2C90, 0x2C90), (0x2C92, 0x2C92),
  (0x2C94, 0x2C94), (0x2C96, 0x2C96), (0x2C98, 0x2C98), (0x2C9A, 0x2C9A), (0x2C9C, 0x2C9C),
  (0x2C9E, 0x2C9E), (0x2CA0, 0x2CA0), (0x2CA2, 0x2CA2), (0x2CA4, 0x2CA4), (0x2CA6, 0x2CA6),
  (0x2CA8, 0x2CA8), (0x2CAA, 0x2CAA), (0x2CAC, 0x2CAC), (0x2CAE, 0x2CAE), (0x2CB0, 0x2CB0),
  (0x2CB2, 0x2CB2), (0x2CB4, 0x2CB4), (0x2CB6, 0x2CB6), (0x2CB8, 0x2CB8), (0x2CBA, 0x2CBA),
  (0x2CBC, 0x2CBC), (0x2CBE, 0x2CBE), (0x2CC0, 0x2CC0), (0x2CC2, 0x2CC2), (0x2CC4, 0x2CC4),
  (0x2CC6, 0x2CC6), (0x2CC8, 0x2CC8), (0x2CCA, 0x2CCA), (0x2CCC, 0x2CCC), (0x2CCE, 0x2CCE),
  (0x2CD0, 0x2CD0), (0x2CD2, 0x2CD2), (0x2CD4, 0x2CD4), (0x2CD6, 0x2CD6), (0x2CD8, 0x2CD8),
  (0x2CDA, 0x2CDA), (0x2CDC, 0x2CDC), (0x2CDE, 0x2CDE), (0x2CE0, 0x2CE0), (0x2CE2, 0x2CE2),
  (0x2CEB, 0x2CEB), (0x2CED, 0x2CED), (0x2CF2, 0x2CF2), (0x2D6F, 0x2D6F), (0x2E9F, 0x2E9F),
  (0x2EF3, 0x2EF3), (0x2F00, 0x2FD5), (0x3002, 0x3002), (0x3036, 0x3036), (0x3038, 0x303A),
  (0x309F, 0x309F), (0x30FF, 0x30FF), (0x3131, 0x3163), (0x3165, 0x318E), (0x3192, 0x319F),
  (0x3200, 0x321E), (0x3220, 0x3247), (0x3250, 0x327E), (0x3280, 0x33C1), (0x33C3, 0x33C6),
  (0x33C8, 0x33D7), (0x33D9, 0x33FF), (0xA640, 0xA640), (0xA642, 0xA642), (0xA644, 0xA644),
  (0xA646, 0xA646), (0xA648, 0xA648), (0xA64A, 0xA64A), (0xA64C, 0xA64C), (0xA64E, 0xA64E),
  (0xA650, 0xA650), (0xA652, 0xA652), (0xA654, 0xA654), (0xA656, 0xA656), (0xA658, 0xA658),
  (0xA65A, 0xA65A), (0xA65C, 0xA65C), (0xA65E, 0xA65E), (0xA660, 0xA660), (0xA662, 0xA662),
  (0xA664, 0xA664), (0xA666, 0xA666), (0xA668, 0xA668), (0xA66A, 0xA66A), (0xA66C, 0xA66C),
  (0xA680, 0xA680), (0xA682, 0xA682), (0xA684, 0xA684), (0xA686, 0xA686), (0xA688, 0xA688),
  (0xA68A, 0xA68A), (0xA68C, 0xA68C), (0xA68E, 0xA68E), (0xA690, 0xA690), (0xA692, 0xA692),
  (0xA694, 0xA694), (0xA696, 0xA696), (0xA698, 0xA698), (0xA69A, 0xA69A), (0xA69C, 0xA69D),
  (0xA722, 0xA722), (0xA724, 0xA724), (0xA726, 0xA726), (0xA728, 0xA728), (0xA72A, 0xA72A),
  (0xA72C, 0xA72C), (0xA72E, 0xA72E), (0xA732, 0xA732), (0xA734, 0xA734), (0xA736, 0xA736),
  (0xA738, 0xA738), (0xA73A, 0xA73A), (0xA73C, 0xA73C), (0xA73E, 0xA73E), (0xA740, 0xA740),
  (0xA742, 0xA742), (0xA744, 0xA744), (0xA746, 0xA746), (0xA748, 0xA748), (0xA74A, 0xA74A),
  (0xA74C, 0xA74C), (0xA74E, 0xA74E), (0xA750, 0xA750), (0xA752, 0xA752), (0xA754, 0xA754),
  (0xA756, 0xA756), (0xA758, 0xA758), (0xA75A, 0xA75A), (0xA75C, 0xA75C), (0xA75E, 0xA75E),
  (0xA760, 0xA760), (0xA762, 0xA762), (0xA764, 0xA764), (0xA766, 0xA766), (0xA768, 0xA768),
  (0xA76A, 0xA76A), (0xA76C, 0xA76C), (0xA76E, 0xA76E), (0xA770, 0xA770), (0xA779, 0xA779),
  (0xA77B, 0xA77B), (0xA77D, 0xA77E), (0xA780, 0xA780), (0xA782, 0xA782), (0xA784, 0xA784),
  (0xA786, 0xA786), (0xA78B, 0xA78B), (0xA78D, 0xA78D), (0xA790, 0xA790), (0xA792, 0xA792),
  (0xA796, 0xA796), (0xA798, 0xA798), (0xA79A, 0xA79A), (0xA79C, 0xA79C), (0xA79E, 0xA79E),
  (0xA7A0, 0xA7A0), (0xA7A2, 0xA7A2), (0xA7A4, 0xA7A4), (0xA7A6, 0xA7A6), (0xA7A8, 0xA7A8),
  (0xA7AA, 0xA7AE), (0xA7B0, 0xA7B4), (0xA7B6, 0xA7B6), (0xA7B8, 0xA7B8), (0xA7BA, 0xA7BA),
  (0xA7BC, 0xA7BC), (0xA7BE, 0xA7BE), (0xA7C0, 0xA7C0), (0xA7C2, 0xA7C2), (0xA7C4, 0xA7C7),
  (0xA7C9, 0xA7C9), (0xA7CB, 0xA7CC), (0xA7CE, 0xA7CE), (0xA7D0, 0xA7D0), (0xA7D2, 0xA7D2),
  (0xA7D4, 0xA7D4), (0xA7D6, 0xA7D6), (0xA7D8, 0xA7D8), (0xA7DA, 0xA7DA), (0xA7DC, 0xA7DC),
  (0xA7F1, 0xA7F5), (0xA7F8, 0xA7F9), (0xAB5C, 0xAB5F), (0xAB69, 0xAB69), (0xAB70, 0xABBF),
  (0xF900, 0xFA0D), (0xFA10, 0xFA10), (0xFA12, 0xFA12), (0xFA15, 0xFA1E), (0xFA20, 0xFA20),
  (0xFA22, 0xFA22), (0xFA25, 0xFA26), (0xFA2A, 0xFA6D), (0xFA70, 0xFAD9), (0xFB00, 0xFB06),
  (0xFB13, 0xFB17), (0xFB1D, 0xFB1D), (0xFB1F, 0xFB36), (0xFB38, 0xFB3C), (0xFB3E, 0xFB3E),
  (0xFB40, 0xFB41), (0xFB43, 0xFB44), (0xFB46, 0xFBB1), (0xFBD3, 0xFC5D), (0xFC64, 0xFD3D),
  (0xFD50, 0xFD8F), (0xFD92, 0xFDC7), (0xFDF0, 0xFDF9), (0xFDFC, 0xFDFC), (0xFE10, 0xFE11),
  (0xFE14, 0xFE15), (0xFE17, 0xFE18), (0xFE31, 0xFE44), (0xFE4D, 0xFE51), (0xFE54, 0xFE54),
  (0xFE57, 0xFE5E), (0xFE60, 0xFE63), (0xFE66, 0xFE66), (0xFE69, 0xFE69), (0xFE71, 0xFE71),
  (0xFE77, 0xFE77), (0xFE79, 0xFE79), (0xFE7B, 0xFE7B), (0xFE7D, 0xFE7D), (0xFE7F, 0xFEFC),
  (0xFF01, 0xFF02), (0xFF04, 0xFF04), (0xFF06, 0xFF0E), (0xFF10, 0xFF19), (0xFF1B, 0xFF1B),
  (0xFF1D, 0xFF1D), (0xFF21, 0xFF3A), (0xFF3F, 0xFF5B), (0xFF5D, 0xFF9F), (0xFFA1, 0xFFBE),
  (0xFFC2, 0xFFC7), (0xFFCA, 0xFFCF), (0xFFD2, 0xFFD7), (0xFFDA, 0xFFDC), (0xFFE0, 0xFFE2),
  (0xFFE4, 0xFFE6), (0xFFE8, 0xFFEE), (0x10400, 0x10427), (0x104B0, 0x104D3), (0x10570, 0x1057A),
  (0x1057C, 0x1058A), (0x1058C, 0x10592), (0x10594, 0x10595), (0x10781, 0x10785),
  (0x10787, 0x107B0), (0x107B2, 0x107BA), (0x10C80, 0x10CB2), (0x10D50, 0x10D65),
  (0x118A0, 0x118BF), (0x16E40, 0x16E5F), (0x16EA0, 0x16EB8), (0x1CCD6, 0x1CCF9),
  (0x1D15E, 0x1D164), (0x1D1BB, 0x1D1C0), (0x1D400, 0x1D454), (0x1D456, 0x1D49C),
  (0x1D49E, 0x1D49F), (0x1D4A2, 0x1D4A2), (0x1D4A5, 0x1D4A6), (0x1D4A9, 0x1D4AC),
  (0x1D4AE, 0x1D4B9), (0x1D4BB, 0x1D4BB), (0x1D4BD, 0x1D4C3), (0x1D4C5, 0x1D505),
  (0x1D507, 0x1D50A), (0x1D50D, 0x1D514), (0x1D516, 0x1D51C), (0x1D51E, 0x1D539),
  (0x1D53B, 0x1D53E), (0x1D540, 0x1D544), (0x1D546, 0x1D546), (0x1D54A, 0x1D550),
  (0x1D552, 0x1D6A5), (0x1D6A8, 0x1D7CB), (0x1D7CE, 0x1D7FF), (0x1E030, 0x1E06D),
  (0x1E900, 0x1E921), (0x1EE00, 0x1EE03), (0x1EE05, 0x1EE1F), (0x1EE21, 0x1EE22),
  (0x1EE24, 0x1EE24), (0x1EE27, 0x1EE27), (0x1EE29, 0x1EE32), (0x1EE34, 0x1EE37),
  (0x1EE39, 0x1EE39), (0x1EE3B, 0x1EE3B), (0x1EE42, 0x1EE42), (0x1EE47, 0x1EE47),
  (0x1EE49, 0x1EE49), (0x1EE4B, 0x1EE4B), (0x1EE4D, 0x1EE4F), (0x1EE51, 0x1EE52),
  (0x1EE54, 0x1EE54), (0x1EE57, 0x1EE57), (0x1EE59, 0x1EE59), (0x1EE5B, 0x1EE5B),
  (0x1EE5D, 0x1EE5D), (0x1EE5F, 0x1EE5F), (0x1EE61, 0x1EE62), (0x1EE64, 0x1EE64),
  (0x1EE67, 0x1EE6A), (0x1EE6C, 0x1EE72), (0x1EE74, 0x1EE77), (0x1EE79, 0x1EE7C),
  (0x1EE7E, 0x1EE7E), (0x1EE80, 0x1EE89), (0x1EE8B, 0x1EE9B), (0x1EEA1, 0x1EEA3),
  (0x1EEA5, 0x1EEA9), (0x1EEAB, 0x1EEBB), (0x1F101, 0x1F10A), (0x1F110, 0x1F12E),
  (0x1F130, 0x1F14F), (0x1F16A, 0x1F16C), (0x1F190, 0x1F190), (0x1F200, 0x1F202),
  (0x1F210, 0x1F23B), (0x1F240, 0x1F248), (0x1F250, 0x1F251), (0x1FBF0, 0x1FBF9),
  (0x2F800, 0x2FA1D)]

/-- Ranges of characters, each of which stands for one of ASCII: the least and the greatest of them,
and what the least stands for. The others follow it in order. -/
def asciiRuns : Array (Nat × Nat × Char) := #[
  (0xAA, 0xAA, 'a'), (0xB2, 0xB3, '2'), (0xB9, 0xB9, '1'), (0xBA, 0xBA, 'o'), (0x17F, 0x17F, 's'),
  (0x2B0, 0x2B0, 'h'), (0x2B2, 0x2B2, 'j'), (0x2B3, 0x2B3, 'r'), (0x2B7, 0x2B7, 'w'),
  (0x2B8, 0x2B8, 'y'), (0x2E1, 0x2E1, 'l'), (0x2E2, 0x2E2, 's'), (0x2E3, 0x2E3, 'x'),
  (0x37E, 0x37E, ';'), (0x1D2C, 0x1D2C, 'a'), (0x1D2E, 0x1D2E, 'b'), (0x1D30, 0x1D31, 'd'),
  (0x1D33, 0x1D3A, 'g'), (0x1D3C, 0x1D3C, 'o'), (0x1D3E, 0x1D3E, 'p'), (0x1D3F, 0x1D3F, 'r'),
  (0x1D40, 0x1D41, 't'), (0x1D42, 0x1D42, 'w'), (0x1D43, 0x1D43, 'a'), (0x1D47, 0x1D47, 'b'),
  (0x1D48, 0x1D49, 'd'), (0x1D4D, 0x1D4D, 'g'), (0x1D4F, 0x1D4F, 'k'), (0x1D50, 0x1D50, 'm'),
  (0x1D52, 0x1D52, 'o'), (0x1D56, 0x1D56, 'p'), (0x1D57, 0x1D58, 't'), (0x1D5B, 0x1D5B, 'v'),
  (0x1D62, 0x1D62, 'i'), (0x1D63, 0x1D63, 'r'), (0x1D64, 0x1D65, 'u'), (0x1D9C, 0x1D9C, 'c'),
  (0x1DA0, 0x1DA0, 'f'), (0x1DBB, 0x1DBB, 'z'), (0x1FEF, 0x1FEF, '\x60'), (0x2070, 0x2070, '0'),
  (0x2071, 0x2071, 'i'), (0x2074, 0x2079, '4'), (0x207A, 0x207A, '+'), (0x207C, 0x207C, '='),
  (0x207D, 0x207E, '('), (0x207F, 0x207F, 'n'), (0x2080, 0x2089, '0'), (0x208A, 0x208A, '+'),
  (0x208C, 0x208C, '='), (0x208D, 0x208E, '('), (0x2090, 0x2090, 'a'), (0x2091, 0x2091, 'e'),
  (0x2092, 0x2092, 'o'), (0x2093, 0x2093, 'x'), (0x2095, 0x2095, 'h'), (0x2096, 0x2099, 'k'),
  (0x209A, 0x209A, 'p'), (0x209B, 0x209C, 's'), (0x2102, 0x2102, 'c'), (0x210A, 0x210B, 'g'),
  (0x210C, 0x210C, 'h'), (0x210D, 0x210D, 'h'), (0x210E, 0x210E, 'h'), (0x2110, 0x2110, 'i'),
  (0x2111, 0x2111, 'i'), (0x2112, 0x2112, 'l'), (0x2113, 0x2113, 'l'), (0x2115, 0x2115, 'n'),
  (0x2119, 0x211B, 'p'), (0x211C, 0x211C, 'r'), (0x211D, 0x211D, 'r'), (0x2124, 0x2124, 'z'),
  (0x2128, 0x2128, 'z'), (0x212A, 0x212A, 'k'), (0x212C, 0x212D, 'b'), (0x212F, 0x212F, 'e'),
  (0x2130, 0x2131, 'e'), (0x2133, 0x2133, 'm'), (0x2134, 0x2134, 'o'), (0x2139, 0x2139, 'i'),
  (0x2145, 0x2145, 'd'), (0x2146, 0x2147, 'd'), (0x2148, 0x2149, 'i'), (0x2160, 0x2160, 'i'),
  (0x2164, 0x2164, 'v'), (0x2169, 0x2169, 'x'), (0x216C, 0x216C, 'l'), (0x216D, 0x216E, 'c'),
  (0x216F, 0x216F, 'm'), (0x2170, 0x2170, 'i'), (0x2174, 0x2174, 'v'), (0x2179, 0x2179, 'x'),
  (0x217C, 0x217C, 'l'), (0x217D, 0x217E, 'c'), (0x217F, 0x217F, 'm'), (0x2460, 0x2468, '1'),
  (0x24B6, 0x24CF, 'a'), (0x24D0, 0x24E9, 'a'), (0x24EA, 0x24EA, '0'), (0x2C7C, 0x2C7C, 'j'),
  (0x2C7D, 0x2C7D, 'v'), (0x3002, 0x3002, '.'), (0xA7F1, 0xA7F1, 's'), (0xA7F2, 0xA7F2, 'c'),
  (0xA7F3, 0xA7F3, 'f'), (0xA7F4, 0xA7F4, 'q'), (0xFB29, 0xFB29, '+'), (0xFE10, 0xFE10, ','),
  (0xFE14, 0xFE14, ';'), (0xFE15, 0xFE15, '!'), (0xFE33, 0xFE33, '_'), (0xFE34, 0xFE34, '_'),
  (0xFE35, 0xFE36, '('), (0xFE37, 0xFE37, '\x7b'), (0xFE38, 0xFE38, '\x7d'), (0xFE4D, 0xFE4D, '_'),
  (0xFE4E, 0xFE4E, '_'), (0xFE4F, 0xFE4F, '_'), (0xFE50, 0xFE50, ','), (0xFE54, 0xFE54, ';'),
  (0xFE57, 0xFE57, '!'), (0xFE59, 0xFE5A, '('), (0xFE5B, 0xFE5B, '\x7b'), (0xFE5C, 0xFE5C, '\x7d'),
  (0xFE60, 0xFE60, '&'), (0xFE61, 0xFE62, '*'), (0xFE63, 0xFE63, '-'), (0xFE66, 0xFE66, '='),
  (0xFE69, 0xFE69, '$'), (0xFF01, 0xFF02, '!'), (0xFF04, 0xFF04, '$'), (0xFF06, 0xFF0E, '&'),
  (0xFF10, 0xFF19, '0'), (0xFF1B, 0xFF1B, ';'), (0xFF1D, 0xFF1D, '='), (0xFF21, 0xFF3A, 'a'),
  (0xFF3F, 0xFF5B, '_'), (0xFF5D, 0xFF5E, '\x7d'), (0xFF61, 0xFF61, '.'), (0x107A5, 0x107A5, 'q'),
  (0x1CCD6, 0x1CCEF, 'a'), (0x1CCF0, 0x1CCF9, '0'), (0x1D400, 0x1D419, 'a'),
  (0x1D41A, 0x1D433, 'a'), (0x1D434, 0x1D44D, 'a'), (0x1D44E, 0x1D454, 'a'),
  (0x1D456, 0x1D467, 'i'), (0x1D468, 0x1D481, 'a'), (0x1D482, 0x1D49B, 'a'),
  (0x1D49C, 0x1D49C, 'a'), (0x1D49E, 0x1D49F, 'c'), (0x1D4A2, 0x1D4A2, 'g'),
  (0x1D4A5, 0x1D4A6, 'j'), (0x1D4A9, 0x1D4AC, 'n'), (0x1D4AE, 0x1D4B5, 's'),
  (0x1D4B6, 0x1D4B9, 'a'), (0x1D4BB, 0x1D4BB, 'f'), (0x1D4BD, 0x1D4C3, 'h'),
  (0x1D4C5, 0x1D4CF, 'p'), (0x1D4D0, 0x1D4E9, 'a'), (0x1D4EA, 0x1D503, 'a'),
  (0x1D504, 0x1D505, 'a'), (0x1D507, 0x1D50A, 'd'), (0x1D50D, 0x1D514, 'j'),
  (0x1D516, 0x1D51C, 's'), (0x1D51E, 0x1D537, 'a'), (0x1D538, 0x1D539, 'a'),
  (0x1D53B, 0x1D53E, 'd'), (0x1D540, 0x1D544, 'i'), (0x1D546, 0x1D546, 'o'),
  (0x1D54A, 0x1D550, 's'), (0x1D552, 0x1D56B, 'a'), (0x1D56C, 0x1D585, 'a'),
  (0x1D586, 0x1D59F, 'a'), (0x1D5A0, 0x1D5B9, 'a'), (0x1D5BA, 0x1D5D3, 'a'),
  (0x1D5D4, 0x1D5ED, 'a'), (0x1D5EE, 0x1D607, 'a'), (0x1D608, 0x1D621, 'a'),
  (0x1D622, 0x1D63B, 'a'), (0x1D63C, 0x1D655, 'a'), (0x1D656, 0x1D66F, 'a'),
  (0x1D670, 0x1D689, 'a'), (0x1D68A, 0x1D6A3, 'a'), (0x1D7CE, 0x1D7D7, '0'),
  (0x1D7D8, 0x1D7E1, '0'), (0x1D7E2, 0x1D7EB, '0'), (0x1D7EC, 0x1D7F5, '0'),
  (0x1D7F6, 0x1D7FF, '0'), (0x1F12B, 0x1F12B, 'c'), (0x1F12C, 0x1F12C, 'r'),
  (0x1F130, 0x1F149, 'a'), (0x1FBF0, 0x1FBF9, '0')]

/-- Characters that stand for several, of which some are of ASCII. -/
def asciiTexts : List (Char × String) := [
  ('¼', "1⁄4"), ('½', "1⁄2"), ('¾', "3⁄4"), ('İ', "i̇"), ('Ĳ', "ij"), ('ĳ', "ij"), ('Ŀ', "l·"),
  ('ŀ', "l·"), ('ŉ', "ʼn"), ('Ǆ', "dž"), ('ǅ', "dž"), ('ǆ', "dž"), ('Ǉ', "lj"), ('ǈ', "lj"),
  ('ǉ', "lj"), ('Ǌ', "nj"), ('ǋ', "nj"), ('ǌ', "nj"), ('Ǳ', "dz"), ('ǲ', "dz"), ('ǳ', "dz"),
  ('ẚ', "aʾ"), ('‼', "!!"), ('₨', "rs"), ('℃', "°c"), ('℉', "°f"), ('№', "no"), ('℠', "sm"),
  ('℡', "tel"), ('™', "tm"), ('℻', "fax"), ('⅐', "1⁄7"), ('⅑', "1⁄9"), ('⅒', "1⁄10"), ('⅓', "1⁄3"),
  ('⅔', "2⁄3"), ('⅕', "1⁄5"), ('⅖', "2⁄5"), ('⅗', "3⁄5"), ('⅘', "4⁄5"), ('⅙', "1⁄6"), ('⅚', "5⁄6"),
  ('⅛', "1⁄8"), ('⅜', "3⁄8"), ('⅝', "5⁄8"), ('⅞', "7⁄8"), ('⅟', "1⁄"), ('Ⅱ', "ii"), ('Ⅲ', "iii"),
  ('Ⅳ', "iv"), ('Ⅵ', "vi"), ('Ⅶ', "vii"), ('Ⅷ', "viii"), ('Ⅸ', "ix"), ('Ⅺ', "xi"), ('Ⅻ', "xii"),
  ('ⅱ', "ii"), ('ⅲ', "iii"), ('ⅳ', "iv"), ('ⅵ', "vi"), ('ⅶ', "vii"), ('ⅷ', "viii"), ('ⅸ', "ix"),
  ('ⅺ', "xi"), ('ⅻ', "xii"), ('↉', "0⁄3"), ('⑩', "10"), ('⑪', "11"), ('⑫', "12"), ('⑬', "13"),
  ('⑭', "14"), ('⑮', "15"), ('⑯', "16"), ('⑰', "17"), ('⑱', "18"), ('⑲', "19"), ('⑳', "20"),
  ('⑴', "(1)"), ('⑵', "(2)"), ('⑶', "(3)"), ('⑷', "(4)"), ('⑸', "(5)"), ('⑹', "(6)"), ('⑺', "(7)"),
  ('⑻', "(8)"), ('⑼', "(9)"), ('⑽', "(10)"), ('⑾', "(11)"), ('⑿', "(12)"), ('⒀', "(13)"),
  ('⒁', "(14)"), ('⒂', "(15)"), ('⒃', "(16)"), ('⒄', "(17)"), ('⒅', "(18)"), ('⒆', "(19)"),
  ('⒇', "(20)"), ('⒜', "(a)"), ('⒝', "(b)"), ('⒞', "(c)"), ('⒟', "(d)"), ('⒠', "(e)"), ('⒡', "(f)"),
  ('⒢', "(g)"), ('⒣', "(h)"), ('⒤', "(i)"), ('⒥', "(j)"), ('⒦', "(k)"), ('⒧', "(l)"), ('⒨', "(m)"),
  ('⒩', "(n)"), ('⒪', "(o)"), ('⒫', "(p)"), ('⒬', "(q)"), ('⒭', "(r)"), ('⒮', "(s)"), ('⒯', "(t)"),
  ('⒰', "(u)"), ('⒱', "(v)"), ('⒲', "(w)"), ('⒳', "(x)"), ('⒴', "(y)"), ('⒵', "(z)"), ('⩵', "=="),
  ('⩶', "==="), ('㈀', "(ᄀ)"), ('㈁', "(ᄂ)"), ('㈂', "(ᄃ)"), ('㈃', "(ᄅ)"), ('㈄', "(ᄆ)"), ('㈅', "(ᄇ)"),
  ('㈆', "(ᄉ)"), ('㈇', "(ᄋ)"), ('㈈', "(ᄌ)"), ('㈉', "(ᄎ)"), ('㈊', "(ᄏ)"), ('㈋', "(ᄐ)"), ('㈌', "(ᄑ)"),
  ('㈍', "(ᄒ)"), ('㈎', "(가)"), ('㈏', "(나)"), ('㈐', "(다)"), ('㈑', "(라)"), ('㈒', "(마)"), ('㈓', "(바)"),
  ('㈔', "(사)"), ('㈕', "(아)"), ('㈖', "(자)"), ('㈗', "(차)"), ('㈘', "(카)"), ('㈙', "(타)"), ('㈚', "(파)"),
  ('㈛', "(하)"), ('㈜', "(주)"), ('㈝', "(오전)"), ('㈞', "(오후)"), ('㈠', "(一)"), ('㈡', "(二)"),
  ('㈢', "(三)"), ('㈣', "(四)"), ('㈤', "(五)"), ('㈥', "(六)"), ('㈦', "(七)"), ('㈧', "(八)"), ('㈨', "(九)"),
  ('㈩', "(十)"), ('㈪', "(月)"), ('㈫', "(火)"), ('㈬', "(水)"), ('㈭', "(木)"), ('㈮', "(金)"), ('㈯', "(土)"),
  ('㈰', "(日)"), ('㈱', "(株)"), ('㈲', "(有)"), ('㈳', "(社)"), ('㈴', "(名)"), ('㈵', "(特)"), ('㈶', "(財)"),
  ('㈷', "(祝)"), ('㈸', "(労)"), ('㈹', "(代)"), ('㈺', "(呼)"), ('㈻', "(学)"), ('㈼', "(監)"), ('㈽', "(企)"),
  ('㈾', "(資)"), ('㈿', "(協)"), ('㉀', "(祭)"), ('㉁', "(休)"), ('㉂', "(自)"), ('㉃', "(至)"), ('㉐', "pte"),
  ('㉑', "21"), ('㉒', "22"), ('㉓', "23"), ('㉔', "24"), ('㉕', "25"), ('㉖', "26"), ('㉗', "27"),
  ('㉘', "28"), ('㉙', "29"), ('㉚', "30"), ('㉛', "31"), ('㉜', "32"), ('㉝', "33"), ('㉞', "34"),
  ('㉟', "35"), ('㊱', "36"), ('㊲', "37"), ('㊳', "38"), ('㊴', "39"), ('㊵', "40"), ('㊶', "41"),
  ('㊷', "42"), ('㊸', "43"), ('㊹', "44"), ('㊺', "45"), ('㊻', "46"), ('㊼', "47"), ('㊽', "48"),
  ('㊾', "49"), ('㊿', "50"), ('㋀', "1月"), ('㋁', "2月"), ('㋂', "3月"), ('㋃', "4月"), ('㋄', "5月"),
  ('㋅', "6月"), ('㋆', "7月"), ('㋇', "8月"), ('㋈', "9月"), ('㋉', "10月"), ('㋊', "11月"), ('㋋', "12月"),
  ('㋌', "hg"), ('㋍', "erg"), ('㋎', "ev"), ('㋏', "ltd"), ('㍘', "0点"), ('㍙', "1点"), ('㍚', "2点"),
  ('㍛', "3点"), ('㍜', "4点"), ('㍝', "5点"), ('㍞', "6点"), ('㍟', "7点"), ('㍠', "8点"), ('㍡', "9点"),
  ('㍢', "10点"), ('㍣', "11点"), ('㍤', "12点"), ('㍥', "13点"), ('㍦', "14点"), ('㍧', "15点"), ('㍨', "16点"),
  ('㍩', "17点"), ('㍪', "18点"), ('㍫', "19点"), ('㍬', "20点"), ('㍭', "21点"), ('㍮', "22点"), ('㍯', "23点"),
  ('㍰', "24点"), ('㍱', "hpa"), ('㍲', "da"), ('㍳', "au"), ('㍴', "bar"), ('㍵', "ov"), ('㍶', "pc"),
  ('㍷', "dm"), ('㍸', "dm2"), ('㍹', "dm3"), ('㍺', "iu"), ('㎀', "pa"), ('㎁', "na"), ('㎂', "μa"),
  ('㎃', "ma"), ('㎄', "ka"), ('㎅', "kb"), ('㎆', "mb"), ('㎇', "gb"), ('㎈', "cal"), ('㎉', "kcal"),
  ('㎊', "pf"), ('㎋', "nf"), ('㎌', "μf"), ('㎍', "μg"), ('㎎', "mg"), ('㎏', "kg"), ('㎐', "hz"),
  ('㎑', "khz"), ('㎒', "mhz"), ('㎓', "ghz"), ('㎔', "thz"), ('㎕', "μl"), ('㎖', "ml"), ('㎗', "dl"),
  ('㎘', "kl"), ('㎙', "fm"), ('㎚', "nm"), ('㎛', "μm"), ('㎜', "mm"), ('㎝', "cm"), ('㎞', "km"),
  ('㎟', "mm2"), ('㎠', "cm2"), ('㎡', "m2"), ('㎢', "km2"), ('㎣', "mm3"), ('㎤', "cm3"), ('㎥', "m3"),
  ('㎦', "km3"), ('㎧', "m∕s"), ('㎨', "m∕s2"), ('㎩', "pa"), ('㎪', "kpa"), ('㎫', "mpa"), ('㎬', "gpa"),
  ('㎭', "rad"), ('㎮', "rad∕s"), ('㎯', "rad∕s2"), ('㎰', "ps"), ('㎱', "ns"), ('㎲', "μs"), ('㎳', "ms"),
  ('㎴', "pv"), ('㎵', "nv"), ('㎶', "μv"), ('㎷', "mv"), ('㎸', "kv"), ('㎹', "mv"), ('㎺', "pw"),
  ('㎻', "nw"), ('㎼', "μw"), ('㎽', "mw"), ('㎾', "kw"), ('㎿', "mw"), ('㏀', "kω"), ('㏁', "mω"),
  ('㏃', "bq"), ('㏄', "cc"), ('㏅', "cd"), ('㏆', "c∕kg"), ('㏈', "db"), ('㏉', "gy"), ('㏊', "ha"),
  ('㏋', "hp"), ('㏌', "in"), ('㏍', "kk"), ('㏎', "km"), ('㏏', "kt"), ('㏐', "lm"), ('㏑', "ln"),
  ('㏒', "log"), ('㏓', "lx"), ('㏔', "mb"), ('㏕', "mil"), ('㏖', "mol"), ('㏗', "ph"), ('㏙', "ppm"),
  ('㏚', "pr"), ('㏛', "sr"), ('㏜', "sv"), ('㏝', "wb"), ('㏞', "v∕m"), ('㏟', "a∕m"), ('㏠', "1日"),
  ('㏡', "2日"), ('㏢', "3日"), ('㏣', "4日"), ('㏤', "5日"), ('㏥', "6日"), ('㏦', "7日"), ('㏧', "8日"),
  ('㏨', "9日"), ('㏩', "10日"), ('㏪', "11日"), ('㏫', "12日"), ('㏬', "13日"), ('㏭', "14日"), ('㏮', "15日"),
  ('㏯', "16日"), ('㏰', "17日"), ('㏱', "18日"), ('㏲', "19日"), ('㏳', "20日"), ('㏴', "21日"), ('㏵', "22日"),
  ('㏶', "23日"), ('㏷', "24日"), ('㏸', "25日"), ('㏹', "26日"), ('㏺', "27日"), ('㏻', "28日"), ('㏼', "29日"),
  ('㏽', "30日"), ('㏾', "31日"), ('㏿', "gal"), ('ﬀ', "ff"), ('ﬁ', "fi"), ('ﬂ', "fl"), ('ﬃ', "ffi"),
  ('ﬄ', "ffl"), ('ﬅ', "st"), ('ﬆ', "st"), ('🄁', "0,"), ('🄂', "1,"), ('🄃', "2,"), ('🄄', "3,"),
  ('🄅', "4,"), ('🄆', "5,"), ('🄇', "6,"), ('🄈', "7,"), ('🄉', "8,"), ('🄊', "9,"), ('🄐', "(a)"),
  ('🄑', "(b)"), ('🄒', "(c)"), ('🄓', "(d)"), ('🄔', "(e)"), ('🄕', "(f)"), ('🄖', "(g)"), ('🄗', "(h)"),
  ('🄘', "(i)"), ('🄙', "(j)"), ('🄚', "(k)"), ('🄛', "(l)"), ('🄜', "(m)"), ('🄝', "(n)"), ('🄞', "(o)"),
  ('🄟', "(p)"), ('🄠', "(q)"), ('🄡', "(r)"), ('🄢', "(s)"), ('🄣', "(t)"), ('🄤', "(u)"), ('🄥', "(v)"),
  ('🄦', "(w)"), ('🄧', "(x)"), ('🄨', "(y)"), ('🄩', "(z)"), ('🄪', "〔s〕"), ('🄭', "cd"), ('🄮', "wz"),
  ('🅊', "hv"), ('🅋', "mv"), ('🅌', "sd"), ('🅍', "ss"), ('🅎', "ppv"), ('🅏', "wc"), ('🅪', "mc"),
  ('🅫', "md"), ('🅬', "mr"), ('🆐', "dj")]

/-- Whether a character joins two others or keeps them apart. -/
def isJoiner (c : Char) : Bool := c = '\u200C' || c = '\u200D'

/-- Whether a character that is not of ASCII may not be in a name. -/
def isRefused (c : Char) : Bool :=
  refused.contains c || (Category.isSilent c && !ignored.contains c && !isJoiner c)

/-- What a character that is not of ASCII stands for, when that holds some of ASCII. -/
def asciiText? (c : Char) : Option (List Char) :=
  let run := asciiRuns.find? fun (least, greatest, _) => least ≤ c.toNat && c.toNat ≤ greatest
  match run with
  | some (least, _, first) => some [Char.ofNat (first.toNat + (c.toNat - least))]
  | none => (asciiTexts.find? (·.1 = c)).map (·.2.toList)

/-- The characters that one stands for, if it may be in a name. -/
def mapped? (c : Char) : Option (List Char) :=
  if c.toNat < 128 then some [c.toLower]
  else if isRefused c then none
  else if ignored.contains c then some []
  else some ((asciiText? c).getD [c])

/-- Whether a character may be in a name and stands for itself. -/
def standsForItself (c : Char) : Bool :=
  if c.toNat < 128 then c.toLower = c
  else !isRefused c && !ignored.contains c && !replaced.contains c

end GameFleet.Domain
