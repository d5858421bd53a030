/-!
# General categories of the Unicode characters beyond ASCII, version 14

Every character has one of thirty general categories. The characters beyond ASCII form runs of one
category; each run is given by its first code point and lasts until the next one starts.
-/

namespace Pseudonym.Text

/-- The general category of a character. -/
inductive Category where
  | upperLetter | lowerLetter | titleLetter | modifierLetter | otherLetter
  | nonspacingMark | spacingMark | enclosingMark
  | decimalNumber | letterNumber | otherNumber
  | connectorPunctuation | dashPunctuation | openPunctuation | closePunctuation
  | initialPunctuation | finalPunctuation | otherPunctuation
  | mathSymbol | currencySymbol | modifierSymbol | otherSymbol
  | spaceSeparator | lineSeparator | paragraphSeparator
  | control | format | surrogate | privateUse | unassigned
deriving DecidableEq, Repr, Inhabited

namespace CategoryRuns

open Category

def from7F : List (Nat × Category) := [
  (0x7f, control), (0xa0, spaceSeparator), (0xa1, otherPunctuation), (0xa2, currencySymbol),
  (0xa6, otherSymbol), (0xa7, otherPunctuation), (0xa8, modifierSymbol), (0xa9, otherSymbol),
  (0xaa, otherLetter), (0xab, initialPunctuation), (0xac, mathSymbol), (0xad, format),
  (0xae, otherSymbol), (0xaf, modifierSymbol), (0xb0, otherSymbol), (0xb1, mathSymbol),
  (0xb2, otherNumber), (0xb4, modifierSymbol), (0xb5, lowerLetter), (0xb6, otherPunctuation),
  (0xb8, modifierSymbol), (0xb9, otherNumber), (0xba, otherLetter), (0xbb, finalPunctuation),
  (0xbc, otherNumber), (0xbf, otherPunctuation), (0xc0, upperLetter), (0xd7, mathSymbol),
  (0xd8, upperLetter), (0xdf, lowerLetter), (0xf7, mathSymbol), (0xf8, lowerLetter),
  (0x100, upperLetter), (0x101, lowerLetter), (0x102, upperLetter), (0x103, lowerLetter),
  (0x104, upperLetter), (0x105, lowerLetter), (0x106, upperLetter), (0x107, lowerLetter),
  (0x108, upperLetter), (0x109, lowerLetter), (0x10a, upperLetter), (0x10b, lowerLetter),
  (0x10c, upperLetter), (0x10d, lowerLetter), (0x10e, upperLetter), (0x10f, lowerLetter),
  (0x110, upperLetter), (0x111, lowerLetter), (0x112, upperLetter), (0x113, lowerLetter),
  (0x114, upperLetter), (0x115, lowerLetter), (0x116, upperLetter), (0x117, lowerLetter),
  (0x118, upperLetter), (0x119, lowerLetter), (0x11a, upperLetter), (0x11b, lowerLetter),
  (0x11c, upperLetter), (0x11d, lowerLetter), (0x11e, upperLetter), (0x11f, lowerLetter),
  (0x120, upperLetter), (0x121, lowerLetter), (0x122, upperLetter), (0x123, lowerLetter),
  (0x124, upperLetter), (0x125, lowerLetter), (0x126, upperLetter), (0x127, lowerLetter),
  (0x128, upperLetter), (0x129, lowerLetter), (0x12a, upperLetter), (0x12b, lowerLetter),
  (0x12c, upperLetter), (0x12d, lowerLetter), (0x12e, upperLetter), (0x12f, lowerLetter),
  (0x130, upperLetter), (0x131, lowerLetter), (0x132, upperLetter), (0x133, lowerLetter),
  (0x134, upperLetter), (0x135, lowerLetter), (0x136, upperLetter), (0x137, lowerLetter),
  (0x139, upperLetter), (0x13a, lowerLetter), (0x13b, upperLetter), (0x13c, lowerLetter),
  (0x13d, upperLetter), (0x13e, lowerLetter), (0x13f, upperLetter), (0x140, lowerLetter),
  (0x141, upperLetter), (0x142, lowerLetter), (0x143, upperLetter), (0x144, lowerLetter),
  (0x145, upperLetter), (0x146, lowerLetter), (0x147, upperLetter), (0x148, lowerLetter),
  (0x14a, upperLetter), (0x14b, lowerLetter), (0x14c, upperLetter), (0x14d, lowerLetter),
  (0x14e, upperLetter), (0x14f, lowerLetter), (0x150, upperLetter), (0x151, lowerLetter),
  (0x152, upperLetter), (0x153, lowerLetter), (0x154, upperLetter), (0x155, lowerLetter),
  (0x156, upperLetter), (0x157, lowerLetter), (0x158, upperLetter), (0x159, lowerLetter),
  (0x15a, upperLetter), (0x15b, lowerLetter), (0x15c, upperLetter), (0x15d, lowerLetter),
  (0x15e, upperLetter), (0x15f, lowerLetter), (0x160, upperLetter), (0x161, lowerLetter),
  (0x162, upperLetter), (0x163, lowerLetter), (0x164, upperLetter), (0x165, lowerLetter),
  (0x166, upperLetter), (0x167, lowerLetter), (0x168, upperLetter), (0x169, lowerLetter),
  (0x16a, upperLetter), (0x16b, lowerLetter), (0x16c, upperLetter), (0x16d, lowerLetter),
  (0x16e, upperLetter), (0x16f, lowerLetter), (0x170, upperLetter), (0x171, lowerLetter),
  (0x172, upperLetter), (0x173, lowerLetter), (0x174, upperLetter), (0x175, lowerLetter),
  (0x176, upperLetter), (0x177, lowerLetter), (0x178, upperLetter), (0x17a, lowerLetter),
  (0x17b, upperLetter), (0x17c, lowerLetter), (0x17d, upperLetter), (0x17e, lowerLetter),
  (0x181, upperLetter), (0x183, lowerLetter), (0x184, upperLetter), (0x185, lowerLetter),
  (0x186, upperLetter), (0x188, lowerLetter), (0x189, upperLetter), (0x18c, lowerLetter),
  (0x18e, upperLetter), (0x192, lowerLetter), (0x193, upperLetter), (0x195, lowerLetter),
  (0x196, upperLetter), (0x199, lowerLetter), (0x19c, upperLetter), (0x19e, lowerLetter),
  (0x19f, upperLetter), (0x1a1, lowerLetter), (0x1a2, upperLetter), (0x1a3, lowerLetter),
  (0x1a4, upperLetter), (0x1a5, lowerLetter), (0x1a6, upperLetter), (0x1a8, lowerLetter),
  (0x1a9, upperLetter), (0x1aa, lowerLetter), (0x1ac, upperLetter), (0x1ad, lowerLetter),
  (0x1ae, upperLetter), (0x1b0, lowerLetter), (0x1b1, upperLetter), (0x1b4, lowerLetter),
  (0x1b5, upperLetter), (0x1b6, lowerLetter), (0x1b7, upperLetter), (0x1b9, lowerLetter),
  (0x1bb, otherLetter), (0x1bc, upperLetter), (0x1bd, lowerLetter), (0x1c0, otherLetter),
  (0x1c4, upperLetter), (0x1c5, titleLetter), (0x1c6, lowerLetter), (0x1c7, upperLetter),
  (0x1c8, titleLetter), (0x1c9, lowerLetter), (0x1ca, upperLetter), (0x1cb, titleLetter),
  (0x1cc, lowerLetter), (0x1cd, upperLetter), (0x1ce, lowerLetter), (0x1cf, upperLetter),
  (0x1d0, lowerLetter), (0x1d1, upperLetter), (0x1d2, lowerLetter), (0x1d3, upperLetter),
  (0x1d4, lowerLetter), (0x1d5, upperLetter), (0x1d6, lowerLetter), (0x1d7, upperLetter),
  (0x1d8, lowerLetter), (0x1d9, upperLetter), (0x1da, lowerLetter), (0x1db, upperLetter),
  (0x1dc, lowerLetter), (0x1de, upperLetter), (0x1df, lowerLetter), (0x1e0, upperLetter),
  (0x1e1, lowerLetter), (0x1e2, upperLetter), (0x1e3, lowerLetter), (0x1e4, upperLetter),
  (0x1e5, lowerLetter), (0x1e6, upperLetter), (0x1e7, lowerLetter), (0x1e8, upperLetter),
  (0x1e9, lowerLetter), (0x1ea, upperLetter), (0x1eb, lowerLetter), (0x1ec, upperLetter),
  (0x1ed, lowerLetter), (0x1ee, upperLetter), (0x1ef, lowerLetter), (0x1f1, upperLetter),
  (0x1f2, titleLetter), (0x1f3, lowerLetter), (0x1f4, upperLetter), (0x1f5, lowerLetter),
  (0x1f6, upperLetter), (0x1f9, lowerLetter), (0x1fa, upperLetter), (0x1fb, lowerLetter),
  (0x1fc, upperLetter), (0x1fd, lowerLetter), (0x1fe, upperLetter), (0x1ff, lowerLetter),
  (0x200, upperLetter), (0x201, lowerLetter), (0x202, upperLetter), (0x203, lowerLetter)]

def from204 : List (Nat × Category) := [
  (0x204, upperLetter), (0x205, lowerLetter), (0x206, upperLetter), (0x207, lowerLetter),
  (0x208, upperLetter), (0x209, lowerLetter), (0x20a, upperLetter), (0x20b, lowerLetter),
  (0x20c, upperLetter), (0x20d, lowerLetter), (0x20e, upperLetter), (0x20f, lowerLetter),
  (0x210, upperLetter), (0x211, lowerLetter), (0x212, upperLetter), (0x213, lowerLetter),
  (0x214, upperLetter), (0x215, lowerLetter), (0x216, upperLetter), (0x217, lowerLetter),
  (0x218, upperLetter), (0x219, lowerLetter), (0x21a, upperLetter), (0x21b, lowerLetter),
  (0x21c, upperLetter), (0x21d, lowerLetter), (0x21e, upperLetter), (0x21f, lowerLetter),
  (0x220, upperLetter), (0x221, lowerLetter), (0x222, upperLetter), (0x223, lowerLetter),
  (0x224, upperLetter), (0x225, lowerLetter), (0x226, upperLetter), (0x227, lowerLetter),
  (0x228, upperLetter), (0x229, lowerLetter), (0x22a, upperLetter), (0x22b, lowerLetter),
  (0x22c, upperLetter), (0x22d, lowerLetter), (0x22e, upperLetter), (0x22f, lowerLetter),
  (0x230, upperLetter), (0x231, lowerLetter), (0x232, upperLetter), (0x233, lowerLetter),
  (0x23a, upperLetter), (0x23c, lowerLetter), (0x23d, upperLetter), (0x23f, lowerLetter),
  (0x241, upperLetter), (0x242, lowerLetter), (0x243, upperLetter), (0x247, lowerLetter),
  (0x248, upperLetter), (0x249, lowerLetter), (0x24a, upperLetter), (0x24b, lowerLetter),
  (0x24c, upperLetter), (0x24d, lowerLetter), (0x24e, upperLetter), (0x24f, lowerLetter),
  (0x294, otherLetter), (0x295, lowerLetter), (0x2b0, modifierLetter), (0x2c2, modifierSymbol),
  (0x2c6, modifierLetter), (0x2d2, modifierSymbol), (0x2e0, modifierLetter),
  (0x2e5, modifierSymbol), (0x2ec, modifierLetter), (0x2ed, modifierSymbol),
  (0x2ee, modifierLetter), (0x2ef, modifierSymbol), (0x300, nonspacingMark), (0x370, upperLetter),
  (0x371, lowerLetter), (0x372, upperLetter), (0x373, lowerLetter), (0x374, modifierLetter),
  (0x375, modifierSymbol), (0x376, upperLetter), (0x377, lowerLetter), (0x378, unassigned),
  (0x37a, modifierLetter), (0x37b, lowerLetter), (0x37e, otherPunctuation), (0x37f, upperLetter),
  (0x380, unassigned), (0x384, modifierSymbol), (0x386, upperLetter), (0x387, otherPunctuation),
  (0x388, upperLetter), (0x38b, unassigned), (0x38c, upperLetter), (0x38d, unassigned),
  (0x38e, upperLetter), (0x390, lowerLetter), (0x391, upperLetter), (0x3a2, unassigned),
  (0x3a3, upperLetter), (0x3ac, lowerLetter), (0x3cf, upperLetter), (0x3d0, lowerLetter),
  (0x3d2, upperLetter), (0x3d5, lowerLetter), (0x3d8, upperLetter), (0x3d9, lowerLetter),
  (0x3da, upperLetter), (0x3db, lowerLetter), (0x3dc, upperLetter), (0x3dd, lowerLetter),
  (0x3de, upperLetter), (0x3df, lowerLetter), (0x3e0, upperLetter), (0x3e1, lowerLetter),
  (0x3e2, upperLetter), (0x3e3, lowerLetter), (0x3e4, upperLetter), (0x3e5, lowerLetter),
  (0x3e6, upperLetter), (0x3e7, lowerLetter), (0x3e8, upperLetter), (0x3e9, lowerLetter),
  (0x3ea, upperLetter), (0x3eb, lowerLetter), (0x3ec, upperLetter), (0x3ed, lowerLetter),
  (0x3ee, upperLetter), (0x3ef, lowerLetter), (0x3f4, upperLetter), (0x3f5, lowerLetter),
  (0x3f6, mathSymbol), (0x3f7, upperLetter), (0x3f8, lowerLetter), (0x3f9, upperLetter),
  (0x3fb, lowerLetter), (0x3fd, upperLetter), (0x430, lowerLetter), (0x460, upperLetter),
  (0x461, lowerLetter), (0x462, upperLetter), (0x463, lowerLetter), (0x464, upperLetter),
  (0x465, lowerLetter), (0x466, upperLetter), (0x467, lowerLetter), (0x468, upperLetter),
  (0x469, lowerLetter), (0x46a, upperLetter), (0x46b, lowerLetter), (0x46c, upperLetter),
  (0x46d, lowerLetter), (0x46e, upperLetter), (0x46f, lowerLetter), (0x470, upperLetter),
  (0x471, lowerLetter), (0x472, upperLetter), (0x473, lowerLetter), (0x474, upperLetter),
  (0x475, lowerLetter), (0x476, upperLetter), (0x477, lowerLetter), (0x478, upperLetter),
  (0x479, lowerLetter), (0x47a, upperLetter), (0x47b, lowerLetter), (0x47c, upperLetter),
  (0x47d, lowerLetter), (0x47e, upperLetter), (0x47f, lowerLetter), (0x480, upperLetter),
  (0x481, lowerLetter), (0x482, otherSymbol), (0x483, nonspacingMark), (0x488, enclosingMark),
  (0x48a, upperLetter), (0x48b, lowerLetter), (0x48c, upperLetter), (0x48d, lowerLetter),
  (0x48e, upperLetter), (0x48f, lowerLetter), (0x490, upperLetter), (0x491, lowerLetter),
  (0x492, upperLetter), (0x493, lowerLetter), (0x494, upperLetter), (0x495, lowerLetter),
  (0x496, upperLetter), (0x497, lowerLetter), (0x498, upperLetter), (0x499, lowerLetter),
  (0x49a, upperLetter), (0x49b, lowerLetter), (0x49c, upperLetter), (0x49d, lowerLetter),
  (0x49e, upperLetter), (0x49f, lowerLetter), (0x4a0, upperLetter), (0x4a1, lowerLetter),
  (0x4a2, upperLetter), (0x4a3, lowerLetter), (0x4a4, upperLetter), (0x4a5, lowerLetter),
  (0x4a6, upperLetter), (0x4a7, lowerLetter), (0x4a8, upperLetter), (0x4a9, lowerLetter),
  (0x4aa, upperLetter), (0x4ab, lowerLetter), (0x4ac, upperLetter), (0x4ad, lowerLetter),
  (0x4ae, upperLetter), (0x4af, lowerLetter), (0x4b0, upperLetter), (0x4b1, lowerLetter),
  (0x4b2, upperLetter), (0x4b3, lowerLetter), (0x4b4, upperLetter), (0x4b5, lowerLetter),
  (0x4b6, upperLetter), (0x4b7, lowerLetter), (0x4b8, upperLetter), (0x4b9, lowerLetter),
  (0x4ba, upperLetter), (0x4bb, lowerLetter), (0x4bc, upperLetter), (0x4bd, lowerLetter),
  (0x4be, upperLetter), (0x4bf, lowerLetter), (0x4c0, upperLetter), (0x4c2, lowerLetter),
  (0x4c3, upperLetter), (0x4c4, lowerLetter), (0x4c5, upperLetter), (0x4c6, lowerLetter),
  (0x4c7, upperLetter), (0x4c8, lowerLetter), (0x4c9, upperLetter), (0x4ca, lowerLetter),
  (0x4cb, upperLetter), (0x4cc, lowerLetter), (0x4cd, upperLetter), (0x4ce, lowerLetter),
  (0x4d0, upperLetter), (0x4d1, lowerLetter), (0x4d2, upperLetter), (0x4d3, lowerLetter),
  (0x4d4, upperLetter), (0x4d5, lowerLetter), (0x4d6, upperLetter), (0x4d7, lowerLetter),
  (0x4d8, upperLetter), (0x4d9, lowerLetter)]

def from4DA : List (Nat × Category) := [
  (0x4da, upperLetter), (0x4db, lowerLetter), (0x4dc, upperLetter), (0x4dd, lowerLetter),
  (0x4de, upperLetter), (0x4df, lowerLetter), (0x4e0, upperLetter), (0x4e1, lowerLetter),
  (0x4e2, upperLetter), (0x4e3, lowerLetter), (0x4e4, upperLetter), (0x4e5, lowerLetter),
  (0x4e6, upperLetter), (0x4e7, lowerLetter), (0x4e8, upperLetter), (0x4e9, lowerLetter),
  (0x4ea, upperLetter), (0x4eb, lowerLetter), (0x4ec, upperLetter), (0x4ed, lowerLetter),
  (0x4ee, upperLetter), (0x4ef, lowerLetter), (0x4f0, upperLetter), (0x4f1, lowerLetter),
  (0x4f2, upperLetter), (0x4f3, lowerLetter), (0x4f4, upperLetter), (0x4f5, lowerLetter),
  (0x4f6, upperLetter), (0x4f7, lowerLetter), (0x4f8, upperLetter), (0x4f9, lowerLetter),
  (0x4fa, upperLetter), (0x4fb, lowerLetter), (0x4fc, upperLetter), (0x4fd, lowerLetter),
  (0x4fe, upperLetter), (0x4ff, lowerLetter), (0x500, upperLetter), (0x501, lowerLetter),
  (0x502, upperLetter), (0x503, lowerLetter), (0x504, upperLetter), (0x505, lowerLetter),
  (0x506, upperLetter), (0x507, lowerLetter), (0x508, upperLetter), (0x509, lowerLetter),
  (0x50a, upperLetter), (0x50b, lowerLetter), (0x50c, upperLetter), (0x50d, lowerLetter),
  (0x50e, upperLetter), (0x50f, lowerLetter), (0x510, upperLetter), (0x511, lowerLetter),
  (0x512, upperLetter), (0x513, lowerLetter), (0x514, upperLetter), (0x515, lowerLetter),
  (0x516, upperLetter), (0x517, lowerLetter), (0x518, upperLetter), (0x519, lowerLetter),
  (0x51a, upperLetter), (0x51b, lowerLetter), (0x51c, upperLetter), (0x51d, lowerLetter),
  (0x51e, upperLetter), (0x51f, lowerLetter), (0x520, upperLetter), (0x521, lowerLetter),
  (0x522, upperLetter), (0x523, lowerLetter), (0x524, upperLetter), (0x525, lowerLetter),
  (0x526, upperLetter), (0x527, lowerLetter), (0x528, upperLetter), (0x529, lowerLetter),
  (0x52a, upperLetter), (0x52b, lowerLetter), (0x52c, upperLetter), (0x52d, lowerLetter),
  (0x52e, upperLetter), (0x52f, lowerLetter), (0x530, unassigned), (0x531, upperLetter),
  (0x557, unassigned), (0x559, modifierLetter), (0x55a, otherPunctuation), (0x560, lowerLetter),
  (0x589, otherPunctuation), (0x58a, dashPunctuation), (0x58b, unassigned), (0x58d, otherSymbol),
  (0x58f, currencySymbol), (0x590, unassigned), (0x591, nonspacingMark), (0x5be, dashPunctuation),
  (0x5bf, nonspacingMark), (0x5c0, otherPunctuation), (0x5c1, nonspacingMark),
  (0x5c3, otherPunctuation), (0x5c4, nonspacingMark), (0x5c6, otherPunctuation),
  (0x5c7, nonspacingMark), (0x5c8, unassigned), (0x5d0, otherLetter), (0x5eb, unassigned),
  (0x5ef, otherLetter), (0x5f3, otherPunctuation), (0x5f5, unassigned), (0x600, format),
  (0x606, mathSymbol), (0x609, otherPunctuation), (0x60b, currencySymbol),
  (0x60c, otherPunctuation), (0x60e, otherSymbol), (0x610, nonspacingMark),
  (0x61b, otherPunctuation), (0x61c, format), (0x61d, otherPunctuation), (0x620, otherLetter),
  (0x640, modifierLetter), (0x641, otherLetter), (0x64b, nonspacingMark), (0x660, decimalNumber),
  (0x66a, otherPunctuation), (0x66e, otherLetter), (0x670, nonspacingMark), (0x671, otherLetter),
  (0x6d4, otherPunctuation), (0x6d5, otherLetter), (0x6d6, nonspacingMark), (0x6dd, format),
  (0x6de, otherSymbol), (0x6df, nonspacingMark), (0x6e5, modifierLetter), (0x6e7, nonspacingMark),
  (0x6e9, otherSymbol), (0x6ea, nonspacingMark), (0x6ee, otherLetter), (0x6f0, decimalNumber),
  (0x6fa, otherLetter), (0x6fd, otherSymbol), (0x6ff, otherLetter), (0x700, otherPunctuation),
  (0x70e, unassigned), (0x70f, format), (0x710, otherLetter), (0x711, nonspacingMark),
  (0x712, otherLetter), (0x730, nonspacingMark), (0x74b, unassigned), (0x74d, otherLetter),
  (0x7a6, nonspacingMark), (0x7b1, otherLetter), (0x7b2, unassigned), (0x7c0, decimalNumber),
  (0x7ca, otherLetter), (0x7eb, nonspacingMark), (0x7f4, modifierLetter), (0x7f6, otherSymbol),
  (0x7f7, otherPunctuation), (0x7fa, modifierLetter), (0x7fb, unassigned), (0x7fd, nonspacingMark),
  (0x7fe, currencySymbol), (0x800, otherLetter), (0x816, nonspacingMark), (0x81a, modifierLetter),
  (0x81b, nonspacingMark), (0x824, modifierLetter), (0x825, nonspacingMark),
  (0x828, modifierLetter), (0x829, nonspacingMark), (0x82e, unassigned), (0x830, otherPunctuation),
  (0x83f, unassigned), (0x840, otherLetter), (0x859, nonspacingMark), (0x85c, unassigned),
  (0x85e, otherPunctuation), (0x85f, unassigned), (0x860, otherLetter), (0x86b, unassigned),
  (0x870, otherLetter), (0x888, modifierSymbol), (0x889, otherLetter), (0x88f, unassigned),
  (0x890, format), (0x892, unassigned), (0x898, nonspacingMark), (0x8a0, otherLetter),
  (0x8c9, modifierLetter), (0x8ca, nonspacingMark), (0x8e2, format), (0x8e3, nonspacingMark),
  (0x903, spacingMark), (0x904, otherLetter), (0x93a, nonspacingMark), (0x93b, spacingMark),
  (0x93c, nonspacingMark), (0x93d, otherLetter), (0x93e, spacingMark), (0x941, nonspacingMark),
  (0x949, spacingMark), (0x94d, nonspacingMark), (0x94e, spacingMark), (0x950, otherLetter),
  (0x951, nonspacingMark), (0x958, otherLetter), (0x962, nonspacingMark),
  (0x964, otherPunctuation), (0x966, decimalNumber), (0x970, otherPunctuation),
  (0x971, modifierLetter), (0x972, otherLetter), (0x981, nonspacingMark), (0x982, spacingMark),
  (0x984, unassigned), (0x985, otherLetter), (0x98d, unassigned), (0x98f, otherLetter),
  (0x991, unassigned), (0x993, otherLetter), (0x9a9, unassigned), (0x9aa, otherLetter),
  (0x9b1, unassigned), (0x9b2, otherLetter), (0x9b3, unassigned), (0x9b6, otherLetter),
  (0x9ba, unassigned), (0x9bc, nonspacingMark), (0x9bd, otherLetter), (0x9be, spacingMark),
  (0x9c1, nonspacingMark), (0x9c5, unassigned), (0x9c7, spacingMark), (0x9c9, unassigned),
  (0x9cb, spacingMark), (0x9cd, nonspacingMark), (0x9ce, otherLetter), (0x9cf, unassigned),
  (0x9d7, spacingMark), (0x9d8, unassigned), (0x9dc, otherLetter), (0x9de, unassigned),
  (0x9df, otherLetter), (0x9e2, nonspacingMark), (0x9e4, unassigned), (0x9e6, decimalNumber),
  (0x9f0, otherLetter), (0x9f2, currencySymbol), (0x9f4, otherNumber)]

def from9FA : List (Nat × Category) := [
  (0x9fa, otherSymbol), (0x9fb, currencySymbol), (0x9fc, otherLetter), (0x9fd, otherPunctuation),
  (0x9fe, nonspacingMark), (0x9ff, unassigned), (0xa01, nonspacingMark), (0xa03, spacingMark),
  (0xa04, unassigned), (0xa05, otherLetter), (0xa0b, unassigned), (0xa0f, otherLetter),
  (0xa11, unassigned), (0xa13, otherLetter), (0xa29, unassigned), (0xa2a, otherLetter),
  (0xa31, unassigned), (0xa32, otherLetter), (0xa34, unassigned), (0xa35, otherLetter),
  (0xa37, unassigned), (0xa38, otherLetter), (0xa3a, unassigned), (0xa3c, nonspacingMark),
  (0xa3d, unassigned), (0xa3e, spacingMark), (0xa41, nonspacingMark), (0xa43, unassigned),
  (0xa47, nonspacingMark), (0xa49, unassigned), (0xa4b, nonspacingMark), (0xa4e, unassigned),
  (0xa51, nonspacingMark), (0xa52, unassigned), (0xa59, otherLetter), (0xa5d, unassigned),
  (0xa5e, otherLetter), (0xa5f, unassigned), (0xa66, decimalNumber), (0xa70, nonspacingMark),
  (0xa72, otherLetter), (0xa75, nonspacingMark), (0xa76, otherPunctuation), (0xa77, unassigned),
  (0xa81, nonspacingMark), (0xa83, spacingMark), (0xa84, unassigned), (0xa85, otherLetter),
  (0xa8e, unassigned), (0xa8f, otherLetter), (0xa92, unassigned), (0xa93, otherLetter),
  (0xaa9, unassigned), (0xaaa, otherLetter), (0xab1, unassigned), (0xab2, otherLetter),
  (0xab4, unassigned), (0xab5, otherLetter), (0xaba, unassigned), (0xabc, nonspacingMark),
  (0xabd, otherLetter), (0xabe, spacingMark), (0xac1, nonspacingMark), (0xac6, unassigned),
  (0xac7, nonspacingMark), (0xac9, spacingMark), (0xaca, unassigned), (0xacb, spacingMark),
  (0xacd, nonspacingMark), (0xace, unassigned), (0xad0, otherLetter), (0xad1, unassigned),
  (0xae0, otherLetter), (0xae2, nonspacingMark), (0xae4, unassigned), (0xae6, decimalNumber),
  (0xaf0, otherPunctuation), (0xaf1, currencySymbol), (0xaf2, unassigned), (0xaf9, otherLetter),
  (0xafa, nonspacingMark), (0xb00, unassigned), (0xb01, nonspacingMark), (0xb02, spacingMark),
  (0xb04, unassigned), (0xb05, otherLetter), (0xb0d, unassigned), (0xb0f, otherLetter),
  (0xb11, unassigned), (0xb13, otherLetter), (0xb29, unassigned), (0xb2a, otherLetter),
  (0xb31, unassigned), (0xb32, otherLetter), (0xb34, unassigned), (0xb35, otherLetter),
  (0xb3a, unassigned), (0xb3c, nonspacingMark), (0xb3d, otherLetter), (0xb3e, spacingMark),
  (0xb3f, nonspacingMark), (0xb40, spacingMark), (0xb41, nonspacingMark), (0xb45, unassigned),
  (0xb47, spacingMark), (0xb49, unassigned), (0xb4b, spacingMark), (0xb4d, nonspacingMark),
  (0xb4e, unassigned), (0xb55, nonspacingMark), (0xb57, spacingMark), (0xb58, unassigned),
  (0xb5c, otherLetter), (0xb5e, unassigned), (0xb5f, otherLetter), (0xb62, nonspacingMark),
  (0xb64, unassigned), (0xb66, decimalNumber), (0xb70, otherSymbol), (0xb71, otherLetter),
  (0xb72, otherNumber), (0xb78, unassigned), (0xb82, nonspacingMark), (0xb83, otherLetter),
  (0xb84, unassigned), (0xb85, otherLetter), (0xb8b, unassigned), (0xb8e, otherLetter),
  (0xb91, unassigned), (0xb92, otherLetter), (0xb96, unassigned), (0xb99, otherLetter),
  (0xb9b, unassigned), (0xb9c, otherLetter), (0xb9d, unassigned), (0xb9e, otherLetter),
  (0xba0, unassigned), (0xba3, otherLetter), (0xba5, unassigned), (0xba8, otherLetter),
  (0xbab, unassigned), (0xbae, otherLetter), (0xbba, unassigned), (0xbbe, spacingMark),
  (0xbc0, nonspacingMark), (0xbc1, spacingMark), (0xbc3, unassigned), (0xbc6, spacingMark),
  (0xbc9, unassigned), (0xbca, spacingMark), (0xbcd, nonspacingMark), (0xbce, unassigned),
  (0xbd0, otherLetter), (0xbd1, unassigned), (0xbd7, spacingMark), (0xbd8, unassigned),
  (0xbe6, decimalNumber), (0xbf0, otherNumber), (0xbf3, otherSymbol), (0xbf9, currencySymbol),
  (0xbfa, otherSymbol), (0xbfb, unassigned), (0xc00, nonspacingMark), (0xc01, spacingMark),
  (0xc04, nonspacingMark), (0xc05, otherLetter), (0xc0d, unassigned), (0xc0e, otherLetter),
  (0xc11, unassigned), (0xc12, otherLetter), (0xc29, unassigned), (0xc2a, otherLetter),
  (0xc3a, unassigned), (0xc3c, nonspacingMark), (0xc3d, otherLetter), (0xc3e, nonspacingMark),
  (0xc41, spacingMark), (0xc45, unassigned), (0xc46, nonspacingMark), (0xc49, unassigned),
  (0xc4a, nonspacingMark), (0xc4e, unassigned), (0xc55, nonspacingMark), (0xc57, unassigned),
  (0xc58, otherLetter), (0xc5b, unassigned), (0xc5d, otherLetter), (0xc5e, unassigned),
  (0xc60, otherLetter), (0xc62, nonspacingMark), (0xc64, unassigned), (0xc66, decimalNumber),
  (0xc70, unassigned), (0xc77, otherPunctuation), (0xc78, otherNumber), (0xc7f, otherSymbol),
  (0xc80, otherLetter), (0xc81, nonspacingMark), (0xc82, spacingMark), (0xc84, otherPunctuation),
  (0xc85, otherLetter), (0xc8d, unassigned), (0xc8e, otherLetter), (0xc91, unassigned),
  (0xc92, otherLetter), (0xca9, unassigned), (0xcaa, otherLetter), (0xcb4, unassigned),
  (0xcb5, otherLetter), (0xcba, unassigned), (0xcbc, nonspacingMark), (0xcbd, otherLetter),
  (0xcbe, spacingMark), (0xcbf, nonspacingMark), (0xcc0, spacingMark), (0xcc5, unassigned),
  (0xcc6, nonspacingMark), (0xcc7, spacingMark), (0xcc9, unassigned), (0xcca, spacingMark),
  (0xccc, nonspacingMark), (0xcce, unassigned), (0xcd5, spacingMark), (0xcd7, unassigned),
  (0xcdd, otherLetter), (0xcdf, unassigned), (0xce0, otherLetter), (0xce2, nonspacingMark),
  (0xce4, unassigned), (0xce6, decimalNumber), (0xcf0, unassigned), (0xcf1, otherLetter),
  (0xcf3, unassigned), (0xd00, nonspacingMark), (0xd02, spacingMark), (0xd04, otherLetter),
  (0xd0d, unassigned), (0xd0e, otherLetter), (0xd11, unassigned), (0xd12, otherLetter),
  (0xd3b, nonspacingMark), (0xd3d, otherLetter), (0xd3e, spacingMark), (0xd41, nonspacingMark),
  (0xd45, unassigned), (0xd46, spacingMark), (0xd49, unassigned), (0xd4a, spacingMark),
  (0xd4d, nonspacingMark), (0xd4e, otherLetter), (0xd4f, otherSymbol), (0xd50, unassigned),
  (0xd54, otherLetter), (0xd57, spacingMark), (0xd58, otherNumber), (0xd5f, otherLetter)]

def fromD62 : List (Nat × Category) := [
  (0xd62, nonspacingMark), (0xd64, unassigned), (0xd66, decimalNumber), (0xd70, otherNumber),
  (0xd79, otherSymbol), (0xd7a, otherLetter), (0xd80, unassigned), (0xd81, nonspacingMark),
  (0xd82, spacingMark), (0xd84, unassigned), (0xd85, otherLetter), (0xd97, unassigned),
  (0xd9a, otherLetter), (0xdb2, unassigned), (0xdb3, otherLetter), (0xdbc, unassigned),
  (0xdbd, otherLetter), (0xdbe, unassigned), (0xdc0, otherLetter), (0xdc7, unassigned),
  (0xdca, nonspacingMark), (0xdcb, unassigned), (0xdcf, spacingMark), (0xdd2, nonspacingMark),
  (0xdd5, unassigned), (0xdd6, nonspacingMark), (0xdd7, unassigned), (0xdd8, spacingMark),
  (0xde0, unassigned), (0xde6, decimalNumber), (0xdf0, unassigned), (0xdf2, spacingMark),
  (0xdf4, otherPunctuation), (0xdf5, unassigned), (0xe01, otherLetter), (0xe31, nonspacingMark),
  (0xe32, otherLetter), (0xe34, nonspacingMark), (0xe3b, unassigned), (0xe3f, currencySymbol),
  (0xe40, otherLetter), (0xe46, modifierLetter), (0xe47, nonspacingMark),
  (0xe4f, otherPunctuation), (0xe50, decimalNumber), (0xe5a, otherPunctuation),
  (0xe5c, unassigned), (0xe81, otherLetter), (0xe83, unassigned), (0xe84, otherLetter),
  (0xe85, unassigned), (0xe86, otherLetter), (0xe8b, unassigned), (0xe8c, otherLetter),
  (0xea4, unassigned), (0xea5, otherLetter), (0xea6, unassigned), (0xea7, otherLetter),
  (0xeb1, nonspacingMark), (0xeb2, otherLetter), (0xeb4, nonspacingMark), (0xebd, otherLetter),
  (0xebe, unassigned), (0xec0, otherLetter), (0xec5, unassigned), (0xec6, modifierLetter),
  (0xec7, unassigned), (0xec8, nonspacingMark), (0xece, unassigned), (0xed0, decimalNumber),
  (0xeda, unassigned), (0xedc, otherLetter), (0xee0, unassigned), (0xf00, otherLetter),
  (0xf01, otherSymbol), (0xf04, otherPunctuation), (0xf13, otherSymbol), (0xf14, otherPunctuation),
  (0xf15, otherSymbol), (0xf18, nonspacingMark), (0xf1a, otherSymbol), (0xf20, decimalNumber),
  (0xf2a, otherNumber), (0xf34, otherSymbol), (0xf35, nonspacingMark), (0xf36, otherSymbol),
  (0xf37, nonspacingMark), (0xf38, otherSymbol), (0xf39, nonspacingMark), (0xf3a, openPunctuation),
  (0xf3b, closePunctuation), (0xf3c, openPunctuation), (0xf3d, closePunctuation),
  (0xf3e, spacingMark), (0xf40, otherLetter), (0xf48, unassigned), (0xf49, otherLetter),
  (0xf6d, unassigned), (0xf71, nonspacingMark), (0xf7f, spacingMark), (0xf80, nonspacingMark),
  (0xf85, otherPunctuation), (0xf86, nonspacingMark), (0xf88, otherLetter),
  (0xf8d, nonspacingMark), (0xf98, unassigned), (0xf99, nonspacingMark), (0xfbd, unassigned),
  (0xfbe, otherSymbol), (0xfc6, nonspacingMark), (0xfc7, otherSymbol), (0xfcd, unassigned),
  (0xfce, otherSymbol), (0xfd0, otherPunctuation), (0xfd5, otherSymbol), (0xfd9, otherPunctuation),
  (0xfdb, unassigned), (0x1000, otherLetter), (0x102b, spacingMark), (0x102d, nonspacingMark),
  (0x1031, spacingMark), (0x1032, nonspacingMark), (0x1038, spacingMark), (0x1039, nonspacingMark),
  (0x103b, spacingMark), (0x103d, nonspacingMark), (0x103f, otherLetter), (0x1040, decimalNumber),
  (0x104a, otherPunctuation), (0x1050, otherLetter), (0x1056, spacingMark),
  (0x1058, nonspacingMark), (0x105a, otherLetter), (0x105e, nonspacingMark), (0x1061, otherLetter),
  (0x1062, spacingMark), (0x1065, otherLetter), (0x1067, spacingMark), (0x106e, otherLetter),
  (0x1071, nonspacingMark), (0x1075, otherLetter), (0x1082, nonspacingMark), (0x1083, spacingMark),
  (0x1085, nonspacingMark), (0x1087, spacingMark), (0x108d, nonspacingMark), (0x108e, otherLetter),
  (0x108f, spacingMark), (0x1090, decimalNumber), (0x109a, spacingMark), (0x109d, nonspacingMark),
  (0x109e, otherSymbol), (0x10a0, upperLetter), (0x10c6, unassigned), (0x10c7, upperLetter),
  (0x10c8, unassigned), (0x10cd, upperLetter), (0x10ce, unassigned), (0x10d0, lowerLetter),
  (0x10fb, otherPunctuation), (0x10fc, modifierLetter), (0x10fd, lowerLetter),
  (0x1100, otherLetter), (0x1249, unassigned), (0x124a, otherLetter), (0x124e, unassigned),
  (0x1250, otherLetter), (0x1257, unassigned), (0x1258, otherLetter), (0x1259, unassigned),
  (0x125a, otherLetter), (0x125e, unassigned), (0x1260, otherLetter), (0x1289, unassigned),
  (0x128a, otherLetter), (0x128e, unassigned), (0x1290, otherLetter), (0x12b1, unassigned),
  (0x12b2, otherLetter), (0x12b6, unassigned), (0x12b8, otherLetter), (0x12bf, unassigned),
  (0x12c0, otherLetter), (0x12c1, unassigned), (0x12c2, otherLetter), (0x12c6, unassigned),
  (0x12c8, otherLetter), (0x12d7, unassigned), (0x12d8, otherLetter), (0x1311, unassigned),
  (0x1312, otherLetter), (0x1316, unassigned), (0x1318, otherLetter), (0x135b, unassigned),
  (0x135d, nonspacingMark), (0x1360, otherPunctuation), (0x1369, otherNumber),
  (0x137d, unassigned), (0x1380, otherLetter), (0x1390, otherSymbol), (0x139a, unassigned),
  (0x13a0, upperLetter), (0x13f6, unassigned), (0x13f8, lowerLetter), (0x13fe, unassigned),
  (0x1400, dashPunctuation), (0x1401, otherLetter), (0x166d, otherSymbol),
  (0x166e, otherPunctuation), (0x166f, otherLetter), (0x1680, spaceSeparator),
  (0x1681, otherLetter), (0x169b, openPunctuation), (0x169c, closePunctuation),
  (0x169d, unassigned), (0x16a0, otherLetter), (0x16eb, otherPunctuation), (0x16ee, letterNumber),
  (0x16f1, otherLetter), (0x16f9, unassigned), (0x1700, otherLetter), (0x1712, nonspacingMark),
  (0x1715, spacingMark), (0x1716, unassigned), (0x171f, otherLetter), (0x1732, nonspacingMark),
  (0x1734, spacingMark), (0x1735, otherPunctuation), (0x1737, unassigned), (0x1740, otherLetter),
  (0x1752, nonspacingMark), (0x1754, unassigned), (0x1760, otherLetter), (0x176d, unassigned),
  (0x176e, otherLetter), (0x1771, unassigned), (0x1772, nonspacingMark), (0x1774, unassigned),
  (0x1780, otherLetter), (0x17b4, nonspacingMark), (0x17b6, spacingMark), (0x17b7, nonspacingMark),
  (0x17be, spacingMark), (0x17c6, nonspacingMark), (0x17c7, spacingMark), (0x17c9, nonspacingMark),
  (0x17d4, otherPunctuation), (0x17d7, modifierLetter), (0x17d8, otherPunctuation),
  (0x17db, currencySymbol), (0x17dc, otherLetter), (0x17dd, nonspacingMark), (0x17de, unassigned),
  (0x17e0, decimalNumber), (0x17ea, unassigned), (0x17f0, otherNumber)]

def from17FA : List (Nat × Category) := [
  (0x17fa, unassigned), (0x1800, otherPunctuation), (0x1806, dashPunctuation),
  (0x1807, otherPunctuation), (0x180b, nonspacingMark), (0x180e, format), (0x180f, nonspacingMark),
  (0x1810, decimalNumber), (0x181a, unassigned), (0x1820, otherLetter), (0x1843, modifierLetter),
  (0x1844, otherLetter), (0x1879, unassigned), (0x1880, otherLetter), (0x1885, nonspacingMark),
  (0x1887, otherLetter), (0x18a9, nonspacingMark), (0x18aa, otherLetter), (0x18ab, unassigned),
  (0x18b0, otherLetter), (0x18f6, unassigned), (0x1900, otherLetter), (0x191f, unassigned),
  (0x1920, nonspacingMark), (0x1923, spacingMark), (0x1927, nonspacingMark), (0x1929, spacingMark),
  (0x192c, unassigned), (0x1930, spacingMark), (0x1932, nonspacingMark), (0x1933, spacingMark),
  (0x1939, nonspacingMark), (0x193c, unassigned), (0x1940, otherSymbol), (0x1941, unassigned),
  (0x1944, otherPunctuation), (0x1946, decimalNumber), (0x1950, otherLetter), (0x196e, unassigned),
  (0x1970, otherLetter), (0x1975, unassigned), (0x1980, otherLetter), (0x19ac, unassigned),
  (0x19b0, otherLetter), (0x19ca, unassigned), (0x19d0, decimalNumber), (0x19da, otherNumber),
  (0x19db, unassigned), (0x19de, otherSymbol), (0x1a00, otherLetter), (0x1a17, nonspacingMark),
  (0x1a19, spacingMark), (0x1a1b, nonspacingMark), (0x1a1c, unassigned),
  (0x1a1e, otherPunctuation), (0x1a20, otherLetter), (0x1a55, spacingMark),
  (0x1a56, nonspacingMark), (0x1a57, spacingMark), (0x1a58, nonspacingMark), (0x1a5f, unassigned),
  (0x1a60, nonspacingMark), (0x1a61, spacingMark), (0x1a62, nonspacingMark), (0x1a63, spacingMark),
  (0x1a65, nonspacingMark), (0x1a6d, spacingMark), (0x1a73, nonspacingMark), (0x1a7d, unassigned),
  (0x1a7f, nonspacingMark), (0x1a80, decimalNumber), (0x1a8a, unassigned), (0x1a90, decimalNumber),
  (0x1a9a, unassigned), (0x1aa0, otherPunctuation), (0x1aa7, modifierLetter),
  (0x1aa8, otherPunctuation), (0x1aae, unassigned), (0x1ab0, nonspacingMark),
  (0x1abe, enclosingMark), (0x1abf, nonspacingMark), (0x1acf, unassigned),
  (0x1b00, nonspacingMark), (0x1b04, spacingMark), (0x1b05, otherLetter), (0x1b34, nonspacingMark),
  (0x1b35, spacingMark), (0x1b36, nonspacingMark), (0x1b3b, spacingMark), (0x1b3c, nonspacingMark),
  (0x1b3d, spacingMark), (0x1b42, nonspacingMark), (0x1b43, spacingMark), (0x1b45, otherLetter),
  (0x1b4d, unassigned), (0x1b50, decimalNumber), (0x1b5a, otherPunctuation), (0x1b61, otherSymbol),
  (0x1b6b, nonspacingMark), (0x1b74, otherSymbol), (0x1b7d, otherPunctuation),
  (0x1b7f, unassigned), (0x1b80, nonspacingMark), (0x1b82, spacingMark), (0x1b83, otherLetter),
  (0x1ba1, spacingMark), (0x1ba2, nonspacingMark), (0x1ba6, spacingMark), (0x1ba8, nonspacingMark),
  (0x1baa, spacingMark), (0x1bab, nonspacingMark), (0x1bae, otherLetter), (0x1bb0, decimalNumber),
  (0x1bba, otherLetter), (0x1be6, nonspacingMark), (0x1be7, spacingMark), (0x1be8, nonspacingMark),
  (0x1bea, spacingMark), (0x1bed, nonspacingMark), (0x1bee, spacingMark), (0x1bef, nonspacingMark),
  (0x1bf2, spacingMark), (0x1bf4, unassigned), (0x1bfc, otherPunctuation), (0x1c00, otherLetter),
  (0x1c24, spacingMark), (0x1c2c, nonspacingMark), (0x1c34, spacingMark), (0x1c36, nonspacingMark),
  (0x1c38, unassigned), (0x1c3b, otherPunctuation), (0x1c40, decimalNumber), (0x1c4a, unassigned),
  (0x1c4d, otherLetter), (0x1c50, decimalNumber), (0x1c5a, otherLetter), (0x1c78, modifierLetter),
  (0x1c7e, otherPunctuation), (0x1c80, lowerLetter), (0x1c89, unassigned), (0x1c90, upperLetter),
  (0x1cbb, unassigned), (0x1cbd, upperLetter), (0x1cc0, otherPunctuation), (0x1cc8, unassigned),
  (0x1cd0, nonspacingMark), (0x1cd3, otherPunctuation), (0x1cd4, nonspacingMark),
  (0x1ce1, spacingMark), (0x1ce2, nonspacingMark), (0x1ce9, otherLetter), (0x1ced, nonspacingMark),
  (0x1cee, otherLetter), (0x1cf4, nonspacingMark), (0x1cf5, otherLetter), (0x1cf7, spacingMark),
  (0x1cf8, nonspacingMark), (0x1cfa, otherLetter), (0x1cfb, unassigned), (0x1d00, lowerLetter),
  (0x1d2c, modifierLetter), (0x1d6b, lowerLetter), (0x1d78, modifierLetter), (0x1d79, lowerLetter),
  (0x1d9b, modifierLetter), (0x1dc0, nonspacingMark), (0x1e00, upperLetter), (0x1e01, lowerLetter),
  (0x1e02, upperLetter), (0x1e03, lowerLetter), (0x1e04, upperLetter), (0x1e05, lowerLetter),
  (0x1e06, upperLetter), (0x1e07, lowerLetter), (0x1e08, upperLetter), (0x1e09, lowerLetter),
  (0x1e0a, upperLetter), (0x1e0b, lowerLetter), (0x1e0c, upperLetter), (0x1e0d, lowerLetter),
  (0x1e0e, upperLetter), (0x1e0f, lowerLetter), (0x1e10, upperLetter), (0x1e11, lowerLetter),
  (0x1e12, upperLetter), (0x1e13, lowerLetter), (0x1e14, upperLetter), (0x1e15, lowerLetter),
  (0x1e16, upperLetter), (0x1e17, lowerLetter), (0x1e18, upperLetter), (0x1e19, lowerLetter),
  (0x1e1a, upperLetter), (0x1e1b, lowerLetter), (0x1e1c, upperLetter), (0x1e1d, lowerLetter),
  (0x1e1e, upperLetter), (0x1e1f, lowerLetter), (0x1e20, upperLetter), (0x1e21, lowerLetter),
  (0x1e22, upperLetter), (0x1e23, lowerLetter), (0x1e24, upperLetter), (0x1e25, lowerLetter),
  (0x1e26, upperLetter), (0x1e27, lowerLetter), (0x1e28, upperLetter), (0x1e29, lowerLetter),
  (0x1e2a, upperLetter), (0x1e2b, lowerLetter), (0x1e2c, upperLetter), (0x1e2d, lowerLetter),
  (0x1e2e, upperLetter), (0x1e2f, lowerLetter), (0x1e30, upperLetter), (0x1e31, lowerLetter),
  (0x1e32, upperLetter), (0x1e33, lowerLetter), (0x1e34, upperLetter), (0x1e35, lowerLetter),
  (0x1e36, upperLetter), (0x1e37, lowerLetter), (0x1e38, upperLetter), (0x1e39, lowerLetter),
  (0x1e3a, upperLetter), (0x1e3b, lowerLetter), (0x1e3c, upperLetter), (0x1e3d, lowerLetter),
  (0x1e3e, upperLetter), (0x1e3f, lowerLetter), (0x1e40, upperLetter), (0x1e41, lowerLetter),
  (0x1e42, upperLetter), (0x1e43, lowerLetter), (0x1e44, upperLetter), (0x1e45, lowerLetter),
  (0x1e46, upperLetter), (0x1e47, lowerLetter), (0x1e48, upperLetter), (0x1e49, lowerLetter),
  (0x1e4a, upperLetter), (0x1e4b, lowerLetter), (0x1e4c, upperLetter), (0x1e4d, lowerLetter),
  (0x1e4e, upperLetter), (0x1e4f, lowerLetter), (0x1e50, upperLetter), (0x1e51, lowerLetter),
  (0x1e52, upperLetter), (0x1e53, lowerLetter), (0x1e54, upperLetter), (0x1e55, lowerLetter),
  (0x1e56, upperLetter), (0x1e57, lowerLetter), (0x1e58, upperLetter), (0x1e59, lowerLetter)]

def from1E5A : List (Nat × Category) := [
  (0x1e5a, upperLetter), (0x1e5b, lowerLetter), (0x1e5c, upperLetter), (0x1e5d, lowerLetter),
  (0x1e5e, upperLetter), (0x1e5f, lowerLetter), (0x1e60, upperLetter), (0x1e61, lowerLetter),
  (0x1e62, upperLetter), (0x1e63, lowerLetter), (0x1e64, upperLetter), (0x1e65, lowerLetter),
  (0x1e66, upperLetter), (0x1e67, lowerLetter), (0x1e68, upperLetter), (0x1e69, lowerLetter),
  (0x1e6a, upperLetter), (0x1e6b, lowerLetter), (0x1e6c, upperLetter), (0x1e6d, lowerLetter),
  (0x1e6e, upperLetter), (0x1e6f, lowerLetter), (0x1e70, upperLetter), (0x1e71, lowerLetter),
  (0x1e72, upperLetter), (0x1e73, lowerLetter), (0x1e74, upperLetter), (0x1e75, lowerLetter),
  (0x1e76, upperLetter), (0x1e77, lowerLetter), (0x1e78, upperLetter), (0x1e79, lowerLetter),
  (0x1e7a, upperLetter), (0x1e7b, lowerLetter), (0x1e7c, upperLetter), (0x1e7d, lowerLetter),
  (0x1e7e, upperLetter), (0x1e7f, lowerLetter), (0x1e80, upperLetter), (0x1e81, lowerLetter),
  (0x1e82, upperLetter), (0x1e83, lowerLetter), (0x1e84, upperLetter), (0x1e85, lowerLetter),
  (0x1e86, upperLetter), (0x1e87, lowerLetter), (0x1e88, upperLetter), (0x1e89, lowerLetter),
  (0x1e8a, upperLetter), (0x1e8b, lowerLetter), (0x1e8c, upperLetter), (0x1e8d, lowerLetter),
  (0x1e8e, upperLetter), (0x1e8f, lowerLetter), (0x1e90, upperLetter), (0x1e91, lowerLetter),
  (0x1e92, upperLetter), (0x1e93, lowerLetter), (0x1e94, upperLetter), (0x1e95, lowerLetter),
  (0x1e9e, upperLetter), (0x1e9f, lowerLetter), (0x1ea0, upperLetter), (0x1ea1, lowerLetter),
  (0x1ea2, upperLetter), (0x1ea3, lowerLetter), (0x1ea4, upperLetter), (0x1ea5, lowerLetter),
  (0x1ea6, upperLetter), (0x1ea7, lowerLetter), (0x1ea8, upperLetter), (0x1ea9, lowerLetter),
  (0x1eaa, upperLetter), (0x1eab, lowerLetter), (0x1eac, upperLetter), (0x1ead, lowerLetter),
  (0x1eae, upperLetter), (0x1eaf, lowerLetter), (0x1eb0, upperLetter), (0x1eb1, lowerLetter),
  (0x1eb2, upperLetter), (0x1eb3, lowerLetter), (0x1eb4, upperLetter), (0x1eb5, lowerLetter),
  (0x1eb6, upperLetter), (0x1eb7, lowerLetter), (0x1eb8, upperLetter), (0x1eb9, lowerLetter),
  (0x1eba, upperLetter), (0x1ebb, lowerLetter), (0x1ebc, upperLetter), (0x1ebd, lowerLetter),
  (0x1ebe, upperLetter), (0x1ebf, lowerLetter), (0x1ec0, upperLetter), (0x1ec1, lowerLetter),
  (0x1ec2, upperLetter), (0x1ec3, lowerLetter), (0x1ec4, upperLetter), (0x1ec5, lowerLetter),
  (0x1ec6, upperLetter), (0x1ec7, lowerLetter), (0x1ec8, upperLetter), (0x1ec9, lowerLetter),
  (0x1eca, upperLetter), (0x1ecb, lowerLetter), (0x1ecc, upperLetter), (0x1ecd, lowerLetter),
  (0x1ece, upperLetter), (0x1ecf, lowerLetter), (0x1ed0, upperLetter), (0x1ed1, lowerLetter),
  (0x1ed2, upperLetter), (0x1ed3, lowerLetter), (0x1ed4, upperLetter), (0x1ed5, lowerLetter),
  (0x1ed6, upperLetter), (0x1ed7, lowerLetter), (0x1ed8, upperLetter), (0x1ed9, lowerLetter),
  (0x1eda, upperLetter), (0x1edb, lowerLetter), (0x1edc, upperLetter), (0x1edd, lowerLetter),
  (0x1ede, upperLetter), (0x1edf, lowerLetter), (0x1ee0, upperLetter), (0x1ee1, lowerLetter),
  (0x1ee2, upperLetter), (0x1ee3, lowerLetter), (0x1ee4, upperLetter), (0x1ee5, lowerLetter),
  (0x1ee6, upperLetter), (0x1ee7, lowerLetter), (0x1ee8, upperLetter), (0x1ee9, lowerLetter),
  (0x1eea, upperLetter), (0x1eeb, lowerLetter), (0x1eec, upperLetter), (0x1eed, lowerLetter),
  (0x1eee, upperLetter), (0x1eef, lowerLetter), (0x1ef0, upperLetter), (0x1ef1, lowerLetter),
  (0x1ef2, upperLetter), (0x1ef3, lowerLetter), (0x1ef4, upperLetter), (0x1ef5, lowerLetter),
  (0x1ef6, upperLetter), (0x1ef7, lowerLetter), (0x1ef8, upperLetter), (0x1ef9, lowerLetter),
  (0x1efa, upperLetter), (0x1efb, lowerLetter), (0x1efc, upperLetter), (0x1efd, lowerLetter),
  (0x1efe, upperLetter), (0x1eff, lowerLetter), (0x1f08, upperLetter), (0x1f10, lowerLetter),
  (0x1f16, unassigned), (0x1f18, upperLetter), (0x1f1e, unassigned), (0x1f20, lowerLetter),
  (0x1f28, upperLetter), (0x1f30, lowerLetter), (0x1f38, upperLetter), (0x1f40, lowerLetter),
  (0x1f46, unassigned), (0x1f48, upperLetter), (0x1f4e, unassigned), (0x1f50, lowerLetter),
  (0x1f58, unassigned), (0x1f59, upperLetter), (0x1f5a, unassigned), (0x1f5b, upperLetter),
  (0x1f5c, unassigned), (0x1f5d, upperLetter), (0x1f5e, unassigned), (0x1f5f, upperLetter),
  (0x1f60, lowerLetter), (0x1f68, upperLetter), (0x1f70, lowerLetter), (0x1f7e, unassigned),
  (0x1f80, lowerLetter), (0x1f88, titleLetter), (0x1f90, lowerLetter), (0x1f98, titleLetter),
  (0x1fa0, lowerLetter), (0x1fa8, titleLetter), (0x1fb0, lowerLetter), (0x1fb5, unassigned),
  (0x1fb6, lowerLetter), (0x1fb8, upperLetter), (0x1fbc, titleLetter), (0x1fbd, modifierSymbol),
  (0x1fbe, lowerLetter), (0x1fbf, modifierSymbol), (0x1fc2, lowerLetter), (0x1fc5, unassigned),
  (0x1fc6, lowerLetter), (0x1fc8, upperLetter), (0x1fcc, titleLetter), (0x1fcd, modifierSymbol),
  (0x1fd0, lowerLetter), (0x1fd4, unassigned), (0x1fd6, lowerLetter), (0x1fd8, upperLetter),
  (0x1fdc, unassigned), (0x1fdd, modifierSymbol), (0x1fe0, lowerLetter), (0x1fe8, upperLetter),
  (0x1fed, modifierSymbol), (0x1ff0, unassigned), (0x1ff2, lowerLetter), (0x1ff5, unassigned),
  (0x1ff6, lowerLetter), (0x1ff8, upperLetter), (0x1ffc, titleLetter), (0x1ffd, modifierSymbol),
  (0x1fff, unassigned), (0x2000, spaceSeparator), (0x200b, format), (0x2010, dashPunctuation),
  (0x2016, otherPunctuation), (0x2018, initialPunctuation), (0x2019, finalPunctuation),
  (0x201a, openPunctuation), (0x201b, initialPunctuation), (0x201d, finalPunctuation),
  (0x201e, openPunctuation), (0x201f, initialPunctuation), (0x2020, otherPunctuation),
  (0x2028, lineSeparator), (0x2029, paragraphSeparator), (0x202a, format),
  (0x202f, spaceSeparator), (0x2030, otherPunctuation), (0x2039, initialPunctuation),
  (0x203a, finalPunctuation), (0x203b, otherPunctuation), (0x203f, connectorPunctuation),
  (0x2041, otherPunctuation), (0x2044, mathSymbol), (0x2045, openPunctuation),
  (0x2046, closePunctuation), (0x2047, otherPunctuation), (0x2052, mathSymbol),
  (0x2053, otherPunctuation), (0x2054, connectorPunctuation), (0x2055, otherPunctuation),
  (0x205f, spaceSeparator), (0x2060, format), (0x2065, unassigned), (0x2066, format),
  (0x2070, otherNumber)]

def from2071 : List (Nat × Category) := [
  (0x2071, modifierLetter), (0x2072, unassigned), (0x2074, otherNumber), (0x207a, mathSymbol),
  (0x207d, openPunctuation), (0x207e, closePunctuation), (0x207f, modifierLetter),
  (0x2080, otherNumber), (0x208a, mathSymbol), (0x208d, openPunctuation),
  (0x208e, closePunctuation), (0x208f, unassigned), (0x2090, modifierLetter), (0x209d, unassigned),
  (0x20a0, currencySymbol), (0x20c1, unassigned), (0x20d0, nonspacingMark),
  (0x20dd, enclosingMark), (0x20e1, nonspacingMark), (0x20e2, enclosingMark),
  (0x20e5, nonspacingMark), (0x20f1, unassigned), (0x2100, otherSymbol), (0x2102, upperLetter),
  (0x2103, otherSymbol), (0x2107, upperLetter), (0x2108, otherSymbol), (0x210a, lowerLetter),
  (0x210b, upperLetter), (0x210e, lowerLetter), (0x2110, upperLetter), (0x2113, lowerLetter),
  (0x2114, otherSymbol), (0x2115, upperLetter), (0x2116, otherSymbol), (0x2118, mathSymbol),
  (0x2119, upperLetter), (0x211e, otherSymbol), (0x2124, upperLetter), (0x2125, otherSymbol),
  (0x2126, upperLetter), (0x2127, otherSymbol), (0x2128, upperLetter), (0x2129, otherSymbol),
  (0x212a, upperLetter), (0x212e, otherSymbol), (0x212f, lowerLetter), (0x2130, upperLetter),
  (0x2134, lowerLetter), (0x2135, otherLetter), (0x2139, lowerLetter), (0x213a, otherSymbol),
  (0x213c, lowerLetter), (0x213e, upperLetter), (0x2140, mathSymbol), (0x2145, upperLetter),
  (0x2146, lowerLetter), (0x214a, otherSymbol), (0x214b, mathSymbol), (0x214c, otherSymbol),
  (0x214e, lowerLetter), (0x214f, otherSymbol), (0x2150, otherNumber), (0x2160, letterNumber),
  (0x2183, upperLetter), (0x2184, lowerLetter), (0x2185, letterNumber), (0x2189, otherNumber),
  (0x218a, otherSymbol), (0x218c, unassigned), (0x2190, mathSymbol), (0x2195, otherSymbol),
  (0x219a, mathSymbol), (0x219c, otherSymbol), (0x21a0, mathSymbol), (0x21a1, otherSymbol),
  (0x21a3, mathSymbol), (0x21a4, otherSymbol), (0x21a6, mathSymbol), (0x21a7, otherSymbol),
  (0x21ae, mathSymbol), (0x21af, otherSymbol), (0x21ce, mathSymbol), (0x21d0, otherSymbol),
  (0x21d2, mathSymbol), (0x21d3, otherSymbol), (0x21d4, mathSymbol), (0x21d5, otherSymbol),
  (0x21f4, mathSymbol), (0x2300, otherSymbol), (0x2308, openPunctuation),
  (0x2309, closePunctuation), (0x230a, openPunctuation), (0x230b, closePunctuation),
  (0x230c, otherSymbol), (0x2320, mathSymbol), (0x2322, otherSymbol), (0x2329, openPunctuation),
  (0x232a, closePunctuation), (0x232b, otherSymbol), (0x237c, mathSymbol), (0x237d, otherSymbol),
  (0x239b, mathSymbol), (0x23b4, otherSymbol), (0x23dc, mathSymbol), (0x23e2, otherSymbol),
  (0x2427, unassigned), (0x2440, otherSymbol), (0x244b, unassigned), (0x2460, otherNumber),
  (0x249c, otherSymbol), (0x24ea, otherNumber), (0x2500, otherSymbol), (0x25b7, mathSymbol),
  (0x25b8, otherSymbol), (0x25c1, mathSymbol), (0x25c2, otherSymbol), (0x25f8, mathSymbol),
  (0x2600, otherSymbol), (0x266f, mathSymbol), (0x2670, otherSymbol), (0x2768, openPunctuation),
  (0x2769, closePunctuation), (0x276a, openPunctuation), (0x276b, closePunctuation),
  (0x276c, openPunctuation), (0x276d, closePunctuation), (0x276e, openPunctuation),
  (0x276f, closePunctuation), (0x2770, openPunctuation), (0x2771, closePunctuation),
  (0x2772, openPunctuation), (0x2773, closePunctuation), (0x2774, openPunctuation),
  (0x2775, closePunctuation), (0x2776, otherNumber), (0x2794, otherSymbol), (0x27c0, mathSymbol),
  (0x27c5, openPunctuation), (0x27c6, closePunctuation), (0x27c7, mathSymbol),
  (0x27e6, openPunctuation), (0x27e7, closePunctuation), (0x27e8, openPunctuation),
  (0x27e9, closePunctuation), (0x27ea, openPunctuation), (0x27eb, closePunctuation),
  (0x27ec, openPunctuation), (0x27ed, closePunctuation), (0x27ee, openPunctuation),
  (0x27ef, closePunctuation), (0x27f0, mathSymbol), (0x2800, otherSymbol), (0x2900, mathSymbol),
  (0x2983, openPunctuation), (0x2984, closePunctuation), (0x2985, openPunctuation),
  (0x2986, closePunctuation), (0x2987, openPunctuation), (0x2988, closePunctuation),
  (0x2989, openPunctuation), (0x298a, closePunctuation), (0x298b, openPunctuation),
  (0x298c, closePunctuation), (0x298d, openPunctuation), (0x298e, closePunctuation),
  (0x298f, openPunctuation), (0x2990, closePunctuation), (0x2991, openPunctuation),
  (0x2992, closePunctuation), (0x2993, openPunctuation), (0x2994, closePunctuation),
  (0x2995, openPunctuation), (0x2996, closePunctuation), (0x2997, openPunctuation),
  (0x2998, closePunctuation), (0x2999, mathSymbol), (0x29d8, openPunctuation),
  (0x29d9, closePunctuation), (0x29da, openPunctuation), (0x29db, closePunctuation),
  (0x29dc, mathSymbol), (0x29fc, openPunctuation), (0x29fd, closePunctuation),
  (0x29fe, mathSymbol), (0x2b00, otherSymbol), (0x2b30, mathSymbol), (0x2b45, otherSymbol),
  (0x2b47, mathSymbol), (0x2b4d, otherSymbol), (0x2b74, unassigned), (0x2b76, otherSymbol),
  (0x2b96, unassigned), (0x2b97, otherSymbol), (0x2c00, upperLetter), (0x2c30, lowerLetter),
  (0x2c60, upperLetter), (0x2c61, lowerLetter), (0x2c62, upperLetter), (0x2c65, lowerLetter),
  (0x2c67, upperLetter), (0x2c68, lowerLetter), (0x2c69, upperLetter), (0x2c6a, lowerLetter),
  (0x2c6b, upperLetter), (0x2c6c, lowerLetter), (0x2c6d, upperLetter), (0x2c71, lowerLetter),
  (0x2c72, upperLetter), (0x2c73, lowerLetter), (0x2c75, upperLetter), (0x2c76, lowerLetter),
  (0x2c7c, modifierLetter), (0x2c7e, upperLetter), (0x2c81, lowerLetter), (0x2c82, upperLetter),
  (0x2c83, lowerLetter), (0x2c84, upperLetter), (0x2c85, lowerLetter), (0x2c86, upperLetter),
  (0x2c87, lowerLetter), (0x2c88, upperLetter), (0x2c89, lowerLetter), (0x2c8a, upperLetter),
  (0x2c8b, lowerLetter), (0x2c8c, upperLetter), (0x2c8d, lowerLetter), (0x2c8e, upperLetter),
  (0x2c8f, lowerLetter), (0x2c90, upperLetter), (0x2c91, lowerLetter), (0x2c92, upperLetter),
  (0x2c93, lowerLetter), (0x2c94, upperLetter), (0x2c95, lowerLetter), (0x2c96, upperLetter),
  (0x2c97, lowerLetter), (0x2c98, upperLetter), (0x2c99, lowerLetter), (0x2c9a, upperLetter),
  (0x2c9b, lowerLetter), (0x2c9c, upperLetter), (0x2c9d, lowerLetter), (0x2c9e, upperLetter),
  (0x2c9f, lowerLetter), (0x2ca0, upperLetter), (0x2ca1, lowerLetter), (0x2ca2, upperLetter),
  (0x2ca3, lowerLetter), (0x2ca4, upperLetter), (0x2ca5, lowerLetter), (0x2ca6, upperLetter),
  (0x2ca7, lowerLetter), (0x2ca8, upperLetter), (0x2ca9, lowerLetter), (0x2caa, upperLetter)]

def from2CAB : List (Nat × Category) := [
  (0x2cab, lowerLetter), (0x2cac, upperLetter), (0x2cad, lowerLetter), (0x2cae, upperLetter),
  (0x2caf, lowerLetter), (0x2cb0, upperLetter), (0x2cb1, lowerLetter), (0x2cb2, upperLetter),
  (0x2cb3, lowerLetter), (0x2cb4, upperLetter), (0x2cb5, lowerLetter), (0x2cb6, upperLetter),
  (0x2cb7, lowerLetter), (0x2cb8, upperLetter), (0x2cb9, lowerLetter), (0x2cba, upperLetter),
  (0x2cbb, lowerLetter), (0x2cbc, upperLetter), (0x2cbd, lowerLetter), (0x2cbe, upperLetter),
  (0x2cbf, lowerLetter), (0x2cc0, upperLetter), (0x2cc1, lowerLetter), (0x2cc2, upperLetter),
  (0x2cc3, lowerLetter), (0x2cc4, upperLetter), (0x2cc5, lowerLetter), (0x2cc6, upperLetter),
  (0x2cc7, lowerLetter), (0x2cc8, upperLetter), (0x2cc9, lowerLetter), (0x2cca, upperLetter),
  (0x2ccb, lowerLetter), (0x2ccc, upperLetter), (0x2ccd, lowerLetter), (0x2cce, upperLetter),
  (0x2ccf, lowerLetter), (0x2cd0, upperLetter), (0x2cd1, lowerLetter), (0x2cd2, upperLetter),
  (0x2cd3, lowerLetter), (0x2cd4, upperLetter), (0x2cd5, lowerLetter), (0x2cd6, upperLetter),
  (0x2cd7, lowerLetter), (0x2cd8, upperLetter), (0x2cd9, lowerLetter), (0x2cda, upperLetter),
  (0x2cdb, lowerLetter), (0x2cdc, upperLetter), (0x2cdd, lowerLetter), (0x2cde, upperLetter),
  (0x2cdf, lowerLetter), (0x2ce0, upperLetter), (0x2ce1, lowerLetter), (0x2ce2, upperLetter),
  (0x2ce3, lowerLetter), (0x2ce5, otherSymbol), (0x2ceb, upperLetter), (0x2cec, lowerLetter),
  (0x2ced, upperLetter), (0x2cee, lowerLetter), (0x2cef, nonspacingMark), (0x2cf2, upperLetter),
  (0x2cf3, lowerLetter), (0x2cf4, unassigned), (0x2cf9, otherPunctuation), (0x2cfd, otherNumber),
  (0x2cfe, otherPunctuation), (0x2d00, lowerLetter), (0x2d26, unassigned), (0x2d27, lowerLetter),
  (0x2d28, unassigned), (0x2d2d, lowerLetter), (0x2d2e, unassigned), (0x2d30, otherLetter),
  (0x2d68, unassigned), (0x2d6f, modifierLetter), (0x2d70, otherPunctuation), (0x2d71, unassigned),
  (0x2d7f, nonspacingMark), (0x2d80, otherLetter), (0x2d97, unassigned), (0x2da0, otherLetter),
  (0x2da7, unassigned), (0x2da8, otherLetter), (0x2daf, unassigned), (0x2db0, otherLetter),
  (0x2db7, unassigned), (0x2db8, otherLetter), (0x2dbf, unassigned), (0x2dc0, otherLetter),
  (0x2dc7, unassigned), (0x2dc8, otherLetter), (0x2dcf, unassigned), (0x2dd0, otherLetter),
  (0x2dd7, unassigned), (0x2dd8, otherLetter), (0x2ddf, unassigned), (0x2de0, nonspacingMark),
  (0x2e00, otherPunctuation), (0x2e02, initialPunctuation), (0x2e03, finalPunctuation),
  (0x2e04, initialPunctuation), (0x2e05, finalPunctuation), (0x2e06, otherPunctuation),
  (0x2e09, initialPunctuation), (0x2e0a, finalPunctuation), (0x2e0b, otherPunctuation),
  (0x2e0c, initialPunctuation), (0x2e0d, finalPunctuation), (0x2e0e, otherPunctuation),
  (0x2e17, dashPunctuation), (0x2e18, otherPunctuation), (0x2e1a, dashPunctuation),
  (0x2e1b, otherPunctuation), (0x2e1c, initialPunctuation), (0x2e1d, finalPunctuation),
  (0x2e1e, otherPunctuation), (0x2e20, initialPunctuation), (0x2e21, finalPunctuation),
  (0x2e22, openPunctuation), (0x2e23, closePunctuation), (0x2e24, openPunctuation),
  (0x2e25, closePunctuation), (0x2e26, openPunctuation), (0x2e27, closePunctuation),
  (0x2e28, openPunctuation), (0x2e29, closePunctuation), (0x2e2a, otherPunctuation),
  (0x2e2f, modifierLetter), (0x2e30, otherPunctuation), (0x2e3a, dashPunctuation),
  (0x2e3c, otherPunctuation), (0x2e40, dashPunctuation), (0x2e41, otherPunctuation),
  (0x2e42, openPunctuation), (0x2e43, otherPunctuation), (0x2e50, otherSymbol),
  (0x2e52, otherPunctuation), (0x2e55, openPunctuation), (0x2e56, closePunctuation),
  (0x2e57, openPunctuation), (0x2e58, closePunctuation), (0x2e59, openPunctuation),
  (0x2e5a, closePunctuation), (0x2e5b, openPunctuation), (0x2e5c, closePunctuation),
  (0x2e5d, dashPunctuation), (0x2e5e, unassigned), (0x2e80, otherSymbol), (0x2e9a, unassigned),
  (0x2e9b, otherSymbol), (0x2ef4, unassigned), (0x2f00, otherSymbol), (0x2fd6, unassigned),
  (0x2ff0, otherSymbol), (0x2ffc, unassigned), (0x3000, spaceSeparator),
  (0x3001, otherPunctuation), (0x3004, otherSymbol), (0x3005, modifierLetter),
  (0x3006, otherLetter), (0x3007, letterNumber), (0x3008, openPunctuation),
  (0x3009, closePunctuation), (0x300a, openPunctuation), (0x300b, closePunctuation),
  (0x300c, openPunctuation), (0x300d, closePunctuation), (0x300e, openPunctuation),
  (0x300f, closePunctuation), (0x3010, openPunctuation), (0x3011, closePunctuation),
  (0x3012, otherSymbol), (0x3014, openPunctuation), (0x3015, closePunctuation),
  (0x3016, openPunctuation), (0x3017, closePunctuation), (0x3018, openPunctuation),
  (0x3019, closePunctuation), (0x301a, openPunctuation), (0x301b, closePunctuation),
  (0x301c, dashPunctuation), (0x301d, openPunctuation), (0x301e, closePunctuation),
  (0x3020, otherSymbol), (0x3021, letterNumber), (0x302a, nonspacingMark), (0x302e, spacingMark),
  (0x3030, dashPunctuation), (0x3031, modifierLetter), (0x3036, otherSymbol),
  (0x3038, letterNumber), (0x303b, modifierLetter), (0x303c, otherLetter),
  (0x303d, otherPunctuation), (0x303e, otherSymbol), (0x3040, unassigned), (0x3041, otherLetter),
  (0x3097, unassigned), (0x3099, nonspacingMark), (0x309b, modifierSymbol),
  (0x309d, modifierLetter), (0x309f, otherLetter), (0x30a0, dashPunctuation),
  (0x30a1, otherLetter), (0x30fb, otherPunctuation), (0x30fc, modifierLetter),
  (0x30ff, otherLetter), (0x3100, unassigned), (0x3105, otherLetter), (0x3130, unassigned),
  (0x3131, otherLetter), (0x318f, unassigned), (0x3190, otherSymbol), (0x3192, otherNumber),
  (0x3196, otherSymbol), (0x31a0, otherLetter), (0x31c0, otherSymbol), (0x31e4, unassigned),
  (0x31f0, otherLetter), (0x3200, otherSymbol), (0x321f, unassigned), (0x3220, otherNumber),
  (0x322a, otherSymbol), (0x3248, otherNumber), (0x3250, otherSymbol), (0x3251, otherNumber),
  (0x3260, otherSymbol), (0x3280, otherNumber), (0x328a, otherSymbol), (0x32b1, otherNumber),
  (0x32c0, otherSymbol), (0x3400, otherLetter), (0x4dc0, otherSymbol), (0x4e00, otherLetter),
  (0xa015, modifierLetter), (0xa016, otherLetter), (0xa48d, unassigned), (0xa490, otherSymbol),
  (0xa4c7, unassigned), (0xa4d0, otherLetter), (0xa4f8, modifierLetter),
  (0xa4fe, otherPunctuation), (0xa500, otherLetter), (0xa60c, modifierLetter),
  (0xa60d, otherPunctuation), (0xa610, otherLetter), (0xa620, decimalNumber),
  (0xa62a, otherLetter), (0xa62c, unassigned), (0xa640, upperLetter), (0xa641, lowerLetter),
  (0xa642, upperLetter), (0xa643, lowerLetter)]

def fromA644 : List (Nat × Category) := [
  (0xa644, upperLetter), (0xa645, lowerLetter), (0xa646, upperLetter), (0xa647, lowerLetter),
  (0xa648, upperLetter), (0xa649, lowerLetter), (0xa64a, upperLetter), (0xa64b, lowerLetter),
  (0xa64c, upperLetter), (0xa64d, lowerLetter), (0xa64e, upperLetter), (0xa64f, lowerLetter),
  (0xa650, upperLetter), (0xa651, lowerLetter), (0xa652, upperLetter), (0xa653, lowerLetter),
  (0xa654, upperLetter), (0xa655, lowerLetter), (0xa656, upperLetter), (0xa657, lowerLetter),
  (0xa658, upperLetter), (0xa659, lowerLetter), (0xa65a, upperLetter), (0xa65b, lowerLetter),
  (0xa65c, upperLetter), (0xa65d, lowerLetter), (0xa65e, upperLetter), (0xa65f, lowerLetter),
  (0xa660, upperLetter), (0xa661, lowerLetter), (0xa662, upperLetter), (0xa663, lowerLetter),
  (0xa664, upperLetter), (0xa665, lowerLetter), (0xa666, upperLetter), (0xa667, lowerLetter),
  (0xa668, upperLetter), (0xa669, lowerLetter), (0xa66a, upperLetter), (0xa66b, lowerLetter),
  (0xa66c, upperLetter), (0xa66d, lowerLetter), (0xa66e, otherLetter), (0xa66f, nonspacingMark),
  (0xa670, enclosingMark), (0xa673, otherPunctuation), (0xa674, nonspacingMark),
  (0xa67e, otherPunctuation), (0xa67f, modifierLetter), (0xa680, upperLetter),
  (0xa681, lowerLetter), (0xa682, upperLetter), (0xa683, lowerLetter), (0xa684, upperLetter),
  (0xa685, lowerLetter), (0xa686, upperLetter), (0xa687, lowerLetter), (0xa688, upperLetter),
  (0xa689, lowerLetter), (0xa68a, upperLetter), (0xa68b, lowerLetter), (0xa68c, upperLetter),
  (0xa68d, lowerLetter), (0xa68e, upperLetter), (0xa68f, lowerLetter), (0xa690, upperLetter),
  (0xa691, lowerLetter), (0xa692, upperLetter), (0xa693, lowerLetter), (0xa694, upperLetter),
  (0xa695, lowerLetter), (0xa696, upperLetter), (0xa697, lowerLetter), (0xa698, upperLetter),
  (0xa699, lowerLetter), (0xa69a, upperLetter), (0xa69b, lowerLetter), (0xa69c, modifierLetter),
  (0xa69e, nonspacingMark), (0xa6a0, otherLetter), (0xa6e6, letterNumber),
  (0xa6f0, nonspacingMark), (0xa6f2, otherPunctuation), (0xa6f8, unassigned),
  (0xa700, modifierSymbol), (0xa717, modifierLetter), (0xa720, modifierSymbol),
  (0xa722, upperLetter), (0xa723, lowerLetter), (0xa724, upperLetter), (0xa725, lowerLetter),
  (0xa726, upperLetter), (0xa727, lowerLetter), (0xa728, upperLetter), (0xa729, lowerLetter),
  (0xa72a, upperLetter), (0xa72b, lowerLetter), (0xa72c, upperLetter), (0xa72d, lowerLetter),
  (0xa72e, upperLetter), (0xa72f, lowerLetter), (0xa732, upperLetter), (0xa733, lowerLetter),
  (0xa734, upperLetter), (0xa735, lowerLetter), (0xa736, upperLetter), (0xa737, lowerLetter),
  (0xa738, upperLetter), (0xa739, lowerLetter), (0xa73a, upperLetter), (0xa73b, lowerLetter),
  (0xa73c, upperLetter), (0xa73d, lowerLetter), (0xa73e, upperLetter), (0xa73f, lowerLetter),
  (0xa740, upperLetter), (0xa741, lowerLetter), (0xa742, upperLetter), (0xa743, lowerLetter),
  (0xa744, upperLetter), (0xa745, lowerLetter), (0xa746, upperLetter), (0xa747, lowerLetter),
  (0xa748, upperLetter), (0xa749, lowerLetter), (0xa74a, upperLetter), (0xa74b, lowerLetter),
  (0xa74c, upperLetter), (0xa74d, lowerLetter), (0xa74e, upperLetter), (0xa74f, lowerLetter),
  (0xa750, upperLetter), (0xa751, lowerLetter), (0xa752, upperLetter), (0xa753, lowerLetter),
  (0xa754, upperLetter), (0xa755, lowerLetter), (0xa756, upperLetter), (0xa757, lowerLetter),
  (0xa758, upperLetter), (0xa759, lowerLetter), (0xa75a, upperLetter), (0xa75b, lowerLetter),
  (0xa75c, upperLetter), (0xa75d, lowerLetter), (0xa75e, upperLetter), (0xa75f, lowerLetter),
  (0xa760, upperLetter), (0xa761, lowerLetter), (0xa762, upperLetter), (0xa763, lowerLetter),
  (0xa764, upperLetter), (0xa765, lowerLetter), (0xa766, upperLetter), (0xa767, lowerLetter),
  (0xa768, upperLetter), (0xa769, lowerLetter), (0xa76a, upperLetter), (0xa76b, lowerLetter),
  (0xa76c, upperLetter), (0xa76d, lowerLetter), (0xa76e, upperLetter), (0xa76f, lowerLetter),
  (0xa770, modifierLetter), (0xa771, lowerLetter), (0xa779, upperLetter), (0xa77a, lowerLetter),
  (0xa77b, upperLetter), (0xa77c, lowerLetter), (0xa77d, upperLetter), (0xa77f, lowerLetter),
  (0xa780, upperLetter), (0xa781, lowerLetter), (0xa782, upperLetter), (0xa783, lowerLetter),
  (0xa784, upperLetter), (0xa785, lowerLetter), (0xa786, upperLetter), (0xa787, lowerLetter),
  (0xa788, modifierLetter), (0xa789, modifierSymbol), (0xa78b, upperLetter), (0xa78c, lowerLetter),
  (0xa78d, upperLetter), (0xa78e, lowerLetter), (0xa78f, otherLetter), (0xa790, upperLetter),
  (0xa791, lowerLetter), (0xa792, upperLetter), (0xa793, lowerLetter), (0xa796, upperLetter),
  (0xa797, lowerLetter), (0xa798, upperLetter), (0xa799, lowerLetter), (0xa79a, upperLetter),
  (0xa79b, lowerLetter), (0xa79c, upperLetter), (0xa79d, lowerLetter), (0xa79e, upperLetter),
  (0xa79f, lowerLetter), (0xa7a0, upperLetter), (0xa7a1, lowerLetter), (0xa7a2, upperLetter),
  (0xa7a3, lowerLetter), (0xa7a4, upperLetter), (0xa7a5, lowerLetter), (0xa7a6, upperLetter),
  (0xa7a7, lowerLetter), (0xa7a8, upperLetter), (0xa7a9, lowerLetter), (0xa7aa, upperLetter),
  (0xa7af, lowerLetter), (0xa7b0, upperLetter), (0xa7b5, lowerLetter), (0xa7b6, upperLetter),
  (0xa7b7, lowerLetter), (0xa7b8, upperLetter), (0xa7b9, lowerLetter), (0xa7ba, upperLetter),
  (0xa7bb, lowerLetter), (0xa7bc, upperLetter), (0xa7bd, lowerLetter), (0xa7be, upperLetter),
  (0xa7bf, lowerLetter), (0xa7c0, upperLetter), (0xa7c1, lowerLetter), (0xa7c2, upperLetter),
  (0xa7c3, lowerLetter), (0xa7c4, upperLetter), (0xa7c8, lowerLetter), (0xa7c9, upperLetter),
  (0xa7ca, lowerLetter), (0xa7cb, unassigned), (0xa7d0, upperLetter), (0xa7d1, lowerLetter),
  (0xa7d2, unassigned), (0xa7d3, lowerLetter), (0xa7d4, unassigned), (0xa7d5, lowerLetter),
  (0xa7d6, upperLetter), (0xa7d7, lowerLetter), (0xa7d8, upperLetter), (0xa7d9, lowerLetter),
  (0xa7da, unassigned), (0xa7f2, modifierLetter), (0xa7f5, upperLetter), (0xa7f6, lowerLetter),
  (0xa7f7, otherLetter), (0xa7f8, modifierLetter), (0xa7fa, lowerLetter), (0xa7fb, otherLetter),
  (0xa802, nonspacingMark), (0xa803, otherLetter), (0xa806, nonspacingMark), (0xa807, otherLetter),
  (0xa80b, nonspacingMark)]

def fromA80C : List (Nat × Category) := [
  (0xa80c, otherLetter), (0xa823, spacingMark), (0xa825, nonspacingMark), (0xa827, spacingMark),
  (0xa828, otherSymbol), (0xa82c, nonspacingMark), (0xa82d, unassigned), (0xa830, otherNumber),
  (0xa836, otherSymbol), (0xa838, currencySymbol), (0xa839, otherSymbol), (0xa83a, unassigned),
  (0xa840, otherLetter), (0xa874, otherPunctuation), (0xa878, unassigned), (0xa880, spacingMark),
  (0xa882, otherLetter), (0xa8b4, spacingMark), (0xa8c4, nonspacingMark), (0xa8c6, unassigned),
  (0xa8ce, otherPunctuation), (0xa8d0, decimalNumber), (0xa8da, unassigned),
  (0xa8e0, nonspacingMark), (0xa8f2, otherLetter), (0xa8f8, otherPunctuation),
  (0xa8fb, otherLetter), (0xa8fc, otherPunctuation), (0xa8fd, otherLetter),
  (0xa8ff, nonspacingMark), (0xa900, decimalNumber), (0xa90a, otherLetter),
  (0xa926, nonspacingMark), (0xa92e, otherPunctuation), (0xa930, otherLetter),
  (0xa947, nonspacingMark), (0xa952, spacingMark), (0xa954, unassigned),
  (0xa95f, otherPunctuation), (0xa960, otherLetter), (0xa97d, unassigned),
  (0xa980, nonspacingMark), (0xa983, spacingMark), (0xa984, otherLetter), (0xa9b3, nonspacingMark),
  (0xa9b4, spacingMark), (0xa9b6, nonspacingMark), (0xa9ba, spacingMark), (0xa9bc, nonspacingMark),
  (0xa9be, spacingMark), (0xa9c1, otherPunctuation), (0xa9ce, unassigned),
  (0xa9cf, modifierLetter), (0xa9d0, decimalNumber), (0xa9da, unassigned),
  (0xa9de, otherPunctuation), (0xa9e0, otherLetter), (0xa9e5, nonspacingMark),
  (0xa9e6, modifierLetter), (0xa9e7, otherLetter), (0xa9f0, decimalNumber), (0xa9fa, otherLetter),
  (0xa9ff, unassigned), (0xaa00, otherLetter), (0xaa29, nonspacingMark), (0xaa2f, spacingMark),
  (0xaa31, nonspacingMark), (0xaa33, spacingMark), (0xaa35, nonspacingMark), (0xaa37, unassigned),
  (0xaa40, otherLetter), (0xaa43, nonspacingMark), (0xaa44, otherLetter), (0xaa4c, nonspacingMark),
  (0xaa4d, spacingMark), (0xaa4e, unassigned), (0xaa50, decimalNumber), (0xaa5a, unassigned),
  (0xaa5c, otherPunctuation), (0xaa60, otherLetter), (0xaa70, modifierLetter),
  (0xaa71, otherLetter), (0xaa77, otherSymbol), (0xaa7a, otherLetter), (0xaa7b, spacingMark),
  (0xaa7c, nonspacingMark), (0xaa7d, spacingMark), (0xaa7e, otherLetter), (0xaab0, nonspacingMark),
  (0xaab1, otherLetter), (0xaab2, nonspacingMark), (0xaab5, otherLetter), (0xaab7, nonspacingMark),
  (0xaab9, otherLetter), (0xaabe, nonspacingMark), (0xaac0, otherLetter), (0xaac1, nonspacingMark),
  (0xaac2, otherLetter), (0xaac3, unassigned), (0xaadb, otherLetter), (0xaadd, modifierLetter),
  (0xaade, otherPunctuation), (0xaae0, otherLetter), (0xaaeb, spacingMark),
  (0xaaec, nonspacingMark), (0xaaee, spacingMark), (0xaaf0, otherPunctuation),
  (0xaaf2, otherLetter), (0xaaf3, modifierLetter), (0xaaf5, spacingMark), (0xaaf6, nonspacingMark),
  (0xaaf7, unassigned), (0xab01, otherLetter), (0xab07, unassigned), (0xab09, otherLetter),
  (0xab0f, unassigned), (0xab11, otherLetter), (0xab17, unassigned), (0xab20, otherLetter),
  (0xab27, unassigned), (0xab28, otherLetter), (0xab2f, unassigned), (0xab30, lowerLetter),
  (0xab5b, modifierSymbol), (0xab5c, modifierLetter), (0xab60, lowerLetter),
  (0xab69, modifierLetter), (0xab6a, modifierSymbol), (0xab6c, unassigned), (0xab70, lowerLetter),
  (0xabc0, otherLetter), (0xabe3, spacingMark), (0xabe5, nonspacingMark), (0xabe6, spacingMark),
  (0xabe8, nonspacingMark), (0xabe9, spacingMark), (0xabeb, otherPunctuation),
  (0xabec, spacingMark), (0xabed, nonspacingMark), (0xabee, unassigned), (0xabf0, decimalNumber),
  (0xabfa, unassigned), (0xac00, otherLetter), (0xd7a4, unassigned), (0xd7b0, otherLetter),
  (0xd7c7, unassigned), (0xd7cb, otherLetter), (0xd7fc, unassigned), (0xd800, surrogate),
  (0xe000, privateUse), (0xf900, otherLetter), (0xfa6e, unassigned), (0xfa70, otherLetter),
  (0xfada, unassigned), (0xfb00, lowerLetter), (0xfb07, unassigned), (0xfb13, lowerLetter),
  (0xfb18, unassigned), (0xfb1d, otherLetter), (0xfb1e, nonspacingMark), (0xfb1f, otherLetter),
  (0xfb29, mathSymbol), (0xfb2a, otherLetter), (0xfb37, unassigned), (0xfb38, otherLetter),
  (0xfb3d, unassigned), (0xfb3e, otherLetter), (0xfb3f, unassigned), (0xfb40, otherLetter),
  (0xfb42, unassigned), (0xfb43, otherLetter), (0xfb45, unassigned), (0xfb46, otherLetter),
  (0xfbb2, modifierSymbol), (0xfbc3, unassigned), (0xfbd3, otherLetter),
  (0xfd3e, closePunctuation), (0xfd3f, openPunctuation), (0xfd40, otherSymbol),
  (0xfd50, otherLetter), (0xfd90, unassigned), (0xfd92, otherLetter), (0xfdc8, unassigned),
  (0xfdcf, otherSymbol), (0xfdd0, unassigned), (0xfdf0, otherLetter), (0xfdfc, currencySymbol),
  (0xfdfd, otherSymbol), (0xfe00, nonspacingMark), (0xfe10, otherPunctuation),
  (0xfe17, openPunctuation), (0xfe18, closePunctuation), (0xfe19, otherPunctuation),
  (0xfe1a, unassigned), (0xfe20, nonspacingMark), (0xfe30, otherPunctuation),
  (0xfe31, dashPunctuation), (0xfe33, connectorPunctuation), (0xfe35, openPunctuation),
  (0xfe36, closePunctuation), (0xfe37, openPunctuation), (0xfe38, closePunctuation),
  (0xfe39, openPunctuation), (0xfe3a, closePunctuation), (0xfe3b, openPunctuation),
  (0xfe3c, closePunctuation), (0xfe3d, openPunctuation), (0xfe3e, closePunctuation),
  (0xfe3f, openPunctuation), (0xfe40, closePunctuation), (0xfe41, openPunctuation),
  (0xfe42, closePunctuation), (0xfe43, openPunctuation), (0xfe44, closePunctuation),
  (0xfe45, otherPunctuation), (0xfe47, openPunctuation), (0xfe48, closePunctuation),
  (0xfe49, otherPunctuation), (0xfe4d, connectorPunctuation), (0xfe50, otherPunctuation),
  (0xfe53, unassigned), (0xfe54, otherPunctuation), (0xfe58, dashPunctuation),
  (0xfe59, openPunctuation), (0xfe5a, closePunctuation), (0xfe5b, openPunctuation),
  (0xfe5c, closePunctuation), (0xfe5d, openPunctuation), (0xfe5e, closePunctuation),
  (0xfe5f, otherPunctuation), (0xfe62, mathSymbol), (0xfe63, dashPunctuation),
  (0xfe64, mathSymbol), (0xfe67, unassigned), (0xfe68, otherPunctuation), (0xfe69, currencySymbol),
  (0xfe6a, otherPunctuation), (0xfe6c, unassigned), (0xfe70, otherLetter), (0xfe75, unassigned),
  (0xfe76, otherLetter), (0xfefd, unassigned), (0xfeff, format), (0xff00, unassigned),
  (0xff01, otherPunctuation), (0xff04, currencySymbol), (0xff05, otherPunctuation),
  (0xff08, openPunctuation), (0xff09, closePunctuation), (0xff0a, otherPunctuation),
  (0xff0b, mathSymbol), (0xff0c, otherPunctuation), (0xff0d, dashPunctuation),
  (0xff0e, otherPunctuation), (0xff10, decimalNumber), (0xff1a, otherPunctuation)]

def fromFF1C : List (Nat × Category) := [
  (0xff1c, mathSymbol), (0xff1f, otherPunctuation), (0xff21, upperLetter),
  (0xff3b, openPunctuation), (0xff3c, otherPunctuation), (0xff3d, closePunctuation),
  (0xff3e, modifierSymbol), (0xff3f, connectorPunctuation), (0xff40, modifierSymbol),
  (0xff41, lowerLetter), (0xff5b, openPunctuation), (0xff5c, mathSymbol),
  (0xff5d, closePunctuation), (0xff5e, mathSymbol), (0xff5f, openPunctuation),
  (0xff60, closePunctuation), (0xff61, otherPunctuation), (0xff62, openPunctuation),
  (0xff63, closePunctuation), (0xff64, otherPunctuation), (0xff66, otherLetter),
  (0xff70, modifierLetter), (0xff71, otherLetter), (0xff9e, modifierLetter), (0xffa0, otherLetter),
  (0xffbf, unassigned), (0xffc2, otherLetter), (0xffc8, unassigned), (0xffca, otherLetter),
  (0xffd0, unassigned), (0xffd2, otherLetter), (0xffd8, unassigned), (0xffda, otherLetter),
  (0xffdd, unassigned), (0xffe0, currencySymbol), (0xffe2, mathSymbol), (0xffe3, modifierSymbol),
  (0xffe4, otherSymbol), (0xffe5, currencySymbol), (0xffe7, unassigned), (0xffe8, otherSymbol),
  (0xffe9, mathSymbol), (0xffed, otherSymbol), (0xffef, unassigned), (0xfff9, format),
  (0xfffc, otherSymbol), (0xfffe, unassigned), (0x10000, otherLetter), (0x1000c, unassigned),
  (0x1000d, otherLetter), (0x10027, unassigned), (0x10028, otherLetter), (0x1003b, unassigned),
  (0x1003c, otherLetter), (0x1003e, unassigned), (0x1003f, otherLetter), (0x1004e, unassigned),
  (0x10050, otherLetter), (0x1005e, unassigned), (0x10080, otherLetter), (0x100fb, unassigned),
  (0x10100, otherPunctuation), (0x10103, unassigned), (0x10107, otherNumber),
  (0x10134, unassigned), (0x10137, otherSymbol), (0x10140, letterNumber), (0x10175, otherNumber),
  (0x10179, otherSymbol), (0x1018a, otherNumber), (0x1018c, otherSymbol), (0x1018f, unassigned),
  (0x10190, otherSymbol), (0x1019d, unassigned), (0x101a0, otherSymbol), (0x101a1, unassigned),
  (0x101d0, otherSymbol), (0x101fd, nonspacingMark), (0x101fe, unassigned), (0x10280, otherLetter),
  (0x1029d, unassigned), (0x102a0, otherLetter), (0x102d1, unassigned), (0x102e0, nonspacingMark),
  (0x102e1, otherNumber), (0x102fc, unassigned), (0x10300, otherLetter), (0x10320, otherNumber),
  (0x10324, unassigned), (0x1032d, otherLetter), (0x10341, letterNumber), (0x10342, otherLetter),
  (0x1034a, letterNumber), (0x1034b, unassigned), (0x10350, otherLetter),
  (0x10376, nonspacingMark), (0x1037b, unassigned), (0x10380, otherLetter), (0x1039e, unassigned),
  (0x1039f, otherPunctuation), (0x103a0, otherLetter), (0x103c4, unassigned),
  (0x103c8, otherLetter), (0x103d0, otherPunctuation), (0x103d1, letterNumber),
  (0x103d6, unassigned), (0x10400, upperLetter), (0x10428, lowerLetter), (0x10450, otherLetter),
  (0x1049e, unassigned), (0x104a0, decimalNumber), (0x104aa, unassigned), (0x104b0, upperLetter),
  (0x104d4, unassigned), (0x104d8, lowerLetter), (0x104fc, unassigned), (0x10500, otherLetter),
  (0x10528, unassigned), (0x10530, otherLetter), (0x10564, unassigned),
  (0x1056f, otherPunctuation), (0x10570, upperLetter), (0x1057b, unassigned),
  (0x1057c, upperLetter), (0x1058b, unassigned), (0x1058c, upperLetter), (0x10593, unassigned),
  (0x10594, upperLetter), (0x10596, unassigned), (0x10597, lowerLetter), (0x105a2, unassigned),
  (0x105a3, lowerLetter), (0x105b2, unassigned), (0x105b3, lowerLetter), (0x105ba, unassigned),
  (0x105bb, lowerLetter), (0x105bd, unassigned), (0x10600, otherLetter), (0x10737, unassigned),
  (0x10740, otherLetter), (0x10756, unassigned), (0x10760, otherLetter), (0x10768, unassigned),
  (0x10780, modifierLetter), (0x10786, unassigned), (0x10787, modifierLetter),
  (0x107b1, unassigned), (0x107b2, modifierLetter), (0x107bb, unassigned), (0x10800, otherLetter),
  (0x10806, unassigned), (0x10808, otherLetter), (0x10809, unassigned), (0x1080a, otherLetter),
  (0x10836, unassigned), (0x10837, otherLetter), (0x10839, unassigned), (0x1083c, otherLetter),
  (0x1083d, unassigned), (0x1083f, otherLetter), (0x10856, unassigned),
  (0x10857, otherPunctuation), (0x10858, otherNumber), (0x10860, otherLetter),
  (0x10877, otherSymbol), (0x10879, otherNumber), (0x10880, otherLetter), (0x1089f, unassigned),
  (0x108a7, otherNumber), (0x108b0, unassigned), (0x108e0, otherLetter), (0x108f3, unassigned),
  (0x108f4, otherLetter), (0x108f6, unassigned), (0x108fb, otherNumber), (0x10900, otherLetter),
  (0x10916, otherNumber), (0x1091c, unassigned), (0x1091f, otherPunctuation),
  (0x10920, otherLetter), (0x1093a, unassigned), (0x1093f, otherPunctuation),
  (0x10940, unassigned), (0x10980, otherLetter), (0x109b8, unassigned), (0x109bc, otherNumber),
  (0x109be, otherLetter), (0x109c0, otherNumber), (0x109d0, unassigned), (0x109d2, otherNumber),
  (0x10a00, otherLetter), (0x10a01, nonspacingMark), (0x10a04, unassigned),
  (0x10a05, nonspacingMark), (0x10a07, unassigned), (0x10a0c, nonspacingMark),
  (0x10a10, otherLetter), (0x10a14, unassigned), (0x10a15, otherLetter), (0x10a18, unassigned),
  (0x10a19, otherLetter), (0x10a36, unassigned), (0x10a38, nonspacingMark), (0x10a3b, unassigned),
  (0x10a3f, nonspacingMark), (0x10a40, otherNumber), (0x10a49, unassigned),
  (0x10a50, otherPunctuation), (0x10a59, unassigned), (0x10a60, otherLetter),
  (0x10a7d, otherNumber), (0x10a7f, otherPunctuation), (0x10a80, otherLetter),
  (0x10a9d, otherNumber), (0x10aa0, unassigned), (0x10ac0, otherLetter), (0x10ac8, otherSymbol),
  (0x10ac9, otherLetter), (0x10ae5, nonspacingMark), (0x10ae7, unassigned), (0x10aeb, otherNumber),
  (0x10af0, otherPunctuation), (0x10af7, unassigned), (0x10b00, otherLetter),
  (0x10b36, unassigned), (0x10b39, otherPunctuation), (0x10b40, otherLetter),
  (0x10b56, unassigned), (0x10b58, otherNumber), (0x10b60, otherLetter), (0x10b73, unassigned),
  (0x10b78, otherNumber), (0x10b80, otherLetter), (0x10b92, unassigned),
  (0x10b99, otherPunctuation), (0x10b9d, unassigned), (0x10ba9, otherNumber),
  (0x10bb0, unassigned), (0x10c00, otherLetter), (0x10c49, unassigned), (0x10c80, upperLetter),
  (0x10cb3, unassigned), (0x10cc0, lowerLetter), (0x10cf3, unassigned), (0x10cfa, otherNumber),
  (0x10d00, otherLetter), (0x10d24, nonspacingMark), (0x10d28, unassigned),
  (0x10d30, decimalNumber), (0x10d3a, unassigned), (0x10e60, otherNumber), (0x10e7f, unassigned),
  (0x10e80, otherLetter), (0x10eaa, unassigned), (0x10eab, nonspacingMark),
  (0x10ead, dashPunctuation)]

def from10EAE : List (Nat × Category) := [
  (0x10eae, unassigned), (0x10eb0, otherLetter), (0x10eb2, unassigned), (0x10f00, otherLetter),
  (0x10f1d, otherNumber), (0x10f27, otherLetter), (0x10f28, unassigned), (0x10f30, otherLetter),
  (0x10f46, nonspacingMark), (0x10f51, otherNumber), (0x10f55, otherPunctuation),
  (0x10f5a, unassigned), (0x10f70, otherLetter), (0x10f82, nonspacingMark),
  (0x10f86, otherPunctuation), (0x10f8a, unassigned), (0x10fb0, otherLetter),
  (0x10fc5, otherNumber), (0x10fcc, unassigned), (0x10fe0, otherLetter), (0x10ff7, unassigned),
  (0x11000, spacingMark), (0x11001, nonspacingMark), (0x11002, spacingMark),
  (0x11003, otherLetter), (0x11038, nonspacingMark), (0x11047, otherPunctuation),
  (0x1104e, unassigned), (0x11052, otherNumber), (0x11066, decimalNumber),
  (0x11070, nonspacingMark), (0x11071, otherLetter), (0x11073, nonspacingMark),
  (0x11075, otherLetter), (0x11076, unassigned), (0x1107f, nonspacingMark), (0x11082, spacingMark),
  (0x11083, otherLetter), (0x110b0, spacingMark), (0x110b3, nonspacingMark),
  (0x110b7, spacingMark), (0x110b9, nonspacingMark), (0x110bb, otherPunctuation),
  (0x110bd, format), (0x110be, otherPunctuation), (0x110c2, nonspacingMark), (0x110c3, unassigned),
  (0x110cd, format), (0x110ce, unassigned), (0x110d0, otherLetter), (0x110e9, unassigned),
  (0x110f0, decimalNumber), (0x110fa, unassigned), (0x11100, nonspacingMark),
  (0x11103, otherLetter), (0x11127, nonspacingMark), (0x1112c, spacingMark),
  (0x1112d, nonspacingMark), (0x11135, unassigned), (0x11136, decimalNumber),
  (0x11140, otherPunctuation), (0x11144, otherLetter), (0x11145, spacingMark),
  (0x11147, otherLetter), (0x11148, unassigned), (0x11150, otherLetter), (0x11173, nonspacingMark),
  (0x11174, otherPunctuation), (0x11176, otherLetter), (0x11177, unassigned),
  (0x11180, nonspacingMark), (0x11182, spacingMark), (0x11183, otherLetter),
  (0x111b3, spacingMark), (0x111b6, nonspacingMark), (0x111bf, spacingMark),
  (0x111c1, otherLetter), (0x111c5, otherPunctuation), (0x111c9, nonspacingMark),
  (0x111cd, otherPunctuation), (0x111ce, spacingMark), (0x111cf, nonspacingMark),
  (0x111d0, decimalNumber), (0x111da, otherLetter), (0x111db, otherPunctuation),
  (0x111dc, otherLetter), (0x111dd, otherPunctuation), (0x111e0, unassigned),
  (0x111e1, otherNumber), (0x111f5, unassigned), (0x11200, otherLetter), (0x11212, unassigned),
  (0x11213, otherLetter), (0x1122c, spacingMark), (0x1122f, nonspacingMark),
  (0x11232, spacingMark), (0x11234, nonspacingMark), (0x11235, spacingMark),
  (0x11236, nonspacingMark), (0x11238, otherPunctuation), (0x1123e, nonspacingMark),
  (0x1123f, unassigned), (0x11280, otherLetter), (0x11287, unassigned), (0x11288, otherLetter),
  (0x11289, unassigned), (0x1128a, otherLetter), (0x1128e, unassigned), (0x1128f, otherLetter),
  (0x1129e, unassigned), (0x1129f, otherLetter), (0x112a9, otherPunctuation),
  (0x112aa, unassigned), (0x112b0, otherLetter), (0x112df, nonspacingMark), (0x112e0, spacingMark),
  (0x112e3, nonspacingMark), (0x112eb, unassigned), (0x112f0, decimalNumber),
  (0x112fa, unassigned), (0x11300, nonspacingMark), (0x11302, spacingMark), (0x11304, unassigned),
  (0x11305, otherLetter), (0x1130d, unassigned), (0x1130f, otherLetter), (0x11311, unassigned),
  (0x11313, otherLetter), (0x11329, unassigned), (0x1132a, otherLetter), (0x11331, unassigned),
  (0x11332, otherLetter), (0x11334, unassigned), (0x11335, otherLetter), (0x1133a, unassigned),
  (0x1133b, nonspacingMark), (0x1133d, otherLetter), (0x1133e, spacingMark),
  (0x11340, nonspacingMark), (0x11341, spacingMark), (0x11345, unassigned), (0x11347, spacingMark),
  (0x11349, unassigned), (0x1134b, spacingMark), (0x1134e, unassigned), (0x11350, otherLetter),
  (0x11351, unassigned), (0x11357, spacingMark), (0x11358, unassigned), (0x1135d, otherLetter),
  (0x11362, spacingMark), (0x11364, unassigned), (0x11366, nonspacingMark), (0x1136d, unassigned),
  (0x11370, nonspacingMark), (0x11375, unassigned), (0x11400, otherLetter), (0x11435, spacingMark),
  (0x11438, nonspacingMark), (0x11440, spacingMark), (0x11442, nonspacingMark),
  (0x11445, spacingMark), (0x11446, nonspacingMark), (0x11447, otherLetter),
  (0x1144b, otherPunctuation), (0x11450, decimalNumber), (0x1145a, otherPunctuation),
  (0x1145c, unassigned), (0x1145d, otherPunctuation), (0x1145e, nonspacingMark),
  (0x1145f, otherLetter), (0x11462, unassigned), (0x11480, otherLetter), (0x114b0, spacingMark),
  (0x114b3, nonspacingMark), (0x114b9, spacingMark), (0x114ba, nonspacingMark),
  (0x114bb, spacingMark), (0x114bf, nonspacingMark), (0x114c1, spacingMark),
  (0x114c2, nonspacingMark), (0x114c4, otherLetter), (0x114c6, otherPunctuation),
  (0x114c7, otherLetter), (0x114c8, unassigned), (0x114d0, decimalNumber), (0x114da, unassigned),
  (0x11580, otherLetter), (0x115af, spacingMark), (0x115b2, nonspacingMark), (0x115b6, unassigned),
  (0x115b8, spacingMark), (0x115bc, nonspacingMark), (0x115be, spacingMark),
  (0x115bf, nonspacingMark), (0x115c1, otherPunctuation), (0x115d8, otherLetter),
  (0x115dc, nonspacingMark), (0x115de, unassigned), (0x11600, otherLetter), (0x11630, spacingMark),
  (0x11633, nonspacingMark), (0x1163b, spacingMark), (0x1163d, nonspacingMark),
  (0x1163e, spacingMark), (0x1163f, nonspacingMark), (0x11641, otherPunctuation),
  (0x11644, otherLetter), (0x11645, unassigned), (0x11650, decimalNumber), (0x1165a, unassigned),
  (0x11660, otherPunctuation), (0x1166d, unassigned), (0x11680, otherLetter),
  (0x116ab, nonspacingMark), (0x116ac, spacingMark), (0x116ad, nonspacingMark),
  (0x116ae, spacingMark), (0x116b0, nonspacingMark), (0x116b6, spacingMark),
  (0x116b7, nonspacingMark), (0x116b8, otherLetter), (0x116b9, otherPunctuation),
  (0x116ba, unassigned), (0x116c0, decimalNumber), (0x116ca, unassigned), (0x11700, otherLetter),
  (0x1171b, unassigned), (0x1171d, nonspacingMark), (0x11720, spacingMark),
  (0x11722, nonspacingMark), (0x11726, spacingMark), (0x11727, nonspacingMark),
  (0x1172c, unassigned), (0x11730, decimalNumber), (0x1173a, otherNumber),
  (0x1173c, otherPunctuation), (0x1173f, otherSymbol), (0x11740, otherLetter),
  (0x11747, unassigned), (0x11800, otherLetter), (0x1182c, spacingMark), (0x1182f, nonspacingMark),
  (0x11838, spacingMark), (0x11839, nonspacingMark), (0x1183b, otherPunctuation),
  (0x1183c, unassigned), (0x118a0, upperLetter), (0x118c0, lowerLetter), (0x118e0, decimalNumber),
  (0x118ea, otherNumber), (0x118f3, unassigned), (0x118ff, otherLetter), (0x11907, unassigned),
  (0x11909, otherLetter), (0x1190a, unassigned)]

def from1190C : List (Nat × Category) := [
  (0x1190c, otherLetter), (0x11914, unassigned), (0x11915, otherLetter), (0x11917, unassigned),
  (0x11918, otherLetter), (0x11930, spacingMark), (0x11936, unassigned), (0x11937, spacingMark),
  (0x11939, unassigned), (0x1193b, nonspacingMark), (0x1193d, spacingMark),
  (0x1193e, nonspacingMark), (0x1193f, otherLetter), (0x11940, spacingMark),
  (0x11941, otherLetter), (0x11942, spacingMark), (0x11943, nonspacingMark),
  (0x11944, otherPunctuation), (0x11947, unassigned), (0x11950, decimalNumber),
  (0x1195a, unassigned), (0x119a0, otherLetter), (0x119a8, unassigned), (0x119aa, otherLetter),
  (0x119d1, spacingMark), (0x119d4, nonspacingMark), (0x119d8, unassigned),
  (0x119da, nonspacingMark), (0x119dc, spacingMark), (0x119e0, nonspacingMark),
  (0x119e1, otherLetter), (0x119e2, otherPunctuation), (0x119e3, otherLetter),
  (0x119e4, spacingMark), (0x119e5, unassigned), (0x11a00, otherLetter), (0x11a01, nonspacingMark),
  (0x11a0b, otherLetter), (0x11a33, nonspacingMark), (0x11a39, spacingMark),
  (0x11a3a, otherLetter), (0x11a3b, nonspacingMark), (0x11a3f, otherPunctuation),
  (0x11a47, nonspacingMark), (0x11a48, unassigned), (0x11a50, otherLetter),
  (0x11a51, nonspacingMark), (0x11a57, spacingMark), (0x11a59, nonspacingMark),
  (0x11a5c, otherLetter), (0x11a8a, nonspacingMark), (0x11a97, spacingMark),
  (0x11a98, nonspacingMark), (0x11a9a, otherPunctuation), (0x11a9d, otherLetter),
  (0x11a9e, otherPunctuation), (0x11aa3, unassigned), (0x11ab0, otherLetter),
  (0x11af9, unassigned), (0x11c00, otherLetter), (0x11c09, unassigned), (0x11c0a, otherLetter),
  (0x11c2f, spacingMark), (0x11c30, nonspacingMark), (0x11c37, unassigned),
  (0x11c38, nonspacingMark), (0x11c3e, spacingMark), (0x11c3f, nonspacingMark),
  (0x11c40, otherLetter), (0x11c41, otherPunctuation), (0x11c46, unassigned),
  (0x11c50, decimalNumber), (0x11c5a, otherNumber), (0x11c6d, unassigned),
  (0x11c70, otherPunctuation), (0x11c72, otherLetter), (0x11c90, unassigned),
  (0x11c92, nonspacingMark), (0x11ca8, unassigned), (0x11ca9, spacingMark),
  (0x11caa, nonspacingMark), (0x11cb1, spacingMark), (0x11cb2, nonspacingMark),
  (0x11cb4, spacingMark), (0x11cb5, nonspacingMark), (0x11cb7, unassigned), (0x11d00, otherLetter),
  (0x11d07, unassigned), (0x11d08, otherLetter), (0x11d0a, unassigned), (0x11d0b, otherLetter),
  (0x11d31, nonspacingMark), (0x11d37, unassigned), (0x11d3a, nonspacingMark),
  (0x11d3b, unassigned), (0x11d3c, nonspacingMark), (0x11d3e, unassigned),
  (0x11d3f, nonspacingMark), (0x11d46, otherLetter), (0x11d47, nonspacingMark),
  (0x11d48, unassigned), (0x11d50, decimalNumber), (0x11d5a, unassigned), (0x11d60, otherLetter),
  (0x11d66, unassigned), (0x11d67, otherLetter), (0x11d69, unassigned), (0x11d6a, otherLetter),
  (0x11d8a, spacingMark), (0x11d8f, unassigned), (0x11d90, nonspacingMark), (0x11d92, unassigned),
  (0x11d93, spacingMark), (0x11d95, nonspacingMark), (0x11d96, spacingMark),
  (0x11d97, nonspacingMark), (0x11d98, otherLetter), (0x11d99, unassigned),
  (0x11da0, decimalNumber), (0x11daa, unassigned), (0x11ee0, otherLetter),
  (0x11ef3, nonspacingMark), (0x11ef5, spacingMark), (0x11ef7, otherPunctuation),
  (0x11ef9, unassigned), (0x11fb0, otherLetter), (0x11fb1, unassigned), (0x11fc0, otherNumber),
  (0x11fd5, otherSymbol), (0x11fdd, currencySymbol), (0x11fe1, otherSymbol), (0x11ff2, unassigned),
  (0x11fff, otherPunctuation), (0x12000, otherLetter), (0x1239a, unassigned),
  (0x12400, letterNumber), (0x1246f, unassigned), (0x12470, otherPunctuation),
  (0x12475, unassigned), (0x12480, otherLetter), (0x12544, unassigned), (0x12f90, otherLetter),
  (0x12ff1, otherPunctuation), (0x12ff3, unassigned), (0x13000, otherLetter),
  (0x1342f, unassigned), (0x13430, format), (0x13439, unassigned), (0x14400, otherLetter),
  (0x14647, unassigned), (0x16800, otherLetter), (0x16a39, unassigned), (0x16a40, otherLetter),
  (0x16a5f, unassigned), (0x16a60, decimalNumber), (0x16a6a, unassigned),
  (0x16a6e, otherPunctuation), (0x16a70, otherLetter), (0x16abf, unassigned),
  (0x16ac0, decimalNumber), (0x16aca, unassigned), (0x16ad0, otherLetter), (0x16aee, unassigned),
  (0x16af0, nonspacingMark), (0x16af5, otherPunctuation), (0x16af6, unassigned),
  (0x16b00, otherLetter), (0x16b30, nonspacingMark), (0x16b37, otherPunctuation),
  (0x16b3c, otherSymbol), (0x16b40, modifierLetter), (0x16b44, otherPunctuation),
  (0x16b45, otherSymbol), (0x16b46, unassigned), (0x16b50, decimalNumber), (0x16b5a, unassigned),
  (0x16b5b, otherNumber), (0x16b62, unassigned), (0x16b63, otherLetter), (0x16b78, unassigned),
  (0x16b7d, otherLetter), (0x16b90, unassigned), (0x16e40, upperLetter), (0x16e60, lowerLetter),
  (0x16e80, otherNumber), (0x16e97, otherPunctuation), (0x16e9b, unassigned),
  (0x16f00, otherLetter), (0x16f4b, unassigned), (0x16f4f, nonspacingMark), (0x16f50, otherLetter),
  (0x16f51, spacingMark), (0x16f88, unassigned), (0x16f8f, nonspacingMark),
  (0x16f93, modifierLetter), (0x16fa0, unassigned), (0x16fe0, modifierLetter),
  (0x16fe2, otherPunctuation), (0x16fe3, modifierLetter), (0x16fe4, nonspacingMark),
  (0x16fe5, unassigned), (0x16ff0, spacingMark), (0x16ff2, unassigned), (0x17000, otherLetter),
  (0x187f8, unassigned), (0x18800, otherLetter), (0x18cd6, unassigned), (0x18d00, otherLetter),
  (0x18d09, unassigned), (0x1aff0, modifierLetter), (0x1aff4, unassigned),
  (0x1aff5, modifierLetter), (0x1affc, unassigned), (0x1affd, modifierLetter),
  (0x1afff, unassigned), (0x1b000, otherLetter), (0x1b123, unassigned), (0x1b150, otherLetter),
  (0x1b153, unassigned), (0x1b164, otherLetter), (0x1b168, unassigned), (0x1b170, otherLetter),
  (0x1b2fc, unassigned), (0x1bc00, otherLetter), (0x1bc6b, unassigned), (0x1bc70, otherLetter),
  (0x1bc7d, unassigned), (0x1bc80, otherLetter), (0x1bc89, unassigned), (0x1bc90, otherLetter),
  (0x1bc9a, unassigned), (0x1bc9c, otherSymbol), (0x1bc9d, nonspacingMark),
  (0x1bc9f, otherPunctuation), (0x1bca0, format), (0x1bca4, unassigned), (0x1cf00, nonspacingMark),
  (0x1cf2e, unassigned), (0x1cf30, nonspacingMark), (0x1cf47, unassigned), (0x1cf50, otherSymbol),
  (0x1cfc4, unassigned), (0x1d000, otherSymbol), (0x1d0f6, unassigned), (0x1d100, otherSymbol),
  (0x1d127, unassigned), (0x1d129, otherSymbol), (0x1d165, spacingMark), (0x1d167, nonspacingMark),
  (0x1d16a, otherSymbol), (0x1d16d, spacingMark), (0x1d173, format), (0x1d17b, nonspacingMark),
  (0x1d183, otherSymbol), (0x1d185, nonspacingMark), (0x1d18c, otherSymbol)]

def from1D1AA : List (Nat × Category) := [
  (0x1d1aa, nonspacingMark), (0x1d1ae, otherSymbol), (0x1d1eb, unassigned), (0x1d200, otherSymbol),
  (0x1d242, nonspacingMark), (0x1d245, otherSymbol), (0x1d246, unassigned), (0x1d2e0, otherNumber),
  (0x1d2f4, unassigned), (0x1d300, otherSymbol), (0x1d357, unassigned), (0x1d360, otherNumber),
  (0x1d379, unassigned), (0x1d400, upperLetter), (0x1d41a, lowerLetter), (0x1d434, upperLetter),
  (0x1d44e, lowerLetter), (0x1d455, unassigned), (0x1d456, lowerLetter), (0x1d468, upperLetter),
  (0x1d482, lowerLetter), (0x1d49c, upperLetter), (0x1d49d, unassigned), (0x1d49e, upperLetter),
  (0x1d4a0, unassigned), (0x1d4a2, upperLetter), (0x1d4a3, unassigned), (0x1d4a5, upperLetter),
  (0x1d4a7, unassigned), (0x1d4a9, upperLetter), (0x1d4ad, unassigned), (0x1d4ae, upperLetter),
  (0x1d4b6, lowerLetter), (0x1d4ba, unassigned), (0x1d4bb, lowerLetter), (0x1d4bc, unassigned),
  (0x1d4bd, lowerLetter), (0x1d4c4, unassigned), (0x1d4c5, lowerLetter), (0x1d4d0, upperLetter),
  (0x1d4ea, lowerLetter), (0x1d504, upperLetter), (0x1d506, unassigned), (0x1d507, upperLetter),
  (0x1d50b, unassigned), (0x1d50d, upperLetter), (0x1d515, unassigned), (0x1d516, upperLetter),
  (0x1d51d, unassigned), (0x1d51e, lowerLetter), (0x1d538, upperLetter), (0x1d53a, unassigned),
  (0x1d53b, upperLetter), (0x1d53f, unassigned), (0x1d540, upperLetter), (0x1d545, unassigned),
  (0x1d546, upperLetter), (0x1d547, unassigned), (0x1d54a, upperLetter), (0x1d551, unassigned),
  (0x1d552, lowerLetter), (0x1d56c, upperLetter), (0x1d586, lowerLetter), (0x1d5a0, upperLetter),
  (0x1d5ba, lowerLetter), (0x1d5d4, upperLetter), (0x1d5ee, lowerLetter), (0x1d608, upperLetter),
  (0x1d622, lowerLetter), (0x1d63c, upperLetter), (0x1d656, lowerLetter), (0x1d670, upperLetter),
  (0x1d68a, lowerLetter), (0x1d6a6, unassigned), (0x1d6a8, upperLetter), (0x1d6c1, mathSymbol),
  (0x1d6c2, lowerLetter), (0x1d6db, mathSymbol), (0x1d6dc, lowerLetter), (0x1d6e2, upperLetter),
  (0x1d6fb, mathSymbol), (0x1d6fc, lowerLetter), (0x1d715, mathSymbol), (0x1d716, lowerLetter),
  (0x1d71c, upperLetter), (0x1d735, mathSymbol), (0x1d736, lowerLetter), (0x1d74f, mathSymbol),
  (0x1d750, lowerLetter), (0x1d756, upperLetter), (0x1d76f, mathSymbol), (0x1d770, lowerLetter),
  (0x1d789, mathSymbol), (0x1d78a, lowerLetter), (0x1d790, upperLetter), (0x1d7a9, mathSymbol),
  (0x1d7aa, lowerLetter), (0x1d7c3, mathSymbol), (0x1d7c4, lowerLetter), (0x1d7ca, upperLetter),
  (0x1d7cb, lowerLetter), (0x1d7cc, unassigned), (0x1d7ce, decimalNumber), (0x1d800, otherSymbol),
  (0x1da00, nonspacingMark), (0x1da37, otherSymbol), (0x1da3b, nonspacingMark),
  (0x1da6d, otherSymbol), (0x1da75, nonspacingMark), (0x1da76, otherSymbol),
  (0x1da84, nonspacingMark), (0x1da85, otherSymbol), (0x1da87, otherPunctuation),
  (0x1da8c, unassigned), (0x1da9b, nonspacingMark), (0x1daa0, unassigned),
  (0x1daa1, nonspacingMark), (0x1dab0, unassigned), (0x1df00, lowerLetter), (0x1df0a, otherLetter),
  (0x1df0b, lowerLetter), (0x1df1f, unassigned), (0x1e000, nonspacingMark), (0x1e007, unassigned),
  (0x1e008, nonspacingMark), (0x1e019, unassigned), (0x1e01b, nonspacingMark),
  (0x1e022, unassigned), (0x1e023, nonspacingMark), (0x1e025, unassigned),
  (0x1e026, nonspacingMark), (0x1e02b, unassigned), (0x1e100, otherLetter), (0x1e12d, unassigned),
  (0x1e130, nonspacingMark), (0x1e137, modifierLetter), (0x1e13e, unassigned),
  (0x1e140, decimalNumber), (0x1e14a, unassigned), (0x1e14e, otherLetter), (0x1e14f, otherSymbol),
  (0x1e150, unassigned), (0x1e290, otherLetter), (0x1e2ae, nonspacingMark), (0x1e2af, unassigned),
  (0x1e2c0, otherLetter), (0x1e2ec, nonspacingMark), (0x1e2f0, decimalNumber),
  (0x1e2fa, unassigned), (0x1e2ff, currencySymbol), (0x1e300, unassigned), (0x1e7e0, otherLetter),
  (0x1e7e7, unassigned), (0x1e7e8, otherLetter), (0x1e7ec, unassigned), (0x1e7ed, otherLetter),
  (0x1e7ef, unassigned), (0x1e7f0, otherLetter), (0x1e7ff, unassigned), (0x1e800, otherLetter),
  (0x1e8c5, unassigned), (0x1e8c7, otherNumber), (0x1e8d0, nonspacingMark), (0x1e8d7, unassigned),
  (0x1e900, upperLetter), (0x1e922, lowerLetter), (0x1e944, nonspacingMark),
  (0x1e94b, modifierLetter), (0x1e94c, unassigned), (0x1e950, decimalNumber),
  (0x1e95a, unassigned), (0x1e95e, otherPunctuation), (0x1e960, unassigned),
  (0x1ec71, otherNumber), (0x1ecac, otherSymbol), (0x1ecad, otherNumber),
  (0x1ecb0, currencySymbol), (0x1ecb1, otherNumber), (0x1ecb5, unassigned), (0x1ed01, otherNumber),
  (0x1ed2e, otherSymbol), (0x1ed2f, otherNumber), (0x1ed3e, unassigned), (0x1ee00, otherLetter),
  (0x1ee04, unassigned), (0x1ee05, otherLetter), (0x1ee20, unassigned), (0x1ee21, otherLetter),
  (0x1ee23, unassigned), (0x1ee24, otherLetter), (0x1ee25, unassigned), (0x1ee27, otherLetter),
  (0x1ee28, unassigned), (0x1ee29, otherLetter), (0x1ee33, unassigned), (0x1ee34, otherLetter),
  (0x1ee38, unassigned), (0x1ee39, otherLetter), (0x1ee3a, unassigned), (0x1ee3b, otherLetter),
  (0x1ee3c, unassigned), (0x1ee42, otherLetter), (0x1ee43, unassigned), (0x1ee47, otherLetter),
  (0x1ee48, unassigned), (0x1ee49, otherLetter), (0x1ee4a, unassigned), (0x1ee4b, otherLetter),
  (0x1ee4c, unassigned), (0x1ee4d, otherLetter), (0x1ee50, unassigned), (0x1ee51, otherLetter),
  (0x1ee53, unassigned), (0x1ee54, otherLetter), (0x1ee55, unassigned), (0x1ee57, otherLetter),
  (0x1ee58, unassigned), (0x1ee59, otherLetter), (0x1ee5a, unassigned), (0x1ee5b, otherLetter),
  (0x1ee5c, unassigned), (0x1ee5d, otherLetter), (0x1ee5e, unassigned), (0x1ee5f, otherLetter),
  (0x1ee60, unassigned), (0x1ee61, otherLetter), (0x1ee63, unassigned), (0x1ee64, otherLetter),
  (0x1ee65, unassigned), (0x1ee67, otherLetter), (0x1ee6b, unassigned), (0x1ee6c, otherLetter),
  (0x1ee73, unassigned), (0x1ee74, otherLetter), (0x1ee78, unassigned), (0x1ee79, otherLetter),
  (0x1ee7d, unassigned), (0x1ee7e, otherLetter), (0x1ee7f, unassigned), (0x1ee80, otherLetter),
  (0x1ee8a, unassigned), (0x1ee8b, otherLetter), (0x1ee9c, unassigned), (0x1eea1, otherLetter),
  (0x1eea4, unassigned), (0x1eea5, otherLetter), (0x1eeaa, unassigned), (0x1eeab, otherLetter),
  (0x1eebc, unassigned), (0x1eef0, mathSymbol), (0x1eef2, unassigned), (0x1f000, otherSymbol),
  (0x1f02c, unassigned), (0x1f030, otherSymbol), (0x1f094, unassigned), (0x1f0a0, otherSymbol)]

def from1F0AF : List (Nat × Category) := [
  (0x1f0af, unassigned), (0x1f0b1, otherSymbol), (0x1f0c0, unassigned), (0x1f0c1, otherSymbol),
  (0x1f0d0, unassigned), (0x1f0d1, otherSymbol), (0x1f0f6, unassigned), (0x1f100, otherNumber),
  (0x1f10d, otherSymbol), (0x1f1ae, unassigned), (0x1f1e6, otherSymbol), (0x1f203, unassigned),
  (0x1f210, otherSymbol), (0x1f23c, unassigned), (0x1f240, otherSymbol), (0x1f249, unassigned),
  (0x1f250, otherSymbol), (0x1f252, unassigned), (0x1f260, otherSymbol), (0x1f266, unassigned),
  (0x1f300, otherSymbol), (0x1f3fb, modifierSymbol), (0x1f400, otherSymbol), (0x1f6d8, unassigned),
  (0x1f6dd, otherSymbol), (0x1f6ed, unassigned), (0x1f6f0, otherSymbol), (0x1f6fd, unassigned),
  (0x1f700, otherSymbol), (0x1f774, unassigned), (0x1f780, otherSymbol), (0x1f7d9, unassigned),
  (0x1f7e0, otherSymbol), (0x1f7ec, unassigned), (0x1f7f0, otherSymbol), (0x1f7f1, unassigned),
  (0x1f800, otherSymbol), (0x1f80c, unassigned), (0x1f810, otherSymbol), (0x1f848, unassigned),
  (0x1f850, otherSymbol), (0x1f85a, unassigned), (0x1f860, otherSymbol), (0x1f888, unassigned),
  (0x1f890, otherSymbol), (0x1f8ae, unassigned), (0x1f8b0, otherSymbol), (0x1f8b2, unassigned),
  (0x1f900, otherSymbol), (0x1fa54, unassigned), (0x1fa60, otherSymbol), (0x1fa6e, unassigned),
  (0x1fa70, otherSymbol), (0x1fa75, unassigned), (0x1fa78, otherSymbol), (0x1fa7d, unassigned),
  (0x1fa80, otherSymbol), (0x1fa87, unassigned), (0x1fa90, otherSymbol), (0x1faad, unassigned),
  (0x1fab0, otherSymbol), (0x1fabb, unassigned), (0x1fac0, otherSymbol), (0x1fac6, unassigned),
  (0x1fad0, otherSymbol), (0x1fada, unassigned), (0x1fae0, otherSymbol), (0x1fae8, unassigned),
  (0x1faf0, otherSymbol), (0x1faf7, unassigned), (0x1fb00, otherSymbol), (0x1fb93, unassigned),
  (0x1fb94, otherSymbol), (0x1fbcb, unassigned), (0x1fbf0, decimalNumber), (0x1fbfa, unassigned),
  (0x20000, otherLetter), (0x2a6e0, unassigned), (0x2a700, otherLetter), (0x2b739, unassigned),
  (0x2b740, otherLetter), (0x2b81e, unassigned), (0x2b820, otherLetter), (0x2cea2, unassigned),
  (0x2ceb0, otherLetter), (0x2ebe1, unassigned), (0x2f800, otherLetter), (0x2fa1e, unassigned),
  (0x30000, otherLetter), (0x3134b, unassigned), (0xe0001, format), (0xe0002, unassigned),
  (0xe0020, format), (0xe0080, unassigned), (0xe0100, nonspacingMark), (0xe01f0, unassigned),
  (0xf0000, privateUse), (0xffffe, unassigned), (0x100000, privateUse), (0x10fffe, unassigned)]

end CategoryRuns

open CategoryRuns in
/-- The first code points of the runs with their categories, in increasing order. -/
def categoryRuns : List (Nat × Category) := List.flatten [
  from7F, from204, from4DA, from9FA, fromD62, from17FA, from1E5A, from2071, from2CAB, fromA644,
  fromA80C, fromFF1C, from10EAE, from1190C, from1D1AA, from1F0AF]

end Pseudonym.Text
