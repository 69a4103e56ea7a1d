/-
  LinkLayer.Domain.ShiftTable
  ───────────────────────────
  **CHARACTERS THAT FOLD BY A SHIFT.**

  In many blocks of the standard the capitals, or the styled forms of
  letters and digits, lie at one distance from the plain forms that domains
  contain instead of them.  A row says where such a sequence begins and
  ends, how far its members are apart, and the plain form of the first.
-/

namespace LinkLayer.Domain

/-- A sequence of characters that fold by one shift. -/
structure Shift where
  first : Nat
  last : Nat
  step : Nat
  target : Nat
  deriving Repr, DecidableEq

/-- The code point that a member of the sequence folds to. -/
def Shift.image? (s : Shift) (n : Nat) : Option Nat :=
  if s.first ≤ n && n ≤ s.last && (n - s.first) % s.step = 0 then some (s.target + (n - s.first))
  else none

/-- The sequences. -/
def shifts : List Shift := [
  ⟨0xC0, 0xD6, 1, 0xE0⟩, ⟨0xD8, 0xDE, 1, 0xF8⟩, ⟨0x100, 0x12E, 2, 0x101⟩, ⟨0x139, 0x145, 4, 0x13A⟩,
  ⟨0x14A, 0x176, 2, 0x14B⟩, ⟨0x179, 0x17D, 2, 0x17A⟩, ⟨0x1A0, 0x1A4, 2, 0x1A1⟩,
  ⟨0x1CD, 0x1DB, 2, 0x1CE⟩, ⟨0x1DE, 0x1EE, 2, 0x1DF⟩, ⟨0x1F4, 0x21C, 4, 0x1F5⟩,
  ⟨0x1FA, 0x232, 4, 0x1FB⟩, ⟨0x224, 0x230, 4, 0x225⟩, ⟨0x246, 0x24E, 2, 0x247⟩,
  ⟨0x388, 0x38A, 1, 0x3AD⟩, ⟨0x391, 0x3A1, 1, 0x3B1⟩, ⟨0x3A3, 0x3AB, 1, 0x3C3⟩,
  ⟨0x3D8, 0x3EE, 2, 0x3D9⟩, ⟨0x3FD, 0x3FF, 1, 0x37B⟩, ⟨0x400, 0x40F, 1, 0x450⟩,
  ⟨0x410, 0x42F, 1, 0x430⟩, ⟨0x460, 0x480, 2, 0x461⟩, ⟨0x48A, 0x4BE, 2, 0x48B⟩,
  ⟨0x4C1, 0x4CD, 2, 0x4C2⟩, ⟨0x4D0, 0x52E, 2, 0x4D1⟩, ⟨0x531, 0x556, 1, 0x561⟩,
  ⟨0x10A0, 0x10C5, 1, 0x2D00⟩, ⟨0x13F8, 0x13FD, 1, 0x13F0⟩, ⟨0x1C90, 0x1CBA, 1, 0x10D0⟩,
  ⟨0x1CBD, 0x1CBF, 1, 0x10FD⟩, ⟨0x1D30, 0x1D38, 4, 0x64⟩, ⟨0x1D31, 0x1D39, 2, 0x65⟩,
  ⟨0x1D5D, 0x1D5F, 1, 0x3B2⟩, ⟨0x1DA4, 0x1DA6, 1, 0x268⟩, ⟨0x1DAE, 0x1DB1, 1, 0x272⟩,
  ⟨0x1DBC, 0x1DBE, 1, 0x290⟩, ⟨0x1E00, 0x1E94, 2, 0x1E01⟩, ⟨0x1EA0, 0x1EFE, 2, 0x1EA1⟩,
  ⟨0x1F08, 0x1F0F, 1, 0x1F00⟩, ⟨0x1F18, 0x1F1D, 1, 0x1F10⟩, ⟨0x1F28, 0x1F2F, 1, 0x1F20⟩,
  ⟨0x1F38, 0x1F3F, 1, 0x1F30⟩, ⟨0x1F48, 0x1F4D, 1, 0x1F40⟩, ⟨0x1F59, 0x1F5F, 2, 0x1F51⟩,
  ⟨0x1F68, 0x1F6F, 1, 0x1F60⟩, ⟨0x2070, 0x2078, 4, 0x30⟩, ⟨0x2075, 0x2077, 1, 0x35⟩,
  ⟨0x2080, 0x2089, 1, 0x30⟩, ⟨0x2096, 0x2099, 1, 0x6B⟩, ⟨0x2119, 0x211B, 1, 0x70⟩,
  ⟨0x2135, 0x2138, 1, 0x5D0⟩, ⟨0x2460, 0x2468, 1, 0x31⟩, ⟨0x24B6, 0x24CF, 1, 0x61⟩,
  ⟨0x24D0, 0x24E9, 1, 0x61⟩, ⟨0x2C00, 0x2C2F, 1, 0x2C30⟩, ⟨0x2C67, 0x2C6B, 2, 0x2C68⟩,
  ⟨0x2C80, 0x2CE2, 2, 0x2C81⟩, ⟨0x3137, 0x3139, 1, 0x1103⟩, ⟨0x313A, 0x313F, 1, 0x11B0⟩,
  ⟨0x3141, 0x3143, 1, 0x1106⟩, ⟨0x3145, 0x314E, 1, 0x1109⟩, ⟨0x314F, 0x3163, 1, 0x1161⟩,
  ⟨0x3178, 0x317C, 1, 0x112B⟩, ⟨0x3184, 0x3186, 1, 0x1157⟩, ⟨0x3263, 0x3265, 1, 0x1105⟩,
  ⟨0x3269, 0x326D, 1, 0x110E⟩, ⟨0x32E4, 0x32E9, 1, 0x30CA⟩, ⟨0x32EE, 0x32F2, 1, 0x30DE⟩,
  ⟨0x32F5, 0x32FA, 1, 0x30E8⟩, ⟨0x32FB, 0x32FE, 1, 0x30EF⟩, ⟨0xA640, 0xA66C, 2, 0xA641⟩,
  ⟨0xA680, 0xA69A, 2, 0xA681⟩, ⟨0xA722, 0xA76E, 4, 0xA723⟩, ⟨0xA724, 0xA72C, 4, 0xA725⟩,
  ⟨0xA734, 0xA76C, 4, 0xA735⟩, ⟨0xA77E, 0xA786, 2, 0xA77F⟩, ⟨0xA792, 0xA7A6, 4, 0xA793⟩,
  ⟨0xA798, 0xA7A8, 4, 0xA799⟩, ⟨0xA7B4, 0xA7C2, 2, 0xA7B5⟩, ⟨0xA7CC, 0xA7DA, 2, 0xA7CD⟩,
  ⟨0xAB70, 0xABBF, 1, 0x13A0⟩, ⟨0xFB24, 0xFB26, 1, 0x5DB⟩, ⟨0xFE41, 0xFE44, 1, 0x300C⟩,
  ⟨0xFF01, 0xFF20, 1, 0x21⟩, ⟨0xFF21, 0xFF3A, 1, 0x61⟩, ⟨0xFF3B, 0xFF5E, 1, 0x5B⟩,
  ⟨0xFF85, 0xFF8A, 1, 0x30CA⟩, ⟨0xFF8F, 0xFF93, 1, 0x30DE⟩, ⟨0xFF96, 0xFF9B, 1, 0x30E8⟩,
  ⟨0xFFA7, 0xFFA9, 1, 0x1103⟩, ⟨0xFFAA, 0xFFAF, 1, 0x11B0⟩, ⟨0xFFB1, 0xFFB3, 1, 0x1106⟩,
  ⟨0xFFB5, 0xFFBE, 1, 0x1109⟩, ⟨0xFFC2, 0xFFC7, 1, 0x1161⟩, ⟨0xFFCA, 0xFFCF, 1, 0x1167⟩,
  ⟨0xFFD2, 0xFFD7, 1, 0x116D⟩, ⟨0xFFDA, 0xFFDC, 1, 0x1173⟩, ⟨0xFFE9, 0xFFEC, 1, 0x2190⟩,
  ⟨0x10400, 0x10427, 1, 0x10428⟩, ⟨0x104B0, 0x104D3, 1, 0x104D8⟩, ⟨0x10570, 0x10594, 2, 0x10597⟩,
  ⟨0x10571, 0x10595, 4, 0x10598⟩, ⟨0x1057F, 0x10587, 4, 0x105A6⟩, ⟨0x107B6, 0x107B8, 1, 0x1C0⟩,
  ⟨0x10C80, 0x10CB2, 1, 0x10CC0⟩, ⟨0x10D50, 0x10D65, 1, 0x10D70⟩, ⟨0x118A0, 0x118BF, 1, 0x118C0⟩,
  ⟨0x16E40, 0x16E5F, 1, 0x16E60⟩, ⟨0x16EA0, 0x16EB8, 1, 0x16EBB⟩, ⟨0x1CCD6, 0x1CCEF, 1, 0x61⟩,
  ⟨0x1CCF0, 0x1CCF9, 1, 0x30⟩, ⟨0x1D400, 0x1D419, 1, 0x61⟩, ⟨0x1D41A, 0x1D433, 1, 0x61⟩,
  ⟨0x1D434, 0x1D44D, 1, 0x61⟩, ⟨0x1D44E, 0x1D466, 2, 0x61⟩, ⟨0x1D44F, 0x1D467, 4, 0x62⟩,
  ⟨0x1D459, 0x1D465, 4, 0x6C⟩, ⟨0x1D468, 0x1D481, 1, 0x61⟩, ⟨0x1D482, 0x1D49B, 1, 0x61⟩,
  ⟨0x1D49E, 0x1D4B2, 4, 0x63⟩, ⟨0x1D4AB, 0x1D4B3, 4, 0x70⟩, ⟨0x1D4AC, 0x1D4B4, 4, 0x71⟩,
  ⟨0x1D4B6, 0x1D4B9, 1, 0x61⟩, ⟨0x1D4BB, 0x1D4CF, 2, 0x66⟩, ⟨0x1D4BE, 0x1D4CE, 4, 0x69⟩,
  ⟨0x1D4D0, 0x1D4E9, 1, 0x61⟩, ⟨0x1D4EA, 0x1D503, 1, 0x61⟩, ⟨0x1D505, 0x1D511, 4, 0x62⟩,
  ⟨0x1D50A, 0x1D51A, 4, 0x67⟩, ⟨0x1D50F, 0x1D51B, 4, 0x6C⟩, ⟨0x1D510, 0x1D51C, 4, 0x6D⟩,
  ⟨0x1D51E, 0x1D537, 1, 0x61⟩, ⟨0x1D538, 0x1D544, 4, 0x61⟩, ⟨0x1D539, 0x1D53D, 2, 0x62⟩,
  ⟨0x1D53E, 0x1D54E, 4, 0x67⟩, ⟨0x1D54B, 0x1D54D, 1, 0x74⟩, ⟨0x1D552, 0x1D56B, 1, 0x61⟩,
  ⟨0x1D56C, 0x1D585, 1, 0x61⟩, ⟨0x1D586, 0x1D59F, 1, 0x61⟩, ⟨0x1D5A0, 0x1D5B9, 1, 0x61⟩,
  ⟨0x1D5BA, 0x1D5D3, 1, 0x61⟩, ⟨0x1D5D4, 0x1D5ED, 1, 0x61⟩, ⟨0x1D5EE, 0x1D607, 1, 0x61⟩,
  ⟨0x1D608, 0x1D621, 1, 0x61⟩, ⟨0x1D622, 0x1D63B, 1, 0x61⟩, ⟨0x1D63C, 0x1D655, 1, 0x61⟩,
  ⟨0x1D656, 0x1D66F, 1, 0x61⟩, ⟨0x1D670, 0x1D689, 1, 0x61⟩, ⟨0x1D68A, 0x1D6A3, 1, 0x61⟩,
  ⟨0x1D6A8, 0x1D6B8, 1, 0x3B1⟩, ⟨0x1D6BA, 0x1D6C0, 1, 0x3C3⟩, ⟨0x1D6C2, 0x1D6D2, 1, 0x3B1⟩,
  ⟨0x1D6D4, 0x1D6DA, 1, 0x3C3⟩, ⟨0x1D6E2, 0x1D6F2, 1, 0x3B1⟩, ⟨0x1D6F4, 0x1D6FA, 1, 0x3C3⟩,
  ⟨0x1D6FC, 0x1D70C, 1, 0x3B1⟩, ⟨0x1D70E, 0x1D714, 1, 0x3C3⟩, ⟨0x1D71C, 0x1D72C, 1, 0x3B1⟩,
  ⟨0x1D72E, 0x1D734, 1, 0x3C3⟩, ⟨0x1D736, 0x1D746, 1, 0x3B1⟩, ⟨0x1D748, 0x1D74E, 1, 0x3C3⟩,
  ⟨0x1D756, 0x1D766, 1, 0x3B1⟩, ⟨0x1D768, 0x1D76E, 1, 0x3C3⟩, ⟨0x1D770, 0x1D780, 1, 0x3B1⟩,
  ⟨0x1D782, 0x1D788, 1, 0x3C3⟩, ⟨0x1D790, 0x1D7A0, 1, 0x3B1⟩, ⟨0x1D7A2, 0x1D7A8, 1, 0x3C3⟩,
  ⟨0x1D7AA, 0x1D7BA, 1, 0x3B1⟩, ⟨0x1D7BC, 0x1D7C2, 1, 0x3C3⟩, ⟨0x1D7CE, 0x1D7D7, 1, 0x30⟩,
  ⟨0x1D7D8, 0x1D7E1, 1, 0x30⟩, ⟨0x1D7E2, 0x1D7EB, 1, 0x30⟩, ⟨0x1D7EC, 0x1D7F5, 1, 0x30⟩,
  ⟨0x1D7F6, 0x1D7FF, 1, 0x30⟩, ⟨0x1E030, 0x1E038, 1, 0x430⟩, ⟨0x1E039, 0x1E03B, 1, 0x43A⟩,
  ⟨0x1E03C, 0x1E046, 1, 0x43E⟩, ⟨0x1E051, 0x1E059, 1, 0x430⟩, ⟨0x1E05F, 0x1E064, 1, 0x443⟩,
  ⟨0x1E900, 0x1E921, 1, 0x1E922⟩, ⟨0x1EE0A, 0x1EE0D, 1, 0x643⟩, ⟨0x1EE2A, 0x1EE2D, 1, 0x643⟩,
  ⟨0x1EE8B, 0x1EE8D, 1, 0x644⟩, ⟨0x1EEAB, 0x1EEAD, 1, 0x644⟩, ⟨0x1F130, 0x1F149, 1, 0x61⟩,
  ⟨0x1FBF0, 0x1FBF9, 1, 0x30⟩]

end LinkLayer.Domain
