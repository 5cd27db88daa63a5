import Transplant.Unicode.CodeRun

/-!
The properties Uppercase and Lowercase. They are not complements, a character may have neither, and
having one does not mean that a case mapping changes the character.
-/

namespace Transplant.Unicode

/-- The uppercase characters beyond ASCII. -/
def upperRuns : List CodeRun :=
  [⟨0x00C0, 0x00D6, 1⟩, ⟨0x00D8, 0x00DE, 1⟩, ⟨0x0100, 0x0136, 2⟩, ⟨0x0139, 0x0147, 2⟩,
    ⟨0x014A, 0x0176, 2⟩, ⟨0x0178, 0x0179, 1⟩, ⟨0x017B, 0x017D, 2⟩, ⟨0x0181, 0x0182, 1⟩,
    ⟨0x0184, 0x0184, 1⟩, ⟨0x0186, 0x0187, 1⟩, ⟨0x0189, 0x018B, 1⟩, ⟨0x018E, 0x0191, 1⟩,
    ⟨0x0193, 0x0194, 1⟩, ⟨0x0196, 0x0198, 1⟩, ⟨0x019C, 0x019D, 1⟩, ⟨0x019F, 0x01A0, 1⟩,
    ⟨0x01A2, 0x01A4, 2⟩, ⟨0x01A6, 0x01A7, 1⟩, ⟨0x01A9, 0x01A9, 1⟩, ⟨0x01AC, 0x01AC, 1⟩,
    ⟨0x01AE, 0x01AF, 1⟩, ⟨0x01B1, 0x01B3, 1⟩, ⟨0x01B5, 0x01B5, 1⟩, ⟨0x01B7, 0x01B8, 1⟩,
    ⟨0x01BC, 0x01BC, 1⟩, ⟨0x01C4, 0x01C4, 1⟩, ⟨0x01C7, 0x01C7, 1⟩, ⟨0x01CA, 0x01CA, 1⟩,
    ⟨0x01CD, 0x01DB, 2⟩, ⟨0x01DE, 0x01EE, 2⟩, ⟨0x01F1, 0x01F1, 1⟩, ⟨0x01F4, 0x01F4, 1⟩,
    ⟨0x01F6, 0x01F8, 1⟩, ⟨0x01FA, 0x0232, 2⟩, ⟨0x023A, 0x023B, 1⟩, ⟨0x023D, 0x023E, 1⟩,
    ⟨0x0241, 0x0241, 1⟩, ⟨0x0243, 0x0246, 1⟩, ⟨0x0248, 0x024E, 2⟩, ⟨0x0370, 0x0372, 2⟩,
    ⟨0x0376, 0x0376, 1⟩, ⟨0x037F, 0x037F, 1⟩, ⟨0x0386, 0x0386, 1⟩, ⟨0x0388, 0x038A, 1⟩,
    ⟨0x038C, 0x038C, 1⟩, ⟨0x038E, 0x038F, 1⟩, ⟨0x0391, 0x03A1, 1⟩, ⟨0x03A3, 0x03AB, 1⟩,
    ⟨0x03CF, 0x03CF, 1⟩, ⟨0x03D2, 0x03D4, 1⟩, ⟨0x03D8, 0x03EE, 2⟩, ⟨0x03F4, 0x03F4, 1⟩,
    ⟨0x03F7, 0x03F7, 1⟩, ⟨0x03F9, 0x03FA, 1⟩, ⟨0x03FD, 0x042F, 1⟩, ⟨0x0460, 0x0480, 2⟩,
    ⟨0x048A, 0x04BE, 2⟩, ⟨0x04C0, 0x04C1, 1⟩, ⟨0x04C3, 0x04CD, 2⟩, ⟨0x04D0, 0x052E, 2⟩,
    ⟨0x0531, 0x0556, 1⟩, ⟨0x10A0, 0x10C5, 1⟩, ⟨0x10C7, 0x10C7, 1⟩, ⟨0x10CD, 0x10CD, 1⟩,
    ⟨0x13A0, 0x13F5, 1⟩, ⟨0x1C89, 0x1C89, 1⟩, ⟨0x1C90, 0x1CBA, 1⟩, ⟨0x1CBD, 0x1CBF, 1⟩,
    ⟨0x1E00, 0x1E94, 2⟩, ⟨0x1E9E, 0x1EFE, 2⟩, ⟨0x1F08, 0x1F0F, 1⟩, ⟨0x1F18, 0x1F1D, 1⟩,
    ⟨0x1F28, 0x1F2F, 1⟩, ⟨0x1F38, 0x1F3F, 1⟩, ⟨0x1F48, 0x1F4D, 1⟩, ⟨0x1F59, 0x1F5F, 2⟩,
    ⟨0x1F68, 0x1F6F, 1⟩, ⟨0x1FB8, 0x1FBB, 1⟩, ⟨0x1FC8, 0x1FCB, 1⟩, ⟨0x1FD8, 0x1FDB, 1⟩,
    ⟨0x1FE8, 0x1FEC, 1⟩, ⟨0x1FF8, 0x1FFB, 1⟩, ⟨0x2102, 0x2102, 1⟩, ⟨0x2107, 0x2107, 1⟩,
    ⟨0x210B, 0x210D, 1⟩, ⟨0x2110, 0x2112, 1⟩, ⟨0x2115, 0x2115, 1⟩, ⟨0x2119, 0x211D, 1⟩,
    ⟨0x2124, 0x2128, 2⟩, ⟨0x212A, 0x212D, 1⟩, ⟨0x2130, 0x2133, 1⟩, ⟨0x213E, 0x213F, 1⟩,
    ⟨0x2145, 0x2145, 1⟩, ⟨0x2160, 0x216F, 1⟩, ⟨0x2183, 0x2183, 1⟩, ⟨0x24B6, 0x24CF, 1⟩,
    ⟨0x2C00, 0x2C2F, 1⟩, ⟨0x2C60, 0x2C60, 1⟩, ⟨0x2C62, 0x2C64, 1⟩, ⟨0x2C67, 0x2C6B, 2⟩,
    ⟨0x2C6D, 0x2C70, 1⟩, ⟨0x2C72, 0x2C72, 1⟩, ⟨0x2C75, 0x2C75, 1⟩, ⟨0x2C7E, 0x2C80, 1⟩,
    ⟨0x2C82, 0x2CE2, 2⟩, ⟨0x2CEB, 0x2CED, 2⟩, ⟨0x2CF2, 0x2CF2, 1⟩, ⟨0xA640, 0xA66C, 2⟩,
    ⟨0xA680, 0xA69A, 2⟩, ⟨0xA722, 0xA72E, 2⟩, ⟨0xA732, 0xA76E, 2⟩, ⟨0xA779, 0xA77B, 2⟩,
    ⟨0xA77D, 0xA77E, 1⟩, ⟨0xA780, 0xA786, 2⟩, ⟨0xA78B, 0xA78D, 2⟩, ⟨0xA790, 0xA792, 2⟩,
    ⟨0xA796, 0xA7A8, 2⟩, ⟨0xA7AA, 0xA7AE, 1⟩, ⟨0xA7B0, 0xA7B4, 1⟩, ⟨0xA7B6, 0xA7C2, 2⟩,
    ⟨0xA7C4, 0xA7C7, 1⟩, ⟨0xA7C9, 0xA7C9, 1⟩, ⟨0xA7CB, 0xA7CC, 1⟩, ⟨0xA7CE, 0xA7DC, 2⟩,
    ⟨0xA7F5, 0xA7F5, 1⟩, ⟨0xFF21, 0xFF3A, 1⟩, ⟨0x10400, 0x10427, 1⟩, ⟨0x104B0, 0x104D3, 1⟩,
    ⟨0x10570, 0x1057A, 1⟩, ⟨0x1057C, 0x1058A, 1⟩, ⟨0x1058C, 0x10592, 1⟩, ⟨0x10594, 0x10595, 1⟩,
    ⟨0x10C80, 0x10CB2, 1⟩, ⟨0x10D50, 0x10D65, 1⟩, ⟨0x118A0, 0x118BF, 1⟩, ⟨0x16E40, 0x16E5F, 1⟩,
    ⟨0x16EA0, 0x16EB8, 1⟩, ⟨0x1D400, 0x1D419, 1⟩, ⟨0x1D434, 0x1D44D, 1⟩, ⟨0x1D468, 0x1D481, 1⟩,
    ⟨0x1D49C, 0x1D49C, 1⟩, ⟨0x1D49E, 0x1D49F, 1⟩, ⟨0x1D4A2, 0x1D4A2, 1⟩, ⟨0x1D4A5, 0x1D4A6, 1⟩,
    ⟨0x1D4A9, 0x1D4AC, 1⟩, ⟨0x1D4AE, 0x1D4B5, 1⟩, ⟨0x1D4D0, 0x1D4E9, 1⟩, ⟨0x1D504, 0x1D505, 1⟩,
    ⟨0x1D507, 0x1D50A, 1⟩, ⟨0x1D50D, 0x1D514, 1⟩, ⟨0x1D516, 0x1D51C, 1⟩, ⟨0x1D538, 0x1D539, 1⟩,
    ⟨0x1D53B, 0x1D53E, 1⟩, ⟨0x1D540, 0x1D544, 1⟩, ⟨0x1D546, 0x1D546, 1⟩, ⟨0x1D54A, 0x1D550, 1⟩,
    ⟨0x1D56C, 0x1D585, 1⟩, ⟨0x1D5A0, 0x1D5B9, 1⟩, ⟨0x1D5D4, 0x1D5ED, 1⟩, ⟨0x1D608, 0x1D621, 1⟩,
    ⟨0x1D63C, 0x1D655, 1⟩, ⟨0x1D670, 0x1D689, 1⟩, ⟨0x1D6A8, 0x1D6C0, 1⟩, ⟨0x1D6E2, 0x1D6FA, 1⟩,
    ⟨0x1D71C, 0x1D734, 1⟩, ⟨0x1D756, 0x1D76E, 1⟩, ⟨0x1D790, 0x1D7A8, 1⟩, ⟨0x1D7CA, 0x1D7CA, 1⟩,
    ⟨0x1E900, 0x1E921, 1⟩, ⟨0x1F130, 0x1F149, 1⟩, ⟨0x1F150, 0x1F169, 1⟩, ⟨0x1F170, 0x1F189, 1⟩]

/-- The lowercase characters beyond ASCII. -/
def lowerRuns : List CodeRun :=
  [⟨0x00AA, 0x00AA, 1⟩, ⟨0x00B5, 0x00B5, 1⟩, ⟨0x00BA, 0x00BA, 1⟩, ⟨0x00DF, 0x00F6, 1⟩,
    ⟨0x00F8, 0x00FF, 1⟩, ⟨0x0101, 0x0135, 2⟩, ⟨0x0137, 0x0138, 1⟩, ⟨0x013A, 0x0146, 2⟩,
    ⟨0x0148, 0x0149, 1⟩, ⟨0x014B, 0x0177, 2⟩, ⟨0x017A, 0x017C, 2⟩, ⟨0x017E, 0x0180, 1⟩,
    ⟨0x0183, 0x0185, 2⟩, ⟨0x0188, 0x0188, 1⟩, ⟨0x018C, 0x018D, 1⟩, ⟨0x0192, 0x0192, 1⟩,
    ⟨0x0195, 0x0195, 1⟩, ⟨0x0199, 0x019B, 1⟩, ⟨0x019E, 0x019E, 1⟩, ⟨0x01A1, 0x01A5, 2⟩,
    ⟨0x01A8, 0x01A8, 1⟩, ⟨0x01AA, 0x01AB, 1⟩, ⟨0x01AD, 0x01AD, 1⟩, ⟨0x01B0, 0x01B0, 1⟩,
    ⟨0x01B4, 0x01B6, 2⟩, ⟨0x01B9, 0x01BA, 1⟩, ⟨0x01BD, 0x01BF, 1⟩, ⟨0x01C6, 0x01C6, 1⟩,
    ⟨0x01C9, 0x01C9, 1⟩, ⟨0x01CC, 0x01DA, 2⟩, ⟨0x01DC, 0x01DD, 1⟩, ⟨0x01DF, 0x01ED, 2⟩,
    ⟨0x01EF, 0x01F0, 1⟩, ⟨0x01F3, 0x01F5, 2⟩, ⟨0x01F9, 0x0231, 2⟩, ⟨0x0233, 0x0239, 1⟩,
    ⟨0x023C, 0x023C, 1⟩, ⟨0x023F, 0x0240, 1⟩, ⟨0x0242, 0x0242, 1⟩, ⟨0x0247, 0x024D, 2⟩,
    ⟨0x024F, 0x0293, 1⟩, ⟨0x0296, 0x02B8, 1⟩, ⟨0x02C0, 0x02C1, 1⟩, ⟨0x02E0, 0x02E4, 1⟩,
    ⟨0x0345, 0x0345, 1⟩, ⟨0x0371, 0x0373, 2⟩, ⟨0x0377, 0x0377, 1⟩, ⟨0x037A, 0x037D, 1⟩,
    ⟨0x0390, 0x0390, 1⟩, ⟨0x03AC, 0x03CE, 1⟩, ⟨0x03D0, 0x03D1, 1⟩, ⟨0x03D5, 0x03D7, 1⟩,
    ⟨0x03D9, 0x03ED, 2⟩, ⟨0x03EF, 0x03F3, 1⟩, ⟨0x03F5, 0x03F5, 1⟩, ⟨0x03F8, 0x03F8, 1⟩,
    ⟨0x03FB, 0x03FC, 1⟩, ⟨0x0430, 0x045F, 1⟩, ⟨0x0461, 0x0481, 2⟩, ⟨0x048B, 0x04BF, 2⟩,
    ⟨0x04C2, 0x04CC, 2⟩, ⟨0x04CE, 0x04CF, 1⟩, ⟨0x04D1, 0x052F, 2⟩, ⟨0x0560, 0x0588, 1⟩,
    ⟨0x10D0, 0x10FA, 1⟩, ⟨0x10FC, 0x10FF, 1⟩, ⟨0x13F8, 0x13FD, 1⟩, ⟨0x1C80, 0x1C88, 1⟩,
    ⟨0x1C8A, 0x1C8A, 1⟩, ⟨0x1D00, 0x1DBF, 1⟩, ⟨0x1E01, 0x1E93, 2⟩, ⟨0x1E95, 0x1E9D, 1⟩,
    ⟨0x1E9F, 0x1EFD, 2⟩, ⟨0x1EFF, 0x1F07, 1⟩, ⟨0x1F10, 0x1F15, 1⟩, ⟨0x1F20, 0x1F27, 1⟩,
    ⟨0x1F30, 0x1F37, 1⟩, ⟨0x1F40, 0x1F45, 1⟩, ⟨0x1F50, 0x1F57, 1⟩, ⟨0x1F60, 0x1F67, 1⟩,
    ⟨0x1F70, 0x1F7D, 1⟩, ⟨0x1F80, 0x1F87, 1⟩, ⟨0x1F90, 0x1F97, 1⟩, ⟨0x1FA0, 0x1FA7, 1⟩,
    ⟨0x1FB0, 0x1FB4, 1⟩, ⟨0x1FB6, 0x1FB7, 1⟩, ⟨0x1FBE, 0x1FBE, 1⟩, ⟨0x1FC2, 0x1FC4, 1⟩,
    ⟨0x1FC6, 0x1FC7, 1⟩, ⟨0x1FD0, 0x1FD3, 1⟩, ⟨0x1FD6, 0x1FD7, 1⟩, ⟨0x1FE0, 0x1FE7, 1⟩,
    ⟨0x1FF2, 0x1FF4, 1⟩, ⟨0x1FF6, 0x1FF7, 1⟩, ⟨0x2071, 0x2071, 1⟩, ⟨0x207F, 0x207F, 1⟩,
    ⟨0x2090, 0x209C, 1⟩, ⟨0x210A, 0x210A, 1⟩, ⟨0x210E, 0x210F, 1⟩, ⟨0x2113, 0x2113, 1⟩,
    ⟨0x212F, 0x212F, 1⟩, ⟨0x2134, 0x2134, 1⟩, ⟨0x2139, 0x2139, 1⟩, ⟨0x213C, 0x213D, 1⟩,
    ⟨0x2146, 0x2149, 1⟩, ⟨0x214E, 0x214E, 1⟩, ⟨0x2170, 0x217F, 1⟩, ⟨0x2184, 0x2184, 1⟩,
    ⟨0x24D0, 0x24E9, 1⟩, ⟨0x2C30, 0x2C5F, 1⟩, ⟨0x2C61, 0x2C61, 1⟩, ⟨0x2C65, 0x2C66, 1⟩,
    ⟨0x2C68, 0x2C6C, 2⟩, ⟨0x2C71, 0x2C71, 1⟩, ⟨0x2C73, 0x2C74, 1⟩, ⟨0x2C76, 0x2C7D, 1⟩,
    ⟨0x2C81, 0x2CE1, 2⟩, ⟨0x2CE3, 0x2CE4, 1⟩, ⟨0x2CEC, 0x2CEE, 2⟩, ⟨0x2CF3, 0x2CF3, 1⟩,
    ⟨0x2D00, 0x2D25, 1⟩, ⟨0x2D27, 0x2D27, 1⟩, ⟨0x2D2D, 0x2D2D, 1⟩, ⟨0xA641, 0xA66D, 2⟩,
    ⟨0xA681, 0xA699, 2⟩, ⟨0xA69B, 0xA69D, 1⟩, ⟨0xA723, 0xA72D, 2⟩, ⟨0xA72F, 0xA731, 1⟩,
    ⟨0xA733, 0xA76D, 2⟩, ⟨0xA76F, 0xA778, 1⟩, ⟨0xA77A, 0xA77C, 2⟩, ⟨0xA77F, 0xA787, 2⟩,
    ⟨0xA78C, 0xA78E, 2⟩, ⟨0xA791, 0xA791, 1⟩, ⟨0xA793, 0xA795, 1⟩, ⟨0xA797, 0xA7A9, 2⟩,
    ⟨0xA7AF, 0xA7AF, 1⟩, ⟨0xA7B5, 0xA7C3, 2⟩, ⟨0xA7C8, 0xA7CA, 2⟩, ⟨0xA7CD, 0xA7DB, 2⟩,
    ⟨0xA7F1, 0xA7F4, 1⟩, ⟨0xA7F6, 0xA7F6, 1⟩, ⟨0xA7F8, 0xA7FA, 1⟩, ⟨0xAB30, 0xAB5A, 1⟩,
    ⟨0xAB5C, 0xAB69, 1⟩, ⟨0xAB70, 0xABBF, 1⟩, ⟨0xFB00, 0xFB06, 1⟩, ⟨0xFB13, 0xFB17, 1⟩,
    ⟨0xFF41, 0xFF5A, 1⟩, ⟨0x10428, 0x1044F, 1⟩, ⟨0x104D8, 0x104FB, 1⟩, ⟨0x10597, 0x105A1, 1⟩,
    ⟨0x105A3, 0x105B1, 1⟩, ⟨0x105B3, 0x105B9, 1⟩, ⟨0x105BB, 0x105BC, 1⟩, ⟨0x10780, 0x10780, 1⟩,
    ⟨0x10783, 0x10785, 1⟩, ⟨0x10787, 0x107B0, 1⟩, ⟨0x107B2, 0x107BA, 1⟩, ⟨0x10CC0, 0x10CF2, 1⟩,
    ⟨0x10D70, 0x10D85, 1⟩, ⟨0x118C0, 0x118DF, 1⟩, ⟨0x16E60, 0x16E7F, 1⟩, ⟨0x16EBB, 0x16ED3, 1⟩,
    ⟨0x1D41A, 0x1D433, 1⟩, ⟨0x1D44E, 0x1D454, 1⟩, ⟨0x1D456, 0x1D467, 1⟩, ⟨0x1D482, 0x1D49B, 1⟩,
    ⟨0x1D4B6, 0x1D4B9, 1⟩, ⟨0x1D4BB, 0x1D4BB, 1⟩, ⟨0x1D4BD, 0x1D4C3, 1⟩, ⟨0x1D4C5, 0x1D4CF, 1⟩,
    ⟨0x1D4EA, 0x1D503, 1⟩, ⟨0x1D51E, 0x1D537, 1⟩, ⟨0x1D552, 0x1D56B, 1⟩, ⟨0x1D586, 0x1D59F, 1⟩,
    ⟨0x1D5BA, 0x1D5D3, 1⟩, ⟨0x1D5EE, 0x1D607, 1⟩, ⟨0x1D622, 0x1D63B, 1⟩, ⟨0x1D656, 0x1D66F, 1⟩,
    ⟨0x1D68A, 0x1D6A5, 1⟩, ⟨0x1D6C2, 0x1D6DA, 1⟩, ⟨0x1D6DC, 0x1D6E1, 1⟩, ⟨0x1D6FC, 0x1D714, 1⟩,
    ⟨0x1D716, 0x1D71B, 1⟩, ⟨0x1D736, 0x1D74E, 1⟩, ⟨0x1D750, 0x1D755, 1⟩, ⟨0x1D770, 0x1D788, 1⟩,
    ⟨0x1D78A, 0x1D78F, 1⟩, ⟨0x1D7AA, 0x1D7C2, 1⟩, ⟨0x1D7C4, 0x1D7C9, 1⟩, ⟨0x1D7CB, 0x1D7CB, 1⟩,
    ⟨0x1DF00, 0x1DF09, 1⟩, ⟨0x1DF0B, 0x1DF1E, 1⟩, ⟨0x1DF25, 0x1DF2A, 1⟩, ⟨0x1E030, 0x1E06D, 1⟩,
    ⟨0x1E922, 0x1E943, 1⟩]

/-- Whether a character has the property Uppercase. -/
def isUpper (c : Char) : Bool :=
  if c.toNat < 128 then c.isUpper else upperRuns.any (·.contains c.toNat)

/-- Whether a character has the property Lowercase. -/
def isLower (c : Char) : Bool :=
  if c.toNat < 128 then c.isLower else lowerRuns.any (·.contains c.toNat)

theorem isUpper_ascii {c : Char} (h : c.toNat < 128) : isUpper c = c.isUpper := by
  simp [isUpper, h]

theorem isLower_ascii {c : Char} (h : c.toNat < 128) : isLower c = c.isLower := by
  simp [isLower, h]

end Transplant.Unicode
