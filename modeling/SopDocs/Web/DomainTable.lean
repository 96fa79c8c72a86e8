import SopDocs.Text.CaseTable
/-!
The mapping of characters in domains: case and width are folded, compatible characters become the
plain ones, some characters are ignored and some are not allowed. Characters that are not listed
stay.
-/

namespace SopDocs.Web

/-- Characters that move by a common distance. -/
def domainRuns : List Text.CaseRun := [
    ⟨0xB2, 0xB3, 1, -128⟩, ⟨0xC0, 0xD6, 1, 32⟩, ⟨0xD8, 0xDE, 1, 32⟩, ⟨0x100, 0x12E, 2, 1⟩,
    ⟨0x134, 0x136, 2, 1⟩, ⟨0x139, 0x13D, 2, 1⟩, ⟨0x141, 0x147, 2, 1⟩, ⟨0x14A, 0x176, 2, 1⟩,
    ⟨0x179, 0x17D, 2, 1⟩, ⟨0x182, 0x184, 2, 1⟩, ⟨0x189, 0x18A, 1, 205⟩, ⟨0x1A0, 0x1A4, 2, 1⟩,
    ⟨0x1B1, 0x1B2, 1, 217⟩, ⟨0x1B3, 0x1B5, 2, 1⟩, ⟨0x1CD, 0x1DB, 2, 1⟩, ⟨0x1DE, 0x1EE, 2, 1⟩,
    ⟨0x1F8, 0x21E, 2, 1⟩, ⟨0x222, 0x232, 2, 1⟩, ⟨0x246, 0x24E, 2, 1⟩, ⟨0x2B0, 0x2B2, 2, -584⟩,
    ⟨0x340, 0x341, 1, -64⟩, ⟨0x370, 0x372, 2, 1⟩, ⟨0x388, 0x38A, 1, 37⟩, ⟨0x38E, 0x38F, 1, 63⟩,
    ⟨0x391, 0x3A1, 1, 32⟩, ⟨0x3A3, 0x3AB, 1, 32⟩, ⟨0x3D8, 0x3EE, 2, 1⟩, ⟨0x3FD, 0x3FF, 1, -130⟩,
    ⟨0x400, 0x40F, 1, 80⟩, ⟨0x410, 0x42F, 1, 32⟩, ⟨0x460, 0x480, 2, 1⟩, ⟨0x48A, 0x4BE, 2, 1⟩,
    ⟨0x4C1, 0x4CD, 2, 1⟩, ⟨0x4D0, 0x52E, 2, 1⟩, ⟨0x531, 0x556, 1, 48⟩, ⟨0x10A0, 0x10C5, 1, 7264⟩,
    ⟨0x13F8, 0x13FD, 1, -8⟩, ⟨0x1C83, 0x1C84, 1, -6210⟩, ⟨0x1C90, 0x1CBA, 1, -3008⟩,
    ⟨0x1CBD, 0x1CBF, 1, -3008⟩, ⟨0x1D2E, 0x1D30, 2, -7372⟩, ⟨0x1D31, 0x1D39, 2, -7372⟩,
    ⟨0x1D34, 0x1D3A, 2, -7372⟩, ⟨0x1D40, 0x1D41, 1, -7372⟩, ⟨0x1D44, 0x1D45, 1, -6900⟩,
    ⟨0x1D48, 0x1D49, 1, -7396⟩, ⟨0x1D4B, 0x1D4C, 1, -6896⟩, ⟨0x1D50, 0x1D52, 2, -7395⟩,
    ⟨0x1D54, 0x1D55, 1, -62⟩, ⟨0x1D57, 0x1D58, 1, -7395⟩, ⟨0x1D5D, 0x1D5F, 1, -6571⟩,
    ⟨0x1D60, 0x1D61, 1, -6554⟩, ⟨0x1D64, 0x1D65, 1, -7407⟩, ⟨0x1D66, 0x1D67, 1, -6580⟩,
    ⟨0x1D69, 0x1D6A, 1, -6563⟩, ⟨0x1DA4, 0x1DA6, 1, -6972⟩, ⟨0x1DAE, 0x1DB1, 1, -6972⟩,
    ⟨0x1DB3, 0x1DB4, 1, -6961⟩, ⟨0x1DB6, 0x1DB7, 1, -6957⟩, ⟨0x1DB9, 0x1DBA, 1, -6958⟩,
    ⟨0x1DBC, 0x1DBE, 1, -6956⟩, ⟨0x1E00, 0x1E94, 2, 1⟩, ⟨0x1EA0, 0x1EFE, 2, 1⟩,
    ⟨0x1F08, 0x1F0F, 1, -8⟩, ⟨0x1F18, 0x1F1D, 1, -8⟩, ⟨0x1F28, 0x1F2F, 1, -8⟩,
    ⟨0x1F38, 0x1F3F, 1, -8⟩, ⟨0x1F48, 0x1F4D, 1, -8⟩, ⟨0x1F59, 0x1F5F, 2, -8⟩,
    ⟨0x1F68, 0x1F6F, 1, -8⟩, ⟨0x1FB8, 0x1FB9, 1, -8⟩, ⟨0x1FC8, 0x1FCA, 2, -86⟩,
    ⟨0x1FD8, 0x1FD9, 1, -8⟩, ⟨0x1FE8, 0x1FE9, 1, -8⟩, ⟨0x1FF9, 0x1FFB, 2, -7213⟩,
    ⟨0x2074, 0x2079, 1, -8256⟩, ⟨0x207D, 0x207E, 1, -8277⟩, ⟨0x2080, 0x2089, 1, -8272⟩,
    ⟨0x208D, 0x208E, 1, -8293⟩, ⟨0x2096, 0x2099, 1, -8235⟩, ⟨0x209B, 0x209C, 1, -8232⟩,
    ⟨0x210A, 0x210B, 1, -8355⟩, ⟨0x2113, 0x2115, 2, -8359⟩, ⟨0x2119, 0x211B, 1, -8361⟩,
    ⟨0x212C, 0x212D, 1, -8394⟩, ⟨0x2130, 0x2131, 1, -8395⟩, ⟨0x2135, 0x2138, 1, -7013⟩,
    ⟨0x2146, 0x2147, 1, -8418⟩, ⟨0x2148, 0x2149, 1, -8415⟩, ⟨0x216D, 0x216E, 1, -8458⟩,
    ⟨0x217D, 0x217E, 1, -8474⟩, ⟨0x2329, 0x232A, 1, 3295⟩, ⟨0x2460, 0x2468, 1, -9263⟩,
    ⟨0x24B6, 0x24CF, 1, -9301⟩, ⟨0x24D0, 0x24E9, 1, -9327⟩, ⟨0x2C00, 0x2C2F, 1, 48⟩,
    ⟨0x2C67, 0x2C6B, 2, 1⟩, ⟨0x2C7E, 0x2C7F, 1, -10815⟩, ⟨0x2C80, 0x2CE2, 2, 1⟩,
    ⟨0x2CEB, 0x2CED, 2, 1⟩, ⟨0x3039, 0x303A, 1, 8971⟩, ⟨0x3131, 0x3132, 1, -8241⟩,
    ⟨0x3133, 0x3135, 2, -8073⟩, ⟨0x3137, 0x3139, 1, -8244⟩, ⟨0x313A, 0x313F, 1, -8074⟩,
    ⟨0x3141, 0x3143, 1, -8251⟩, ⟨0x3145, 0x314E, 1, -8252⟩, ⟨0x314F, 0x3163, 1, -8174⟩,
    ⟨0x3165, 0x3166, 1, -8273⟩, ⟨0x3167, 0x3168, 1, -8096⟩, ⟨0x3171, 0x3172, 1, -8276⟩,
    ⟨0x3174, 0x3175, 1, -8274⟩, ⟨0x3178, 0x317C, 1, -8269⟩, ⟨0x3182, 0x3183, 1, -8081⟩,
    ⟨0x3184, 0x3186, 1, -8237⟩, ⟨0x3187, 0x3188, 1, -8195⟩, ⟨0x318A, 0x318B, 1, -8185⟩,
    ⟨0x3261, 0x3262, 1, -8543⟩, ⟨0x3263, 0x3265, 1, -8542⟩, ⟨0x3267, 0x3268, 1, -8540⟩,
    ⟨0x3269, 0x326D, 1, -8539⟩, ⟨0x32D4, 0x32D5, 1, -554⟩, ⟨0x32E4, 0x32E9, 1, -538⟩,
    ⟨0x32EE, 0x32F2, 1, -528⟩, ⟨0x32F5, 0x32FA, 1, -525⟩, ⟨0x32FB, 0x32FE, 1, -524⟩,
    ⟨0xA640, 0xA66C, 2, 1⟩, ⟨0xA680, 0xA69A, 2, 1⟩, ⟨0xA722, 0xA72E, 2, 1⟩,
    ⟨0xA732, 0xA76E, 2, 1⟩, ⟨0xA779, 0xA77B, 2, 1⟩, ⟨0xA77E, 0xA786, 2, 1⟩,
    ⟨0xA790, 0xA792, 2, 1⟩, ⟨0xA796, 0xA7A8, 2, 1⟩, ⟨0xA7B4, 0xA7C2, 2, 1⟩,
    ⟨0xA7C7, 0xA7C9, 2, 1⟩, ⟨0xA7CC, 0xA7DA, 2, 1⟩, ⟨0xAB70, 0xABBF, 1, -38864⟩,
    ⟨0xFA52, 0xFA53, 1, -32965⟩, ⟨0xFB22, 0xFB23, 1, -62799⟩, ⟨0xFB24, 0xFB26, 1, -62793⟩,
    ⟨0xFB58, 0xFB5A, 2, -62682⟩, ⟨0xFB59, 0xFB5B, 2, -62683⟩, ⟨0xFB6C, 0xFB6E, 2, -62664⟩,
    ⟨0xFB6D, 0xFB6F, 2, -62665⟩, ⟨0xFB7D, 0xFB7E, 1, -62711⟩, ⟨0xFB84, 0xFB86, 2, -62712⟩,
    ⟨0xFB85, 0xFB87, 2, -62713⟩, ⟨0xFB9F, 0xFBA0, 1, -62693⟩, ⟨0xFBA5, 0xFBA6, 1, -62693⟩,
    ⟨0xFBAF, 0xFBB0, 1, -62685⟩, ⟨0xFBD9, 0xFBDB, 2, -62739⟩, ⟨0xFBDA, 0xFBDC, 2, -62740⟩,
    ⟨0xFE13, 0xFE14, 1, -64985⟩, ⟨0xFE17, 0xFE18, 1, -52737⟩, ⟨0xFE35, 0xFE36, 1, -65037⟩,
    ⟨0xFE39, 0xFE3A, 1, -52773⟩, ⟨0xFE3B, 0xFE3C, 1, -52779⟩, ⟨0xFE3D, 0xFE3E, 1, -52787⟩,
    ⟨0xFE3F, 0xFE40, 1, -52791⟩, ⟨0xFE41, 0xFE44, 1, -52789⟩, ⟨0xFE59, 0xFE5A, 1, -65073⟩,
    ⟨0xFE5D, 0xFE5E, 1, -52809⟩, ⟨0xFE61, 0xFE62, 1, -65079⟩, ⟨0xFE69, 0xFE6A, 1, -65093⟩,
    ⟨0xFE80, 0xFE81, 1, -63583⟩, ⟨0xFE82, 0xFE83, 1, -63584⟩, ⟨0xFE84, 0xFE85, 1, -63585⟩,
    ⟨0xFE86, 0xFE87, 1, -63586⟩, ⟨0xFE88, 0xFE89, 1, -63587⟩, ⟨0xFE8C, 0xFE8D, 1, -63590⟩,
    ⟨0xFE8E, 0xFE8F, 1, -63591⟩, ⟨0xFE92, 0xFE93, 1, -63594⟩, ⟨0xFE94, 0xFE95, 1, -63595⟩,
    ⟨0xFE98, 0xFE99, 1, -63598⟩, ⟨0xFE9C, 0xFE9D, 1, -63601⟩, ⟨0xFEA0, 0xFEA1, 1, -63604⟩,
    ⟨0xFEA4, 0xFEA5, 1, -63607⟩, ⟨0xFEA8, 0xFEA9, 1, -63610⟩, ⟨0xFEAA, 0xFEAB, 1, -63611⟩,
    ⟨0xFEAC, 0xFEAD, 1, -63612⟩, ⟨0xFEAE, 0xFEAF, 1, -63613⟩, ⟨0xFEB0, 0xFEB1, 1, -63614⟩,
    ⟨0xFEB4, 0xFEB5, 1, -63617⟩, ⟨0xFEB8, 0xFEB9, 1, -63620⟩, ⟨0xFEBC, 0xFEBD, 1, -63623⟩,
    ⟨0xFEC0, 0xFEC1, 1, -63626⟩, ⟨0xFEC4, 0xFEC5, 1, -63629⟩, ⟨0xFEC8, 0xFEC9, 1, -63632⟩,
    ⟨0xFECC, 0xFECD, 1, -63635⟩, ⟨0xFED4, 0xFED5, 1, -63635⟩, ⟨0xFED8, 0xFED9, 1, -63638⟩,
    ⟨0xFEDC, 0xFEDD, 1, -63641⟩, ⟨0xFEE0, 0xFEE1, 1, -63644⟩, ⟨0xFEE4, 0xFEE5, 1, -63647⟩,
    ⟨0xFEE8, 0xFEE9, 1, -63650⟩, ⟨0xFEEC, 0xFEED, 1, -63653⟩, ⟨0xFEEE, 0xFEEF, 1, -63654⟩,
    ⟨0xFEF0, 0xFEF1, 1, -63655⟩, ⟨0xFF01, 0xFF20, 1, -65248⟩, ⟨0xFF21, 0xFF3A, 1, -65216⟩,
    ⟨0xFF3B, 0xFF5E, 1, -65248⟩, ⟨0xFF5F, 0xFF60, 1, -54746⟩, ⟨0xFF62, 0xFF63, 1, -53078⟩,
    ⟨0xFF75, 0xFF76, 1, -52939⟩, ⟨0xFF85, 0xFF8A, 1, -52923⟩, ⟨0xFF8F, 0xFF93, 1, -52913⟩,
    ⟨0xFF96, 0xFF9B, 1, -52910⟩, ⟨0xFF9E, 0xFF9F, 1, -52997⟩, ⟨0xFFA1, 0xFFA2, 1, -61089⟩,
    ⟨0xFFA3, 0xFFA5, 2, -60921⟩, ⟨0xFFA7, 0xFFA9, 1, -61092⟩, ⟨0xFFAA, 0xFFAF, 1, -60922⟩,
    ⟨0xFFB1, 0xFFB3, 1, -61099⟩, ⟨0xFFB5, 0xFFBE, 1, -61100⟩, ⟨0xFFC2, 0xFFC7, 1, -61025⟩,
    ⟨0xFFCA, 0xFFCF, 1, -61027⟩, ⟨0xFFD2, 0xFFD7, 1, -61029⟩, ⟨0xFFDA, 0xFFDC, 1, -61031⟩,
    ⟨0xFFE0, 0xFFE1, 1, -65342⟩, ⟨0xFFE9, 0xFFEC, 1, -56921⟩, ⟨0x10400, 0x10427, 1, 40⟩,
    ⟨0x104B0, 0x104D3, 1, 40⟩, ⟨0x10570, 0x10594, 2, 39⟩, ⟨0x10571, 0x10579, 2, 39⟩,
    ⟨0x1057D, 0x10589, 2, 39⟩, ⟨0x1058D, 0x10591, 2, 39⟩, ⟨0x10781, 0x10782, 1, -66737⟩,
    ⟨0x10787, 0x10789, 2, -66788⟩, ⟨0x1078B, 0x1078C, 1, -66869⟩, ⟨0x10799, 0x1079A, 1, -66799⟩,
    ⟨0x107A3, 0x107A4, 1, -66861⟩, ⟨0x107A8, 0x107A9, 1, -66859⟩, ⟨0x107B3, 0x107B4, 1, -66834⟩,
    ⟨0x107B6, 0x107B8, 1, -67062⟩, ⟨0x10C80, 0x10CB2, 1, 64⟩, ⟨0x10D50, 0x10D65, 1, 32⟩,
    ⟨0x118A0, 0x118BF, 1, 32⟩, ⟨0x16E40, 0x16E5F, 1, 32⟩, ⟨0x16EA0, 0x16EB8, 1, 27⟩,
    ⟨0x1CCD6, 0x1CCEF, 1, -117877⟩, ⟨0x1CCF0, 0x1CCF9, 1, -117952⟩,
    ⟨0x1D400, 0x1D419, 1, -119711⟩, ⟨0x1D41A, 0x1D433, 1, -119737⟩,
    ⟨0x1D434, 0x1D44D, 1, -119763⟩, ⟨0x1D44E, 0x1D466, 2, -119789⟩,
    ⟨0x1D44F, 0x1D453, 2, -119789⟩, ⟨0x1D457, 0x1D467, 2, -119789⟩,
    ⟨0x1D468, 0x1D481, 1, -119815⟩, ⟨0x1D482, 0x1D49B, 1, -119841⟩,
    ⟨0x1D49C, 0x1D49E, 2, -119867⟩, ⟨0x1D4A5, 0x1D4A6, 1, -119867⟩,
    ⟨0x1D4A9, 0x1D4AC, 1, -119867⟩, ⟨0x1D4AE, 0x1D4B5, 1, -119867⟩,
    ⟨0x1D4B6, 0x1D4B9, 1, -119893⟩, ⟨0x1D4BB, 0x1D4CF, 2, -119893⟩,
    ⟨0x1D4BE, 0x1D4C2, 2, -119893⟩, ⟨0x1D4C6, 0x1D4CE, 2, -119893⟩,
    ⟨0x1D4D0, 0x1D4E9, 1, -119919⟩, ⟨0x1D4EA, 0x1D503, 1, -119945⟩,
    ⟨0x1D504, 0x1D505, 1, -119971⟩, ⟨0x1D507, 0x1D50A, 1, -119971⟩,
    ⟨0x1D50D, 0x1D514, 1, -119971⟩, ⟨0x1D516, 0x1D51C, 1, -119971⟩,
    ⟨0x1D51E, 0x1D537, 1, -119997⟩, ⟨0x1D538, 0x1D539, 1, -120023⟩,
    ⟨0x1D53B, 0x1D53E, 1, -120023⟩, ⟨0x1D540, 0x1D544, 1, -120023⟩,
    ⟨0x1D54A, 0x1D550, 1, -120023⟩, ⟨0x1D552, 0x1D56B, 1, -120049⟩,
    ⟨0x1D56C, 0x1D585, 1, -120075⟩, ⟨0x1D586, 0x1D59F, 1, -120101⟩,
    ⟨0x1D5A0, 0x1D5B9, 1, -120127⟩, ⟨0x1D5BA, 0x1D5D3, 1, -120153⟩,
    ⟨0x1D5D4, 0x1D5ED, 1, -120179⟩, ⟨0x1D5EE, 0x1D607, 1, -120205⟩,
    ⟨0x1D608, 0x1D621, 1, -120231⟩, ⟨0x1D622, 0x1D63B, 1, -120257⟩,
    ⟨0x1D63C, 0x1D655, 1, -120283⟩, ⟨0x1D656, 0x1D66F, 1, -120309⟩,
    ⟨0x1D670, 0x1D689, 1, -120335⟩, ⟨0x1D68A, 0x1D6A3, 1, -120361⟩,
    ⟨0x1D6A8, 0x1D6B8, 1, -119543⟩, ⟨0x1D6BA, 0x1D6C0, 1, -119543⟩,
    ⟨0x1D6C2, 0x1D6D2, 1, -119569⟩, ⟨0x1D6D4, 0x1D6DA, 1, -119569⟩,
    ⟨0x1D6E2, 0x1D6F2, 1, -119601⟩, ⟨0x1D6F4, 0x1D6FA, 1, -119601⟩,
    ⟨0x1D6FC, 0x1D70C, 1, -119627⟩, ⟨0x1D70E, 0x1D714, 1, -119627⟩,
    ⟨0x1D71C, 0x1D72C, 1, -119659⟩, ⟨0x1D72E, 0x1D734, 1, -119659⟩,
    ⟨0x1D736, 0x1D746, 1, -119685⟩, ⟨0x1D748, 0x1D74E, 1, -119685⟩,
    ⟨0x1D756, 0x1D766, 1, -119717⟩, ⟨0x1D768, 0x1D76E, 1, -119717⟩,
    ⟨0x1D770, 0x1D780, 1, -119743⟩, ⟨0x1D782, 0x1D788, 1, -119743⟩,
    ⟨0x1D790, 0x1D7A0, 1, -119775⟩, ⟨0x1D7A2, 0x1D7A8, 1, -119775⟩,
    ⟨0x1D7AA, 0x1D7BA, 1, -119801⟩, ⟨0x1D7BC, 0x1D7C2, 1, -119801⟩,
    ⟨0x1D7CE, 0x1D7D7, 1, -120734⟩, ⟨0x1D7D8, 0x1D7E1, 1, -120744⟩,
    ⟨0x1D7E2, 0x1D7EB, 1, -120754⟩, ⟨0x1D7EC, 0x1D7F5, 1, -120764⟩,
    ⟨0x1D7F6, 0x1D7FF, 1, -120774⟩, ⟨0x1E030, 0x1E038, 1, -121856⟩,
    ⟨0x1E039, 0x1E03B, 1, -121855⟩, ⟨0x1E03C, 0x1E046, 1, -121854⟩,
    ⟨0x1E048, 0x1E049, 1, -121851⟩, ⟨0x1E051, 0x1E059, 1, -121889⟩,
    ⟨0x1E05A, 0x1E05B, 1, -121888⟩, ⟨0x1E05C, 0x1E05D, 1, -121886⟩,
    ⟨0x1E05F, 0x1E064, 1, -121884⟩, ⟨0x1E065, 0x1E066, 1, -121883⟩, ⟨0x1E900, 0x1E921, 1, 34⟩,
    ⟨0x1EE00, 0x1EE01, 1, -124889⟩, ⟨0x1EE0A, 0x1EE0D, 1, -124871⟩,
    ⟨0x1EE15, 0x1EE16, 1, -124907⟩, ⟨0x1EE2A, 0x1EE2D, 1, -124903⟩,
    ⟨0x1EE35, 0x1EE36, 1, -124939⟩, ⟨0x1EE4B, 0x1EE4D, 2, -124935⟩,
    ⟨0x1EE6A, 0x1EE6C, 2, -124967⟩, ⟨0x1EE75, 0x1EE76, 1, -125003⟩,
    ⟨0x1EE80, 0x1EE81, 1, -125017⟩, ⟨0x1EE84, 0x1EE85, 1, -124989⟩,
    ⟨0x1EE8B, 0x1EE8D, 1, -124999⟩, ⟨0x1EE95, 0x1EE96, 1, -125035⟩,
    ⟨0x1EEAB, 0x1EEAD, 1, -125031⟩, ⟨0x1EEB5, 0x1EEB6, 1, -125067⟩,
    ⟨0x1F130, 0x1F149, 1, -127183⟩, ⟨0x1FBF0, 0x1FBF9, 1, -129984⟩,
    ⟨0x2F829, 0x2F82A, 1, -173348⟩, ⟨0x2F830, 0x2F832, 2, -173235⟩, ⟨0x2F87B, 0x2F87D, 2, -55959⟩,
    ⟨0x2F881, 0x2F882, 1, -170656⟩, ⟨0x2F8F5, 0x2F8F6, 1, -167227⟩,
    ⟨0x2F945, 0x2F946, 1, -164391⟩, ⟨0x2F9E8, 0x2F9E9, 1, -157457⟩]

def domainRows1 : List (Nat × List Nat) := [
    (0xAA, [0x61]), (0xB5, [0x3BC]), (0xB9, [0x31, 0x6F]), (0x178, [0xFF]), (0x17F, [0x73]),
    (0x181, [0x253]), (0x186, [0x254, 0x188]), (0x18B, [0x18C]),
    (0x18E, [0x1DD, 0x259, 0x25B, 0x192]), (0x193, [0x260, 0x263]),
    (0x196, [0x269, 0x268, 0x199]), (0x19C, [0x26F, 0x272]), (0x19F, [0x275]),
    (0x1A6, [0x280, 0x1A8]), (0x1A9, [0x283]), (0x1AC, [0x1AD]), (0x1AE, [0x288, 0x1B0]),
    (0x1B7, [0x292, 0x1B9]), (0x1BC, [0x1BD]), (0x1F4, [0x1F5]), (0x1F6, [0x195, 0x1BF]),
    (0x220, [0x19E]), (0x23A, [0x2C65, 0x23C]), (0x23D, [0x19A, 0x2C66]), (0x241, [0x242]),
    (0x243, [0x180, 0x289, 0x28C]), (0x2B1, [0x266]),
    (0x2B3, [0x72, 0x279, 0x27B, 0x281, 0x77, 0x79]), (0x2E0, [0x263, 0x6C, 0x73, 0x78, 0x295]),
    (0x343, [0x313]), (0x345, [0x3B9]), (0x374, [0x2B9]), (0x376, [0x377]),
    (0x37E, [0x3B, 0x3F3]), (0x386, [0x3AC, 0xB7]), (0x38C, [0x3CC]),
    (0x3CF, [0x3D7, 0x3B2, 0x3B8, 0x3C5, 0x3CD, 0x3CB, 0x3C6, 0x3C0]),
    (0x3F0, [0x3BA, 0x3C1, 0x3C3]), (0x3F4, [0x3B8, 0x3B5]), (0x3F7, [0x3F8]),
    (0x3F9, [0x3C3, 0x3FB]), (0x4C0, [0x4CF]), (0xF0C, [0xF0B]), (0x10C7, [0x2D27]),
    (0x10CD, [0x2D2D]), (0x10FC, [0x10DC]), (0x1C80, [0x432, 0x434, 0x43E]),
    (0x1C85, [0x442, 0x44A, 0x463, 0xA64B, 0x1C8A]), (0x1D2C, [0x61, 0xE6]), (0x1D32, [0x1DD]),
    (0x1D3C, [0x6F, 0x223, 0x70, 0x72]), (0x1D42, [0x77, 0x61]), (0x1D46, [0x1D02, 0x62]),
    (0x1D4A, [0x259]), (0x1D4D, [0x67]), (0x1D4F, [0x6B]), (0x1D51, [0x14B]), (0x1D53, [0x254]),
    (0x1D56, [0x70]), (0x1D59, [0x1D1D, 0x26F, 0x76, 0x1D25]), (0x1D62, [0x69, 0x72]),
    (0x1D68, [0x3C1]), (0x1D78, [0x43D]),
    (0x1D9B, [0x252, 0x63, 0x255, 0xF0, 0x25C, 0x66, 0x25F, 0x261]), (0x1DA3, [0x265]),
    (0x1DA7, [0x1D7B, 0x29D, 0x26D, 0x1D85, 0x29F, 0x271, 0x270]), (0x1DB2, [0x278]),
    (0x1DB5, [0x1AB]), (0x1DB8, [0x1D1C]), (0x1DBB, [0x7A]), (0x1DBF, [0x3B8]),
    (0x1E9B, [0x1E61]), (0x1E9E, [0xDF]), (0x1F71, [0x3AC]), (0x1F73, [0x3AD]), (0x1F75, [0x3AE]),
    (0x1F77, [0x3AF]), (0x1F79, [0x3CC]), (0x1F7B, [0x3CD]), (0x1F7D, [0x3CE]),
    (0x1FBA, [0x1F70, 0x3AC]), (0x1FBE, [0x3B9]), (0x1FC9, [0x3AD]), (0x1FCB, [0x3AE]),
    (0x1FD3, [0x390]), (0x1FDA, [0x1F76, 0x3AF]), (0x1FE3, [0x3B0]),
    (0x1FEA, [0x1F7A, 0x3CD, 0x1FE5]), (0x1FEF, [0x60]), (0x1FF8, [0x1F78]), (0x1FFA, [0x1F7C]),
    (0x2011, [0x2010]), (0x2070, [0x30, 0x69]), (0x207A, [0x2B, 0x2212, 0x3D]), (0x207F, [0x6E]),
    (0x208A, [0x2B, 0x2212, 0x3D]), (0x2090, [0x61, 0x65, 0x6F, 0x78, 0x259, 0x68]),
    (0x209A, [0x70]), (0x2102, [0x63]), (0x2107, [0x25B]),
    (0x210C, [0x68, 0x68, 0x68, 0x127, 0x69, 0x69, 0x6C]), (0x211C, [0x72, 0x72]),
    (0x2124, [0x7A]), (0x2126, [0x3C9]), (0x2128, [0x7A]), (0x212A, [0x6B, 0xE5]),
    (0x212F, [0x65]), (0x2132, [0x214E, 0x6D, 0x6F]), (0x2139, [0x69]),
    (0x213C, [0x3C0, 0x3B3, 0x3B3, 0x3C0, 0x2211]), (0x2145, [0x64]), (0x2160, [0x69]),
    (0x2164, [0x76]), (0x2169, [0x78]), (0x216C, [0x6C]), (0x216F, [0x6D, 0x69]),
    (0x2174, [0x76]), (0x2179, [0x78]), (0x217C, [0x6C]), (0x217F, [0x6D]), (0x2183, [0x2184]),
    (0x24EA, [0x30]), (0x2C60, [0x2C61]), (0x2C62, [0x26B, 0x1D7D, 0x27D]),
    (0x2C6D, [0x251, 0x271, 0x250, 0x252]), (0x2C72, [0x2C73]), (0x2C75, [0x2C76]),
    (0x2C7C, [0x6A, 0x76]), (0x2CF2, [0x2CF3]), (0x2D6F, [0x2D61]), (0x2E9F, [0x6BCD]),
    (0x2EF3, [0x9F9F]),
    (0x2F00, [0x4E00, 0x4E28, 0x4E36, 0x4E3F, 0x4E59, 0x4E85, 0x4E8C, 0x4EA0]),
    (0x2F08, [0x4EBA, 0x513F, 0x5165, 0x516B, 0x5182, 0x5196, 0x51AB, 0x51E0]),
    (0x2F10, [0x51F5, 0x5200, 0x529B, 0x52F9, 0x5315, 0x531A, 0x5338, 0x5341]),
    (0x2F18, [0x535C, 0x5369, 0x5382, 0x53B6, 0x53C8, 0x53E3, 0x56D7, 0x571F]),
    (0x2F20, [0x58EB, 0x5902, 0x590A, 0x5915, 0x5927, 0x5973, 0x5B50, 0x5B80]),
    (0x2F28, [0x5BF8, 0x5C0F, 0x5C22, 0x5C38, 0x5C6E, 0x5C71, 0x5DDB, 0x5DE5]),
    (0x2F30, [0x5DF1, 0x5DFE, 0x5E72, 0x5E7A, 0x5E7F, 0x5EF4, 0x5EFE, 0x5F0B]),
    (0x2F38, [0x5F13, 0x5F50, 0x5F61, 0x5F73, 0x5FC3, 0x6208, 0x6236, 0x624B]),
    (0x2F40, [0x652F, 0x6534, 0x6587, 0x6597, 0x65A4, 0x65B9, 0x65E0, 0x65E5]),
    (0x2F48, [0x66F0, 0x6708, 0x6728, 0x6B20, 0x6B62, 0x6B79, 0x6BB3, 0x6BCB]),
    (0x2F50, [0x6BD4, 0x6BDB, 0x6C0F, 0x6C14, 0x6C34, 0x706B, 0x722A, 0x7236]),
    (0x2F58, [0x723B, 0x723F, 0x7247, 0x7259, 0x725B, 0x72AC, 0x7384, 0x7389]),
    (0x2F60, [0x74DC, 0x74E6, 0x7518, 0x751F, 0x7528, 0x7530, 0x758B, 0x7592]),
    (0x2F68, [0x7676, 0x767D, 0x76AE, 0x76BF, 0x76EE, 0x77DB, 0x77E2, 0x77F3]),
    (0x2F70, [0x793A, 0x79B8, 0x79BE, 0x7A74, 0x7ACB, 0x7AF9, 0x7C73, 0x7CF8]),
    (0x2F78, [0x7F36, 0x7F51, 0x7F8A, 0x7FBD, 0x8001, 0x800C, 0x8012, 0x8033]),
    (0x2F80, [0x807F, 0x8089, 0x81E3, 0x81EA, 0x81F3, 0x81FC, 0x820C, 0x821B]),
    (0x2F88, [0x821F, 0x826E, 0x8272, 0x8278, 0x864D, 0x866B, 0x8840, 0x884C]),
    (0x2F90, [0x8863, 0x897E, 0x898B, 0x89D2, 0x8A00, 0x8C37, 0x8C46, 0x8C55]),
    (0x2F98, [0x8C78, 0x8C9D, 0x8D64, 0x8D70, 0x8DB3, 0x8EAB, 0x8ECA, 0x8F9B]),
    (0x2FA0, [0x8FB0, 0x8FB5, 0x9091, 0x9149, 0x91C6, 0x91CC, 0x91D1, 0x9577]),
    (0x2FA8, [0x9580, 0x961C, 0x96B6, 0x96B9, 0x96E8, 0x9751, 0x975E, 0x9762]),
    (0x2FB0, [0x9769, 0x97CB, 0x97ED, 0x97F3, 0x9801, 0x98A8, 0x98DB, 0x98DF]),
    (0x2FB8, [0x9996, 0x9999, 0x99AC, 0x9AA8, 0x9AD8, 0x9ADF, 0x9B25, 0x9B2F]),
    (0x2FC0, [0x9B32, 0x9B3C, 0x9B5A, 0x9CE5, 0x9E75, 0x9E7F, 0x9EA5, 0x9EBB]),
    (0x2FC8, [0x9EC3, 0x9ECD, 0x9ED1, 0x9EF9, 0x9EFD, 0x9F0E, 0x9F13, 0x9F20]),
    (0x2FD0, [0x9F3B, 0x9F4A, 0x9F52, 0x9F8D, 0x9F9C, 0x9FA0]), (0x3002, [0x2E]),
    (0x3036, [0x3012]), (0x3038, [0x5341]), (0x3134, [0x1102]), (0x3136, [0x11AD]),
    (0x3140, [0x111A]), (0x3144, [0x1121]),
    (0x3169, [0x11CC, 0x11CE, 0x11D3, 0x11D7, 0x11D9, 0x111C, 0x11DD, 0x11DF]),
    (0x3173, [0x1120]), (0x3176, [0x1127, 0x1129]),
    (0x317D, [0x1132, 0x1136, 0x1140, 0x1147, 0x114C]), (0x3189, [0x1188]),
    (0x318C, [0x1194, 0x119E, 0x11A1]),
    (0x3192, [0x4E00, 0x4E8C, 0x4E09, 0x56DB, 0x4E0A, 0x4E2D, 0x4E0B, 0x7532]),
    (0x319A, [0x4E59, 0x4E19, 0x4E01, 0x5929, 0x5730, 0x4EBA]),
    (0x3244, [0x554F, 0x5E7C, 0x6587, 0x7B8F]), (0x3260, [0x1100]), (0x3266, [0x1109]),
    (0x326E, [0xAC00, 0xB098, 0xB2E4, 0xB77C, 0xB9C8, 0xBC14, 0xC0AC, 0xC544]),
    (0x3276, [0xC790, 0xCC28, 0xCE74, 0xD0C0, 0xD30C, 0xD558]), (0x327E, [0xC6B0]),
    (0x3280, [0x4E00, 0x4E8C, 0x4E09, 0x56DB, 0x4E94, 0x516D, 0x4E03, 0x516B]),
    (0x3288, [0x4E5D, 0x5341, 0x6708, 0x706B, 0x6C34, 0x6728, 0x91D1, 0x571F]),
    (0x3290, [0x65E5, 0x682A, 0x6709, 0x793E, 0x540D, 0x7279, 0x8CA1, 0x795D]),
    (0x3298, [0x52B4, 0x79D8, 0x7537, 0x5973, 0x9069, 0x512A, 0x5370, 0x6CE8]),
    (0x32A0, [0x9805, 0x4F11, 0x5199, 0x6B63, 0x4E0A, 0x4E2D, 0x4E0B, 0x5DE6]),
    (0x32A8, [0x53F3, 0x533B, 0x5B97, 0x5B66, 0x76E3, 0x4F01, 0x8CC7, 0x5354]),
    (0x32B0, [0x591C]), (0x32D0, [0x30A2, 0x30A4, 0x30A6, 0x30A8]),
    (0x32D6, [0x30AD, 0x30AF, 0x30B1, 0x30B3, 0x30B5, 0x30B7, 0x30B9, 0x30BB]),
    (0x32DE, [0x30BD, 0x30BF, 0x30C1, 0x30C4, 0x30C6, 0x30C8]),
    (0x32EA, [0x30D2, 0x30D5, 0x30D8, 0x30DB]), (0x32F3, [0x30E4, 0x30E6]),
    (0xA69C, [0x44A, 0x44C]), (0xA770, [0xA76F]), (0xA77D, [0x1D79]), (0xA78B, [0xA78C]),
    (0xA78D, [0x265]), (0xA7AA, [0x266, 0x25C, 0x261, 0x26C, 0x26A]),
    (0xA7B0, [0x29E, 0x287, 0x29D, 0xAB53]), (0xA7C4, [0xA794, 0x282, 0x1D8E]), (0xA7CB, [0x264]),
    (0xA7DC, [0x19B]), (0xA7F1, [0x73, 0x63, 0x66, 0x71, 0xA7F6]), (0xA7F8, [0x127, 0x153]),
    (0xAB5C, [0xA727, 0xAB37, 0x26B, 0xAB52]), (0xAB69, [0x28D]),
    (0xF900, [0x8C48, 0x66F4, 0x8ECA, 0x8CC8, 0x6ED1, 0x4E32, 0x53E5, 0x9F9C]),
    (0xF908, [0x9F9C, 0x5951, 0x91D1, 0x5587, 0x5948, 0x61F6, 0x7669, 0x7F85]),
    (0xF910, [0x863F, 0x87BA, 0x88F8, 0x908F, 0x6A02, 0x6D1B, 0x70D9, 0x73DE]),
    (0xF918, [0x843D, 0x916A, 0x99F1, 0x4E82, 0x5375, 0x6B04, 0x721B, 0x862D]),
    (0xF920, [0x9E1E, 0x5D50, 0x6FEB, 0x85CD, 0x8964, 0x62C9, 0x81D8, 0x881F]),
    (0xF928, [0x5ECA, 0x6717, 0x6D6A, 0x72FC, 0x90CE, 0x4F86, 0x51B7, 0x52DE]),
    (0xF930, [0x64C4, 0x6AD3, 0x7210, 0x76E7, 0x8001, 0x8606, 0x865C, 0x8DEF]),
    (0xF938, [0x9732, 0x9B6F, 0x9DFA, 0x788C, 0x797F, 0x7DA0, 0x83C9, 0x9304]),
    (0xF940, [0x9E7F, 0x8AD6, 0x58DF, 0x5F04, 0x7C60, 0x807E, 0x7262, 0x78CA]),
    (0xF948, [0x8CC2, 0x96F7, 0x58D8, 0x5C62, 0x6A13, 0x6DDA, 0x6F0F, 0x7D2F]),
    (0xF950, [0x7E37, 0x964B, 0x52D2, 0x808B, 0x51DC, 0x51CC, 0x7A1C, 0x7DBE]),
    (0xF958, [0x83F1, 0x9675, 0x8B80, 0x62CF, 0x6A02, 0x8AFE, 0x4E39, 0x5BE7]),
    (0xF960, [0x6012, 0x7387, 0x7570, 0x5317, 0x78FB, 0x4FBF, 0x5FA9, 0x4E0D]),
    (0xF968, [0x6CCC, 0x6578, 0x7D22, 0x53C3, 0x585E, 0x7701, 0x8449, 0x8AAA]),
    (0xF970, [0x6BBA, 0x8FB0, 0x6C88, 0x62FE, 0x82E5, 0x63A0, 0x7565, 0x4EAE]),
    (0xF978, [0x5169, 0x51C9, 0x6881, 0x7CE7, 0x826F, 0x8AD2, 0x91CF, 0x52F5]),
    (0xF980, [0x5442, 0x5973, 0x5EEC, 0x65C5, 0x6FFE, 0x792A, 0x95AD, 0x9A6A]),
    (0xF988, [0x9E97, 0x9ECE, 0x529B, 0x66C6, 0x6B77, 0x8F62, 0x5E74, 0x6190]),
    (0xF990, [0x6200, 0x649A, 0x6F23, 0x7149, 0x7489, 0x79CA, 0x7DF4, 0x806F]),
    (0xF998, [0x8F26, 0x84EE, 0x9023, 0x934A, 0x5217, 0x52A3, 0x54BD, 0x70C8]),
    (0xF9A0, [0x88C2, 0x8AAA, 0x5EC9, 0x5FF5, 0x637B, 0x6BAE, 0x7C3E, 0x7375]),
    (0xF9A8, [0x4EE4, 0x56F9, 0x5BE7, 0x5DBA, 0x601C, 0x73B2, 0x7469, 0x7F9A]),
    (0xF9B0, [0x8046, 0x9234, 0x96F6, 0x9748, 0x9818, 0x4F8B, 0x79AE, 0x91B4]),
    (0xF9B8, [0x96B8, 0x60E1, 0x4E86, 0x50DA, 0x5BEE, 0x5C3F, 0x6599, 0x6A02]),
    (0xF9C0, [0x71CE, 0x7642, 0x84FC, 0x907C, 0x9F8D, 0x6688, 0x962E, 0x5289]),
    (0xF9C8, [0x677B, 0x67F3, 0x6D41, 0x6E9C, 0x7409, 0x7559, 0x786B, 0x7D10]),
    (0xF9D0, [0x985E, 0x516D, 0x622E, 0x9678, 0x502B, 0x5D19, 0x6DEA, 0x8F2A]),
    (0xF9D8, [0x5F8B, 0x6144, 0x6817, 0x7387, 0x9686, 0x5229, 0x540F, 0x5C65]),
    (0xF9E0, [0x6613, 0x674E, 0x68A8, 0x6CE5, 0x7406, 0x75E2, 0x7F79, 0x88CF]),
    (0xF9E8, [0x88E1, 0x91CC, 0x96E2, 0x533F, 0x6EBA, 0x541D, 0x71D0, 0x7498]),
    (0xF9F0, [0x85FA, 0x96A3, 0x9C57, 0x9E9F, 0x6797, 0x6DCB, 0x81E8, 0x7ACB]),
    (0xF9F8, [0x7B20, 0x7C92, 0x72C0, 0x7099, 0x8B58, 0x4EC0, 0x8336, 0x523A]),
    (0xFA00, [0x5207, 0x5EA6, 0x62D3, 0x7CD6, 0x5B85, 0x6D1E, 0x66B4, 0x8F3B]),
    (0xFA08, [0x884C, 0x964D, 0x898B, 0x5ED3, 0x5140, 0x55C0]), (0xFA10, [0x585A]),
    (0xFA12, [0x6674]),
    (0xFA15, [0x51DE, 0x732A, 0x76CA, 0x793C, 0x795E, 0x7965, 0x798F, 0x9756]),
    (0xFA1D, [0x7CBE, 0x7FBD]), (0xFA20, [0x8612]), (0xFA22, [0x8AF8]),
    (0xFA25, [0x9038, 0x90FD]),
    (0xFA2A, [0x98EF, 0x98FC, 0x9928, 0x9DB4, 0x90DE, 0x96B7, 0x4FAE, 0x50E7]),
    (0xFA32, [0x514D, 0x52C9, 0x52E4, 0x5351, 0x559D, 0x5606, 0x5668, 0x5840]),
    (0xFA3A, [0x58A8, 0x5C64, 0x5C6E, 0x6094, 0x6168, 0x618E, 0x61F2, 0x654F]),
    (0xFA42, [0x65E2, 0x6691, 0x6885, 0x6D77, 0x6E1A, 0x6F22, 0x716E, 0x722B]),
    (0xFA4A, [0x7422, 0x7891, 0x793E, 0x7949, 0x7948, 0x7950, 0x7956, 0x795D]),
    (0xFA54, [0x7A40, 0x7A81, 0x7BC0, 0x7DF4, 0x7E09, 0x7E41, 0x7F72, 0x8005]),
    (0xFA5C, [0x81ED, 0x8279, 0x8279, 0x8457, 0x8910, 0x8996, 0x8B01, 0x8B39]),
    (0xFA64, [0x8CD3, 0x8D08, 0x8FB6, 0x9038, 0x96E3, 0x97FF, 0x983B, 0x6075]),
    (0xFA6C, [0x242EE, 0x8218]),
    (0xFA70, [0x4E26, 0x51B5, 0x5168, 0x4F80, 0x5145, 0x5180, 0x52C7, 0x52FA]),
    (0xFA78, [0x559D, 0x5555, 0x5599, 0x55E2, 0x585A, 0x58B3, 0x5944, 0x5954]),
    (0xFA80, [0x5A62, 0x5B28, 0x5ED2, 0x5ED9, 0x5F69, 0x5FAD, 0x60D8, 0x614E]),
    (0xFA88, [0x6108, 0x618E, 0x6160, 0x61F2, 0x6234, 0x63C4, 0x641C, 0x6452]),
    (0xFA90, [0x6556, 0x6674, 0x6717, 0x671B, 0x6756, 0x6B79, 0x6BBA, 0x6D41]),
    (0xFA98, [0x6EDB, 0x6ECB, 0x6F22, 0x701E, 0x716E, 0x77A7, 0x7235, 0x72AF]),
    (0xFAA0, [0x732A, 0x7471, 0x7506, 0x753B, 0x761D, 0x761F, 0x76CA, 0x76DB]),
    (0xFAA8, [0x76F4, 0x774A, 0x7740, 0x78CC, 0x7AB1, 0x7BC0, 0x7C7B, 0x7D5B]),
    (0xFAB0, [0x7DF4, 0x7F3E, 0x8005, 0x8352, 0x83EF, 0x8779, 0x8941, 0x8986]),
    (0xFAB8, [0x8996, 0x8ABF, 0x8AF8, 0x8ACB, 0x8B01, 0x8AFE, 0x8AED, 0x8B39]),
    (0xFAC0, [0x8B8A, 0x8D08, 0x8F38, 0x9072, 0x9199, 0x9276, 0x967C, 0x96E3]),
    (0xFAC8, [0x9756, 0x97DB, 0x97FF, 0x980B, 0x983B, 0x9B12, 0x9F9C, 0x2284A]),
    (0xFAD0, [0x22844, 0x233D5, 0x3B9D, 0x4018, 0x4039, 0x25249, 0x25CD0, 0x27ED3]),
    (0xFAD8, [0x9F43, 0x9F8E]), (0xFB20, [0x5E2, 0x5D0]), (0xFB27, [0x5E8, 0x5EA, 0x2B]),
    (0xFB50, [0x671, 0x671, 0x67B, 0x67B, 0x67B, 0x67B, 0x67E, 0x67E]),
    (0xFB5C, [0x680, 0x680, 0x67A, 0x67A, 0x67A, 0x67A, 0x67F, 0x67F]),
    (0xFB64, [0x67F, 0x67F, 0x679, 0x679, 0x679, 0x679, 0x6A4, 0x6A4]),
    (0xFB70, [0x6A6, 0x6A6, 0x684, 0x684, 0x684, 0x684, 0x683, 0x683]),
    (0xFB78, [0x683, 0x683, 0x686, 0x686, 0x686]), (0xFB7F, [0x687, 0x687, 0x687, 0x68D, 0x68D]),
    (0xFB88, [0x688, 0x688, 0x698, 0x698, 0x691, 0x691, 0x6A9, 0x6A9]),
    (0xFB90, [0x6A9, 0x6A9, 0x6AF, 0x6AF, 0x6AF, 0x6AF, 0x6B3, 0x6B3]),
    (0xFB98, [0x6B3, 0x6B3, 0x6B1, 0x6B1, 0x6B1, 0x6B1, 0x6BA]),
    (0xFBA1, [0x6BB, 0x6BB, 0x6BB, 0x6C0]),
    (0xFBA7, [0x6C1, 0x6C1, 0x6C1, 0x6BE, 0x6BE, 0x6BE, 0x6BE, 0x6D2]), (0xFBB1, [0x6D3]),
    (0xFBD3, [0x6AD, 0x6AD, 0x6AD, 0x6AD, 0x6C7, 0x6C7]),
    (0xFBDE, [0x6CB, 0x6CB, 0x6C5, 0x6C5, 0x6C9, 0x6C9, 0x6D0, 0x6D0]),
    (0xFBE6, [0x6D0, 0x6D0, 0x649, 0x649]), (0xFBFC, [0x6CC, 0x6CC, 0x6CC, 0x6CC]),
    (0xFE10, [0x2C, 0x3001]), (0xFE15, [0x21]), (0xFE31, [0x2014, 0x2013, 0x5F, 0x5F]),
    (0xFE37, [0x7B, 0x7D]), (0xFE4D, [0x5F, 0x5F, 0x5F, 0x2C, 0x3001]), (0xFE54, [0x3B]),
    (0xFE57, [0x21, 0x2014]), (0xFE5B, [0x7B, 0x7D]), (0xFE60, [0x26]), (0xFE63, [0x2D]),
    (0xFE66, [0x3D]), (0xFE8A, [0x626, 0x626])]

def domainRows2 : List (Nat × List Nat) := [
    (0xFE90, [0x628, 0x628]), (0xFE96, [0x62A, 0x62A]), (0xFE9A, [0x62B, 0x62B]),
    (0xFE9E, [0x62C, 0x62C]), (0xFEA2, [0x62D, 0x62D]), (0xFEA6, [0x62E, 0x62E]),
    (0xFEB2, [0x633, 0x633]), (0xFEB6, [0x634, 0x634]), (0xFEBA, [0x635, 0x635]),
    (0xFEBE, [0x636, 0x636]), (0xFEC2, [0x637, 0x637]), (0xFEC6, [0x638, 0x638]),
    (0xFECA, [0x639, 0x639]), (0xFECE, [0x63A, 0x63A, 0x63A, 0x641, 0x641, 0x641]),
    (0xFED6, [0x642, 0x642]), (0xFEDA, [0x643, 0x643]), (0xFEDE, [0x644, 0x644]),
    (0xFEE2, [0x645, 0x645]), (0xFEE6, [0x646, 0x646]), (0xFEEA, [0x647, 0x647]),
    (0xFEF2, [0x64A, 0x64A, 0x64A]), (0xFF61, [0x2E]),
    (0xFF64, [0x3001, 0x30FB, 0x30F2, 0x30A1, 0x30A3, 0x30A5, 0x30A7, 0x30A9]),
    (0xFF6C, [0x30E3, 0x30E5, 0x30E7, 0x30C3, 0x30FC, 0x30A2, 0x30A4, 0x30A6]),
    (0xFF74, [0x30A8]),
    (0xFF77, [0x30AD, 0x30AF, 0x30B1, 0x30B3, 0x30B5, 0x30B7, 0x30B9, 0x30BB]),
    (0xFF7F, [0x30BD, 0x30BF, 0x30C1, 0x30C4, 0x30C6, 0x30C8]),
    (0xFF8B, [0x30D2, 0x30D5, 0x30D8, 0x30DB]), (0xFF94, [0x30E4, 0x30E6]),
    (0xFF9C, [0x30EF, 0x30F3]), (0xFFA4, [0x1102]), (0xFFA6, [0x11AD]), (0xFFB0, [0x111A]),
    (0xFFB4, [0x1121]), (0xFFE2, [0xAC]), (0xFFE4, [0xA6, 0xA5, 0x20A9]), (0xFFE8, [0x2502]),
    (0xFFED, [0x25A0, 0x25CB]), (0x10595, [0x105BC]), (0x10783, [0xE6, 0x299, 0x253]),
    (0x10788, [0xAB66]), (0x1078A, [0x2A4]),
    (0x1078D, [0x1D91, 0x258, 0x25E, 0x2A9, 0x264, 0x262, 0x260, 0x29B]),
    (0x10795, [0x127, 0x29C, 0x267, 0x284]),
    (0x1079B, [0x26C, 0x1DF04, 0xA78E, 0x26E, 0x1DF05, 0x28E, 0x1DF06, 0xF8]),
    (0x107A5, [0x71, 0x27A, 0x1DF08]),
    (0x107AA, [0x280, 0x2A8, 0x2A6, 0xAB67, 0x2A7, 0x288, 0x2C71]), (0x107B2, [0x28F]),
    (0x107B5, [0x298]), (0x107B9, [0x1DF0A, 0x1DF1E]), (0x1D49F, [0x64]), (0x1D4A2, [0x67]),
    (0x1D546, [0x6F]), (0x1D6A4, [0x131, 0x237]), (0x1D6B9, [0x3B8]), (0x1D6C1, [0x2207]),
    (0x1D6D3, [0x3C3]), (0x1D6DB, [0x2202, 0x3B5, 0x3B8, 0x3BA, 0x3C6, 0x3C1, 0x3C0]),
    (0x1D6F3, [0x3B8]), (0x1D6FB, [0x2207]), (0x1D70D, [0x3C3]),
    (0x1D715, [0x2202, 0x3B5, 0x3B8, 0x3BA, 0x3C6, 0x3C1, 0x3C0]), (0x1D72D, [0x3B8]),
    (0x1D735, [0x2207]), (0x1D747, [0x3C3]),
    (0x1D74F, [0x2202, 0x3B5, 0x3B8, 0x3BA, 0x3C6, 0x3C1, 0x3C0]), (0x1D767, [0x3B8]),
    (0x1D76F, [0x2207]), (0x1D781, [0x3C3]),
    (0x1D789, [0x2202, 0x3B5, 0x3B8, 0x3BA, 0x3C6, 0x3C1, 0x3C0]), (0x1D7A1, [0x3B8]),
    (0x1D7A9, [0x2207]), (0x1D7BB, [0x3C3]),
    (0x1D7C3, [0x2202, 0x3B5, 0x3B8, 0x3BA, 0x3C6, 0x3C1, 0x3C0, 0x3DD]), (0x1D7CB, [0x3DD]),
    (0x1E047, [0x44B]), (0x1E04A, [0xA689, 0x4D9, 0x456, 0x458, 0x4E9, 0x4AF, 0x4CF]),
    (0x1E05E, [0x441]), (0x1E067, [0x491, 0x456, 0x455, 0x45F, 0x4AB, 0xA651, 0x4B1]),
    (0x1EE02, [0x62C, 0x62F]), (0x1EE05, [0x648, 0x632, 0x62D, 0x637, 0x64A]),
    (0x1EE0E, [0x633, 0x639, 0x641, 0x635, 0x642, 0x631, 0x634]),
    (0x1EE17, [0x62E, 0x630, 0x636, 0x638, 0x63A, 0x66E, 0x6BA, 0x6A1]), (0x1EE1F, [0x66F]),
    (0x1EE21, [0x628, 0x62C]), (0x1EE24, [0x647]), (0x1EE27, [0x62D]), (0x1EE29, [0x64A]),
    (0x1EE2E, [0x633, 0x639, 0x641, 0x635, 0x642]), (0x1EE34, [0x634]), (0x1EE37, [0x62E]),
    (0x1EE39, [0x636]), (0x1EE3B, [0x63A]), (0x1EE42, [0x62C]), (0x1EE47, [0x62D]),
    (0x1EE49, [0x64A]), (0x1EE4E, [0x633, 0x639]), (0x1EE51, [0x635, 0x642]), (0x1EE54, [0x634]),
    (0x1EE57, [0x62E]), (0x1EE59, [0x636]), (0x1EE5B, [0x63A]), (0x1EE5D, [0x6BA]),
    (0x1EE5F, [0x66F]), (0x1EE61, [0x628, 0x62C]), (0x1EE64, [0x647]),
    (0x1EE67, [0x62D, 0x637, 0x64A]), (0x1EE6D, [0x646, 0x633, 0x639, 0x641, 0x635, 0x642]),
    (0x1EE74, [0x634]), (0x1EE77, [0x62E]), (0x1EE79, [0x636, 0x638, 0x63A, 0x66E]),
    (0x1EE7E, [0x6A1]), (0x1EE82, [0x62C, 0x62F]), (0x1EE86, [0x632, 0x62D, 0x637, 0x64A]),
    (0x1EE8E, [0x633, 0x639, 0x641, 0x635, 0x642, 0x631, 0x634]),
    (0x1EE97, [0x62E, 0x630, 0x636, 0x638, 0x63A]), (0x1EEA1, [0x628, 0x62C, 0x62F]),
    (0x1EEA5, [0x648, 0x632, 0x62D, 0x637, 0x64A]),
    (0x1EEAE, [0x633, 0x639, 0x641, 0x635, 0x642, 0x631, 0x634]),
    (0x1EEB7, [0x62E, 0x630, 0x636, 0x638, 0x63A]), (0x1F12B, [0x63, 0x72]), (0x1F202, [0x30B5]),
    (0x1F210, [0x624B, 0x5B57, 0x53CC, 0x30C7, 0x4E8C, 0x591A, 0x89E3, 0x5929]),
    (0x1F218, [0x4EA4, 0x6620, 0x7121, 0x6599, 0x524D, 0x5F8C, 0x518D, 0x65B0]),
    (0x1F220, [0x521D, 0x7D42, 0x751F, 0x8CA9, 0x58F0, 0x5439, 0x6F14, 0x6295]),
    (0x1F228, [0x6355, 0x4E00, 0x4E09, 0x904A, 0x5DE6, 0x4E2D, 0x53F3, 0x6307]),
    (0x1F230, [0x8D70, 0x6253, 0x7981, 0x7A7A, 0x5408, 0x6E80, 0x6709, 0x6708]),
    (0x1F238, [0x7533, 0x5272, 0x55B6, 0x914D]), (0x1F250, [0x5F97, 0x53EF]),
    (0x2F800, [0x4E3D, 0x4E38, 0x4E41, 0x20122, 0x4F60, 0x4FAE, 0x4FBB, 0x5002]),
    (0x2F808, [0x507A, 0x5099, 0x50E7, 0x50CF, 0x349E, 0x2063A, 0x514D, 0x5154]),
    (0x2F810, [0x5164, 0x5177, 0x2051C, 0x34B9, 0x5167, 0x518D, 0x2054B, 0x5197]),
    (0x2F818, [0x51A4, 0x4ECC, 0x51AC, 0x51B5, 0x291DF, 0x51F5, 0x5203, 0x34DF]),
    (0x2F820, [0x523B, 0x5246, 0x5272, 0x5277, 0x3515, 0x52C7, 0x52C9, 0x52E4]),
    (0x2F828, [0x52FA]), (0x2F82B, [0x5317, 0x5349, 0x5351, 0x535A, 0x5373]), (0x2F831, [0x537F]),
    (0x2F833, [0x537F, 0x20A2C, 0x7070, 0x53CA, 0x53DF, 0x20B63, 0x53EB, 0x53F1]),
    (0x2F83B, [0x5406, 0x549E, 0x5438, 0x5448, 0x5468, 0x54A2, 0x54F6, 0x5510]),
    (0x2F843, [0x5553, 0x5563, 0x5584, 0x5584, 0x5599, 0x55AB, 0x55B3, 0x55C2]),
    (0x2F84B, [0x5716, 0x5606, 0x5717, 0x5651, 0x5674, 0x5207, 0x58EE, 0x57CE]),
    (0x2F853, [0x57F4, 0x580D, 0x578B, 0x5832, 0x5831, 0x58AC, 0x214E4, 0x58F2]),
    (0x2F85B, [0x58F7, 0x5906, 0x591A, 0x5922, 0x5962, 0x216A8, 0x216EA, 0x59EC]),
    (0x2F863, [0x5A1B, 0x5A27, 0x59D8, 0x5A66, 0x36EE, 0x36FC, 0x5B08, 0x5B3E]),
    (0x2F86B, [0x5B3E, 0x219C8, 0x5BC3, 0x5BD8, 0x5BE7, 0x5BF3, 0x21B18, 0x5BFF]),
    (0x2F873, [0x5C06, 0x5F53, 0x5C22, 0x3781, 0x5C60, 0x5C6E, 0x5CC0, 0x5C8D]),
    (0x2F87C, [0x5D43]), (0x2F87E, [0x5D6E, 0x5D6B, 0x5D7C]),
    (0x2F883, [0x382F, 0x5DFD, 0x5E28, 0x5E3D, 0x5E69, 0x3862, 0x22183, 0x387C]),
    (0x2F88B, [0x5EB0, 0x5EB3, 0x5EB6, 0x5ECA, 0x2A392, 0x5EFE, 0x22331, 0x22331]),
    (0x2F893, [0x8201, 0x5F22, 0x5F22, 0x38C7, 0x232B8, 0x261DA, 0x5F62, 0x5F6B]),
    (0x2F89B, [0x38E3, 0x5F9A, 0x5FCD, 0x5FD7, 0x5FF9, 0x6081, 0x393A, 0x391C]),
    (0x2F8A3, [0x6094, 0x226D4, 0x60C7, 0x6148, 0x614C, 0x614E, 0x614C, 0x617A]),
    (0x2F8AB, [0x618E, 0x61B2, 0x61A4, 0x61AF, 0x61DE, 0x61F2, 0x61F6, 0x6210]),
    (0x2F8B3, [0x621B, 0x625D, 0x62B1, 0x62D4, 0x6350, 0x22B0C, 0x633D, 0x62FC]),
    (0x2F8BB, [0x6368, 0x6383, 0x63E4, 0x22BF1, 0x6422, 0x63C5, 0x63A9, 0x3A2E]),
    (0x2F8C3, [0x6469, 0x647E, 0x649D, 0x6477, 0x3A6C, 0x654F, 0x656C, 0x2300A]),
    (0x2F8CB, [0x65E3, 0x66F8, 0x6649, 0x3B19, 0x6691, 0x3B08, 0x3AE4, 0x5192]),
    (0x2F8D3, [0x5195, 0x6700, 0x669C, 0x80AD, 0x43D9, 0x6717, 0x671B, 0x6721]),
    (0x2F8DB, [0x675E, 0x6753, 0x233C3, 0x3B49, 0x67FA, 0x6785, 0x6852, 0x6885]),
    (0x2F8E3, [0x2346D, 0x688E, 0x681F, 0x6914, 0x3B9D, 0x6942, 0x69A3, 0x69EA]),
    (0x2F8EB, [0x6AA8, 0x236A3, 0x6ADB, 0x3C18, 0x6B21, 0x238A7, 0x6B54, 0x3C4E]),
    (0x2F8F3, [0x6B72, 0x6B9F]),
    (0x2F8F7, [0x23A8D, 0x21D0B, 0x23AFA, 0x6C4E, 0x23CBC, 0x6CBF, 0x6CCD, 0x6C67]),
    (0x2F8FF, [0x6D16, 0x6D3E, 0x6D77, 0x6D41, 0x6D69, 0x6D78, 0x6D85, 0x23D1E]),
    (0x2F907, [0x6D34, 0x6E2F, 0x6E6E, 0x3D33, 0x6ECB, 0x6EC7, 0x23ED1, 0x6DF9]),
    (0x2F90F, [0x6F6E, 0x23F5E, 0x23F8E, 0x6FC6, 0x7039, 0x701E, 0x701B, 0x3D96]),
    (0x2F917, [0x704A, 0x707D, 0x7077, 0x70AD, 0x20525, 0x7145, 0x24263, 0x719C]),
    (0x2F91F, [0x243AB, 0x7228, 0x7235, 0x7250, 0x24608, 0x7280, 0x7295, 0x24735]),
    (0x2F927, [0x24814, 0x737A, 0x738B, 0x3EAC, 0x73A5, 0x3EB8, 0x3EB8, 0x7447]),
    (0x2F92F, [0x745C, 0x7471, 0x7485, 0x74CA, 0x3F1B, 0x7524, 0x24C36, 0x753E]),
    (0x2F937, [0x24C92, 0x7570, 0x2219F, 0x7610, 0x24FA1, 0x24FB8, 0x25044, 0x3FFC]),
    (0x2F93F, [0x4008, 0x76F4, 0x250F3, 0x250F2, 0x25119, 0x25133]),
    (0x2F947, [0x771F, 0x774A, 0x4039, 0x778B, 0x4046, 0x4096, 0x2541D, 0x784E]),
    (0x2F94F, [0x788C, 0x78CC, 0x40E3, 0x25626, 0x7956, 0x2569A, 0x256C5, 0x798F]),
    (0x2F957, [0x79EB, 0x412F, 0x7A40, 0x7A4A, 0x7A4F, 0x2597C, 0x25AA7, 0x25AA7]),
    (0x2F95F, [0x7AEE, 0x4202, 0x25BAB, 0x7BC6, 0x7BC9, 0x4227, 0x25C80, 0x7CD2]),
    (0x2F967, [0x42A0, 0x7CE8, 0x7CE3, 0x7D00, 0x25F86, 0x7D63, 0x4301, 0x7DC7]),
    (0x2F96F, [0x7E02, 0x7E45, 0x4334, 0x26228, 0x26247, 0x4359, 0x262D9, 0x7F7A]),
    (0x2F977, [0x2633E, 0x7F95, 0x7FFA, 0x8005, 0x264DA, 0x26523, 0x8060, 0x265A8]),
    (0x2F97F, [0x8070, 0x2335F, 0x43D5, 0x80B2, 0x8103, 0x440B, 0x813E, 0x5AB5]),
    (0x2F987, [0x267A7, 0x267B5, 0x23393, 0x2339C, 0x8201, 0x8204, 0x8F9E, 0x446B]),
    (0x2F98F, [0x8291, 0x828B, 0x829D, 0x52B3, 0x82B1, 0x82B3, 0x82BD, 0x82E6]),
    (0x2F997, [0x26B3C, 0x82E5, 0x831D, 0x8363, 0x83AD, 0x8323, 0x83BD, 0x83E7]),
    (0x2F99F, [0x8457, 0x8353, 0x83CA, 0x83CC, 0x83DC, 0x26C36, 0x26D6B, 0x26CD5]),
    (0x2F9A7, [0x452B, 0x84F1, 0x84F3, 0x8516, 0x273CA, 0x8564, 0x26F2C, 0x455D]),
    (0x2F9AF, [0x4561, 0x26FB1, 0x270D2, 0x456B, 0x8650, 0x865C, 0x8667, 0x8669]),
    (0x2F9B7, [0x86A9, 0x8688, 0x870E, 0x86E2, 0x8779, 0x8728, 0x876B, 0x8786]),
    (0x2F9BF, [0x45D7, 0x87E1, 0x8801, 0x45F9, 0x8860, 0x8863, 0x27667, 0x88D7]),
    (0x2F9C7, [0x88DE, 0x4635, 0x88FA, 0x34BB, 0x278AE, 0x27966, 0x46BE, 0x46C7]),
    (0x2F9CF, [0x8AA0, 0x8AED, 0x8B8A, 0x8C55, 0x27CA8, 0x8CAB, 0x8CC1, 0x8D1B]),
    (0x2F9D7, [0x8D77, 0x27F2F, 0x20804, 0x8DCB, 0x8DBC, 0x8DF0, 0x208DE, 0x8ED4]),
    (0x2F9DF, [0x8F38, 0x285D2, 0x285ED, 0x9094, 0x90F1, 0x9111, 0x2872E, 0x911B]),
    (0x2F9E7, [0x9238]),
    (0x2F9EA, [0x927C, 0x93F9, 0x9415, 0x28BFA, 0x958B, 0x4995, 0x95B7, 0x28D77]),
    (0x2F9F2, [0x49E6, 0x96C3, 0x5DB2, 0x9723, 0x29145, 0x2921A, 0x4A6E, 0x4A76]),
    (0x2F9FA, [0x97E0, 0x2940A, 0x4AB2, 0x29496, 0x980B, 0x980B, 0x9829, 0x295B6]),
    (0x2FA02, [0x98E2, 0x4B33, 0x9929, 0x99A7, 0x99C2, 0x99FE, 0x4BCE, 0x29B30]),
    (0x2FA0A, [0x9B12, 0x9C40, 0x9CFD, 0x4CCE, 0x4CED, 0x9D67, 0x2A0CE, 0x4CF8]),
    (0x2FA12, [0x2A105, 0x2A20E, 0x2A291, 0x9EBB, 0x4D56, 0x9EF9, 0x9EFE, 0x9F05]),
    (0x2FA1A, [0x9F0F, 0x9F16, 0x9F3B, 0x2A600])]

/-- Rows of characters with one image each: the first one and the images. -/
def domainRows : List (Nat × List Nat) :=
  domainRows1 ++ domainRows2

def domainSequences1 : List (Nat × List Nat) := [
    (0xBC, [0x31, 0x2044, 0x34]), (0xBD, [0x31, 0x2044, 0x32]), (0xBE, [0x33, 0x2044, 0x34]),
    (0x130, [0x69, 0x307]), (0x132, [0x69, 0x6A]), (0x133, [0x69, 0x6A]), (0x13F, [0x6C, 0xB7]),
    (0x140, [0x6C, 0xB7]), (0x149, [0x2BC, 0x6E]), (0x1C4, [0x64, 0x17E]), (0x1C5, [0x64, 0x17E]),
    (0x1C6, [0x64, 0x17E]), (0x1C7, [0x6C, 0x6A]), (0x1C8, [0x6C, 0x6A]), (0x1C9, [0x6C, 0x6A]),
    (0x1CA, [0x6E, 0x6A]), (0x1CB, [0x6E, 0x6A]), (0x1CC, [0x6E, 0x6A]), (0x1F1, [0x64, 0x7A]),
    (0x1F2, [0x64, 0x7A]), (0x1F3, [0x64, 0x7A]), (0x344, [0x308, 0x301]),
    (0x587, [0x565, 0x582]), (0x675, [0x627, 0x674]), (0x676, [0x648, 0x674]),
    (0x677, [0x6C7, 0x674]), (0x678, [0x64A, 0x674]), (0x958, [0x915, 0x93C]),
    (0x959, [0x916, 0x93C]), (0x95A, [0x917, 0x93C]), (0x95B, [0x91C, 0x93C]),
    (0x95C, [0x921, 0x93C]), (0x95D, [0x922, 0x93C]), (0x95E, [0x92B, 0x93C]),
    (0x95F, [0x92F, 0x93C]), (0x9DC, [0x9A1, 0x9BC]), (0x9DD, [0x9A2, 0x9BC]),
    (0x9DF, [0x9AF, 0x9BC]), (0xA33, [0xA32, 0xA3C]), (0xA36, [0xA38, 0xA3C]),
    (0xA59, [0xA16, 0xA3C]), (0xA5A, [0xA17, 0xA3C]), (0xA5B, [0xA1C, 0xA3C]),
    (0xA5E, [0xA2B, 0xA3C]), (0xB5C, [0xB21, 0xB3C]), (0xB5D, [0xB22, 0xB3C]),
    (0xE33, [0xE4D, 0xE32]), (0xEB3, [0xECD, 0xEB2]), (0xEDC, [0xEAB, 0xE99]),
    (0xEDD, [0xEAB, 0xEA1]), (0xF43, [0xF42, 0xFB7]), (0xF4D, [0xF4C, 0xFB7]),
    (0xF52, [0xF51, 0xFB7]), (0xF57, [0xF56, 0xFB7]), (0xF5C, [0xF5B, 0xFB7]),
    (0xF69, [0xF40, 0xFB5]), (0xF73, [0xF71, 0xF72]), (0xF75, [0xF71, 0xF74]),
    (0xF76, [0xFB2, 0xF80]), (0xF77, [0xFB2, 0xF71, 0xF80]), (0xF78, [0xFB3, 0xF80]),
    (0xF79, [0xFB3, 0xF71, 0xF80]), (0xF81, [0xF71, 0xF80]), (0xF93, [0xF92, 0xFB7]),
    (0xF9D, [0xF9C, 0xFB7]), (0xFA2, [0xFA1, 0xFB7]), (0xFA7, [0xFA6, 0xFB7]),
    (0xFAC, [0xFAB, 0xFB7]), (0xFB9, [0xF90, 0xFB5]), (0x1E9A, [0x61, 0x2BE]),
    (0x1F80, [0x1F00, 0x3B9]), (0x1F81, [0x1F01, 0x3B9]), (0x1F82, [0x1F02, 0x3B9]),
    (0x1F83, [0x1F03, 0x3B9]), (0x1F84, [0x1F04, 0x3B9]), (0x1F85, [0x1F05, 0x3B9]),
    (0x1F86, [0x1F06, 0x3B9]), (0x1F87, [0x1F07, 0x3B9]), (0x1F88, [0x1F00, 0x3B9]),
    (0x1F89, [0x1F01, 0x3B9]), (0x1F8A, [0x1F02, 0x3B9]), (0x1F8B, [0x1F03, 0x3B9]),
    (0x1F8C, [0x1F04, 0x3B9]), (0x1F8D, [0x1F05, 0x3B9]), (0x1F8E, [0x1F06, 0x3B9]),
    (0x1F8F, [0x1F07, 0x3B9]), (0x1F90, [0x1F20, 0x3B9]), (0x1F91, [0x1F21, 0x3B9]),
    (0x1F92, [0x1F22, 0x3B9]), (0x1F93, [0x1F23, 0x3B9]), (0x1F94, [0x1F24, 0x3B9]),
    (0x1F95, [0x1F25, 0x3B9]), (0x1F96, [0x1F26, 0x3B9]), (0x1F97, [0x1F27, 0x3B9]),
    (0x1F98, [0x1F20, 0x3B9]), (0x1F99, [0x1F21, 0x3B9]), (0x1F9A, [0x1F22, 0x3B9]),
    (0x1F9B, [0x1F23, 0x3B9]), (0x1F9C, [0x1F24, 0x3B9]), (0x1F9D, [0x1F25, 0x3B9]),
    (0x1F9E, [0x1F26, 0x3B9]), (0x1F9F, [0x1F27, 0x3B9]), (0x1FA0, [0x1F60, 0x3B9]),
    (0x1FA1, [0x1F61, 0x3B9]), (0x1FA2, [0x1F62, 0x3B9]), (0x1FA3, [0x1F63, 0x3B9]),
    (0x1FA4, [0x1F64, 0x3B9]), (0x1FA5, [0x1F65, 0x3B9]), (0x1FA6, [0x1F66, 0x3B9]),
    (0x1FA7, [0x1F67, 0x3B9]), (0x1FA8, [0x1F60, 0x3B9]), (0x1FA9, [0x1F61, 0x3B9]),
    (0x1FAA, [0x1F62, 0x3B9]), (0x1FAB, [0x1F63, 0x3B9]), (0x1FAC, [0x1F64, 0x3B9]),
    (0x1FAD, [0x1F65, 0x3B9]), (0x1FAE, [0x1F66, 0x3B9]), (0x1FAF, [0x1F67, 0x3B9]),
    (0x1FB2, [0x1F70, 0x3B9]), (0x1FB3, [0x3B1, 0x3B9]), (0x1FB4, [0x3AC, 0x3B9]),
    (0x1FB7, [0x1FB6, 0x3B9]), (0x1FBC, [0x3B1, 0x3B9]), (0x1FC2, [0x1F74, 0x3B9]),
    (0x1FC3, [0x3B7, 0x3B9]), (0x1FC4, [0x3AE, 0x3B9]), (0x1FC7, [0x1FC6, 0x3B9]),
    (0x1FCC, [0x3B7, 0x3B9]), (0x1FF2, [0x1F7C, 0x3B9]), (0x1FF3, [0x3C9, 0x3B9]),
    (0x1FF4, [0x3CE, 0x3B9]), (0x1FF7, [0x1FF6, 0x3B9]), (0x1FFC, [0x3C9, 0x3B9]),
    (0x2033, [0x2032, 0x2032]), (0x2034, [0x2032, 0x2032, 0x2032]), (0x2036, [0x2035, 0x2035]),
    (0x2037, [0x2035, 0x2035, 0x2035]), (0x203C, [0x21, 0x21]),
    (0x2057, [0x2032, 0x2032, 0x2032, 0x2032]), (0x20A8, [0x72, 0x73]), (0x2103, [0xB0, 0x63]),
    (0x2109, [0xB0, 0x66]), (0x2116, [0x6E, 0x6F]), (0x2120, [0x73, 0x6D]),
    (0x2121, [0x74, 0x65, 0x6C]), (0x2122, [0x74, 0x6D]), (0x213B, [0x66, 0x61, 0x78]),
    (0x2150, [0x31, 0x2044, 0x37]), (0x2151, [0x31, 0x2044, 0x39]),
    (0x2152, [0x31, 0x2044, 0x31, 0x30]), (0x2153, [0x31, 0x2044, 0x33]),
    (0x2154, [0x32, 0x2044, 0x33]), (0x2155, [0x31, 0x2044, 0x35]),
    (0x2156, [0x32, 0x2044, 0x35]), (0x2157, [0x33, 0x2044, 0x35]),
    (0x2158, [0x34, 0x2044, 0x35]), (0x2159, [0x31, 0x2044, 0x36]),
    (0x215A, [0x35, 0x2044, 0x36]), (0x215B, [0x31, 0x2044, 0x38]),
    (0x215C, [0x33, 0x2044, 0x38]), (0x215D, [0x35, 0x2044, 0x38]),
    (0x215E, [0x37, 0x2044, 0x38]), (0x215F, [0x31, 0x2044]), (0x2161, [0x69, 0x69]),
    (0x2162, [0x69, 0x69, 0x69]), (0x2163, [0x69, 0x76]), (0x2165, [0x76, 0x69]),
    (0x2166, [0x76, 0x69, 0x69]), (0x2167, [0x76, 0x69, 0x69, 0x69]), (0x2168, [0x69, 0x78]),
    (0x216A, [0x78, 0x69]), (0x216B, [0x78, 0x69, 0x69]), (0x2171, [0x69, 0x69]),
    (0x2172, [0x69, 0x69, 0x69]), (0x2173, [0x69, 0x76]), (0x2175, [0x76, 0x69]),
    (0x2176, [0x76, 0x69, 0x69]), (0x2177, [0x76, 0x69, 0x69, 0x69]), (0x2178, [0x69, 0x78]),
    (0x217A, [0x78, 0x69]), (0x217B, [0x78, 0x69, 0x69]), (0x2189, [0x30, 0x2044, 0x33]),
    (0x222C, [0x222B, 0x222B]), (0x222D, [0x222B, 0x222B, 0x222B]), (0x222F, [0x222E, 0x222E]),
    (0x2230, [0x222E, 0x222E, 0x222E]), (0x2469, [0x31, 0x30]), (0x246A, [0x31, 0x31]),
    (0x246B, [0x31, 0x32]), (0x246C, [0x31, 0x33]), (0x246D, [0x31, 0x34]),
    (0x246E, [0x31, 0x35]), (0x246F, [0x31, 0x36]), (0x2470, [0x31, 0x37]),
    (0x2471, [0x31, 0x38]), (0x2472, [0x31, 0x39]), (0x2473, [0x32, 0x30]),
    (0x2474, [0x28, 0x31, 0x29]), (0x2475, [0x28, 0x32, 0x29]), (0x2476, [0x28, 0x33, 0x29]),
    (0x2477, [0x28, 0x34, 0x29]), (0x2478, [0x28, 0x35, 0x29]), (0x2479, [0x28, 0x36, 0x29]),
    (0x247A, [0x28, 0x37, 0x29]), (0x247B, [0x28, 0x38, 0x29]), (0x247C, [0x28, 0x39, 0x29]),
    (0x247D, [0x28, 0x31, 0x30, 0x29]), (0x247E, [0x28, 0x31, 0x31, 0x29]),
    (0x247F, [0x28, 0x31, 0x32, 0x29]), (0x2480, [0x28, 0x31, 0x33, 0x29]),
    (0x2481, [0x28, 0x31, 0x34, 0x29]), (0x2482, [0x28, 0x31, 0x35, 0x29]),
    (0x2483, [0x28, 0x31, 0x36, 0x29]), (0x2484, [0x28, 0x31, 0x37, 0x29]),
    (0x2485, [0x28, 0x31, 0x38, 0x29]), (0x2486, [0x28, 0x31, 0x39, 0x29]),
    (0x2487, [0x28, 0x32, 0x30, 0x29]), (0x249C, [0x28, 0x61, 0x29]),
    (0x249D, [0x28, 0x62, 0x29]), (0x249E, [0x28, 0x63, 0x29]), (0x249F, [0x28, 0x64, 0x29]),
    (0x24A0, [0x28, 0x65, 0x29]), (0x24A1, [0x28, 0x66, 0x29]), (0x24A2, [0x28, 0x67, 0x29]),
    (0x24A3, [0x28, 0x68, 0x29]), (0x24A4, [0x28, 0x69, 0x29]), (0x24A5, [0x28, 0x6A, 0x29]),
    (0x24A6, [0x28, 0x6B, 0x29]), (0x24A7, [0x28, 0x6C, 0x29]), (0x24A8, [0x28, 0x6D, 0x29]),
    (0x24A9, [0x28, 0x6E, 0x29]), (0x24AA, [0x28, 0x6F, 0x29]), (0x24AB, [0x28, 0x70, 0x29]),
    (0x24AC, [0x28, 0x71, 0x29]), (0x24AD, [0x28, 0x72, 0x29]), (0x24AE, [0x28, 0x73, 0x29]),
    (0x24AF, [0x28, 0x74, 0x29]), (0x24B0, [0x28, 0x75, 0x29]), (0x24B1, [0x28, 0x76, 0x29]),
    (0x24B2, [0x28, 0x77, 0x29]), (0x24B3, [0x28, 0x78, 0x29]), (0x24B4, [0x28, 0x79, 0x29]),
    (0x24B5, [0x28, 0x7A, 0x29]), (0x2A0C, [0x222B, 0x222B, 0x222B, 0x222B]),
    (0x2A75, [0x3D, 0x3D]), (0x2A76, [0x3D, 0x3D, 0x3D]), (0x2ADC, [0x2ADD, 0x338]),
    (0x309F, [0x3088, 0x308A]), (0x30FF, [0x30B3, 0x30C8]), (0x3200, [0x28, 0x1100, 0x29]),
    (0x3201, [0x28, 0x1102, 0x29]), (0x3202, [0x28, 0x1103, 0x29]),
    (0x3203, [0x28, 0x1105, 0x29]), (0x3204, [0x28, 0x1106, 0x29]),
    (0x3205, [0x28, 0x1107, 0x29]), (0x3206, [0x28, 0x1109, 0x29]),
    (0x3207, [0x28, 0x110B, 0x29]), (0x3208, [0x28, 0x110C, 0x29]),
    (0x3209, [0x28, 0x110E, 0x29]), (0x320A, [0x28, 0x110F, 0x29]),
    (0x320B, [0x28, 0x1110, 0x29]), (0x320C, [0x28, 0x1111, 0x29]),
    (0x320D, [0x28, 0x1112, 0x29]), (0x320E, [0x28, 0xAC00, 0x29]),
    (0x320F, [0x28, 0xB098, 0x29]), (0x3210, [0x28, 0xB2E4, 0x29]),
    (0x3211, [0x28, 0xB77C, 0x29]), (0x3212, [0x28, 0xB9C8, 0x29]),
    (0x3213, [0x28, 0xBC14, 0x29]), (0x3214, [0x28, 0xC0AC, 0x29]),
    (0x3215, [0x28, 0xC544, 0x29]), (0x3216, [0x28, 0xC790, 0x29]),
    (0x3217, [0x28, 0xCC28, 0x29]), (0x3218, [0x28, 0xCE74, 0x29]),
    (0x3219, [0x28, 0xD0C0, 0x29]), (0x321A, [0x28, 0xD30C, 0x29]),
    (0x321B, [0x28, 0xD558, 0x29]), (0x321C, [0x28, 0xC8FC, 0x29]),
    (0x321D, [0x28, 0xC624, 0xC804, 0x29]), (0x321E, [0x28, 0xC624, 0xD6C4, 0x29]),
    (0x3220, [0x28, 0x4E00, 0x29]), (0x3221, [0x28, 0x4E8C, 0x29]),
    (0x3222, [0x28, 0x4E09, 0x29]), (0x3223, [0x28, 0x56DB, 0x29]),
    (0x3224, [0x28, 0x4E94, 0x29]), (0x3225, [0x28, 0x516D, 0x29]),
    (0x3226, [0x28, 0x4E03, 0x29]), (0x3227, [0x28, 0x516B, 0x29]),
    (0x3228, [0x28, 0x4E5D, 0x29]), (0x3229, [0x28, 0x5341, 0x29]),
    (0x322A, [0x28, 0x6708, 0x29]), (0x322B, [0x28, 0x706B, 0x29]),
    (0x322C, [0x28, 0x6C34, 0x29]), (0x322D, [0x28, 0x6728, 0x29]),
    (0x322E, [0x28, 0x91D1, 0x29]), (0x322F, [0x28, 0x571F, 0x29]),
    (0x3230, [0x28, 0x65E5, 0x29]), (0x3231, [0x28, 0x682A, 0x29]),
    (0x3232, [0x28, 0x6709, 0x29]), (0x3233, [0x28, 0x793E, 0x29]),
    (0x3234, [0x28, 0x540D, 0x29]), (0x3235, [0x28, 0x7279, 0x29]),
    (0x3236, [0x28, 0x8CA1, 0x29]), (0x3237, [0x28, 0x795D, 0x29]),
    (0x3238, [0x28, 0x52B4, 0x29]), (0x3239, [0x28, 0x4EE3, 0x29]),
    (0x323A, [0x28, 0x547C, 0x29]), (0x323B, [0x28, 0x5B66, 0x29]),
    (0x323C, [0x28, 0x76E3, 0x29]), (0x323D, [0x28, 0x4F01, 0x29]),
    (0x323E, [0x28, 0x8CC7, 0x29]), (0x323F, [0x28, 0x5354, 0x29]),
    (0x3240, [0x28, 0x796D, 0x29]), (0x3241, [0x28, 0x4F11, 0x29]),
    (0x3242, [0x28, 0x81EA, 0x29]), (0x3243, [0x28, 0x81F3, 0x29]), (0x3250, [0x70, 0x74, 0x65]),
    (0x3251, [0x32, 0x31]), (0x3252, [0x32, 0x32]), (0x3253, [0x32, 0x33]),
    (0x3254, [0x32, 0x34]), (0x3255, [0x32, 0x35]), (0x3256, [0x32, 0x36]),
    (0x3257, [0x32, 0x37]), (0x3258, [0x32, 0x38]), (0x3259, [0x32, 0x39]),
    (0x325A, [0x33, 0x30]), (0x325B, [0x33, 0x31]), (0x325C, [0x33, 0x32]),
    (0x325D, [0x33, 0x33]), (0x325E, [0x33, 0x34]), (0x325F, [0x33, 0x35]),
    (0x327C, [0xCC38, 0xACE0]), (0x327D, [0xC8FC, 0xC758]), (0x32B1, [0x33, 0x36]),
    (0x32B2, [0x33, 0x37]), (0x32B3, [0x33, 0x38]), (0x32B4, [0x33, 0x39]),
    (0x32B5, [0x34, 0x30]), (0x32B6, [0x34, 0x31]), (0x32B7, [0x34, 0x32]),
    (0x32B8, [0x34, 0x33]), (0x32B9, [0x34, 0x34]), (0x32BA, [0x34, 0x35]),
    (0x32BB, [0x34, 0x36]), (0x32BC, [0x34, 0x37]), (0x32BD, [0x34, 0x38]),
    (0x32BE, [0x34, 0x39]), (0x32BF, [0x35, 0x30]), (0x32C0, [0x31, 0x6708]),
    (0x32C1, [0x32, 0x6708]), (0x32C2, [0x33, 0x6708]), (0x32C3, [0x34, 0x6708]),
    (0x32C4, [0x35, 0x6708]), (0x32C5, [0x36, 0x6708]), (0x32C6, [0x37, 0x6708]),
    (0x32C7, [0x38, 0x6708]), (0x32C8, [0x39, 0x6708]), (0x32C9, [0x31, 0x30, 0x6708]),
    (0x32CA, [0x31, 0x31, 0x6708]), (0x32CB, [0x31, 0x32, 0x6708]), (0x32CC, [0x68, 0x67]),
    (0x32CD, [0x65, 0x72, 0x67]), (0x32CE, [0x65, 0x76]), (0x32CF, [0x6C, 0x74, 0x64]),
    (0x32FF, [0x4EE4, 0x548C]), (0x3300, [0x30A2, 0x30D1, 0x30FC, 0x30C8]),
    (0x3301, [0x30A2, 0x30EB, 0x30D5, 0x30A1]), (0x3302, [0x30A2, 0x30F3, 0x30DA, 0x30A2]),
    (0x3303, [0x30A2, 0x30FC, 0x30EB]), (0x3304, [0x30A4, 0x30CB, 0x30F3, 0x30B0]),
    (0x3305, [0x30A4, 0x30F3, 0x30C1]), (0x3306, [0x30A6, 0x30A9, 0x30F3]),
    (0x3307, [0x30A8, 0x30B9, 0x30AF, 0x30FC, 0x30C9]),
    (0x3308, [0x30A8, 0x30FC, 0x30AB, 0x30FC]), (0x3309, [0x30AA, 0x30F3, 0x30B9]),
    (0x330A, [0x30AA, 0x30FC, 0x30E0]), (0x330B, [0x30AB, 0x30A4, 0x30EA]),
    (0x330C, [0x30AB, 0x30E9, 0x30C3, 0x30C8]), (0x330D, [0x30AB, 0x30ED, 0x30EA, 0x30FC]),
    (0x330E, [0x30AC, 0x30ED, 0x30F3]), (0x330F, [0x30AC, 0x30F3, 0x30DE]),
    (0x3310, [0x30AE, 0x30AC]), (0x3311, [0x30AE, 0x30CB, 0x30FC]),
    (0x3312, [0x30AD, 0x30E5, 0x30EA, 0x30FC]), (0x3313, [0x30AE, 0x30EB, 0x30C0, 0x30FC]),
    (0x3314, [0x30AD, 0x30ED]), (0x3315, [0x30AD, 0x30ED, 0x30B0, 0x30E9, 0x30E0]),
    (0x3316, [0x30AD, 0x30ED, 0x30E1, 0x30FC, 0x30C8, 0x30EB]),
    (0x3317, [0x30AD, 0x30ED, 0x30EF, 0x30C3, 0x30C8]), (0x3318, [0x30B0, 0x30E9, 0x30E0]),
    (0x3319, [0x30B0, 0x30E9, 0x30E0, 0x30C8, 0x30F3]),
    (0x331A, [0x30AF, 0x30EB, 0x30BC, 0x30A4, 0x30ED]),
    (0x331B, [0x30AF, 0x30ED, 0x30FC, 0x30CD]), (0x331C, [0x30B1, 0x30FC, 0x30B9]),
    (0x331D, [0x30B3, 0x30EB, 0x30CA]), (0x331E, [0x30B3, 0x30FC, 0x30DD]),
    (0x331F, [0x30B5, 0x30A4, 0x30AF, 0x30EB]),
    (0x3320, [0x30B5, 0x30F3, 0x30C1, 0x30FC, 0x30E0]),
    (0x3321, [0x30B7, 0x30EA, 0x30F3, 0x30B0])]

def domainSequences2 : List (Nat × List Nat) := [
    (0x3322, [0x30BB, 0x30F3, 0x30C1]), (0x3323, [0x30BB, 0x30F3, 0x30C8]),
    (0x3324, [0x30C0, 0x30FC, 0x30B9]), (0x3325, [0x30C7, 0x30B7]), (0x3326, [0x30C9, 0x30EB]),
    (0x3327, [0x30C8, 0x30F3]), (0x3328, [0x30CA, 0x30CE]), (0x3329, [0x30CE, 0x30C3, 0x30C8]),
    (0x332A, [0x30CF, 0x30A4, 0x30C4]), (0x332B, [0x30D1, 0x30FC, 0x30BB, 0x30F3, 0x30C8]),
    (0x332C, [0x30D1, 0x30FC, 0x30C4]), (0x332D, [0x30D0, 0x30FC, 0x30EC, 0x30EB]),
    (0x332E, [0x30D4, 0x30A2, 0x30B9, 0x30C8, 0x30EB]), (0x332F, [0x30D4, 0x30AF, 0x30EB]),
    (0x3330, [0x30D4, 0x30B3]), (0x3331, [0x30D3, 0x30EB]),
    (0x3332, [0x30D5, 0x30A1, 0x30E9, 0x30C3, 0x30C9]),
    (0x3333, [0x30D5, 0x30A3, 0x30FC, 0x30C8]),
    (0x3334, [0x30D6, 0x30C3, 0x30B7, 0x30A7, 0x30EB]), (0x3335, [0x30D5, 0x30E9, 0x30F3]),
    (0x3336, [0x30D8, 0x30AF, 0x30BF, 0x30FC, 0x30EB]), (0x3337, [0x30DA, 0x30BD]),
    (0x3338, [0x30DA, 0x30CB, 0x30D2]), (0x3339, [0x30D8, 0x30EB, 0x30C4]),
    (0x333A, [0x30DA, 0x30F3, 0x30B9]), (0x333B, [0x30DA, 0x30FC, 0x30B8]),
    (0x333C, [0x30D9, 0x30FC, 0x30BF]), (0x333D, [0x30DD, 0x30A4, 0x30F3, 0x30C8]),
    (0x333E, [0x30DC, 0x30EB, 0x30C8]), (0x333F, [0x30DB, 0x30F3]),
    (0x3340, [0x30DD, 0x30F3, 0x30C9]), (0x3341, [0x30DB, 0x30FC, 0x30EB]),
    (0x3342, [0x30DB, 0x30FC, 0x30F3]), (0x3343, [0x30DE, 0x30A4, 0x30AF, 0x30ED]),
    (0x3344, [0x30DE, 0x30A4, 0x30EB]), (0x3345, [0x30DE, 0x30C3, 0x30CF]),
    (0x3346, [0x30DE, 0x30EB, 0x30AF]), (0x3347, [0x30DE, 0x30F3, 0x30B7, 0x30E7, 0x30F3]),
    (0x3348, [0x30DF, 0x30AF, 0x30ED, 0x30F3]), (0x3349, [0x30DF, 0x30EA]),
    (0x334A, [0x30DF, 0x30EA, 0x30D0, 0x30FC, 0x30EB]), (0x334B, [0x30E1, 0x30AC]),
    (0x334C, [0x30E1, 0x30AC, 0x30C8, 0x30F3]), (0x334D, [0x30E1, 0x30FC, 0x30C8, 0x30EB]),
    (0x334E, [0x30E4, 0x30FC, 0x30C9]), (0x334F, [0x30E4, 0x30FC, 0x30EB]),
    (0x3350, [0x30E6, 0x30A2, 0x30F3]), (0x3351, [0x30EA, 0x30C3, 0x30C8, 0x30EB]),
    (0x3352, [0x30EA, 0x30E9]), (0x3353, [0x30EB, 0x30D4, 0x30FC]),
    (0x3354, [0x30EB, 0x30FC, 0x30D6, 0x30EB]), (0x3355, [0x30EC, 0x30E0]),
    (0x3356, [0x30EC, 0x30F3, 0x30C8, 0x30B2, 0x30F3]), (0x3357, [0x30EF, 0x30C3, 0x30C8]),
    (0x3358, [0x30, 0x70B9]), (0x3359, [0x31, 0x70B9]), (0x335A, [0x32, 0x70B9]),
    (0x335B, [0x33, 0x70B9]), (0x335C, [0x34, 0x70B9]), (0x335D, [0x35, 0x70B9]),
    (0x335E, [0x36, 0x70B9]), (0x335F, [0x37, 0x70B9]), (0x3360, [0x38, 0x70B9]),
    (0x3361, [0x39, 0x70B9]), (0x3362, [0x31, 0x30, 0x70B9]), (0x3363, [0x31, 0x31, 0x70B9]),
    (0x3364, [0x31, 0x32, 0x70B9]), (0x3365, [0x31, 0x33, 0x70B9]),
    (0x3366, [0x31, 0x34, 0x70B9]), (0x3367, [0x31, 0x35, 0x70B9]),
    (0x3368, [0x31, 0x36, 0x70B9]), (0x3369, [0x31, 0x37, 0x70B9]),
    (0x336A, [0x31, 0x38, 0x70B9]), (0x336B, [0x31, 0x39, 0x70B9]),
    (0x336C, [0x32, 0x30, 0x70B9]), (0x336D, [0x32, 0x31, 0x70B9]),
    (0x336E, [0x32, 0x32, 0x70B9]), (0x336F, [0x32, 0x33, 0x70B9]),
    (0x3370, [0x32, 0x34, 0x70B9]), (0x3371, [0x68, 0x70, 0x61]), (0x3372, [0x64, 0x61]),
    (0x3373, [0x61, 0x75]), (0x3374, [0x62, 0x61, 0x72]), (0x3375, [0x6F, 0x76]),
    (0x3376, [0x70, 0x63]), (0x3377, [0x64, 0x6D]), (0x3378, [0x64, 0x6D, 0x32]),
    (0x3379, [0x64, 0x6D, 0x33]), (0x337A, [0x69, 0x75]), (0x337B, [0x5E73, 0x6210]),
    (0x337C, [0x662D, 0x548C]), (0x337D, [0x5927, 0x6B63]), (0x337E, [0x660E, 0x6CBB]),
    (0x337F, [0x682A, 0x5F0F, 0x4F1A, 0x793E]), (0x3380, [0x70, 0x61]), (0x3381, [0x6E, 0x61]),
    (0x3382, [0x3BC, 0x61]), (0x3383, [0x6D, 0x61]), (0x3384, [0x6B, 0x61]),
    (0x3385, [0x6B, 0x62]), (0x3386, [0x6D, 0x62]), (0x3387, [0x67, 0x62]),
    (0x3388, [0x63, 0x61, 0x6C]), (0x3389, [0x6B, 0x63, 0x61, 0x6C]), (0x338A, [0x70, 0x66]),
    (0x338B, [0x6E, 0x66]), (0x338C, [0x3BC, 0x66]), (0x338D, [0x3BC, 0x67]),
    (0x338E, [0x6D, 0x67]), (0x338F, [0x6B, 0x67]), (0x3390, [0x68, 0x7A]),
    (0x3391, [0x6B, 0x68, 0x7A]), (0x3392, [0x6D, 0x68, 0x7A]), (0x3393, [0x67, 0x68, 0x7A]),
    (0x3394, [0x74, 0x68, 0x7A]), (0x3395, [0x3BC, 0x6C]), (0x3396, [0x6D, 0x6C]),
    (0x3397, [0x64, 0x6C]), (0x3398, [0x6B, 0x6C]), (0x3399, [0x66, 0x6D]),
    (0x339A, [0x6E, 0x6D]), (0x339B, [0x3BC, 0x6D]), (0x339C, [0x6D, 0x6D]),
    (0x339D, [0x63, 0x6D]), (0x339E, [0x6B, 0x6D]), (0x339F, [0x6D, 0x6D, 0x32]),
    (0x33A0, [0x63, 0x6D, 0x32]), (0x33A1, [0x6D, 0x32]), (0x33A2, [0x6B, 0x6D, 0x32]),
    (0x33A3, [0x6D, 0x6D, 0x33]), (0x33A4, [0x63, 0x6D, 0x33]), (0x33A5, [0x6D, 0x33]),
    (0x33A6, [0x6B, 0x6D, 0x33]), (0x33A7, [0x6D, 0x2215, 0x73]),
    (0x33A8, [0x6D, 0x2215, 0x73, 0x32]), (0x33A9, [0x70, 0x61]), (0x33AA, [0x6B, 0x70, 0x61]),
    (0x33AB, [0x6D, 0x70, 0x61]), (0x33AC, [0x67, 0x70, 0x61]), (0x33AD, [0x72, 0x61, 0x64]),
    (0x33AE, [0x72, 0x61, 0x64, 0x2215, 0x73]), (0x33AF, [0x72, 0x61, 0x64, 0x2215, 0x73, 0x32]),
    (0x33B0, [0x70, 0x73]), (0x33B1, [0x6E, 0x73]), (0x33B2, [0x3BC, 0x73]),
    (0x33B3, [0x6D, 0x73]), (0x33B4, [0x70, 0x76]), (0x33B5, [0x6E, 0x76]),
    (0x33B6, [0x3BC, 0x76]), (0x33B7, [0x6D, 0x76]), (0x33B8, [0x6B, 0x76]),
    (0x33B9, [0x6D, 0x76]), (0x33BA, [0x70, 0x77]), (0x33BB, [0x6E, 0x77]),
    (0x33BC, [0x3BC, 0x77]), (0x33BD, [0x6D, 0x77]), (0x33BE, [0x6B, 0x77]),
    (0x33BF, [0x6D, 0x77]), (0x33C0, [0x6B, 0x3C9]), (0x33C1, [0x6D, 0x3C9]),
    (0x33C3, [0x62, 0x71]), (0x33C4, [0x63, 0x63]), (0x33C5, [0x63, 0x64]),
    (0x33C6, [0x63, 0x2215, 0x6B, 0x67]), (0x33C8, [0x64, 0x62]), (0x33C9, [0x67, 0x79]),
    (0x33CA, [0x68, 0x61]), (0x33CB, [0x68, 0x70]), (0x33CC, [0x69, 0x6E]),
    (0x33CD, [0x6B, 0x6B]), (0x33CE, [0x6B, 0x6D]), (0x33CF, [0x6B, 0x74]),
    (0x33D0, [0x6C, 0x6D]), (0x33D1, [0x6C, 0x6E]), (0x33D2, [0x6C, 0x6F, 0x67]),
    (0x33D3, [0x6C, 0x78]), (0x33D4, [0x6D, 0x62]), (0x33D5, [0x6D, 0x69, 0x6C]),
    (0x33D6, [0x6D, 0x6F, 0x6C]), (0x33D7, [0x70, 0x68]), (0x33D9, [0x70, 0x70, 0x6D]),
    (0x33DA, [0x70, 0x72]), (0x33DB, [0x73, 0x72]), (0x33DC, [0x73, 0x76]),
    (0x33DD, [0x77, 0x62]), (0x33DE, [0x76, 0x2215, 0x6D]), (0x33DF, [0x61, 0x2215, 0x6D]),
    (0x33E0, [0x31, 0x65E5]), (0x33E1, [0x32, 0x65E5]), (0x33E2, [0x33, 0x65E5]),
    (0x33E3, [0x34, 0x65E5]), (0x33E4, [0x35, 0x65E5]), (0x33E5, [0x36, 0x65E5]),
    (0x33E6, [0x37, 0x65E5]), (0x33E7, [0x38, 0x65E5]), (0x33E8, [0x39, 0x65E5]),
    (0x33E9, [0x31, 0x30, 0x65E5]), (0x33EA, [0x31, 0x31, 0x65E5]),
    (0x33EB, [0x31, 0x32, 0x65E5]), (0x33EC, [0x31, 0x33, 0x65E5]),
    (0x33ED, [0x31, 0x34, 0x65E5]), (0x33EE, [0x31, 0x35, 0x65E5]),
    (0x33EF, [0x31, 0x36, 0x65E5]), (0x33F0, [0x31, 0x37, 0x65E5]),
    (0x33F1, [0x31, 0x38, 0x65E5]), (0x33F2, [0x31, 0x39, 0x65E5]),
    (0x33F3, [0x32, 0x30, 0x65E5]), (0x33F4, [0x32, 0x31, 0x65E5]),
    (0x33F5, [0x32, 0x32, 0x65E5]), (0x33F6, [0x32, 0x33, 0x65E5]),
    (0x33F7, [0x32, 0x34, 0x65E5]), (0x33F8, [0x32, 0x35, 0x65E5]),
    (0x33F9, [0x32, 0x36, 0x65E5]), (0x33FA, [0x32, 0x37, 0x65E5]),
    (0x33FB, [0x32, 0x38, 0x65E5]), (0x33FC, [0x32, 0x39, 0x65E5]),
    (0x33FD, [0x33, 0x30, 0x65E5]), (0x33FE, [0x33, 0x31, 0x65E5]), (0x33FF, [0x67, 0x61, 0x6C]),
    (0xFB00, [0x66, 0x66]), (0xFB01, [0x66, 0x69]), (0xFB02, [0x66, 0x6C]),
    (0xFB03, [0x66, 0x66, 0x69]), (0xFB04, [0x66, 0x66, 0x6C]), (0xFB05, [0x73, 0x74]),
    (0xFB06, [0x73, 0x74]), (0xFB13, [0x574, 0x576]), (0xFB14, [0x574, 0x565]),
    (0xFB15, [0x574, 0x56B]), (0xFB16, [0x57E, 0x576]), (0xFB17, [0x574, 0x56D]),
    (0xFB1D, [0x5D9, 0x5B4]), (0xFB1F, [0x5F2, 0x5B7]), (0xFB2A, [0x5E9, 0x5C1]),
    (0xFB2B, [0x5E9, 0x5C2]), (0xFB2C, [0x5E9, 0x5BC, 0x5C1]), (0xFB2D, [0x5E9, 0x5BC, 0x5C2]),
    (0xFB2E, [0x5D0, 0x5B7]), (0xFB2F, [0x5D0, 0x5B8]), (0xFB30, [0x5D0, 0x5BC]),
    (0xFB31, [0x5D1, 0x5BC]), (0xFB32, [0x5D2, 0x5BC]), (0xFB33, [0x5D3, 0x5BC]),
    (0xFB34, [0x5D4, 0x5BC]), (0xFB35, [0x5D5, 0x5BC]), (0xFB36, [0x5D6, 0x5BC]),
    (0xFB38, [0x5D8, 0x5BC]), (0xFB39, [0x5D9, 0x5BC]), (0xFB3A, [0x5DA, 0x5BC]),
    (0xFB3B, [0x5DB, 0x5BC]), (0xFB3C, [0x5DC, 0x5BC]), (0xFB3E, [0x5DE, 0x5BC]),
    (0xFB40, [0x5E0, 0x5BC]), (0xFB41, [0x5E1, 0x5BC]), (0xFB43, [0x5E3, 0x5BC]),
    (0xFB44, [0x5E4, 0x5BC]), (0xFB46, [0x5E6, 0x5BC]), (0xFB47, [0x5E7, 0x5BC]),
    (0xFB48, [0x5E8, 0x5BC]), (0xFB49, [0x5E9, 0x5BC]), (0xFB4A, [0x5EA, 0x5BC]),
    (0xFB4B, [0x5D5, 0x5B9]), (0xFB4C, [0x5D1, 0x5BF]), (0xFB4D, [0x5DB, 0x5BF]),
    (0xFB4E, [0x5E4, 0x5BF]), (0xFB4F, [0x5D0, 0x5DC]), (0xFBDD, [0x6C7, 0x674]),
    (0xFBEA, [0x626, 0x627]), (0xFBEB, [0x626, 0x627]), (0xFBEC, [0x626, 0x6D5]),
    (0xFBED, [0x626, 0x6D5]), (0xFBEE, [0x626, 0x648]), (0xFBEF, [0x626, 0x648]),
    (0xFBF0, [0x626, 0x6C7]), (0xFBF1, [0x626, 0x6C7]), (0xFBF2, [0x626, 0x6C6]),
    (0xFBF3, [0x626, 0x6C6]), (0xFBF4, [0x626, 0x6C8]), (0xFBF5, [0x626, 0x6C8]),
    (0xFBF6, [0x626, 0x6D0]), (0xFBF7, [0x626, 0x6D0]), (0xFBF8, [0x626, 0x6D0]),
    (0xFBF9, [0x626, 0x649]), (0xFBFA, [0x626, 0x649]), (0xFBFB, [0x626, 0x649]),
    (0xFC00, [0x626, 0x62C]), (0xFC01, [0x626, 0x62D]), (0xFC02, [0x626, 0x645]),
    (0xFC03, [0x626, 0x649]), (0xFC04, [0x626, 0x64A]), (0xFC05, [0x628, 0x62C]),
    (0xFC06, [0x628, 0x62D]), (0xFC07, [0x628, 0x62E]), (0xFC08, [0x628, 0x645]),
    (0xFC09, [0x628, 0x649]), (0xFC0A, [0x628, 0x64A]), (0xFC0B, [0x62A, 0x62C]),
    (0xFC0C, [0x62A, 0x62D]), (0xFC0D, [0x62A, 0x62E]), (0xFC0E, [0x62A, 0x645]),
    (0xFC0F, [0x62A, 0x649]), (0xFC10, [0x62A, 0x64A]), (0xFC11, [0x62B, 0x62C]),
    (0xFC12, [0x62B, 0x645]), (0xFC13, [0x62B, 0x649]), (0xFC14, [0x62B, 0x64A]),
    (0xFC15, [0x62C, 0x62D]), (0xFC16, [0x62C, 0x645]), (0xFC17, [0x62D, 0x62C]),
    (0xFC18, [0x62D, 0x645]), (0xFC19, [0x62E, 0x62C]), (0xFC1A, [0x62E, 0x62D]),
    (0xFC1B, [0x62E, 0x645]), (0xFC1C, [0x633, 0x62C]), (0xFC1D, [0x633, 0x62D]),
    (0xFC1E, [0x633, 0x62E]), (0xFC1F, [0x633, 0x645]), (0xFC20, [0x635, 0x62D]),
    (0xFC21, [0x635, 0x645]), (0xFC22, [0x636, 0x62C]), (0xFC23, [0x636, 0x62D]),
    (0xFC24, [0x636, 0x62E]), (0xFC25, [0x636, 0x645]), (0xFC26, [0x637, 0x62D]),
    (0xFC27, [0x637, 0x645]), (0xFC28, [0x638, 0x645]), (0xFC29, [0x639, 0x62C]),
    (0xFC2A, [0x639, 0x645]), (0xFC2B, [0x63A, 0x62C]), (0xFC2C, [0x63A, 0x645]),
    (0xFC2D, [0x641, 0x62C]), (0xFC2E, [0x641, 0x62D]), (0xFC2F, [0x641, 0x62E]),
    (0xFC30, [0x641, 0x645]), (0xFC31, [0x641, 0x649]), (0xFC32, [0x641, 0x64A]),
    (0xFC33, [0x642, 0x62D]), (0xFC34, [0x642, 0x645]), (0xFC35, [0x642, 0x649]),
    (0xFC36, [0x642, 0x64A]), (0xFC37, [0x643, 0x627]), (0xFC38, [0x643, 0x62C]),
    (0xFC39, [0x643, 0x62D]), (0xFC3A, [0x643, 0x62E]), (0xFC3B, [0x643, 0x644]),
    (0xFC3C, [0x643, 0x645]), (0xFC3D, [0x643, 0x649]), (0xFC3E, [0x643, 0x64A]),
    (0xFC3F, [0x644, 0x62C]), (0xFC40, [0x644, 0x62D]), (0xFC41, [0x644, 0x62E]),
    (0xFC42, [0x644, 0x645]), (0xFC43, [0x644, 0x649]), (0xFC44, [0x644, 0x64A]),
    (0xFC45, [0x645, 0x62C]), (0xFC46, [0x645, 0x62D]), (0xFC47, [0x645, 0x62E]),
    (0xFC48, [0x645, 0x645]), (0xFC49, [0x645, 0x649]), (0xFC4A, [0x645, 0x64A]),
    (0xFC4B, [0x646, 0x62C]), (0xFC4C, [0x646, 0x62D]), (0xFC4D, [0x646, 0x62E]),
    (0xFC4E, [0x646, 0x645]), (0xFC4F, [0x646, 0x649]), (0xFC50, [0x646, 0x64A]),
    (0xFC51, [0x647, 0x62C]), (0xFC52, [0x647, 0x645]), (0xFC53, [0x647, 0x649]),
    (0xFC54, [0x647, 0x64A]), (0xFC55, [0x64A, 0x62C]), (0xFC56, [0x64A, 0x62D]),
    (0xFC57, [0x64A, 0x62E]), (0xFC58, [0x64A, 0x645]), (0xFC59, [0x64A, 0x649]),
    (0xFC5A, [0x64A, 0x64A]), (0xFC5B, [0x630, 0x670]), (0xFC5C, [0x631, 0x670]),
    (0xFC5D, [0x649, 0x670]), (0xFC64, [0x626, 0x631]), (0xFC65, [0x626, 0x632]),
    (0xFC66, [0x626, 0x645]), (0xFC67, [0x626, 0x646]), (0xFC68, [0x626, 0x649]),
    (0xFC69, [0x626, 0x64A]), (0xFC6A, [0x628, 0x631]), (0xFC6B, [0x628, 0x632]),
    (0xFC6C, [0x628, 0x645]), (0xFC6D, [0x628, 0x646]), (0xFC6E, [0x628, 0x649]),
    (0xFC6F, [0x628, 0x64A]), (0xFC70, [0x62A, 0x631]), (0xFC71, [0x62A, 0x632]),
    (0xFC72, [0x62A, 0x645]), (0xFC73, [0x62A, 0x646]), (0xFC74, [0x62A, 0x649]),
    (0xFC75, [0x62A, 0x64A]), (0xFC76, [0x62B, 0x631]), (0xFC77, [0x62B, 0x632]),
    (0xFC78, [0x62B, 0x645])]

def domainSequences3 : List (Nat × List Nat) := [
    (0xFC79, [0x62B, 0x646]), (0xFC7A, [0x62B, 0x649]), (0xFC7B, [0x62B, 0x64A]),
    (0xFC7C, [0x641, 0x649]), (0xFC7D, [0x641, 0x64A]), (0xFC7E, [0x642, 0x649]),
    (0xFC7F, [0x642, 0x64A]), (0xFC80, [0x643, 0x627]), (0xFC81, [0x643, 0x644]),
    (0xFC82, [0x643, 0x645]), (0xFC83, [0x643, 0x649]), (0xFC84, [0x643, 0x64A]),
    (0xFC85, [0x644, 0x645]), (0xFC86, [0x644, 0x649]), (0xFC87, [0x644, 0x64A]),
    (0xFC88, [0x645, 0x627]), (0xFC89, [0x645, 0x645]), (0xFC8A, [0x646, 0x631]),
    (0xFC8B, [0x646, 0x632]), (0xFC8C, [0x646, 0x645]), (0xFC8D, [0x646, 0x646]),
    (0xFC8E, [0x646, 0x649]), (0xFC8F, [0x646, 0x64A]), (0xFC90, [0x649, 0x670]),
    (0xFC91, [0x64A, 0x631]), (0xFC92, [0x64A, 0x632]), (0xFC93, [0x64A, 0x645]),
    (0xFC94, [0x64A, 0x646]), (0xFC95, [0x64A, 0x649]), (0xFC96, [0x64A, 0x64A]),
    (0xFC97, [0x626, 0x62C]), (0xFC98, [0x626, 0x62D]), (0xFC99, [0x626, 0x62E]),
    (0xFC9A, [0x626, 0x645]), (0xFC9B, [0x626, 0x647]), (0xFC9C, [0x628, 0x62C]),
    (0xFC9D, [0x628, 0x62D]), (0xFC9E, [0x628, 0x62E]), (0xFC9F, [0x628, 0x645]),
    (0xFCA0, [0x628, 0x647]), (0xFCA1, [0x62A, 0x62C]), (0xFCA2, [0x62A, 0x62D]),
    (0xFCA3, [0x62A, 0x62E]), (0xFCA4, [0x62A, 0x645]), (0xFCA5, [0x62A, 0x647]),
    (0xFCA6, [0x62B, 0x645]), (0xFCA7, [0x62C, 0x62D]), (0xFCA8, [0x62C, 0x645]),
    (0xFCA9, [0x62D, 0x62C]), (0xFCAA, [0x62D, 0x645]), (0xFCAB, [0x62E, 0x62C]),
    (0xFCAC, [0x62E, 0x645]), (0xFCAD, [0x633, 0x62C]), (0xFCAE, [0x633, 0x62D]),
    (0xFCAF, [0x633, 0x62E]), (0xFCB0, [0x633, 0x645]), (0xFCB1, [0x635, 0x62D]),
    (0xFCB2, [0x635, 0x62E]), (0xFCB3, [0x635, 0x645]), (0xFCB4, [0x636, 0x62C]),
    (0xFCB5, [0x636, 0x62D]), (0xFCB6, [0x636, 0x62E]), (0xFCB7, [0x636, 0x645]),
    (0xFCB8, [0x637, 0x62D]), (0xFCB9, [0x638, 0x645]), (0xFCBA, [0x639, 0x62C]),
    (0xFCBB, [0x639, 0x645]), (0xFCBC, [0x63A, 0x62C]), (0xFCBD, [0x63A, 0x645]),
    (0xFCBE, [0x641, 0x62C]), (0xFCBF, [0x641, 0x62D]), (0xFCC0, [0x641, 0x62E]),
    (0xFCC1, [0x641, 0x645]), (0xFCC2, [0x642, 0x62D]), (0xFCC3, [0x642, 0x645]),
    (0xFCC4, [0x643, 0x62C]), (0xFCC5, [0x643, 0x62D]), (0xFCC6, [0x643, 0x62E]),
    (0xFCC7, [0x643, 0x644]), (0xFCC8, [0x643, 0x645]), (0xFCC9, [0x644, 0x62C]),
    (0xFCCA, [0x644, 0x62D]), (0xFCCB, [0x644, 0x62E]), (0xFCCC, [0x644, 0x645]),
    (0xFCCD, [0x644, 0x647]), (0xFCCE, [0x645, 0x62C]), (0xFCCF, [0x645, 0x62D]),
    (0xFCD0, [0x645, 0x62E]), (0xFCD1, [0x645, 0x645]), (0xFCD2, [0x646, 0x62C]),
    (0xFCD3, [0x646, 0x62D]), (0xFCD4, [0x646, 0x62E]), (0xFCD5, [0x646, 0x645]),
    (0xFCD6, [0x646, 0x647]), (0xFCD7, [0x647, 0x62C]), (0xFCD8, [0x647, 0x645]),
    (0xFCD9, [0x647, 0x670]), (0xFCDA, [0x64A, 0x62C]), (0xFCDB, [0x64A, 0x62D]),
    (0xFCDC, [0x64A, 0x62E]), (0xFCDD, [0x64A, 0x645]), (0xFCDE, [0x64A, 0x647]),
    (0xFCDF, [0x626, 0x645]), (0xFCE0, [0x626, 0x647]), (0xFCE1, [0x628, 0x645]),
    (0xFCE2, [0x628, 0x647]), (0xFCE3, [0x62A, 0x645]), (0xFCE4, [0x62A, 0x647]),
    (0xFCE5, [0x62B, 0x645]), (0xFCE6, [0x62B, 0x647]), (0xFCE7, [0x633, 0x645]),
    (0xFCE8, [0x633, 0x647]), (0xFCE9, [0x634, 0x645]), (0xFCEA, [0x634, 0x647]),
    (0xFCEB, [0x643, 0x644]), (0xFCEC, [0x643, 0x645]), (0xFCED, [0x644, 0x645]),
    (0xFCEE, [0x646, 0x645]), (0xFCEF, [0x646, 0x647]), (0xFCF0, [0x64A, 0x645]),
    (0xFCF1, [0x64A, 0x647]), (0xFCF2, [0x640, 0x64E, 0x651]), (0xFCF3, [0x640, 0x64F, 0x651]),
    (0xFCF4, [0x640, 0x650, 0x651]), (0xFCF5, [0x637, 0x649]), (0xFCF6, [0x637, 0x64A]),
    (0xFCF7, [0x639, 0x649]), (0xFCF8, [0x639, 0x64A]), (0xFCF9, [0x63A, 0x649]),
    (0xFCFA, [0x63A, 0x64A]), (0xFCFB, [0x633, 0x649]), (0xFCFC, [0x633, 0x64A]),
    (0xFCFD, [0x634, 0x649]), (0xFCFE, [0x634, 0x64A]), (0xFCFF, [0x62D, 0x649]),
    (0xFD00, [0x62D, 0x64A]), (0xFD01, [0x62C, 0x649]), (0xFD02, [0x62C, 0x64A]),
    (0xFD03, [0x62E, 0x649]), (0xFD04, [0x62E, 0x64A]), (0xFD05, [0x635, 0x649]),
    (0xFD06, [0x635, 0x64A]), (0xFD07, [0x636, 0x649]), (0xFD08, [0x636, 0x64A]),
    (0xFD09, [0x634, 0x62C]), (0xFD0A, [0x634, 0x62D]), (0xFD0B, [0x634, 0x62E]),
    (0xFD0C, [0x634, 0x645]), (0xFD0D, [0x634, 0x631]), (0xFD0E, [0x633, 0x631]),
    (0xFD0F, [0x635, 0x631]), (0xFD10, [0x636, 0x631]), (0xFD11, [0x637, 0x649]),
    (0xFD12, [0x637, 0x64A]), (0xFD13, [0x639, 0x649]), (0xFD14, [0x639, 0x64A]),
    (0xFD15, [0x63A, 0x649]), (0xFD16, [0x63A, 0x64A]), (0xFD17, [0x633, 0x649]),
    (0xFD18, [0x633, 0x64A]), (0xFD19, [0x634, 0x649]), (0xFD1A, [0x634, 0x64A]),
    (0xFD1B, [0x62D, 0x649]), (0xFD1C, [0x62D, 0x64A]), (0xFD1D, [0x62C, 0x649]),
    (0xFD1E, [0x62C, 0x64A]), (0xFD1F, [0x62E, 0x649]), (0xFD20, [0x62E, 0x64A]),
    (0xFD21, [0x635, 0x649]), (0xFD22, [0x635, 0x64A]), (0xFD23, [0x636, 0x649]),
    (0xFD24, [0x636, 0x64A]), (0xFD25, [0x634, 0x62C]), (0xFD26, [0x634, 0x62D]),
    (0xFD27, [0x634, 0x62E]), (0xFD28, [0x634, 0x645]), (0xFD29, [0x634, 0x631]),
    (0xFD2A, [0x633, 0x631]), (0xFD2B, [0x635, 0x631]), (0xFD2C, [0x636, 0x631]),
    (0xFD2D, [0x634, 0x62C]), (0xFD2E, [0x634, 0x62D]), (0xFD2F, [0x634, 0x62E]),
    (0xFD30, [0x634, 0x645]), (0xFD31, [0x633, 0x647]), (0xFD32, [0x634, 0x647]),
    (0xFD33, [0x637, 0x645]), (0xFD34, [0x633, 0x62C]), (0xFD35, [0x633, 0x62D]),
    (0xFD36, [0x633, 0x62E]), (0xFD37, [0x634, 0x62C]), (0xFD38, [0x634, 0x62D]),
    (0xFD39, [0x634, 0x62E]), (0xFD3A, [0x637, 0x645]), (0xFD3B, [0x638, 0x645]),
    (0xFD3C, [0x627, 0x64B]), (0xFD3D, [0x627, 0x64B]), (0xFD50, [0x62A, 0x62C, 0x645]),
    (0xFD51, [0x62A, 0x62D, 0x62C]), (0xFD52, [0x62A, 0x62D, 0x62C]),
    (0xFD53, [0x62A, 0x62D, 0x645]), (0xFD54, [0x62A, 0x62E, 0x645]),
    (0xFD55, [0x62A, 0x645, 0x62C]), (0xFD56, [0x62A, 0x645, 0x62D]),
    (0xFD57, [0x62A, 0x645, 0x62E]), (0xFD58, [0x62C, 0x645, 0x62D]),
    (0xFD59, [0x62C, 0x645, 0x62D]), (0xFD5A, [0x62D, 0x645, 0x64A]),
    (0xFD5B, [0x62D, 0x645, 0x649]), (0xFD5C, [0x633, 0x62D, 0x62C]),
    (0xFD5D, [0x633, 0x62C, 0x62D]), (0xFD5E, [0x633, 0x62C, 0x649]),
    (0xFD5F, [0x633, 0x645, 0x62D]), (0xFD60, [0x633, 0x645, 0x62D]),
    (0xFD61, [0x633, 0x645, 0x62C]), (0xFD62, [0x633, 0x645, 0x645]),
    (0xFD63, [0x633, 0x645, 0x645]), (0xFD64, [0x635, 0x62D, 0x62D]),
    (0xFD65, [0x635, 0x62D, 0x62D]), (0xFD66, [0x635, 0x645, 0x645]),
    (0xFD67, [0x634, 0x62D, 0x645]), (0xFD68, [0x634, 0x62D, 0x645]),
    (0xFD69, [0x634, 0x62C, 0x64A]), (0xFD6A, [0x634, 0x645, 0x62E]),
    (0xFD6B, [0x634, 0x645, 0x62E]), (0xFD6C, [0x634, 0x645, 0x645]),
    (0xFD6D, [0x634, 0x645, 0x645]), (0xFD6E, [0x636, 0x62D, 0x649]),
    (0xFD6F, [0x636, 0x62E, 0x645]), (0xFD70, [0x636, 0x62E, 0x645]),
    (0xFD71, [0x637, 0x645, 0x62D]), (0xFD72, [0x637, 0x645, 0x62D]),
    (0xFD73, [0x637, 0x645, 0x645]), (0xFD74, [0x637, 0x645, 0x64A]),
    (0xFD75, [0x639, 0x62C, 0x645]), (0xFD76, [0x639, 0x645, 0x645]),
    (0xFD77, [0x639, 0x645, 0x645]), (0xFD78, [0x639, 0x645, 0x649]),
    (0xFD79, [0x63A, 0x645, 0x645]), (0xFD7A, [0x63A, 0x645, 0x64A]),
    (0xFD7B, [0x63A, 0x645, 0x649]), (0xFD7C, [0x641, 0x62E, 0x645]),
    (0xFD7D, [0x641, 0x62E, 0x645]), (0xFD7E, [0x642, 0x645, 0x62D]),
    (0xFD7F, [0x642, 0x645, 0x645]), (0xFD80, [0x644, 0x62D, 0x645]),
    (0xFD81, [0x644, 0x62D, 0x64A]), (0xFD82, [0x644, 0x62D, 0x649]),
    (0xFD83, [0x644, 0x62C, 0x62C]), (0xFD84, [0x644, 0x62C, 0x62C]),
    (0xFD85, [0x644, 0x62E, 0x645]), (0xFD86, [0x644, 0x62E, 0x645]),
    (0xFD87, [0x644, 0x645, 0x62D]), (0xFD88, [0x644, 0x645, 0x62D]),
    (0xFD89, [0x645, 0x62D, 0x62C]), (0xFD8A, [0x645, 0x62D, 0x645]),
    (0xFD8B, [0x645, 0x62D, 0x64A]), (0xFD8C, [0x645, 0x62C, 0x62D]),
    (0xFD8D, [0x645, 0x62C, 0x645]), (0xFD8E, [0x645, 0x62E, 0x62C]),
    (0xFD8F, [0x645, 0x62E, 0x645]), (0xFD92, [0x645, 0x62C, 0x62E]),
    (0xFD93, [0x647, 0x645, 0x62C]), (0xFD94, [0x647, 0x645, 0x645]),
    (0xFD95, [0x646, 0x62D, 0x645]), (0xFD96, [0x646, 0x62D, 0x649]),
    (0xFD97, [0x646, 0x62C, 0x645]), (0xFD98, [0x646, 0x62C, 0x645]),
    (0xFD99, [0x646, 0x62C, 0x649]), (0xFD9A, [0x646, 0x645, 0x64A]),
    (0xFD9B, [0x646, 0x645, 0x649]), (0xFD9C, [0x64A, 0x645, 0x645]),
    (0xFD9D, [0x64A, 0x645, 0x645]), (0xFD9E, [0x628, 0x62E, 0x64A]),
    (0xFD9F, [0x62A, 0x62C, 0x64A]), (0xFDA0, [0x62A, 0x62C, 0x649]),
    (0xFDA1, [0x62A, 0x62E, 0x64A]), (0xFDA2, [0x62A, 0x62E, 0x649]),
    (0xFDA3, [0x62A, 0x645, 0x64A]), (0xFDA4, [0x62A, 0x645, 0x649]),
    (0xFDA5, [0x62C, 0x645, 0x64A]), (0xFDA6, [0x62C, 0x62D, 0x649]),
    (0xFDA7, [0x62C, 0x645, 0x649]), (0xFDA8, [0x633, 0x62E, 0x649]),
    (0xFDA9, [0x635, 0x62D, 0x64A]), (0xFDAA, [0x634, 0x62D, 0x64A]),
    (0xFDAB, [0x636, 0x62D, 0x64A]), (0xFDAC, [0x644, 0x62C, 0x64A]),
    (0xFDAD, [0x644, 0x645, 0x64A]), (0xFDAE, [0x64A, 0x62D, 0x64A]),
    (0xFDAF, [0x64A, 0x62C, 0x64A]), (0xFDB0, [0x64A, 0x645, 0x64A]),
    (0xFDB1, [0x645, 0x645, 0x64A]), (0xFDB2, [0x642, 0x645, 0x64A]),
    (0xFDB3, [0x646, 0x62D, 0x64A]), (0xFDB4, [0x642, 0x645, 0x62D]),
    (0xFDB5, [0x644, 0x62D, 0x645]), (0xFDB6, [0x639, 0x645, 0x64A]),
    (0xFDB7, [0x643, 0x645, 0x64A]), (0xFDB8, [0x646, 0x62C, 0x62D]),
    (0xFDB9, [0x645, 0x62E, 0x64A]), (0xFDBA, [0x644, 0x62C, 0x645]),
    (0xFDBB, [0x643, 0x645, 0x645]), (0xFDBC, [0x644, 0x62C, 0x645]),
    (0xFDBD, [0x646, 0x62C, 0x62D]), (0xFDBE, [0x62C, 0x62D, 0x64A]),
    (0xFDBF, [0x62D, 0x62C, 0x64A]), (0xFDC0, [0x645, 0x62C, 0x64A]),
    (0xFDC1, [0x641, 0x645, 0x64A]), (0xFDC2, [0x628, 0x62D, 0x64A]),
    (0xFDC3, [0x643, 0x645, 0x645]), (0xFDC4, [0x639, 0x62C, 0x645]),
    (0xFDC5, [0x635, 0x645, 0x645]), (0xFDC6, [0x633, 0x62E, 0x64A]),
    (0xFDC7, [0x646, 0x62C, 0x64A]), (0xFDF0, [0x635, 0x644, 0x6D2]),
    (0xFDF1, [0x642, 0x644, 0x6D2]), (0xFDF2, [0x627, 0x644, 0x644, 0x647]),
    (0xFDF3, [0x627, 0x643, 0x628, 0x631]), (0xFDF4, [0x645, 0x62D, 0x645, 0x62F]),
    (0xFDF5, [0x635, 0x644, 0x639, 0x645]), (0xFDF6, [0x631, 0x633, 0x648, 0x644]),
    (0xFDF7, [0x639, 0x644, 0x64A, 0x647]), (0xFDF8, [0x648, 0x633, 0x644, 0x645]),
    (0xFDF9, [0x635, 0x644, 0x649]), (0xFDFC, [0x631, 0x6CC, 0x627, 0x644]),
    (0xFE71, [0x640, 0x64B]), (0xFE77, [0x640, 0x64E]), (0xFE79, [0x640, 0x64F]),
    (0xFE7B, [0x640, 0x650]), (0xFE7D, [0x640, 0x651]), (0xFE7F, [0x640, 0x652]),
    (0xFEF5, [0x644, 0x622]), (0xFEF6, [0x644, 0x622]), (0xFEF7, [0x644, 0x623]),
    (0xFEF8, [0x644, 0x623]), (0xFEF9, [0x644, 0x625]), (0xFEFA, [0x644, 0x625]),
    (0xFEFB, [0x644, 0x627]), (0xFEFC, [0x644, 0x627]), (0x1D15E, [0x1D157, 0x1D165]),
    (0x1D15F, [0x1D158, 0x1D165]), (0x1D160, [0x1D158, 0x1D165, 0x1D16E]),
    (0x1D161, [0x1D158, 0x1D165, 0x1D16F]), (0x1D162, [0x1D158, 0x1D165, 0x1D170]),
    (0x1D163, [0x1D158, 0x1D165, 0x1D171]), (0x1D164, [0x1D158, 0x1D165, 0x1D172]),
    (0x1D1BB, [0x1D1B9, 0x1D165]), (0x1D1BC, [0x1D1BA, 0x1D165]),
    (0x1D1BD, [0x1D1B9, 0x1D165, 0x1D16E]), (0x1D1BE, [0x1D1BA, 0x1D165, 0x1D16E]),
    (0x1D1BF, [0x1D1B9, 0x1D165, 0x1D16F]), (0x1D1C0, [0x1D1BA, 0x1D165, 0x1D16F]),
    (0x1F101, [0x30, 0x2C]), (0x1F102, [0x31, 0x2C]), (0x1F103, [0x32, 0x2C]),
    (0x1F104, [0x33, 0x2C]), (0x1F105, [0x34, 0x2C]), (0x1F106, [0x35, 0x2C]),
    (0x1F107, [0x36, 0x2C]), (0x1F108, [0x37, 0x2C]), (0x1F109, [0x38, 0x2C]),
    (0x1F10A, [0x39, 0x2C]), (0x1F110, [0x28, 0x61, 0x29]), (0x1F111, [0x28, 0x62, 0x29]),
    (0x1F112, [0x28, 0x63, 0x29]), (0x1F113, [0x28, 0x64, 0x29]), (0x1F114, [0x28, 0x65, 0x29]),
    (0x1F115, [0x28, 0x66, 0x29]), (0x1F116, [0x28, 0x67, 0x29]), (0x1F117, [0x28, 0x68, 0x29]),
    (0x1F118, [0x28, 0x69, 0x29]), (0x1F119, [0x28, 0x6A, 0x29]), (0x1F11A, [0x28, 0x6B, 0x29]),
    (0x1F11B, [0x28, 0x6C, 0x29]), (0x1F11C, [0x28, 0x6D, 0x29]), (0x1F11D, [0x28, 0x6E, 0x29]),
    (0x1F11E, [0x28, 0x6F, 0x29]), (0x1F11F, [0x28, 0x70, 0x29]), (0x1F120, [0x28, 0x71, 0x29]),
    (0x1F121, [0x28, 0x72, 0x29]), (0x1F122, [0x28, 0x73, 0x29]), (0x1F123, [0x28, 0x74, 0x29]),
    (0x1F124, [0x28, 0x75, 0x29]), (0x1F125, [0x28, 0x76, 0x29]), (0x1F126, [0x28, 0x77, 0x29]),
    (0x1F127, [0x28, 0x78, 0x29]), (0x1F128, [0x28, 0x79, 0x29]), (0x1F129, [0x28, 0x7A, 0x29]),
    (0x1F12A, [0x3014, 0x73, 0x3015]), (0x1F12D, [0x63, 0x64]), (0x1F12E, [0x77, 0x7A]),
    (0x1F14A, [0x68, 0x76]), (0x1F14B, [0x6D, 0x76]), (0x1F14C, [0x73, 0x64]),
    (0x1F14D, [0x73, 0x73]), (0x1F14E, [0x70, 0x70, 0x76]), (0x1F14F, [0x77, 0x63]),
    (0x1F16A, [0x6D, 0x63]), (0x1F16B, [0x6D, 0x64])]

def domainSequences4 : List (Nat × List Nat) := [
    (0x1F16C, [0x6D, 0x72]), (0x1F190, [0x64, 0x6A]), (0x1F200, [0x307B, 0x304B]),
    (0x1F201, [0x30B3, 0x30B3]), (0x1F240, [0x3014, 0x672C, 0x3015]),
    (0x1F241, [0x3014, 0x4E09, 0x3015]), (0x1F242, [0x3014, 0x4E8C, 0x3015]),
    (0x1F243, [0x3014, 0x5B89, 0x3015]), (0x1F244, [0x3014, 0x70B9, 0x3015]),
    (0x1F245, [0x3014, 0x6253, 0x3015]), (0x1F246, [0x3014, 0x76D7, 0x3015]),
    (0x1F247, [0x3014, 0x52DD, 0x3015]), (0x1F248, [0x3014, 0x6557, 0x3015])]

/-- Characters with an image of several characters. -/
def domainSequences : List (Nat × List Nat) :=
  domainSequences1 ++ domainSequences2 ++ domainSequences3 ++ domainSequences4

/-- Characters that leave nothing. -/
def ignoredRanges : List (Nat × Nat) := [
    (0xAD, 0xAD), (0x34F, 0x34F), (0x115F, 0x1160), (0x17B4, 0x17B5), (0x180B, 0x180F),
    (0x200B, 0x200B), (0x2060, 0x2064), (0x206A, 0x206F), (0x3164, 0x3164), (0xFE00, 0xFE0F),
    (0xFEFF, 0xFEFF), (0xFFA0, 0xFFA0), (0x1BCA0, 0x1BCA3), (0x1D173, 0x1D17A),
    (0xE0100, 0xE01EF)]

def disallowedRanges1 : List (Nat × Nat) := [
    (0x80, 0xA0), (0xA8, 0xA8), (0xAF, 0xAF), (0xB4, 0xB4), (0xB8, 0xB8), (0x2D8, 0x2DD),
    (0x378, 0x37A), (0x380, 0x385), (0x38B, 0x38B), (0x38D, 0x38D), (0x3A2, 0x3A2),
    (0x530, 0x530), (0x557, 0x558), (0x58B, 0x58C), (0x590, 0x590), (0x5C8, 0x5CF),
    (0x5EB, 0x5EE), (0x5F5, 0x605), (0x61C, 0x61C), (0x6DD, 0x6DD), (0x70E, 0x70F),
    (0x74B, 0x74C), (0x7B2, 0x7BF), (0x7FB, 0x7FC), (0x82E, 0x82F), (0x83F, 0x83F),
    (0x85C, 0x85D), (0x85F, 0x85F), (0x86B, 0x86F), (0x890, 0x896), (0x8E2, 0x8E2),
    (0x984, 0x984), (0x98D, 0x98E), (0x991, 0x992), (0x9A9, 0x9A9), (0x9B1, 0x9B1),
    (0x9B3, 0x9B5), (0x9BA, 0x9BB), (0x9C5, 0x9C6), (0x9C9, 0x9CA), (0x9CF, 0x9D6),
    (0x9D8, 0x9DB), (0x9DE, 0x9DE), (0x9E4, 0x9E5), (0x9FF, 0xA00), (0xA04, 0xA04),
    (0xA0B, 0xA0E), (0xA11, 0xA12), (0xA29, 0xA29), (0xA31, 0xA31), (0xA34, 0xA34),
    (0xA37, 0xA37), (0xA3A, 0xA3B), (0xA3D, 0xA3D), (0xA43, 0xA46), (0xA49, 0xA4A),
    (0xA4E, 0xA50), (0xA52, 0xA58), (0xA5D, 0xA5D), (0xA5F, 0xA65), (0xA77, 0xA80),
    (0xA84, 0xA84), (0xA8E, 0xA8E), (0xA92, 0xA92), (0xAA9, 0xAA9), (0xAB1, 0xAB1),
    (0xAB4, 0xAB4), (0xABA, 0xABB), (0xAC6, 0xAC6), (0xACA, 0xACA), (0xACE, 0xACF),
    (0xAD1, 0xADF), (0xAE4, 0xAE5), (0xAF2, 0xAF8), (0xB00, 0xB00), (0xB04, 0xB04),
    (0xB0D, 0xB0E), (0xB11, 0xB12), (0xB29, 0xB29), (0xB31, 0xB31), (0xB34, 0xB34),
    (0xB3A, 0xB3B), (0xB45, 0xB46), (0xB49, 0xB4A), (0xB4E, 0xB54), (0xB58, 0xB5B),
    (0xB5E, 0xB5E), (0xB64, 0xB65), (0xB78, 0xB81), (0xB84, 0xB84), (0xB8B, 0xB8D),
    (0xB91, 0xB91), (0xB96, 0xB98), (0xB9B, 0xB9B), (0xB9D, 0xB9D), (0xBA0, 0xBA2),
    (0xBA5, 0xBA7), (0xBAB, 0xBAD), (0xBBA, 0xBBD), (0xBC3, 0xBC5), (0xBC9, 0xBC9),
    (0xBCE, 0xBCF), (0xBD1, 0xBD6), (0xBD8, 0xBE5), (0xBFB, 0xBFF), (0xC0D, 0xC0D),
    (0xC11, 0xC11), (0xC29, 0xC29), (0xC3A, 0xC3B), (0xC45, 0xC45), (0xC49, 0xC49),
    (0xC4E, 0xC54), (0xC57, 0xC57), (0xC5B, 0xC5B), (0xC5E, 0xC5F), (0xC64, 0xC65),
    (0xC70, 0xC76), (0xC8D, 0xC8D), (0xC91, 0xC91), (0xCA9, 0xCA9), (0xCB4, 0xCB4),
    (0xCBA, 0xCBB), (0xCC5, 0xCC5), (0xCC9, 0xCC9), (0xCCE, 0xCD4), (0xCD7, 0xCDB),
    (0xCDF, 0xCDF), (0xCE4, 0xCE5), (0xCF0, 0xCF0), (0xCF4, 0xCFF), (0xD0D, 0xD0D),
    (0xD11, 0xD11), (0xD45, 0xD45), (0xD49, 0xD49), (0xD50, 0xD53), (0xD64, 0xD65),
    (0xD80, 0xD80), (0xD84, 0xD84), (0xD97, 0xD99), (0xDB2, 0xDB2), (0xDBC, 0xDBC),
    (0xDBE, 0xDBF), (0xDC7, 0xDC9), (0xDCB, 0xDCE), (0xDD5, 0xDD5), (0xDD7, 0xDD7),
    (0xDE0, 0xDE5), (0xDF0, 0xDF1), (0xDF5, 0xE00), (0xE3B, 0xE3E), (0xE5C, 0xE80),
    (0xE83, 0xE83), (0xE85, 0xE85), (0xE8B, 0xE8B), (0xEA4, 0xEA4), (0xEA6, 0xEA6),
    (0xEBE, 0xEBF), (0xEC5, 0xEC5), (0xEC7, 0xEC7), (0xECF, 0xECF), (0xEDA, 0xEDB),
    (0xEE0, 0xEFF), (0xF48, 0xF48), (0xF6D, 0xF70), (0xF98, 0xF98), (0xFBD, 0xFBD),
    (0xFCD, 0xFCD), (0xFDB, 0xFFF), (0x10C6, 0x10C6), (0x10C8, 0x10CC), (0x10CE, 0x10CF),
    (0x1249, 0x1249), (0x124E, 0x124F), (0x1257, 0x1257), (0x1259, 0x1259), (0x125E, 0x125F),
    (0x1289, 0x1289), (0x128E, 0x128F), (0x12B1, 0x12B1), (0x12B6, 0x12B7), (0x12BF, 0x12BF),
    (0x12C1, 0x12C1), (0x12C6, 0x12C7), (0x12D7, 0x12D7), (0x1311, 0x1311), (0x1316, 0x1317),
    (0x135B, 0x135C), (0x137D, 0x137F), (0x139A, 0x139F), (0x13F6, 0x13F7), (0x13FE, 0x13FF),
    (0x1680, 0x1680), (0x169D, 0x169F), (0x16F9, 0x16FF), (0x1716, 0x171E), (0x1737, 0x173F),
    (0x1754, 0x175F), (0x176D, 0x176D), (0x1771, 0x1771), (0x1774, 0x177F), (0x17DE, 0x17DF),
    (0x17EA, 0x17EF), (0x17FA, 0x17FF), (0x181A, 0x181F), (0x1879, 0x187F), (0x18AB, 0x18AF),
    (0x18F6, 0x18FF), (0x191F, 0x191F), (0x192C, 0x192F), (0x193C, 0x193F), (0x1941, 0x1943),
    (0x196E, 0x196F), (0x1975, 0x197F), (0x19AC, 0x19AF), (0x19CA, 0x19CF), (0x19DB, 0x19DD),
    (0x1A1C, 0x1A1D), (0x1A5F, 0x1A5F), (0x1A7D, 0x1A7E), (0x1A8A, 0x1A8F), (0x1A9A, 0x1A9F),
    (0x1AAE, 0x1AAF), (0x1ADE, 0x1ADF), (0x1AEC, 0x1AFF), (0x1B4D, 0x1B4D), (0x1BF4, 0x1BFB),
    (0x1C38, 0x1C3A), (0x1C4A, 0x1C4C), (0x1C8B, 0x1C8F), (0x1CBB, 0x1CBC), (0x1CC8, 0x1CCF),
    (0x1CFB, 0x1CFF), (0x1F16, 0x1F17), (0x1F1E, 0x1F1F), (0x1F46, 0x1F47), (0x1F4E, 0x1F4F),
    (0x1F58, 0x1F58), (0x1F5A, 0x1F5A), (0x1F5C, 0x1F5C), (0x1F5E, 0x1F5E), (0x1F7E, 0x1F7F),
    (0x1FB5, 0x1FB5), (0x1FBD, 0x1FBD), (0x1FBF, 0x1FC1), (0x1FC5, 0x1FC5), (0x1FCD, 0x1FCF),
    (0x1FD4, 0x1FD5), (0x1FDC, 0x1FDF), (0x1FED, 0x1FEE), (0x1FF0, 0x1FF1), (0x1FF5, 0x1FF5),
    (0x1FFD, 0x200A), (0x200E, 0x200F), (0x2017, 0x2017), (0x2024, 0x2026), (0x2028, 0x202F),
    (0x203E, 0x203E), (0x2047, 0x2049), (0x205F, 0x205F), (0x2065, 0x2069), (0x2072, 0x2073),
    (0x208F, 0x208F), (0x209D, 0x209F), (0x20C2, 0x20CF), (0x20F1, 0x2101), (0x2105, 0x2106),
    (0x218C, 0x218F), (0x242A, 0x243F), (0x244B, 0x245F), (0x2488, 0x249B), (0x2A74, 0x2A74),
    (0x2B74, 0x2B75), (0x2CF4, 0x2CF8), (0x2D26, 0x2D26), (0x2D28, 0x2D2C), (0x2D2E, 0x2D2F),
    (0x2D68, 0x2D6E), (0x2D71, 0x2D7E), (0x2D97, 0x2D9F), (0x2DA7, 0x2DA7), (0x2DAF, 0x2DAF),
    (0x2DB7, 0x2DB7), (0x2DBF, 0x2DBF), (0x2DC7, 0x2DC7), (0x2DCF, 0x2DCF), (0x2DD7, 0x2DD7),
    (0x2DDF, 0x2DDF), (0x2E5E, 0x2E7F), (0x2E9A, 0x2E9A), (0x2EF4, 0x2EFF), (0x2FD6, 0x3000),
    (0x3040, 0x3040), (0x3097, 0x3098), (0x309B, 0x309C), (0x3100, 0x3104), (0x3130, 0x3130),
    (0x318F, 0x318F), (0x31E6, 0x31EF), (0x321F, 0x321F), (0x33C2, 0x33C2), (0x33C7, 0x33C7),
    (0x33D8, 0x33D8), (0xA48D, 0xA48F), (0xA4C7, 0xA4CF), (0xA62C, 0xA63F), (0xA6F8, 0xA6FF),
    (0xA7DD, 0xA7F0), (0xA82D, 0xA82F), (0xA83A, 0xA83F), (0xA878, 0xA87F), (0xA8C6, 0xA8CD),
    (0xA8DA, 0xA8DF), (0xA954, 0xA95E), (0xA97D, 0xA97F), (0xA9CE, 0xA9CE), (0xA9DA, 0xA9DD),
    (0xA9FF, 0xA9FF), (0xAA37, 0xAA3F), (0xAA4E, 0xAA4F), (0xAA5A, 0xAA5B), (0xAAC3, 0xAADA),
    (0xAAF7, 0xAB00), (0xAB07, 0xAB08), (0xAB0F, 0xAB10), (0xAB17, 0xAB1F), (0xAB27, 0xAB27),
    (0xAB2F, 0xAB2F), (0xAB6C, 0xAB6F), (0xABEE, 0xABEF), (0xABFA, 0xABFF), (0xD7A4, 0xD7AF),
    (0xD7C7, 0xD7CA), (0xD7FC, 0xF8FF), (0xFA6E, 0xFA6F), (0xFADA, 0xFAFF), (0xFB07, 0xFB12),
    (0xFB18, 0xFB1C), (0xFB37, 0xFB37), (0xFB3D, 0xFB3D), (0xFB3F, 0xFB3F), (0xFB42, 0xFB42),
    (0xFB45, 0xFB45), (0xFC5E, 0xFC63), (0xFDD0, 0xFDEF), (0xFDFA, 0xFDFB), (0xFE12, 0xFE12),
    (0xFE16, 0xFE16), (0xFE19, 0xFE1F), (0xFE30, 0xFE30), (0xFE47, 0xFE4C), (0xFE52, 0xFE53),
    (0xFE55, 0xFE56), (0xFE5F, 0xFE5F), (0xFE64, 0xFE65), (0xFE67, 0xFE68), (0xFE6B, 0xFE70),
    (0xFE72, 0xFE72), (0xFE74, 0xFE76), (0xFE78, 0xFE78), (0xFE7A, 0xFE7A), (0xFE7C, 0xFE7C),
    (0xFE7E, 0xFE7E), (0xFEFD, 0xFEFE), (0xFF00, 0xFF00), (0xFFBF, 0xFFC1), (0xFFC8, 0xFFC9),
    (0xFFD0, 0xFFD1), (0xFFD8, 0xFFD9), (0xFFDD, 0xFFDF), (0xFFE3, 0xFFE3), (0xFFE7, 0xFFE7),
    (0xFFEF, 0xFFFF), (0x1000C, 0x1000C), (0x10027, 0x10027), (0x1003B, 0x1003B),
    (0x1003E, 0x1003E), (0x1004E, 0x1004F), (0x1005E, 0x1007F), (0x100FB, 0x100FF),
    (0x10103, 0x10106), (0x10134, 0x10136), (0x1018F, 0x1018F), (0x1019D, 0x1019F),
    (0x101A1, 0x101CF), (0x101FE, 0x1027F), (0x1029D, 0x1029F), (0x102D1, 0x102DF),
    (0x102FC, 0x102FF), (0x10324, 0x1032C), (0x1034B, 0x1034F), (0x1037B, 0x1037F),
    (0x1039E, 0x1039E), (0x103C4, 0x103C7), (0x103D6, 0x103FF), (0x1049E, 0x1049F),
    (0x104AA, 0x104AF), (0x104D4, 0x104D7), (0x104FC, 0x104FF), (0x10528, 0x1052F),
    (0x10564, 0x1056E)]

def disallowedRanges2 : List (Nat × Nat) := [
    (0x1057B, 0x1057B), (0x1058B, 0x1058B), (0x10593, 0x10593), (0x10596, 0x10596),
    (0x105A2, 0x105A2), (0x105B2, 0x105B2), (0x105BA, 0x105BA), (0x105BD, 0x105BF),
    (0x105F4, 0x105FF), (0x10737, 0x1073F), (0x10756, 0x1075F), (0x10768, 0x1077F),
    (0x10786, 0x10786), (0x107B1, 0x107B1), (0x107BB, 0x107FF), (0x10806, 0x10807),
    (0x10809, 0x10809), (0x10836, 0x10836), (0x10839, 0x1083B), (0x1083D, 0x1083E),
    (0x10856, 0x10856), (0x1089F, 0x108A6), (0x108B0, 0x108DF), (0x108F3, 0x108F3),
    (0x108F6, 0x108FA), (0x1091C, 0x1091E), (0x1093A, 0x1093E), (0x1095A, 0x1097F),
    (0x109B8, 0x109BB), (0x109D0, 0x109D1), (0x10A04, 0x10A04), (0x10A07, 0x10A0B),
    (0x10A14, 0x10A14), (0x10A18, 0x10A18), (0x10A36, 0x10A37), (0x10A3B, 0x10A3E),
    (0x10A49, 0x10A4F), (0x10A59, 0x10A5F), (0x10AA0, 0x10ABF), (0x10AE7, 0x10AEA),
    (0x10AF7, 0x10AFF), (0x10B36, 0x10B38), (0x10B56, 0x10B57), (0x10B73, 0x10B77),
    (0x10B92, 0x10B98), (0x10B9D, 0x10BA8), (0x10BB0, 0x10BFF), (0x10C49, 0x10C7F),
    (0x10CB3, 0x10CBF), (0x10CF3, 0x10CF9), (0x10D28, 0x10D2F), (0x10D3A, 0x10D3F),
    (0x10D66, 0x10D68), (0x10D86, 0x10D8D), (0x10D90, 0x10E5F), (0x10E7F, 0x10E7F),
    (0x10EAA, 0x10EAA), (0x10EAE, 0x10EAF), (0x10EB2, 0x10EC1), (0x10EC8, 0x10ECF),
    (0x10ED9, 0x10EF9), (0x10F28, 0x10F2F), (0x10F5A, 0x10F6F), (0x10F8A, 0x10FAF),
    (0x10FCC, 0x10FDF), (0x10FF7, 0x10FFF), (0x1104E, 0x11051), (0x11076, 0x1107E),
    (0x110BD, 0x110BD), (0x110C3, 0x110CF), (0x110E9, 0x110EF), (0x110FA, 0x110FF),
    (0x11135, 0x11135), (0x11148, 0x1114F), (0x11177, 0x1117F), (0x111E0, 0x111E0),
    (0x111F5, 0x111FF), (0x11212, 0x11212), (0x11242, 0x1127F), (0x11287, 0x11287),
    (0x11289, 0x11289), (0x1128E, 0x1128E), (0x1129E, 0x1129E), (0x112AA, 0x112AF),
    (0x112EB, 0x112EF), (0x112FA, 0x112FF), (0x11304, 0x11304), (0x1130D, 0x1130E),
    (0x11311, 0x11312), (0x11329, 0x11329), (0x11331, 0x11331), (0x11334, 0x11334),
    (0x1133A, 0x1133A), (0x11345, 0x11346), (0x11349, 0x1134A), (0x1134E, 0x1134F),
    (0x11351, 0x11356), (0x11358, 0x1135C), (0x11364, 0x11365), (0x1136D, 0x1136F),
    (0x11375, 0x1137F), (0x1138A, 0x1138A), (0x1138C, 0x1138D), (0x1138F, 0x1138F),
    (0x113B6, 0x113B6), (0x113C1, 0x113C1), (0x113C3, 0x113C4), (0x113C6, 0x113C6),
    (0x113CB, 0x113CB), (0x113D6, 0x113D6), (0x113D9, 0x113E0), (0x113E3, 0x113FF),
    (0x1145C, 0x1145C), (0x11462, 0x1147F), (0x114C8, 0x114CF), (0x114DA, 0x1157F),
    (0x115B6, 0x115B7), (0x115DE, 0x115FF), (0x11645, 0x1164F), (0x1165A, 0x1165F),
    (0x1166D, 0x1167F), (0x116BA, 0x116BF), (0x116CA, 0x116CF), (0x116E4, 0x116FF),
    (0x1171B, 0x1171C), (0x1172C, 0x1172F), (0x11747, 0x117FF), (0x1183C, 0x1189F),
    (0x118F3, 0x118FE), (0x11907, 0x11908), (0x1190A, 0x1190B), (0x11914, 0x11914),
    (0x11917, 0x11917), (0x11936, 0x11936), (0x11939, 0x1193A), (0x11947, 0x1194F),
    (0x1195A, 0x1199F), (0x119A8, 0x119A9), (0x119D8, 0x119D9), (0x119E5, 0x119FF),
    (0x11A48, 0x11A4F), (0x11AA3, 0x11AAF), (0x11AF9, 0x11AFF), (0x11B0A, 0x11B5F),
    (0x11B68, 0x11BBF), (0x11BE2, 0x11BEF), (0x11BFA, 0x11BFF), (0x11C09, 0x11C09),
    (0x11C37, 0x11C37), (0x11C46, 0x11C4F), (0x11C6D, 0x11C6F), (0x11C90, 0x11C91),
    (0x11CA8, 0x11CA8), (0x11CB7, 0x11CFF), (0x11D07, 0x11D07), (0x11D0A, 0x11D0A),
    (0x11D37, 0x11D39), (0x11D3B, 0x11D3B), (0x11D3E, 0x11D3E), (0x11D48, 0x11D4F),
    (0x11D5A, 0x11D5F), (0x11D66, 0x11D66), (0x11D69, 0x11D69), (0x11D8F, 0x11D8F),
    (0x11D92, 0x11D92), (0x11D99, 0x11D9F), (0x11DAA, 0x11DAF), (0x11DDC, 0x11DDF),
    (0x11DEA, 0x11EDF), (0x11EF9, 0x11EFF), (0x11F11, 0x11F11), (0x11F3B, 0x11F3D),
    (0x11F5B, 0x11FAF), (0x11FB1, 0x11FBF), (0x11FF2, 0x11FFE), (0x1239A, 0x123FF),
    (0x1246F, 0x1246F), (0x12475, 0x1247F), (0x12544, 0x12F8F), (0x12FF3, 0x12FFF),
    (0x13430, 0x1343F), (0x13456, 0x1345F), (0x143FB, 0x143FF), (0x14647, 0x160FF),
    (0x1613A, 0x167FF), (0x16A39, 0x16A3F), (0x16A5F, 0x16A5F), (0x16A6A, 0x16A6D),
    (0x16ABF, 0x16ABF), (0x16ACA, 0x16ACF), (0x16AEE, 0x16AEF), (0x16AF6, 0x16AFF),
    (0x16B46, 0x16B4F), (0x16B5A, 0x16B5A), (0x16B62, 0x16B62), (0x16B78, 0x16B7C),
    (0x16B90, 0x16D3F), (0x16D7A, 0x16E3F), (0x16E9B, 0x16E9F), (0x16EB9, 0x16EBA),
    (0x16ED4, 0x16EFF), (0x16F4B, 0x16F4E), (0x16F88, 0x16F8E), (0x16FA0, 0x16FDF),
    (0x16FE5, 0x16FEF), (0x16FF7, 0x16FFF), (0x18CD6, 0x18CFE), (0x18D1F, 0x18D7F),
    (0x18DF3, 0x1AFEF), (0x1AFF4, 0x1AFF4), (0x1AFFC, 0x1AFFC), (0x1AFFF, 0x1AFFF),
    (0x1B123, 0x1B131), (0x1B133, 0x1B14F), (0x1B153, 0x1B154), (0x1B156, 0x1B163),
    (0x1B168, 0x1B16F), (0x1B2FC, 0x1BBFF), (0x1BC6B, 0x1BC6F), (0x1BC7D, 0x1BC7F),
    (0x1BC89, 0x1BC8F), (0x1BC9A, 0x1BC9B), (0x1BCA4, 0x1CBFF), (0x1CCFD, 0x1CCFF),
    (0x1CEB4, 0x1CEB9), (0x1CED1, 0x1CEDF), (0x1CEF1, 0x1CEFF), (0x1CF2E, 0x1CF2F),
    (0x1CF47, 0x1CF4F), (0x1CFC4, 0x1CFFF), (0x1D0F6, 0x1D0FF), (0x1D127, 0x1D128),
    (0x1D1EB, 0x1D1FF), (0x1D246, 0x1D2BF), (0x1D2D4, 0x1D2DF), (0x1D2F4, 0x1D2FF),
    (0x1D357, 0x1D35F), (0x1D379, 0x1D3FF), (0x1D455, 0x1D455), (0x1D49D, 0x1D49D),
    (0x1D4A0, 0x1D4A1), (0x1D4A3, 0x1D4A4), (0x1D4A7, 0x1D4A8), (0x1D4AD, 0x1D4AD),
    (0x1D4BA, 0x1D4BA), (0x1D4BC, 0x1D4BC), (0x1D4C4, 0x1D4C4), (0x1D506, 0x1D506),
    (0x1D50B, 0x1D50C), (0x1D515, 0x1D515), (0x1D51D, 0x1D51D), (0x1D53A, 0x1D53A),
    (0x1D53F, 0x1D53F), (0x1D545, 0x1D545), (0x1D547, 0x1D549), (0x1D551, 0x1D551),
    (0x1D6A6, 0x1D6A7), (0x1D7CC, 0x1D7CD), (0x1DA8C, 0x1DA9A), (0x1DAA0, 0x1DAA0),
    (0x1DAB0, 0x1DEFF), (0x1DF1F, 0x1DF24), (0x1DF2B, 0x1DFFF), (0x1E007, 0x1E007),
    (0x1E019, 0x1E01A), (0x1E022, 0x1E022), (0x1E025, 0x1E025), (0x1E02B, 0x1E02F),
    (0x1E06E, 0x1E08E), (0x1E090, 0x1E0FF), (0x1E12D, 0x1E12F), (0x1E13E, 0x1E13F),
    (0x1E14A, 0x1E14D), (0x1E150, 0x1E28F), (0x1E2AF, 0x1E2BF), (0x1E2FA, 0x1E2FE),
    (0x1E300, 0x1E4CF), (0x1E4FA, 0x1E5CF), (0x1E5FB, 0x1E5FE), (0x1E600, 0x1E6BF),
    (0x1E6DF, 0x1E6DF), (0x1E6F6, 0x1E6FD), (0x1E700, 0x1E7DF), (0x1E7E7, 0x1E7E7),
    (0x1E7EC, 0x1E7EC), (0x1E7EF, 0x1E7EF), (0x1E7FF, 0x1E7FF), (0x1E8C5, 0x1E8C6),
    (0x1E8D7, 0x1E8FF), (0x1E94C, 0x1E94F), (0x1E95A, 0x1E95D), (0x1E960, 0x1EC70),
    (0x1ECB5, 0x1ED00), (0x1ED3E, 0x1EDFF), (0x1EE04, 0x1EE04), (0x1EE20, 0x1EE20),
    (0x1EE23, 0x1EE23), (0x1EE25, 0x1EE26), (0x1EE28, 0x1EE28), (0x1EE33, 0x1EE33),
    (0x1EE38, 0x1EE38), (0x1EE3A, 0x1EE3A), (0x1EE3C, 0x1EE41), (0x1EE43, 0x1EE46),
    (0x1EE48, 0x1EE48), (0x1EE4A, 0x1EE4A), (0x1EE4C, 0x1EE4C), (0x1EE50, 0x1EE50),
    (0x1EE53, 0x1EE53), (0x1EE55, 0x1EE56), (0x1EE58, 0x1EE58), (0x1EE5A, 0x1EE5A),
    (0x1EE5C, 0x1EE5C), (0x1EE5E, 0x1EE5E), (0x1EE60, 0x1EE60), (0x1EE63, 0x1EE63),
    (0x1EE65, 0x1EE66), (0x1EE6B, 0x1EE6B), (0x1EE73, 0x1EE73), (0x1EE78, 0x1EE78),
    (0x1EE7D, 0x1EE7D), (0x1EE7F, 0x1EE7F), (0x1EE8A, 0x1EE8A), (0x1EE9C, 0x1EEA0),
    (0x1EEA4, 0x1EEA4), (0x1EEAA, 0x1EEAA), (0x1EEBC, 0x1EEEF), (0x1EEF2, 0x1EFFF),
    (0x1F02C, 0x1F02F), (0x1F094, 0x1F09F), (0x1F0AF, 0x1F0B0), (0x1F0C0, 0x1F0C0),
    (0x1F0D0, 0x1F0D0), (0x1F0F6, 0x1F100), (0x1F1AE, 0x1F1E5), (0x1F203, 0x1F20F),
    (0x1F23C, 0x1F23F), (0x1F249, 0x1F24F), (0x1F252, 0x1F25F), (0x1F266, 0x1F2FF),
    (0x1F6D9, 0x1F6DB), (0x1F6ED, 0x1F6EF), (0x1F6FD, 0x1F6FF), (0x1F7DA, 0x1F7DF),
    (0x1F7EC, 0x1F7EF), (0x1F7F1, 0x1F7FF), (0x1F80C, 0x1F80F), (0x1F848, 0x1F84F),
    (0x1F85A, 0x1F85F), (0x1F888, 0x1F88F), (0x1F8AE, 0x1F8AF), (0x1F8BC, 0x1F8BF),
    (0x1F8C2, 0x1F8CF), (0x1F8D9, 0x1F8FF), (0x1FA58, 0x1FA5F), (0x1FA6E, 0x1FA6F),
    (0x1FA7D, 0x1FA7F), (0x1FA8B, 0x1FA8D), (0x1FAC7, 0x1FAC7), (0x1FAC9, 0x1FACC),
    (0x1FADD, 0x1FADE), (0x1FAEB, 0x1FAEE), (0x1FAF9, 0x1FAFF), (0x1FB93, 0x1FB93),
    (0x1FBFB, 0x1FFFF), (0x2A6E0, 0x2A6FF), (0x2B81E, 0x2B81F), (0x2CEAE, 0x2CEAF),
    (0x2EBE1, 0x2EBEF), (0x2EE5E, 0x2F7FF), (0x2FA1E, 0x2FFFF), (0x3134B, 0x3134F),
    (0x3347A, 0xE00FF), (0xE01F0, 0x10FFFF)]

/-- Characters that no domain may hold. -/
def disallowedRanges : List (Nat × Nat) :=
  disallowedRanges1 ++ disallowedRanges2

end SopDocs.Web
