import SystemMenu.Text.CodeTable

/-!
# Display width

How many terminal cells a text takes, character by character: East Asian wide characters and emoji take
two, combining marks, ignorable characters and the vowels and finals of decomposed Hangul take none, all
others one. The width of a text is the sum over its characters. Characters that are drawn as one, such as
an emoji and its modifier, are counted each on its own, so that a terminal may give such a text fewer cells
or more. Tables are laid out by any measure of width; this one is for running the program.
-/

namespace SystemMenu.Text

/-- The ranges of characters whose width is not one, each with its width. -/
def widthRows : List (Row Nat) := [
    ⟨0x00AD, 0x00AD, 0⟩, ⟨0x0300, 0x036F, 0⟩, ⟨0x0483, 0x0489, 0⟩, ⟨0x0591, 0x05BD, 0⟩,
    ⟨0x05BF, 0x05BF, 0⟩, ⟨0x05C1, 0x05C2, 0⟩, ⟨0x05C4, 0x05C5, 0⟩, ⟨0x05C7, 0x05C7, 0⟩,
    ⟨0x0605, 0x0605, 0⟩, ⟨0x0610, 0x061A, 0⟩, ⟨0x061C, 0x061C, 0⟩, ⟨0x064B, 0x065F, 0⟩,
    ⟨0x0670, 0x0670, 0⟩, ⟨0x06D6, 0x06DC, 0⟩, ⟨0x06DF, 0x06E4, 0⟩, ⟨0x06E7, 0x06E8, 0⟩,
    ⟨0x06EA, 0x06ED, 0⟩, ⟨0x070F, 0x070F, 0⟩, ⟨0x0711, 0x0711, 0⟩, ⟨0x0730, 0x074A, 0⟩,
    ⟨0x07A6, 0x07B0, 0⟩, ⟨0x07EB, 0x07F3, 0⟩, ⟨0x07FD, 0x07FD, 0⟩, ⟨0x0816, 0x0819, 0⟩,
    ⟨0x081B, 0x0823, 0⟩, ⟨0x0825, 0x0827, 0⟩, ⟨0x0829, 0x082D, 0⟩, ⟨0x0859, 0x085B, 0⟩,
    ⟨0x0890, 0x0891, 0⟩, ⟨0x0897, 0x089F, 0⟩, ⟨0x08CA, 0x0902, 0⟩, ⟨0x093A, 0x093A, 0⟩,
    ⟨0x093C, 0x093C, 0⟩, ⟨0x0941, 0x0948, 0⟩, ⟨0x094D, 0x094D, 0⟩, ⟨0x0951, 0x0957, 0⟩,
    ⟨0x0962, 0x0963, 0⟩, ⟨0x0981, 0x0981, 0⟩, ⟨0x09BC, 0x09BC, 0⟩, ⟨0x09BE, 0x09BE, 0⟩,
    ⟨0x09C1, 0x09C4, 0⟩, ⟨0x09CD, 0x09CD, 0⟩, ⟨0x09D7, 0x09D7, 0⟩, ⟨0x09E2, 0x09E3, 0⟩,
    ⟨0x09FE, 0x09FE, 0⟩, ⟨0x0A01, 0x0A02, 0⟩, ⟨0x0A3C, 0x0A3C, 0⟩, ⟨0x0A41, 0x0A42, 0⟩,
    ⟨0x0A47, 0x0A48, 0⟩, ⟨0x0A4B, 0x0A4D, 0⟩, ⟨0x0A51, 0x0A51, 0⟩, ⟨0x0A70, 0x0A71, 0⟩,
    ⟨0x0A75, 0x0A75, 0⟩, ⟨0x0A81, 0x0A82, 0⟩, ⟨0x0ABC, 0x0ABC, 0⟩, ⟨0x0AC1, 0x0AC5, 0⟩,
    ⟨0x0AC7, 0x0AC8, 0⟩, ⟨0x0ACD, 0x0ACD, 0⟩, ⟨0x0AE2, 0x0AE3, 0⟩, ⟨0x0AFA, 0x0AFF, 0⟩,
    ⟨0x0B01, 0x0B01, 0⟩, ⟨0x0B3C, 0x0B3C, 0⟩, ⟨0x0B3E, 0x0B3F, 0⟩, ⟨0x0B41, 0x0B44, 0⟩,
    ⟨0x0B4D, 0x0B4D, 0⟩, ⟨0x0B55, 0x0B57, 0⟩, ⟨0x0B62, 0x0B63, 0⟩, ⟨0x0B82, 0x0B82, 0⟩,
    ⟨0x0BBE, 0x0BBE, 0⟩, ⟨0x0BC0, 0x0BC0, 0⟩, ⟨0x0BCD, 0x0BCD, 0⟩, ⟨0x0BD7, 0x0BD7, 0⟩,
    ⟨0x0C00, 0x0C00, 0⟩, ⟨0x0C04, 0x0C04, 0⟩, ⟨0x0C3C, 0x0C3C, 0⟩, ⟨0x0C3E, 0x0C40, 0⟩,
    ⟨0x0C46, 0x0C48, 0⟩, ⟨0x0C4A, 0x0C4D, 0⟩, ⟨0x0C55, 0x0C56, 0⟩, ⟨0x0C62, 0x0C63, 0⟩,
    ⟨0x0C81, 0x0C81, 0⟩, ⟨0x0CBC, 0x0CBC, 0⟩, ⟨0x0CBF, 0x0CC0, 0⟩, ⟨0x0CC2, 0x0CC2, 0⟩,
    ⟨0x0CC6, 0x0CC8, 0⟩, ⟨0x0CCA, 0x0CCD, 0⟩, ⟨0x0CD5, 0x0CD6, 0⟩, ⟨0x0CE2, 0x0CE3, 0⟩,
    ⟨0x0D00, 0x0D01, 0⟩, ⟨0x0D3B, 0x0D3C, 0⟩, ⟨0x0D3E, 0x0D3E, 0⟩, ⟨0x0D41, 0x0D44, 0⟩,
    ⟨0x0D4D, 0x0D4D, 0⟩, ⟨0x0D57, 0x0D57, 0⟩, ⟨0x0D62, 0x0D63, 0⟩, ⟨0x0D81, 0x0D81, 0⟩,
    ⟨0x0DCA, 0x0DCA, 0⟩, ⟨0x0DCF, 0x0DCF, 0⟩, ⟨0x0DD2, 0x0DD4, 0⟩, ⟨0x0DD6, 0x0DD6, 0⟩,
    ⟨0x0DDF, 0x0DDF, 0⟩, ⟨0x0E31, 0x0E31, 0⟩, ⟨0x0E34, 0x0E3A, 0⟩, ⟨0x0E47, 0x0E4E, 0⟩,
    ⟨0x0EB1, 0x0EB1, 0⟩, ⟨0x0EB4, 0x0EBC, 0⟩, ⟨0x0EC8, 0x0ECE, 0⟩, ⟨0x0F18, 0x0F19, 0⟩,
    ⟨0x0F35, 0x0F35, 0⟩, ⟨0x0F37, 0x0F37, 0⟩, ⟨0x0F39, 0x0F39, 0⟩, ⟨0x0F71, 0x0F7E, 0⟩,
    ⟨0x0F80, 0x0F84, 0⟩, ⟨0x0F86, 0x0F87, 0⟩, ⟨0x0F8D, 0x0F97, 0⟩, ⟨0x0F99, 0x0FBC, 0⟩,
    ⟨0x0FC6, 0x0FC6, 0⟩, ⟨0x102D, 0x1030, 0⟩, ⟨0x1032, 0x1037, 0⟩, ⟨0x1039, 0x103A, 0⟩,
    ⟨0x103D, 0x103E, 0⟩, ⟨0x1058, 0x1059, 0⟩, ⟨0x105E, 0x1060, 0⟩, ⟨0x1071, 0x1074, 0⟩,
    ⟨0x1082, 0x1082, 0⟩, ⟨0x1085, 0x1086, 0⟩, ⟨0x108D, 0x108D, 0⟩, ⟨0x109D, 0x109D, 0⟩,
    ⟨0x1100, 0x115F, 2⟩, ⟨0x1160, 0x11FF, 0⟩, ⟨0x135D, 0x135F, 0⟩, ⟨0x1712, 0x1715, 0⟩,
    ⟨0x1732, 0x1734, 0⟩, ⟨0x1752, 0x1753, 0⟩, ⟨0x1772, 0x1773, 0⟩, ⟨0x17A4, 0x17A4, 2⟩,
    ⟨0x17B4, 0x17B5, 0⟩, ⟨0x17B7, 0x17BD, 0⟩, ⟨0x17C6, 0x17C6, 0⟩, ⟨0x17C9, 0x17D3, 0⟩,
    ⟨0x17D8, 0x17D8, 3⟩, ⟨0x17DD, 0x17DD, 0⟩, ⟨0x180B, 0x180F, 0⟩, ⟨0x1885, 0x1886, 0⟩,
    ⟨0x18A9, 0x18A9, 0⟩, ⟨0x1920, 0x1922, 0⟩, ⟨0x1927, 0x1928, 0⟩, ⟨0x1932, 0x1932, 0⟩,
    ⟨0x1939, 0x193B, 0⟩, ⟨0x1A17, 0x1A18, 0⟩, ⟨0x1A1B, 0x1A1B, 0⟩, ⟨0x1A56, 0x1A56, 0⟩,
    ⟨0x1A58, 0x1A5E, 0⟩, ⟨0x1A60, 0x1A60, 0⟩, ⟨0x1A62, 0x1A62, 0⟩, ⟨0x1A65, 0x1A6C, 0⟩,
    ⟨0x1A73, 0x1A7C, 0⟩, ⟨0x1A7F, 0x1A7F, 0⟩, ⟨0x1AB0, 0x1ADD, 0⟩, ⟨0x1AE0, 0x1AEB, 0⟩,
    ⟨0x1B00, 0x1B03, 0⟩, ⟨0x1B34, 0x1B3D, 0⟩, ⟨0x1B42, 0x1B44, 0⟩, ⟨0x1B6B, 0x1B73, 0⟩,
    ⟨0x1B80, 0x1B81, 0⟩, ⟨0x1BA2, 0x1BA5, 0⟩, ⟨0x1BA8, 0x1BAD, 0⟩, ⟨0x1BE6, 0x1BE6, 0⟩,
    ⟨0x1BE8, 0x1BE9, 0⟩, ⟨0x1BED, 0x1BED, 0⟩, ⟨0x1BEF, 0x1BF3, 0⟩, ⟨0x1C2C, 0x1C33, 0⟩,
    ⟨0x1C36, 0x1C37, 0⟩, ⟨0x1CD0, 0x1CD2, 0⟩, ⟨0x1CD4, 0x1CE0, 0⟩, ⟨0x1CE2, 0x1CE8, 0⟩,
    ⟨0x1CED, 0x1CED, 0⟩, ⟨0x1CF4, 0x1CF4, 0⟩, ⟨0x1CF8, 0x1CF9, 0⟩, ⟨0x1DC0, 0x1DFF, 0⟩,
    ⟨0x200B, 0x200F, 0⟩, ⟨0x202A, 0x202E, 0⟩, ⟨0x2060, 0x206F, 0⟩, ⟨0x20D0, 0x20F0, 0⟩,
    ⟨0x231A, 0x231B, 2⟩, ⟨0x2329, 0x232A, 2⟩, ⟨0x23E9, 0x23EC, 2⟩, ⟨0x23F0, 0x23F0, 2⟩,
    ⟨0x23F3, 0x23F3, 2⟩, ⟨0x25FD, 0x25FE, 2⟩, ⟨0x2614, 0x2615, 2⟩, ⟨0x2630, 0x2637, 2⟩,
    ⟨0x2648, 0x2653, 2⟩, ⟨0x267F, 0x267F, 2⟩, ⟨0x268A, 0x268F, 2⟩, ⟨0x2693, 0x2693, 2⟩,
    ⟨0x26A1, 0x26A1, 2⟩, ⟨0x26AA, 0x26AB, 2⟩, ⟨0x26BD, 0x26BE, 2⟩, ⟨0x26C4, 0x26C5, 2⟩,
    ⟨0x26CE, 0x26CE, 2⟩, ⟨0x26D4, 0x26D4, 2⟩, ⟨0x26EA, 0x26EA, 2⟩, ⟨0x26F2, 0x26F3, 2⟩,
    ⟨0x26F5, 0x26F5, 2⟩, ⟨0x26FA, 0x26FA, 2⟩, ⟨0x26FD, 0x26FD, 2⟩, ⟨0x2705, 0x2705, 2⟩,
    ⟨0x270A, 0x270B, 2⟩, ⟨0x2728, 0x2728, 2⟩, ⟨0x274C, 0x274C, 2⟩, ⟨0x274E, 0x274E, 2⟩,
    ⟨0x2753, 0x2755, 2⟩, ⟨0x2757, 0x2757, 2⟩, ⟨0x2795, 0x2797, 2⟩, ⟨0x27B0, 0x27B0, 2⟩,
    ⟨0x27BF, 0x27BF, 2⟩, ⟨0x2B1B, 0x2B1C, 2⟩, ⟨0x2B50, 0x2B50, 2⟩, ⟨0x2B55, 0x2B55, 2⟩,
    ⟨0x2CEF, 0x2CF1, 0⟩, ⟨0x2DE0, 0x2DFF, 0⟩, ⟨0x2E80, 0x2E99, 2⟩, ⟨0x2E9B, 0x2EF3, 2⟩,
    ⟨0x2F00, 0x2FD5, 2⟩, ⟨0x2FF0, 0x3029, 2⟩, ⟨0x302A, 0x302F, 0⟩, ⟨0x3030, 0x303E, 2⟩,
    ⟨0x3041, 0x3096, 2⟩, ⟨0x3099, 0x309A, 0⟩, ⟨0x309B, 0x30FF, 2⟩, ⟨0x3105, 0x312F, 2⟩,
    ⟨0x3131, 0x3163, 2⟩, ⟨0x3164, 0x3164, 0⟩, ⟨0x3165, 0x318E, 2⟩, ⟨0x3190, 0x31E5, 2⟩,
    ⟨0x31EF, 0x321E, 2⟩, ⟨0x3220, 0x3247, 2⟩, ⟨0x3250, 0xA48C, 2⟩, ⟨0xA490, 0xA4C6, 2⟩,
    ⟨0xA66F, 0xA672, 0⟩, ⟨0xA674, 0xA67D, 0⟩, ⟨0xA69E, 0xA69F, 0⟩, ⟨0xA6F0, 0xA6F1, 0⟩,
    ⟨0xA802, 0xA802, 0⟩, ⟨0xA806, 0xA806, 0⟩, ⟨0xA80B, 0xA80B, 0⟩, ⟨0xA825, 0xA826, 0⟩,
    ⟨0xA82C, 0xA82C, 0⟩, ⟨0xA8C4, 0xA8C5, 0⟩, ⟨0xA8E0, 0xA8F1, 0⟩, ⟨0xA8FA, 0xA8FA, 0⟩,
    ⟨0xA8FF, 0xA8FF, 0⟩, ⟨0xA926, 0xA92D, 0⟩, ⟨0xA947, 0xA951, 0⟩, ⟨0xA953, 0xA953, 0⟩,
    ⟨0xA960, 0xA97C, 2⟩, ⟨0xA980, 0xA982, 0⟩, ⟨0xA9B3, 0xA9B3, 0⟩, ⟨0xA9B6, 0xA9B9, 0⟩,
    ⟨0xA9BC, 0xA9BD, 0⟩, ⟨0xA9C0, 0xA9C0, 0⟩, ⟨0xA9E5, 0xA9E5, 0⟩, ⟨0xAA29, 0xAA2E, 0⟩,
    ⟨0xAA31, 0xAA32, 0⟩, ⟨0xAA35, 0xAA36, 0⟩, ⟨0xAA43, 0xAA43, 0⟩, ⟨0xAA4C, 0xAA4C, 0⟩,
    ⟨0xAA7C, 0xAA7C, 0⟩, ⟨0xAAB0, 0xAAB0, 0⟩, ⟨0xAAB2, 0xAAB4, 0⟩, ⟨0xAAB7, 0xAAB8, 0⟩,
    ⟨0xAABE, 0xAABF, 0⟩, ⟨0xAAC1, 0xAAC1, 0⟩, ⟨0xAAEC, 0xAAED, 0⟩, ⟨0xAAF6, 0xAAF6, 0⟩,
    ⟨0xABE5, 0xABE5, 0⟩, ⟨0xABE8, 0xABE8, 0⟩, ⟨0xABED, 0xABED, 0⟩, ⟨0xAC00, 0xD7A3, 2⟩,
    ⟨0xD7B0, 0xD7C6, 0⟩, ⟨0xD7CB, 0xD7FB, 0⟩, ⟨0xF900, 0xFAFF, 2⟩, ⟨0xFB1E, 0xFB1E, 0⟩,
    ⟨0xFE00, 0xFE0F, 0⟩, ⟨0xFE10, 0xFE19, 2⟩, ⟨0xFE20, 0xFE2F, 0⟩, ⟨0xFE30, 0xFE52, 2⟩,
    ⟨0xFE54, 0xFE66, 2⟩, ⟨0xFE68, 0xFE6B, 2⟩, ⟨0xFEFF, 0xFEFF, 0⟩, ⟨0xFF01, 0xFF60, 2⟩,
    ⟨0xFFA0, 0xFFA0, 0⟩, ⟨0xFFE0, 0xFFE6, 2⟩, ⟨0xFFF0, 0xFFF8, 0⟩, ⟨0x101FD, 0x101FD, 0⟩,
    ⟨0x102E0, 0x102E0, 0⟩, ⟨0x10376, 0x1037A, 0⟩, ⟨0x10A01, 0x10A03, 0⟩, ⟨0x10A05, 0x10A06, 0⟩,
    ⟨0x10A0C, 0x10A0F, 0⟩, ⟨0x10A38, 0x10A3A, 0⟩, ⟨0x10A3F, 0x10A3F, 0⟩, ⟨0x10AE5, 0x10AE6, 0⟩,
    ⟨0x10D24, 0x10D27, 0⟩, ⟨0x10D69, 0x10D6D, 0⟩, ⟨0x10EAB, 0x10EAC, 0⟩, ⟨0x10EFA, 0x10EFF, 0⟩,
    ⟨0x10F46, 0x10F50, 0⟩, ⟨0x10F82, 0x10F85, 0⟩, ⟨0x11001, 0x11001, 0⟩, ⟨0x11038, 0x11046, 0⟩,
    ⟨0x11070, 0x11070, 0⟩, ⟨0x11073, 0x11074, 0⟩, ⟨0x1107F, 0x11081, 0⟩, ⟨0x110B3, 0x110B6, 0⟩,
    ⟨0x110B9, 0x110BA, 0⟩, ⟨0x110C2, 0x110C2, 0⟩, ⟨0x11100, 0x11102, 0⟩, ⟨0x11127, 0x1112B, 0⟩,
    ⟨0x1112D, 0x11134, 0⟩, ⟨0x11173, 0x11173, 0⟩, ⟨0x11180, 0x11181, 0⟩, ⟨0x111B6, 0x111BE, 0⟩,
    ⟨0x111C0, 0x111C0, 0⟩, ⟨0x111C9, 0x111CC, 0⟩, ⟨0x111CF, 0x111CF, 0⟩, ⟨0x1122F, 0x11231, 0⟩,
    ⟨0x11234, 0x11237, 0⟩, ⟨0x1123E, 0x1123E, 0⟩, ⟨0x11241, 0x11241, 0⟩, ⟨0x112DF, 0x112DF, 0⟩,
    ⟨0x112E3, 0x112EA, 0⟩, ⟨0x11300, 0x11301, 0⟩, ⟨0x1133B, 0x1133C, 0⟩, ⟨0x1133E, 0x1133E, 0⟩,
    ⟨0x11340, 0x11340, 0⟩, ⟨0x1134D, 0x1134D, 0⟩, ⟨0x11357, 0x11357, 0⟩, ⟨0x11366, 0x1136C, 0⟩,
    ⟨0x11370, 0x11374, 0⟩, ⟨0x113B8, 0x113B8, 0⟩, ⟨0x113BB, 0x113C0, 0⟩, ⟨0x113C2, 0x113C2, 0⟩,
    ⟨0x113C5, 0x113C5, 0⟩, ⟨0x113C7, 0x113C9, 0⟩, ⟨0x113CE, 0x113D0, 0⟩, ⟨0x113D2, 0x113D2, 0⟩,
    ⟨0x113E1, 0x113E2, 0⟩, ⟨0x11438, 0x1143F, 0⟩, ⟨0x11442, 0x11444, 0⟩, ⟨0x11446, 0x11446, 0⟩,
    ⟨0x1145E, 0x1145E, 0⟩, ⟨0x114B0, 0x114B0, 0⟩, ⟨0x114B3, 0x114B8, 0⟩, ⟨0x114BA, 0x114BA, 0⟩,
    ⟨0x114BD, 0x114BD, 0⟩, ⟨0x114BF, 0x114C0, 0⟩, ⟨0x114C2, 0x114C3, 0⟩, ⟨0x115AF, 0x115AF, 0⟩,
    ⟨0x115B2, 0x115B5, 0⟩, ⟨0x115BC, 0x115BD, 0⟩, ⟨0x115BF, 0x115C0, 0⟩, ⟨0x115DC, 0x115DD, 0⟩,
    ⟨0x11633, 0x1163A, 0⟩, ⟨0x1163D, 0x1163D, 0⟩, ⟨0x1163F, 0x11640, 0⟩, ⟨0x116AB, 0x116AB, 0⟩,
    ⟨0x116AD, 0x116AD, 0⟩, ⟨0x116B0, 0x116B7, 0⟩, ⟨0x1171D, 0x1171D, 0⟩, ⟨0x1171F, 0x1171F, 0⟩,
    ⟨0x11722, 0x11725, 0⟩, ⟨0x11727, 0x1172B, 0⟩, ⟨0x1182F, 0x11837, 0⟩, ⟨0x11839, 0x1183A, 0⟩,
    ⟨0x11930, 0x11930, 0⟩, ⟨0x1193B, 0x1193E, 0⟩, ⟨0x11943, 0x11943, 0⟩, ⟨0x119D4, 0x119D7, 0⟩,
    ⟨0x119DA, 0x119DB, 0⟩, ⟨0x119E0, 0x119E0, 0⟩, ⟨0x11A01, 0x11A0A, 0⟩, ⟨0x11A33, 0x11A38, 0⟩,
    ⟨0x11A3B, 0x11A3E, 0⟩, ⟨0x11A47, 0x11A47, 0⟩, ⟨0x11A51, 0x11A56, 0⟩, ⟨0x11A59, 0x11A5B, 0⟩,
    ⟨0x11A8A, 0x11A96, 0⟩, ⟨0x11A98, 0x11A99, 0⟩, ⟨0x11B60, 0x11B60, 0⟩, ⟨0x11B62, 0x11B64, 0⟩,
    ⟨0x11B66, 0x11B66, 0⟩, ⟨0x11C30, 0x11C36, 0⟩, ⟨0x11C38, 0x11C3D, 0⟩, ⟨0x11C3F, 0x11C3F, 0⟩,
    ⟨0x11C92, 0x11CA7, 0⟩, ⟨0x11CAA, 0x11CB0, 0⟩, ⟨0x11CB2, 0x11CB3, 0⟩, ⟨0x11CB5, 0x11CB6, 0⟩,
    ⟨0x11D31, 0x11D36, 0⟩, ⟨0x11D3A, 0x11D3A, 0⟩, ⟨0x11D3C, 0x11D3D, 0⟩, ⟨0x11D3F, 0x11D45, 0⟩,
    ⟨0x11D47, 0x11D47, 0⟩, ⟨0x11D90, 0x11D91, 0⟩, ⟨0x11D95, 0x11D95, 0⟩, ⟨0x11D97, 0x11D97, 0⟩,
    ⟨0x11EF3, 0x11EF4, 0⟩, ⟨0x11F00, 0x11F01, 0⟩, ⟨0x11F36, 0x11F3A, 0⟩, ⟨0x11F40, 0x11F42, 0⟩,
    ⟨0x11F5A, 0x11F5A, 0⟩, ⟨0x13440, 0x13440, 0⟩, ⟨0x13447, 0x13455, 0⟩, ⟨0x1611E, 0x16129, 0⟩,
    ⟨0x1612D, 0x1612F, 0⟩, ⟨0x16AF0, 0x16AF4, 0⟩, ⟨0x16B30, 0x16B36, 0⟩, ⟨0x16F4F, 0x16F4F, 0⟩,
    ⟨0x16F8F, 0x16F92, 0⟩, ⟨0x16FE0, 0x16FE3, 2⟩, ⟨0x16FE4, 0x16FE4, 0⟩, ⟨0x16FF0, 0x16FF1, 0⟩,
    ⟨0x16FF2, 0x16FF6, 2⟩, ⟨0x17000, 0x18CD5, 2⟩, ⟨0x18CFF, 0x18D1E, 2⟩, ⟨0x18D80, 0x18DF2, 2⟩,
    ⟨0x1AFF0, 0x1AFF3, 2⟩, ⟨0x1AFF5, 0x1AFFB, 2⟩, ⟨0x1AFFD, 0x1AFFE, 2⟩, ⟨0x1B000, 0x1B122, 2⟩,
    ⟨0x1B132, 0x1B132, 2⟩, ⟨0x1B150, 0x1B152, 2⟩, ⟨0x1B155, 0x1B155, 2⟩, ⟨0x1B164, 0x1B167, 2⟩,
    ⟨0x1B170, 0x1B2FB, 2⟩, ⟨0x1BC9D, 0x1BC9E, 0⟩, ⟨0x1BCA0, 0x1BCA3, 0⟩, ⟨0x1CF00, 0x1CF2D, 0⟩,
    ⟨0x1CF30, 0x1CF46, 0⟩, ⟨0x1D165, 0x1D169, 0⟩, ⟨0x1D16D, 0x1D182, 0⟩, ⟨0x1D185, 0x1D18B, 0⟩,
    ⟨0x1D1AA, 0x1D1AD, 0⟩, ⟨0x1D242, 0x1D244, 0⟩, ⟨0x1D300, 0x1D356, 2⟩, ⟨0x1D360, 0x1D376, 2⟩,
    ⟨0x1DA00, 0x1DA36, 0⟩, ⟨0x1DA3B, 0x1DA6C, 0⟩, ⟨0x1DA75, 0x1DA75, 0⟩, ⟨0x1DA84, 0x1DA84, 0⟩,
    ⟨0x1DA9B, 0x1DA9F, 0⟩, ⟨0x1DAA1, 0x1DAAF, 0⟩, ⟨0x1E000, 0x1E006, 0⟩, ⟨0x1E008, 0x1E018, 0⟩,
    ⟨0x1E01B, 0x1E021, 0⟩, ⟨0x1E023, 0x1E024, 0⟩, ⟨0x1E026, 0x1E02A, 0⟩, ⟨0x1E08F, 0x1E08F, 0⟩,
    ⟨0x1E130, 0x1E136, 0⟩, ⟨0x1E2AE, 0x1E2AE, 0⟩, ⟨0x1E2EC, 0x1E2EF, 0⟩, ⟨0x1E4EC, 0x1E4EF, 0⟩,
    ⟨0x1E5EE, 0x1E5EF, 0⟩, ⟨0x1E6E3, 0x1E6E3, 0⟩, ⟨0x1E6E6, 0x1E6E6, 0⟩, ⟨0x1E6EE, 0x1E6EF, 0⟩,
    ⟨0x1E6F5, 0x1E6F5, 0⟩, ⟨0x1E8D0, 0x1E8D6, 0⟩, ⟨0x1E944, 0x1E94A, 0⟩, ⟨0x1F004, 0x1F004, 2⟩,
    ⟨0x1F0CF, 0x1F0CF, 2⟩, ⟨0x1F18E, 0x1F18E, 2⟩, ⟨0x1F191, 0x1F19A, 2⟩, ⟨0x1F200, 0x1F202, 2⟩,
    ⟨0x1F210, 0x1F23B, 2⟩, ⟨0x1F240, 0x1F248, 2⟩, ⟨0x1F250, 0x1F251, 2⟩, ⟨0x1F260, 0x1F265, 2⟩,
    ⟨0x1F300, 0x1F320, 2⟩, ⟨0x1F32D, 0x1F335, 2⟩, ⟨0x1F337, 0x1F37C, 2⟩, ⟨0x1F37E, 0x1F393, 2⟩,
    ⟨0x1F3A0, 0x1F3CA, 2⟩, ⟨0x1F3CF, 0x1F3D3, 2⟩, ⟨0x1F3E0, 0x1F3F0, 2⟩, ⟨0x1F3F4, 0x1F3F4, 2⟩,
    ⟨0x1F3F8, 0x1F43E, 2⟩, ⟨0x1F440, 0x1F440, 2⟩, ⟨0x1F442, 0x1F4FC, 2⟩, ⟨0x1F4FF, 0x1F53D, 2⟩,
    ⟨0x1F54B, 0x1F54E, 2⟩, ⟨0x1F550, 0x1F567, 2⟩, ⟨0x1F57A, 0x1F57A, 2⟩, ⟨0x1F595, 0x1F596, 2⟩,
    ⟨0x1F5A4, 0x1F5A4, 2⟩, ⟨0x1F5FB, 0x1F64F, 2⟩, ⟨0x1F680, 0x1F6C5, 2⟩, ⟨0x1F6CC, 0x1F6CC, 2⟩,
    ⟨0x1F6D0, 0x1F6D2, 2⟩, ⟨0x1F6D5, 0x1F6D8, 2⟩, ⟨0x1F6DC, 0x1F6DF, 2⟩, ⟨0x1F6EB, 0x1F6EC, 2⟩,
    ⟨0x1F6F4, 0x1F6FC, 2⟩, ⟨0x1F7E0, 0x1F7EB, 2⟩, ⟨0x1F7F0, 0x1F7F0, 2⟩, ⟨0x1F90C, 0x1F93A, 2⟩,
    ⟨0x1F93C, 0x1F945, 2⟩, ⟨0x1F947, 0x1F9FF, 2⟩, ⟨0x1FA70, 0x1FA7C, 2⟩, ⟨0x1FA80, 0x1FA8A, 2⟩,
    ⟨0x1FA8E, 0x1FAC6, 2⟩, ⟨0x1FAC8, 0x1FAC8, 2⟩, ⟨0x1FACD, 0x1FADC, 2⟩, ⟨0x1FADF, 0x1FAEA, 2⟩,
    ⟨0x1FAEF, 0x1FAF8, 2⟩, ⟨0x20000, 0x2FFFD, 2⟩, ⟨0x30000, 0x3FFFD, 2⟩, ⟨0xE0000, 0xE0FFF, 0⟩]

/-- Search tree of the display widths. -/
def widthTable : CodeTable Nat := .ofRows widthRows

/-- Cells that one character takes. -/
def charWidth (c : Char) : Nat := (widthTable.find? c.toNat).elim 1 Row.value

/-- Cells that a text takes, if its characters are drawn one by one. -/
def displayWidth (text : List Char) : Nat := text.foldr (fun c width => charWidth c + width) 0

@[simp] theorem displayWidth_nil : displayWidth [] = 0 := rfl

@[simp] theorem displayWidth_cons (c : Char) (text : List Char) :
    displayWidth (c :: text) = charWidth c + displayWidth text := rfl

/-- Widths add when texts are joined. -/
@[simp] theorem displayWidth_append (a b : List Char) :
    displayWidth (a ++ b) = displayWidth a + displayWidth b := by
  induction a with
  | nil => simp
  | cons c rest ih => simp [ih, Nat.add_assoc]

end SystemMenu.Text
