import ClassList.Collation.Algorithm

/-! An excerpt of the tables that collation is run on: ASCII, and a few hundred other characters to run
and to illustrate the algorithm with. The whole tables hold tens of thousands of characters and belong to
the collation package. Texts of ASCII have the sort keys here that they have there. Beyond ASCII the excerpt
knows primary weights only, and a text with a character that it lacks can have another key there. -/

namespace ClassList.Collation

namespace Excerpt

/-- The primary weights of the code points of ASCII, all of them. A code point without any is passed over. -/
def asciiWeights : List (Nat × List Nat) :=
  [(0x0000, []), (0x0001, []), (0x0002, []), (0x0003, []), (0x0004, []), (0x0005, []), (0x0006, []),
    (0x0007, []), (0x0008, []), (0x0009, [0x0201]), (0x000A, [0x0202]), (0x000B, [0x0203]),
    (0x000C, [0x0204]), (0x000D, [0x0205]), (0x000E, []), (0x000F, []), (0x0010, []), (0x0011, []),
    (0x0012, []), (0x0013, []), (0x0014, []), (0x0015, []), (0x0016, []), (0x0017, []),
    (0x0018, []), (0x0019, []), (0x001A, []), (0x001B, []), (0x001C, []), (0x001D, []),
    (0x001E, []), (0x001F, []), (0x0020, [0x0209]), (0x0021, [0x0260]), (0x0022, [0x030C]),
    (0x0023, [0x0398]), (0x0024, [0x1C12]), (0x0025, [0x0399]), (0x0026, [0x0396]),
    (0x0027, [0x0305]), (0x0028, [0x0317]), (0x0029, [0x0318]), (0x002A, [0x038F]),
    (0x002B, [0x0616]), (0x002C, [0x0222]), (0x002D, [0x020D]), (0x002E, [0x0277]),
    (0x002F, [0x0394]), (0x0030, [0x1C3D]), (0x0031, [0x1C3E]), (0x0032, [0x1C3F]),
    (0x0033, [0x1C40]), (0x0034, [0x1C41]), (0x0035, [0x1C42]), (0x0036, [0x1C43]),
    (0x0037, [0x1C44]), (0x0038, [0x1C45]), (0x0039, [0x1C46]), (0x003A, [0x0239]),
    (0x003B, [0x0234]), (0x003C, [0x061A]), (0x003D, [0x061B]), (0x003E, [0x061C]),
    (0x003F, [0x0266]), (0x0040, [0x038E]), (0x0041, [0x1C47]), (0x0042, [0x1C60]),
    (0x0043, [0x1C7A]), (0x0044, [0x1C8F]), (0x0045, [0x1CAA]), (0x0046, [0x1CE5]),
    (0x0047, [0x1CF4]), (0x0048, [0x1D18]), (0x0049, [0x1D32]), (0x004A, [0x1D4C]),
    (0x004B, [0x1D65]), (0x004C, [0x1D77]), (0x004D, [0x1DAA]), (0x004E, [0x1DB9]),
    (0x004F, [0x1DDD]), (0x0050, [0x1E0C]), (0x0051, [0x1E21]), (0x0052, [0x1E33]),
    (0x0053, [0x1E71]), (0x0054, [0x1E95]), (0x0055, [0x1EB5]), (0x0056, [0x1EE3]),
    (0x0057, [0x1EF5]), (0x0058, [0x1EFF]), (0x0059, [0x1F0B]), (0x005A, [0x1F21]),
    (0x005B, [0x0319]), (0x005C, [0x0395]), (0x005D, [0x031A]), (0x005E, [0x0485]),
    (0x005F, [0x020B]), (0x0060, [0x0482]), (0x0061, [0x1C47]), (0x0062, [0x1C60]),
    (0x0063, [0x1C7A]), (0x0064, [0x1C8F]), (0x0065, [0x1CAA]), (0x0066, [0x1CE5]),
    (0x0067, [0x1CF4]), (0x0068, [0x1D18]), (0x0069, [0x1D32]), (0x006A, [0x1D4C]),
    (0x006B, [0x1D65]), (0x006C, [0x1D77]), (0x006D, [0x1DAA]), (0x006E, [0x1DB9]),
    (0x006F, [0x1DDD]), (0x0070, [0x1E0C]), (0x0071, [0x1E21]), (0x0072, [0x1E33]),
    (0x0073, [0x1E71]), (0x0074, [0x1E95]), (0x0075, [0x1EB5]), (0x0076, [0x1EE3]),
    (0x0077, [0x1EF5]), (0x0078, [0x1EFF]), (0x0079, [0x1F0B]), (0x007A, [0x1F21]),
    (0x007B, [0x031B]), (0x007C, [0x061E]), (0x007D, [0x031C]), (0x007E, [0x0620]), (0x007F, [])]

/-- The primary weights of some other code points. Weights of zero are left out. -/
def otherWeights : List (Nat × List Nat) :=
  [(0x0080, []), (0x0081, []), (0x0082, []), (0x0083, []), (0x0084, []), (0x0085, [0x0206]),
    (0x0086, []), (0x0087, []), (0x0088, []), (0x0089, []), (0x008A, []), (0x008B, []),
    (0x008C, []), (0x008D, []), (0x008E, []), (0x008F, []), (0x0090, []), (0x0091, []),
    (0x0092, []), (0x0093, []), (0x0094, []), (0x0095, []), (0x0096, []), (0x0097, []),
    (0x0098, []), (0x0099, []), (0x009A, []), (0x009B, []), (0x009C, []), (0x009D, []),
    (0x009E, []), (0x009F, []), (0x00A0, [0x0209]), (0x00A1, [0x0261]), (0x00A2, [0x1C11]),
    (0x00A3, [0x1C13]), (0x00A4, [0x1C10]), (0x00A5, [0x1C14]), (0x00A6, [0x061F]),
    (0x00A7, [0x0389]), (0x00A8, [0x0489]), (0x00A9, [0x0584]), (0x00AA, [0x1C47]),
    (0x00AB, [0x0315]), (0x00AC, [0x061D]), (0x00AD, []), (0x00AE, [0x0585]), (0x00AF, [0x0486]),
    (0x00B0, [0x04F6]), (0x00B1, [0x0617]), (0x00B2, [0x1C3F]), (0x00B3, [0x1C40]),
    (0x00B4, [0x0483]), (0x00B5, [0x1FCB]), (0x00B6, [0x038B]), (0x00B7, [0x028B]),
    (0x00B8, [0x048C]), (0x00B9, [0x1C3E]), (0x00BA, [0x1DDD]), (0x00BB, [0x0316]),
    (0x00BC, [0x1C3E, 0x0626, 0x1C41]), (0x00BD, [0x1C3E, 0x0626, 0x1C3F]),
    (0x00BE, [0x1C40, 0x0626, 0x1C41]), (0x00BF, [0x0267]), (0x00C6, [0x1C47, 0x1CAA]),
    (0x00D0, [0x1C8F]), (0x00D7, [0x0619]), (0x00D8, [0x1DDD]), (0x00DE, [0x1F50]),
    (0x00DF, [0x1E71, 0x1E71]), (0x00E6, [0x1C47, 0x1CAA]), (0x00F0, [0x1C8F]), (0x00F7, [0x0618]),
    (0x00F8, [0x1DDD]), (0x00FE, [0x1F50]), (0x0110, [0x1C8F]), (0x0111, [0x1C8F]),
    (0x0126, [0x1D18]), (0x0127, [0x1D18]), (0x0131, [0x1D36]), (0x0132, [0x1D32, 0x1D4C]),
    (0x0133, [0x1D32, 0x1D4C]), (0x0138, [0x1E2F]), (0x013F, [0x1D77]), (0x0140, [0x1D77]),
    (0x0141, [0x1D77]), (0x0142, [0x1D77]), (0x0149, [0x1F7E, 0x1DB9]), (0x014A, [0x1DD8]),
    (0x014B, [0x1DD8]), (0x0152, [0x1DDD, 0x1CAA]), (0x0153, [0x1DDD, 0x1CAA]), (0x0166, [0x1E9A]),
    (0x0167, [0x1E9A]), (0x017F, [0x1E71]), (0x01C4, [0x1C8F, 0x1F21]), (0x01C6, [0x1C8F, 0x1F21]),
    (0x0300, []), (0x0301, []), (0x0302, []), (0x0303, []), (0x0304, []), (0x0306, []),
    (0x0307, []), (0x0308, []), (0x030A, []), (0x030B, []), (0x030C, []), (0x0323, []),
    (0x0327, []), (0x0328, []), (0x0334, []), (0x0345, []), (0x0391, [0x1FB9]), (0x0392, [0x1FBA]),
    (0x0393, [0x1FBB]), (0x0394, [0x1FBD]), (0x0395, [0x1FBE]), (0x0396, [0x1FC2]),
    (0x0397, [0x1FC4]), (0x0398, [0x1FC5]), (0x0399, [0x1FC6]), (0x039A, [0x1FC8]),
    (0x039B, [0x1FC9]), (0x039C, [0x1FCB]), (0x039D, [0x1FCC]), (0x039E, [0x1FCD]),
    (0x039F, [0x1FCE]), (0x03A0, [0x1FCF]), (0x03A1, [0x1FD4]), (0x03A3, [0x1FD7]),
    (0x03A4, [0x1FDB]), (0x03A5, [0x1FDC]), (0x03A6, [0x1FDD]), (0x03A7, [0x1FDE]),
    (0x03A8, [0x1FDF]), (0x03A9, [0x1FE1]), (0x03B1, [0x1FB9]), (0x03B2, [0x1FBA]),
    (0x03B3, [0x1FBB]), (0x03B4, [0x1FBD]), (0x03B5, [0x1FBE]), (0x03B6, [0x1FC2]),
    (0x03B7, [0x1FC4]), (0x03B8, [0x1FC5]), (0x03B9, [0x1FC6]), (0x03BA, [0x1FC8]),
    (0x03BB, [0x1FC9]), (0x03BC, [0x1FCB]), (0x03BD, [0x1FCC]), (0x03BE, [0x1FCD]),
    (0x03BF, [0x1FCE]), (0x03C0, [0x1FCF]), (0x03C1, [0x1FD4]), (0x03C2, [0x1FD7]),
    (0x03C3, [0x1FD7]), (0x03C4, [0x1FDB]), (0x03C5, [0x1FDC]), (0x03C6, [0x1FDD]),
    (0x03C7, [0x1FDE]), (0x03C8, [0x1FDF]), (0x03C9, [0x1FE1]), (0x0402, [0x2050]),
    (0x0404, [0x205E]), (0x0405, [0x2074]), (0x0406, [0x2088]), (0x0408, [0x2091]),
    (0x0409, [0x20BC]), (0x040A, [0x20E2]), (0x040B, [0x2119]), (0x040F, [0x217F]),
    (0x0410, [0x2022]), (0x0411, [0x202E]), (0x0412, [0x2032]), (0x0413, [0x2036]),
    (0x0414, [0x204A]), (0x0415, [0x205A]), (0x0416, [0x2062]), (0x0417, [0x206C]),
    (0x0418, [0x2080]), (0x041A, [0x2096]), (0x041B, [0x20B0]), (0x041C, [0x20C3]),
    (0x041D, [0x20CC]), (0x041E, [0x20E7]), (0x041F, [0x20EF]), (0x0420, [0x20FC]),
    (0x0421, [0x2105]), (0x0422, [0x210E]), (0x0423, [0x211D]), (0x0424, [0x212E]),
    (0x0425, [0x2132]), (0x0426, [0x2159]), (0x0427, [0x2164]), (0x0428, [0x2183]),
    (0x0429, [0x2188]), (0x042A, [0x218F]), (0x042B, [0x2194]), (0x042C, [0x2198]),
    (0x042D, [0x21A5]), (0x042E, [0x21A9]), (0x042F, [0x21AF]), (0x0430, [0x2022]),
    (0x0431, [0x202E]), (0x0432, [0x2032]), (0x0433, [0x2036]), (0x0434, [0x204A]),
    (0x0435, [0x205A]), (0x0436, [0x2062]), (0x0437, [0x206C]), (0x0438, [0x2080]),
    (0x043A, [0x2096]), (0x043B, [0x20B0]), (0x043C, [0x20C3]), (0x043D, [0x20CC]),
    (0x043E, [0x20E7]), (0x043F, [0x20EF]), (0x0440, [0x20FC]), (0x0441, [0x2105]),
    (0x0442, [0x210E]), (0x0443, [0x211D]), (0x0444, [0x212E]), (0x0445, [0x2132]),
    (0x0446, [0x2159]), (0x0447, [0x2164]), (0x0448, [0x2183]), (0x0449, [0x2188]),
    (0x044A, [0x218F]), (0x044B, [0x2194]), (0x044C, [0x2198]), (0x044D, [0x21A5]),
    (0x044E, [0x21A9]), (0x044F, [0x21AF]), (0x0452, [0x2050]), (0x0454, [0x205E]),
    (0x0455, [0x2074]), (0x0456, [0x2088]), (0x0458, [0x2091]), (0x0459, [0x20BC]),
    (0x045A, [0x20E2]), (0x045B, [0x2119]), (0x045F, [0x217F]), (0x05BC, []), (0x05C1, []),
    (0x05D0, [0x22B7]), (0x05E9, [0x22CB]), (0x0627, [0x230B]), (0x0628, [0x230D]),
    (0x0644, [0x239C]), (0x0654, []), (0x0663, [0x1C40]), (0x0915, [0x2676]), (0x0937, [0x269C]),
    (0x094D, [0x26BE]), (0x0969, [0x1C40]), (0x0CC2, [0x2879]), (0x0CC6, [0x287E]),
    (0x0E01, [0x2D73]), (0x0E02, [0x2D74]), (0x0E32, [0x2DA4]), (0x0E40, [0x2DAD]),
    (0x0E41, [0x2DAE]), (0x0E81, [0x2DB4]), (0x0EC2, [0x2DE0]), (0x0F71, [0x2E76]),
    (0x0F72, [0x2E77]), (0x0F74, [0x2E7B]), (0x0F80, [0x2E79]), (0x0FB2, [0x2E60]),
    (0x1100, [0x3BF5]), (0x1102, [0x3BF7]), (0x1112, [0x3C07]), (0x1161, [0x3C73]),
    (0x1175, [0x3C87]), (0x11A8, [0x3CD1]), (0x11C2, [0x3CEB]), (0x180E, []),
    (0x1E9E, [0x1E71, 0x1E71]), (0x200B, []), (0x200C, []), (0x200D, []), (0x2013, [0x0215]),
    (0x2014, [0x0216]), (0x2018, [0x0306]), (0x201C, [0x030D]), (0x2026, [0x0277, 0x0277, 0x0277]),
    (0x2044, [0x0626]), (0x2060, []), (0x20AC, [0x1C2A]), (0x2116, [0x1DB9, 0x1DDD]),
    (0x2122, [0x1E95, 0x1DAA]), (0x2460, [0x1C3E]), (0x2764, [0x0A85]), (0x3000, [0x0209]),
    (0x3005, [0x1C07]), (0x3007, [0x1C3D]), (0x3031, [0x1C0A]), (0x304B, [0x3D60]),
    (0x304D, [0x3D61]), (0x3099, []), (0x30A0, [0x0220]), (0x30AB, [0x3D60]), (0x30FC, [0x1C0E]),
    (0x3300, [0x3D5A, 0x3D74, 0x1C0E, 0x3D6E]), (0x33D8, [0x1E0C, 0x0277, 0x1DAA, 0x0277]),
    (0xFA0E, [0xFB41, 0xFA0E]), (0xFB01, [0x1CE5, 0x1D32]), (0xFB03, [0x1CE5, 0x1CE5, 0x1D32]),
    (0xFDFA, [0x2364, 0x239C, 0x23C5, 0x0209, 0x230B, 0x239C, 0x239C, 0x23B1, 0x0209, 0x236E, 0x239C, 0x23C6, 0x23B1, 0x0209, 0x23B7, 0x2359, 0x239C, 0x23A3]),
    (0xFE0F, []), (0xFEFB, [0x239C, 0x230B]), (0xFEFF, []), (0xFF0D, [0x020D]), (0xFF11, [0x1C3E]),
    (0xFF21, [0x1C47]), (0xFF3B, [0x0319]), (0xFF3F, [0x020B]), (0xFF76, [0x3D60]), (0xFF9E, []),
    (0xFFFD, [0xFFFD]), (0x1D400, [0x1C47]), (0x1F389, [0x1332]), (0x1F469, [0x1412]),
    (0x1F4BB, [0x1464]), (0xE0001, [])]

/-- The primary weights of some sequences of code points that are weighed as one. -/
def sequenceWeights : List (List Nat × List Nat) :=
  [([0x004C, 0x00B7], [0x1D77]), ([0x006C, 0x00B7], [0x1D77]), ([0x0418, 0x0306], [0x208D]),
    ([0x0438, 0x0306], [0x208D]), ([0x0627, 0x0654], [0x22FF]), ([0x0CC6, 0x0CC2], [0x2881]),
    ([0x0E40, 0x0E01], [0x2D73, 0x2DAD]), ([0x0E40, 0x0E02], [0x2D74, 0x2DAD]),
    ([0x0E41, 0x0E01], [0x2D73, 0x2DAE]), ([0x0E41, 0x0E02], [0x2D74, 0x2DAE]),
    ([0x0EC2, 0x0E81], [0x2DB4, 0x2DE0]), ([0x0F71, 0x0F72], [0x2E78]),
    ([0x0F71, 0x0F74], [0x2E7C]), ([0x0F71, 0x0F80], [0x2E7A]),
    ([0x0FB2, 0x0F71, 0x0F80], [0x2E7E]), ([0x0FB2, 0x0F80], [0x2E7D])]

/-- The element of a code point of ASCII, where only the third level tells a capital from its small letter. -/
def asciiElement (c weight : Nat) : Element :=
  [weight, 0x20, if 0x41 ≤ c ∧ c ≤ 0x5A then 8 else 2]

/-- The elements of a sequence in this excerpt. -/
def lookup? : List Nat → Option (List Element)
  | [c] =>
    if c < 0x80 then (asciiWeights.lookup c).map (·.map (asciiElement c))
    else (otherWeights.lookup c).map (·.map fun weight => [weight])
  | cs => (sequenceWeights.lookup cs).map (·.map fun weight => [weight])

/-- The weights of a code point without an entry: a leading weight for its block and one
for its place in the block. -/
def implicitWeights (c : Nat) : List Nat :=
  let compatibility :=
    [0xFA0E, 0xFA0F, 0xFA11, 0xFA13, 0xFA14, 0xFA1F, 0xFA21, 0xFA23, 0xFA24, 0xFA27, 0xFA28, 0xFA29]
  let lead (base : Nat) := [base + c / 0x8000, 0x8000 + c % 0x8000]
  if (0x4E00 ≤ c ∧ c ≤ 0x9FD5) ∨ c ∈ compatibility then lead 0xFB40
  else if (0x3400 ≤ c ∧ c ≤ 0x4DB5) ∨ (0x20000 ≤ c ∧ c ≤ 0x2A6D6) ∨ (0x2A700 ≤ c ∧ c ≤ 0x2B734) ∨
      (0x2B740 ≤ c ∧ c ≤ 0x2B81D) ∨ (0x2B820 ≤ c ∧ c ≤ 0x2CEAF ∧ c ≠ 0x2CEA2) then lead 0xFB80
  else if 0x17000 ≤ c ∧ c ≤ 0x18AFF then [0xFB00, 0x8000 + (c - 0x17000)]
  else lead 0xFBC0

/-- Full canonical decompositions of some characters that are not Hangul syllables. -/
def decompositions : List (Nat × List Nat) :=
  [(0x00C0, [0x0041, 0x0300]), (0x00C1, [0x0041, 0x0301]), (0x00C2, [0x0041, 0x0302]),
    (0x00C3, [0x0041, 0x0303]), (0x00C4, [0x0041, 0x0308]), (0x00C5, [0x0041, 0x030A]),
    (0x00C7, [0x0043, 0x0327]), (0x00C8, [0x0045, 0x0300]), (0x00C9, [0x0045, 0x0301]),
    (0x00CA, [0x0045, 0x0302]), (0x00CB, [0x0045, 0x0308]), (0x00CC, [0x0049, 0x0300]),
    (0x00CD, [0x0049, 0x0301]), (0x00CE, [0x0049, 0x0302]), (0x00CF, [0x0049, 0x0308]),
    (0x00D1, [0x004E, 0x0303]), (0x00D2, [0x004F, 0x0300]), (0x00D3, [0x004F, 0x0301]),
    (0x00D4, [0x004F, 0x0302]), (0x00D5, [0x004F, 0x0303]), (0x00D6, [0x004F, 0x0308]),
    (0x00D9, [0x0055, 0x0300]), (0x00DA, [0x0055, 0x0301]), (0x00DB, [0x0055, 0x0302]),
    (0x00DC, [0x0055, 0x0308]), (0x00DD, [0x0059, 0x0301]), (0x00E0, [0x0061, 0x0300]),
    (0x00E1, [0x0061, 0x0301]), (0x00E2, [0x0061, 0x0302]), (0x00E3, [0x0061, 0x0303]),
    (0x00E4, [0x0061, 0x0308]), (0x00E5, [0x0061, 0x030A]), (0x00E7, [0x0063, 0x0327]),
    (0x00E8, [0x0065, 0x0300]), (0x00E9, [0x0065, 0x0301]), (0x00EA, [0x0065, 0x0302]),
    (0x00EB, [0x0065, 0x0308]), (0x00EC, [0x0069, 0x0300]), (0x00ED, [0x0069, 0x0301]),
    (0x00EE, [0x0069, 0x0302]), (0x00EF, [0x0069, 0x0308]), (0x00F1, [0x006E, 0x0303]),
    (0x00F2, [0x006F, 0x0300]), (0x00F3, [0x006F, 0x0301]), (0x00F4, [0x006F, 0x0302]),
    (0x00F5, [0x006F, 0x0303]), (0x00F6, [0x006F, 0x0308]), (0x00F9, [0x0075, 0x0300]),
    (0x00FA, [0x0075, 0x0301]), (0x00FB, [0x0075, 0x0302]), (0x00FC, [0x0075, 0x0308]),
    (0x00FD, [0x0079, 0x0301]), (0x00FF, [0x0079, 0x0308]), (0x0100, [0x0041, 0x0304]),
    (0x0101, [0x0061, 0x0304]), (0x0102, [0x0041, 0x0306]), (0x0103, [0x0061, 0x0306]),
    (0x0104, [0x0041, 0x0328]), (0x0105, [0x0061, 0x0328]), (0x0106, [0x0043, 0x0301]),
    (0x0107, [0x0063, 0x0301]), (0x0108, [0x0043, 0x0302]), (0x0109, [0x0063, 0x0302]),
    (0x010A, [0x0043, 0x0307]), (0x010B, [0x0063, 0x0307]), (0x010C, [0x0043, 0x030C]),
    (0x010D, [0x0063, 0x030C]), (0x010E, [0x0044, 0x030C]), (0x010F, [0x0064, 0x030C]),
    (0x0112, [0x0045, 0x0304]), (0x0113, [0x0065, 0x0304]), (0x0114, [0x0045, 0x0306]),
    (0x0115, [0x0065, 0x0306]), (0x0116, [0x0045, 0x0307]), (0x0117, [0x0065, 0x0307]),
    (0x0118, [0x0045, 0x0328]), (0x0119, [0x0065, 0x0328]), (0x011A, [0x0045, 0x030C]),
    (0x011B, [0x0065, 0x030C]), (0x011C, [0x0047, 0x0302]), (0x011D, [0x0067, 0x0302]),
    (0x011E, [0x0047, 0x0306]), (0x011F, [0x0067, 0x0306]), (0x0120, [0x0047, 0x0307]),
    (0x0121, [0x0067, 0x0307]), (0x0122, [0x0047, 0x0327]), (0x0123, [0x0067, 0x0327]),
    (0x0124, [0x0048, 0x0302]), (0x0125, [0x0068, 0x0302]), (0x0128, [0x0049, 0x0303]),
    (0x0129, [0x0069, 0x0303]), (0x012A, [0x0049, 0x0304]), (0x012B, [0x0069, 0x0304]),
    (0x012C, [0x0049, 0x0306]), (0x012D, [0x0069, 0x0306]), (0x012E, [0x0049, 0x0328]),
    (0x012F, [0x0069, 0x0328]), (0x0130, [0x0049, 0x0307]), (0x0134, [0x004A, 0x0302]),
    (0x0135, [0x006A, 0x0302]), (0x0136, [0x004B, 0x0327]), (0x0137, [0x006B, 0x0327]),
    (0x0139, [0x004C, 0x0301]), (0x013A, [0x006C, 0x0301]), (0x013B, [0x004C, 0x0327]),
    (0x013C, [0x006C, 0x0327]), (0x013D, [0x004C, 0x030C]), (0x013E, [0x006C, 0x030C]),
    (0x0143, [0x004E, 0x0301]), (0x0144, [0x006E, 0x0301]), (0x0145, [0x004E, 0x0327]),
    (0x0146, [0x006E, 0x0327]), (0x0147, [0x004E, 0x030C]), (0x0148, [0x006E, 0x030C]),
    (0x014C, [0x004F, 0x0304]), (0x014D, [0x006F, 0x0304]), (0x014E, [0x004F, 0x0306]),
    (0x014F, [0x006F, 0x0306]), (0x0150, [0x004F, 0x030B]), (0x0151, [0x006F, 0x030B]),
    (0x0154, [0x0052, 0x0301]), (0x0155, [0x0072, 0x0301]), (0x0156, [0x0052, 0x0327]),
    (0x0157, [0x0072, 0x0327]), (0x0158, [0x0052, 0x030C]), (0x0159, [0x0072, 0x030C]),
    (0x015A, [0x0053, 0x0301]), (0x015B, [0x0073, 0x0301]), (0x015C, [0x0053, 0x0302]),
    (0x015D, [0x0073, 0x0302]), (0x015E, [0x0053, 0x0327]), (0x015F, [0x0073, 0x0327]),
    (0x0160, [0x0053, 0x030C]), (0x0161, [0x0073, 0x030C]), (0x0162, [0x0054, 0x0327]),
    (0x0163, [0x0074, 0x0327]), (0x0164, [0x0054, 0x030C]), (0x0165, [0x0074, 0x030C]),
    (0x0168, [0x0055, 0x0303]), (0x0169, [0x0075, 0x0303]), (0x016A, [0x0055, 0x0304]),
    (0x016B, [0x0075, 0x0304]), (0x016C, [0x0055, 0x0306]), (0x016D, [0x0075, 0x0306]),
    (0x016E, [0x0055, 0x030A]), (0x016F, [0x0075, 0x030A]), (0x0170, [0x0055, 0x030B]),
    (0x0171, [0x0075, 0x030B]), (0x0172, [0x0055, 0x0328]), (0x0173, [0x0075, 0x0328]),
    (0x0174, [0x0057, 0x0302]), (0x0175, [0x0077, 0x0302]), (0x0176, [0x0059, 0x0302]),
    (0x0177, [0x0079, 0x0302]), (0x0178, [0x0059, 0x0308]), (0x0179, [0x005A, 0x0301]),
    (0x017A, [0x007A, 0x0301]), (0x017B, [0x005A, 0x0307]), (0x017C, [0x007A, 0x0307]),
    (0x017D, [0x005A, 0x030C]), (0x017E, [0x007A, 0x030C]), (0x0344, [0x0308, 0x0301]),
    (0x03AA, [0x0399, 0x0308]), (0x03AB, [0x03A5, 0x0308]), (0x03AC, [0x03B1, 0x0301]),
    (0x03AD, [0x03B5, 0x0301]), (0x03AE, [0x03B7, 0x0301]), (0x03AF, [0x03B9, 0x0301]),
    (0x03B0, [0x03C5, 0x0308, 0x0301]), (0x0400, [0x0415, 0x0300]), (0x0401, [0x0415, 0x0308]),
    (0x0403, [0x0413, 0x0301]), (0x0407, [0x0406, 0x0308]), (0x040C, [0x041A, 0x0301]),
    (0x040D, [0x0418, 0x0300]), (0x040E, [0x0423, 0x0306]), (0x0419, [0x0418, 0x0306]),
    (0x0439, [0x0438, 0x0306]), (0x0450, [0x0435, 0x0300]), (0x0451, [0x0435, 0x0308]),
    (0x0453, [0x0433, 0x0301]), (0x0457, [0x0456, 0x0308]), (0x045C, [0x043A, 0x0301]),
    (0x045D, [0x0438, 0x0300]), (0x045E, [0x0443, 0x0306]), (0x0623, [0x0627, 0x0654]),
    (0x1E9B, [0x017F, 0x0307]), (0x1EA1, [0x0061, 0x0323]), (0x1EAD, [0x0061, 0x0323, 0x0302]),
    (0x1FB3, [0x03B1, 0x0345]), (0x1FB4, [0x03B1, 0x0301, 0x0345]), (0x2126, [0x03A9]),
    (0x304C, [0x304B, 0x3099]), (0x30AC, [0x30AB, 0x3099]), (0xF900, [0x8C48])]

/-- A Hangul syllable is made of a leading consonant, a vowel and, unless it is the first of its
block of 28, a trailing consonant. -/
def decomposeSyllable (index : Nat) : List Nat :=
  let trail := index % 28
  [0x1100 + index / 588, 0x1161 + index % 588 / 28] ++ if trail = 0 then [] else [0x11A7 + trail]

def decompose (c : Nat) : List Nat :=
  if 0xAC00 ≤ c ∧ c ≤ 0xD7A3 then decomposeSyllable (c - 0xAC00)
  else (decompositions.lookup c).getD [c]

/-- The canonical combining classes of some marks. -/
def combiningClasses : List (Nat × Nat) :=
  [(0x0300, 230), (0x0301, 230), (0x0302, 230), (0x0303, 230), (0x0304, 230), (0x0306, 230),
    (0x0307, 230), (0x0308, 230), (0x030A, 230), (0x030B, 230), (0x030C, 230), (0x0323, 220),
    (0x0327, 202), (0x0328, 202), (0x0334, 1), (0x0345, 240), (0x05BC, 21), (0x05C1, 24),
    (0x0654, 230), (0x0898, 230), (0x094D, 9), (0x0F71, 129), (0x0F72, 130), (0x0F74, 132),
    (0x0F80, 130), (0x3099, 8)]

def combiningClass (c : Nat) : Nat := (combiningClasses.lookup c).getD 0

end Excerpt

/-- The excerpt as a table. -/
def excerpt : Table where
  lookup? := Excerpt.lookup?
  implicit c := (Excerpt.implicitWeights c).map fun weight => [weight]
  decompose := Excerpt.decompose
  combiningClass := Excerpt.combiningClass

end ClassList.Collation

namespace ClassList

/-- The collator that the excerpt gives. -/
def Collator.excerpt : Collator := Collation.excerpt.collator

end ClassList
