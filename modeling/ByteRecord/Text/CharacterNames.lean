/-! Characters that a text literal may spell by name. -/
namespace ByteRecord.Text

/-- Names of the characters of the Latin, Greek and Cyrillic scripts, of punctuation, currencies
and common symbols. -/
def characterNames : Array (String × Nat) := #[
  ("SPACE", 0x20), ("EXCLAMATION MARK", 0x21), ("QUOTATION MARK", 0x22), ("NUMBER SIGN", 0x23),
  ("DOLLAR SIGN", 0x24), ("PERCENT SIGN", 0x25), ("AMPERSAND", 0x26), ("APOSTROPHE", 0x27),
  ("LEFT PARENTHESIS", 0x28), ("RIGHT PARENTHESIS", 0x29), ("ASTERISK", 0x2a), ("PLUS SIGN", 0x2b),
  ("COMMA", 0x2c), ("HYPHEN-MINUS", 0x2d), ("FULL STOP", 0x2e), ("SOLIDUS", 0x2f),
  ("DIGIT ZERO", 0x30), ("DIGIT ONE", 0x31), ("DIGIT TWO", 0x32), ("DIGIT THREE", 0x33),
  ("DIGIT FOUR", 0x34), ("DIGIT FIVE", 0x35), ("DIGIT SIX", 0x36), ("DIGIT SEVEN", 0x37),
  ("DIGIT EIGHT", 0x38), ("DIGIT NINE", 0x39), ("COLON", 0x3a), ("SEMICOLON", 0x3b),
  ("LESS-THAN SIGN", 0x3c), ("EQUALS SIGN", 0x3d), ("GREATER-THAN SIGN", 0x3e),
  ("QUESTION MARK", 0x3f), ("COMMERCIAL AT", 0x40), ("LATIN CAPITAL LETTER A", 0x41),
  ("LATIN CAPITAL LETTER B", 0x42), ("LATIN CAPITAL LETTER C", 0x43),
  ("LATIN CAPITAL LETTER D", 0x44), ("LATIN CAPITAL LETTER E", 0x45),
  ("LATIN CAPITAL LETTER F", 0x46), ("LATIN CAPITAL LETTER G", 0x47),
  ("LATIN CAPITAL LETTER H", 0x48), ("LATIN CAPITAL LETTER I", 0x49),
  ("LATIN CAPITAL LETTER J", 0x4a), ("LATIN CAPITAL LETTER K", 0x4b),
  ("LATIN CAPITAL LETTER L", 0x4c), ("LATIN CAPITAL LETTER M", 0x4d),
  ("LATIN CAPITAL LETTER N", 0x4e), ("LATIN CAPITAL LETTER O", 0x4f),
  ("LATIN CAPITAL LETTER P", 0x50), ("LATIN CAPITAL LETTER Q", 0x51),
  ("LATIN CAPITAL LETTER R", 0x52), ("LATIN CAPITAL LETTER S", 0x53),
  ("LATIN CAPITAL LETTER T", 0x54), ("LATIN CAPITAL LETTER U", 0x55),
  ("LATIN CAPITAL LETTER V", 0x56), ("LATIN CAPITAL LETTER W", 0x57),
  ("LATIN CAPITAL LETTER X", 0x58), ("LATIN CAPITAL LETTER Y", 0x59),
  ("LATIN CAPITAL LETTER Z", 0x5a), ("LEFT SQUARE BRACKET", 0x5b), ("REVERSE SOLIDUS", 0x5c),
  ("RIGHT SQUARE BRACKET", 0x5d), ("CIRCUMFLEX ACCENT", 0x5e), ("LOW LINE", 0x5f),
  ("GRAVE ACCENT", 0x60), ("LATIN SMALL LETTER A", 0x61), ("LATIN SMALL LETTER B", 0x62),
  ("LATIN SMALL LETTER C", 0x63), ("LATIN SMALL LETTER D", 0x64), ("LATIN SMALL LETTER E", 0x65),
  ("LATIN SMALL LETTER F", 0x66), ("LATIN SMALL LETTER G", 0x67), ("LATIN SMALL LETTER H", 0x68),
  ("LATIN SMALL LETTER I", 0x69), ("LATIN SMALL LETTER J", 0x6a), ("LATIN SMALL LETTER K", 0x6b),
  ("LATIN SMALL LETTER L", 0x6c), ("LATIN SMALL LETTER M", 0x6d), ("LATIN SMALL LETTER N", 0x6e),
  ("LATIN SMALL LETTER O", 0x6f), ("LATIN SMALL LETTER P", 0x70), ("LATIN SMALL LETTER Q", 0x71),
  ("LATIN SMALL LETTER R", 0x72), ("LATIN SMALL LETTER S", 0x73), ("LATIN SMALL LETTER T", 0x74),
  ("LATIN SMALL LETTER U", 0x75), ("LATIN SMALL LETTER V", 0x76), ("LATIN SMALL LETTER W", 0x77),
  ("LATIN SMALL LETTER X", 0x78), ("LATIN SMALL LETTER Y", 0x79), ("LATIN SMALL LETTER Z", 0x7a),
  ("LEFT CURLY BRACKET", 0x7b), ("VERTICAL LINE", 0x7c), ("RIGHT CURLY BRACKET", 0x7d),
  ("TILDE", 0x7e), ("NO-BREAK SPACE", 0xa0), ("INVERTED EXCLAMATION MARK", 0xa1),
  ("CENT SIGN", 0xa2), ("POUND SIGN", 0xa3), ("CURRENCY SIGN", 0xa4), ("YEN SIGN", 0xa5),
  ("BROKEN BAR", 0xa6), ("SECTION SIGN", 0xa7), ("DIAERESIS", 0xa8), ("COPYRIGHT SIGN", 0xa9),
  ("FEMININE ORDINAL INDICATOR", 0xaa), ("LEFT-POINTING DOUBLE ANGLE QUOTATION MARK", 0xab),
  ("NOT SIGN", 0xac), ("SOFT HYPHEN", 0xad), ("REGISTERED SIGN", 0xae), ("MACRON", 0xaf),
  ("DEGREE SIGN", 0xb0), ("PLUS-MINUS SIGN", 0xb1), ("SUPERSCRIPT TWO", 0xb2),
  ("SUPERSCRIPT THREE", 0xb3), ("ACUTE ACCENT", 0xb4), ("MICRO SIGN", 0xb5),
  ("PILCROW SIGN", 0xb6), ("MIDDLE DOT", 0xb7), ("CEDILLA", 0xb8), ("SUPERSCRIPT ONE", 0xb9),
  ("MASCULINE ORDINAL INDICATOR", 0xba), ("RIGHT-POINTING DOUBLE ANGLE QUOTATION MARK", 0xbb),
  ("VULGAR FRACTION ONE QUARTER", 0xbc), ("VULGAR FRACTION ONE HALF", 0xbd),
  ("VULGAR FRACTION THREE QUARTERS", 0xbe), ("INVERTED QUESTION MARK", 0xbf),
  ("LATIN CAPITAL LETTER A WITH GRAVE", 0xc0), ("LATIN CAPITAL LETTER A WITH ACUTE", 0xc1),
  ("LATIN CAPITAL LETTER A WITH CIRCUMFLEX", 0xc2), ("LATIN CAPITAL LETTER A WITH TILDE", 0xc3),
  ("LATIN CAPITAL LETTER A WITH DIAERESIS", 0xc4),
  ("LATIN CAPITAL LETTER A WITH RING ABOVE", 0xc5), ("LATIN CAPITAL LETTER AE", 0xc6),
  ("LATIN CAPITAL LETTER C WITH CEDILLA", 0xc7), ("LATIN CAPITAL LETTER E WITH GRAVE", 0xc8),
  ("LATIN CAPITAL LETTER E WITH ACUTE", 0xc9), ("LATIN CAPITAL LETTER E WITH CIRCUMFLEX", 0xca),
  ("LATIN CAPITAL LETTER E WITH DIAERESIS", 0xcb), ("LATIN CAPITAL LETTER I WITH GRAVE", 0xcc),
  ("LATIN CAPITAL LETTER I WITH ACUTE", 0xcd), ("LATIN CAPITAL LETTER I WITH CIRCUMFLEX", 0xce),
  ("LATIN CAPITAL LETTER I WITH DIAERESIS", 0xcf), ("LATIN CAPITAL LETTER ETH", 0xd0),
  ("LATIN CAPITAL LETTER N WITH TILDE", 0xd1), ("LATIN CAPITAL LETTER O WITH GRAVE", 0xd2),
  ("LATIN CAPITAL LETTER O WITH ACUTE", 0xd3), ("LATIN CAPITAL LETTER O WITH CIRCUMFLEX", 0xd4),
  ("LATIN CAPITAL LETTER O WITH TILDE", 0xd5), ("LATIN CAPITAL LETTER O WITH DIAERESIS", 0xd6),
  ("MULTIPLICATION SIGN", 0xd7), ("LATIN CAPITAL LETTER O WITH STROKE", 0xd8),
  ("LATIN CAPITAL LETTER U WITH GRAVE", 0xd9), ("LATIN CAPITAL LETTER U WITH ACUTE", 0xda),
  ("LATIN CAPITAL LETTER U WITH CIRCUMFLEX", 0xdb),
  ("LATIN CAPITAL LETTER U WITH DIAERESIS", 0xdc), ("LATIN CAPITAL LETTER Y WITH ACUTE", 0xdd),
  ("LATIN CAPITAL LETTER THORN", 0xde), ("LATIN SMALL LETTER SHARP S", 0xdf),
  ("LATIN SMALL LETTER A WITH GRAVE", 0xe0), ("LATIN SMALL LETTER A WITH ACUTE", 0xe1),
  ("LATIN SMALL LETTER A WITH CIRCUMFLEX", 0xe2), ("LATIN SMALL LETTER A WITH TILDE", 0xe3),
  ("LATIN SMALL LETTER A WITH DIAERESIS", 0xe4), ("LATIN SMALL LETTER A WITH RING ABOVE", 0xe5),
  ("LATIN SMALL LETTER AE", 0xe6), ("LATIN SMALL LETTER C WITH CEDILLA", 0xe7),
  ("LATIN SMALL LETTER E WITH GRAVE", 0xe8), ("LATIN SMALL LETTER E WITH ACUTE", 0xe9),
  ("LATIN SMALL LETTER E WITH CIRCUMFLEX", 0xea), ("LATIN SMALL LETTER E WITH DIAERESIS", 0xeb),
  ("LATIN SMALL LETTER I WITH GRAVE", 0xec), ("LATIN SMALL LETTER I WITH ACUTE", 0xed),
  ("LATIN SMALL LETTER I WITH CIRCUMFLEX", 0xee), ("LATIN SMALL LETTER I WITH DIAERESIS", 0xef),
  ("LATIN SMALL LETTER ETH", 0xf0), ("LATIN SMALL LETTER N WITH TILDE", 0xf1),
  ("LATIN SMALL LETTER O WITH GRAVE", 0xf2), ("LATIN SMALL LETTER O WITH ACUTE", 0xf3),
  ("LATIN SMALL LETTER O WITH CIRCUMFLEX", 0xf4), ("LATIN SMALL LETTER O WITH TILDE", 0xf5),
  ("LATIN SMALL LETTER O WITH DIAERESIS", 0xf6), ("DIVISION SIGN", 0xf7),
  ("LATIN SMALL LETTER O WITH STROKE", 0xf8), ("LATIN SMALL LETTER U WITH GRAVE", 0xf9),
  ("LATIN SMALL LETTER U WITH ACUTE", 0xfa), ("LATIN SMALL LETTER U WITH CIRCUMFLEX", 0xfb),
  ("LATIN SMALL LETTER U WITH DIAERESIS", 0xfc), ("LATIN SMALL LETTER Y WITH ACUTE", 0xfd),
  ("LATIN SMALL LETTER THORN", 0xfe), ("LATIN SMALL LETTER Y WITH DIAERESIS", 0xff),
  ("LATIN CAPITAL LETTER A WITH MACRON", 0x100), ("LATIN SMALL LETTER A WITH MACRON", 0x101),
  ("LATIN CAPITAL LETTER A WITH BREVE", 0x102), ("LATIN SMALL LETTER A WITH BREVE", 0x103),
  ("LATIN CAPITAL LETTER A WITH OGONEK", 0x104), ("LATIN SMALL LETTER A WITH OGONEK", 0x105),
  ("LATIN CAPITAL LETTER C WITH ACUTE", 0x106), ("LATIN SMALL LETTER C WITH ACUTE", 0x107),
  ("LATIN CAPITAL LETTER C WITH CIRCUMFLEX", 0x108),
  ("LATIN SMALL LETTER C WITH CIRCUMFLEX", 0x109),
  ("LATIN CAPITAL LETTER C WITH DOT ABOVE", 0x10a), ("LATIN SMALL LETTER C WITH DOT ABOVE", 0x10b),
  ("LATIN CAPITAL LETTER C WITH CARON", 0x10c), ("LATIN SMALL LETTER C WITH CARON", 0x10d),
  ("LATIN CAPITAL LETTER D WITH CARON", 0x10e), ("LATIN SMALL LETTER D WITH CARON", 0x10f),
  ("LATIN CAPITAL LETTER D WITH STROKE", 0x110), ("LATIN SMALL LETTER D WITH STROKE", 0x111),
  ("LATIN CAPITAL LETTER E WITH MACRON", 0x112), ("LATIN SMALL LETTER E WITH MACRON", 0x113),
  ("LATIN CAPITAL LETTER E WITH BREVE", 0x114), ("LATIN SMALL LETTER E WITH BREVE", 0x115),
  ("LATIN CAPITAL LETTER E WITH DOT ABOVE", 0x116), ("LATIN SMALL LETTER E WITH DOT ABOVE", 0x117),
  ("LATIN CAPITAL LETTER E WITH OGONEK", 0x118), ("LATIN SMALL LETTER E WITH OGONEK", 0x119),
  ("LATIN CAPITAL LETTER E WITH CARON", 0x11a), ("LATIN SMALL LETTER E WITH CARON", 0x11b),
  ("LATIN CAPITAL LETTER G WITH CIRCUMFLEX", 0x11c),
  ("LATIN SMALL LETTER G WITH CIRCUMFLEX", 0x11d), ("LATIN CAPITAL LETTER G WITH BREVE", 0x11e),
  ("LATIN SMALL LETTER G WITH BREVE", 0x11f), ("LATIN CAPITAL LETTER G WITH DOT ABOVE", 0x120),
  ("LATIN SMALL LETTER G WITH DOT ABOVE", 0x121), ("LATIN CAPITAL LETTER G WITH CEDILLA", 0x122),
  ("LATIN SMALL LETTER G WITH CEDILLA", 0x123), ("LATIN CAPITAL LETTER H WITH CIRCUMFLEX", 0x124),
  ("LATIN SMALL LETTER H WITH CIRCUMFLEX", 0x125), ("LATIN CAPITAL LETTER H WITH STROKE", 0x126),
  ("LATIN SMALL LETTER H WITH STROKE", 0x127), ("LATIN CAPITAL LETTER I WITH TILDE", 0x128),
  ("LATIN SMALL LETTER I WITH TILDE", 0x129), ("LATIN CAPITAL LETTER I WITH MACRON", 0x12a),
  ("LATIN SMALL LETTER I WITH MACRON", 0x12b), ("LATIN CAPITAL LETTER I WITH BREVE", 0x12c),
  ("LATIN SMALL LETTER I WITH BREVE", 0x12d), ("LATIN CAPITAL LETTER I WITH OGONEK", 0x12e),
  ("LATIN SMALL LETTER I WITH OGONEK", 0x12f), ("LATIN CAPITAL LETTER I WITH DOT ABOVE", 0x130),
  ("LATIN SMALL LETTER DOTLESS I", 0x131), ("LATIN CAPITAL LIGATURE IJ", 0x132),
  ("LATIN SMALL LIGATURE IJ", 0x133), ("LATIN CAPITAL LETTER J WITH CIRCUMFLEX", 0x134),
  ("LATIN SMALL LETTER J WITH CIRCUMFLEX", 0x135), ("LATIN CAPITAL LETTER K WITH CEDILLA", 0x136),
  ("LATIN SMALL LETTER K WITH CEDILLA", 0x137), ("LATIN SMALL LETTER KRA", 0x138),
  ("LATIN CAPITAL LETTER L WITH ACUTE", 0x139), ("LATIN SMALL LETTER L WITH ACUTE", 0x13a),
  ("LATIN CAPITAL LETTER L WITH CEDILLA", 0x13b), ("LATIN SMALL LETTER L WITH CEDILLA", 0x13c),
  ("LATIN CAPITAL LETTER L WITH CARON", 0x13d), ("LATIN SMALL LETTER L WITH CARON", 0x13e),
  ("LATIN CAPITAL LETTER L WITH MIDDLE DOT", 0x13f),
  ("LATIN SMALL LETTER L WITH MIDDLE DOT", 0x140), ("LATIN CAPITAL LETTER L WITH STROKE", 0x141),
  ("LATIN SMALL LETTER L WITH STROKE", 0x142), ("LATIN CAPITAL LETTER N WITH ACUTE", 0x143),
  ("LATIN SMALL LETTER N WITH ACUTE", 0x144), ("LATIN CAPITAL LETTER N WITH CEDILLA", 0x145),
  ("LATIN SMALL LETTER N WITH CEDILLA", 0x146), ("LATIN CAPITAL LETTER N WITH CARON", 0x147),
  ("LATIN SMALL LETTER N WITH CARON", 0x148),
  ("LATIN SMALL LETTER N PRECEDED BY APOSTROPHE", 0x149), ("LATIN CAPITAL LETTER ENG", 0x14a),
  ("LATIN SMALL LETTER ENG", 0x14b), ("LATIN CAPITAL LETTER O WITH MACRON", 0x14c),
  ("LATIN SMALL LETTER O WITH MACRON", 0x14d), ("LATIN CAPITAL LETTER O WITH BREVE", 0x14e),
  ("LATIN SMALL LETTER O WITH BREVE", 0x14f), ("LATIN CAPITAL LETTER O WITH DOUBLE ACUTE", 0x150),
  ("LATIN SMALL LETTER O WITH DOUBLE ACUTE", 0x151), ("LATIN CAPITAL LIGATURE OE", 0x152),
  ("LATIN SMALL LIGATURE OE", 0x153), ("LATIN CAPITAL LETTER R WITH ACUTE", 0x154),
  ("LATIN SMALL LETTER R WITH ACUTE", 0x155), ("LATIN CAPITAL LETTER R WITH CEDILLA", 0x156),
  ("LATIN SMALL LETTER R WITH CEDILLA", 0x157), ("LATIN CAPITAL LETTER R WITH CARON", 0x158),
  ("LATIN SMALL LETTER R WITH CARON", 0x159), ("LATIN CAPITAL LETTER S WITH ACUTE", 0x15a),
  ("LATIN SMALL LETTER S WITH ACUTE", 0x15b), ("LATIN CAPITAL LETTER S WITH CIRCUMFLEX", 0x15c),
  ("LATIN SMALL LETTER S WITH CIRCUMFLEX", 0x15d), ("LATIN CAPITAL LETTER S WITH CEDILLA", 0x15e),
  ("LATIN SMALL LETTER S WITH CEDILLA", 0x15f), ("LATIN CAPITAL LETTER S WITH CARON", 0x160),
  ("LATIN SMALL LETTER S WITH CARON", 0x161), ("LATIN CAPITAL LETTER T WITH CEDILLA", 0x162),
  ("LATIN SMALL LETTER T WITH CEDILLA", 0x163), ("LATIN CAPITAL LETTER T WITH CARON", 0x164),
  ("LATIN SMALL LETTER T WITH CARON", 0x165), ("LATIN CAPITAL LETTER T WITH STROKE", 0x166),
  ("LATIN SMALL LETTER T WITH STROKE", 0x167), ("LATIN CAPITAL LETTER U WITH TILDE", 0x168),
  ("LATIN SMALL LETTER U WITH TILDE", 0x169), ("LATIN CAPITAL LETTER U WITH MACRON", 0x16a),
  ("LATIN SMALL LETTER U WITH MACRON", 0x16b), ("LATIN CAPITAL LETTER U WITH BREVE", 0x16c),
  ("LATIN SMALL LETTER U WITH BREVE", 0x16d), ("LATIN CAPITAL LETTER U WITH RING ABOVE", 0x16e),
  ("LATIN SMALL LETTER U WITH RING ABOVE", 0x16f),
  ("LATIN CAPITAL LETTER U WITH DOUBLE ACUTE", 0x170),
  ("LATIN SMALL LETTER U WITH DOUBLE ACUTE", 0x171), ("LATIN CAPITAL LETTER U WITH OGONEK", 0x172),
  ("LATIN SMALL LETTER U WITH OGONEK", 0x173), ("LATIN CAPITAL LETTER W WITH CIRCUMFLEX", 0x174),
  ("LATIN SMALL LETTER W WITH CIRCUMFLEX", 0x175),
  ("LATIN CAPITAL LETTER Y WITH CIRCUMFLEX", 0x176),
  ("LATIN SMALL LETTER Y WITH CIRCUMFLEX", 0x177),
  ("LATIN CAPITAL LETTER Y WITH DIAERESIS", 0x178), ("LATIN CAPITAL LETTER Z WITH ACUTE", 0x179),
  ("LATIN SMALL LETTER Z WITH ACUTE", 0x17a), ("LATIN CAPITAL LETTER Z WITH DOT ABOVE", 0x17b),
  ("LATIN SMALL LETTER Z WITH DOT ABOVE", 0x17c), ("LATIN CAPITAL LETTER Z WITH CARON", 0x17d),
  ("LATIN SMALL LETTER Z WITH CARON", 0x17e), ("LATIN SMALL LETTER LONG S", 0x17f),
  ("GREEK CAPITAL LETTER HETA", 0x370), ("GREEK SMALL LETTER HETA", 0x371),
  ("GREEK CAPITAL LETTER ARCHAIC SAMPI", 0x372), ("GREEK SMALL LETTER ARCHAIC SAMPI", 0x373),
  ("GREEK NUMERAL SIGN", 0x374), ("GREEK LOWER NUMERAL SIGN", 0x375),
  ("GREEK CAPITAL LETTER PAMPHYLIAN DIGAMMA", 0x376),
  ("GREEK SMALL LETTER PAMPHYLIAN DIGAMMA", 0x377), ("GREEK YPOGEGRAMMENI", 0x37a),
  ("GREEK SMALL REVERSED LUNATE SIGMA SYMBOL", 0x37b),
  ("GREEK SMALL DOTTED LUNATE SIGMA SYMBOL", 0x37c),
  ("GREEK SMALL REVERSED DOTTED LUNATE SIGMA SYMBOL", 0x37d), ("GREEK QUESTION MARK", 0x37e),
  ("GREEK CAPITAL LETTER YOT", 0x37f), ("GREEK TONOS", 0x384), ("GREEK DIALYTIKA TONOS", 0x385),
  ("GREEK CAPITAL LETTER ALPHA WITH TONOS", 0x386), ("GREEK ANO TELEIA", 0x387),
  ("GREEK CAPITAL LETTER EPSILON WITH TONOS", 0x388),
  ("GREEK CAPITAL LETTER ETA WITH TONOS", 0x389), ("GREEK CAPITAL LETTER IOTA WITH TONOS", 0x38a),
  ("GREEK CAPITAL LETTER OMICRON WITH TONOS", 0x38c),
  ("GREEK CAPITAL LETTER UPSILON WITH TONOS", 0x38e),
  ("GREEK CAPITAL LETTER OMEGA WITH TONOS", 0x38f),
  ("GREEK SMALL LETTER IOTA WITH DIALYTIKA AND TONOS", 0x390),
  ("GREEK CAPITAL LETTER ALPHA", 0x391), ("GREEK CAPITAL LETTER BETA", 0x392),
  ("GREEK CAPITAL LETTER GAMMA", 0x393), ("GREEK CAPITAL LETTER DELTA", 0x394),
  ("GREEK CAPITAL LETTER EPSILON", 0x395), ("GREEK CAPITAL LETTER ZETA", 0x396),
  ("GREEK CAPITAL LETTER ETA", 0x397), ("GREEK CAPITAL LETTER THETA", 0x398),
  ("GREEK CAPITAL LETTER IOTA", 0x399), ("GREEK CAPITAL LETTER KAPPA", 0x39a),
  ("GREEK CAPITAL LETTER LAMDA", 0x39b), ("GREEK CAPITAL LETTER MU", 0x39c),
  ("GREEK CAPITAL LETTER NU", 0x39d), ("GREEK CAPITAL LETTER XI", 0x39e),
  ("GREEK CAPITAL LETTER OMICRON", 0x39f), ("GREEK CAPITAL LETTER PI", 0x3a0),
  ("GREEK CAPITAL LETTER RHO", 0x3a1), ("GREEK CAPITAL LETTER SIGMA", 0x3a3),
  ("GREEK CAPITAL LETTER TAU", 0x3a4), ("GREEK CAPITAL LETTER UPSILON", 0x3a5),
  ("GREEK CAPITAL LETTER PHI", 0x3a6), ("GREEK CAPITAL LETTER CHI", 0x3a7),
  ("GREEK CAPITAL LETTER PSI", 0x3a8), ("GREEK CAPITAL LETTER OMEGA", 0x3a9),
  ("GREEK CAPITAL LETTER IOTA WITH DIALYTIKA", 0x3aa),
  ("GREEK CAPITAL LETTER UPSILON WITH DIALYTIKA", 0x3ab),
  ("GREEK SMALL LETTER ALPHA WITH TONOS", 0x3ac), ("GREEK SMALL LETTER EPSILON WITH TONOS", 0x3ad),
  ("GREEK SMALL LETTER ETA WITH TONOS", 0x3ae), ("GREEK SMALL LETTER IOTA WITH TONOS", 0x3af),
  ("GREEK SMALL LETTER UPSILON WITH DIALYTIKA AND TONOS", 0x3b0),
  ("GREEK SMALL LETTER ALPHA", 0x3b1), ("GREEK SMALL LETTER BETA", 0x3b2),
  ("GREEK SMALL LETTER GAMMA", 0x3b3), ("GREEK SMALL LETTER DELTA", 0x3b4),
  ("GREEK SMALL LETTER EPSILON", 0x3b5), ("GREEK SMALL LETTER ZETA", 0x3b6),
  ("GREEK SMALL LETTER ETA", 0x3b7), ("GREEK SMALL LETTER THETA", 0x3b8),
  ("GREEK SMALL LETTER IOTA", 0x3b9), ("GREEK SMALL LETTER KAPPA", 0x3ba),
  ("GREEK SMALL LETTER LAMDA", 0x3bb), ("GREEK SMALL LETTER MU", 0x3bc),
  ("GREEK SMALL LETTER NU", 0x3bd), ("GREEK SMALL LETTER XI", 0x3be),
  ("GREEK SMALL LETTER OMICRON", 0x3bf), ("GREEK SMALL LETTER PI", 0x3c0),
  ("GREEK SMALL LETTER RHO", 0x3c1), ("GREEK SMALL LETTER FINAL SIGMA", 0x3c2),
  ("GREEK SMALL LETTER SIGMA", 0x3c3), ("GREEK SMALL LETTER TAU", 0x3c4),
  ("GREEK SMALL LETTER UPSILON", 0x3c5), ("GREEK SMALL LETTER PHI", 0x3c6),
  ("GREEK SMALL LETTER CHI", 0x3c7), ("GREEK SMALL LETTER PSI", 0x3c8),
  ("GREEK SMALL LETTER OMEGA", 0x3c9), ("GREEK SMALL LETTER IOTA WITH DIALYTIKA", 0x3ca),
  ("GREEK SMALL LETTER UPSILON WITH DIALYTIKA", 0x3cb),
  ("GREEK SMALL LETTER OMICRON WITH TONOS", 0x3cc),
  ("GREEK SMALL LETTER UPSILON WITH TONOS", 0x3cd), ("GREEK SMALL LETTER OMEGA WITH TONOS", 0x3ce),
  ("GREEK CAPITAL KAI SYMBOL", 0x3cf), ("GREEK BETA SYMBOL", 0x3d0), ("GREEK THETA SYMBOL", 0x3d1),
  ("GREEK UPSILON WITH HOOK SYMBOL", 0x3d2), ("GREEK UPSILON WITH ACUTE AND HOOK SYMBOL", 0x3d3),
  ("GREEK UPSILON WITH DIAERESIS AND HOOK SYMBOL", 0x3d4), ("GREEK PHI SYMBOL", 0x3d5),
  ("GREEK PI SYMBOL", 0x3d6), ("GREEK KAI SYMBOL", 0x3d7), ("GREEK LETTER ARCHAIC KOPPA", 0x3d8),
  ("GREEK SMALL LETTER ARCHAIC KOPPA", 0x3d9), ("GREEK LETTER STIGMA", 0x3da),
  ("GREEK SMALL LETTER STIGMA", 0x3db), ("GREEK LETTER DIGAMMA", 0x3dc),
  ("GREEK SMALL LETTER DIGAMMA", 0x3dd), ("GREEK LETTER KOPPA", 0x3de),
  ("GREEK SMALL LETTER KOPPA", 0x3df), ("GREEK LETTER SAMPI", 0x3e0),
  ("GREEK SMALL LETTER SAMPI", 0x3e1), ("COPTIC CAPITAL LETTER SHEI", 0x3e2),
  ("COPTIC SMALL LETTER SHEI", 0x3e3), ("COPTIC CAPITAL LETTER FEI", 0x3e4),
  ("COPTIC SMALL LETTER FEI", 0x3e5), ("COPTIC CAPITAL LETTER KHEI", 0x3e6),
  ("COPTIC SMALL LETTER KHEI", 0x3e7), ("COPTIC CAPITAL LETTER HORI", 0x3e8),
  ("COPTIC SMALL LETTER HORI", 0x3e9), ("COPTIC CAPITAL LETTER GANGIA", 0x3ea),
  ("COPTIC SMALL LETTER GANGIA", 0x3eb), ("COPTIC CAPITAL LETTER SHIMA", 0x3ec),
  ("COPTIC SMALL LETTER SHIMA", 0x3ed), ("COPTIC CAPITAL LETTER DEI", 0x3ee),
  ("COPTIC SMALL LETTER DEI", 0x3ef), ("GREEK KAPPA SYMBOL", 0x3f0), ("GREEK RHO SYMBOL", 0x3f1),
  ("GREEK LUNATE SIGMA SYMBOL", 0x3f2), ("GREEK LETTER YOT", 0x3f3),
  ("GREEK CAPITAL THETA SYMBOL", 0x3f4), ("GREEK LUNATE EPSILON SYMBOL", 0x3f5),
  ("GREEK REVERSED LUNATE EPSILON SYMBOL", 0x3f6), ("GREEK CAPITAL LETTER SHO", 0x3f7),
  ("GREEK SMALL LETTER SHO", 0x3f8), ("GREEK CAPITAL LUNATE SIGMA SYMBOL", 0x3f9),
  ("GREEK CAPITAL LETTER SAN", 0x3fa), ("GREEK SMALL LETTER SAN", 0x3fb),
  ("GREEK RHO WITH STROKE SYMBOL", 0x3fc), ("GREEK CAPITAL REVERSED LUNATE SIGMA SYMBOL", 0x3fd),
  ("GREEK CAPITAL DOTTED LUNATE SIGMA SYMBOL", 0x3fe),
  ("GREEK CAPITAL REVERSED DOTTED LUNATE SIGMA SYMBOL", 0x3ff),
  ("CYRILLIC CAPITAL LETTER IE WITH GRAVE", 0x400), ("CYRILLIC CAPITAL LETTER IO", 0x401),
  ("CYRILLIC CAPITAL LETTER DJE", 0x402), ("CYRILLIC CAPITAL LETTER GJE", 0x403),
  ("CYRILLIC CAPITAL LETTER UKRAINIAN IE", 0x404), ("CYRILLIC CAPITAL LETTER DZE", 0x405),
  ("CYRILLIC CAPITAL LETTER BYELORUSSIAN-UKRAINIAN I", 0x406),
  ("CYRILLIC CAPITAL LETTER YI", 0x407), ("CYRILLIC CAPITAL LETTER JE", 0x408),
  ("CYRILLIC CAPITAL LETTER LJE", 0x409), ("CYRILLIC CAPITAL LETTER NJE", 0x40a),
  ("CYRILLIC CAPITAL LETTER TSHE", 0x40b), ("CYRILLIC CAPITAL LETTER KJE", 0x40c),
  ("CYRILLIC CAPITAL LETTER I WITH GRAVE", 0x40d), ("CYRILLIC CAPITAL LETTER SHORT U", 0x40e),
  ("CYRILLIC CAPITAL LETTER DZHE", 0x40f), ("CYRILLIC CAPITAL LETTER A", 0x410),
  ("CYRILLIC CAPITAL LETTER BE", 0x411), ("CYRILLIC CAPITAL LETTER VE", 0x412),
  ("CYRILLIC CAPITAL LETTER GHE", 0x413), ("CYRILLIC CAPITAL LETTER DE", 0x414),
  ("CYRILLIC CAPITAL LETTER IE", 0x415), ("CYRILLIC CAPITAL LETTER ZHE", 0x416),
  ("CYRILLIC CAPITAL LETTER ZE", 0x417), ("CYRILLIC CAPITAL LETTER I", 0x418),
  ("CYRILLIC CAPITAL LETTER SHORT I", 0x419), ("CYRILLIC CAPITAL LETTER KA", 0x41a),
  ("CYRILLIC CAPITAL LETTER EL", 0x41b), ("CYRILLIC CAPITAL LETTER EM", 0x41c),
  ("CYRILLIC CAPITAL LETTER EN", 0x41d), ("CYRILLIC CAPITAL LETTER O", 0x41e),
  ("CYRILLIC CAPITAL LETTER PE", 0x41f), ("CYRILLIC CAPITAL LETTER ER", 0x420),
  ("CYRILLIC CAPITAL LETTER ES", 0x421), ("CYRILLIC CAPITAL LETTER TE", 0x422),
  ("CYRILLIC CAPITAL LETTER U", 0x423), ("CYRILLIC CAPITAL LETTER EF", 0x424),
  ("CYRILLIC CAPITAL LETTER HA", 0x425), ("CYRILLIC CAPITAL LETTER TSE", 0x426),
  ("CYRILLIC CAPITAL LETTER CHE", 0x427), ("CYRILLIC CAPITAL LETTER SHA", 0x428),
  ("CYRILLIC CAPITAL LETTER SHCHA", 0x429), ("CYRILLIC CAPITAL LETTER HARD SIGN", 0x42a),
  ("CYRILLIC CAPITAL LETTER YERU", 0x42b), ("CYRILLIC CAPITAL LETTER SOFT SIGN", 0x42c),
  ("CYRILLIC CAPITAL LETTER E", 0x42d), ("CYRILLIC CAPITAL LETTER YU", 0x42e),
  ("CYRILLIC CAPITAL LETTER YA", 0x42f), ("CYRILLIC SMALL LETTER A", 0x430),
  ("CYRILLIC SMALL LETTER BE", 0x431), ("CYRILLIC SMALL LETTER VE", 0x432),
  ("CYRILLIC SMALL LETTER GHE", 0x433), ("CYRILLIC SMALL LETTER DE", 0x434),
  ("CYRILLIC SMALL LETTER IE", 0x435), ("CYRILLIC SMALL LETTER ZHE", 0x436),
  ("CYRILLIC SMALL LETTER ZE", 0x437), ("CYRILLIC SMALL LETTER I", 0x438),
  ("CYRILLIC SMALL LETTER SHORT I", 0x439), ("CYRILLIC SMALL LETTER KA", 0x43a),
  ("CYRILLIC SMALL LETTER EL", 0x43b), ("CYRILLIC SMALL LETTER EM", 0x43c),
  ("CYRILLIC SMALL LETTER EN", 0x43d), ("CYRILLIC SMALL LETTER O", 0x43e),
  ("CYRILLIC SMALL LETTER PE", 0x43f), ("CYRILLIC SMALL LETTER ER", 0x440),
  ("CYRILLIC SMALL LETTER ES", 0x441), ("CYRILLIC SMALL LETTER TE", 0x442),
  ("CYRILLIC SMALL LETTER U", 0x443), ("CYRILLIC SMALL LETTER EF", 0x444),
  ("CYRILLIC SMALL LETTER HA", 0x445), ("CYRILLIC SMALL LETTER TSE", 0x446),
  ("CYRILLIC SMALL LETTER CHE", 0x447), ("CYRILLIC SMALL LETTER SHA", 0x448),
  ("CYRILLIC SMALL LETTER SHCHA", 0x449), ("CYRILLIC SMALL LETTER HARD SIGN", 0x44a),
  ("CYRILLIC SMALL LETTER YERU", 0x44b), ("CYRILLIC SMALL LETTER SOFT SIGN", 0x44c),
  ("CYRILLIC SMALL LETTER E", 0x44d), ("CYRILLIC SMALL LETTER YU", 0x44e),
  ("CYRILLIC SMALL LETTER YA", 0x44f), ("CYRILLIC SMALL LETTER IE WITH GRAVE", 0x450),
  ("CYRILLIC SMALL LETTER IO", 0x451), ("CYRILLIC SMALL LETTER DJE", 0x452),
  ("CYRILLIC SMALL LETTER GJE", 0x453), ("CYRILLIC SMALL LETTER UKRAINIAN IE", 0x454),
  ("CYRILLIC SMALL LETTER DZE", 0x455), ("CYRILLIC SMALL LETTER BYELORUSSIAN-UKRAINIAN I", 0x456),
  ("CYRILLIC SMALL LETTER YI", 0x457), ("CYRILLIC SMALL LETTER JE", 0x458),
  ("CYRILLIC SMALL LETTER LJE", 0x459), ("CYRILLIC SMALL LETTER NJE", 0x45a),
  ("CYRILLIC SMALL LETTER TSHE", 0x45b), ("CYRILLIC SMALL LETTER KJE", 0x45c),
  ("CYRILLIC SMALL LETTER I WITH GRAVE", 0x45d), ("CYRILLIC SMALL LETTER SHORT U", 0x45e),
  ("CYRILLIC SMALL LETTER DZHE", 0x45f), ("HYPHEN", 0x2010), ("NON-BREAKING HYPHEN", 0x2011),
  ("FIGURE DASH", 0x2012), ("EN DASH", 0x2013), ("EM DASH", 0x2014), ("HORIZONTAL BAR", 0x2015),
  ("DOUBLE VERTICAL LINE", 0x2016), ("DOUBLE LOW LINE", 0x2017),
  ("LEFT SINGLE QUOTATION MARK", 0x2018), ("RIGHT SINGLE QUOTATION MARK", 0x2019),
  ("SINGLE LOW-9 QUOTATION MARK", 0x201a), ("SINGLE HIGH-REVERSED-9 QUOTATION MARK", 0x201b),
  ("LEFT DOUBLE QUOTATION MARK", 0x201c), ("RIGHT DOUBLE QUOTATION MARK", 0x201d),
  ("DOUBLE LOW-9 QUOTATION MARK", 0x201e), ("DOUBLE HIGH-REVERSED-9 QUOTATION MARK", 0x201f),
  ("DAGGER", 0x2020), ("DOUBLE DAGGER", 0x2021), ("BULLET", 0x2022), ("TRIANGULAR BULLET", 0x2023),
  ("ONE DOT LEADER", 0x2024), ("TWO DOT LEADER", 0x2025), ("HORIZONTAL ELLIPSIS", 0x2026),
  ("HYPHENATION POINT", 0x2027), ("LINE SEPARATOR", 0x2028), ("PARAGRAPH SEPARATOR", 0x2029),
  ("LEFT-TO-RIGHT EMBEDDING", 0x202a), ("RIGHT-TO-LEFT EMBEDDING", 0x202b),
  ("POP DIRECTIONAL FORMATTING", 0x202c), ("LEFT-TO-RIGHT OVERRIDE", 0x202d),
  ("RIGHT-TO-LEFT OVERRIDE", 0x202e), ("NARROW NO-BREAK SPACE", 0x202f),
  ("PER MILLE SIGN", 0x2030), ("PER TEN THOUSAND SIGN", 0x2031), ("PRIME", 0x2032),
  ("DOUBLE PRIME", 0x2033), ("TRIPLE PRIME", 0x2034), ("REVERSED PRIME", 0x2035),
  ("REVERSED DOUBLE PRIME", 0x2036), ("REVERSED TRIPLE PRIME", 0x2037), ("CARET", 0x2038),
  ("SINGLE LEFT-POINTING ANGLE QUOTATION MARK", 0x2039),
  ("SINGLE RIGHT-POINTING ANGLE QUOTATION MARK", 0x203a), ("REFERENCE MARK", 0x203b),
  ("DOUBLE EXCLAMATION MARK", 0x203c), ("INTERROBANG", 0x203d), ("OVERLINE", 0x203e),
  ("UNDERTIE", 0x203f), ("CHARACTER TIE", 0x2040), ("CARET INSERTION POINT", 0x2041),
  ("ASTERISM", 0x2042), ("HYPHEN BULLET", 0x2043), ("FRACTION SLASH", 0x2044),
  ("EURO-CURRENCY SIGN", 0x20a0), ("COLON SIGN", 0x20a1), ("CRUZEIRO SIGN", 0x20a2),
  ("FRENCH FRANC SIGN", 0x20a3), ("LIRA SIGN", 0x20a4), ("MILL SIGN", 0x20a5),
  ("NAIRA SIGN", 0x20a6), ("PESETA SIGN", 0x20a7), ("RUPEE SIGN", 0x20a8), ("WON SIGN", 0x20a9),
  ("NEW SHEQEL SIGN", 0x20aa), ("DONG SIGN", 0x20ab), ("EURO SIGN", 0x20ac), ("KIP SIGN", 0x20ad),
  ("TUGRIK SIGN", 0x20ae), ("DRACHMA SIGN", 0x20af), ("GERMAN PENNY SIGN", 0x20b0),
  ("PESO SIGN", 0x20b1), ("GUARANI SIGN", 0x20b2), ("AUSTRAL SIGN", 0x20b3),
  ("HRYVNIA SIGN", 0x20b4), ("CEDI SIGN", 0x20b5), ("LIVRE TOURNOIS SIGN", 0x20b6),
  ("SPESMILO SIGN", 0x20b7), ("TENGE SIGN", 0x20b8), ("INDIAN RUPEE SIGN", 0x20b9),
  ("TURKISH LIRA SIGN", 0x20ba), ("NORDIC MARK SIGN", 0x20bb), ("MANAT SIGN", 0x20bc),
  ("RUBLE SIGN", 0x20bd), ("LARI SIGN", 0x20be), ("BITCOIN SIGN", 0x20bf), ("SOM SIGN", 0x20c0),
  ("LEFTWARDS ARROW", 0x2190), ("UPWARDS ARROW", 0x2191), ("RIGHTWARDS ARROW", 0x2192),
  ("DOWNWARDS ARROW", 0x2193), ("LEFT RIGHT ARROW", 0x2194), ("UP DOWN ARROW", 0x2195),
  ("NORTH WEST ARROW", 0x2196), ("NORTH EAST ARROW", 0x2197), ("SOUTH EAST ARROW", 0x2198),
  ("SOUTH WEST ARROW", 0x2199), ("FOR ALL", 0x2200), ("COMPLEMENT", 0x2201),
  ("PARTIAL DIFFERENTIAL", 0x2202), ("THERE EXISTS", 0x2203), ("THERE DOES NOT EXIST", 0x2204),
  ("EMPTY SET", 0x2205), ("INCREMENT", 0x2206), ("NABLA", 0x2207), ("ELEMENT OF", 0x2208),
  ("NOT AN ELEMENT OF", 0x2209), ("SMALL ELEMENT OF", 0x220a), ("CONTAINS AS MEMBER", 0x220b),
  ("DOES NOT CONTAIN AS MEMBER", 0x220c), ("SMALL CONTAINS AS MEMBER", 0x220d),
  ("END OF PROOF", 0x220e), ("N-ARY PRODUCT", 0x220f), ("N-ARY COPRODUCT", 0x2210),
  ("N-ARY SUMMATION", 0x2211), ("MINUS SIGN", 0x2212), ("MINUS-OR-PLUS SIGN", 0x2213),
  ("DOT PLUS", 0x2214), ("DIVISION SLASH", 0x2215), ("SET MINUS", 0x2216),
  ("ASTERISK OPERATOR", 0x2217), ("RING OPERATOR", 0x2218), ("BULLET OPERATOR", 0x2219),
  ("SQUARE ROOT", 0x221a), ("CUBE ROOT", 0x221b), ("FOURTH ROOT", 0x221c),
  ("PROPORTIONAL TO", 0x221d), ("INFINITY", 0x221e), ("RIGHT ANGLE", 0x221f), ("ANGLE", 0x2220),
  ("MEASURED ANGLE", 0x2221), ("SPHERICAL ANGLE", 0x2222), ("DIVIDES", 0x2223),
  ("DOES NOT DIVIDE", 0x2224), ("PARALLEL TO", 0x2225), ("NOT PARALLEL TO", 0x2226),
  ("LOGICAL AND", 0x2227), ("LOGICAL OR", 0x2228), ("INTERSECTION", 0x2229), ("UNION", 0x222a),
  ("INTEGRAL", 0x222b), ("BLACK SUN WITH RAYS", 0x2600), ("CLOUD", 0x2601), ("UMBRELLA", 0x2602),
  ("SNOWMAN", 0x2603), ("COMET", 0x2604), ("BLACK STAR", 0x2605), ("WHITE STAR", 0x2606),
  ("BLACK SPADE SUIT", 0x2660), ("WHITE HEART SUIT", 0x2661), ("WHITE DIAMOND SUIT", 0x2662),
  ("BLACK CLUB SUIT", 0x2663), ("WHITE SPADE SUIT", 0x2664), ("BLACK HEART SUIT", 0x2665),
  ("BLACK DIAMOND SUIT", 0x2666), ("WHITE CLUB SUIT", 0x2667), ("GRINNING FACE", 0x1f600),
  ("GRINNING FACE WITH SMILING EYES", 0x1f601), ("FACE WITH TEARS OF JOY", 0x1f602),
  ("SMILING FACE WITH OPEN MOUTH", 0x1f603),
  ("SMILING FACE WITH OPEN MOUTH AND SMILING EYES", 0x1f604),
  ("SMILING FACE WITH OPEN MOUTH AND COLD SWEAT", 0x1f605),
  ("SMILING FACE WITH OPEN MOUTH AND TIGHTLY-CLOSED EYES", 0x1f606),
  ("SMILING FACE WITH HALO", 0x1f607), ("SMILING FACE WITH HORNS", 0x1f608),
  ("WINKING FACE", 0x1f609), ("SMILING FACE WITH SMILING EYES", 0x1f60a),
  ("FACE SAVOURING DELICIOUS FOOD", 0x1f60b), ("RELIEVED FACE", 0x1f60c),
  ("SMILING FACE WITH HEART-SHAPED EYES", 0x1f60d), ("SMILING FACE WITH SUNGLASSES", 0x1f60e),
  ("SMIRKING FACE", 0x1f60f), ("NEUTRAL FACE", 0x1f610), ("EXPRESSIONLESS FACE", 0x1f611),
  ("UNAMUSED FACE", 0x1f612), ("FACE WITH COLD SWEAT", 0x1f613), ("PENSIVE FACE", 0x1f614),
  ("CONFUSED FACE", 0x1f615), ("CONFOUNDED FACE", 0x1f616), ("KISSING FACE", 0x1f617),
  ("FACE THROWING A KISS", 0x1f618), ("KISSING FACE WITH SMILING EYES", 0x1f619),
  ("KISSING FACE WITH CLOSED EYES", 0x1f61a), ("FACE WITH STUCK-OUT TONGUE", 0x1f61b),
  ("FACE WITH STUCK-OUT TONGUE AND WINKING EYE", 0x1f61c),
  ("FACE WITH STUCK-OUT TONGUE AND TIGHTLY-CLOSED EYES", 0x1f61d), ("DISAPPOINTED FACE", 0x1f61e),
  ("WORRIED FACE", 0x1f61f), ("ANGRY FACE", 0x1f620), ("POUTING FACE", 0x1f621),
  ("CRYING FACE", 0x1f622), ("PERSEVERING FACE", 0x1f623), ("FACE WITH LOOK OF TRIUMPH", 0x1f624),
  ("DISAPPOINTED BUT RELIEVED FACE", 0x1f625), ("FROWNING FACE WITH OPEN MOUTH", 0x1f626),
  ("ANGUISHED FACE", 0x1f627), ("FEARFUL FACE", 0x1f628), ("WEARY FACE", 0x1f629),
  ("SLEEPY FACE", 0x1f62a), ("TIRED FACE", 0x1f62b), ("GRIMACING FACE", 0x1f62c),
  ("LOUDLY CRYING FACE", 0x1f62d), ("FACE WITH OPEN MOUTH", 0x1f62e), ("HUSHED FACE", 0x1f62f),
  ("FACE WITH OPEN MOUTH AND COLD SWEAT", 0x1f630), ("FACE SCREAMING IN FEAR", 0x1f631),
  ("ASTONISHED FACE", 0x1f632), ("FLUSHED FACE", 0x1f633), ("SLEEPING FACE", 0x1f634),
  ("DIZZY FACE", 0x1f635), ("FACE WITHOUT MOUTH", 0x1f636), ("FACE WITH MEDICAL MASK", 0x1f637),
  ("GRINNING CAT FACE WITH SMILING EYES", 0x1f638), ("CAT FACE WITH TEARS OF JOY", 0x1f639),
  ("SMILING CAT FACE WITH OPEN MOUTH", 0x1f63a),
  ("SMILING CAT FACE WITH HEART-SHAPED EYES", 0x1f63b), ("CAT FACE WITH WRY SMILE", 0x1f63c),
  ("KISSING CAT FACE WITH CLOSED EYES", 0x1f63d), ("POUTING CAT FACE", 0x1f63e),
  ("CRYING CAT FACE", 0x1f63f), ("WEARY CAT FACE", 0x1f640), ("SLIGHTLY FROWNING FACE", 0x1f641),
  ("SLIGHTLY SMILING FACE", 0x1f642), ("UPSIDE-DOWN FACE", 0x1f643),
  ("FACE WITH ROLLING EYES", 0x1f644), ("FACE WITH NO GOOD GESTURE", 0x1f645),
  ("FACE WITH OK GESTURE", 0x1f646), ("PERSON BOWING DEEPLY", 0x1f647),
  ("SEE-NO-EVIL MONKEY", 0x1f648), ("HEAR-NO-EVIL MONKEY", 0x1f649),
  ("SPEAK-NO-EVIL MONKEY", 0x1f64a), ("HAPPY PERSON RAISING ONE HAND", 0x1f64b),
  ("PERSON RAISING BOTH HANDS IN CELEBRATION", 0x1f64c), ("PERSON FROWNING", 0x1f64d),
  ("PERSON WITH POUTING FACE", 0x1f64e), ("PERSON WITH FOLDED HANDS", 0x1f64f)]

/-- The character of a name; the case of letters does not count. -/
def namedCharacter? (name : String) : Option Char :=
  let name := name.toUpper
  (characterNames.find? (·.1 == name)).map fun entry => Char.ofNat entry.2

end ByteRecord.Text
