import LiquidMarkdown.Unicode.NameRun

/-!
# Names of characters: the letters of Europe

* `european` — the names of the Latin, Greek, Cyrillic and Armenian letters, with the marks that
  are put to them.
-/

namespace LiquidMarkdown
namespace Unicode
namespace Names

/-- The names in the block Basic Latin. -/
def basicLatin : List NameRun :=
  [⟨0x20, "", "SPACE;EXCLAMATION MARK;QUOTATION MARK;NUMBER SIGN;DOLLAR SIGN;PERCENT SIGN"⟩,
   ⟨0x26, "", "AMPERSAND;APOSTROPHE;LEFT PARENTHESIS;RIGHT PARENTHESIS;ASTERISK;PLUS SIGN"⟩,
   ⟨0x2c, "", "COMMA;HYPHEN-MINUS;FULL STOP;SOLIDUS;DIGIT ZERO;DIGIT ONE;DIGIT TWO;DIGIT THREE"⟩,
   ⟨0x34, "", "DIGIT FOUR;DIGIT FIVE;DIGIT SIX;DIGIT SEVEN;DIGIT EIGHT;DIGIT NINE;COLON"⟩,
   ⟨0x3b, "", "SEMICOLON;LESS-THAN SIGN;EQUALS SIGN;GREATER-THAN SIGN;QUESTION MARK;COMMERCIAL AT"⟩,
   ⟨0x41, "LATIN CAPITAL LETTER ", "A;B;C;D;E;F;G;H;I;J;K;L;M;N;O;P;Q;R;S;T;U;V;W;X"⟩,
   ⟨0x59, "", "LATIN CAPITAL LETTER Y;LATIN CAPITAL LETTER Z;LEFT SQUARE BRACKET;REVERSE SOLIDUS"⟩,
   ⟨0x5d, "", "RIGHT SQUARE BRACKET;CIRCUMFLEX ACCENT;LOW LINE;GRAVE ACCENT"⟩,
   ⟨0x61, "LATIN SMALL LETTER ", "A;B;C;D;E;F;G;H;I;J;K;L;M;N;O;P;Q;R;S;T;U;V;W;X;Y"⟩,
   ⟨0x7a, "", "LATIN SMALL LETTER Z;LEFT CURLY BRACKET;VERTICAL LINE;RIGHT CURLY BRACKET;TILDE"⟩]

/-- The names in the block Latin-1 Supplement. -/
def latin1Supplement : List NameRun :=
  [⟨0xa0, "", "NO-BREAK SPACE;INVERTED EXCLAMATION MARK;CENT SIGN"⟩,
   ⟨0xa3, "", "POUND SIGN;CURRENCY SIGN;YEN SIGN;BROKEN BAR;SECTION SIGN;DIAERESIS;COPYRIGHT SIGN"⟩,
   ⟨0xaa, "", "FEMININE ORDINAL INDICATOR;LEFT-POINTING DOUBLE ANGLE QUOTATION MARK"⟩,
   ⟨0xac, "", "NOT SIGN;SOFT HYPHEN;REGISTERED SIGN;MACRON;DEGREE SIGN"⟩,
   ⟨0xb1, "", "PLUS-MINUS SIGN;SUPERSCRIPT TWO;SUPERSCRIPT THREE;ACUTE ACCENT;MICRO SIGN"⟩,
   ⟨0xb6, "", "PILCROW SIGN;MIDDLE DOT;CEDILLA;SUPERSCRIPT ONE;MASCULINE ORDINAL INDICATOR"⟩,
   ⟨0xbb, "", "RIGHT-POINTING DOUBLE ANGLE QUOTATION MARK;VULGAR FRACTION ONE QUARTER"⟩,
   ⟨0xbd, "", "VULGAR FRACTION ONE HALF;VULGAR FRACTION THREE QUARTERS;INVERTED QUESTION MARK"⟩,
   ⟨0xc0, "LATIN CAPITAL LETTER A WITH ", "GRAVE;ACUTE;CIRCUMFLEX;TILDE;DIAERESIS"⟩,
   ⟨0xc5, "LATIN CAPITAL LETTER ", "A WITH RING ABOVE;AE;C WITH CEDILLA;E WITH GRAVE;E WITH ACUTE"⟩,
   ⟨0xca, "LATIN CAPITAL LETTER ", "E WITH CIRCUMFLEX;E WITH DIAERESIS;I WITH GRAVE;I WITH ACUTE"⟩,
   ⟨0xce, "LATIN CAPITAL LETTER ", "I WITH CIRCUMFLEX;I WITH DIAERESIS;ETH;N WITH TILDE"⟩,
   ⟨0xd2, "LATIN CAPITAL LETTER O WITH ", "GRAVE;ACUTE;CIRCUMFLEX;TILDE;DIAERESIS"⟩,
   ⟨0xd7, "", "MULTIPLICATION SIGN;LATIN CAPITAL LETTER O WITH STROKE"⟩,
   ⟨0xd9, "LATIN CAPITAL LETTER U WITH ", "GRAVE;ACUTE;CIRCUMFLEX;DIAERESIS"⟩,
   ⟨0xdd, "LATIN ", "CAPITAL LETTER Y WITH ACUTE;CAPITAL LETTER THORN;SMALL LETTER SHARP S"⟩,
   ⟨0xe0, "LATIN SMALL LETTER A WITH ", "GRAVE;ACUTE;CIRCUMFLEX;TILDE;DIAERESIS;RING ABOVE"⟩,
   ⟨0xe6, "LATIN SMALL LETTER ", "AE;C WITH CEDILLA;E WITH GRAVE;E WITH ACUTE;E WITH CIRCUMFLEX"⟩,
   ⟨0xeb, "LATIN SMALL LETTER ", "E WITH DIAERESIS;I WITH GRAVE;I WITH ACUTE;I WITH CIRCUMFLEX"⟩,
   ⟨0xef, "LATIN SMALL LETTER ",
     "I WITH DIAERESIS;ETH;N WITH TILDE;O WITH GRAVE;O WITH ACUTE;O WITH CIRCUMFLEX"⟩,
   ⟨0xf5, "", "LATIN SMALL LETTER O WITH TILDE;LATIN SMALL LETTER O WITH DIAERESIS;DIVISION SIGN"⟩,
   ⟨0xf8, "LATIN SMALL LETTER ", "O WITH STROKE;U WITH GRAVE;U WITH ACUTE;U WITH CIRCUMFLEX"⟩,
   ⟨0xfc, "LATIN SMALL LETTER ", "U WITH DIAERESIS;Y WITH ACUTE;THORN;Y WITH DIAERESIS"⟩]

/-- The names in the block Latin Extended-A. -/
def latinExtendedA : List NameRun :=
  [⟨0x100, "LATIN ", "CAPITAL LETTER A WITH MACRON;SMALL LETTER A WITH MACRON"⟩,
   ⟨0x102, "LATIN ", "CAPITAL LETTER A WITH BREVE;SMALL LETTER A WITH BREVE"⟩,
   ⟨0x104, "LATIN ", "CAPITAL LETTER A WITH OGONEK;SMALL LETTER A WITH OGONEK"⟩,
   ⟨0x106, "LATIN ", "CAPITAL LETTER C WITH ACUTE;SMALL LETTER C WITH ACUTE"⟩,
   ⟨0x108, "LATIN ", "CAPITAL LETTER C WITH CIRCUMFLEX;SMALL LETTER C WITH CIRCUMFLEX"⟩,
   ⟨0x10a, "LATIN ", "CAPITAL LETTER C WITH DOT ABOVE;SMALL LETTER C WITH DOT ABOVE"⟩,
   ⟨0x10c, "LATIN ", "CAPITAL LETTER C WITH CARON;SMALL LETTER C WITH CARON"⟩,
   ⟨0x10e, "LATIN ", "CAPITAL LETTER D WITH CARON;SMALL LETTER D WITH CARON"⟩,
   ⟨0x110, "LATIN ", "CAPITAL LETTER D WITH STROKE;SMALL LETTER D WITH STROKE"⟩,
   ⟨0x112, "LATIN ", "CAPITAL LETTER E WITH MACRON;SMALL LETTER E WITH MACRON"⟩,
   ⟨0x114, "LATIN ", "CAPITAL LETTER E WITH BREVE;SMALL LETTER E WITH BREVE"⟩,
   ⟨0x116, "LATIN ", "CAPITAL LETTER E WITH DOT ABOVE;SMALL LETTER E WITH DOT ABOVE"⟩,
   ⟨0x118, "LATIN ", "CAPITAL LETTER E WITH OGONEK;SMALL LETTER E WITH OGONEK"⟩,
   ⟨0x11a, "LATIN ", "CAPITAL LETTER E WITH CARON;SMALL LETTER E WITH CARON"⟩,
   ⟨0x11c, "LATIN ", "CAPITAL LETTER G WITH CIRCUMFLEX;SMALL LETTER G WITH CIRCUMFLEX"⟩,
   ⟨0x11e, "LATIN ", "CAPITAL LETTER G WITH BREVE;SMALL LETTER G WITH BREVE"⟩,
   ⟨0x120, "LATIN ", "CAPITAL LETTER G WITH DOT ABOVE;SMALL LETTER G WITH DOT ABOVE"⟩,
   ⟨0x122, "LATIN ", "CAPITAL LETTER G WITH CEDILLA;SMALL LETTER G WITH CEDILLA"⟩,
   ⟨0x124, "LATIN ", "CAPITAL LETTER H WITH CIRCUMFLEX;SMALL LETTER H WITH CIRCUMFLEX"⟩,
   ⟨0x126, "LATIN ", "CAPITAL LETTER H WITH STROKE;SMALL LETTER H WITH STROKE"⟩,
   ⟨0x128, "LATIN ", "CAPITAL LETTER I WITH TILDE;SMALL LETTER I WITH TILDE"⟩,
   ⟨0x12a, "LATIN ", "CAPITAL LETTER I WITH MACRON;SMALL LETTER I WITH MACRON"⟩,
   ⟨0x12c, "LATIN ", "CAPITAL LETTER I WITH BREVE;SMALL LETTER I WITH BREVE"⟩,
   ⟨0x12e, "LATIN ", "CAPITAL LETTER I WITH OGONEK;SMALL LETTER I WITH OGONEK"⟩,
   ⟨0x130, "LATIN ", "CAPITAL LETTER I WITH DOT ABOVE;SMALL LETTER DOTLESS I"⟩,
   ⟨0x132, "LATIN ", "CAPITAL LIGATURE IJ;SMALL LIGATURE IJ;CAPITAL LETTER J WITH CIRCUMFLEX"⟩,
   ⟨0x135, "LATIN ", "SMALL LETTER J WITH CIRCUMFLEX;CAPITAL LETTER K WITH CEDILLA"⟩,
   ⟨0x137, "LATIN ", "SMALL LETTER K WITH CEDILLA;SMALL LETTER KRA;CAPITAL LETTER L WITH ACUTE"⟩,
   ⟨0x13a, "LATIN ", "SMALL LETTER L WITH ACUTE;CAPITAL LETTER L WITH CEDILLA"⟩,
   ⟨0x13c, "LATIN ", "SMALL LETTER L WITH CEDILLA;CAPITAL LETTER L WITH CARON"⟩,
   ⟨0x13e, "LATIN ", "SMALL LETTER L WITH CARON;CAPITAL LETTER L WITH MIDDLE DOT"⟩,
   ⟨0x140, "LATIN ", "SMALL LETTER L WITH MIDDLE DOT;CAPITAL LETTER L WITH STROKE"⟩,
   ⟨0x142, "LATIN ", "SMALL LETTER L WITH STROKE;CAPITAL LETTER N WITH ACUTE"⟩,
   ⟨0x144, "LATIN ", "SMALL LETTER N WITH ACUTE;CAPITAL LETTER N WITH CEDILLA"⟩,
   ⟨0x146, "LATIN ", "SMALL LETTER N WITH CEDILLA;CAPITAL LETTER N WITH CARON"⟩,
   ⟨0x148, "LATIN ",
     "SMALL LETTER N WITH CARON;SMALL LETTER N PRECEDED BY APOSTROPHE;CAPITAL LETTER ENG"⟩,
   ⟨0x14b, "LATIN ", "SMALL LETTER ENG;CAPITAL LETTER O WITH MACRON;SMALL LETTER O WITH MACRON"⟩,
   ⟨0x14e, "LATIN ", "CAPITAL LETTER O WITH BREVE;SMALL LETTER O WITH BREVE"⟩,
   ⟨0x150, "LATIN ", "CAPITAL LETTER O WITH DOUBLE ACUTE;SMALL LETTER O WITH DOUBLE ACUTE"⟩,
   ⟨0x152, "LATIN ", "CAPITAL LIGATURE OE;SMALL LIGATURE OE;CAPITAL LETTER R WITH ACUTE"⟩,
   ⟨0x155, "LATIN ", "SMALL LETTER R WITH ACUTE;CAPITAL LETTER R WITH CEDILLA"⟩,
   ⟨0x157, "LATIN ", "SMALL LETTER R WITH CEDILLA;CAPITAL LETTER R WITH CARON"⟩,
   ⟨0x159, "LATIN ", "SMALL LETTER R WITH CARON;CAPITAL LETTER S WITH ACUTE"⟩,
   ⟨0x15b, "LATIN ", "SMALL LETTER S WITH ACUTE;CAPITAL LETTER S WITH CIRCUMFLEX"⟩,
   ⟨0x15d, "LATIN ", "SMALL LETTER S WITH CIRCUMFLEX;CAPITAL LETTER S WITH CEDILLA"⟩,
   ⟨0x15f, "LATIN ", "SMALL LETTER S WITH CEDILLA;CAPITAL LETTER S WITH CARON"⟩,
   ⟨0x161, "LATIN ", "SMALL LETTER S WITH CARON;CAPITAL LETTER T WITH CEDILLA"⟩,
   ⟨0x163, "LATIN ", "SMALL LETTER T WITH CEDILLA;CAPITAL LETTER T WITH CARON"⟩,
   ⟨0x165, "LATIN ", "SMALL LETTER T WITH CARON;CAPITAL LETTER T WITH STROKE"⟩,
   ⟨0x167, "LATIN ", "SMALL LETTER T WITH STROKE;CAPITAL LETTER U WITH TILDE"⟩,
   ⟨0x169, "LATIN ", "SMALL LETTER U WITH TILDE;CAPITAL LETTER U WITH MACRON"⟩,
   ⟨0x16b, "LATIN ", "SMALL LETTER U WITH MACRON;CAPITAL LETTER U WITH BREVE"⟩,
   ⟨0x16d, "LATIN ", "SMALL LETTER U WITH BREVE;CAPITAL LETTER U WITH RING ABOVE"⟩,
   ⟨0x16f, "LATIN ", "SMALL LETTER U WITH RING ABOVE;CAPITAL LETTER U WITH DOUBLE ACUTE"⟩,
   ⟨0x171, "LATIN ", "SMALL LETTER U WITH DOUBLE ACUTE;CAPITAL LETTER U WITH OGONEK"⟩,
   ⟨0x173, "LATIN ", "SMALL LETTER U WITH OGONEK;CAPITAL LETTER W WITH CIRCUMFLEX"⟩,
   ⟨0x175, "LATIN ", "SMALL LETTER W WITH CIRCUMFLEX;CAPITAL LETTER Y WITH CIRCUMFLEX"⟩,
   ⟨0x177, "LATIN ", "SMALL LETTER Y WITH CIRCUMFLEX;CAPITAL LETTER Y WITH DIAERESIS"⟩,
   ⟨0x179, "LATIN ", "CAPITAL LETTER Z WITH ACUTE;SMALL LETTER Z WITH ACUTE"⟩,
   ⟨0x17b, "LATIN ", "CAPITAL LETTER Z WITH DOT ABOVE;SMALL LETTER Z WITH DOT ABOVE"⟩,
   ⟨0x17d, "LATIN ", "CAPITAL LETTER Z WITH CARON;SMALL LETTER Z WITH CARON;SMALL LETTER LONG S"⟩]

/-- The names in the block Latin Extended-B. -/
def latinExtendedB : List NameRun :=
  [⟨0x180, "LATIN ",
     "SMALL LETTER B WITH STROKE;CAPITAL LETTER B WITH HOOK;CAPITAL LETTER B WITH TOPBAR"⟩,
   ⟨0x183, "LATIN ", "SMALL LETTER B WITH TOPBAR;CAPITAL LETTER TONE SIX;SMALL LETTER TONE SIX"⟩,
   ⟨0x186, "LATIN ", "CAPITAL LETTER OPEN O;CAPITAL LETTER C WITH HOOK;SMALL LETTER C WITH HOOK"⟩,
   ⟨0x189, "LATIN CAPITAL LETTER ", "AFRICAN D;D WITH HOOK;D WITH TOPBAR"⟩,
   ⟨0x18c, "LATIN SMALL LETTER ", "D WITH TOPBAR;TURNED DELTA"⟩,
   ⟨0x18e, "LATIN CAPITAL LETTER ", "REVERSED E;SCHWA;OPEN E;F WITH HOOK"⟩,
   ⟨0x192, "LATIN ", "SMALL LETTER F WITH HOOK;CAPITAL LETTER G WITH HOOK;CAPITAL LETTER GAMMA"⟩,
   ⟨0x195, "LATIN ", "SMALL LETTER HV;CAPITAL LETTER IOTA;CAPITAL LETTER I WITH STROKE"⟩,
   ⟨0x198, "LATIN ", "CAPITAL LETTER K WITH HOOK;SMALL LETTER K WITH HOOK;SMALL LETTER L WITH BAR"⟩,
   ⟨0x19b, "LATIN ",
     "SMALL LETTER LAMBDA WITH STROKE;CAPITAL LETTER TURNED M;CAPITAL LETTER N WITH LEFT HOOK"⟩,
   ⟨0x19e, "LATIN ", "SMALL LETTER N WITH LONG RIGHT LEG;CAPITAL LETTER O WITH MIDDLE TILDE"⟩,
   ⟨0x1a0, "LATIN ", "CAPITAL LETTER O WITH HORN;SMALL LETTER O WITH HORN;CAPITAL LETTER OI"⟩,
   ⟨0x1a3, "LATIN ", "SMALL LETTER OI;CAPITAL LETTER P WITH HOOK;SMALL LETTER P WITH HOOK"⟩,
   ⟨0x1a6, "LATIN ", "LETTER YR;CAPITAL LETTER TONE TWO;SMALL LETTER TONE TWO;CAPITAL LETTER ESH"⟩,
   ⟨0x1aa, "LATIN ", "LETTER REVERSED ESH LOOP;SMALL LETTER T WITH PALATAL HOOK"⟩,
   ⟨0x1ac, "LATIN ", "CAPITAL LETTER T WITH HOOK;SMALL LETTER T WITH HOOK"⟩,
   ⟨0x1ae, "LATIN CAPITAL LETTER ", "T WITH RETROFLEX HOOK;U WITH HORN"⟩,
   ⟨0x1b0, "LATIN ", "SMALL LETTER U WITH HORN;CAPITAL LETTER UPSILON;CAPITAL LETTER V WITH HOOK"⟩,
   ⟨0x1b3, "LATIN ", "CAPITAL LETTER Y WITH HOOK;SMALL LETTER Y WITH HOOK"⟩,
   ⟨0x1b5, "LATIN ", "CAPITAL LETTER Z WITH STROKE;SMALL LETTER Z WITH STROKE;CAPITAL LETTER EZH"⟩,
   ⟨0x1b8, "LATIN ",
     "CAPITAL LETTER EZH REVERSED;SMALL LETTER EZH REVERSED;SMALL LETTER EZH WITH TAIL"⟩,
   ⟨0x1bb, "LATIN ", "LETTER TWO WITH STROKE;CAPITAL LETTER TONE FIVE;SMALL LETTER TONE FIVE"⟩,
   ⟨0x1be, "LATIN LETTER ", "INVERTED GLOTTAL STOP WITH STROKE;WYNN;DENTAL CLICK;LATERAL CLICK"⟩,
   ⟨0x1c2, "LATIN ", "LETTER ALVEOLAR CLICK;LETTER RETROFLEX CLICK;CAPITAL LETTER DZ WITH CARON"⟩,
   ⟨0x1c5, "LATIN ", "CAPITAL LETTER D WITH SMALL LETTER Z WITH CARON;SMALL LETTER DZ WITH CARON"⟩,
   ⟨0x1c7, "LATIN ", "CAPITAL LETTER LJ;CAPITAL LETTER L WITH SMALL LETTER J;SMALL LETTER LJ"⟩,
   ⟨0x1ca, "LATIN ", "CAPITAL LETTER NJ;CAPITAL LETTER N WITH SMALL LETTER J;SMALL LETTER NJ"⟩,
   ⟨0x1cd, "LATIN ", "CAPITAL LETTER A WITH CARON;SMALL LETTER A WITH CARON"⟩,
   ⟨0x1cf, "LATIN ", "CAPITAL LETTER I WITH CARON;SMALL LETTER I WITH CARON"⟩,
   ⟨0x1d1, "LATIN ", "CAPITAL LETTER O WITH CARON;SMALL LETTER O WITH CARON"⟩,
   ⟨0x1d3, "LATIN ", "CAPITAL LETTER U WITH CARON;SMALL LETTER U WITH CARON"⟩,
   ⟨0x1d5, "LATIN ",
     "CAPITAL LETTER U WITH DIAERESIS AND MACRON;SMALL LETTER U WITH DIAERESIS AND MACRON"⟩,
   ⟨0x1d7, "LATIN ",
     "CAPITAL LETTER U WITH DIAERESIS AND ACUTE;SMALL LETTER U WITH DIAERESIS AND ACUTE"⟩,
   ⟨0x1d9, "LATIN ",
     "CAPITAL LETTER U WITH DIAERESIS AND CARON;SMALL LETTER U WITH DIAERESIS AND CARON"⟩,
   ⟨0x1db, "LATIN ",
     "CAPITAL LETTER U WITH DIAERESIS AND GRAVE;SMALL LETTER U WITH DIAERESIS AND GRAVE"⟩,
   ⟨0x1dd, "LATIN ", "SMALL LETTER TURNED E;CAPITAL LETTER A WITH DIAERESIS AND MACRON"⟩,
   ⟨0x1df, "LATIN ",
     "SMALL LETTER A WITH DIAERESIS AND MACRON;CAPITAL LETTER A WITH DOT ABOVE AND MACRON"⟩,
   ⟨0x1e1, "LATIN ", "SMALL LETTER A WITH DOT ABOVE AND MACRON;CAPITAL LETTER AE WITH MACRON"⟩,
   ⟨0x1e3, "LATIN ", "SMALL LETTER AE WITH MACRON;CAPITAL LETTER G WITH STROKE"⟩,
   ⟨0x1e5, "LATIN ", "SMALL LETTER G WITH STROKE;CAPITAL LETTER G WITH CARON"⟩,
   ⟨0x1e7, "LATIN ", "SMALL LETTER G WITH CARON;CAPITAL LETTER K WITH CARON"⟩,
   ⟨0x1e9, "LATIN ", "SMALL LETTER K WITH CARON;CAPITAL LETTER O WITH OGONEK"⟩,
   ⟨0x1eb, "LATIN ", "SMALL LETTER O WITH OGONEK;CAPITAL LETTER O WITH OGONEK AND MACRON"⟩,
   ⟨0x1ed, "LATIN ", "SMALL LETTER O WITH OGONEK AND MACRON;CAPITAL LETTER EZH WITH CARON"⟩,
   ⟨0x1ef, "LATIN ", "SMALL LETTER EZH WITH CARON;SMALL LETTER J WITH CARON;CAPITAL LETTER DZ"⟩,
   ⟨0x1f2, "LATIN ", "CAPITAL LETTER D WITH SMALL LETTER Z;SMALL LETTER DZ"⟩,
   ⟨0x1f4, "LATIN ", "CAPITAL LETTER G WITH ACUTE;SMALL LETTER G WITH ACUTE"⟩,
   ⟨0x1f6, "LATIN CAPITAL LETTER ", "HWAIR;WYNN;N WITH GRAVE"⟩,
   ⟨0x1f9, "LATIN ", "SMALL LETTER N WITH GRAVE;CAPITAL LETTER A WITH RING ABOVE AND ACUTE"⟩,
   ⟨0x1fb, "LATIN ", "SMALL LETTER A WITH RING ABOVE AND ACUTE;CAPITAL LETTER AE WITH ACUTE"⟩,
   ⟨0x1fd, "LATIN ", "SMALL LETTER AE WITH ACUTE;CAPITAL LETTER O WITH STROKE AND ACUTE"⟩,
   ⟨0x1ff, "LATIN ", "SMALL LETTER O WITH STROKE AND ACUTE;CAPITAL LETTER A WITH DOUBLE GRAVE"⟩,
   ⟨0x201, "LATIN ", "SMALL LETTER A WITH DOUBLE GRAVE;CAPITAL LETTER A WITH INVERTED BREVE"⟩,
   ⟨0x203, "LATIN ", "SMALL LETTER A WITH INVERTED BREVE;CAPITAL LETTER E WITH DOUBLE GRAVE"⟩,
   ⟨0x205, "LATIN ", "SMALL LETTER E WITH DOUBLE GRAVE;CAPITAL LETTER E WITH INVERTED BREVE"⟩,
   ⟨0x207, "LATIN ", "SMALL LETTER E WITH INVERTED BREVE;CAPITAL LETTER I WITH DOUBLE GRAVE"⟩,
   ⟨0x209, "LATIN ", "SMALL LETTER I WITH DOUBLE GRAVE;CAPITAL LETTER I WITH INVERTED BREVE"⟩,
   ⟨0x20b, "LATIN ", "SMALL LETTER I WITH INVERTED BREVE;CAPITAL LETTER O WITH DOUBLE GRAVE"⟩,
   ⟨0x20d, "LATIN ", "SMALL LETTER O WITH DOUBLE GRAVE;CAPITAL LETTER O WITH INVERTED BREVE"⟩,
   ⟨0x20f, "LATIN ", "SMALL LETTER O WITH INVERTED BREVE;CAPITAL LETTER R WITH DOUBLE GRAVE"⟩,
   ⟨0x211, "LATIN ", "SMALL LETTER R WITH DOUBLE GRAVE;CAPITAL LETTER R WITH INVERTED BREVE"⟩,
   ⟨0x213, "LATIN ", "SMALL LETTER R WITH INVERTED BREVE;CAPITAL LETTER U WITH DOUBLE GRAVE"⟩,
   ⟨0x215, "LATIN ", "SMALL LETTER U WITH DOUBLE GRAVE;CAPITAL LETTER U WITH INVERTED BREVE"⟩,
   ⟨0x217, "LATIN ", "SMALL LETTER U WITH INVERTED BREVE;CAPITAL LETTER S WITH COMMA BELOW"⟩,
   ⟨0x219, "LATIN ", "SMALL LETTER S WITH COMMA BELOW;CAPITAL LETTER T WITH COMMA BELOW"⟩,
   ⟨0x21b, "LATIN ", "SMALL LETTER T WITH COMMA BELOW;CAPITAL LETTER YOGH"⟩,
   ⟨0x21d, "LATIN ", "SMALL LETTER YOGH;CAPITAL LETTER H WITH CARON;SMALL LETTER H WITH CARON"⟩,
   ⟨0x220, "LATIN ", "CAPITAL LETTER N WITH LONG RIGHT LEG;SMALL LETTER D WITH CURL"⟩,
   ⟨0x222, "LATIN ", "CAPITAL LETTER OU;SMALL LETTER OU;CAPITAL LETTER Z WITH HOOK"⟩,
   ⟨0x225, "LATIN ", "SMALL LETTER Z WITH HOOK;CAPITAL LETTER A WITH DOT ABOVE"⟩,
   ⟨0x227, "LATIN ", "SMALL LETTER A WITH DOT ABOVE;CAPITAL LETTER E WITH CEDILLA"⟩,
   ⟨0x229, "LATIN ", "SMALL LETTER E WITH CEDILLA;CAPITAL LETTER O WITH DIAERESIS AND MACRON"⟩,
   ⟨0x22b, "LATIN ",
     "SMALL LETTER O WITH DIAERESIS AND MACRON;CAPITAL LETTER O WITH TILDE AND MACRON"⟩,
   ⟨0x22d, "LATIN ", "SMALL LETTER O WITH TILDE AND MACRON;CAPITAL LETTER O WITH DOT ABOVE"⟩,
   ⟨0x22f, "LATIN ", "SMALL LETTER O WITH DOT ABOVE;CAPITAL LETTER O WITH DOT ABOVE AND MACRON"⟩,
   ⟨0x231, "LATIN ", "SMALL LETTER O WITH DOT ABOVE AND MACRON;CAPITAL LETTER Y WITH MACRON"⟩,
   ⟨0x233, "LATIN SMALL LETTER ",
     "Y WITH MACRON;L WITH CURL;N WITH CURL;T WITH CURL;DOTLESS J;DB DIGRAPH;QP DIGRAPH"⟩,
   ⟨0x23a, "LATIN CAPITAL LETTER ", "A WITH STROKE;C WITH STROKE"⟩,
   ⟨0x23c, "LATIN ", "SMALL LETTER C WITH STROKE;CAPITAL LETTER L WITH BAR"⟩,
   ⟨0x23e, "LATIN ", "CAPITAL LETTER T WITH DIAGONAL STROKE;SMALL LETTER S WITH SWASH TAIL"⟩,
   ⟨0x240, "LATIN ", "SMALL LETTER Z WITH SWASH TAIL;CAPITAL LETTER GLOTTAL STOP"⟩,
   ⟨0x242, "LATIN ", "SMALL LETTER GLOTTAL STOP;CAPITAL LETTER B WITH STROKE;CAPITAL LETTER U BAR"⟩,
   ⟨0x245, "LATIN ",
     "CAPITAL LETTER TURNED V;CAPITAL LETTER E WITH STROKE;SMALL LETTER E WITH STROKE"⟩,
   ⟨0x248, "LATIN ", "CAPITAL LETTER J WITH STROKE;SMALL LETTER J WITH STROKE"⟩,
   ⟨0x24a, "LATIN ", "CAPITAL LETTER SMALL Q WITH HOOK TAIL;SMALL LETTER Q WITH HOOK TAIL"⟩,
   ⟨0x24c, "LATIN ", "CAPITAL LETTER R WITH STROKE;SMALL LETTER R WITH STROKE"⟩,
   ⟨0x24e, "LATIN ", "CAPITAL LETTER Y WITH STROKE;SMALL LETTER Y WITH STROKE"⟩]

/-- The names in the block IPA Extensions. -/
def ipaExtensions : List NameRun :=
  [⟨0x250, "LATIN SMALL LETTER ", "TURNED A;ALPHA;TURNED ALPHA;B WITH HOOK;OPEN O;C WITH CURL"⟩,
   ⟨0x256, "LATIN SMALL LETTER ", "D WITH TAIL;D WITH HOOK;REVERSED E;SCHWA;SCHWA WITH HOOK"⟩,
   ⟨0x25b, "LATIN SMALL LETTER ", "OPEN E;REVERSED OPEN E;REVERSED OPEN E WITH HOOK"⟩,
   ⟨0x25e, "LATIN SMALL LETTER ", "CLOSED REVERSED OPEN E;DOTLESS J WITH STROKE;G WITH HOOK"⟩,
   ⟨0x261, "LATIN ", "SMALL LETTER SCRIPT G;LETTER SMALL CAPITAL G;SMALL LETTER GAMMA"⟩,
   ⟨0x264, "LATIN SMALL LETTER ", "RAMS HORN;TURNED H;H WITH HOOK;HENG WITH HOOK;I WITH STROKE"⟩,
   ⟨0x269, "LATIN ", "SMALL LETTER IOTA;LETTER SMALL CAPITAL I;SMALL LETTER L WITH MIDDLE TILDE"⟩,
   ⟨0x26c, "LATIN SMALL LETTER ", "L WITH BELT;L WITH RETROFLEX HOOK;LEZH;TURNED M"⟩,
   ⟨0x270, "LATIN SMALL LETTER ",
     "TURNED M WITH LONG LEG;M WITH HOOK;N WITH LEFT HOOK;N WITH RETROFLEX HOOK"⟩,
   ⟨0x274, "LATIN ", "LETTER SMALL CAPITAL N;SMALL LETTER BARRED O;LETTER SMALL CAPITAL OE"⟩,
   ⟨0x277, "LATIN SMALL LETTER ", "CLOSED OMEGA;PHI;TURNED R;TURNED R WITH LONG LEG"⟩,
   ⟨0x27b, "LATIN SMALL LETTER ", "TURNED R WITH HOOK;R WITH LONG LEG;R WITH TAIL;R WITH FISHHOOK"⟩,
   ⟨0x27f, "LATIN ", "SMALL LETTER REVERSED R WITH FISHHOOK;LETTER SMALL CAPITAL R"⟩,
   ⟨0x281, "LATIN ", "LETTER SMALL CAPITAL INVERTED R;SMALL LETTER S WITH HOOK"⟩,
   ⟨0x283, "LATIN SMALL LETTER ", "ESH;DOTLESS J WITH STROKE AND HOOK;SQUAT REVERSED ESH"⟩,
   ⟨0x286, "LATIN SMALL LETTER ",
     "ESH WITH CURL;TURNED T;T WITH RETROFLEX HOOK;U BAR;UPSILON;V WITH HOOK;TURNED V"⟩,
   ⟨0x28d, "LATIN ", "SMALL LETTER TURNED W;SMALL LETTER TURNED Y;LETTER SMALL CAPITAL Y"⟩,
   ⟨0x290, "LATIN SMALL LETTER ", "Z WITH RETROFLEX HOOK;Z WITH CURL;EZH;EZH WITH CURL"⟩,
   ⟨0x294, "LATIN LETTER ", "GLOTTAL STOP;PHARYNGEAL VOICED FRICATIVE"⟩,
   ⟨0x296, "LATIN LETTER ", "INVERTED GLOTTAL STOP;STRETCHED C;BILABIAL CLICK;SMALL CAPITAL B"⟩,
   ⟨0x29a, "LATIN ", "SMALL LETTER CLOSED OPEN E;LETTER SMALL CAPITAL G WITH HOOK"⟩,
   ⟨0x29c, "LATIN ", "LETTER SMALL CAPITAL H;SMALL LETTER J WITH CROSSED-TAIL"⟩,
   ⟨0x29e, "LATIN ", "SMALL LETTER TURNED K;LETTER SMALL CAPITAL L;SMALL LETTER Q WITH HOOK"⟩,
   ⟨0x2a1, "LATIN LETTER ", "GLOTTAL STOP WITH STROKE;REVERSED GLOTTAL STOP WITH STROKE"⟩,
   ⟨0x2a3, "LATIN SMALL LETTER ", "DZ DIGRAPH;DEZH DIGRAPH;DZ DIGRAPH WITH CURL;TS DIGRAPH"⟩,
   ⟨0x2a7, "LATIN SMALL LETTER ", "TESH DIGRAPH;TC DIGRAPH WITH CURL;FENG DIGRAPH;LS DIGRAPH"⟩,
   ⟨0x2ab, "LATIN ",
     "SMALL LETTER LZ DIGRAPH;LETTER BILABIAL PERCUSSIVE;LETTER BIDENTAL PERCUSSIVE"⟩,
   ⟨0x2ae, "LATIN SMALL LETTER TURNED H WITH FISHHOOK", "; AND TAIL"⟩]

/-- The names in the block Spacing Modifier Letters. -/
def spacingModifierLetters : List NameRun :=
  [⟨0x2b0, "MODIFIER LETTER SMALL ", "H;H WITH HOOK;J;R;TURNED R;TURNED R WITH HOOK"⟩,
   ⟨0x2b6, "MODIFIER LETTER ", "SMALL CAPITAL INVERTED R;SMALL W;SMALL Y;PRIME;DOUBLE PRIME"⟩,
   ⟨0x2bb, "MODIFIER LETTER ", "TURNED COMMA;APOSTROPHE;REVERSED COMMA;RIGHT HALF RING"⟩,
   ⟨0x2bf, "MODIFIER LETTER ", "LEFT HALF RING;GLOTTAL STOP;REVERSED GLOTTAL STOP;LEFT ARROWHEAD"⟩,
   ⟨0x2c3, "MODIFIER LETTER ", "RIGHT ARROWHEAD;UP ARROWHEAD;DOWN ARROWHEAD;CIRCUMFLEX ACCENT"⟩,
   ⟨0x2c7, "", "CARON;MODIFIER LETTER VERTICAL LINE;MODIFIER LETTER MACRON"⟩,
   ⟨0x2ca, "MODIFIER LETTER ",
     "ACUTE ACCENT;GRAVE ACCENT;LOW VERTICAL LINE;LOW MACRON;LOW GRAVE ACCENT;LOW ACUTE ACCENT"⟩,
   ⟨0x2d0, "MODIFIER LETTER ", "TRIANGULAR COLON;HALF TRIANGULAR COLON;CENTRED RIGHT HALF RING"⟩,
   ⟨0x2d3, "MODIFIER LETTER ", "CENTRED LEFT HALF RING;UP TACK;DOWN TACK;PLUS SIGN;MINUS SIGN"⟩,
   ⟨0x2d8, "", "BREVE;DOT ABOVE;RING ABOVE;OGONEK;SMALL TILDE;DOUBLE ACUTE ACCENT"⟩,
   ⟨0x2de, "MODIFIER LETTER ", "RHOTIC HOOK;CROSS ACCENT;SMALL GAMMA;SMALL L"⟩,
   ⟨0x2e2, "MODIFIER LETTER ", "SMALL S;SMALL X;SMALL REVERSED GLOTTAL STOP;EXTRA-HIGH TONE BAR"⟩,
   ⟨0x2e6, "MODIFIER LETTER ", "HIGH TONE BAR;MID TONE BAR;LOW TONE BAR;EXTRA-LOW TONE BAR"⟩,
   ⟨0x2ea, "MODIFIER LETTER ", "YIN DEPARTING TONE MARK;YANG DEPARTING TONE MARK;VOICING"⟩,
   ⟨0x2ed, "MODIFIER LETTER ", "UNASPIRATED;DOUBLE APOSTROPHE;LOW DOWN ARROWHEAD"⟩,
   ⟨0x2f0, "MODIFIER LETTER LOW ", "UP ARROWHEAD;LEFT ARROWHEAD;RIGHT ARROWHEAD;RING"⟩,
   ⟨0x2f4, "MODIFIER LETTER MIDDLE ", "GRAVE ACCENT;DOUBLE GRAVE ACCENT;DOUBLE ACUTE ACCENT"⟩,
   ⟨0x2f7, "MODIFIER LETTER ", "LOW TILDE;RAISED COLON;BEGIN HIGH TONE;END HIGH TONE"⟩,
   ⟨0x2fb, "MODIFIER LETTER ", "BEGIN LOW TONE;END LOW TONE;SHELF;OPEN SHELF;LOW LEFT ARROW"⟩]

/-- The names in the block Combining Diacritical Marks. -/
def combiningDiacriticalMarks : List NameRun :=
  [⟨0x300, "COMBINING ", "GRAVE ACCENT;ACUTE ACCENT;CIRCUMFLEX ACCENT;TILDE;MACRON;OVERLINE"⟩,
   ⟨0x306, "COMBINING ", "BREVE;DOT ABOVE;DIAERESIS;HOOK ABOVE;RING ABOVE;DOUBLE ACUTE ACCENT"⟩,
   ⟨0x30c, "COMBINING ", "CARON;VERTICAL LINE ABOVE;DOUBLE VERTICAL LINE ABOVE"⟩,
   ⟨0x30f, "COMBINING ", "DOUBLE GRAVE ACCENT;CANDRABINDU;INVERTED BREVE;TURNED COMMA ABOVE"⟩,
   ⟨0x313, "COMBINING ", "COMMA ABOVE;REVERSED COMMA ABOVE;COMMA ABOVE RIGHT;GRAVE ACCENT BELOW"⟩,
   ⟨0x317, "COMBINING ", "ACUTE ACCENT BELOW;LEFT TACK BELOW;RIGHT TACK BELOW;LEFT ANGLE ABOVE"⟩,
   ⟨0x31b, "COMBINING ",
     "HORN;LEFT HALF RING BELOW;UP TACK BELOW;DOWN TACK BELOW;PLUS SIGN BELOW;MINUS SIGN BELOW"⟩,
   ⟨0x321, "COMBINING ", "PALATALIZED HOOK BELOW;RETROFLEX HOOK BELOW;DOT BELOW;DIAERESIS BELOW"⟩,
   ⟨0x325, "COMBINING ", "RING BELOW;COMMA BELOW;CEDILLA;OGONEK;VERTICAL LINE BELOW;BRIDGE BELOW"⟩,
   ⟨0x32b, "COMBINING ", "INVERTED DOUBLE ARCH BELOW;CARON BELOW;CIRCUMFLEX ACCENT BELOW"⟩,
   ⟨0x32e, "COMBINING ", "BREVE BELOW;INVERTED BREVE BELOW;TILDE BELOW;MACRON BELOW;LOW LINE"⟩,
   ⟨0x333, "COMBINING ", "DOUBLE LOW LINE;TILDE OVERLAY;SHORT STROKE OVERLAY;LONG STROKE OVERLAY"⟩,
   ⟨0x337, "COMBINING ", "SHORT SOLIDUS OVERLAY;LONG SOLIDUS OVERLAY;RIGHT HALF RING BELOW"⟩,
   ⟨0x33a, "COMBINING ", "INVERTED BRIDGE BELOW;SQUARE BELOW;SEAGULL BELOW;X ABOVE;VERTICAL TILDE"⟩,
   ⟨0x33f, "COMBINING ", "DOUBLE OVERLINE;GRAVE TONE MARK;ACUTE TONE MARK;GREEK PERISPOMENI"⟩,
   ⟨0x343, "COMBINING ", "GREEK KORONIS;GREEK DIALYTIKA TONOS;GREEK YPOGEGRAMMENI;BRIDGE ABOVE"⟩,
   ⟨0x347, "COMBINING ", "EQUALS SIGN BELOW;DOUBLE VERTICAL LINE BELOW"⟩,
   ⟨0x349, "COMBINING ", "LEFT ANGLE BELOW;NOT TILDE ABOVE;HOMOTHETIC ABOVE;ALMOST EQUAL TO ABOVE"⟩,
   ⟨0x34d, "COMBINING ", "LEFT RIGHT ARROW BELOW;UPWARDS ARROW BELOW;GRAPHEME JOINER"⟩,
   ⟨0x350, "COMBINING ",
     "RIGHT ARROWHEAD ABOVE;LEFT HALF RING ABOVE;FERMATA;X BELOW;LEFT ARROWHEAD BELOW"⟩,
   ⟨0x355, "COMBINING RIGHT ", "ARROWHEAD BELOW;ARROWHEAD AND UP ARROWHEAD BELOW;HALF RING ABOVE"⟩,
   ⟨0x358, "COMBINING ", "DOT ABOVE RIGHT;ASTERISK BELOW;DOUBLE RING BELOW;ZIGZAG ABOVE"⟩,
   ⟨0x35c, "COMBINING DOUBLE ",
     "BREVE BELOW;BREVE;MACRON;MACRON BELOW;TILDE;INVERTED BREVE;RIGHTWARDS ARROW BELOW"⟩,
   ⟨0x363, "COMBINING LATIN SMALL LETTER ", "A;E;I;O;U;C;D;H;M;R;T;V;X"⟩]

/-- The names in the block Greek and Coptic. -/
def greekAndCoptic : List NameRun :=
  [⟨0x370, "GREEK ", "CAPITAL LETTER HETA;SMALL LETTER HETA;CAPITAL LETTER ARCHAIC SAMPI"⟩,
   ⟨0x373, "GREEK ", "SMALL LETTER ARCHAIC SAMPI;NUMERAL SIGN;LOWER NUMERAL SIGN"⟩,
   ⟨0x376, "GREEK ", "CAPITAL LETTER PAMPHYLIAN DIGAMMA;SMALL LETTER PAMPHYLIAN DIGAMMA"⟩,
   ⟨0x37a, "GREEK ",
     "YPOGEGRAMMENI;SMALL REVERSED LUNATE SIGMA SYMBOL;SMALL DOTTED LUNATE SIGMA SYMBOL"⟩,
   ⟨0x37d, "GREEK ", "SMALL REVERSED DOTTED LUNATE SIGMA SYMBOL;QUESTION MARK;CAPITAL LETTER YOT"⟩,
   ⟨0x384, "GREEK ", "TONOS;DIALYTIKA TONOS;CAPITAL LETTER ALPHA WITH TONOS;ANO TELEIA"⟩,
   ⟨0x388, "GREEK CAPITAL LETTER ", "EPSILON WITH TONOS;ETA WITH TONOS;IOTA WITH TONOS"⟩,
   ⟨0x38c, "GREEK CAPITAL LETTER OMICRON WITH TONOS", ""⟩,
   ⟨0x38e, "GREEK CAPITAL LETTER ", "UPSILON WITH TONOS;OMEGA WITH TONOS"⟩,
   ⟨0x390, "GREEK ", "SMALL LETTER IOTA WITH DIALYTIKA AND TONOS;CAPITAL LETTER ALPHA"⟩,
   ⟨0x392, "GREEK CAPITAL LETTER ",
     "BETA;GAMMA;DELTA;EPSILON;ZETA;ETA;THETA;IOTA;KAPPA;LAMDA;MU;NU;XI;OMICRON;PI;RHO"⟩,
   ⟨0x3a3, "GREEK CAPITAL LETTER ", "SIGMA;TAU;UPSILON;PHI;CHI;PSI;OMEGA;IOTA WITH DIALYTIKA"⟩,
   ⟨0x3ab, "GREEK ", "CAPITAL LETTER UPSILON WITH DIALYTIKA;SMALL LETTER ALPHA WITH TONOS"⟩,
   ⟨0x3ad, "GREEK SMALL LETTER ",
     "EPSILON WITH TONOS;ETA WITH TONOS;IOTA WITH TONOS;UPSILON WITH DIALYTIKA AND TONOS"⟩,
   ⟨0x3b1, "GREEK SMALL LETTER ", "ALPHA;BETA;GAMMA;DELTA;EPSILON;ZETA;ETA;THETA;IOTA;KAPPA;LAMDA"⟩,
   ⟨0x3bc, "GREEK SMALL LETTER ", "MU;NU;XI;OMICRON;PI;RHO;FINAL SIGMA;SIGMA;TAU;UPSILON;PHI;CHI"⟩,
   ⟨0x3c8, "GREEK SMALL LETTER ",
     "PSI;OMEGA;IOTA WITH DIALYTIKA;UPSILON WITH DIALYTIKA;OMICRON WITH TONOS;UPSILON WITH TONOS"⟩,
   ⟨0x3ce, "GREEK ", "SMALL LETTER OMEGA WITH TONOS;CAPITAL KAI SYMBOL;BETA SYMBOL;THETA SYMBOL"⟩,
   ⟨0x3d2, "GREEK UPSILON WITH ", "HOOK SYMBOL;ACUTE AND HOOK SYMBOL;DIAERESIS AND HOOK SYMBOL"⟩,
   ⟨0x3d5, "GREEK ", "PHI SYMBOL;PI SYMBOL;KAI SYMBOL;LETTER ARCHAIC KOPPA"⟩,
   ⟨0x3d9, "GREEK ", "SMALL LETTER ARCHAIC KOPPA;LETTER STIGMA;SMALL LETTER STIGMA;LETTER DIGAMMA"⟩,
   ⟨0x3dd, "GREEK ", "SMALL LETTER DIGAMMA;LETTER KOPPA;SMALL LETTER KOPPA;LETTER SAMPI"⟩,
   ⟨0x3e1, "", "GREEK SMALL LETTER SAMPI;COPTIC CAPITAL LETTER SHEI;COPTIC SMALL LETTER SHEI"⟩,
   ⟨0x3e4, "COPTIC ", "CAPITAL LETTER FEI;SMALL LETTER FEI;CAPITAL LETTER KHEI;SMALL LETTER KHEI"⟩,
   ⟨0x3e8, "COPTIC ", "CAPITAL LETTER HORI;SMALL LETTER HORI;CAPITAL LETTER GANGIA"⟩,
   ⟨0x3eb, "COPTIC ", "SMALL LETTER GANGIA;CAPITAL LETTER SHIMA;SMALL LETTER SHIMA"⟩,
   ⟨0x3ee, "", "COPTIC CAPITAL LETTER DEI;COPTIC SMALL LETTER DEI;GREEK KAPPA SYMBOL"⟩,
   ⟨0x3f1, "GREEK ", "RHO SYMBOL;LUNATE SIGMA SYMBOL;LETTER YOT"⟩,
   ⟨0x3f4, "GREEK ", "CAPITAL THETA SYMBOL;LUNATE EPSILON SYMBOL;REVERSED LUNATE EPSILON SYMBOL"⟩,
   ⟨0x3f7, "GREEK ", "CAPITAL LETTER SHO;SMALL LETTER SHO;CAPITAL LUNATE SIGMA SYMBOL"⟩,
   ⟨0x3fa, "GREEK ", "CAPITAL LETTER SAN;SMALL LETTER SAN;RHO WITH STROKE SYMBOL"⟩,
   ⟨0x3fd, "GREEK CAPITAL ",
     "REVERSED LUNATE SIGMA SYMBOL;DOTTED LUNATE SIGMA SYMBOL;REVERSED DOTTED LUNATE SIGMA SYMBOL"⟩]

/-- The names in the block Cyrillic. -/
def cyrillic : List NameRun :=
  [⟨0x400, "CYRILLIC CAPITAL LETTER ",
     "IE WITH GRAVE;IO;DJE;GJE;UKRAINIAN IE;DZE;BYELORUSSIAN-UKRAINIAN I;YI;JE;LJE;NJE;TSHE;KJE"⟩,
   ⟨0x40d, "CYRILLIC CAPITAL LETTER ",
     "I WITH GRAVE;SHORT U;DZHE;A;BE;VE;GHE;DE;IE;ZHE;ZE;I;SHORT I;KA;EL;EM;EN;O;PE;ER;ES;TE;U"⟩,
   ⟨0x424, "CYRILLIC CAPITAL LETTER ", "EF;HA;TSE;CHE;SHA;SHCHA;HARD SIGN;YERU;SOFT SIGN;E;YU;YA"⟩,
   ⟨0x430, "CYRILLIC SMALL LETTER ", "A;BE;VE;GHE;DE;IE;ZHE;ZE;I;SHORT I;KA;EL;EM;EN;O;PE;ER"⟩,
   ⟨0x441, "CYRILLIC SMALL LETTER ",
     "ES;TE;U;EF;HA;TSE;CHE;SHA;SHCHA;HARD SIGN;YERU;SOFT SIGN;E;YU;YA;IE WITH GRAVE;IO;DJE;GJE"⟩,
   ⟨0x454, "CYRILLIC SMALL LETTER ",
     "UKRAINIAN IE;DZE;BYELORUSSIAN-UKRAINIAN I;YI;JE;LJE;NJE;TSHE;KJE;I WITH GRAVE;SHORT U;DZHE"⟩,
   ⟨0x460, "CYRILLIC ", "CAPITAL LETTER OMEGA;SMALL LETTER OMEGA;CAPITAL LETTER YAT"⟩,
   ⟨0x463, "CYRILLIC ", "SMALL LETTER YAT;CAPITAL LETTER IOTIFIED E;SMALL LETTER IOTIFIED E"⟩,
   ⟨0x466, "CYRILLIC ", "CAPITAL LETTER LITTLE YUS;SMALL LETTER LITTLE YUS"⟩,
   ⟨0x468, "CYRILLIC ", "CAPITAL LETTER IOTIFIED LITTLE YUS;SMALL LETTER IOTIFIED LITTLE YUS"⟩,
   ⟨0x46a, "CYRILLIC ", "CAPITAL LETTER BIG YUS;SMALL LETTER BIG YUS"⟩,
   ⟨0x46c, "CYRILLIC ", "CAPITAL LETTER IOTIFIED BIG YUS;SMALL LETTER IOTIFIED BIG YUS"⟩,
   ⟨0x46e, "CYRILLIC ", "CAPITAL LETTER KSI;SMALL LETTER KSI;CAPITAL LETTER PSI;SMALL LETTER PSI"⟩,
   ⟨0x472, "CYRILLIC ", "CAPITAL LETTER FITA;SMALL LETTER FITA;CAPITAL LETTER IZHITSA"⟩,
   ⟨0x475, "CYRILLIC ", "SMALL LETTER IZHITSA;CAPITAL LETTER IZHITSA WITH DOUBLE GRAVE ACCENT"⟩,
   ⟨0x477, "CYRILLIC ", "SMALL LETTER IZHITSA WITH DOUBLE GRAVE ACCENT;CAPITAL LETTER UK"⟩,
   ⟨0x479, "CYRILLIC ", "SMALL LETTER UK;CAPITAL LETTER ROUND OMEGA;SMALL LETTER ROUND OMEGA"⟩,
   ⟨0x47c, "CYRILLIC ", "CAPITAL LETTER OMEGA WITH TITLO;SMALL LETTER OMEGA WITH TITLO"⟩,
   ⟨0x47e, "CYRILLIC ", "CAPITAL LETTER OT;SMALL LETTER OT;CAPITAL LETTER KOPPA"⟩,
   ⟨0x481, "C", "YRILLIC SMALL LETTER KOPPA;YRILLIC THOUSANDS SIGN;OMBINING CYRILLIC TITLO"⟩,
   ⟨0x484, "COMBINING CYRILLIC ",
     "PALATALIZATION;DASIA PNEUMATA;PSILI PNEUMATA;POKRYTIE;HUNDRED THOUSANDS SIGN;MILLIONS SIGN"⟩,
   ⟨0x48a, "CYRILLIC ", "CAPITAL LETTER SHORT I WITH TAIL;SMALL LETTER SHORT I WITH TAIL"⟩,
   ⟨0x48c, "CYRILLIC ", "CAPITAL LETTER SEMISOFT SIGN;SMALL LETTER SEMISOFT SIGN"⟩,
   ⟨0x48e, "CYRILLIC ", "CAPITAL LETTER ER WITH TICK;SMALL LETTER ER WITH TICK"⟩,
   ⟨0x490, "CYRILLIC ",
     "CAPITAL LETTER GHE WITH UPTURN;SMALL LETTER GHE WITH UPTURN;CAPITAL LETTER GHE WITH STROKE"⟩,
   ⟨0x493, "CYRILLIC ", "SMALL LETTER GHE WITH STROKE;CAPITAL LETTER GHE WITH MIDDLE HOOK"⟩,
   ⟨0x495, "CYRILLIC ", "SMALL LETTER GHE WITH MIDDLE HOOK;CAPITAL LETTER ZHE WITH DESCENDER"⟩,
   ⟨0x497, "CYRILLIC ", "SMALL LETTER ZHE WITH DESCENDER;CAPITAL LETTER ZE WITH DESCENDER"⟩,
   ⟨0x499, "CYRILLIC ", "SMALL LETTER ZE WITH DESCENDER;CAPITAL LETTER KA WITH DESCENDER"⟩,
   ⟨0x49b, "CYRILLIC ", "SMALL LETTER KA WITH DESCENDER;CAPITAL LETTER KA WITH VERTICAL STROKE"⟩,
   ⟨0x49d, "CYRILLIC ", "SMALL LETTER KA WITH VERTICAL STROKE;CAPITAL LETTER KA WITH STROKE"⟩,
   ⟨0x49f, "CYRILLIC ", "SMALL LETTER KA WITH STROKE;CAPITAL LETTER BASHKIR KA"⟩,
   ⟨0x4a1, "CYRILLIC ", "SMALL LETTER BASHKIR KA;CAPITAL LETTER EN WITH DESCENDER"⟩,
   ⟨0x4a3, "CYRILLIC ", "SMALL LETTER EN WITH DESCENDER;CAPITAL LIGATURE EN GHE"⟩,
   ⟨0x4a5, "CYRILLIC ", "SMALL LIGATURE EN GHE;CAPITAL LETTER PE WITH MIDDLE HOOK"⟩,
   ⟨0x4a7, "CYRILLIC ", "SMALL LETTER PE WITH MIDDLE HOOK;CAPITAL LETTER ABKHASIAN HA"⟩,
   ⟨0x4a9, "CYRILLIC ", "SMALL LETTER ABKHASIAN HA;CAPITAL LETTER ES WITH DESCENDER"⟩,
   ⟨0x4ab, "CYRILLIC ", "SMALL LETTER ES WITH DESCENDER;CAPITAL LETTER TE WITH DESCENDER"⟩,
   ⟨0x4ad, "CYRILLIC ", "SMALL LETTER TE WITH DESCENDER;CAPITAL LETTER STRAIGHT U"⟩,
   ⟨0x4af, "CYRILLIC ", "SMALL LETTER STRAIGHT U;CAPITAL LETTER STRAIGHT U WITH STROKE"⟩,
   ⟨0x4b1, "CYRILLIC ", "SMALL LETTER STRAIGHT U WITH STROKE;CAPITAL LETTER HA WITH DESCENDER"⟩,
   ⟨0x4b3, "CYRILLIC ", "SMALL LETTER HA WITH DESCENDER;CAPITAL LIGATURE TE TSE"⟩,
   ⟨0x4b5, "CYRILLIC ", "SMALL LIGATURE TE TSE;CAPITAL LETTER CHE WITH DESCENDER"⟩,
   ⟨0x4b7, "CYRILLIC ", "SMALL LETTER CHE WITH DESCENDER;CAPITAL LETTER CHE WITH VERTICAL STROKE"⟩,
   ⟨0x4b9, "CYRILLIC ", "SMALL LETTER CHE WITH VERTICAL STROKE;CAPITAL LETTER SHHA"⟩,
   ⟨0x4bb, "CYRILLIC ", "SMALL LETTER SHHA;CAPITAL LETTER ABKHASIAN CHE"⟩,
   ⟨0x4bd, "CYRILLIC ", "SMALL LETTER ABKHASIAN CHE;CAPITAL LETTER ABKHASIAN CHE WITH DESCENDER"⟩,
   ⟨0x4bf, "CYRILLIC ", "SMALL LETTER ABKHASIAN CHE WITH DESCENDER;LETTER PALOCHKA"⟩,
   ⟨0x4c1, "CYRILLIC ", "CAPITAL LETTER ZHE WITH BREVE;SMALL LETTER ZHE WITH BREVE"⟩,
   ⟨0x4c3, "CYRILLIC ", "CAPITAL LETTER KA WITH HOOK;SMALL LETTER KA WITH HOOK"⟩,
   ⟨0x4c5, "CYRILLIC ", "CAPITAL LETTER EL WITH TAIL;SMALL LETTER EL WITH TAIL"⟩,
   ⟨0x4c7, "CYRILLIC ", "CAPITAL LETTER EN WITH HOOK;SMALL LETTER EN WITH HOOK"⟩,
   ⟨0x4c9, "CYRILLIC ", "CAPITAL LETTER EN WITH TAIL;SMALL LETTER EN WITH TAIL"⟩,
   ⟨0x4cb, "CYRILLIC ", "CAPITAL LETTER KHAKASSIAN CHE;SMALL LETTER KHAKASSIAN CHE"⟩,
   ⟨0x4cd, "CYRILLIC ", "CAPITAL LETTER EM WITH TAIL;SMALL LETTER EM WITH TAIL"⟩,
   ⟨0x4cf, "CYRILLIC ", "SMALL LETTER PALOCHKA;CAPITAL LETTER A WITH BREVE"⟩,
   ⟨0x4d1, "CYRILLIC ",
     "SMALL LETTER A WITH BREVE;CAPITAL LETTER A WITH DIAERESIS;SMALL LETTER A WITH DIAERESIS"⟩,
   ⟨0x4d4, "CYRILLIC ", "CAPITAL LIGATURE A IE;SMALL LIGATURE A IE;CAPITAL LETTER IE WITH BREVE"⟩,
   ⟨0x4d7, "CYRILLIC ", "SMALL LETTER IE WITH BREVE;CAPITAL LETTER SCHWA;SMALL LETTER SCHWA"⟩,
   ⟨0x4da, "CYRILLIC ", "CAPITAL LETTER SCHWA WITH DIAERESIS;SMALL LETTER SCHWA WITH DIAERESIS"⟩,
   ⟨0x4dc, "CYRILLIC ", "CAPITAL LETTER ZHE WITH DIAERESIS;SMALL LETTER ZHE WITH DIAERESIS"⟩,
   ⟨0x4de, "CYRILLIC ", "CAPITAL LETTER ZE WITH DIAERESIS;SMALL LETTER ZE WITH DIAERESIS"⟩,
   ⟨0x4e0, "CYRILLIC ", "CAPITAL LETTER ABKHASIAN DZE;SMALL LETTER ABKHASIAN DZE"⟩,
   ⟨0x4e2, "CYRILLIC ", "CAPITAL LETTER I WITH MACRON;SMALL LETTER I WITH MACRON"⟩,
   ⟨0x4e4, "CYRILLIC ", "CAPITAL LETTER I WITH DIAERESIS;SMALL LETTER I WITH DIAERESIS"⟩,
   ⟨0x4e6, "CYRILLIC ", "CAPITAL LETTER O WITH DIAERESIS;SMALL LETTER O WITH DIAERESIS"⟩,
   ⟨0x4e8, "CYRILLIC ",
     "CAPITAL LETTER BARRED O;SMALL LETTER BARRED O;CAPITAL LETTER BARRED O WITH DIAERESIS"⟩,
   ⟨0x4eb, "CYRILLIC ", "SMALL LETTER BARRED O WITH DIAERESIS;CAPITAL LETTER E WITH DIAERESIS"⟩,
   ⟨0x4ed, "CYRILLIC ", "SMALL LETTER E WITH DIAERESIS;CAPITAL LETTER U WITH MACRON"⟩,
   ⟨0x4ef, "CYRILLIC ", "SMALL LETTER U WITH MACRON;CAPITAL LETTER U WITH DIAERESIS"⟩,
   ⟨0x4f1, "CYRILLIC ", "SMALL LETTER U WITH DIAERESIS;CAPITAL LETTER U WITH DOUBLE ACUTE"⟩,
   ⟨0x4f3, "CYRILLIC ", "SMALL LETTER U WITH DOUBLE ACUTE;CAPITAL LETTER CHE WITH DIAERESIS"⟩,
   ⟨0x4f5, "CYRILLIC ", "SMALL LETTER CHE WITH DIAERESIS;CAPITAL LETTER GHE WITH DESCENDER"⟩,
   ⟨0x4f7, "CYRILLIC ", "SMALL LETTER GHE WITH DESCENDER;CAPITAL LETTER YERU WITH DIAERESIS"⟩,
   ⟨0x4f9, "CYRILLIC ", "SMALL LETTER YERU WITH DIAERESIS;CAPITAL LETTER GHE WITH STROKE AND HOOK"⟩,
   ⟨0x4fb, "CYRILLIC ", "SMALL LETTER GHE WITH STROKE AND HOOK;CAPITAL LETTER HA WITH HOOK"⟩,
   ⟨0x4fd, "CYRILLIC ",
     "SMALL LETTER HA WITH HOOK;CAPITAL LETTER HA WITH STROKE;SMALL LETTER HA WITH STROKE"⟩]

/-- The names in the block Cyrillic Supplement. -/
def cyrillicSupplement : List NameRun :=
  [⟨0x500, "CYRILLIC ", "CAPITAL LETTER KOMI DE;SMALL LETTER KOMI DE;CAPITAL LETTER KOMI DJE"⟩,
   ⟨0x503, "CYRILLIC ", "SMALL LETTER KOMI DJE;CAPITAL LETTER KOMI ZJE;SMALL LETTER KOMI ZJE"⟩,
   ⟨0x506, "CYRILLIC ", "CAPITAL LETTER KOMI DZJE;SMALL LETTER KOMI DZJE;CAPITAL LETTER KOMI LJE"⟩,
   ⟨0x509, "CYRILLIC ", "SMALL LETTER KOMI LJE;CAPITAL LETTER KOMI NJE;SMALL LETTER KOMI NJE"⟩,
   ⟨0x50c, "CYRILLIC ", "CAPITAL LETTER KOMI SJE;SMALL LETTER KOMI SJE;CAPITAL LETTER KOMI TJE"⟩,
   ⟨0x50f, "CYRILLIC ",
     "SMALL LETTER KOMI TJE;CAPITAL LETTER REVERSED ZE;SMALL LETTER REVERSED ZE"⟩,
   ⟨0x512, "CYRILLIC ", "CAPITAL LETTER EL WITH HOOK;SMALL LETTER EL WITH HOOK;CAPITAL LETTER LHA"⟩,
   ⟨0x515, "CYRILLIC ", "SMALL LETTER LHA;CAPITAL LETTER RHA;SMALL LETTER RHA;CAPITAL LETTER YAE"⟩,
   ⟨0x519, "CYRILLIC ", "SMALL LETTER YAE;CAPITAL LETTER QA;SMALL LETTER QA;CAPITAL LETTER WE"⟩,
   ⟨0x51d, "CYRILLIC ", "SMALL LETTER WE;CAPITAL LETTER ALEUT KA;SMALL LETTER ALEUT KA"⟩,
   ⟨0x520, "CYRILLIC ", "CAPITAL LETTER EL WITH MIDDLE HOOK;SMALL LETTER EL WITH MIDDLE HOOK"⟩,
   ⟨0x522, "CYRILLIC ", "CAPITAL LETTER EN WITH MIDDLE HOOK;SMALL LETTER EN WITH MIDDLE HOOK"⟩,
   ⟨0x524, "CYRILLIC ", "CAPITAL LETTER PE WITH DESCENDER;SMALL LETTER PE WITH DESCENDER"⟩,
   ⟨0x526, "CYRILLIC ", "CAPITAL LETTER SHHA WITH DESCENDER;SMALL LETTER SHHA WITH DESCENDER"⟩,
   ⟨0x528, "CYRILLIC ", "CAPITAL LETTER EN WITH LEFT HOOK;SMALL LETTER EN WITH LEFT HOOK"⟩,
   ⟨0x52a, "CYRILLIC ", "CAPITAL LETTER DZZHE;SMALL LETTER DZZHE;CAPITAL LETTER DCHE"⟩,
   ⟨0x52d, "CYRILLIC ",
     "SMALL LETTER DCHE;CAPITAL LETTER EL WITH DESCENDER;SMALL LETTER EL WITH DESCENDER"⟩]

/-- The names in the block Armenian. -/
def armenian : List NameRun :=
  [⟨0x531, "ARMENIAN CAPITAL LETTER ", "AYB;BEN;GIM;DA;ECH;ZA;EH;ET;TO;ZHE;INI;LIWN;XEH;CA;KEN"⟩,
   ⟨0x540, "ARMENIAN CAPITAL LETTER ",
     "HO;JA;GHAD;CHEH;MEN;YI;NOW;SHA;VO;CHA;PEH;JHEH;RA;SEH;VEW;TIWN;REH;CO;YIWN;PIWR;KEH;OH;FEH"⟩,
   ⟨0x559, "ARMENIAN ", "MODIFIER LETTER LEFT HALF RING;APOSTROPHE;EMPHASIS MARK;EXCLAMATION MARK"⟩,
   ⟨0x55d, "ARMENIAN ", "COMMA;QUESTION MARK;ABBREVIATION MARK;SMALL LETTER TURNED AYB"⟩,
   ⟨0x561, "ARMENIAN SMALL LETTER ", "AYB;BEN;GIM;DA;ECH;ZA;EH;ET;TO;ZHE;INI;LIWN;XEH;CA;KEN"⟩,
   ⟨0x570, "ARMENIAN SMALL LETTER ",
     "HO;JA;GHAD;CHEH;MEN;YI;NOW;SHA;VO;CHA;PEH;JHEH;RA;SEH;VEW;TIWN;REH;CO;YIWN;PIWR;KEH;OH;FEH"⟩,
   ⟨0x587, "ARMENIAN ", "SMALL LIGATURE ECH YIWN;SMALL LETTER YI WITH STROKE;FULL STOP;HYPHEN"⟩,
   ⟨0x58d, "",
     "RIGHT-FACING ARMENIAN ETERNITY SIGN;LEFT-FACING ARMENIAN ETERNITY SIGN;ARMENIAN DRAM SIGN"⟩]

/-- All names of this module. -/
def european : List NameRun :=
  List.flatten
    [basicLatin, latin1Supplement, latinExtendedA, latinExtendedB, ipaExtensions,
     spacingModifierLetters, combiningDiacriticalMarks, greekAndCoptic, cyrillic,
     cyrillicSupplement, armenian]

end Names
end Unicode
end LiquidMarkdown
