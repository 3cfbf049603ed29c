import LiquidMarkdown.Unicode.NameRun

/-!
# Names of characters: further letters of Europe

* `extendedLetters` — the names of phonetic letters, and Latin and Greek letters with marks.
-/

namespace LiquidMarkdown
namespace Unicode
namespace Names

/-- The names in the block Phonetic Extensions. -/
def phoneticExtensions : List NameRun :=
  [⟨0x1d00, "LATIN ", "LETTER SMALL CAPITAL A;LETTER SMALL CAPITAL AE;SMALL LETTER TURNED AE"⟩,
   ⟨0x1d03, "LATIN LETTER SMALL CAPITAL ", "BARRED B;C;D;ETH"⟩,
   ⟨0x1d07, "LATIN ", "LETTER SMALL CAPITAL E;SMALL LETTER TURNED OPEN E;SMALL LETTER TURNED I"⟩,
   ⟨0x1d0a, "LATIN LETTER SMALL CAPITAL ", "J;K;L WITH STROKE;M;REVERSED N;O;OPEN O"⟩,
   ⟨0x1d11, "LATIN SMALL LETTER ", "SIDEWAYS O;SIDEWAYS OPEN O;SIDEWAYS O WITH STROKE;TURNED OE"⟩,
   ⟨0x1d15, "LATIN ", "LETTER SMALL CAPITAL OU;SMALL LETTER TOP HALF O;SMALL LETTER BOTTOM HALF O"⟩,
   ⟨0x1d18, "LATIN LETTER SMALL CAPITAL ", "P;REVERSED R;TURNED R;T;U"⟩,
   ⟨0x1d1d, "LATIN SMALL LETTER SIDEWAYS ", "U;DIAERESIZED U;TURNED M"⟩,
   ⟨0x1d20, "LATIN LETTER SMALL CAPITAL ", "V;W"⟩,
   ⟨0x1d22, "LATIN LETTER ", "SMALL CAPITAL Z;SMALL CAPITAL EZH;VOICED LARYNGEAL SPIRANT;AIN"⟩,
   ⟨0x1d26, "GREEK LETTER SMALL CAPITAL ", "GAMMA;LAMDA;PI;RHO"⟩,
   ⟨0x1d2a, "", "GREEK LETTER SMALL CAPITAL PSI;CYRILLIC LETTER SMALL CAPITAL EL"⟩,
   ⟨0x1d2c, "MODIFIER LETTER CAPITAL ",
     "A;AE;B;BARRED B;D;E;REVERSED E;G;H;I;J;K;L;M;N;REVERSED N;O;OU;P;R;T;U;W"⟩,
   ⟨0x1d43, "MODIFIER LETTER SMALL ", "A;TURNED A;ALPHA;TURNED AE;B;D;E;SCHWA;OPEN E"⟩,
   ⟨0x1d4c, "MODIFIER LETTER SMALL ", "TURNED OPEN E;G;TURNED I;K;M;ENG;O;OPEN O;TOP HALF O"⟩,
   ⟨0x1d55, "MODIFIER LETTER SMALL ",
     "BOTTOM HALF O;P;T;U;SIDEWAYS U;TURNED M;V;AIN;BETA;GREEK GAMMA;DELTA;GREEK PHI;CHI"⟩,
   ⟨0x1d62, "LATIN SUBSCRIPT SMALL LETTER ", "I;R;U;V"⟩,
   ⟨0x1d66, "GREEK SUBSCRIPT SMALL LETTER ", "BETA;GAMMA;RHO;PHI;CHI"⟩,
   ⟨0x1d6b, "LATIN SMALL LETTER ",
     "UE;B WITH MIDDLE TILDE;D WITH MIDDLE TILDE;F WITH MIDDLE TILDE;M WITH MIDDLE TILDE"⟩,
   ⟨0x1d70, "LATIN SMALL LETTER ", "N WITH MIDDLE TILDE;P WITH MIDDLE TILDE;R WITH MIDDLE TILDE"⟩,
   ⟨0x1d73, "LATIN SMALL LETTER ", "R WITH FISHHOOK AND MIDDLE TILDE;S WITH MIDDLE TILDE"⟩,
   ⟨0x1d75, "LATIN SMALL LETTER ", "T WITH MIDDLE TILDE;Z WITH MIDDLE TILDE;TURNED G"⟩,
   ⟨0x1d78, "", "MODIFIER LETTER CYRILLIC EN;LATIN SMALL LETTER INSULAR G"⟩,
   ⟨0x1d7a, "LATIN SMALL ", "LETTER TH WITH STRIKETHROUGH;CAPITAL LETTER I WITH STROKE"⟩,
   ⟨0x1d7c, "LATIN SMALL LETTER ", "IOTA WITH STROKE;P WITH STROKE"⟩,
   ⟨0x1d7e, "LATIN SMALL ", "CAPITAL LETTER U WITH STROKE;LETTER UPSILON WITH STROKE"⟩]

/-- The names in the block Phonetic Extensions Supplement. -/
def phoneticExtensionsSupplement : List NameRun :=
  [⟨0x1d80, "LATIN SMALL LETTER ", "B WITH PALATAL HOOK;D WITH PALATAL HOOK;F WITH PALATAL HOOK"⟩,
   ⟨0x1d83, "LATIN SMALL LETTER ", "G WITH PALATAL HOOK;K WITH PALATAL HOOK;L WITH PALATAL HOOK"⟩,
   ⟨0x1d86, "LATIN SMALL LETTER ", "M WITH PALATAL HOOK;N WITH PALATAL HOOK;P WITH PALATAL HOOK"⟩,
   ⟨0x1d89, "LATIN SMALL LETTER ", "R WITH PALATAL HOOK;S WITH PALATAL HOOK;ESH WITH PALATAL HOOK"⟩,
   ⟨0x1d8c, "LATIN SMALL LETTER ", "V WITH PALATAL HOOK;X WITH PALATAL HOOK;Z WITH PALATAL HOOK"⟩,
   ⟨0x1d8f, "LATIN SMALL LETTER ",
     "A WITH RETROFLEX HOOK;ALPHA WITH RETROFLEX HOOK;D WITH HOOK AND TAIL;E WITH RETROFLEX HOOK"⟩,
   ⟨0x1d93, "LATIN SMALL LETTER ",
     "OPEN E WITH RETROFLEX HOOK;REVERSED OPEN E WITH RETROFLEX HOOK;SCHWA WITH RETROFLEX HOOK"⟩,
   ⟨0x1d96, "LATIN SMALL LETTER ", "I WITH RETROFLEX HOOK;OPEN O WITH RETROFLEX HOOK"⟩,
   ⟨0x1d98, "LATIN SMALL LETTER ", "ESH WITH RETROFLEX HOOK;U WITH RETROFLEX HOOK"⟩,
   ⟨0x1d9a, "", "LATIN SMALL LETTER EZH WITH RETROFLEX HOOK;MODIFIER LETTER SMALL TURNED ALPHA"⟩,
   ⟨0x1d9c, "MODIFIER LETTER SMALL ", "C;C WITH CURL;ETH;REVERSED OPEN E;F;DOTLESS J WITH STROKE"⟩,
   ⟨0x1da2, "MODIFIER LETTER SMALL ",
     "SCRIPT G;TURNED H;I WITH STROKE;IOTA;CAPITAL I;CAPITAL I WITH STROKE;J WITH CROSSED-TAIL"⟩,
   ⟨0x1da9, "MODIFIER LETTER SMALL ", "L WITH RETROFLEX HOOK;L WITH PALATAL HOOK;CAPITAL L"⟩,
   ⟨0x1dac, "MODIFIER LETTER SMALL ", "M WITH HOOK;TURNED M WITH LONG LEG;N WITH LEFT HOOK"⟩,
   ⟨0x1daf, "MODIFIER LETTER SMALL ",
     "N WITH RETROFLEX HOOK;CAPITAL N;BARRED O;PHI;S WITH HOOK;ESH;T WITH PALATAL HOOK"⟩,
   ⟨0x1db6, "MODIFIER LETTER SMALL ",
     "U BAR;UPSILON;CAPITAL U;V WITH HOOK;TURNED V;Z;Z WITH RETROFLEX HOOK;Z WITH CURL;EZH;THETA"⟩]

/-- The names in the block Combining Diacritical Marks Supplement. -/
def combiningDiacriticalMarksSupplement : List NameRun :=
  [⟨0x1dc0, "COMBINING ", "DOTTED GRAVE ACCENT;DOTTED ACUTE ACCENT;SNAKE BELOW;SUSPENSION MARK"⟩,
   ⟨0x1dc4, "COMBINING ", "MACRON-ACUTE;GRAVE-MACRON;MACRON-GRAVE;ACUTE-MACRON;GRAVE-ACUTE-GRAVE"⟩,
   ⟨0x1dc9, "COMBINING ", "ACUTE-GRAVE-ACUTE;LATIN SMALL LETTER R BELOW;BREVE-MACRON"⟩,
   ⟨0x1dcc, "COMBINING ", "MACRON-BREVE;DOUBLE CIRCUMFLEX ABOVE;OGONEK ABOVE;ZIGZAG BELOW"⟩,
   ⟨0x1dd0, "COMBINING ", "IS BELOW;UR ABOVE;US ABOVE;LATIN SMALL LETTER FLATTENED OPEN A ABOVE"⟩,
   ⟨0x1dd4, "COMBINING LATIN SMALL LETTER ", "AE;AO;AV;C CEDILLA;INSULAR D;ETH"⟩,
   ⟨0x1dda, "COMBINING LATIN ", "SMALL LETTER G;LETTER SMALL CAPITAL G;SMALL LETTER K"⟩,
   ⟨0x1ddd, "COMBINING LATIN ", "SMALL LETTER L;LETTER SMALL CAPITAL L;LETTER SMALL CAPITAL M"⟩,
   ⟨0x1de0, "COMBINING LATIN ", "SMALL LETTER N;LETTER SMALL CAPITAL N;LETTER SMALL CAPITAL R"⟩,
   ⟨0x1de3, "COMBINING LATIN SMALL LETTER ", "R ROTUNDA;S;LONG S"⟩,
   ⟨0x1de6, "COMBINING LATIN SMALL LETTER ",
     "Z;ALPHA;B;BETA;SCHWA;F;L WITH DOUBLE MIDDLE TILDE;O WITH LIGHT CENTRALIZATION STROKE;P"⟩,
   ⟨0x1def, "COMBINING LATIN SMALL LETTER ",
     "ESH;U WITH LIGHT CENTRALIZATION STROKE;W;A WITH DIAERESIS;O WITH DIAERESIS;U WITH DIAERESIS"⟩,
   ⟨0x1df5, "COMBINING ", "UP TACK ABOVE;KAVYKA ABOVE RIGHT;KAVYKA ABOVE LEFT"⟩,
   ⟨0x1df8, "COMBINING ", "DOT ABOVE LEFT;WIDE INVERTED BRIDGE BELOW;DOT BELOW LEFT"⟩,
   ⟨0x1dfb, "COMBINING ", "DELETION MARK;DOUBLE INVERTED BREVE BELOW;ALMOST EQUAL TO BELOW"⟩,
   ⟨0x1dfe, "COMBINING ", "LEFT ARROWHEAD ABOVE;RIGHT ARROWHEAD AND DOWN ARROWHEAD BELOW"⟩]

/-- The names in the block Latin Extended Additional. -/
def latinExtendedAdditional : List NameRun :=
  [⟨0x1e00, "LATIN ", "CAPITAL LETTER A WITH RING BELOW;SMALL LETTER A WITH RING BELOW"⟩,
   ⟨0x1e02, "LATIN CAPITAL LETTER B WITH DOT ABOVE", ""⟩,
   ⟨0x1e03, "LATIN ", "SMALL LETTER B WITH DOT ABOVE;CAPITAL LETTER B WITH DOT BELOW"⟩,
   ⟨0x1e05, "LATIN ", "SMALL LETTER B WITH DOT BELOW;CAPITAL LETTER B WITH LINE BELOW"⟩,
   ⟨0x1e07, "LATIN ", "SMALL LETTER B WITH LINE BELOW;CAPITAL LETTER C WITH CEDILLA AND ACUTE"⟩,
   ⟨0x1e09, "LATIN ", "SMALL LETTER C WITH CEDILLA AND ACUTE;CAPITAL LETTER D WITH DOT ABOVE"⟩,
   ⟨0x1e0b, "LATIN ", "SMALL LETTER D WITH DOT ABOVE;CAPITAL LETTER D WITH DOT BELOW"⟩,
   ⟨0x1e0d, "LATIN ", "SMALL LETTER D WITH DOT BELOW;CAPITAL LETTER D WITH LINE BELOW"⟩,
   ⟨0x1e0f, "LATIN ", "SMALL LETTER D WITH LINE BELOW;CAPITAL LETTER D WITH CEDILLA"⟩,
   ⟨0x1e11, "LATIN ", "SMALL LETTER D WITH CEDILLA;CAPITAL LETTER D WITH CIRCUMFLEX BELOW"⟩,
   ⟨0x1e13, "LATIN ",
     "SMALL LETTER D WITH CIRCUMFLEX BELOW;CAPITAL LETTER E WITH MACRON AND GRAVE"⟩,
   ⟨0x1e15, "LATIN ",
     "SMALL LETTER E WITH MACRON AND GRAVE;CAPITAL LETTER E WITH MACRON AND ACUTE"⟩,
   ⟨0x1e17, "LATIN ",
     "SMALL LETTER E WITH MACRON AND ACUTE;CAPITAL LETTER E WITH CIRCUMFLEX BELOW"⟩,
   ⟨0x1e19, "LATIN ", "SMALL LETTER E WITH CIRCUMFLEX BELOW;CAPITAL LETTER E WITH TILDE BELOW"⟩,
   ⟨0x1e1b, "LATIN ", "SMALL LETTER E WITH TILDE BELOW;CAPITAL LETTER E WITH CEDILLA AND BREVE"⟩,
   ⟨0x1e1d, "LATIN ", "SMALL LETTER E WITH CEDILLA AND BREVE;CAPITAL LETTER F WITH DOT ABOVE"⟩,
   ⟨0x1e1f, "LATIN ", "SMALL LETTER F WITH DOT ABOVE;CAPITAL LETTER G WITH MACRON"⟩,
   ⟨0x1e21, "LATIN ", "SMALL LETTER G WITH MACRON;CAPITAL LETTER H WITH DOT ABOVE"⟩,
   ⟨0x1e23, "LATIN ", "SMALL LETTER H WITH DOT ABOVE;CAPITAL LETTER H WITH DOT BELOW"⟩,
   ⟨0x1e25, "LATIN ", "SMALL LETTER H WITH DOT BELOW;CAPITAL LETTER H WITH DIAERESIS"⟩,
   ⟨0x1e27, "LATIN ", "SMALL LETTER H WITH DIAERESIS;CAPITAL LETTER H WITH CEDILLA"⟩,
   ⟨0x1e29, "LATIN ", "SMALL LETTER H WITH CEDILLA;CAPITAL LETTER H WITH BREVE BELOW"⟩,
   ⟨0x1e2b, "LATIN ", "SMALL LETTER H WITH BREVE BELOW;CAPITAL LETTER I WITH TILDE BELOW"⟩,
   ⟨0x1e2d, "LATIN ", "SMALL LETTER I WITH TILDE BELOW;CAPITAL LETTER I WITH DIAERESIS AND ACUTE"⟩,
   ⟨0x1e2f, "LATIN ", "SMALL LETTER I WITH DIAERESIS AND ACUTE;CAPITAL LETTER K WITH ACUTE"⟩,
   ⟨0x1e31, "LATIN ", "SMALL LETTER K WITH ACUTE;CAPITAL LETTER K WITH DOT BELOW"⟩,
   ⟨0x1e33, "LATIN ", "SMALL LETTER K WITH DOT BELOW;CAPITAL LETTER K WITH LINE BELOW"⟩,
   ⟨0x1e35, "LATIN ", "SMALL LETTER K WITH LINE BELOW;CAPITAL LETTER L WITH DOT BELOW"⟩,
   ⟨0x1e37, "LATIN ", "SMALL LETTER L WITH DOT BELOW;CAPITAL LETTER L WITH DOT BELOW AND MACRON"⟩,
   ⟨0x1e39, "LATIN ", "SMALL LETTER L WITH DOT BELOW AND MACRON;CAPITAL LETTER L WITH LINE BELOW"⟩,
   ⟨0x1e3b, "LATIN ", "SMALL LETTER L WITH LINE BELOW;CAPITAL LETTER L WITH CIRCUMFLEX BELOW"⟩,
   ⟨0x1e3d, "LATIN ", "SMALL LETTER L WITH CIRCUMFLEX BELOW;CAPITAL LETTER M WITH ACUTE"⟩,
   ⟨0x1e3f, "LATIN ", "SMALL LETTER M WITH ACUTE;CAPITAL LETTER M WITH DOT ABOVE"⟩,
   ⟨0x1e41, "LATIN ", "SMALL LETTER M WITH DOT ABOVE;CAPITAL LETTER M WITH DOT BELOW"⟩,
   ⟨0x1e43, "LATIN ", "SMALL LETTER M WITH DOT BELOW;CAPITAL LETTER N WITH DOT ABOVE"⟩,
   ⟨0x1e45, "LATIN ", "SMALL LETTER N WITH DOT ABOVE;CAPITAL LETTER N WITH DOT BELOW"⟩,
   ⟨0x1e47, "LATIN ", "SMALL LETTER N WITH DOT BELOW;CAPITAL LETTER N WITH LINE BELOW"⟩,
   ⟨0x1e49, "LATIN ", "SMALL LETTER N WITH LINE BELOW;CAPITAL LETTER N WITH CIRCUMFLEX BELOW"⟩,
   ⟨0x1e4b, "LATIN ", "SMALL LETTER N WITH CIRCUMFLEX BELOW;CAPITAL LETTER O WITH TILDE AND ACUTE"⟩,
   ⟨0x1e4d, "LATIN ",
     "SMALL LETTER O WITH TILDE AND ACUTE;CAPITAL LETTER O WITH TILDE AND DIAERESIS"⟩,
   ⟨0x1e4f, "LATIN ",
     "SMALL LETTER O WITH TILDE AND DIAERESIS;CAPITAL LETTER O WITH MACRON AND GRAVE"⟩,
   ⟨0x1e51, "LATIN ",
     "SMALL LETTER O WITH MACRON AND GRAVE;CAPITAL LETTER O WITH MACRON AND ACUTE"⟩,
   ⟨0x1e53, "LATIN ", "SMALL LETTER O WITH MACRON AND ACUTE;CAPITAL LETTER P WITH ACUTE"⟩,
   ⟨0x1e55, "LATIN ", "SMALL LETTER P WITH ACUTE;CAPITAL LETTER P WITH DOT ABOVE"⟩,
   ⟨0x1e57, "LATIN ", "SMALL LETTER P WITH DOT ABOVE;CAPITAL LETTER R WITH DOT ABOVE"⟩,
   ⟨0x1e59, "LATIN ", "SMALL LETTER R WITH DOT ABOVE;CAPITAL LETTER R WITH DOT BELOW"⟩,
   ⟨0x1e5b, "LATIN ", "SMALL LETTER R WITH DOT BELOW;CAPITAL LETTER R WITH DOT BELOW AND MACRON"⟩,
   ⟨0x1e5d, "LATIN ", "SMALL LETTER R WITH DOT BELOW AND MACRON;CAPITAL LETTER R WITH LINE BELOW"⟩,
   ⟨0x1e5f, "LATIN ", "SMALL LETTER R WITH LINE BELOW;CAPITAL LETTER S WITH DOT ABOVE"⟩,
   ⟨0x1e61, "LATIN ", "SMALL LETTER S WITH DOT ABOVE;CAPITAL LETTER S WITH DOT BELOW"⟩,
   ⟨0x1e63, "LATIN ", "SMALL LETTER S WITH DOT BELOW;CAPITAL LETTER S WITH ACUTE AND DOT ABOVE"⟩,
   ⟨0x1e65, "LATIN ",
     "SMALL LETTER S WITH ACUTE AND DOT ABOVE;CAPITAL LETTER S WITH CARON AND DOT ABOVE"⟩,
   ⟨0x1e67, "LATIN ",
     "SMALL LETTER S WITH CARON AND DOT ABOVE;CAPITAL LETTER S WITH DOT BELOW AND DOT ABOVE"⟩,
   ⟨0x1e69, "LATIN ",
     "SMALL LETTER S WITH DOT BELOW AND DOT ABOVE;CAPITAL LETTER T WITH DOT ABOVE"⟩,
   ⟨0x1e6b, "LATIN ", "SMALL LETTER T WITH DOT ABOVE;CAPITAL LETTER T WITH DOT BELOW"⟩,
   ⟨0x1e6d, "LATIN ", "SMALL LETTER T WITH DOT BELOW;CAPITAL LETTER T WITH LINE BELOW"⟩,
   ⟨0x1e6f, "LATIN ", "SMALL LETTER T WITH LINE BELOW;CAPITAL LETTER T WITH CIRCUMFLEX BELOW"⟩,
   ⟨0x1e71, "LATIN ", "SMALL LETTER T WITH CIRCUMFLEX BELOW;CAPITAL LETTER U WITH DIAERESIS BELOW"⟩,
   ⟨0x1e73, "LATIN ", "SMALL LETTER U WITH DIAERESIS BELOW;CAPITAL LETTER U WITH TILDE BELOW"⟩,
   ⟨0x1e75, "LATIN ", "SMALL LETTER U WITH TILDE BELOW;CAPITAL LETTER U WITH CIRCUMFLEX BELOW"⟩,
   ⟨0x1e77, "LATIN ", "SMALL LETTER U WITH CIRCUMFLEX BELOW;CAPITAL LETTER U WITH TILDE AND ACUTE"⟩,
   ⟨0x1e79, "LATIN ",
     "SMALL LETTER U WITH TILDE AND ACUTE;CAPITAL LETTER U WITH MACRON AND DIAERESIS"⟩,
   ⟨0x1e7b, "LATIN ", "SMALL LETTER U WITH MACRON AND DIAERESIS;CAPITAL LETTER V WITH TILDE"⟩,
   ⟨0x1e7d, "LATIN ", "SMALL LETTER V WITH TILDE;CAPITAL LETTER V WITH DOT BELOW"⟩,
   ⟨0x1e7f, "LATIN ", "SMALL LETTER V WITH DOT BELOW;CAPITAL LETTER W WITH GRAVE"⟩,
   ⟨0x1e81, "LATIN ", "SMALL LETTER W WITH GRAVE;CAPITAL LETTER W WITH ACUTE"⟩,
   ⟨0x1e83, "LATIN ", "SMALL LETTER W WITH ACUTE;CAPITAL LETTER W WITH DIAERESIS"⟩,
   ⟨0x1e85, "LATIN ", "SMALL LETTER W WITH DIAERESIS;CAPITAL LETTER W WITH DOT ABOVE"⟩,
   ⟨0x1e87, "LATIN ", "SMALL LETTER W WITH DOT ABOVE;CAPITAL LETTER W WITH DOT BELOW"⟩,
   ⟨0x1e89, "LATIN ", "SMALL LETTER W WITH DOT BELOW;CAPITAL LETTER X WITH DOT ABOVE"⟩,
   ⟨0x1e8b, "LATIN ", "SMALL LETTER X WITH DOT ABOVE;CAPITAL LETTER X WITH DIAERESIS"⟩,
   ⟨0x1e8d, "LATIN ", "SMALL LETTER X WITH DIAERESIS;CAPITAL LETTER Y WITH DOT ABOVE"⟩,
   ⟨0x1e8f, "LATIN ", "SMALL LETTER Y WITH DOT ABOVE;CAPITAL LETTER Z WITH CIRCUMFLEX"⟩,
   ⟨0x1e91, "LATIN ", "SMALL LETTER Z WITH CIRCUMFLEX;CAPITAL LETTER Z WITH DOT BELOW"⟩,
   ⟨0x1e93, "LATIN ", "SMALL LETTER Z WITH DOT BELOW;CAPITAL LETTER Z WITH LINE BELOW"⟩,
   ⟨0x1e95, "LATIN SMALL LETTER ", "Z WITH LINE BELOW;H WITH LINE BELOW;T WITH DIAERESIS"⟩,
   ⟨0x1e98, "LATIN SMALL LETTER ", "W WITH RING ABOVE;Y WITH RING ABOVE;A WITH RIGHT HALF RING"⟩,
   ⟨0x1e9b, "LATIN SMALL LETTER LONG S WITH ", "DOT ABOVE;DIAGONAL STROKE;HIGH STROKE"⟩,
   ⟨0x1e9e, "LATIN ", "CAPITAL LETTER SHARP S;SMALL LETTER DELTA;CAPITAL LETTER A WITH DOT BELOW"⟩,
   ⟨0x1ea1, "LATIN ", "SMALL LETTER A WITH DOT BELOW;CAPITAL LETTER A WITH HOOK ABOVE"⟩,
   ⟨0x1ea3, "LATIN ", "SMALL LETTER A WITH HOOK ABOVE;CAPITAL LETTER A WITH CIRCUMFLEX AND ACUTE"⟩,
   ⟨0x1ea5, "LATIN ",
     "SMALL LETTER A WITH CIRCUMFLEX AND ACUTE;CAPITAL LETTER A WITH CIRCUMFLEX AND GRAVE"⟩,
   ⟨0x1ea7, "LATIN ",
     "SMALL LETTER A WITH CIRCUMFLEX AND GRAVE;CAPITAL LETTER A WITH CIRCUMFLEX AND HOOK ABOVE"⟩,
   ⟨0x1ea9, "LATIN ",
     "SMALL LETTER A WITH CIRCUMFLEX AND HOOK ABOVE;CAPITAL LETTER A WITH CIRCUMFLEX AND TILDE"⟩,
   ⟨0x1eab, "LATIN SMALL LETTER A WITH CIRCUMFLEX AND TILDE", ""⟩,
   ⟨0x1eac, "LATIN ",
     "CAPITAL LETTER A WITH CIRCUMFLEX AND DOT BELOW;SMALL LETTER A WITH CIRCUMFLEX AND DOT BELOW"⟩,
   ⟨0x1eae, "LATIN ", "CAPITAL LETTER A WITH BREVE AND ACUTE;SMALL LETTER A WITH BREVE AND ACUTE"⟩,
   ⟨0x1eb0, "LATIN ", "CAPITAL LETTER A WITH BREVE AND GRAVE;SMALL LETTER A WITH BREVE AND GRAVE"⟩,
   ⟨0x1eb2, "LATIN ",
     "CAPITAL LETTER A WITH BREVE AND HOOK ABOVE;SMALL LETTER A WITH BREVE AND HOOK ABOVE"⟩,
   ⟨0x1eb4, "LATIN ", "CAPITAL LETTER A WITH BREVE AND TILDE;SMALL LETTER A WITH BREVE AND TILDE"⟩,
   ⟨0x1eb6, "LATIN CAPITAL LETTER A WITH BREVE AND DOT BELOW", ""⟩,
   ⟨0x1eb7, "LATIN ", "SMALL LETTER A WITH BREVE AND DOT BELOW;CAPITAL LETTER E WITH DOT BELOW"⟩,
   ⟨0x1eb9, "LATIN ", "SMALL LETTER E WITH DOT BELOW;CAPITAL LETTER E WITH HOOK ABOVE"⟩,
   ⟨0x1ebb, "LATIN ", "SMALL LETTER E WITH HOOK ABOVE;CAPITAL LETTER E WITH TILDE"⟩,
   ⟨0x1ebd, "LATIN ", "SMALL LETTER E WITH TILDE;CAPITAL LETTER E WITH CIRCUMFLEX AND ACUTE"⟩,
   ⟨0x1ebf, "LATIN ",
     "SMALL LETTER E WITH CIRCUMFLEX AND ACUTE;CAPITAL LETTER E WITH CIRCUMFLEX AND GRAVE"⟩,
   ⟨0x1ec1, "LATIN ",
     "SMALL LETTER E WITH CIRCUMFLEX AND GRAVE;CAPITAL LETTER E WITH CIRCUMFLEX AND HOOK ABOVE"⟩,
   ⟨0x1ec3, "LATIN ",
     "SMALL LETTER E WITH CIRCUMFLEX AND HOOK ABOVE;CAPITAL LETTER E WITH CIRCUMFLEX AND TILDE"⟩,
   ⟨0x1ec5, "LATIN ",
     "SMALL LETTER E WITH CIRCUMFLEX AND TILDE;CAPITAL LETTER E WITH CIRCUMFLEX AND DOT BELOW"⟩,
   ⟨0x1ec7, "LATIN ",
     "SMALL LETTER E WITH CIRCUMFLEX AND DOT BELOW;CAPITAL LETTER I WITH HOOK ABOVE"⟩,
   ⟨0x1ec9, "LATIN ", "SMALL LETTER I WITH HOOK ABOVE;CAPITAL LETTER I WITH DOT BELOW"⟩,
   ⟨0x1ecb, "LATIN ", "SMALL LETTER I WITH DOT BELOW;CAPITAL LETTER O WITH DOT BELOW"⟩,
   ⟨0x1ecd, "LATIN ", "SMALL LETTER O WITH DOT BELOW;CAPITAL LETTER O WITH HOOK ABOVE"⟩,
   ⟨0x1ecf, "LATIN ", "SMALL LETTER O WITH HOOK ABOVE;CAPITAL LETTER O WITH CIRCUMFLEX AND ACUTE"⟩,
   ⟨0x1ed1, "LATIN ",
     "SMALL LETTER O WITH CIRCUMFLEX AND ACUTE;CAPITAL LETTER O WITH CIRCUMFLEX AND GRAVE"⟩,
   ⟨0x1ed3, "LATIN ",
     "SMALL LETTER O WITH CIRCUMFLEX AND GRAVE;CAPITAL LETTER O WITH CIRCUMFLEX AND HOOK ABOVE"⟩,
   ⟨0x1ed5, "LATIN ",
     "SMALL LETTER O WITH CIRCUMFLEX AND HOOK ABOVE;CAPITAL LETTER O WITH CIRCUMFLEX AND TILDE"⟩,
   ⟨0x1ed7, "LATIN SMALL LETTER O WITH CIRCUMFLEX AND TILDE", ""⟩,
   ⟨0x1ed8, "LATIN ",
     "CAPITAL LETTER O WITH CIRCUMFLEX AND DOT BELOW;SMALL LETTER O WITH CIRCUMFLEX AND DOT BELOW"⟩,
   ⟨0x1eda, "LATIN ", "CAPITAL LETTER O WITH HORN AND ACUTE;SMALL LETTER O WITH HORN AND ACUTE"⟩,
   ⟨0x1edc, "LATIN ", "CAPITAL LETTER O WITH HORN AND GRAVE;SMALL LETTER O WITH HORN AND GRAVE"⟩,
   ⟨0x1ede, "LATIN ",
     "CAPITAL LETTER O WITH HORN AND HOOK ABOVE;SMALL LETTER O WITH HORN AND HOOK ABOVE"⟩,
   ⟨0x1ee0, "LATIN ", "CAPITAL LETTER O WITH HORN AND TILDE;SMALL LETTER O WITH HORN AND TILDE"⟩,
   ⟨0x1ee2, "LATIN ",
     "CAPITAL LETTER O WITH HORN AND DOT BELOW;SMALL LETTER O WITH HORN AND DOT BELOW"⟩,
   ⟨0x1ee4, "LATIN ", "CAPITAL LETTER U WITH DOT BELOW;SMALL LETTER U WITH DOT BELOW"⟩,
   ⟨0x1ee6, "LATIN ", "CAPITAL LETTER U WITH HOOK ABOVE;SMALL LETTER U WITH HOOK ABOVE"⟩,
   ⟨0x1ee8, "LATIN ", "CAPITAL LETTER U WITH HORN AND ACUTE;SMALL LETTER U WITH HORN AND ACUTE"⟩,
   ⟨0x1eea, "LATIN ", "CAPITAL LETTER U WITH HORN AND GRAVE;SMALL LETTER U WITH HORN AND GRAVE"⟩,
   ⟨0x1eec, "LATIN ",
     "CAPITAL LETTER U WITH HORN AND HOOK ABOVE;SMALL LETTER U WITH HORN AND HOOK ABOVE"⟩,
   ⟨0x1eee, "LATIN ", "CAPITAL LETTER U WITH HORN AND TILDE;SMALL LETTER U WITH HORN AND TILDE"⟩,
   ⟨0x1ef0, "LATIN ",
     "CAPITAL LETTER U WITH HORN AND DOT BELOW;SMALL LETTER U WITH HORN AND DOT BELOW"⟩,
   ⟨0x1ef2, "LATIN ", "CAPITAL LETTER Y WITH GRAVE;SMALL LETTER Y WITH GRAVE"⟩,
   ⟨0x1ef4, "LATIN ", "CAPITAL LETTER Y WITH DOT BELOW;SMALL LETTER Y WITH DOT BELOW"⟩,
   ⟨0x1ef6, "LATIN ", "CAPITAL LETTER Y WITH HOOK ABOVE;SMALL LETTER Y WITH HOOK ABOVE"⟩,
   ⟨0x1ef8, "LATIN ", "CAPITAL LETTER Y WITH TILDE;SMALL LETTER Y WITH TILDE"⟩,
   ⟨0x1efa, "LATIN ", "CAPITAL LETTER MIDDLE-WELSH LL;SMALL LETTER MIDDLE-WELSH LL"⟩,
   ⟨0x1efc, "LATIN ", "CAPITAL LETTER MIDDLE-WELSH V;SMALL LETTER MIDDLE-WELSH V"⟩,
   ⟨0x1efe, "LATIN ", "CAPITAL LETTER Y WITH LOOP;SMALL LETTER Y WITH LOOP"⟩]

/-- The names in the block Greek Extended. -/
def greekExtended : List NameRun :=
  [⟨0x1f00, "GREEK SMALL LETTER ALPHA WITH ", "PSILI;DASIA;PSILI AND VARIA"⟩,
   ⟨0x1f03, "GREEK SMALL LETTER ALPHA WITH ",
     "DASIA AND VARIA;PSILI AND OXIA;DASIA AND OXIA;PSILI AND PERISPOMENI;DASIA AND PERISPOMENI"⟩,
   ⟨0x1f08, "GREEK CAPITAL LETTER ALPHA WITH ", "PSILI;DASIA;PSILI AND VARIA"⟩,
   ⟨0x1f0b, "GREEK CAPITAL LETTER ALPHA WITH ",
     "DASIA AND VARIA;PSILI AND OXIA;DASIA AND OXIA;PSILI AND PERISPOMENI;DASIA AND PERISPOMENI"⟩,
   ⟨0x1f10, "GREEK SMALL LETTER EPSILON WITH ",
     "PSILI;DASIA;PSILI AND VARIA;DASIA AND VARIA;PSILI AND OXIA;DASIA AND OXIA"⟩,
   ⟨0x1f18, "GREEK CAPITAL LETTER EPSILON WITH ",
     "PSILI;DASIA;PSILI AND VARIA;DASIA AND VARIA;PSILI AND OXIA;DASIA AND OXIA"⟩,
   ⟨0x1f20, "GREEK SMALL LETTER ETA WITH ", "PSILI;DASIA;PSILI AND VARIA;DASIA AND VARIA"⟩,
   ⟨0x1f24, "GREEK SMALL LETTER ETA WITH ", "PSILI AND OXIA;DASIA AND OXIA;PSILI AND PERISPOMENI"⟩,
   ⟨0x1f27, "GREEK ", "SMALL LETTER ETA WITH DASIA AND PERISPOMENI;CAPITAL LETTER ETA WITH PSILI"⟩,
   ⟨0x1f29, "GREEK CAPITAL LETTER ETA WITH ",
     "DASIA;PSILI AND VARIA;DASIA AND VARIA;PSILI AND OXIA;DASIA AND OXIA;PSILI AND PERISPOMENI"⟩,
   ⟨0x1f2f, "GREEK ", "CAPITAL LETTER ETA WITH DASIA AND PERISPOMENI;SMALL LETTER IOTA WITH PSILI"⟩,
   ⟨0x1f31, "GREEK SMALL LETTER IOTA WITH ", "DASIA;PSILI AND VARIA"⟩,
   ⟨0x1f33, "GREEK SMALL LETTER IOTA WITH ",
     "DASIA AND VARIA;PSILI AND OXIA;DASIA AND OXIA;PSILI AND PERISPOMENI;DASIA AND PERISPOMENI"⟩,
   ⟨0x1f38, "GREEK CAPITAL LETTER IOTA WITH ", "PSILI;DASIA;PSILI AND VARIA"⟩,
   ⟨0x1f3b, "GREEK CAPITAL LETTER IOTA WITH ",
     "DASIA AND VARIA;PSILI AND OXIA;DASIA AND OXIA;PSILI AND PERISPOMENI;DASIA AND PERISPOMENI"⟩,
   ⟨0x1f40, "GREEK SMALL LETTER OMICRON WITH ",
     "PSILI;DASIA;PSILI AND VARIA;DASIA AND VARIA;PSILI AND OXIA;DASIA AND OXIA"⟩,
   ⟨0x1f48, "GREEK CAPITAL LETTER OMICRON WITH ",
     "PSILI;DASIA;PSILI AND VARIA;DASIA AND VARIA;PSILI AND OXIA;DASIA AND OXIA"⟩,
   ⟨0x1f50, "GREEK SMALL LETTER UPSILON WITH ", "PSILI;DASIA;PSILI AND VARIA"⟩,
   ⟨0x1f53, "GREEK SMALL LETTER UPSILON WITH ",
     "DASIA AND VARIA;PSILI AND OXIA;DASIA AND OXIA;PSILI AND PERISPOMENI;DASIA AND PERISPOMENI"⟩,
   ⟨0x1f59, "GREEK CAPITAL LETTER UPSILON WITH DASIA", ""⟩,
   ⟨0x1f5b, "GREEK CAPITAL LETTER UPSILON WITH DASIA AND VARIA", ""⟩,
   ⟨0x1f5d, "GREEK CAPITAL LETTER UPSILON WITH DASIA AND OXIA", ""⟩,
   ⟨0x1f5f, "GREEK CAPITAL LETTER UPSILON WITH DASIA AND PERISPOMENI", ""⟩,
   ⟨0x1f60, "GREEK SMALL LETTER OMEGA WITH ", "PSILI;DASIA;PSILI AND VARIA"⟩,
   ⟨0x1f63, "GREEK SMALL LETTER OMEGA WITH ",
     "DASIA AND VARIA;PSILI AND OXIA;DASIA AND OXIA;PSILI AND PERISPOMENI;DASIA AND PERISPOMENI"⟩,
   ⟨0x1f68, "GREEK CAPITAL LETTER OMEGA WITH ", "PSILI;DASIA;PSILI AND VARIA"⟩,
   ⟨0x1f6b, "GREEK CAPITAL LETTER OMEGA WITH ",
     "DASIA AND VARIA;PSILI AND OXIA;DASIA AND OXIA;PSILI AND PERISPOMENI;DASIA AND PERISPOMENI"⟩,
   ⟨0x1f70, "GREEK SMALL LETTER ", "ALPHA WITH VARIA;ALPHA WITH OXIA;EPSILON WITH VARIA"⟩,
   ⟨0x1f73, "GREEK SMALL LETTER ",
     "EPSILON WITH OXIA;ETA WITH VARIA;ETA WITH OXIA;IOTA WITH VARIA;IOTA WITH OXIA"⟩,
   ⟨0x1f78, "GREEK SMALL LETTER ", "OMICRON WITH VARIA;OMICRON WITH OXIA;UPSILON WITH VARIA"⟩,
   ⟨0x1f7b, "GREEK SMALL LETTER ", "UPSILON WITH OXIA;OMEGA WITH VARIA;OMEGA WITH OXIA"⟩,
   ⟨0x1f80, "GREEK SMALL LETTER ALPHA WITH ", "PSILI AND YPOGEGRAMMENI;DASIA AND YPOGEGRAMMENI"⟩,
   ⟨0x1f82, "GREEK SMALL LETTER ALPHA WITH ",
     "PSILI AND VARIA AND YPOGEGRAMMENI;DASIA AND VARIA AND YPOGEGRAMMENI"⟩,
   ⟨0x1f84, "GREEK SMALL LETTER ALPHA WITH ",
     "PSILI AND OXIA AND YPOGEGRAMMENI;DASIA AND OXIA AND YPOGEGRAMMENI"⟩,
   ⟨0x1f86, "GREEK SMALL LETTER ALPHA WITH ",
     "PSILI AND PERISPOMENI AND YPOGEGRAMMENI;DASIA AND PERISPOMENI AND YPOGEGRAMMENI"⟩,
   ⟨0x1f88, "GREEK CAPITAL LETTER ALPHA WITH ",
     "PSILI AND PROSGEGRAMMENI;DASIA AND PROSGEGRAMMENI;PSILI AND VARIA AND PROSGEGRAMMENI"⟩,
   ⟨0x1f8b, "GREEK CAPITAL LETTER ALPHA WITH ",
     "DASIA AND VARIA AND PROSGEGRAMMENI;PSILI AND OXIA AND PROSGEGRAMMENI"⟩,
   ⟨0x1f8d, "GREEK CAPITAL LETTER ALPHA WITH DASIA AND OXIA AND PROSGEGRAMMENI", ""⟩,
   ⟨0x1f8e, "GREEK CAPITAL LETTER ALPHA WITH ",
     "PSILI AND PERISPOMENI AND PROSGEGRAMMENI;DASIA AND PERISPOMENI AND PROSGEGRAMMENI"⟩,
   ⟨0x1f90, "GREEK SMALL LETTER ETA WITH ", "PSILI AND YPOGEGRAMMENI;DASIA AND YPOGEGRAMMENI"⟩,
   ⟨0x1f92, "GREEK SMALL LETTER ETA WITH ",
     "PSILI AND VARIA AND YPOGEGRAMMENI;DASIA AND VARIA AND YPOGEGRAMMENI"⟩,
   ⟨0x1f94, "GREEK SMALL LETTER ETA WITH ",
     "PSILI AND OXIA AND YPOGEGRAMMENI;DASIA AND OXIA AND YPOGEGRAMMENI"⟩,
   ⟨0x1f96, "GREEK SMALL LETTER ETA WITH ",
     "PSILI AND PERISPOMENI AND YPOGEGRAMMENI;DASIA AND PERISPOMENI AND YPOGEGRAMMENI"⟩,
   ⟨0x1f98, "GREEK CAPITAL LETTER ETA WITH ", "PSILI AND PROSGEGRAMMENI;DASIA AND PROSGEGRAMMENI"⟩,
   ⟨0x1f9a, "GREEK CAPITAL LETTER ETA WITH ",
     "PSILI AND VARIA AND PROSGEGRAMMENI;DASIA AND VARIA AND PROSGEGRAMMENI"⟩,
   ⟨0x1f9c, "GREEK CAPITAL LETTER ETA WITH ",
     "PSILI AND OXIA AND PROSGEGRAMMENI;DASIA AND OXIA AND PROSGEGRAMMENI"⟩,
   ⟨0x1f9e, "GREEK CAPITAL LETTER ETA WITH ",
     "PSILI AND PERISPOMENI AND PROSGEGRAMMENI;DASIA AND PERISPOMENI AND PROSGEGRAMMENI"⟩,
   ⟨0x1fa0, "GREEK SMALL LETTER OMEGA WITH ", "PSILI AND YPOGEGRAMMENI;DASIA AND YPOGEGRAMMENI"⟩,
   ⟨0x1fa2, "GREEK SMALL LETTER OMEGA WITH ",
     "PSILI AND VARIA AND YPOGEGRAMMENI;DASIA AND VARIA AND YPOGEGRAMMENI"⟩,
   ⟨0x1fa4, "GREEK SMALL LETTER OMEGA WITH ",
     "PSILI AND OXIA AND YPOGEGRAMMENI;DASIA AND OXIA AND YPOGEGRAMMENI"⟩,
   ⟨0x1fa6, "GREEK SMALL LETTER OMEGA WITH ",
     "PSILI AND PERISPOMENI AND YPOGEGRAMMENI;DASIA AND PERISPOMENI AND YPOGEGRAMMENI"⟩,
   ⟨0x1fa8, "GREEK CAPITAL LETTER OMEGA WITH ",
     "PSILI AND PROSGEGRAMMENI;DASIA AND PROSGEGRAMMENI;PSILI AND VARIA AND PROSGEGRAMMENI"⟩,
   ⟨0x1fab, "GREEK CAPITAL LETTER OMEGA WITH ",
     "DASIA AND VARIA AND PROSGEGRAMMENI;PSILI AND OXIA AND PROSGEGRAMMENI"⟩,
   ⟨0x1fad, "GREEK CAPITAL LETTER OMEGA WITH DASIA AND OXIA AND PROSGEGRAMMENI", ""⟩,
   ⟨0x1fae, "GREEK CAPITAL LETTER OMEGA WITH ",
     "PSILI AND PERISPOMENI AND PROSGEGRAMMENI;DASIA AND PERISPOMENI AND PROSGEGRAMMENI"⟩,
   ⟨0x1fb0, "GREEK SMALL LETTER ALPHA WITH ",
     "VRACHY;MACRON;VARIA AND YPOGEGRAMMENI;YPOGEGRAMMENI;OXIA AND YPOGEGRAMMENI"⟩,
   ⟨0x1fb6, "GREEK SMALL LETTER ALPHA WITH PERISPOMENI", "; AND YPOGEGRAMMENI"⟩,
   ⟨0x1fb8, "GREEK CAPITAL LETTER ALPHA WITH ", "VRACHY;MACRON;VARIA;OXIA;PROSGEGRAMMENI"⟩,
   ⟨0x1fbd, "GREEK ", "KORONIS;PROSGEGRAMMENI;PSILI;PERISPOMENI;DIALYTIKA AND PERISPOMENI"⟩,
   ⟨0x1fc2, "GREEK SMALL LETTER ETA WITH ",
     "VARIA AND YPOGEGRAMMENI;YPOGEGRAMMENI;OXIA AND YPOGEGRAMMENI"⟩,
   ⟨0x1fc6, "GREEK SMALL LETTER ETA WITH PERISPOMENI", "; AND YPOGEGRAMMENI"⟩,
   ⟨0x1fc8, "GREEK CAPITAL LETTER E",
     "PSILON WITH VARIA;PSILON WITH OXIA;TA WITH VARIA;TA WITH OXIA;TA WITH PROSGEGRAMMENI"⟩,
   ⟨0x1fcd, "GREEK ",
     "PSILI AND VARIA;PSILI AND OXIA;PSILI AND PERISPOMENI;SMALL LETTER IOTA WITH VRACHY"⟩,
   ⟨0x1fd1, "GREEK SMALL LETTER IOTA WITH ", "MACRON;DIALYTIKA AND VARIA;DIALYTIKA AND OXIA"⟩,
   ⟨0x1fd6, "GREEK SMALL LETTER IOTA WITH ", "PERISPOMENI;DIALYTIKA AND PERISPOMENI"⟩,
   ⟨0x1fd8, "GREEK CAPITAL LETTER IOTA WITH ", "VRACHY;MACRON;VARIA;OXIA"⟩,
   ⟨0x1fdd, "GREEK DASIA AND ", "VARIA;OXIA;PERISPOMENI"⟩,
   ⟨0x1fe0, "GREEK SMALL LETTER UPSILON WITH ", "VRACHY;MACRON;DIALYTIKA AND VARIA"⟩,
   ⟨0x1fe3, "GREEK SMALL LETTER ", "UPSILON WITH DIALYTIKA AND OXIA;RHO WITH PSILI;RHO WITH DASIA"⟩,
   ⟨0x1fe6, "GREEK SMALL LETTER UPSILON WITH ", "PERISPOMENI;DIALYTIKA AND PERISPOMENI"⟩,
   ⟨0x1fe8, "GREEK CAPITAL LETTER UPSILON WITH ", "VRACHY;MACRON;VARIA;OXIA"⟩,
   ⟨0x1fec, "GREEK ", "CAPITAL LETTER RHO WITH DASIA;DIALYTIKA AND VARIA;DIALYTIKA AND OXIA;VARIA"⟩,
   ⟨0x1ff2, "GREEK SMALL LETTER OMEGA WITH ",
     "VARIA AND YPOGEGRAMMENI;YPOGEGRAMMENI;OXIA AND YPOGEGRAMMENI"⟩,
   ⟨0x1ff6, "GREEK SMALL LETTER OMEGA WITH PERISPOMENI", "; AND YPOGEGRAMMENI"⟩,
   ⟨0x1ff8, "GREEK CAPITAL LETTER OM", "ICRON WITH VARIA;ICRON WITH OXIA;EGA WITH VARIA"⟩,
   ⟨0x1ffb, "GREEK ",
     "CAPITAL LETTER OMEGA WITH OXIA;CAPITAL LETTER OMEGA WITH PROSGEGRAMMENI;OXIA;DASIA"⟩]

/-- All names of this module. -/
def extendedLetters : List NameRun :=
  List.flatten
    [phoneticExtensions, phoneticExtensionsSupplement, combiningDiacriticalMarksSupplement,
     latinExtendedAdditional, greekExtended]

end Names
end Unicode
end LiquidMarkdown
