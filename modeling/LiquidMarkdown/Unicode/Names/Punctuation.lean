import LiquidMarkdown.Unicode.NameRun

/-!
# Names of characters: punctuation and technical signs

* `punctuation` — the names of punctuation, currencies, arrows, and the signs of mathematics and
  technology.
-/

namespace LiquidMarkdown
namespace Unicode
namespace Names

/-- The names in the block General Punctuation. -/
def generalPunctuation : List NameRun :=
  [⟨0x2000, "", "EN QUAD;EM QUAD;EN SPACE;EM SPACE;THREE-PER-EM SPACE;FOUR-PER-EM SPACE"⟩,
   ⟨0x2006, "", "SIX-PER-EM SPACE;FIGURE SPACE;PUNCTUATION SPACE;THIN SPACE;HAIR SPACE"⟩,
   ⟨0x200b, "", "ZERO WIDTH SPACE;ZERO WIDTH NON-JOINER;ZERO WIDTH JOINER;LEFT-TO-RIGHT MARK"⟩,
   ⟨0x200f, "", "RIGHT-TO-LEFT MARK;HYPHEN;NON-BREAKING HYPHEN;FIGURE DASH;EN DASH;EM DASH"⟩,
   ⟨0x2015, "", "HORIZONTAL BAR;DOUBLE VERTICAL LINE;DOUBLE LOW LINE;LEFT SINGLE QUOTATION MARK"⟩,
   ⟨0x2019, "", "RIGHT SINGLE QUOTATION MARK;SINGLE LOW-9 QUOTATION MARK"⟩,
   ⟨0x201b, "", "SINGLE HIGH-REVERSED-9 QUOTATION MARK;LEFT DOUBLE QUOTATION MARK"⟩,
   ⟨0x201d, "", "RIGHT DOUBLE QUOTATION MARK;DOUBLE LOW-9 QUOTATION MARK"⟩,
   ⟨0x201f, "", "DOUBLE HIGH-REVERSED-9 QUOTATION MARK;DAGGER;DOUBLE DAGGER;BULLET"⟩,
   ⟨0x2023, "", "TRIANGULAR BULLET;ONE DOT LEADER"⟩,
   ⟨0x2025, "", "TWO DOT LEADER;HORIZONTAL ELLIPSIS;HYPHENATION POINT;LINE SEPARATOR"⟩,
   ⟨0x2029, "", "PARAGRAPH SEPARATOR;LEFT-TO-RIGHT EMBEDDING;RIGHT-TO-LEFT EMBEDDING"⟩,
   ⟨0x202c, "", "POP DIRECTIONAL FORMATTING;LEFT-TO-RIGHT OVERRIDE;RIGHT-TO-LEFT OVERRIDE"⟩,
   ⟨0x202f, "", "NARROW NO-BREAK SPACE;PER MILLE SIGN;PER TEN THOUSAND SIGN;PRIME;DOUBLE PRIME"⟩,
   ⟨0x2034, "", "TRIPLE PRIME;REVERSED PRIME;REVERSED DOUBLE PRIME;REVERSED TRIPLE PRIME;CARET"⟩,
   ⟨0x2039, "SINGLE ", "LEFT-POINTING ANGLE QUOTATION MARK;RIGHT-POINTING ANGLE QUOTATION MARK"⟩,
   ⟨0x203b, "", "REFERENCE MARK;DOUBLE EXCLAMATION MARK"⟩,
   ⟨0x203d, "", "INTERROBANG;OVERLINE;UNDERTIE;CHARACTER TIE;CARET INSERTION POINT"⟩,
   ⟨0x2042, "", "ASTERISM;HYPHEN BULLET;FRACTION SLASH;LEFT SQUARE BRACKET WITH QUILL"⟩,
   ⟨0x2046, "", "RIGHT SQUARE BRACKET WITH QUILL;DOUBLE QUESTION MARK;QUESTION EXCLAMATION MARK"⟩,
   ⟨0x2049, "", "EXCLAMATION QUESTION MARK;TIRONIAN SIGN ET;REVERSED PILCROW SIGN"⟩,
   ⟨0x204c, "", "BLACK LEFTWARDS BULLET;BLACK RIGHTWARDS BULLET;LOW ASTERISK;REVERSED SEMICOLON"⟩,
   ⟨0x2050, "", "CLOSE UP;TWO ASTERISKS ALIGNED VERTICALLY;COMMERCIAL MINUS SIGN;SWUNG DASH"⟩,
   ⟨0x2054, "", "INVERTED UNDERTIE;FLOWER PUNCTUATION MARK;THREE DOT PUNCTUATION;QUADRUPLE PRIME"⟩,
   ⟨0x2058, "", "FOUR DOT PUNCTUATION;FIVE DOT PUNCTUATION;TWO DOT PUNCTUATION;FOUR DOT MARK"⟩,
   ⟨0x205c, "", "DOTTED CROSS;TRICOLON;VERTICAL FOUR DOTS;MEDIUM MATHEMATICAL SPACE;WORD JOINER"⟩,
   ⟨0x2061, "", "FUNCTION APPLICATION;INVISIBLE TIMES;INVISIBLE SEPARATOR;INVISIBLE PLUS"⟩,
   ⟨0x2066, "", "LEFT-TO-RIGHT ISOLATE;RIGHT-TO-LEFT ISOLATE"⟩,
   ⟨0x2068, "", "FIRST STRONG ISOLATE;POP DIRECTIONAL ISOLATE;INHIBIT SYMMETRIC SWAPPING"⟩,
   ⟨0x206b, "", "ACTIVATE SYMMETRIC SWAPPING;INHIBIT ARABIC FORM SHAPING"⟩,
   ⟨0x206d, "", "ACTIVATE ARABIC FORM SHAPING;NATIONAL DIGIT SHAPES;NOMINAL DIGIT SHAPES"⟩]

/-- The names in the block Superscripts and Subscripts. -/
def superscriptsAndSubscripts : List NameRun :=
  [⟨0x2070, "SUPERSCRIPT ", "ZERO;LATIN SMALL LETTER I"⟩,
   ⟨0x2074, "SUPERSCRIPT ", "FOUR;FIVE;SIX;SEVEN;EIGHT;NINE;PLUS SIGN;MINUS"⟩,
   ⟨0x207c, "SUPERSCRIPT ", "EQUALS SIGN;LEFT PARENTHESIS;RIGHT PARENTHESIS;LATIN SMALL LETTER N"⟩,
   ⟨0x2080, "SUBSCRIPT ", "ZERO;ONE;TWO;THREE;FOUR;FIVE;SIX;SEVEN;EIGHT"⟩,
   ⟨0x2089, "SUBSCRIPT ", "NINE;PLUS SIGN;MINUS;EQUALS SIGN;LEFT PARENTHESIS;RIGHT PARENTHESIS"⟩,
   ⟨0x2090, "LATIN SUBSCRIPT SMALL LETTER ", "A;E;O;X;SCHWA;H;K;L;M;N;P;S;T"⟩]

/-- The names in the block Currency Symbols. -/
def currencySymbols : List NameRun :=
  [⟨0x20a0, "", "EURO-CURRENCY SIGN;COLON SIGN;CRUZEIRO SIGN"⟩,
   ⟨0x20a3, "", "FRENCH FRANC SIGN;LIRA SIGN;MILL SIGN;NAIRA SIGN;PESETA SIGN;RUPEE SIGN"⟩,
   ⟨0x20a9, "", "WON SIGN;NEW SHEQEL SIGN;DONG SIGN;EURO SIGN;KIP SIGN;TUGRIK SIGN;DRACHMA SIGN"⟩,
   ⟨0x20b0, "", "GERMAN PENNY SIGN;PESO SIGN;GUARANI SIGN;AUSTRAL SIGN;HRYVNIA SIGN;CEDI SIGN"⟩,
   ⟨0x20b6, "", "LIVRE TOURNOIS SIGN;SPESMILO SIGN;TENGE SIGN;INDIAN RUPEE SIGN;TURKISH LIRA SIGN"⟩,
   ⟨0x20bb, "", "NORDIC MARK SIGN;MANAT SIGN;RUBLE SIGN;LARI SIGN;BITCOIN SIGN;SOM SIGN"⟩]

/-- The names in the block Combining Diacritical Marks for Symbols. -/
def combiningDiacriticalMarksForSymbols : List NameRun :=
  [⟨0x20d0, "COMBINING ", "LEFT HARPOON ABOVE;RIGHT HARPOON ABOVE;LONG VERTICAL LINE OVERLAY"⟩,
   ⟨0x20d3, "COMBINING ", "SHORT VERTICAL LINE OVERLAY;ANTICLOCKWISE ARROW ABOVE"⟩,
   ⟨0x20d5, "COMBINING ", "CLOCKWISE ARROW ABOVE;LEFT ARROW ABOVE;RIGHT ARROW ABOVE"⟩,
   ⟨0x20d8, "COMBINING ", "RING OVERLAY;CLOCKWISE RING OVERLAY;ANTICLOCKWISE RING OVERLAY"⟩,
   ⟨0x20db, "COMBINING ", "THREE DOTS ABOVE;FOUR DOTS ABOVE;ENCLOSING CIRCLE;ENCLOSING SQUARE"⟩,
   ⟨0x20df, "COMBINING ", "ENCLOSING DIAMOND;ENCLOSING CIRCLE BACKSLASH;LEFT RIGHT ARROW ABOVE"⟩,
   ⟨0x20e2, "COMBINING ENCLOSING ", "SCREEN;KEYCAP;UPWARD POINTING TRIANGLE"⟩,
   ⟨0x20e5, "COMBINING ", "REVERSE SOLIDUS OVERLAY;DOUBLE VERTICAL STROKE OVERLAY;ANNUITY SYMBOL"⟩,
   ⟨0x20e8, "COMBINING ", "TRIPLE UNDERDOT;WIDE BRIDGE ABOVE;LEFTWARDS ARROW OVERLAY"⟩,
   ⟨0x20eb, "COMBINING ", "LONG DOUBLE SOLIDUS OVERLAY;RIGHTWARDS HARPOON WITH BARB DOWNWARDS"⟩,
   ⟨0x20ed, "COMBINING ",
     "LEFTWARDS HARPOON WITH BARB DOWNWARDS;LEFT ARROW BELOW;RIGHT ARROW BELOW;ASTERISK ABOVE"⟩]

/-- The names in the block Letterlike Symbols. -/
def letterlikeSymbols : List NameRun :=
  [⟨0x2100, "", "ACCOUNT OF;ADDRESSED TO THE SUBJECT;DOUBLE-STRUCK CAPITAL C;DEGREE CELSIUS"⟩,
   ⟨0x2104, "", "CENTRE LINE SYMBOL;CARE OF;CADA UNA;EULER CONSTANT;SCRUPLE;DEGREE FAHRENHEIT"⟩,
   ⟨0x210a, "", "SCRIPT SMALL G;SCRIPT CAPITAL H;BLACK-LETTER CAPITAL H;DOUBLE-STRUCK CAPITAL H"⟩,
   ⟨0x210e, "", "PLANCK CONSTANT;PLANCK CONSTANT OVER TWO PI;SCRIPT CAPITAL I"⟩,
   ⟨0x2111, "", "BLACK-LETTER CAPITAL I;SCRIPT CAPITAL L;SCRIPT SMALL L;L B BAR SYMBOL"⟩,
   ⟨0x2115, "", "DOUBLE-STRUCK CAPITAL N;NUMERO SIGN;SOUND RECORDING COPYRIGHT;SCRIPT CAPITAL P"⟩,
   ⟨0x2119, "", "DOUBLE-STRUCK CAPITAL P;DOUBLE-STRUCK CAPITAL Q;SCRIPT CAPITAL R"⟩,
   ⟨0x211c, "", "BLACK-LETTER CAPITAL R;DOUBLE-STRUCK CAPITAL R;PRESCRIPTION TAKE;RESPONSE"⟩,
   ⟨0x2120, "", "SERVICE MARK;TELEPHONE SIGN;TRADE MARK SIGN;VERSICLE;DOUBLE-STRUCK CAPITAL Z"⟩,
   ⟨0x2125, "", "OUNCE SIGN;OHM SIGN;INVERTED OHM SIGN;BLACK-LETTER CAPITAL Z"⟩,
   ⟨0x2129, "", "TURNED GREEK SMALL LETTER IOTA;KELVIN SIGN;ANGSTROM SIGN;SCRIPT CAPITAL B"⟩,
   ⟨0x212d, "", "BLACK-LETTER CAPITAL C;ESTIMATED SYMBOL;SCRIPT SMALL E;SCRIPT CAPITAL E"⟩,
   ⟨0x2131, "", "SCRIPT CAPITAL F;TURNED CAPITAL F;SCRIPT CAPITAL M;SCRIPT SMALL O;ALEF SYMBOL"⟩,
   ⟨0x2136, "",
     "BET SYMBOL;GIMEL SYMBOL;DALET SYMBOL;INFORMATION SOURCE;ROTATED CAPITAL Q;FACSIMILE SIGN"⟩,
   ⟨0x213c, "DOUBLE-STRUCK ", "SMALL PI;SMALL GAMMA;CAPITAL GAMMA;CAPITAL PI;N-ARY SUMMATION"⟩,
   ⟨0x2141, "TURNED SANS-SERIF CAPITAL ", "G;L"⟩,
   ⟨0x2143, "", "REVERSED SANS-SERIF CAPITAL L;TURNED SANS-SERIF CAPITAL Y"⟩,
   ⟨0x2145, "DOUBLE-STRUCK ITALIC ", "CAPITAL D;SMALL D;SMALL E;SMALL I"⟩,
   ⟨0x2149, "", "DOUBLE-STRUCK ITALIC SMALL J;PROPERTY LINE;TURNED AMPERSAND"⟩,
   ⟨0x214c, "", "PER SIGN;AKTIESELSKAB;TURNED SMALL F;SYMBOL FOR SAMARITAN SOURCE"⟩]

/-- The names in the block Number Forms. -/
def numberForms : List NameRun :=
  [⟨0x2150, "VULGAR FRACTION ", "ONE SEVENTH;ONE NINTH;ONE TENTH;ONE THIRD;TWO THIRDS"⟩,
   ⟨0x2155, "VULGAR FRACTION ", "ONE FIFTH;TWO FIFTHS;THREE FIFTHS;FOUR FIFTHS;ONE SIXTH"⟩,
   ⟨0x215a, "VULGAR FRACTION ", "FIVE SIXTHS;ONE EIGHTH;THREE EIGHTHS;FIVE EIGHTHS;SEVEN EIGHTHS"⟩,
   ⟨0x215f, "", "FRACTION NUMERATOR ONE;ROMAN NUMERAL ONE;ROMAN NUMERAL TWO;ROMAN NUMERAL THREE"⟩,
   ⟨0x2163, "ROMAN NUMERAL ", "FOUR;FIVE;SIX;SEVEN;EIGHT;NINE;TEN;ELEVEN;TWELVE;FIFTY;ONE HUNDRED"⟩,
   ⟨0x216e, "", "ROMAN NUMERAL FIVE HUNDRED;ROMAN NUMERAL ONE THOUSAND;SMALL ROMAN NUMERAL ONE"⟩,
   ⟨0x2171, "SMALL ROMAN NUMERAL ", "TWO;THREE;FOUR;FIVE;SIX;SEVEN;EIGHT;NINE;TEN"⟩,
   ⟨0x217a, "SMALL ROMAN NUMERAL ", "ELEVEN;TWELVE;FIFTY;ONE HUNDRED;FIVE HUNDRED;ONE THOUSAND"⟩,
   ⟨0x2180, "ROMAN NUMERAL ", "ONE THOUSAND C D;FIVE THOUSAND;TEN THOUSAND"⟩,
   ⟨0x2183, "", "ROMAN NUMERAL REVERSED ONE HUNDRED;LATIN SMALL LETTER REVERSED C"⟩,
   ⟨0x2185, "ROMAN NUMERAL ", "SIX LATE FORM;FIFTY EARLY FORM;FIFTY THOUSAND;ONE HUNDRED THOUSAND"⟩,
   ⟨0x2189, "", "VULGAR FRACTION ZERO THIRDS;TURNED DIGIT TWO;TURNED DIGIT THREE"⟩]

/-- The names in the block Arrows. -/
def arrows : List NameRun :=
  [⟨0x2190, "", "LEFTWARDS ARROW;UPWARDS ARROW"⟩,
   ⟨0x2192, "", "RIGHTWARDS ARROW;DOWNWARDS ARROW;LEFT RIGHT ARROW;UP DOWN ARROW;NORTH WEST ARROW"⟩,
   ⟨0x2197, "", "NORTH EAST ARROW;SOUTH EAST ARROW;SOUTH WEST ARROW;LEFTWARDS ARROW WITH STROKE"⟩,
   ⟨0x219b, "", "RIGHTWARDS ARROW WITH STROKE;LEFTWARDS WAVE ARROW;RIGHTWARDS WAVE ARROW"⟩,
   ⟨0x219e, "", "LEFTWARDS TWO HEADED ARROW;UPWARDS TWO HEADED ARROW;RIGHTWARDS TWO HEADED ARROW"⟩,
   ⟨0x21a1, "", "DOWNWARDS TWO HEADED ARROW;LEFTWARDS ARROW WITH TAIL;RIGHTWARDS ARROW WITH TAIL"⟩,
   ⟨0x21a4, "", "LEFTWARDS ARROW FROM BAR;UPWARDS ARROW FROM BAR;RIGHTWARDS ARROW FROM BAR"⟩,
   ⟨0x21a7, "", "DOWNWARDS ARROW FROM BAR;UP DOWN ARROW WITH BASE;LEFTWARDS ARROW WITH HOOK"⟩,
   ⟨0x21aa, "", "RIGHTWARDS ARROW WITH HOOK;LEFTWARDS ARROW WITH LOOP;RIGHTWARDS ARROW WITH LOOP"⟩,
   ⟨0x21ad, "", "LEFT RIGHT WAVE ARROW;LEFT RIGHT ARROW WITH STROKE;DOWNWARDS ZIGZAG ARROW"⟩,
   ⟨0x21b0, "UPWARDS ARROW WITH TIP ", "LEFTWARDS;RIGHTWARDS"⟩,
   ⟨0x21b2, "DOWNWARDS ARROW WITH TIP ", "LEFTWARDS;RIGHTWARDS"⟩,
   ⟨0x21b4, "", "RIGHTWARDS ARROW WITH CORNER DOWNWARDS;DOWNWARDS ARROW WITH CORNER LEFTWARDS"⟩,
   ⟨0x21b6, "", "ANTICLOCKWISE TOP SEMICIRCLE ARROW;CLOCKWISE TOP SEMICIRCLE ARROW"⟩,
   ⟨0x21b8, "", "NORTH WEST ARROW TO LONG BAR;LEFTWARDS ARROW TO BAR OVER RIGHTWARDS ARROW TO BAR"⟩,
   ⟨0x21ba, "ANTICLOCKWISE OPEN CIRCLE ARROW", ""⟩,
   ⟨0x21bb, "", "CLOCKWISE OPEN CIRCLE ARROW;LEFTWARDS HARPOON WITH BARB UPWARDS"⟩,
   ⟨0x21bd, "", "LEFTWARDS HARPOON WITH BARB DOWNWARDS;UPWARDS HARPOON WITH BARB RIGHTWARDS"⟩,
   ⟨0x21bf, "", "UPWARDS HARPOON WITH BARB LEFTWARDS;RIGHTWARDS HARPOON WITH BARB UPWARDS"⟩,
   ⟨0x21c1, "", "RIGHTWARDS HARPOON WITH BARB DOWNWARDS;DOWNWARDS HARPOON WITH BARB RIGHTWARDS"⟩,
   ⟨0x21c3, "", "DOWNWARDS HARPOON WITH BARB LEFTWARDS;RIGHTWARDS ARROW OVER LEFTWARDS ARROW"⟩,
   ⟨0x21c5, "", "UPWARDS ARROW LEFTWARDS OF DOWNWARDS ARROW;LEFTWARDS ARROW OVER RIGHTWARDS ARROW"⟩,
   ⟨0x21c7, "", "LEFTWARDS PAIRED ARROWS;UPWARDS PAIRED ARROWS;RIGHTWARDS PAIRED ARROWS"⟩,
   ⟨0x21ca, "", "DOWNWARDS PAIRED ARROWS;LEFTWARDS HARPOON OVER RIGHTWARDS HARPOON"⟩,
   ⟨0x21cc, "", "RIGHTWARDS HARPOON OVER LEFTWARDS HARPOON;LEFTWARDS DOUBLE ARROW WITH STROKE"⟩,
   ⟨0x21ce, "", "LEFT RIGHT DOUBLE ARROW WITH STROKE;RIGHTWARDS DOUBLE ARROW WITH STROKE"⟩,
   ⟨0x21d0, "", "LEFTWARDS DOUBLE ARROW;UPWARDS DOUBLE ARROW;RIGHTWARDS DOUBLE ARROW"⟩,
   ⟨0x21d3, "", "DOWNWARDS DOUBLE ARROW;LEFT RIGHT DOUBLE ARROW;UP DOWN DOUBLE ARROW"⟩,
   ⟨0x21d6, "", "NORTH WEST DOUBLE ARROW;NORTH EAST DOUBLE ARROW;SOUTH EAST DOUBLE ARROW"⟩,
   ⟨0x21d9, "", "SOUTH WEST DOUBLE ARROW;LEFTWARDS TRIPLE ARROW;RIGHTWARDS TRIPLE ARROW"⟩,
   ⟨0x21dc, "",
     "LEFTWARDS SQUIGGLE ARROW;RIGHTWARDS SQUIGGLE ARROW;UPWARDS ARROW WITH DOUBLE STROKE"⟩,
   ⟨0x21df, "", "DOWNWARDS ARROW WITH DOUBLE STROKE;LEFTWARDS DASHED ARROW;UPWARDS DASHED ARROW"⟩,
   ⟨0x21e2, "", "RIGHTWARDS DASHED ARROW;DOWNWARDS DASHED ARROW;LEFTWARDS ARROW TO BAR"⟩,
   ⟨0x21e5, "", "RIGHTWARDS ARROW TO BAR;LEFTWARDS WHITE ARROW;UPWARDS WHITE ARROW"⟩,
   ⟨0x21e8, "", "RIGHTWARDS WHITE ARROW;DOWNWARDS WHITE ARROW;UPWARDS WHITE ARROW FROM BAR"⟩,
   ⟨0x21eb, "UPWARDS WHITE ARROW ON PEDESTAL", "; WITH HORIZONTAL BAR; WITH VERTICAL BAR"⟩,
   ⟨0x21ee, "UPWARDS WHITE DOUBLE ARROW", "; ON PEDESTAL"⟩,
   ⟨0x21f0, "", "RIGHTWARDS WHITE ARROW FROM WALL;NORTH WEST ARROW TO CORNER"⟩,
   ⟨0x21f2, "", "SOUTH EAST ARROW TO CORNER;UP DOWN WHITE ARROW;RIGHT ARROW WITH SMALL CIRCLE"⟩,
   ⟨0x21f5, "", "DOWNWARDS ARROW LEFTWARDS OF UPWARDS ARROW;THREE RIGHTWARDS ARROWS"⟩,
   ⟨0x21f7, "", "LEFTWARDS ARROW WITH VERTICAL STROKE;RIGHTWARDS ARROW WITH VERTICAL STROKE"⟩,
   ⟨0x21f9, "LEFT", " RIGHT ARROW WITH VERTICAL STROKE;WARDS ARROW WITH DOUBLE VERTICAL STROKE"⟩,
   ⟨0x21fb, "RIGHTWARDS ARROW WITH DOUBLE VERTICAL STROKE", ""⟩,
   ⟨0x21fc, "LEFT", " RIGHT ARROW WITH DOUBLE VERTICAL STROKE;WARDS OPEN-HEADED ARROW"⟩,
   ⟨0x21fe, "", "RIGHTWARDS OPEN-HEADED ARROW;LEFT RIGHT OPEN-HEADED ARROW"⟩]

/-- The names in the block Mathematical Operators. -/
def mathematicalOperators : List NameRun :=
  [⟨0x2200, "", "FOR ALL;COMPLEMENT;PARTIAL DIFFERENTIAL"⟩,
   ⟨0x2203, "", "THERE EXISTS;THERE DOES NOT EXIST;EMPTY SET;INCREMENT;NABLA;ELEMENT OF"⟩,
   ⟨0x2209, "", "NOT AN ELEMENT OF;SMALL ELEMENT OF;CONTAINS AS MEMBER;DOES NOT CONTAIN AS MEMBER"⟩,
   ⟨0x220d, "", "SMALL CONTAINS AS MEMBER;END OF PROOF;N-ARY PRODUCT;N-ARY COPRODUCT"⟩,
   ⟨0x2211, "", "N-ARY SUMMATION;MINUS SIGN;MINUS-OR-PLUS SIGN;DOT PLUS;DIVISION SLASH"⟩,
   ⟨0x2216, "", "SET MINUS;ASTERISK OPERATOR;RING OPERATOR;BULLET OPERATOR;SQUARE ROOT"⟩,
   ⟨0x221b, "", "CUBE ROOT;FOURTH ROOT;PROPORTIONAL TO;INFINITY;RIGHT ANGLE;ANGLE;MEASURED ANGLE"⟩,
   ⟨0x2222, "", "SPHERICAL ANGLE;DIVIDES;DOES NOT DIVIDE;PARALLEL TO;NOT PARALLEL TO;LOGICAL AND"⟩,
   ⟨0x2228, "", "LOGICAL OR;INTERSECTION;UNION;INTEGRAL;DOUBLE INTEGRAL;TRIPLE INTEGRAL"⟩,
   ⟨0x222e, "", "CONTOUR INTEGRAL;SURFACE INTEGRAL;VOLUME INTEGRAL;CLOCKWISE INTEGRAL"⟩,
   ⟨0x2232, "", "CLOCKWISE CONTOUR INTEGRAL;ANTICLOCKWISE CONTOUR INTEGRAL;THEREFORE"⟩,
   ⟨0x2235, "", "BECAUSE;RATIO;PROPORTION;DOT MINUS;EXCESS;GEOMETRIC PROPORTION;HOMOTHETIC"⟩,
   ⟨0x223c, "", "TILDE OPERATOR;REVERSED TILDE;INVERTED LAZY S;SINE WAVE;WREATH PRODUCT"⟩,
   ⟨0x2241, "", "NOT TILDE;MINUS TILDE;ASYMPTOTICALLY EQUAL TO;NOT ASYMPTOTICALLY EQUAL TO"⟩,
   ⟨0x2245, "APPROXIMATELY ", "EQUAL TO;BUT NOT ACTUALLY EQUAL TO"⟩,
   ⟨0x2247, "", "NEITHER APPROXIMATELY NOR ACTUALLY EQUAL TO;ALMOST EQUAL TO;NOT ALMOST EQUAL TO"⟩,
   ⟨0x224a, "", "ALMOST EQUAL OR EQUAL TO;TRIPLE TILDE;ALL EQUAL TO;EQUIVALENT TO"⟩,
   ⟨0x224e, "", "GEOMETRICALLY EQUIVALENT TO;DIFFERENCE BETWEEN;APPROACHES THE LIMIT"⟩,
   ⟨0x2251, "", "GEOMETRICALLY EQUAL TO;APPROXIMATELY EQUAL TO OR THE IMAGE OF"⟩,
   ⟨0x2253, "", "IMAGE OF OR APPROXIMATELY EQUAL TO;COLON EQUALS;EQUALS COLON;RING IN EQUAL TO"⟩,
   ⟨0x2257, "", "RING EQUAL TO;CORRESPONDS TO;ESTIMATES;EQUIANGULAR TO;STAR EQUALS;DELTA EQUAL TO"⟩,
   ⟨0x225d, "", "EQUAL TO BY DEFINITION;MEASURED BY;QUESTIONED EQUAL TO;NOT EQUAL TO"⟩,
   ⟨0x2261, "", "IDENTICAL TO;NOT IDENTICAL TO;STRICTLY EQUIVALENT TO;LESS-THAN OR EQUAL TO"⟩,
   ⟨0x2265, "", "GREATER-THAN OR EQUAL TO;LESS-THAN OVER EQUAL TO;GREATER-THAN OVER EQUAL TO"⟩,
   ⟨0x2268, "", "LESS-THAN BUT NOT EQUAL TO;GREATER-THAN BUT NOT EQUAL TO"⟩,
   ⟨0x226a, "", "MUCH LESS-THAN;MUCH GREATER-THAN;BETWEEN;NOT EQUIVALENT TO;NOT LESS-THAN"⟩,
   ⟨0x226f, "N", "OT GREATER-THAN;EITHER LESS-THAN NOR EQUAL TO;EITHER GREATER-THAN NOR EQUAL TO"⟩,
   ⟨0x2272, "", "LESS-THAN OR EQUIVALENT TO;GREATER-THAN OR EQUIVALENT TO"⟩,
   ⟨0x2274, "NEITHER ", "LESS-THAN NOR EQUIVALENT TO;GREATER-THAN NOR EQUIVALENT TO"⟩,
   ⟨0x2276, "", "LESS-THAN OR GREATER-THAN;GREATER-THAN OR LESS-THAN"⟩,
   ⟨0x2278, "", "NEITHER LESS-THAN NOR GREATER-THAN;NEITHER GREATER-THAN NOR LESS-THAN;PRECEDES"⟩,
   ⟨0x227b, "", "SUCCEEDS;PRECEDES OR EQUAL TO;SUCCEEDS OR EQUAL TO"⟩,
   ⟨0x227e, "", "PRECEDES OR EQUIVALENT TO;SUCCEEDS OR EQUIVALENT TO;DOES NOT PRECEDE"⟩,
   ⟨0x2281, "", "DOES NOT SUCCEED;SUBSET OF;SUPERSET OF;NOT A SUBSET OF;NOT A SUPERSET OF"⟩,
   ⟨0x2286, "", "SUBSET OF OR EQUAL TO;SUPERSET OF OR EQUAL TO;NEITHER A SUBSET OF NOR EQUAL TO"⟩,
   ⟨0x2289, "", "NEITHER A SUPERSET OF NOR EQUAL TO;SUBSET OF WITH NOT EQUAL TO"⟩,
   ⟨0x228b, "", "SUPERSET OF WITH NOT EQUAL TO;MULTISET;MULTISET MULTIPLICATION"⟩,
   ⟨0x228e, "", "MULTISET UNION;SQUARE IMAGE OF;SQUARE ORIGINAL OF;SQUARE IMAGE OF OR EQUAL TO"⟩,
   ⟨0x2292, "", "SQUARE ORIGINAL OF OR EQUAL TO;SQUARE CAP;SQUARE CUP;CIRCLED PLUS;CIRCLED MINUS"⟩,
   ⟨0x2297, "CIRCLED ", "TIMES;DIVISION SLASH;DOT OPERATOR;RING OPERATOR;ASTERISK OPERATOR;EQUALS"⟩,
   ⟨0x229d, "", "CIRCLED DASH;SQUARED PLUS;SQUARED MINUS;SQUARED TIMES;SQUARED DOT OPERATOR"⟩,
   ⟨0x22a2, "", "RIGHT TACK;LEFT TACK;DOWN TACK;UP TACK;ASSERTION;MODELS;TRUE;FORCES"⟩,
   ⟨0x22aa, "", "TRIPLE VERTICAL BAR RIGHT TURNSTILE;DOUBLE VERTICAL BAR DOUBLE RIGHT TURNSTILE"⟩,
   ⟨0x22ac, "", "DOES NOT PROVE;NOT TRUE;DOES NOT FORCE"⟩,
   ⟨0x22af, "", "NEGATED DOUBLE VERTICAL BAR DOUBLE RIGHT TURNSTILE;PRECEDES UNDER RELATION"⟩,
   ⟨0x22b1, "", "SUCCEEDS UNDER RELATION;NORMAL SUBGROUP OF;CONTAINS AS NORMAL SUBGROUP"⟩,
   ⟨0x22b4, "", "NORMAL SUBGROUP OF OR EQUAL TO;CONTAINS AS NORMAL SUBGROUP OR EQUAL TO"⟩,
   ⟨0x22b6, "", "ORIGINAL OF;IMAGE OF;MULTIMAP;HERMITIAN CONJUGATE MATRIX"⟩,
   ⟨0x22ba, "", "INTERCALATE;XOR;NAND;NOR;RIGHT ANGLE WITH ARC;RIGHT TRIANGLE;N-ARY LOGICAL AND"⟩,
   ⟨0x22c1, "", "N-ARY LOGICAL OR;N-ARY INTERSECTION;N-ARY UNION;DIAMOND OPERATOR;DOT OPERATOR"⟩,
   ⟨0x22c6, "", "STAR OPERATOR;DIVISION TIMES;BOWTIE;LEFT NORMAL FACTOR SEMIDIRECT PRODUCT"⟩,
   ⟨0x22ca, "", "RIGHT NORMAL FACTOR SEMIDIRECT PRODUCT;LEFT SEMIDIRECT PRODUCT"⟩,
   ⟨0x22cc, "", "RIGHT SEMIDIRECT PRODUCT;REVERSED TILDE EQUALS;CURLY LOGICAL OR"⟩,
   ⟨0x22cf, "", "CURLY LOGICAL AND;DOUBLE SUBSET;DOUBLE SUPERSET;DOUBLE INTERSECTION"⟩,
   ⟨0x22d3, "", "DOUBLE UNION;PITCHFORK;EQUAL AND PARALLEL TO;LESS-THAN WITH DOT"⟩,
   ⟨0x22d7, "", "GREATER-THAN WITH DOT;VERY MUCH LESS-THAN;VERY MUCH GREATER-THAN"⟩,
   ⟨0x22da, "", "LESS-THAN EQUAL TO OR GREATER-THAN;GREATER-THAN EQUAL TO OR LESS-THAN"⟩,
   ⟨0x22dc, "EQUAL TO OR ", "LESS-THAN;GREATER-THAN;PRECEDES"⟩,
   ⟨0x22df, "", "EQUAL TO OR SUCCEEDS;DOES NOT PRECEDE OR EQUAL;DOES NOT SUCCEED OR EQUAL"⟩,
   ⟨0x22e2, "NOT SQUARE ", "IMAGE OF OR EQUAL TO;ORIGINAL OF OR EQUAL TO"⟩,
   ⟨0x22e4, "SQUARE ", "IMAGE OF OR NOT EQUAL TO;ORIGINAL OF OR NOT EQUAL TO"⟩,
   ⟨0x22e6, "", "LESS-THAN BUT NOT EQUIVALENT TO;GREATER-THAN BUT NOT EQUIVALENT TO"⟩,
   ⟨0x22e8, "", "PRECEDES BUT NOT EQUIVALENT TO;SUCCEEDS BUT NOT EQUIVALENT TO"⟩,
   ⟨0x22ea, "", "NOT NORMAL SUBGROUP OF;DOES NOT CONTAIN AS NORMAL SUBGROUP"⟩,
   ⟨0x22ec, "", "NOT NORMAL SUBGROUP OF OR EQUAL TO;DOES NOT CONTAIN AS NORMAL SUBGROUP OR EQUAL"⟩,
   ⟨0x22ee, "", "VERTICAL ELLIPSIS;MIDLINE HORIZONTAL ELLIPSIS"⟩,
   ⟨0x22f0, "", "UP RIGHT DIAGONAL ELLIPSIS;DOWN RIGHT DIAGONAL ELLIPSIS"⟩,
   ⟨0x22f2, "ELEMENT OF WITH ", "LONG HORIZONTAL STROKE;VERTICAL BAR AT END OF HORIZONTAL STROKE"⟩,
   ⟨0x22f4, "SMALL ELEMENT OF WITH VERTICAL BAR AT END OF HORIZONTAL STROKE", ""⟩,
   ⟨0x22f5, "", "ELEMENT OF WITH DOT ABOVE;ELEMENT OF WITH OVERBAR;SMALL ELEMENT OF WITH OVERBAR"⟩,
   ⟨0x22f8, "ELEMENT OF WITH ", "UNDERBAR;TWO HORIZONTAL STROKES"⟩,
   ⟨0x22fa, "CONTAINS WITH ", "LONG HORIZONTAL STROKE;VERTICAL BAR AT END OF HORIZONTAL STROKE"⟩,
   ⟨0x22fc, "SMALL CONTAINS WITH VERTICAL BAR AT END OF HORIZONTAL STROKE", ""⟩,
   ⟨0x22fd, "", "CONTAINS WITH OVERBAR;SMALL CONTAINS WITH OVERBAR;Z NOTATION BAG MEMBERSHIP"⟩]

/-- The names in the block Miscellaneous Technical. -/
def miscellaneousTechnical : List NameRun :=
  [⟨0x2300, "", "DIAMETER SIGN;ELECTRIC ARROW;HOUSE;UP ARROWHEAD;DOWN ARROWHEAD"⟩,
   ⟨0x2305, "", "PROJECTIVE;PERSPECTIVE;WAVY LINE;LEFT CEILING;RIGHT CEILING;LEFT FLOOR"⟩,
   ⟨0x230b, "", "RIGHT FLOOR;BOTTOM RIGHT CROP;BOTTOM LEFT CROP;TOP RIGHT CROP;TOP LEFT CROP"⟩,
   ⟨0x2310, "", "REVERSED NOT SIGN;SQUARE LOZENGE;ARC;SEGMENT;SECTOR;TELEPHONE RECORDER"⟩,
   ⟨0x2316, "", "POSITION INDICATOR;VIEWDATA SQUARE;PLACE OF INTEREST SIGN;TURNED NOT SIGN"⟩,
   ⟨0x231a, "", "WATCH;HOURGLASS;TOP LEFT CORNER;TOP RIGHT CORNER;BOTTOM LEFT CORNER"⟩,
   ⟨0x231f, "", "BOTTOM RIGHT CORNER;TOP HALF INTEGRAL;BOTTOM HALF INTEGRAL;FROWN"⟩,
   ⟨0x2323, "", "SMILE;UP ARROWHEAD BETWEEN TWO HORIZONTAL BARS;OPTION KEY;ERASE TO THE RIGHT"⟩,
   ⟨0x2327, "",
     "X IN A RECTANGLE BOX;KEYBOARD;LEFT-POINTING ANGLE BRACKET;RIGHT-POINTING ANGLE BRACKET"⟩,
   ⟨0x232b, "", "ERASE TO THE LEFT;BENZENE RING;CYLINDRICITY;ALL AROUND-PROFILE;SYMMETRY"⟩,
   ⟨0x2330, "", "TOTAL RUNOUT;DIMENSION ORIGIN;CONICAL TAPER;SLOPE;COUNTERBORE;COUNTERSINK"⟩,
   ⟨0x2336, "APL FUNCTIONAL SYMBOL ", "I-BEAM;SQUISH QUAD;QUAD EQUAL;QUAD DIVIDE;QUAD DIAMOND"⟩,
   ⟨0x233b, "APL FUNCTIONAL SYMBOL ", "QUAD JOT;QUAD CIRCLE;CIRCLE STILE;CIRCLE JOT;SLASH BAR"⟩,
   ⟨0x2340, "APL FUNCTIONAL SYMBOL ", "BACKSLASH BAR;QUAD SLASH;QUAD BACKSLASH;QUAD LESS-THAN"⟩,
   ⟨0x2344, "APL FUNCTIONAL SYMBOL ", "QUAD GREATER-THAN;LEFTWARDS VANE;RIGHTWARDS VANE"⟩,
   ⟨0x2347, "APL FUNCTIONAL SYMBOL ",
     "QUAD LEFTWARDS ARROW;QUAD RIGHTWARDS ARROW;CIRCLE BACKSLASH;DOWN TACK UNDERBAR;DELTA STILE"⟩,
   ⟨0x234c, "APL FUNCTIONAL SYMBOL ", "QUAD DOWN CARET;QUAD DELTA;DOWN TACK JOT;UPWARDS VANE"⟩,
   ⟨0x2350, "APL FUNCTIONAL SYMBOL ", "QUAD UPWARDS ARROW;UP TACK OVERBAR;DEL STILE;QUAD UP CARET"⟩,
   ⟨0x2354, "APL FUNCTIONAL SYMBOL ", "QUAD DEL;UP TACK JOT;DOWNWARDS VANE;QUAD DOWNWARDS ARROW"⟩,
   ⟨0x2358, "APL FUNCTIONAL SYMBOL ",
     "QUOTE UNDERBAR;DELTA UNDERBAR;DIAMOND UNDERBAR;JOT UNDERBAR;CIRCLE UNDERBAR;UP SHOE JOT"⟩,
   ⟨0x235e, "APL FUNCTIONAL SYMBOL ", "QUOTE QUAD;CIRCLE STAR;QUAD COLON;UP TACK DIAERESIS"⟩,
   ⟨0x2362, "APL FUNCTIONAL SYMBOL ",
     "DEL DIAERESIS;STAR DIAERESIS;JOT DIAERESIS;CIRCLE DIAERESIS;DOWN SHOE STILE;LEFT SHOE STILE"⟩,
   ⟨0x2368, "APL FUNCTIONAL SYMBOL ", "TILDE DIAERESIS;GREATER-THAN DIAERESIS;COMMA BAR;DEL TILDE"⟩,
   ⟨0x236c, "APL FUNCTIONAL SYMBOL ", "ZILDE;STILE TILDE;SEMICOLON UNDERBAR;QUAD NOT EQUAL"⟩,
   ⟨0x2370, "APL FUNCTIONAL SYMBOL ", "QUAD QUESTION;DOWN CARET TILDE;UP CARET TILDE"⟩,
   ⟨0x2373, "APL FUNCTIONAL SYMBOL ",
     "IOTA;RHO;OMEGA;ALPHA UNDERBAR;EPSILON UNDERBAR;IOTA UNDERBAR;OMEGA UNDERBAR;ALPHA"⟩,
   ⟨0x237b, "", "NOT CHECK MARK;RIGHT ANGLE WITH DOWNWARDS ZIGZAG ARROW"⟩,
   ⟨0x237d, "", "SHOULDERED OPEN BOX;BELL SYMBOL;VERTICAL LINE WITH MIDDLE DOT;INSERTION SYMBOL"⟩,
   ⟨0x2381, "", "CONTINUOUS UNDERLINE SYMBOL;DISCONTINUOUS UNDERLINE SYMBOL;EMPHASIS SYMBOL"⟩,
   ⟨0x2384, "", "COMPOSITION SYMBOL;WHITE SQUARE WITH CENTRE VERTICAL LINE;ENTER SYMBOL"⟩,
   ⟨0x2387, "", "ALTERNATIVE KEY SYMBOL;HELM SYMBOL;CIRCLED HORIZONTAL BAR WITH NOTCH"⟩,
   ⟨0x238a, "", "CIRCLED TRIANGLE DOWN;BROKEN CIRCLE WITH NORTHWEST ARROW;UNDO SYMBOL"⟩,
   ⟨0x238d, "", "MONOSTABLE SYMBOL;HYSTERESIS SYMBOL;OPEN-CIRCUIT-OUTPUT H-TYPE SYMBOL"⟩,
   ⟨0x2390, "", "OPEN-CIRCUIT-OUTPUT L-TYPE SYMBOL;PASSIVE-PULL-DOWN-OUTPUT SYMBOL"⟩,
   ⟨0x2392, "", "PASSIVE-PULL-UP-OUTPUT SYMBOL;DIRECT CURRENT SYMBOL FORM TWO"⟩,
   ⟨0x2394, "", "SOFTWARE-FUNCTION SYMBOL;APL FUNCTIONAL SYMBOL QUAD;DECIMAL SEPARATOR KEY SYMBOL"⟩,
   ⟨0x2397, "", "PREVIOUS PAGE;NEXT PAGE;PRINT SCREEN SYMBOL;CLEAR SCREEN SYMBOL"⟩,
   ⟨0x239b, "LEFT PARENTHESIS ", "UPPER HOOK;EXTENSION;LOWER HOOK"⟩,
   ⟨0x239e, "RIGHT PARENTHESIS ", "UPPER HOOK;EXTENSION;LOWER HOOK"⟩,
   ⟨0x23a1, "LEFT SQUARE BRACKET ", "UPPER CORNER;EXTENSION;LOWER CORNER"⟩,
   ⟨0x23a4, "RIGHT SQUARE BRACKET ", "UPPER CORNER;EXTENSION;LOWER CORNER"⟩,
   ⟨0x23a7, "LEFT CURLY BRACKET ", "UPPER HOOK;MIDDLE PIECE;LOWER HOOK"⟩,
   ⟨0x23aa, "", "CURLY BRACKET EXTENSION;RIGHT CURLY BRACKET UPPER HOOK"⟩,
   ⟨0x23ac, "",
     "RIGHT CURLY BRACKET MIDDLE PIECE;RIGHT CURLY BRACKET LOWER HOOK;INTEGRAL EXTENSION"⟩,
   ⟨0x23af, "", "HORIZONTAL LINE EXTENSION;UPPER LEFT OR LOWER RIGHT CURLY BRACKET SECTION"⟩,
   ⟨0x23b1, "", "UPPER RIGHT OR LOWER LEFT CURLY BRACKET SECTION;SUMMATION TOP;SUMMATION BOTTOM"⟩,
   ⟨0x23b4, "",
     "TOP SQUARE BRACKET;BOTTOM SQUARE BRACKET;BOTTOM SQUARE BRACKET OVER TOP SQUARE BRACKET"⟩,
   ⟨0x23b7, "", "RADICAL SYMBOL BOTTOM;LEFT VERTICAL BOX LINE;RIGHT VERTICAL BOX LINE"⟩,
   ⟨0x23ba, "HORIZONTAL SCAN LINE-", "1;3;7;9"⟩,
   ⟨0x23be, "DENTISTRY SYMBOL LIGHT VERTICAL ", "AND TOP RIGHT;AND BOTTOM RIGHT;WITH CIRCLE"⟩,
   ⟨0x23c1, "DENTISTRY SYMBOL LIGHT ",
     "DOWN AND HORIZONTAL WITH CIRCLE;UP AND HORIZONTAL WITH CIRCLE;VERTICAL WITH TRIANGLE"⟩,
   ⟨0x23c4, "DENTISTRY SYMBOL LIGHT ",
     "DOWN AND HORIZONTAL WITH TRIANGLE;UP AND HORIZONTAL WITH TRIANGLE;VERTICAL AND WAVE"⟩,
   ⟨0x23c7, "DENTISTRY SYMBOL LIGHT ", "DOWN AND HORIZONTAL WITH WAVE;UP AND HORIZONTAL WITH WAVE"⟩,
   ⟨0x23c9, "DENTISTRY SYMBOL LIGHT ",
     "DOWN AND HORIZONTAL;UP AND HORIZONTAL;VERTICAL AND TOP LEFT;VERTICAL AND BOTTOM LEFT"⟩,
   ⟨0x23cd, "", "SQUARE FOOT;RETURN SYMBOL;EJECT SYMBOL;VERTICAL LINE EXTENSION"⟩,
   ⟨0x23d1, "METRICAL ", "BREVE;LONG OVER SHORT;SHORT OVER LONG;LONG OVER TWO SHORTS"⟩,
   ⟨0x23d5, "METRICAL ", "TWO SHORTS OVER LONG;TWO SHORTS JOINED;TRISEME;TETRASEME;PENTASEME"⟩,
   ⟨0x23da, "", "EARTH GROUND;FUSE;TOP PARENTHESIS;BOTTOM PARENTHESIS"⟩,
   ⟨0x23de, "", "TOP CURLY BRACKET;BOTTOM CURLY BRACKET;TOP TORTOISE SHELL BRACKET"⟩,
   ⟨0x23e1, "", "BOTTOM TORTOISE SHELL BRACKET;WHITE TRAPEZIUM;BENZENE RING WITH CIRCLE"⟩,
   ⟨0x23e4, "", "STRAIGHTNESS;FLATNESS;AC CURRENT;ELECTRICAL INTERSECTION;DECIMAL EXPONENT SYMBOL"⟩,
   ⟨0x23e9, "BLACK ", "RIGHT-POINTING DOUBLE TRIANGLE;LEFT-POINTING DOUBLE TRIANGLE"⟩,
   ⟨0x23eb, "BLACK ", "UP-POINTING DOUBLE TRIANGLE;DOWN-POINTING DOUBLE TRIANGLE"⟩,
   ⟨0x23ed, "BLACK RIGHT-POINTING DOUBLE TRIANGLE WITH VERTICAL BAR", ""⟩,
   ⟨0x23ee, "BLACK LEFT-POINTING DOUBLE TRIANGLE WITH VERTICAL BAR", ""⟩,
   ⟨0x23ef, "", "BLACK RIGHT-POINTING TRIANGLE WITH DOUBLE VERTICAL BAR;ALARM CLOCK;STOPWATCH"⟩,
   ⟨0x23f2, "", "TIMER CLOCK;HOURGLASS WITH FLOWING SAND;BLACK MEDIUM LEFT-POINTING TRIANGLE"⟩,
   ⟨0x23f5, "BLACK MEDIUM ", "RIGHT-POINTING TRIANGLE;UP-POINTING TRIANGLE;DOWN-POINTING TRIANGLE"⟩,
   ⟨0x23f8, "", "DOUBLE VERTICAL BAR;BLACK SQUARE FOR STOP;BLACK CIRCLE FOR RECORD;POWER SYMBOL"⟩,
   ⟨0x23fc, "", "POWER ON-OFF SYMBOL;POWER ON SYMBOL;POWER SLEEP SYMBOL;OBSERVER EYE SYMBOL"⟩]

/-- All names of this module. -/
def punctuation : List NameRun :=
  List.flatten
    [generalPunctuation, superscriptsAndSubscripts, currencySymbols,
     combiningDiacriticalMarksForSymbols, letterlikeSymbols, numberForms, arrows,
     mathematicalOperators, miscellaneousTechnical]

end Names
end Unicode
end LiquidMarkdown
