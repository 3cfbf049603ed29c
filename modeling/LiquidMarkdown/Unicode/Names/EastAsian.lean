import LiquidMarkdown.Unicode.NameRun

/-!
# Names of characters: scripts of East Asia and others

* `eastAsian` — the names of radicals, kana, Yi and further scripts up to the ideographs.
-/

namespace LiquidMarkdown
namespace Unicode
namespace Names

/-- The names in the block Glagolitic. -/
def glagolitic : List NameRun :=
  [⟨0x2c00, "GLAGOLITIC CAPITAL LETTER ", "AZU;BUKY;VEDE;GLAGOLI;DOBRO;YESTU;ZHIVETE;DZELO"⟩,
   ⟨0x2c08, "GLAGOLITIC CAPITAL LETTER ", "ZEMLJA;IZHE;INITIAL IZHE;I;DJERVI;KAKO;LJUDIJE;MYSLITE"⟩,
   ⟨0x2c10, "GLAGOLITIC CAPITAL LETTER ", "NASHI;ONU;POKOJI;RITSI;SLOVO;TVRIDO;UKU;FRITU;HERU"⟩,
   ⟨0x2c19, "GLAGOLITIC CAPITAL LETTER ", "OTU;PE;SHTA;TSI;CHRIVI;SHA;YERU;YERI;YATI;SPIDERY HA"⟩,
   ⟨0x2c23, "GLAGOLITIC CAPITAL LETTER ", "YU;SMALL YUS;SMALL YUS WITH TAIL;YO;IOTATED SMALL YUS"⟩,
   ⟨0x2c28, "GLAGOLITIC CAPITAL LETTER ",
     "BIG YUS;IOTATED BIG YUS;FITA;IZHITSA;SHTAPIC;TROKUTASTI A;LATINATE MYSLITE;CAUDATE CHRIVI"⟩,
   ⟨0x2c30, "GLAGOLITIC SMALL LETTER ", "AZU;BUKY;VEDE;GLAGOLI;DOBRO;YESTU;ZHIVETE;DZELO"⟩,
   ⟨0x2c38, "GLAGOLITIC SMALL LETTER ", "ZEMLJA;IZHE;INITIAL IZHE;I;DJERVI;KAKO;LJUDIJE;MYSLITE"⟩,
   ⟨0x2c40, "GLAGOLITIC SMALL LETTER ", "NASHI;ONU;POKOJI;RITSI;SLOVO;TVRIDO;UKU;FRITU;HERU"⟩,
   ⟨0x2c49, "GLAGOLITIC SMALL LETTER ", "OTU;PE;SHTA;TSI;CHRIVI;SHA;YERU;YERI;YATI;SPIDERY HA"⟩,
   ⟨0x2c53, "GLAGOLITIC SMALL LETTER ", "YU;SMALL YUS;SMALL YUS WITH TAIL;YO;IOTATED SMALL YUS"⟩,
   ⟨0x2c58, "GLAGOLITIC SMALL LETTER ",
     "BIG YUS;IOTATED BIG YUS;FITA;IZHITSA;SHTAPIC;TROKUTASTI A;LATINATE MYSLITE;CAUDATE CHRIVI"⟩]

/-- The names in the block Latin Extended-C. -/
def latinExtendedC : List NameRun :=
  [⟨0x2c60, "LATIN ", "CAPITAL LETTER L WITH DOUBLE BAR;SMALL LETTER L WITH DOUBLE BAR"⟩,
   ⟨0x2c62, "LATIN CAPITAL LETTER ", "L WITH MIDDLE TILDE;P WITH STROKE;R WITH TAIL"⟩,
   ⟨0x2c65, "LATIN SMALL LETTER ", "A WITH STROKE;T WITH DIAGONAL STROKE"⟩,
   ⟨0x2c67, "LATIN ", "CAPITAL LETTER H WITH DESCENDER;SMALL LETTER H WITH DESCENDER"⟩,
   ⟨0x2c69, "LATIN ", "CAPITAL LETTER K WITH DESCENDER;SMALL LETTER K WITH DESCENDER"⟩,
   ⟨0x2c6b, "LATIN ", "CAPITAL LETTER Z WITH DESCENDER;SMALL LETTER Z WITH DESCENDER"⟩,
   ⟨0x2c6d, "LATIN CAPITAL LETTER ", "ALPHA;M WITH HOOK;TURNED A;TURNED ALPHA"⟩,
   ⟨0x2c71, "LATIN ", "SMALL LETTER V WITH RIGHT HOOK;CAPITAL LETTER W WITH HOOK"⟩,
   ⟨0x2c73, "LATIN ", "SMALL LETTER W WITH HOOK;SMALL LETTER V WITH CURL;CAPITAL LETTER HALF H"⟩,
   ⟨0x2c76, "LATIN SMALL LETTER ", "HALF H;TAILLESS PHI;E WITH NOTCH;TURNED R WITH TAIL"⟩,
   ⟨0x2c7a, "LATIN ", "SMALL LETTER O WITH LOW RING INSIDE;LETTER SMALL CAPITAL TURNED E"⟩,
   ⟨0x2c7c, "", "LATIN SUBSCRIPT SMALL LETTER J;MODIFIER LETTER CAPITAL V"⟩,
   ⟨0x2c7e, "LATIN CAPITAL LETTER ", "S WITH SWASH TAIL;Z WITH SWASH TAIL"⟩]

/-- The names in the block Coptic. -/
def coptic : List NameRun :=
  [⟨0x2c80, "COPTIC ", "CAPITAL LETTER ALFA;SMALL LETTER ALFA;CAPITAL LETTER VIDA"⟩,
   ⟨0x2c83, "COPTIC ", "SMALL LETTER VIDA;CAPITAL LETTER GAMMA;SMALL LETTER GAMMA"⟩,
   ⟨0x2c86, "COPTIC ", "CAPITAL LETTER DALDA;SMALL LETTER DALDA;CAPITAL LETTER EIE"⟩,
   ⟨0x2c89, "COPTIC ", "SMALL LETTER EIE;CAPITAL LETTER SOU;SMALL LETTER SOU;CAPITAL LETTER ZATA"⟩,
   ⟨0x2c8d, "COPTIC ", "SMALL LETTER ZATA;CAPITAL LETTER HATE;SMALL LETTER HATE"⟩,
   ⟨0x2c90, "COPTIC ", "CAPITAL LETTER THETHE;SMALL LETTER THETHE;CAPITAL LETTER IAUDA"⟩,
   ⟨0x2c93, "COPTIC ", "SMALL LETTER IAUDA;CAPITAL LETTER KAPA;SMALL LETTER KAPA"⟩,
   ⟨0x2c96, "COPTIC ", "CAPITAL LETTER LAULA;SMALL LETTER LAULA;CAPITAL LETTER MI;SMALL LETTER MI"⟩,
   ⟨0x2c9a, "COPTIC ", "CAPITAL LETTER NI;SMALL LETTER NI;CAPITAL LETTER KSI;SMALL LETTER KSI"⟩,
   ⟨0x2c9e, "COPTIC ", "CAPITAL LETTER O;SMALL LETTER O;CAPITAL LETTER PI;SMALL LETTER PI"⟩,
   ⟨0x2ca2, "COPTIC ", "CAPITAL LETTER RO;SMALL LETTER RO;CAPITAL LETTER SIMA;SMALL LETTER SIMA"⟩,
   ⟨0x2ca6, "COPTIC ", "CAPITAL LETTER TAU;SMALL LETTER TAU;CAPITAL LETTER UA;SMALL LETTER UA"⟩,
   ⟨0x2caa, "COPTIC ", "CAPITAL LETTER FI;SMALL LETTER FI;CAPITAL LETTER KHI;SMALL LETTER KHI"⟩,
   ⟨0x2cae, "COPTIC ", "CAPITAL LETTER PSI;SMALL LETTER PSI;CAPITAL LETTER OOU;SMALL LETTER OOU"⟩,
   ⟨0x2cb2, "COPTIC ", "CAPITAL LETTER DIALECT-P ALEF;SMALL LETTER DIALECT-P ALEF"⟩,
   ⟨0x2cb4, "COPTIC ", "CAPITAL LETTER OLD COPTIC AIN;SMALL LETTER OLD COPTIC AIN"⟩,
   ⟨0x2cb6, "COPTIC ", "CAPITAL LETTER CRYPTOGRAMMIC EIE;SMALL LETTER CRYPTOGRAMMIC EIE"⟩,
   ⟨0x2cb8, "COPTIC ", "CAPITAL LETTER DIALECT-P KAPA;SMALL LETTER DIALECT-P KAPA"⟩,
   ⟨0x2cba, "COPTIC ", "CAPITAL LETTER DIALECT-P NI;SMALL LETTER DIALECT-P NI"⟩,
   ⟨0x2cbc, "COPTIC ", "CAPITAL LETTER CRYPTOGRAMMIC NI;SMALL LETTER CRYPTOGRAMMIC NI"⟩,
   ⟨0x2cbe, "COPTIC ", "CAPITAL LETTER OLD COPTIC OOU;SMALL LETTER OLD COPTIC OOU"⟩,
   ⟨0x2cc0, "COPTIC ", "CAPITAL LETTER SAMPI;SMALL LETTER SAMPI;CAPITAL LETTER CROSSED SHEI"⟩,
   ⟨0x2cc3, "COPTIC ", "SMALL LETTER CROSSED SHEI;CAPITAL LETTER OLD COPTIC SHEI"⟩,
   ⟨0x2cc5, "COPTIC ", "SMALL LETTER OLD COPTIC SHEI;CAPITAL LETTER OLD COPTIC ESH"⟩,
   ⟨0x2cc7, "COPTIC ", "SMALL LETTER OLD COPTIC ESH;CAPITAL LETTER AKHMIMIC KHEI"⟩,
   ⟨0x2cc9, "COPTIC ", "SMALL LETTER AKHMIMIC KHEI;CAPITAL LETTER DIALECT-P HORI"⟩,
   ⟨0x2ccb, "COPTIC ", "SMALL LETTER DIALECT-P HORI;CAPITAL LETTER OLD COPTIC HORI"⟩,
   ⟨0x2ccd, "COPTIC ", "SMALL LETTER OLD COPTIC HORI;CAPITAL LETTER OLD COPTIC HA"⟩,
   ⟨0x2ccf, "COPTIC ", "SMALL LETTER OLD COPTIC HA;CAPITAL LETTER L-SHAPED HA"⟩,
   ⟨0x2cd1, "COPTIC ", "SMALL LETTER L-SHAPED HA;CAPITAL LETTER OLD COPTIC HEI"⟩,
   ⟨0x2cd3, "COPTIC ", "SMALL LETTER OLD COPTIC HEI;CAPITAL LETTER OLD COPTIC HAT"⟩,
   ⟨0x2cd5, "COPTIC ", "SMALL LETTER OLD COPTIC HAT;CAPITAL LETTER OLD COPTIC GANGIA"⟩,
   ⟨0x2cd7, "COPTIC ", "SMALL LETTER OLD COPTIC GANGIA;CAPITAL LETTER OLD COPTIC DJA"⟩,
   ⟨0x2cd9, "COPTIC ", "SMALL LETTER OLD COPTIC DJA;CAPITAL LETTER OLD COPTIC SHIMA"⟩,
   ⟨0x2cdb, "COPTIC ", "SMALL LETTER OLD COPTIC SHIMA;CAPITAL LETTER OLD NUBIAN SHIMA"⟩,
   ⟨0x2cdd, "COPTIC ", "SMALL LETTER OLD NUBIAN SHIMA;CAPITAL LETTER OLD NUBIAN NGI"⟩,
   ⟨0x2cdf, "COPTIC ", "SMALL LETTER OLD NUBIAN NGI;CAPITAL LETTER OLD NUBIAN NYI"⟩,
   ⟨0x2ce1, "COPTIC ",
     "SMALL LETTER OLD NUBIAN NYI;CAPITAL LETTER OLD NUBIAN WAU;SMALL LETTER OLD NUBIAN WAU"⟩,
   ⟨0x2ce4, "COPTIC SYMBOL ", "KAI;MI RO;PI RO;STAUROS;TAU RO;KHI RO;SHIMA SIMA"⟩,
   ⟨0x2ceb, "COPTIC ", "CAPITAL LETTER CRYPTOGRAMMIC SHEI;SMALL LETTER CRYPTOGRAMMIC SHEI"⟩,
   ⟨0x2ced, "COPTIC ", "CAPITAL LETTER CRYPTOGRAMMIC GANGIA;SMALL LETTER CRYPTOGRAMMIC GANGIA"⟩,
   ⟨0x2cef, "COPTIC COMBINING ", "NI ABOVE;SPIRITUS ASPER;SPIRITUS LENIS"⟩,
   ⟨0x2cf2, "COPTIC ", "CAPITAL LETTER BOHAIRIC KHEI;SMALL LETTER BOHAIRIC KHEI"⟩,
   ⟨0x2cf9, "COPTIC OLD NUBIAN ",
     "FULL STOP;DIRECT QUESTION MARK;INDIRECT QUESTION MARK;VERSE DIVIDER"⟩,
   ⟨0x2cfd, "COPTIC ", "FRACTION ONE HALF;FULL STOP;MORPHOLOGICAL DIVIDER"⟩]

/-- The names in the block Georgian Supplement. -/
def georgianSupplement : List NameRun :=
  [⟨0x2d00, "GEORGIAN SMALL LETTER ", "AN;BAN;GAN;DON;EN;VIN;ZEN;TAN;IN;KAN"⟩,
   ⟨0x2d0a, "GEORGIAN SMALL LETTER ", "LAS;MAN;NAR;ON;PAR;ZHAR;RAE;SAN;TAR;UN;PHAR;KHAR;GHAN;QAR"⟩,
   ⟨0x2d18, "GEORGIAN SMALL LETTER ", "SHIN;CHIN;CAN;JIL;CIL;CHAR;XAN;JHAN;HAE;HE;HIE;WE;HAR;HOE"⟩,
   ⟨0x2d27, "GEORGIAN SMALL LETTER YN", ""⟩,
   ⟨0x2d2d, "GEORGIAN SMALL LETTER AEN", ""⟩]

/-- The names in the block Tifinagh. -/
def tifinagh : List NameRun :=
  [⟨0x2d30, "TIFINAGH LETTER ", "YA;YAB;YABH;YAG;YAGHH;BERBER ACADEMY YAJ;YAJ;YAD;YADH"⟩,
   ⟨0x2d39, "TIFINAGH LETTER ", "YADD;YADDH;YEY;YAF;YAK;TUAREG YAK;YAKHH;YAH;BERBER ACADEMY YAH"⟩,
   ⟨0x2d42, "TIFINAGH LETTER ", "TUAREG YAH;YAHH;YAA;YAKH;TUAREG YAKH;YAQ;TUAREG YAQ;YI;YAZH"⟩,
   ⟨0x2d4b, "TIFINAGH LETTER ", "AHAGGAR YAZH;TUAREG YAZH;YAL;YAM;YAN;TUAREG YAGN;TUAREG YANG"⟩,
   ⟨0x2d52, "TIFINAGH LETTER ", "YAP;YU;YAR;YARR;YAGH;TUAREG YAGH;AYER YAGH;YAS;YASS;YASH"⟩,
   ⟨0x2d5c, "TIFINAGH LETTER ", "YAT;YATH;YACH;YATT;YAV;YAW;YAY;YAZ;TAWELLEMET YAZ;YAZZ;YE;YO"⟩,
   ⟨0x2d6f, "TIFINAGH ", "MODIFIER LETTER LABIALIZATION MARK;SEPARATOR MARK"⟩,
   ⟨0x2d7f, "TIFINAGH CONSONANT JOINER", ""⟩]

/-- The names in the block Ethiopic Extended. -/
def ethiopicExtended : List NameRun :=
  [⟨0x2d80, "ETHIOPIC SYLLABLE ", "LOA;MOA;ROA;SOA;SHOA;BOA;TOA;COA;NOA;NYOA;GLOTTAL OA"⟩,
   ⟨0x2d8b, "ETHIOPIC SYLLABLE ", "ZOA;DOA;DDOA;JOA;THOA;CHOA;PHOA;POA;GGWA;GGWI;GGWEE;GGWE"⟩,
   ⟨0x2da0, "ETHIOPIC SYLLABLE SS", "A;U;I;AA;EE;E;O"⟩,
   ⟨0x2da8, "ETHIOPIC SYLLABLE CC", "A;U;I;AA;EE;E;O"⟩,
   ⟨0x2db0, "ETHIOPIC SYLLABLE ZZ", "A;U;I;AA;EE;E;O"⟩,
   ⟨0x2db8, "ETHIOPIC SYLLABLE CCH", "A;U;I;AA;EE;E;O"⟩,
   ⟨0x2dc0, "ETHIOPIC SYLLABLE QY", "A;U;I;AA;EE;E;O"⟩,
   ⟨0x2dc8, "ETHIOPIC SYLLABLE KY", "A;U;I;AA;EE;E;O"⟩,
   ⟨0x2dd0, "ETHIOPIC SYLLABLE XY", "A;U;I;AA;EE;E;O"⟩,
   ⟨0x2dd8, "ETHIOPIC SYLLABLE GY", "A;U;I;AA;EE;E;O"⟩]

/-- The names in the block Cyrillic Extended-A. -/
def cyrillicExtendedA : List NameRun :=
  [⟨0x2de0, "COMBINING CYRILLIC LETTER ", "BE;VE;GHE;DE;ZHE;ZE;KA;EL;EM;EN;O;PE;ER;ES;TE;HA"⟩,
   ⟨0x2df0, "COMBINING CYRILLIC LETTER ", "TSE;CHE;SHA;SHCHA;FITA;ES-TE;A;IE;DJERV;MONOGRAPH UK"⟩,
   ⟨0x2dfa, "COMBINING CYRILLIC LETTER ", "YAT;YU;IOTIFIED A;LITTLE YUS;BIG YUS;IOTIFIED BIG YUS"⟩]

/-- The names in the block Supplemental Punctuation. -/
def supplementalPunctuation : List NameRun :=
  [⟨0x2e00, "RIGHT ANGLE ", "SUBSTITUTION MARKER;DOTTED SUBSTITUTION MARKER"⟩,
   ⟨0x2e02, "", "LEFT SUBSTITUTION BRACKET;RIGHT SUBSTITUTION BRACKET"⟩,
   ⟨0x2e04, "", "LEFT DOTTED SUBSTITUTION BRACKET;RIGHT DOTTED SUBSTITUTION BRACKET"⟩,
   ⟨0x2e06, "",
     "RAISED INTERPOLATION MARKER;RAISED DOTTED INTERPOLATION MARKER;DOTTED TRANSPOSITION MARKER"⟩,
   ⟨0x2e09, "", "LEFT TRANSPOSITION BRACKET;RIGHT TRANSPOSITION BRACKET;RAISED SQUARE"⟩,
   ⟨0x2e0c, "", "LEFT RAISED OMISSION BRACKET;RIGHT RAISED OMISSION BRACKET;EDITORIAL CORONIS"⟩,
   ⟨0x2e0f, "", "PARAGRAPHOS;FORKED PARAGRAPHOS;REVERSED FORKED PARAGRAPHOS;HYPODIASTOLE"⟩,
   ⟨0x2e13, "", "DOTTED OBELOS;DOWNWARDS ANCORA;UPWARDS ANCORA;DOTTED RIGHT-POINTING ANGLE"⟩,
   ⟨0x2e17, "", "DOUBLE OBLIQUE HYPHEN;INVERTED INTERROBANG;PALM BRANCH;HYPHEN WITH DIAERESIS"⟩,
   ⟨0x2e1b, "", "TILDE WITH RING ABOVE;LEFT LOW PARAPHRASE BRACKET;RIGHT LOW PARAPHRASE BRACKET"⟩,
   ⟨0x2e1e, "", "TILDE WITH DOT ABOVE;TILDE WITH DOT BELOW;LEFT VERTICAL BAR WITH QUILL"⟩,
   ⟨0x2e21, "", "RIGHT VERTICAL BAR WITH QUILL;TOP LEFT HALF BRACKET;TOP RIGHT HALF BRACKET"⟩,
   ⟨0x2e24, "", "BOTTOM LEFT HALF BRACKET;BOTTOM RIGHT HALF BRACKET;LEFT SIDEWAYS U BRACKET"⟩,
   ⟨0x2e27, "", "RIGHT SIDEWAYS U BRACKET;LEFT DOUBLE PARENTHESIS;RIGHT DOUBLE PARENTHESIS"⟩,
   ⟨0x2e2a, "", "TWO DOTS OVER ONE DOT PUNCTUATION;ONE DOT OVER TWO DOTS PUNCTUATION"⟩,
   ⟨0x2e2c, "", "SQUARED FOUR DOT PUNCTUATION;FIVE DOT MARK;REVERSED QUESTION MARK;VERTICAL TILDE"⟩,
   ⟨0x2e30, "", "RING POINT;WORD SEPARATOR MIDDLE DOT;TURNED COMMA;RAISED DOT;RAISED COMMA"⟩,
   ⟨0x2e35, "", "TURNED SEMICOLON;DAGGER WITH LEFT GUARD;DAGGER WITH RIGHT GUARD;TURNED DAGGER"⟩,
   ⟨0x2e39, "", "TOP HALF SECTION SIGN;TWO-EM DASH;THREE-EM DASH;STENOGRAPHIC FULL STOP"⟩,
   ⟨0x2e3d, "", "VERTICAL SIX DOTS;WIGGLY VERTICAL LINE;CAPITULUM;DOUBLE HYPHEN"⟩,
   ⟨0x2e41, "", "REVERSED COMMA;DOUBLE LOW-REVERSED-9 QUOTATION MARK;DASH WITH LEFT UPTURN"⟩,
   ⟨0x2e44, "", "DOUBLE SUSPENSION MARK;INVERTED LOW KAVYKA;INVERTED LOW KAVYKA WITH KAVYKA ABOVE"⟩,
   ⟨0x2e47, "", "LOW KAVYKA;LOW KAVYKA WITH DOT;DOUBLE STACKED COMMA;DOTTED SOLIDUS;TRIPLE DAGGER"⟩,
   ⟨0x2e4c, "", "MEDIEVAL COMMA;PARAGRAPHUS MARK;PUNCTUS ELEVATUS MARK;CORNISH VERSE DIVIDER"⟩,
   ⟨0x2e50, "CROSS PATTY WITH ", "RIGHT CROSSBAR;LEFT CROSSBAR"⟩,
   ⟨0x2e52, "", "TIRONIAN SIGN CAPITAL ET;MEDIEVAL EXCLAMATION MARK;MEDIEVAL QUESTION MARK"⟩,
   ⟨0x2e55, "", "LEFT SQUARE BRACKET WITH STROKE;RIGHT SQUARE BRACKET WITH STROKE"⟩,
   ⟨0x2e57, "", "LEFT SQUARE BRACKET WITH DOUBLE STROKE;RIGHT SQUARE BRACKET WITH DOUBLE STROKE"⟩,
   ⟨0x2e59, "TOP HALF ", "LEFT PARENTHESIS;RIGHT PARENTHESIS"⟩,
   ⟨0x2e5b, "", "BOTTOM HALF LEFT PARENTHESIS;BOTTOM HALF RIGHT PARENTHESIS;OBLIQUE HYPHEN"⟩]

/-- The names in the block CJK Radicals Supplement. -/
def cjkRadicalsSupplement : List NameRun :=
  [⟨0x2e80, "CJK RADICAL ", "REPEAT;CLIFF;SECOND ONE;SECOND TWO;SECOND THREE;PERSON;BOX;TABLE"⟩,
   ⟨0x2e88, "CJK RADICAL ", "KNIFE ONE;KNIFE TWO;DIVINATION;SEAL;SMALL ONE;SMALL TWO;LAME ONE"⟩,
   ⟨0x2e8f, "CJK RADICAL ",
     "LAME TWO;LAME THREE;LAME FOUR;SNAKE;THREAD;SNOUT ONE;SNOUT TWO;HEART ONE;HEART TWO;HAND;RAP"⟩,
   ⟨0x2e9b, "CJK RADICAL ", "CHOKE;SUN;MOON;DEATH;MOTHER;CIVILIAN;WATER ONE"⟩,
   ⟨0x2ea2, "CJK RADICAL ", "WATER TWO;FIRE;PAW ONE;PAW TWO;SIMPLIFIED HALF TREE TRUNK;COW;DOG"⟩,
   ⟨0x2ea9, "CJK RADICAL ",
     "JADE;BOLT OF CLOTH;EYE;SPIRIT ONE;SPIRIT TWO;BAMBOO;SILK;C-SIMPLIFIED SILK;NET ONE;NET TWO"⟩,
   ⟨0x2eb3, "CJK RADICAL ", "NET THREE;NET FOUR;MESH;SHEEP;RAM;EWE;OLD;BRUSH ONE;BRUSH TWO"⟩,
   ⟨0x2ebc, "CJK RADICAL ", "MEAT;MORTAR;GRASS ONE;GRASS TWO;GRASS THREE;TIGER;CLOTHES;WEST ONE"⟩,
   ⟨0x2ec4, "CJK RADICAL ", "WEST TWO;C-SIMPLIFIED SEE;SIMPLIFIED HORN;HORN;C-SIMPLIFIED SPEECH"⟩,
   ⟨0x2ec9, "CJK RADICAL ", "C-SIMPLIFIED SHELL;FOOT;C-SIMPLIFIED CART;SIMPLIFIED WALK"⟩,
   ⟨0x2ecd, "CJK RADICAL ", "WALK ONE;WALK TWO;CITY;C-SIMPLIFIED GOLD;LONG ONE;LONG TWO"⟩,
   ⟨0x2ed3, "CJK RADICAL ", "C-SIMPLIFIED LONG;C-SIMPLIFIED GATE;MOUND ONE;MOUND TWO;RAIN"⟩,
   ⟨0x2ed8, "CJK RADICAL ", "BLUE;C-SIMPLIFIED TANNED LEATHER;C-SIMPLIFIED LEAF;C-SIMPLIFIED WIND"⟩,
   ⟨0x2edc, "CJK RADICAL ", "C-SIMPLIFIED FLY;EAT ONE;EAT TWO;EAT THREE;C-SIMPLIFIED EAT;HEAD"⟩,
   ⟨0x2ee2, "CJK RADICAL ", "C-SIMPLIFIED HORSE;BONE;GHOST;C-SIMPLIFIED FISH;C-SIMPLIFIED BIRD"⟩,
   ⟨0x2ee7, "CJK RADICAL ", "C-SIMPLIFIED SALT;SIMPLIFIED WHEAT;SIMPLIFIED YELLOW"⟩,
   ⟨0x2eea, "CJK RADICAL ", "C-SIMPLIFIED FROG;J-SIMPLIFIED EVEN;C-SIMPLIFIED EVEN"⟩,
   ⟨0x2eed, "CJK RADICAL ", "J-SIMPLIFIED TOOTH;C-SIMPLIFIED TOOTH;J-SIMPLIFIED DRAGON"⟩,
   ⟨0x2ef0, "CJK RADICAL ", "C-SIMPLIFIED DRAGON;TURTLE;J-SIMPLIFIED TURTLE;C-SIMPLIFIED TURTLE"⟩]

/-- The names in the block Kangxi Radicals. -/
def kangxiRadicals : List NameRun :=
  [⟨0x2f00, "KANGXI RADICAL ", "ONE;LINE;DOT;SLASH;SECOND;HOOK;TWO;LID;MAN"⟩,
   ⟨0x2f09, "KANGXI RADICAL ", "LEGS;ENTER;EIGHT;DOWN BOX;COVER;ICE;TABLE;OPEN BOX;KNIFE;POWER"⟩,
   ⟨0x2f13, "KANGXI RADICAL ", "WRAP;SPOON;RIGHT OPEN BOX;HIDING ENCLOSURE;TEN;DIVINATION;SEAL"⟩,
   ⟨0x2f1a, "KANGXI RADICAL ", "CLIFF;PRIVATE;AGAIN;MOUTH;ENCLOSURE;EARTH;SCHOLAR;GO;GO SLOWLY"⟩,
   ⟨0x2f23, "KANGXI RADICAL ", "EVENING;BIG;WOMAN;CHILD;ROOF;INCH;SMALL;LAME;CORPSE;SPROUT"⟩,
   ⟨0x2f2d, "KANGXI RADICAL ", "MOUNTAIN;RIVER;WORK;ONESELF;TURBAN;DRY;SHORT THREAD;DOTTED CLIFF"⟩,
   ⟨0x2f35, "KANGXI RADICAL ", "LONG STRIDE;TWO HANDS;SHOOT;BOW;SNOUT;BRISTLE;STEP;HEART"⟩,
   ⟨0x2f3d, "KANGXI RADICAL ", "HALBERD;DOOR;HAND;BRANCH;RAP;SCRIPT;DIPPER;AXE;SQUARE;NOT;SUN;SAY"⟩,
   ⟨0x2f49, "KANGXI RADICAL ", "MOON;TREE;LACK;STOP;DEATH;WEAPON;DO NOT;COMPARE;FUR;CLAN;STEAM"⟩,
   ⟨0x2f54, "KANGXI RADICAL ", "WATER;FIRE;CLAW;FATHER;DOUBLE X;HALF TREE TRUNK;SLICE;FANG;COW"⟩,
   ⟨0x2f5d, "KANGXI RADICAL ", "DOG;PROFOUND;JADE;MELON;TILE;SWEET;LIFE;USE;FIELD;BOLT OF CLOTH"⟩,
   ⟨0x2f67, "KANGXI RADICAL ", "SICKNESS;DOTTED TENT;WHITE;SKIN;DISH;EYE;SPEAR;ARROW;STONE;SPIRIT"⟩,
   ⟨0x2f71, "KANGXI RADICAL ", "TRACK;GRAIN;CAVE;STAND;BAMBOO;RICE;SILK;JAR;NET;SHEEP;FEATHER;OLD"⟩,
   ⟨0x2f7d, "KANGXI RADICAL ", "AND;PLOW;EAR;BRUSH;MEAT;MINISTER;SELF;ARRIVE;MORTAR;TONGUE;OPPOSE"⟩,
   ⟨0x2f88, "KANGXI RADICAL ", "BOAT;STOPPING;COLOR;GRASS;TIGER;INSECT;BLOOD;WALK ENCLOSURE"⟩,
   ⟨0x2f90, "KANGXI RADICAL ", "CLOTHES;WEST;SEE;HORN;SPEECH;VALLEY;BEAN;PIG;BADGER;SHELL;RED;RUN"⟩,
   ⟨0x2f9c, "KANGXI RADICAL ", "FOOT;BODY;CART;BITTER;MORNING;WALK;CITY;WINE;DISTINGUISH;VILLAGE"⟩,
   ⟨0x2fa6, "KANGXI RADICAL ", "GOLD;LONG;GATE;MOUND;SLAVE;SHORT TAILED BIRD;RAIN;BLUE;WRONG;FACE"⟩,
   ⟨0x2fb0, "KANGXI RADICAL ", "LEATHER;TANNED LEATHER;LEEK;SOUND;LEAF;WIND;FLY;EAT;HEAD;FRAGRANT"⟩,
   ⟨0x2fba, "KANGXI RADICAL ", "HORSE;BONE;TALL;HAIR;FIGHT;SACRIFICIAL WINE;CAULDRON;GHOST"⟩,
   ⟨0x2fc2, "KANGXI RADICAL ", "FISH;BIRD;SALT;DEER;WHEAT;HEMP;YELLOW;MILLET;BLACK;EMBROIDERY"⟩,
   ⟨0x2fcc, "KANGXI RADICAL ", "FROG;TRIPOD;DRUM;RAT;NOSE;EVEN;TOOTH;DRAGON;TURTLE;FLUTE"⟩]

/-- The names in the block Ideographic Description Characters. -/
def ideographicDescriptionCharacters : List NameRun :=
  [⟨0x2ff0, "IDEOGRAPHIC DESCRIPTION CHARACTER ",
     "LEFT TO RIGHT;ABOVE TO BELOW;LEFT TO MIDDLE AND RIGHT;ABOVE TO MIDDLE AND BELOW"⟩,
   ⟨0x2ff4, "IDEOGRAPHIC DESCRIPTION CHARACTER ",
     "FULL SURROUND;SURROUND FROM ABOVE;SURROUND FROM BELOW;SURROUND FROM LEFT"⟩,
   ⟨0x2ff8, "IDEOGRAPHIC DESCRIPTION CHARACTER ",
     "SURROUND FROM UPPER LEFT;SURROUND FROM UPPER RIGHT;SURROUND FROM LOWER LEFT;OVERLAID"⟩]

/-- The names in the block CJK Symbols and Punctuation. -/
def cjkSymbolsAndPunctuation : List NameRun :=
  [⟨0x3000, "", "IDEOGRAPHIC SPACE;IDEOGRAPHIC COMMA;IDEOGRAPHIC FULL STOP;DITTO MARK"⟩,
   ⟨0x3004, "", "JAPANESE INDUSTRIAL STANDARD SYMBOL;IDEOGRAPHIC ITERATION MARK"⟩,
   ⟨0x3006, "", "IDEOGRAPHIC CLOSING MARK;IDEOGRAPHIC NUMBER ZERO;LEFT ANGLE BRACKET"⟩,
   ⟨0x3009, "", "RIGHT ANGLE BRACKET;LEFT DOUBLE ANGLE BRACKET;RIGHT DOUBLE ANGLE BRACKET"⟩,
   ⟨0x300c, "", "LEFT CORNER BRACKET;RIGHT CORNER BRACKET;LEFT WHITE CORNER BRACKET"⟩,
   ⟨0x300f, "", "RIGHT WHITE CORNER BRACKET;LEFT BLACK LENTICULAR BRACKET"⟩,
   ⟨0x3011, "", "RIGHT BLACK LENTICULAR BRACKET;POSTAL MARK;GETA MARK;LEFT TORTOISE SHELL BRACKET"⟩,
   ⟨0x3015, "", "RIGHT TORTOISE SHELL BRACKET;LEFT WHITE LENTICULAR BRACKET"⟩,
   ⟨0x3017, "", "RIGHT WHITE LENTICULAR BRACKET;LEFT WHITE TORTOISE SHELL BRACKET"⟩,
   ⟨0x3019, "", "RIGHT WHITE TORTOISE SHELL BRACKET;LEFT WHITE SQUARE BRACKET"⟩,
   ⟨0x301b, "", "RIGHT WHITE SQUARE BRACKET;WAVE DASH;REVERSED DOUBLE PRIME QUOTATION MARK"⟩,
   ⟨0x301e, "", "DOUBLE PRIME QUOTATION MARK;LOW DOUBLE PRIME QUOTATION MARK;POSTAL MARK FACE"⟩,
   ⟨0x3021, "HANGZHOU NUMERAL ", "ONE;TWO;THREE;FOUR;FIVE;SIX;SEVEN;EIGHT;NINE"⟩,
   ⟨0x302a, "IDEOGRAPHIC ", "LEVEL TONE MARK;RISING TONE MARK;DEPARTING TONE MARK"⟩,
   ⟨0x302d, "", "IDEOGRAPHIC ENTERING TONE MARK;HANGUL SINGLE DOT TONE MARK"⟩,
   ⟨0x302f, "", "HANGUL DOUBLE DOT TONE MARK;WAVY DASH;VERTICAL KANA REPEAT MARK"⟩,
   ⟨0x3032, "VERTICAL KANA REPEAT ",
     "WITH VOICED SOUND MARK;MARK UPPER HALF;WITH VOICED SOUND MARK UPPER HALF;MARK LOWER HALF"⟩,
   ⟨0x3036, "", "CIRCLED POSTAL MARK;IDEOGRAPHIC TELEGRAPH LINE FEED SEPARATOR SYMBOL"⟩,
   ⟨0x3038, "HANGZHOU NUMERAL T", "EN;WENTY;HIRTY"⟩,
   ⟨0x303b, "", "VERTICAL IDEOGRAPHIC ITERATION MARK;MASU MARK;PART ALTERNATION MARK"⟩,
   ⟨0x303e, "IDEOGRAPHIC ", "VARIATION INDICATOR;HALF FILL SPACE"⟩]

/-- The names in the block Hiragana. -/
def hiragana : List NameRun :=
  [⟨0x3041, "HIRAGANA LETTER ", "SMALL A;A;SMALL I;I;SMALL U;U;SMALL E;E;SMALL O"⟩,
   ⟨0x304a, "HIRAGANA LETTER ", "O;KA;GA;KI;GI;KU;GU;KE;GE;KO;GO;SA;ZA;SI;ZI;SU;ZU;SE;ZE;SO"⟩,
   ⟨0x305e, "HIRAGANA LETTER ", "ZO;TA;DA;TI;DI;SMALL TU;TU;DU;TE;DE;TO;DO;NA;NI;NU;NE;NO;HA;BA"⟩,
   ⟨0x3071, "HIRAGANA LETTER ", "PA;HI;BI;PI;HU;BU;PU;HE;BE;PE;HO;BO;PO;MA;MI;MU;ME;MO;SMALL YA"⟩,
   ⟨0x3084, "HIRAGANA LETTER ",
     "YA;SMALL YU;YU;SMALL YO;YO;RA;RI;RU;RE;RO;SMALL WA;WA;WI;WE;WO;N;VU;SMALL KA;SMALL KE"⟩,
   ⟨0x3099, "COMBINING KATAKANA-HIRAGANA ", "VOICED SOUND MARK;SEMI-VOICED SOUND MARK"⟩,
   ⟨0x309b, "KATAKANA-HIRAGANA ", "VOICED SOUND MARK;SEMI-VOICED SOUND MARK"⟩,
   ⟨0x309d, "HIRAGANA ", "ITERATION MARK;VOICED ITERATION MARK;DIGRAPH YORI"⟩]

/-- The names in the block Katakana. -/
def katakana : List NameRun :=
  [⟨0x30a0, "KATAKANA", "-HIRAGANA DOUBLE HYPHEN; LETTER SMALL A"⟩,
   ⟨0x30a2, "KATAKANA LETTER ", "A;SMALL I;I;SMALL U;U;SMALL E;E;SMALL O;O;KA;GA;KI;GI;KU;GU;KE"⟩,
   ⟨0x30b2, "KATAKANA LETTER ", "GE;KO;GO;SA;ZA;SI;ZI;SU;ZU;SE;ZE;SO;ZO;TA;DA;TI;DI;SMALL TU;TU"⟩,
   ⟨0x30c5, "KATAKANA LETTER ", "DU;TE;DE;TO;DO;NA;NI;NU;NE;NO;HA;BA;PA;HI;BI;PI;HU;BU;PU;HE;BE"⟩,
   ⟨0x30da, "KATAKANA LETTER ", "PE;HO;BO;PO;MA;MI;MU;ME;MO;SMALL YA;YA;SMALL YU;YU;SMALL YO;YO"⟩,
   ⟨0x30e9, "KATAKANA LETTER ", "RA;RI;RU;RE;RO;SMALL WA;WA;WI;WE;WO;N;VU;SMALL KA;SMALL KE;VA;VI"⟩,
   ⟨0x30f9, "KATAKANA", " LETTER VE; LETTER VO; MIDDLE DOT;-HIRAGANA PROLONGED SOUND MARK"⟩,
   ⟨0x30fd, "KATAKANA ", "ITERATION MARK;VOICED ITERATION MARK;DIGRAPH KOTO"⟩]

/-- The names in the block Bopomofo. -/
def bopomofo : List NameRun :=
  [⟨0x3105, "BOPOMOFO LETTER ", "B;P;M;F;D;T;N;L;G;K;H;J;Q;X;ZH;CH;SH;R;Z;C;S;A;O;E;EH;AI"⟩,
   ⟨0x311f, "BOPOMOFO LETTER ", "EI;AU;OU;AN;EN;ANG;ENG;ER;I;U;IU;V;NG;GN;IH;O WITH DOT ABOVE;NN"⟩]

/-- The names in the block Hangul Compatibility Jamo. -/
def hangulCompatibilityJamo : List NameRun :=
  [⟨0x3131, "HANGUL LETTER ", "KIYEOK;SSANGKIYEOK;KIYEOK-SIOS;NIEUN;NIEUN-CIEUC;NIEUN-HIEUH"⟩,
   ⟨0x3137, "HANGUL LETTER ", "TIKEUT;SSANGTIKEUT;RIEUL;RIEUL-KIYEOK;RIEUL-MIEUM;RIEUL-PIEUP"⟩,
   ⟨0x313d, "HANGUL LETTER ", "RIEUL-SIOS;RIEUL-THIEUTH;RIEUL-PHIEUPH;RIEUL-HIEUH;MIEUM;PIEUP"⟩,
   ⟨0x3143, "HANGUL LETTER ",
     "SSANGPIEUP;PIEUP-SIOS;SIOS;SSANGSIOS;IEUNG;CIEUC;SSANGCIEUC;CHIEUCH;KHIEUKH;THIEUTH;PHIEUPH"⟩,
   ⟨0x314e, "HANGUL LETTER ", "HIEUH;A;AE;YA;YAE;EO;E;YEO;YE;O;WA;WAE;OE;YO;U;WEO;WE;WI;YU;EU;YI"⟩,
   ⟨0x3163, "HANGUL ", "LETTER I;FILLER;LETTER SSANGNIEUN;LETTER NIEUN-TIKEUT;LETTER NIEUN-SIOS"⟩,
   ⟨0x3168, "HANGUL LETTER ", "NIEUN-PANSIOS;RIEUL-KIYEOK-SIOS;RIEUL-TIKEUT;RIEUL-PIEUP-SIOS"⟩,
   ⟨0x316c, "HANGUL LETTER ",
     "RIEUL-PANSIOS;RIEUL-YEORINHIEUH;MIEUM-PIEUP;MIEUM-SIOS;MIEUM-PANSIOS;KAPYEOUNMIEUM"⟩,
   ⟨0x3172, "HANGUL LETTER PIEUP-", "KIYEOK;TIKEUT;SIOS-KIYEOK;SIOS-TIKEUT;CIEUC"⟩,
   ⟨0x3177, "HANGUL LETTER ", "PIEUP-THIEUTH;KAPYEOUNPIEUP;KAPYEOUNSSANGPIEUP;SIOS-KIYEOK"⟩,
   ⟨0x317b, "HANGUL LETTER ", "SIOS-NIEUN;SIOS-TIKEUT;SIOS-PIEUP;SIOS-CIEUC;PANSIOS;SSANGIEUNG"⟩,
   ⟨0x3181, "HANGUL LETTER ", "YESIEUNG;YESIEUNG-SIOS;YESIEUNG-PANSIOS;KAPYEOUNPHIEUPH;SSANGHIEUH"⟩,
   ⟨0x3186, "HANGUL LETTER ", "YEORINHIEUH;YO-YA;YO-YAE;YO-I;YU-YEO;YU-YE;YU-I;ARAEA;ARAEAE"⟩]

/-- The names in the block Kanbun. -/
def kanbun : List NameRun :=
  [⟨0x3190, "IDEOGRAPHIC ANNOTATION ",
     "LINKING MARK;REVERSE MARK;ONE MARK;TWO MARK;THREE MARK;FOUR MARK;TOP MARK;MIDDLE MARK"⟩,
   ⟨0x3198, "IDEOGRAPHIC ANNOTATION ",
     "BOTTOM MARK;FIRST MARK;SECOND MARK;THIRD MARK;FOURTH MARK;HEAVEN MARK;EARTH MARK;MAN MARK"⟩]

/-- The names in the block Bopomofo Extended. -/
def bopomofoExtended : List NameRun :=
  [⟨0x31a0, "BOPOMOFO LETTER ", "BU;ZI;JI;GU;EE;ENN;OO;ONN;IR;ANN;INN;UNN;IM;NGG;AINN"⟩,
   ⟨0x31af, "BOPOMOFO ", "LETTER AUNN;LETTER AM;LETTER OM;LETTER ONG;LETTER INNN;FINAL LETTER P"⟩,
   ⟨0x31b5, "BOPOMOFO ", "FINAL LETTER T;FINAL LETTER K;FINAL LETTER H;LETTER GH;LETTER LH"⟩,
   ⟨0x31ba, "BOPOMOFO ", "LETTER ZY;FINAL LETTER G;LETTER GW;LETTER KW;LETTER OE;LETTER AH"⟩]

/-- The names in the block CJK Strokes. -/
def cjkStrokes : List NameRun :=
  [⟨0x31c0, "CJK STROKE ", "T;WG;XG;BXG;SW;HZZ;HZG;HP;HZWG;SZWG;HZT;HZZP;HPWG;HZW"⟩,
   ⟨0x31ce, "CJK STROKE ", "HZZZ;N;H;S;P;SP;D;HZ;HG;SZ;SWZ;ST;SG;PD;PZ;TN;SZZ;SWG;HXWG;HZZZG;PG;Q"⟩]

/-- The names in the block Katakana Phonetic Extensions. -/
def katakanaPhoneticExtensions : List NameRun :=
  [⟨0x31f0, "KATAKANA LETTER SMALL ", "KU;SI;SU;TO;NU;HA;HI;HU;HE;HO;MU;RA;RI;RU;RE;RO"⟩]

/-- The names in the block Enclosed CJK Letters and Months. -/
def enclosedCJKLettersAndMonths : List NameRun :=
  [⟨0x3200, "PARENTHESIZED HANGUL ", "KIYEOK;NIEUN;TIKEUT;RIEUL;MIEUM;PIEUP;SIOS"⟩,
   ⟨0x3207, "PARENTHESIZED HANGUL ", "IEUNG;CIEUC;CHIEUCH;KHIEUKH;THIEUTH;PHIEUPH;HIEUH;KIYEOK A"⟩,
   ⟨0x320f, "PARENTHESIZED HANGUL ", "NIEUN A;TIKEUT A;RIEUL A;MIEUM A;PIEUP A;SIOS A;IEUNG A"⟩,
   ⟨0x3216, "PARENTHESIZED HANGUL ", "CIEUC A;CHIEUCH A;KHIEUKH A;THIEUTH A;PHIEUPH A;HIEUH A"⟩,
   ⟨0x321c, "PARENTHESIZED ", "HANGUL CIEUC U;KOREAN CHARACTER OJEON;KOREAN CHARACTER O HU"⟩,
   ⟨0x3220, "PARENTHESIZED IDEOGRAPH ", "ONE;TWO;THREE;FOUR;FIVE;SIX;SEVEN;EIGHT;NINE;TEN;MOON"⟩,
   ⟨0x322b, "PARENTHESIZED IDEOGRAPH ",
     "FIRE;WATER;WOOD;METAL;EARTH;SUN;STOCK;HAVE;SOCIETY;NAME;SPECIAL;FINANCIAL;CONGRATULATION"⟩,
   ⟨0x3238, "PARENTHESIZED IDEOGRAPH ",
     "LABOR;REPRESENT;CALL;STUDY;SUPERVISE;ENTERPRISE;RESOURCE;ALLIANCE;FESTIVAL;REST;SELF;REACH"⟩,
   ⟨0x3244, "CIRCLED IDEOGRAPH ", "QUESTION;KINDERGARTEN;SCHOOL;KOTO"⟩,
   ⟨0x3248, "CIRCLED NUMBER T", "EN ON BLACK SQUARE;WENTY ON BLACK SQUARE;HIRTY ON BLACK SQUARE"⟩,
   ⟨0x324b, "CIRCLED NUMBER ",
     "FORTY ON BLACK SQUARE;FIFTY ON BLACK SQUARE;SIXTY ON BLACK SQUARE;SEVENTY ON BLACK SQUARE"⟩,
   ⟨0x324f, "", "CIRCLED NUMBER EIGHTY ON BLACK SQUARE;PARTNERSHIP SIGN"⟩,
   ⟨0x3251, "CIRCLED NUMBER TWENTY ", "ONE;TWO;THREE;FOUR;FIVE;SIX;SEVEN;EIGHT;NINE"⟩,
   ⟨0x325a, "CIRCLED NUMBER THIRTY", "; ONE; TWO; THREE; FOUR; FIVE"⟩,
   ⟨0x3260, "CIRCLED HANGUL ", "KIYEOK;NIEUN;TIKEUT;RIEUL;MIEUM;PIEUP;SIOS;IEUNG;CIEUC;CHIEUCH"⟩,
   ⟨0x326a, "CIRCLED HANGUL ", "KHIEUKH;THIEUTH;PHIEUPH;HIEUH;KIYEOK A;NIEUN A;TIKEUT A;RIEUL A"⟩,
   ⟨0x3272, "CIRCLED HANGUL ", "MIEUM A;PIEUP A;SIOS A;IEUNG A;CIEUC A;CHIEUCH A;KHIEUKH A"⟩,
   ⟨0x3279, "CIRCLED ", "HANGUL THIEUTH A;HANGUL PHIEUPH A;HANGUL HIEUH A;KOREAN CHARACTER CHAMKO"⟩,
   ⟨0x327d, "", "CIRCLED KOREAN CHARACTER JUEUI;CIRCLED HANGUL IEUNG U;KOREAN STANDARD SYMBOL"⟩,
   ⟨0x3280, "CIRCLED IDEOGRAPH ", "ONE;TWO;THREE;FOUR;FIVE;SIX;SEVEN;EIGHT;NINE"⟩,
   ⟨0x3289, "CIRCLED IDEOGRAPH ", "TEN;MOON;FIRE;WATER;WOOD;METAL;EARTH;SUN;STOCK;HAVE;SOCIETY"⟩,
   ⟨0x3294, "CIRCLED IDEOGRAPH ", "NAME;SPECIAL;FINANCIAL;CONGRATULATION;LABOR;SECRET;MALE;FEMALE"⟩,
   ⟨0x329c, "CIRCLED IDEOGRAPH ", "SUITABLE;EXCELLENT;PRINT;ATTENTION;ITEM;REST;COPY;CORRECT;HIGH"⟩,
   ⟨0x32a5, "CIRCLED IDEOGRAPH ",
     "CENTRE;LOW;LEFT;RIGHT;MEDICINE;RELIGION;STUDY;SUPERVISE;ENTERPRISE;RESOURCE;ALLIANCE;NIGHT"⟩,
   ⟨0x32b1, "CIRCLED NUMBER ", "THIRTY SIX;THIRTY SEVEN;THIRTY EIGHT;THIRTY NINE;FORTY;FORTY ONE"⟩,
   ⟨0x32b7, "CIRCLED NUMBER F",
     "ORTY TWO;ORTY THREE;ORTY FOUR;ORTY FIVE;ORTY SIX;ORTY SEVEN;ORTY EIGHT;ORTY NINE;IFTY"⟩,
   ⟨0x32c0, "IDEOGRAPHIC TELEGRAPH SYMBOL FOR ",
     "JANUARY;FEBRUARY;MARCH;APRIL;MAY;JUNE;JULY;AUGUST;SEPTEMBER;OCTOBER;NOVEMBER;DECEMBER"⟩,
   ⟨0x32cc, "", "SQUARE HG;SQUARE ERG;SQUARE EV;LIMITED LIABILITY SIGN"⟩,
   ⟨0x32d0, "CIRCLED KATAKANA ", "A;I;U;E;O;KA;KI;KU;KE;KO;SA;SI;SU;SE;SO;TA;TI;TU;TE;TO;NA;NI;NU"⟩,
   ⟨0x32e7, "CIRCLED KATAKANA ", "NE;NO;HA;HI;HU;HE;HO;MA;MI;MU;ME;MO;YA;YU;YO;RA;RI;RU;RE;RO;WA"⟩,
   ⟨0x32fc, "",
     "CIRCLED KATAKANA WI;CIRCLED KATAKANA WE;CIRCLED KATAKANA WO;SQUARE ERA NAME REIWA"⟩]

/-- The names in the block CJK Compatibility. -/
def cjkCompatibility : List NameRun :=
  [⟨0x3300, "SQUARE ", "APAATO;ARUHUA;ANPEA;AARU;ININGU;INTI"⟩,
   ⟨0x3306, "SQUARE ", "UON;ESUKUUDO;EEKAA;ONSU;OOMU;KAIRI;KARATTO;KARORII;GARON;GANMA;GIGA;GINII"⟩,
   ⟨0x3312, "SQUARE ", "KYURII;GIRUDAA;KIRO;KIROGURAMU;KIROMEETORU;KIROWATTO;GURAMU;GURAMUTON"⟩,
   ⟨0x331a, "SQUARE ", "KURUZEIRO;KUROONE;KEESU;KORUNA;KOOPO;SAIKURU;SANTIIMU;SIRINGU;SENTI;SENTO"⟩,
   ⟨0x3324, "SQUARE ", "DAASU;DESI;DORU;TON;NANO;NOTTO;HAITU;PAASENTO;PAATU;BAARERU;PIASUTORU"⟩,
   ⟨0x332f, "SQUARE ", "PIKURU;PIKO;BIRU;HUARADDO;HUIITO;BUSSYERU;HURAN;HEKUTAARU;PESO;PENIHI"⟩,
   ⟨0x3339, "SQUARE ", "HERUTU;PENSU;PEEZI;BEETA;POINTO;BORUTO;HON;PONDO;HOORU;HOON;MAIKURO;MAIRU"⟩,
   ⟨0x3345, "SQUARE ", "MAHHA;MARUKU;MANSYON;MIKURON;MIRI;MIRIBAARU;MEGA;MEGATON;MEETORU;YAADO"⟩,
   ⟨0x334f, "SQUARE ", "YAARU;YUAN;RITTORU;RIRA;RUPII;RUUBURU;REMU;RENTOGEN;WATTO"⟩,
   ⟨0x3358, "IDEOGRAPHIC TELEGRAPH SYMBOL FOR HOUR ", "ZERO;ONE;TWO;THREE;FOUR;FIVE;SIX;SEVEN"⟩,
   ⟨0x3360, "IDEOGRAPHIC TELEGRAPH SYMBOL FOR HOUR ",
     "EIGHT;NINE;TEN;ELEVEN;TWELVE;THIRTEEN;FOURTEEN;FIFTEEN;SIXTEEN;SEVENTEEN;EIGHTEEN;NINETEEN"⟩,
   ⟨0x336c, "IDEOGRAPHIC TELEGRAPH SYMBOL FOR HOUR TWENTY", ";-ONE;-TWO;-THREE;-FOUR"⟩,
   ⟨0x3371, "SQUARE ", "HPA;DA;AU;BAR;OV;PC;DM;DM SQUARED;DM CUBED;IU;ERA NAME HEISEI"⟩,
   ⟨0x337c, "SQUARE ", "ERA NAME SYOUWA;ERA NAME TAISYOU;ERA NAME MEIZI;CORPORATION"⟩,
   ⟨0x3380, "SQUARE ", "PA AMPS;NA;MU A;MA;KA;KB;MB;GB;CAL;KCAL;PF;NF;MU F;MU G;MG;KG;HZ"⟩,
   ⟨0x3391, "SQUARE ", "KHZ;MHZ;GHZ;THZ;MU L;ML;DL;KL;FM;NM;MU M;MM;CM;KM;MM SQUARED;CM SQUARED"⟩,
   ⟨0x33a1, "SQUARE ", "M SQUARED;KM SQUARED;MM CUBED;CM CUBED;M CUBED;KM CUBED;M OVER S"⟩,
   ⟨0x33a8, "SQUARE ", "M OVER S SQUARED;PA;KPA;MPA;GPA;RAD;RAD OVER S;RAD OVER S SQUARED"⟩,
   ⟨0x33b0, "SQUARE ", "PS;NS;MU S;MS;PV;NV;MU V;MV;KV;MV MEGA;PW;NW;MU W;MW;KW"⟩,
   ⟨0x33bf, "SQUARE ", "MW MEGA;K OHM;M OHM;AM;BQ;CC;CD;C OVER KG;CO;DB;GY;HA;HP;IN;KK;KM CAPITAL"⟩,
   ⟨0x33cf, "SQUARE ", "KT;LM;LN;LOG;LX;MB SMALL;MIL;MOL;PH;PM;PPM;PR;SR;SV;WB;V OVER M;A OVER M"⟩,
   ⟨0x33e0, "IDEOGRAPHIC TELEGRAPH SYMBOL FOR DAY ", "ONE;TWO;THREE;FOUR;FIVE;SIX;SEVEN"⟩,
   ⟨0x33e7, "IDEOGRAPHIC TELEGRAPH SYMBOL FOR DAY ",
     "EIGHT;NINE;TEN;ELEVEN;TWELVE;THIRTEEN;FOURTEEN;FIFTEEN;SIXTEEN;SEVENTEEN;EIGHTEEN;NINETEEN"⟩,
   ⟨0x33f3, "IDEOGRAPHIC TELEGRAPH SYMBOL FOR DAY TWENTY", ";-ONE;-TWO;-THREE;-FOUR;-FIVE;-SIX"⟩,
   ⟨0x33fa, "IDEOGRAPHIC TELEGRAPH SYMBOL FOR DAY T", "WENTY-SEVEN;WENTY-EIGHT;WENTY-NINE;HIRTY"⟩,
   ⟨0x33fe, "", "IDEOGRAPHIC TELEGRAPH SYMBOL FOR DAY THIRTY-ONE;SQUARE GAL"⟩]

/-- The names in the block Yijing Hexagram Symbols. -/
def yijingHexagramSymbols : List NameRun :=
  [⟨0x4dc0, "HEXAGRAM FOR ", "THE CREATIVE HEAVEN;THE RECEPTIVE EARTH;DIFFICULTY AT THE BEGINNING"⟩,
   ⟨0x4dc3, "HEXAGRAM FOR ", "YOUTHFUL FOLLY;WAITING;CONFLICT;THE ARMY;HOLDING TOGETHER"⟩,
   ⟨0x4dc8, "HEXAGRAM FOR ", "SMALL TAMING;TREADING;PEACE;STANDSTILL;FELLOWSHIP;GREAT POSSESSION"⟩,
   ⟨0x4dce, "HEXAGRAM FOR ", "MODESTY;ENTHUSIASM;FOLLOWING;WORK ON THE DECAYED;APPROACH"⟩,
   ⟨0x4dd3, "HEXAGRAM FOR ", "CONTEMPLATION;BITING THROUGH;GRACE;SPLITTING APART;RETURN;INNOCENCE"⟩,
   ⟨0x4dd9, "HEXAGRAM FOR ", "GREAT TAMING;MOUTH CORNERS;GREAT PREPONDERANCE;THE ABYSMAL WATER"⟩,
   ⟨0x4ddd, "HEXAGRAM FOR ", "THE CLINGING FIRE;INFLUENCE;DURATION;RETREAT;GREAT POWER"⟩,
   ⟨0x4de2, "HEXAGRAM FOR ", "PROGRESS;DARKENING OF THE LIGHT;THE FAMILY;OPPOSITION;OBSTRUCTION"⟩,
   ⟨0x4de7, "HEXAGRAM FOR ", "DELIVERANCE;DECREASE;INCREASE;BREAKTHROUGH;COMING TO MEET"⟩,
   ⟨0x4dec, "HEXAGRAM FOR ", "GATHERING TOGETHER;PUSHING UPWARD;OPPRESSION;THE WELL;REVOLUTION"⟩,
   ⟨0x4df1, "HEXAGRAM FOR THE ", "CAULDRON;AROUSING THUNDER;KEEPING STILL MOUNTAIN"⟩,
   ⟨0x4df4, "HEXAGRAM FOR ", "DEVELOPMENT;THE MARRYING MAIDEN;ABUNDANCE"⟩,
   ⟨0x4df7, "HEXAGRAM FOR ", "THE WANDERER;THE GENTLE WIND;THE JOYOUS LAKE;DISPERSION;LIMITATION"⟩,
   ⟨0x4dfc, "HEXAGRAM FOR ", "INNER TRUTH;SMALL PREPONDERANCE;AFTER COMPLETION;BEFORE COMPLETION"⟩]

/-- The names in the block Yi Syllables. -/
def yiSyllables : List NameRun :=
  [⟨0xa000, "YI SYLLABLE ", "IT;IX;I;IP;IET;IEX;IE;IEP;AT;AX;A;AP;UOX;UO;UOP;OT;OX;O;OP;EX;E;WU"⟩,
   ⟨0xa016, "YI SYLLABLE B", "IT;IX;I;IP;IET;IEX;IE;IEP;AT;AX;A;AP;UOX;UO;UOP;OT;OX;O;OP;EX"⟩,
   ⟨0xa02a, "YI SYLLABLE ", "BE;BEP;BUT;BUX;BU;BUP;BURX;BUR;BYT;BYX;BY;BYP;BYRX;BYR;PIT;PIX;PI"⟩,
   ⟨0xa03b, "YI SYLLABLE P", "IP;IEX;IE;IEP;AT;AX;A;AP;UOX;UO;UOP;OT;OX;O;OP;UT;UX;U;UP;URX;UR;YT"⟩,
   ⟨0xa051, "YI SYLLABLE ", "PYX;PY;PYP;PYRX;PYR;BBIT;BBIX;BBI;BBIP;BBIET;BBIEX;BBIE;BBIEP;BBAT"⟩,
   ⟨0xa05f, "YI SYLLABLE BB", "AX;A;AP;UOX;UO;UOP;OT;OX;O;OP;EX;E;EP;UT;UX;U;UP;URX;UR;YT;YX;Y;YP"⟩,
   ⟨0xa076, "YI SYLLABLE NB",
     "IT;IX;I;IP;IEX;IE;IEP;AT;AX;A;AP;OT;OX;O;OP;UT;UX;U;UP;URX;UR;YT;YX;Y;YP;YRX;YR"⟩,
   ⟨0xa091, "YI SYLLABLE HM", "IT;IX;I;IP;IEX;IE;IEP;AT;AX;A;AP;UOX;UO;UOP;OT;OX;O;OP;UT;UX;U;UP"⟩,
   ⟨0xa0a7, "YI SYLLABLE ", "HMURX;HMUR;HMYX;HMY;HMYP;HMYRX;HMYR;MIT;MIX;MI;MIP;MIEX;MIE;MIEP;MAT"⟩,
   ⟨0xa0b6, "YI SYLLABLE M", "AX;A;AP;UOT;UOX;UO;UOP;OT;OX;O;OP;EX;E;UT;UX;U;UP;URX;UR;YT;YX;Y;YP"⟩,
   ⟨0xa0cd, "YI SYLLABLE F", "IT;IX;I;IP;AT;AX;A;AP;OX;O;OP;UT;UX;U;UP;URX;UR;YT;YX;Y;YP"⟩,
   ⟨0xa0e2, "YI SYLLABLE V", "IT;IX;I;IP;IET;IEX;IE;IEP;AT;AX;A;AP;OT;OX;O;OP;EX"⟩,
   ⟨0xa0f3, "YI SYLLABLE ", "VEP;VUT;VUX;VU;VUP;VURX;VUR;VYT;VYX;VY;VYP;VYRX;VYR;DIT;DIX;DI;DIP"⟩,
   ⟨0xa104, "YI SYLLABLE D", "IEX;IE;IEP;AT;AX;A;AP;UOX;UO;OT;OX;O;OP;EX;E;EP;UT;UX;U;UP;URX;UR"⟩,
   ⟨0xa11a, "YI SYLLABLE T", "IT;IX;I;IP;IEX;IE;IEP;AT;AX;A;AP;UOT;UOX;UO;UOP;OT;OX"⟩,
   ⟨0xa12b, "YI SYLLABLE ", "TO;TOP;TEX;TE;TEP;TUT;TUX;TU;TUP;TURX;TUR;DDIT;DDIX;DDI;DDIP;DDIEX"⟩,
   ⟨0xa13b, "YI SYLLABLE DD", "IE;IEP;AT;AX;A;AP;UOX;UO;UOP;OT;OX;O;OP;EX;E;EP;UT;UX;U;UP;URX;UR"⟩,
   ⟨0xa151, "YI SYLLABLE ND", "IT;IX;I;IP;IEX;IE;AT;AX;A;AP;OT;OX;O;OP;EX;E;EP;UT;UX;U;UP;URX;UR"⟩,
   ⟨0xa168, "YI SYLLABLE HN", "IT;IX;I;IP;IET;IEX;IE;IEP;AT;AX;A;AP;UOX;UO;OT;OX;OP;EX;E;EP;UT"⟩,
   ⟨0xa17d, "YI SYLLABLE N", "IT;IX;I;IP;IEX;IE;IEP;AX;A;AP;UOX;UO;UOP;OT;OX;O;OP;EX;E;EP;UT;UX"⟩,
   ⟨0xa193, "YI SYLLABLE ", "NU;NUP;NURX;NUR;HLIT;HLIX;HLI;HLIP;HLIEX;HLIE;HLIEP;HLAT;HLAX;HLA"⟩,
   ⟨0xa1a1, "YI SYLLABLE HL", "AP;UOX;UO;UOP;OX;O;OP;EX;E;EP;UT;UX;U;UP;URX;UR;YT;YX;Y;YP;YRX;YR"⟩,
   ⟨0xa1b7, "YI SYLLABLE L", "IT;IX;I;IP;IET;IEX;IE;IEP;AT;AX;A;AP;UOT;UOX;UO;UOP;OT;OX;O;OP;EX;E"⟩,
   ⟨0xa1cd, "YI SYLLABLE ", "LEP;LUT;LUX;LU;LUP;LURX;LUR;LYT;LYX;LY;LYP;LYRX;LYR;GIT;GIX;GI;GIP"⟩,
   ⟨0xa1de, "YI SYLLABLE G", "IET;IEX;IE;IEP;AT;AX;A;AP;UOT;UOX;UO;UOP;OT;OX;O;OP;ET;EX;E;EP;UT"⟩,
   ⟨0xa1f3, "YI SYLLABLE ", "GUX;GU;GUP;GURX;GUR;KIT;KIX;KI;KIP;KIEX;KIE;KIEP;KAT;KAX;KA;KAP;KUOX"⟩,
   ⟨0xa204, "YI SYLLABLE ", "KUO;KUOP;KOT;KOX;KO;KOP;KET;KEX;KE;KEP;KUT;KUX;KU;KUP;KURX;KUR;GGIT"⟩,
   ⟨0xa215, "YI SYLLABLE GG",
     "IX;I;IEX;IE;IEP;AT;AX;A;AP;UOT;UOX;UO;UOP;OT;OX;O;OP;ET;EX;E;EP;UT;UX;U;UP;URX;UR"⟩,
   ⟨0xa230, "YI SYLLABLE MG", "IEX;IE;AT;AX;A;AP;UOX;UO;UOP;OT;OX;O;OP;EX;E;EP;UT;UX;U;UP;URX;UR"⟩,
   ⟨0xa246, "YI SYLLABLE HX", "IT;IX;I;IP;IET;IEX;IE;IEP;AT;AX;A;AP;UOT;UOX;UO;UOP"⟩,
   ⟨0xa256, "YI SYLLABLE ", "HXOT;HXOX;HXO;HXOP;HXEX;HXE;HXEP;NGIEX;NGIE;NGIEP;NGAT;NGAX;NGA"⟩,
   ⟨0xa263, "YI SYLLABLE ", "NGAP;NGUOT;NGUOX;NGUO;NGOT;NGOX;NGO;NGOP;NGEX;NGE;NGEP;HIT;HIEX;HIE"⟩,
   ⟨0xa271, "YI SYLLABLE ", "HAT;HAX;HA;HAP;HUOT;HUOX;HUO;HUOP;HOT;HOX;HO;HOP;HEX;HE;HEP;WAT;WAX"⟩,
   ⟨0xa282, "YI SYLLABLE ", "WA;WAP;WUOX;WUO;WUOP;WOX;WO;WOP;WEX;WE;WEP;ZIT;ZIX;ZI;ZIP;ZIEX;ZIE"⟩,
   ⟨0xa293, "YI SYLLABLE Z", "IEP;AT;AX;A;AP;UOX;UO;UOP;OT;OX;O;OP;EX;E;EP;UT;UX;U;UP;URX;UR;YT"⟩,
   ⟨0xa2a9, "YI SYLLABLE ", "ZYX;ZY;ZYP;ZYRX;ZYR;CIT;CIX;CI;CIP;CIET;CIEX;CIE;CIEP;CAT;CAX;CA;CAP"⟩,
   ⟨0xa2ba, "YI SYLLABLE C", "UOX;UO;UOP;OT;OX;O;OP;EX;E;EP;UT;UX;U;UP;URX;UR;YT;YX;Y;YP;YRX;YR"⟩,
   ⟨0xa2d0, "YI SYLLABLE ZZ", "IT;IX;I;IP;IET;IEX;IE;IEP;AT;AX;A;AP;OX;O;OP;EX;E;EP;UX;U;UP;URX"⟩,
   ⟨0xa2e6, "YI SYLLABLE ", "ZZUR;ZZYT;ZZYX;ZZY;ZZYP;ZZYRX;ZZYR;NZIT;NZIX;NZI;NZIP;NZIEX;NZIE"⟩,
   ⟨0xa2f3, "YI SYLLABLE NZ", "IEP;AT;AX;A;AP;UOX;UO;OX;OP;EX;E;UX;U;UP;URX;UR;YT;YX;Y;YP;YRX;YR"⟩,
   ⟨0xa309, "YI SYLLABLE S", "IT;IX;I;IP;IEX;IE;IEP;AT;AX;A;AP;UOX;UO;UOP;OT;OX;O"⟩,
   ⟨0xa31a, "YI SYLLABLE S", "OP;EX;E;EP;UT;UX;U;UP;URX;UR;YT;YX;Y;YP;YRX;YR;SIT;SIX;SI;SIP;SIEX"⟩,
   ⟨0xa32f, "YI SYLLABLE SS", "IE;IEP;AT;AX;A;AP;OT;OX;O;OP;EX;E;EP;UT;UX;U;UP;YT;YX;Y;YP;YRX;YR"⟩,
   ⟨0xa346, "YI SYLLABLE ZH", "AT;AX;A;AP;UOX;UO;UOP;OT;OX;O;OP;ET;EX;E;EP;UT;UX;U;UP"⟩,
   ⟨0xa359, "YI SYLLABLE ", "ZHURX;ZHUR;ZHYT;ZHYX;ZHY;ZHYP;ZHYRX;ZHYR;CHAT;CHAX;CHA;CHAP;CHUOT"⟩,
   ⟨0xa366, "YI SYLLABLE CH", "UOX;UO;UOP;OT;OX;O;OP;ET;EX;E;EP;UX;U;UP;URX;UR;YT;YX;Y;YP;YRX;YR"⟩,
   ⟨0xa37c, "YI SYLLABLE RR", "AX;A;UOX;UO;OT;OX;O;OP;ET;EX;E;EP;UT;UX;U;UP;URX;UR;YT;YX;Y;YP;YRX"⟩,
   ⟨0xa393, "YI SYLLABLE ", "RRYR;NRAT;NRAX;NRA;NRAP;NROX;NRO;NROP;NRET;NREX;NRE;NREP;NRUT;NRUX"⟩,
   ⟨0xa3a1, "YI SYLLABLE ", "NRU;NRUP;NRURX;NRUR;NRYT;NRYX;NRY;NRYP;NRYRX;NRYR;SHAT;SHAX;SHA;SHAP"⟩,
   ⟨0xa3af, "YI SYLLABLE SH", "UOX;UO;UOP;OT;OX;O;OP;ET;EX;E;EP;UT;UX;U;UP;URX;UR;YT;YX;Y;YP;YRX"⟩,
   ⟨0xa3c5, "YI SYLLABLE ", "SHYR;RAT;RAX;RA;RAP;RUOX;RUO;RUOP;ROT;ROX;RO;ROP;REX;RE;REP;RUT;RUX"⟩,
   ⟨0xa3d6, "YI SYLLABLE ", "RU;RUP;RURX;RUR;RYT;RYX;RY;RYP;RYRX;RYR;JIT;JIX;JI;JIP;JIET;JIEX;JIE"⟩,
   ⟨0xa3e7, "YI SYLLABLE J", "IEP;UOT;UOX;UO;UOP;OT;OX;O;OP;UT;UX;U;UP;URX;UR;YT;YX;Y;YP;YRX;YR"⟩,
   ⟨0xa3fc, "YI SYLLABLE Q", "IT;IX;I;IP;IET;IEX;IE;IEP;UOT;UOX;UO;UOP;OT;OX;O;OP"⟩,
   ⟨0xa40c, "YI SYLLABLE ", "QUT;QUX;QU;QUP;QURX;QUR;QYT;QYX;QY;QYP;QYRX;QYR;JJIT;JJIX;JJI;JJIP"⟩,
   ⟨0xa41c, "YI SYLLABLE JJ", "IET;IEX;IE;IEP;UOX;UO;UOP;OT;OX;O;OP;UT;UX;U;UP;URX;UR;YT;YX;Y;YP"⟩,
   ⟨0xa431, "YI SYLLABLE NJ", "IT;IX;I;IP;IET;IEX;IE;IEP;UOX;UO;OT;OX;O;OP;UX;U;UP;URX;UR;YT;YX;Y"⟩,
   ⟨0xa447, "YI SYLLABLE N",
     "JYP;JYRX;JYR;YIT;YIX;YI;YIP;YIET;YIEX;YIE;YIEP;YUOX;YUO;YUOP;YOT;YOX;YO;YOP;YUT;YUX;YU;YUP"⟩,
   ⟨0xa45d, "YI SYLLABLE X", "IT;IX;I;IP;IET;IEX;IE;IEP;UOX;UO;OT;OX;O;OP;YT;YX;Y;YP;YRX;YR"⟩,
   ⟨0xa471, "YI SYLLABLE Y",
     "IT;IX;I;IP;IET;IEX;IE;IEP;UOT;UOX;UO;UOP;OT;OX;O;OP;UT;UX;U;UP;URX;UR;YT;YX;Y;YP;YRX;YR"⟩]

/-- The names in the block Yi Radicals. -/
def yiRadicals : List NameRun :=
  [⟨0xa490, "YI RADICAL ", "QOT;LI;KIT;NYIP;CYP;SSI;GGOP;GEP;MI;HXIT;LYR;BBUT;MOP;YO;PUT;HXUO"⟩,
   ⟨0xa4a0, "YI RADICAL ", "TAT;GA;ZUP;CYT;DDUR;BUR;GGUO;NYOP;TU;OP;JJUT;ZOT;PYT;HMO;YIT;VUR;SHY"⟩,
   ⟨0xa4b1, "YI RADICAL ",
     "VEP;ZA;JO;NZUP;JJY;GOT;JJIE;WO;DU;SHUR;LIE;CY;CUOP;CIP;HXOP;SHAT;ZUR;SHOP;CHE;ZZIET;NBIE;KE"⟩]

/-- The names in the block Lisu. -/
def lisu : List NameRun :=
  [⟨0xa4d0, "LISU LETTER ", "BA;PA;PHA;DA;TA;THA;GA;KA;KHA;JA;CA;CHA;DZA;TSA;TSHA"⟩,
   ⟨0xa4df, "LISU LETTER ", "MA;NA;LA;SA;ZHA;ZA;NGA;HA;XA;HHA;FA;WA;SHA;YA;GHA;A;AE;E;EU;I;O;U"⟩,
   ⟨0xa4f5, "LISU LETTER ", "UE;UH;OE;TONE MYA TI;TONE NA PO;TONE MYA CYA;TONE MYA BO;TONE MYA NA"⟩,
   ⟨0xa4fd, "LISU ", "LETTER TONE MYA JEU;PUNCTUATION COMMA;PUNCTUATION FULL STOP"⟩]

/-- The names in the block Vai. -/
def vai : List NameRun :=
  [⟨0xa500, "VAI SYLLABLE ", "EE;EEN;HEE;WEE;WEEN;PEE;BHEE;BEE;MBEE;KPEE;MGBEE;GBEE;FEE"⟩,
   ⟨0xa50d, "VAI SYLLABLE ", "VEE;TEE;THEE;DHEE;DHHEE;LEE;REE;DEE;NDEE;SEE;SHEE;ZEE;ZHEE;CEE;JEE"⟩,
   ⟨0xa51c, "VAI SYLLABLE ", "NJEE;YEE;KEE;NGGEE;GEE;MEE;NEE;NYEE;I;IN;HI;HIN;WI;WIN;PI;BHI;BI"⟩,
   ⟨0xa52d, "VAI SYLLABLE ", "MBI;KPI;MGBI;GBI;FI;VI;TI;THI;DHI;DHHI;LI;RI;DI;NDI;SI;SHI;ZI;ZHI"⟩,
   ⟨0xa53f, "VAI SYLLABLE ", "CI;JI;NJI;YI;KI;NGGI;GI;MI;NI;NYI;A;AN;NGAN;HA;HAN;WA;WAN;PA;BHA"⟩,
   ⟨0xa552, "VAI SYLLABLE ", "BA;MBA;KPA;KPAN;MGBA;GBA;FA;VA;TA;THA;DHA;DHHA;LA;RA;DA;NDA;SA;SHA"⟩,
   ⟨0xa564, "VAI SYLLABLE ", "ZA;ZHA;CA;JA;NJA;YA;KA;KAN;NGGA;GA;MA;NA;NYA;OO;OON;HOO;WOO;WOON"⟩,
   ⟨0xa576, "VAI SYLLABLE ", "POO;BHOO;BOO;MBOO;KPOO;MGBOO;GBOO;FOO;VOO;TOO;THOO;DHOO;DHHOO;LOO"⟩,
   ⟨0xa584, "VAI SYLLABLE ", "ROO;DOO;NDOO;SOO;SHOO;ZOO;ZHOO;COO;JOO;NJOO;YOO;KOO;NGGOO;GOO;MOO"⟩,
   ⟨0xa593, "VAI SYLLABLE ", "NOO;NYOO;U;UN;HU;HUN;WU;WUN;PU;BHU;BU;MBU;KPU;MGBU;GBU;FU;VU;TU;THU"⟩,
   ⟨0xa5a6, "VAI SYLLABLE ", "DHU;DHHU;LU;RU;DU;NDU;SU;SHU;ZU;ZHU;CU;JU;NJU;YU;KU;NGGU;GU;MU;NU"⟩,
   ⟨0xa5b9, "VAI SYLLABLE ", "NYU;O;ON;NGON;HO;HON;WO;WON;PO;BHO;BO;MBO;KPO;MGBO;GBO;GBON;FO;VO"⟩,
   ⟨0xa5cb, "VAI SYLLABLE ", "TO;THO;DHO;DHHO;LO;RO;DO;NDO;SO;SHO;ZO;ZHO;CO;JO;NJO;YO;KO;NGGO;GO"⟩,
   ⟨0xa5de, "VAI SYLLABLE ", "MO;NO;NYO;E;EN;NGEN;HE;HEN;WE;WEN;PE;BHE;BE;MBE;KPE;KPEN;MGBE;GBE"⟩,
   ⟨0xa5f0, "VAI SYLLABLE ",
     "GBEN;FE;VE;TE;THE;DHE;DHHE;LE;RE;DE;NDE;SE;SHE;ZE;ZHE;CE;JE;NJE;YE;KE;NGGE;NGGEN;GE;GEN;ME"⟩,
   ⟨0xa609, "VAI ", "SYLLABLE NE;SYLLABLE NYE;SYLLABLE NG;SYLLABLE LENGTHENER;COMMA;FULL STOP"⟩,
   ⟨0xa60f, "VAI ", "QUESTION MARK;SYLLABLE NDOLE FA;SYLLABLE NDOLE KA;SYLLABLE NDOLE SOO"⟩,
   ⟨0xa613, "VAI SYMBOL ", "FEENG;KEENG;TING;NII;BANG;FAA;TAA;DANG;DOONG;KUNG;TONG;DO-O;JONG"⟩,
   ⟨0xa620, "VAI DIGIT ", "ZERO;ONE;TWO;THREE;FOUR;FIVE;SIX"⟩,
   ⟨0xa627, "VAI ", "DIGIT SEVEN;DIGIT EIGHT;DIGIT NINE;SYLLABLE NDOLE MA;SYLLABLE NDOLE DO"⟩]

/-- The names in the block Cyrillic Extended-B. -/
def cyrillicExtendedB : List NameRun :=
  [⟨0xa640, "CYRILLIC ", "CAPITAL LETTER ZEMLYA;SMALL LETTER ZEMLYA"⟩,
   ⟨0xa642, "CYRILLIC ", "CAPITAL LETTER DZELO;SMALL LETTER DZELO;CAPITAL LETTER REVERSED DZE"⟩,
   ⟨0xa645, "CYRILLIC ", "SMALL LETTER REVERSED DZE;CAPITAL LETTER IOTA;SMALL LETTER IOTA"⟩,
   ⟨0xa648, "CYRILLIC ", "CAPITAL LETTER DJERV;SMALL LETTER DJERV;CAPITAL LETTER MONOGRAPH UK"⟩,
   ⟨0xa64b, "CYRILLIC ", "SMALL LETTER MONOGRAPH UK;CAPITAL LETTER BROAD OMEGA"⟩,
   ⟨0xa64d, "CYRILLIC ", "SMALL LETTER BROAD OMEGA;CAPITAL LETTER NEUTRAL YER"⟩,
   ⟨0xa64f, "CYRILLIC ", "SMALL LETTER NEUTRAL YER;CAPITAL LETTER YERU WITH BACK YER"⟩,
   ⟨0xa651, "CYRILLIC ", "SMALL LETTER YERU WITH BACK YER;CAPITAL LETTER IOTIFIED YAT"⟩,
   ⟨0xa653, "CYRILLIC ", "SMALL LETTER IOTIFIED YAT;CAPITAL LETTER REVERSED YU"⟩,
   ⟨0xa655, "CYRILLIC ", "SMALL LETTER REVERSED YU;CAPITAL LETTER IOTIFIED A"⟩,
   ⟨0xa657, "CYRILLIC ", "SMALL LETTER IOTIFIED A;CAPITAL LETTER CLOSED LITTLE YUS"⟩,
   ⟨0xa659, "CYRILLIC ", "SMALL LETTER CLOSED LITTLE YUS;CAPITAL LETTER BLENDED YUS"⟩,
   ⟨0xa65b, "CYRILLIC ", "SMALL LETTER BLENDED YUS;CAPITAL LETTER IOTIFIED CLOSED LITTLE YUS"⟩,
   ⟨0xa65d, "CYRILLIC ", "SMALL LETTER IOTIFIED CLOSED LITTLE YUS;CAPITAL LETTER YN"⟩,
   ⟨0xa65f, "CYRILLIC ", "SMALL LETTER YN;CAPITAL LETTER REVERSED TSE;SMALL LETTER REVERSED TSE"⟩,
   ⟨0xa662, "CYRILLIC ", "CAPITAL LETTER SOFT DE;SMALL LETTER SOFT DE;CAPITAL LETTER SOFT EL"⟩,
   ⟨0xa665, "CYRILLIC ", "SMALL LETTER SOFT EL;CAPITAL LETTER SOFT EM;SMALL LETTER SOFT EM"⟩,
   ⟨0xa668, "CYRILLIC ", "CAPITAL LETTER MONOCULAR O;SMALL LETTER MONOCULAR O"⟩,
   ⟨0xa66a, "CYRILLIC ", "CAPITAL LETTER BINOCULAR O;SMALL LETTER BINOCULAR O"⟩,
   ⟨0xa66c, "CYRILLIC ",
     "CAPITAL LETTER DOUBLE MONOCULAR O;SMALL LETTER DOUBLE MONOCULAR O;LETTER MULTIOCULAR O"⟩,
   ⟨0xa66f, "COMBINING CYRILLIC ", "VZMET;TEN MILLIONS SIGN;HUNDRED MILLIONS SIGN"⟩,
   ⟨0xa672, "", "COMBINING CYRILLIC THOUSAND MILLIONS SIGN;SLAVONIC ASTERISK"⟩,
   ⟨0xa674, "COMBINING CYRILLIC LETTER ", "UKRAINIAN IE;I;YI;U;HARD SIGN;YERU;SOFT SIGN;OMEGA"⟩,
   ⟨0xa67c, "C", "OMBINING CYRILLIC KAVYKA;OMBINING CYRILLIC PAYEROK;YRILLIC KAVYKA"⟩,
   ⟨0xa67f, "CYRILLIC ", "PAYEROK;CAPITAL LETTER DWE;SMALL LETTER DWE;CAPITAL LETTER DZWE"⟩,
   ⟨0xa683, "CYRILLIC ", "SMALL LETTER DZWE;CAPITAL LETTER ZHWE;SMALL LETTER ZHWE"⟩,
   ⟨0xa686, "CYRILLIC ", "CAPITAL LETTER CCHE;SMALL LETTER CCHE;CAPITAL LETTER DZZE"⟩,
   ⟨0xa689, "CYRILLIC ", "SMALL LETTER DZZE;CAPITAL LETTER TE WITH MIDDLE HOOK"⟩,
   ⟨0xa68b, "CYRILLIC ", "SMALL LETTER TE WITH MIDDLE HOOK;CAPITAL LETTER TWE;SMALL LETTER TWE"⟩,
   ⟨0xa68e, "CYRILLIC ", "CAPITAL LETTER TSWE;SMALL LETTER TSWE;CAPITAL LETTER TSSE"⟩,
   ⟨0xa691, "CYRILLIC ",
     "SMALL LETTER TSSE;CAPITAL LETTER TCHE;SMALL LETTER TCHE;CAPITAL LETTER HWE;SMALL LETTER HWE"⟩,
   ⟨0xa696, "CYRILLIC ", "CAPITAL LETTER SHWE;SMALL LETTER SHWE;CAPITAL LETTER DOUBLE O"⟩,
   ⟨0xa699, "CYRILLIC ", "SMALL LETTER DOUBLE O;CAPITAL LETTER CROSSED O;SMALL LETTER CROSSED O"⟩,
   ⟨0xa69c, "MODIFIER LETTER CYRILLIC ", "HARD SIGN;SOFT SIGN"⟩,
   ⟨0xa69e, "COMBINING CYRILLIC LETTER ", "EF;IOTIFIED E"⟩]

/-- The names in the block Bamum. -/
def bamum : List NameRun :=
  [⟨0xa6a0, "BAMUM LETTER ", "A;KA;U;KU;EE;REE;TAE;O;NYI;I;LA;PA;RII;RIEE;LEEEE"⟩,
   ⟨0xa6af, "BAMUM LETTER ", "MEEEE;TAA;NDAA;NJAEM;M;SUU;MU;SHII;SI;SHEUX;SEUX;KYEE;KET;NUAE"⟩,
   ⟨0xa6bd, "BAMUM LETTER ", "NU;NJUAE;YOQ;SHU;YUQ;YA;NSHA;KEUX;PEUX;NJEE;NTEE;PUE;WUE;PEE;FEE;RU"⟩,
   ⟨0xa6cd, "BAMUM LETTER ", "LU;MI;NI;REUX;RAE;KEN;NGKWAEN;NGGA;NGA;SHO;PUAE;FU;FOM;WA;NA;LI;PI"⟩,
   ⟨0xa6de, "BAMUM LETTER ", "LOQ;KO;MBEN;REN;MEN;MA;TI;KI;MO;MBAA;TET;KPA;TEN;NTUU;SAMBA;FAAMAE"⟩,
   ⟨0xa6ee, "BAMUM ", "LETTER KOVUU;LETTER KOGHOM;COMBINING MARK KOQNDON;COMBINING MARK TUKWENTIS"⟩,
   ⟨0xa6f2, "BAMUM ", "NJAEMLI;FULL STOP;COLON;COMMA;SEMICOLON;QUESTION MARK"⟩]

/-- The names in the block Modifier Tone Letters. -/
def modifierToneLetters : List NameRun :=
  [⟨0xa700, "MODIFIER LETTER CHINESE TONE Y",
     "IN PING;ANG PING;IN SHANG;ANG SHANG;IN QU;ANG QU;IN RU;ANG RU"⟩,
   ⟨0xa708, "MODIFIER LETTER ",
     "EXTRA-HIGH DOTTED TONE BAR;HIGH DOTTED TONE BAR;MID DOTTED TONE BAR;LOW DOTTED TONE BAR"⟩,
   ⟨0xa70c, "MODIFIER LETTER EXTRA-", "LOW DOTTED TONE BAR;HIGH DOTTED LEFT-STEM TONE BAR"⟩,
   ⟨0xa70e, "MODIFIER LETTER ",
     "HIGH DOTTED LEFT-STEM TONE BAR;MID DOTTED LEFT-STEM TONE BAR;LOW DOTTED LEFT-STEM TONE BAR"⟩,
   ⟨0xa711, "MODIFIER LETTER ",
     "EXTRA-LOW DOTTED LEFT-STEM TONE BAR;EXTRA-HIGH LEFT-STEM TONE BAR;HIGH LEFT-STEM TONE BAR"⟩,
   ⟨0xa714, "MODIFIER LETTER ",
     "MID LEFT-STEM TONE BAR;LOW LEFT-STEM TONE BAR;EXTRA-LOW LEFT-STEM TONE BAR;DOT VERTICAL BAR"⟩,
   ⟨0xa718, "MODIFIER LETTER ", "DOT SLASH;DOT HORIZONTAL BAR;LOWER RIGHT CORNER ANGLE"⟩,
   ⟨0xa71b, "MODIFIER LETTER RAISED ", "UP ARROW;DOWN ARROW;EXCLAMATION MARK"⟩,
   ⟨0xa71e, "MODIFIER LETTER ", "RAISED INVERTED EXCLAMATION MARK;LOW INVERTED EXCLAMATION MARK"⟩]

/-- The names in the block Latin Extended-D. -/
def latinExtendedD : List NameRun :=
  [⟨0xa720, "MODIFIER LETTER STRESS AND ", "HIGH TONE;LOW TONE"⟩,
   ⟨0xa722, "LATIN ", "CAPITAL LETTER EGYPTOLOGICAL ALEF;SMALL LETTER EGYPTOLOGICAL ALEF"⟩,
   ⟨0xa724, "LATIN ", "CAPITAL LETTER EGYPTOLOGICAL AIN;SMALL LETTER EGYPTOLOGICAL AIN"⟩,
   ⟨0xa726, "LATIN ", "CAPITAL LETTER HENG;SMALL LETTER HENG;CAPITAL LETTER TZ;SMALL LETTER TZ"⟩,
   ⟨0xa72a, "LATIN ", "CAPITAL LETTER TRESILLO;SMALL LETTER TRESILLO;CAPITAL LETTER CUATRILLO"⟩,
   ⟨0xa72d, "LATIN ", "SMALL LETTER CUATRILLO;CAPITAL LETTER CUATRILLO WITH COMMA"⟩,
   ⟨0xa72f, "LATIN ", "SMALL LETTER CUATRILLO WITH COMMA;LETTER SMALL CAPITAL F"⟩,
   ⟨0xa731, "LATIN ", "LETTER SMALL CAPITAL S;CAPITAL LETTER AA;SMALL LETTER AA"⟩,
   ⟨0xa734, "LATIN ", "CAPITAL LETTER AO;SMALL LETTER AO;CAPITAL LETTER AU;SMALL LETTER AU"⟩,
   ⟨0xa738, "LATIN ", "CAPITAL LETTER AV;SMALL LETTER AV;CAPITAL LETTER AV WITH HORIZONTAL BAR"⟩,
   ⟨0xa73b, "LATIN ", "SMALL LETTER AV WITH HORIZONTAL BAR;CAPITAL LETTER AY;SMALL LETTER AY"⟩,
   ⟨0xa73e, "LATIN ", "CAPITAL LETTER REVERSED C WITH DOT;SMALL LETTER REVERSED C WITH DOT"⟩,
   ⟨0xa740, "LATIN ", "CAPITAL LETTER K WITH STROKE;SMALL LETTER K WITH STROKE"⟩,
   ⟨0xa742, "LATIN ", "CAPITAL LETTER K WITH DIAGONAL STROKE;SMALL LETTER K WITH DIAGONAL STROKE"⟩,
   ⟨0xa744, "LATIN CAPITAL LETTER K WITH STROKE AND DIAGONAL STROKE", ""⟩,
   ⟨0xa745, "LATIN ", "SMALL LETTER K WITH STROKE AND DIAGONAL STROKE;CAPITAL LETTER BROKEN L"⟩,
   ⟨0xa747, "LATIN ", "SMALL LETTER BROKEN L;CAPITAL LETTER L WITH HIGH STROKE"⟩,
   ⟨0xa749, "LATIN ", "SMALL LETTER L WITH HIGH STROKE;CAPITAL LETTER O WITH LONG STROKE OVERLAY"⟩,
   ⟨0xa74b, "LATIN ", "SMALL LETTER O WITH LONG STROKE OVERLAY;CAPITAL LETTER O WITH LOOP"⟩,
   ⟨0xa74d, "LATIN ", "SMALL LETTER O WITH LOOP;CAPITAL LETTER OO;SMALL LETTER OO"⟩,
   ⟨0xa750, "LATIN ",
     "CAPITAL LETTER P WITH STROKE THROUGH DESCENDER;SMALL LETTER P WITH STROKE THROUGH DESCENDER"⟩,
   ⟨0xa752, "LATIN ", "CAPITAL LETTER P WITH FLOURISH;SMALL LETTER P WITH FLOURISH"⟩,
   ⟨0xa754, "LATIN ", "CAPITAL LETTER P WITH SQUIRREL TAIL;SMALL LETTER P WITH SQUIRREL TAIL"⟩,
   ⟨0xa756, "LATIN ",
     "CAPITAL LETTER Q WITH STROKE THROUGH DESCENDER;SMALL LETTER Q WITH STROKE THROUGH DESCENDER"⟩,
   ⟨0xa758, "LATIN ", "CAPITAL LETTER Q WITH DIAGONAL STROKE;SMALL LETTER Q WITH DIAGONAL STROKE"⟩,
   ⟨0xa75a, "LATIN ", "CAPITAL LETTER R ROTUNDA;SMALL LETTER R ROTUNDA;CAPITAL LETTER RUM ROTUNDA"⟩,
   ⟨0xa75d, "LATIN ", "SMALL LETTER RUM ROTUNDA;CAPITAL LETTER V WITH DIAGONAL STROKE"⟩,
   ⟨0xa75f, "LATIN ", "SMALL LETTER V WITH DIAGONAL STROKE;CAPITAL LETTER VY"⟩,
   ⟨0xa761, "LATIN ", "SMALL LETTER VY;CAPITAL LETTER VISIGOTHIC Z;SMALL LETTER VISIGOTHIC Z"⟩,
   ⟨0xa764, "LATIN ", "CAPITAL LETTER THORN WITH STROKE;SMALL LETTER THORN WITH STROKE"⟩,
   ⟨0xa766, "LATIN CAPITAL LETTER THORN WITH STROKE THROUGH DESCENDER", ""⟩,
   ⟨0xa767, "LATIN ", "SMALL LETTER THORN WITH STROKE THROUGH DESCENDER;CAPITAL LETTER VEND"⟩,
   ⟨0xa769, "LATIN ", "SMALL LETTER VEND;CAPITAL LETTER ET;SMALL LETTER ET;CAPITAL LETTER IS"⟩,
   ⟨0xa76d, "",
     "LATIN SMALL LETTER IS;LATIN CAPITAL LETTER CON;LATIN SMALL LETTER CON;MODIFIER LETTER US"⟩,
   ⟨0xa771, "LATIN SMALL LETTER ", "DUM;LUM;MUM;NUM"⟩,
   ⟨0xa775, "LATIN ", "SMALL LETTER RUM;LETTER SMALL CAPITAL RUM;SMALL LETTER TUM"⟩,
   ⟨0xa778, "LATIN ", "SMALL LETTER UM;CAPITAL LETTER INSULAR D;SMALL LETTER INSULAR D"⟩,
   ⟨0xa77b, "LATIN ", "CAPITAL LETTER INSULAR F;SMALL LETTER INSULAR F;CAPITAL LETTER INSULAR G"⟩,
   ⟨0xa77e, "LATIN ", "CAPITAL LETTER TURNED INSULAR G;SMALL LETTER TURNED INSULAR G"⟩,
   ⟨0xa780, "LATIN ", "CAPITAL LETTER TURNED L;SMALL LETTER TURNED L"⟩,
   ⟨0xa782, "LATIN ", "CAPITAL LETTER INSULAR R;SMALL LETTER INSULAR R;CAPITAL LETTER INSULAR S"⟩,
   ⟨0xa785, "LATIN ", "SMALL LETTER INSULAR S;CAPITAL LETTER INSULAR T;SMALL LETTER INSULAR T"⟩,
   ⟨0xa788, "MODIFIER LETTER ", "LOW CIRCUMFLEX ACCENT;COLON;SHORT EQUALS SIGN"⟩,
   ⟨0xa78b, "LATIN ", "CAPITAL LETTER SALTILLO;SMALL LETTER SALTILLO;CAPITAL LETTER TURNED H"⟩,
   ⟨0xa78e, "LATIN ", "SMALL LETTER L WITH RETROFLEX HOOK AND BELT;LETTER SINOLOGICAL DOT"⟩,
   ⟨0xa790, "LATIN ", "CAPITAL LETTER N WITH DESCENDER;SMALL LETTER N WITH DESCENDER"⟩,
   ⟨0xa792, "LATIN ",
     "CAPITAL LETTER C WITH BAR;SMALL LETTER C WITH BAR;SMALL LETTER C WITH PALATAL HOOK"⟩,
   ⟨0xa795, "LATIN ", "SMALL LETTER H WITH PALATAL HOOK;CAPITAL LETTER B WITH FLOURISH"⟩,
   ⟨0xa797, "LATIN ", "SMALL LETTER B WITH FLOURISH;CAPITAL LETTER F WITH STROKE"⟩,
   ⟨0xa799, "LATIN ", "SMALL LETTER F WITH STROKE;CAPITAL LETTER VOLAPUK AE"⟩,
   ⟨0xa79b, "LATIN ", "SMALL LETTER VOLAPUK AE;CAPITAL LETTER VOLAPUK OE"⟩,
   ⟨0xa79d, "LATIN ", "SMALL LETTER VOLAPUK OE;CAPITAL LETTER VOLAPUK UE;SMALL LETTER VOLAPUK UE"⟩,
   ⟨0xa7a0, "LATIN ", "CAPITAL LETTER G WITH OBLIQUE STROKE;SMALL LETTER G WITH OBLIQUE STROKE"⟩,
   ⟨0xa7a2, "LATIN ", "CAPITAL LETTER K WITH OBLIQUE STROKE;SMALL LETTER K WITH OBLIQUE STROKE"⟩,
   ⟨0xa7a4, "LATIN ", "CAPITAL LETTER N WITH OBLIQUE STROKE;SMALL LETTER N WITH OBLIQUE STROKE"⟩,
   ⟨0xa7a6, "LATIN ", "CAPITAL LETTER R WITH OBLIQUE STROKE;SMALL LETTER R WITH OBLIQUE STROKE"⟩,
   ⟨0xa7a8, "LATIN ", "CAPITAL LETTER S WITH OBLIQUE STROKE;SMALL LETTER S WITH OBLIQUE STROKE"⟩,
   ⟨0xa7aa, "LATIN CAPITAL LETTER ", "H WITH HOOK;REVERSED OPEN E;SCRIPT G;L WITH BELT"⟩,
   ⟨0xa7ae, "LATIN ", "CAPITAL LETTER SMALL CAPITAL I;LETTER SMALL CAPITAL Q"⟩,
   ⟨0xa7b0, "LATIN CAPITAL LETTER ", "TURNED K;TURNED T;J WITH CROSSED-TAIL;CHI"⟩,
   ⟨0xa7b4, "LATIN ", "CAPITAL LETTER BETA;SMALL LETTER BETA;CAPITAL LETTER OMEGA"⟩,
   ⟨0xa7b7, "LATIN ", "SMALL LETTER OMEGA;CAPITAL LETTER U WITH STROKE;SMALL LETTER U WITH STROKE"⟩,
   ⟨0xa7ba, "LATIN ", "CAPITAL LETTER GLOTTAL A;SMALL LETTER GLOTTAL A;CAPITAL LETTER GLOTTAL I"⟩,
   ⟨0xa7bd, "LATIN ", "SMALL LETTER GLOTTAL I;CAPITAL LETTER GLOTTAL U;SMALL LETTER GLOTTAL U"⟩,
   ⟨0xa7c0, "LATIN ", "CAPITAL LETTER OLD POLISH O;SMALL LETTER OLD POLISH O"⟩,
   ⟨0xa7c2, "LATIN ", "CAPITAL LETTER ANGLICANA W;SMALL LETTER ANGLICANA W"⟩,
   ⟨0xa7c4, "LATIN CAPITAL LETTER ", "C WITH PALATAL HOOK;S WITH HOOK;Z WITH PALATAL HOOK"⟩,
   ⟨0xa7c7, "LATIN ",
     "CAPITAL LETTER D WITH SHORT STROKE OVERLAY;SMALL LETTER D WITH SHORT STROKE OVERLAY"⟩,
   ⟨0xa7c9, "LATIN ",
     "CAPITAL LETTER S WITH SHORT STROKE OVERLAY;SMALL LETTER S WITH SHORT STROKE OVERLAY"⟩,
   ⟨0xa7d0, "LATIN ", "CAPITAL LETTER CLOSED INSULAR G;SMALL LETTER CLOSED INSULAR G"⟩,
   ⟨0xa7d3, "LATIN SMALL LETTER DOUBLE THORN", ""⟩,
   ⟨0xa7d5, "LATIN ", "SMALL LETTER DOUBLE WYNN;CAPITAL LETTER MIDDLE SCOTS S"⟩,
   ⟨0xa7d7, "LATIN ",
     "SMALL LETTER MIDDLE SCOTS S;CAPITAL LETTER SIGMOID S;SMALL LETTER SIGMOID S"⟩,
   ⟨0xa7f2, "MODIFIER LETTER CAPITAL ", "C;F;Q"⟩,
   ⟨0xa7f5, "LATIN ", "CAPITAL LETTER REVERSED HALF H;SMALL LETTER REVERSED HALF H"⟩,
   ⟨0xa7f7, "", "LATIN EPIGRAPHIC LETTER SIDEWAYS I;MODIFIER LETTER CAPITAL H WITH STROKE"⟩,
   ⟨0xa7f9, "", "MODIFIER LETTER SMALL LIGATURE OE;LATIN LETTER SMALL CAPITAL TURNED M"⟩,
   ⟨0xa7fb, "LATIN EPIGRAPHIC LETTER ", "REVERSED F;REVERSED P;INVERTED M;I LONGA;ARCHAIC M"⟩]

/-- The names in the block Syloti Nagri. -/
def sylotiNagri : List NameRun :=
  [⟨0xa800, "SYLOTI NAGRI ", "LETTER A;LETTER I;SIGN DVISVARA;LETTER U;LETTER E"⟩,
   ⟨0xa805, "SYLOTI NAGRI ", "LETTER O;SIGN HASANTA;LETTER KO;LETTER KHO;LETTER GO;LETTER GHO"⟩,
   ⟨0xa80b, "SYLOTI NAGRI ", "SIGN ANUSVARA;LETTER CO;LETTER CHO;LETTER JO;LETTER JHO;LETTER TTO"⟩,
   ⟨0xa811, "SYLOTI NAGRI LETTER ", "TTHO;DDO;DDHO;TO;THO;DO;DHO;NO;PO;PHO;BO;BHO;MO;RO;LO;RRO;SO"⟩,
   ⟨0xa822, "SYLOTI NAGRI ",
     "LETTER HO;VOWEL SIGN A;VOWEL SIGN I;VOWEL SIGN U;VOWEL SIGN E;VOWEL SIGN OO;POETRY MARK-1"⟩,
   ⟨0xa829, "SYLOTI NAGRI ", "POETRY MARK-2;POETRY MARK-3;POETRY MARK-4;SIGN ALTERNATE HASANTA"⟩]

/-- The names in the block Common Indic Number Forms. -/
def commonIndicNumberForms : List NameRun :=
  [⟨0xa830, "NORTH INDIC FRACTION ",
     "ONE QUARTER;ONE HALF;THREE QUARTERS;ONE SIXTEENTH;ONE EIGHTH;THREE SIXTEENTHS"⟩,
   ⟨0xa836, "NORTH INDIC ", "QUARTER MARK;PLACEHOLDER MARK;RUPEE MARK;QUANTITY MARK"⟩]

/-- The names in the block Phags-pa. -/
def phagsPa : List NameRun :=
  [⟨0xa840, "PHAGS-PA LETTER ", "KA;KHA;GA;NGA;CA;CHA;JA;NYA;TA;THA;DA;NA;PA;PHA;BA;MA;TSA"⟩,
   ⟨0xa851, "PHAGS-PA LETTER ", "TSHA;DZA;WA;ZHA;ZA;SMALL A;YA;RA;LA;SHA;SA;HA;A;I;U;E;O;QA;XA;FA"⟩,
   ⟨0xa865, "PHAGS-PA ", "LETTER GGA;LETTER EE;SUBJOINED LETTER WA;SUBJOINED LETTER YA;LETTER TTA"⟩,
   ⟨0xa86a, "PHAGS-PA LETTER ", "TTHA;DDA;NNA;ALTERNATE YA;VOICELESS SHA;VOICED HA;ASPIRATED FA"⟩,
   ⟨0xa871, "PHAGS-PA ", "SUBJOINED LETTER RA;SUPERFIXED LETTER RA;LETTER CANDRABINDU"⟩,
   ⟨0xa874, "PHAGS-PA ", "SINGLE HEAD MARK;DOUBLE HEAD MARK;MARK SHAD;MARK DOUBLE SHAD"⟩]

/-- The names in the block Saurashtra. -/
def saurashtra : List NameRun :=
  [⟨0xa880, "SAURASHTRA ", "SIGN ANUSVARA;SIGN VISARGA;LETTER A"⟩,
   ⟨0xa883, "SAURASHTRA LETTER ", "AA;I;II;U;UU;VOCALIC R;VOCALIC RR;VOCALIC L;VOCALIC LL;E;EE;AI"⟩,
   ⟨0xa88f, "SAURASHTRA LETTER ", "O;OO;AU;KA;KHA;GA;GHA;NGA;CA;CHA;JA;JHA;NYA;TTA;TTHA;DDA;DDHA"⟩,
   ⟨0xa8a0, "SAURASHTRA LETTER ", "NNA;TA;THA;DA;DHA;NA;PA;PHA;BA;BHA;MA;YA;RA;LA;VA;SHA;SSA;SA"⟩,
   ⟨0xa8b2, "SAURASHTRA ", "LETTER HA;LETTER LLA;CONSONANT SIGN HAARU;VOWEL SIGN AA;VOWEL SIGN I"⟩,
   ⟨0xa8b7, "SAURASHTRA VOWEL SIGN ", "II;U;UU;VOCALIC R;VOCALIC RR;VOCALIC L;VOCALIC LL;E;EE;AI"⟩,
   ⟨0xa8c1, "SAURASHTRA ", "VOWEL SIGN O;VOWEL SIGN OO;VOWEL SIGN AU;SIGN VIRAMA;SIGN CANDRABINDU"⟩,
   ⟨0xa8ce, "SAURASHTRA D", "ANDA;OUBLE DANDA"⟩,
   ⟨0xa8d0, "SAURASHTRA DIGIT ", "ZERO;ONE;TWO;THREE;FOUR;FIVE;SIX;SEVEN;EIGHT;NINE"⟩]

/-- The names in the block Devanagari Extended. -/
def devanagariExtended : List NameRun :=
  [⟨0xa8e0, "COMBINING DEVANAGARI DIGIT ", "ZERO;ONE;TWO;THREE;FOUR;FIVE;SIX;SEVEN;EIGHT;NINE"⟩,
   ⟨0xa8ea, "COMBINING DEVANAGARI ",
     "LETTER A;LETTER U;LETTER KA;LETTER NA;LETTER PA;LETTER RA;LETTER VI;SIGN AVAGRAHA"⟩,
   ⟨0xa8f2, "DEVANAGARI SIGN ", "SPACING CANDRABINDU;CANDRABINDU VIRAMA;DOUBLE CANDRABINDU VIRAMA"⟩,
   ⟨0xa8f5, "DEVANAGARI SIGN ", "CANDRABINDU TWO;CANDRABINDU THREE;CANDRABINDU AVAGRAHA;PUSHPIKA"⟩,
   ⟨0xa8f9, "DEVANAGARI ",
     "GAP FILLER;CARET;HEADSTROKE;SIGN SIDDHAM;JAIN OM;LETTER AY;VOWEL SIGN AY"⟩]

/-- The names in the block Kayah Li. -/
def kayahLi : List NameRun :=
  [⟨0xa900, "KAYAH LI DIGIT ", "ZERO;ONE;TWO;THREE;FOUR;FIVE;SIX;SEVEN;EIGHT;NINE"⟩,
   ⟨0xa90a, "KAYAH LI LETTER ",
     "KA;KHA;GA;NGA;SA;SHA;ZA;NYA;TA;HTA;NA;PA;PHA;MA;DA;BA;RA;YA;LA;WA;THA;HA;VA;CA"⟩,
   ⟨0xa922, "KAYAH LI ", "LETTER A;LETTER OE;LETTER I;LETTER OO;VOWEL UE;VOWEL E;VOWEL U;VOWEL EE"⟩,
   ⟨0xa92a, "KAYAH LI ", "VOWEL O;TONE PLOPHU;TONE CALYA;TONE CALYA PLOPHU;SIGN CWI;SIGN SHYA"⟩]

/-- The names in the block Rejang. -/
def rejang : List NameRun :=
  [⟨0xa930, "REJANG LETTER ", "KA;GA;NGA;TA;DA;NA;PA;BA;MA;CA;JA;NYA;SA;RA;LA;YA;WA;HA;MBA;NGGA"⟩,
   ⟨0xa944, "REJANG ", "LETTER NDA;LETTER NYJA;LETTER A;VOWEL SIGN I;VOWEL SIGN U;VOWEL SIGN E"⟩,
   ⟨0xa94a, "REJANG ",
     "VOWEL SIGN AI;VOWEL SIGN O;VOWEL SIGN AU;VOWEL SIGN EU;VOWEL SIGN EA;CONSONANT SIGN NG"⟩,
   ⟨0xa950, "REJANG ", "CONSONANT SIGN N;CONSONANT SIGN R;CONSONANT SIGN H;VIRAMA"⟩,
   ⟨0xa95f, "REJANG SECTION MARK", ""⟩]

/-- The names in the block Hangul Jamo Extended-A. -/
def hangulJamoExtendedA : List NameRun :=
  [⟨0xa960, "HANGUL CHOSEONG ", "TIKEUT-MIEUM;TIKEUT-PIEUP;TIKEUT-SIOS;TIKEUT-CIEUC;RIEUL-KIYEOK"⟩,
   ⟨0xa965, "HANGUL CHOSEONG RIEUL-",
     "SSANGKIYEOK;TIKEUT;SSANGTIKEUT;MIEUM;PIEUP;SSANGPIEUP;KAPYEOUNPIEUP;SIOS;CIEUC;KHIEUKH"⟩,
   ⟨0xa96f, "HANGUL CHOSEONG ", "MIEUM-KIYEOK;MIEUM-TIKEUT;MIEUM-SIOS;PIEUP-SIOS-THIEUTH"⟩,
   ⟨0xa973, "HANGUL CHOSEONG ", "PIEUP-KHIEUKH;PIEUP-HIEUH;SSANGSIOS-PIEUP;IEUNG-RIEUL"⟩,
   ⟨0xa977, "HANGUL CHOSEONG ",
     "IEUNG-HIEUH;SSANGCIEUC-HIEUH;SSANGTHIEUTH;PHIEUPH-HIEUH;HIEUH-SIOS;SSANGYEORINHIEUH"⟩]

/-- The names in the block Javanese. -/
def javanese : List NameRun :=
  [⟨0xa980, "JAVANESE ", "SIGN PANYANGGA;SIGN CECAK;SIGN LAYAR;SIGN WIGNYAN;LETTER A"⟩,
   ⟨0xa985, "JAVANESE LETTER ", "I KAWI;I;II;U;PA CEREK;NGA LELET;NGA LELET RASWADI"⟩,
   ⟨0xa98c, "JAVANESE LETTER ", "E;AI;O;KA;KA SASAK;KA MURDA;GA;GA MURDA;NGA;CA;CA MURDA;JA"⟩,
   ⟨0xa998, "JAVANESE LETTER ", "NYA MURDA;JA MAHAPRANA;NYA;TTA;TTA MAHAPRANA;DDA;DDA MAHAPRANA"⟩,
   ⟨0xa99f, "JAVANESE LETTER ", "NA MURDA;TA;TA MURDA;DA;DA MAHAPRANA;NA;PA;PA MURDA"⟩,
   ⟨0xa9a7, "JAVANESE LETTER ", "BA;BA MURDA;MA;YA;RA;RA AGUNG;LA;WA;SA MURDA;SA MAHAPRANA"⟩,
   ⟨0xa9b1, "JAVANESE ", "LETTER SA;LETTER HA;SIGN CECAK TELU;VOWEL SIGN TARUNG"⟩,
   ⟨0xa9b5, "JAVANESE VOWEL SIGN ", "TOLONG;WULU;WULU MELIK;SUKU;SUKU MENDUT;TALING;DIRGA MURE"⟩,
   ⟨0xa9bc, "JAVANESE ", "VOWEL SIGN PEPET;CONSONANT SIGN KERET;CONSONANT SIGN PENGKAL"⟩,
   ⟨0xa9bf, "JAVANESE ", "CONSONANT SIGN CAKRA;PANGKON;LEFT RERENGGAN;RIGHT RERENGGAN"⟩,
   ⟨0xa9c3, "JAVANESE PADA ", "ANDAP;MADYA;LUHUR;WINDU;PANGKAT;LINGSA"⟩,
   ⟨0xa9c9, "JAVANESE ", "PADA LUNGSI;PADA ADEG;PADA ADEG ADEG;PADA PISELEH;TURNED PADA PISELEH"⟩,
   ⟨0xa9cf, "JAVANESE ", "PANGRANGKEP;DIGIT ZERO"⟩,
   ⟨0xa9d1, "JAVANESE DIGIT ", "ONE;TWO;THREE;FOUR;FIVE;SIX;SEVEN;EIGHT;NINE"⟩,
   ⟨0xa9de, "JAVANESE PADA ", "TIRTA TUMETES;ISEN-ISEN"⟩]

/-- The names in the block Myanmar Extended-B. -/
def myanmarExtendedB : List NameRun :=
  [⟨0xa9e0, "MYANMAR LETTER SHAN ", "GHA;CHA;JHA;NNA"⟩,
   ⟨0xa9e4, "MYANMAR ", "LETTER SHAN BHA;SIGN SHAN SAW;MODIFIER LETTER SHAN REDUPLICATION"⟩,
   ⟨0xa9e7, "MYANMAR LETTER TAI LAING ", "NYA;FA;GA;GHA;JA;JHA;DDA;DDHA;NNA"⟩,
   ⟨0xa9f0, "MYANMAR TAI LAING DIGIT ", "ZERO;ONE;TWO;THREE;FOUR;FIVE;SIX;SEVEN;EIGHT;NINE"⟩,
   ⟨0xa9fa, "MYANMAR LETTER TAI LAING ", "LLA;DA;DHA;BA;BHA"⟩]

/-- The names in the block Cham. -/
def cham : List NameRun :=
  [⟨0xaa00, "CHAM LETTER ", "A;I;U;E;AI;O;KA;KHA;GA;GHA;NGUE;NGA;CHA;CHHA;JA;JHA"⟩,
   ⟨0xaa10, "CHAM LETTER ",
     "NHUE;NHA;NHJA;TA;THA;DA;DHA;NUE;NA;DDA;PA;PPA;PHA;BA;BHA;MUE;MA;BBA;YA;RA;LA;VA;SSA;SA;HA"⟩,
   ⟨0xaa29, "CHAM VOWEL SIGN ", "AA;I;II;EI;U;OE;O;AI;AU;UE"⟩,
   ⟨0xaa33, "CHAM CONSONANT SIGN ", "YA;RA;LA;WA"⟩,
   ⟨0xaa40, "CHAM ", "LETTER FINAL K;LETTER FINAL G;LETTER FINAL NG;CONSONANT SIGN FINAL NG"⟩,
   ⟨0xaa44, "CHAM LETTER FINAL ", "CH;T;N;P;Y;R;L"⟩,
   ⟨0xaa4b, "CHAM ", "LETTER FINAL SS;CONSONANT SIGN FINAL M;CONSONANT SIGN FINAL H"⟩,
   ⟨0xaa50, "CHAM DIGIT ", "ZERO;ONE;TWO;THREE;FOUR;FIVE;SIX;SEVEN;EIGHT;NINE"⟩,
   ⟨0xaa5c, "CHAM PUNCTUATION ", "SPIRAL;DANDA;DOUBLE DANDA;TRIPLE DANDA"⟩]

/-- The names in the block Myanmar Extended-A. -/
def myanmarExtendedA : List NameRun :=
  [⟨0xaa60, "MYANMAR LETTER KHAMTI ", "GA;CA;CHA;JA;JHA;NYA;TTA;TTHA;DDA;DDHA;DHA;NA;SA;HA;HHA;FA"⟩,
   ⟨0xaa70, "MYANMAR ", "MODIFIER LETTER KHAMTI REDUPLICATION;LETTER KHAMTI XA;LETTER KHAMTI ZA"⟩,
   ⟨0xaa73, "MYANMAR L", "ETTER KHAMTI RA;OGOGRAM KHAMTI OAY;OGOGRAM KHAMTI QN;OGOGRAM KHAMTI HM"⟩,
   ⟨0xaa77, "MYANMAR SYMBOL AITON ", "EXCLAMATION;ONE;TWO"⟩,
   ⟨0xaa7a, "MYANMAR ", "LETTER AITON RA;SIGN PAO KAREN TONE;SIGN TAI LAING TONE-2"⟩,
   ⟨0xaa7d, "MYANMAR ", "SIGN TAI LAING TONE-5;LETTER SHWE PALAUNG CHA;LETTER SHWE PALAUNG SHA"⟩]

/-- The names in the block Tai Viet. -/
def taiViet : List NameRun :=
  [⟨0xaa80, "TAI VIET LETTER ", "LOW KO;HIGH KO;LOW KHO;HIGH KHO;LOW KHHO;HIGH KHHO"⟩,
   ⟨0xaa86, "TAI VIET LETTER ", "LOW GO;HIGH GO;LOW NGO;HIGH NGO;LOW CO;HIGH CO;LOW CHO;HIGH CHO"⟩,
   ⟨0xaa8e, "TAI VIET LETTER ", "LOW SO;HIGH SO;LOW NYO;HIGH NYO;LOW DO;HIGH DO;LOW TO;HIGH TO"⟩,
   ⟨0xaa96, "TAI VIET LETTER ", "LOW THO;HIGH THO;LOW NO;HIGH NO;LOW BO;HIGH BO;LOW PO;HIGH PO"⟩,
   ⟨0xaa9e, "TAI VIET LETTER ", "LOW PHO;HIGH PHO;LOW FO;HIGH FO;LOW MO;HIGH MO;LOW YO;HIGH YO"⟩,
   ⟨0xaaa6, "TAI VIET LETTER ", "LOW RO;HIGH RO;LOW LO;HIGH LO;LOW VO;HIGH VO;LOW HO;HIGH HO"⟩,
   ⟨0xaaae, "TAI VIET ", "LETTER LOW O;LETTER HIGH O;MAI KANG;VOWEL AA;VOWEL I;VOWEL UE;VOWEL U"⟩,
   ⟨0xaab5, "TAI VIET ", "VOWEL E;VOWEL O;MAI KHIT;VOWEL IA;VOWEL UEA;VOWEL UA;VOWEL AUE;VOWEL AY"⟩,
   ⟨0xaabd, "TAI VIET ", "VOWEL AN;VOWEL AM;TONE MAI EK;TONE MAI NUENG;TONE MAI THO;TONE MAI SONG"⟩,
   ⟨0xaadb, "TAI VIET SYMBOL ", "KON;NUENG;SAM;HO HOI;KOI KOI"⟩]

/-- The names in the block Meetei Mayek Extensions. -/
def meeteiMayekExtensions : List NameRun :=
  [⟨0xaae0, "MEETEI MAYEK LETTER ", "E;O;CHA;NYA;TTA;TTHA;DDA;DDHA;NNA;SHA"⟩,
   ⟨0xaaea, "MEETEI MAYEK ", "LETTER SSA;VOWEL SIGN II;VOWEL SIGN UU;VOWEL SIGN AAI;VOWEL SIGN AU"⟩,
   ⟨0xaaef, "MEETEI MAYEK ", "VOWEL SIGN AAU;CHEIKHAN;AHANG KHUDAM;ANJI;SYLLABLE REPETITION MARK"⟩,
   ⟨0xaaf4, "MEETEI MAYEK ", "WORD REPETITION MARK;VOWEL SIGN VISARGA;VIRAMA"⟩]

/-- The names in the block Ethiopic Extended-A. -/
def ethiopicExtendedA : List NameRun :=
  [⟨0xab01, "ETHIOPIC SYLLABLE TTH", "U;I;AA;EE;E;O"⟩,
   ⟨0xab09, "ETHIOPIC SYLLABLE DDH", "U;I;AA;EE;E;O"⟩,
   ⟨0xab11, "ETHIOPIC SYLLABLE DZ", "U;I;AA;EE;E;O"⟩,
   ⟨0xab20, "ETHIOPIC SYLLABLE CCHH", "A;U;I;AA;EE;E;O"⟩,
   ⟨0xab28, "ETHIOPIC SYLLABLE BB", "A;U;I;AA;EE;E;O"⟩]

/-- The names in the block Latin Extended-E. -/
def latinExtendedE : List NameRun :=
  [⟨0xab30, "LATIN SMALL LETTER ", "BARRED ALPHA;A REVERSED-SCHWA;BLACKLETTER E"⟩,
   ⟨0xab33, "LATIN SMALL LETTER ", "BARRED E;E WITH FLOURISH;LENIS F;SCRIPT G WITH CROSSED-TAIL"⟩,
   ⟨0xab37, "LATIN SMALL LETTER L WITH ", "INVERTED LAZY S;DOUBLE MIDDLE TILDE"⟩,
   ⟨0xab39, "LATIN SMALL LETTER ", "L WITH MIDDLE RING;M WITH CROSSED-TAIL;N WITH CROSSED-TAIL"⟩,
   ⟨0xab3c, "LATIN SMALL LETTER ", "ENG WITH CROSSED-TAIL;BLACKLETTER O;BLACKLETTER O WITH STROKE"⟩,
   ⟨0xab3f, "LATIN SMALL LETTER ", "OPEN O WITH STROKE;INVERTED OE;TURNED OE WITH STROKE"⟩,
   ⟨0xab42, "LATIN SMALL LETTER ",
     "TURNED OE WITH HORIZONTAL STROKE;TURNED O OPEN-O;TURNED O OPEN-O WITH STROKE;STIRRUP R"⟩,
   ⟨0xab46, "LATIN ", "LETTER SMALL CAPITAL R WITH RIGHT LEG;SMALL LETTER R WITHOUT HANDLE"⟩,
   ⟨0xab48, "LATIN SMALL LETTER ", "DOUBLE R;R WITH CROSSED-TAIL;DOUBLE R WITH CROSSED-TAIL"⟩,
   ⟨0xab4b, "LATIN SMALL LETTER ",
     "SCRIPT R;SCRIPT R WITH RING;BASELINE ESH;U WITH SHORT RIGHT LEG;U BAR WITH SHORT RIGHT LEG"⟩,
   ⟨0xab50, "LATIN SMALL LETTER ", "UI;TURNED UI;U WITH LEFT HOOK;CHI;CHI WITH LOW RIGHT RING"⟩,
   ⟨0xab55, "LATIN SMALL LETTER ", "CHI WITH LOW LEFT SERIF;X WITH LOW RIGHT RING"⟩,
   ⟨0xab57, "LATIN SMALL LETTER X WITH LONG LEFT LEG", "; AND LOW RIGHT RING; WITH SERIF"⟩,
   ⟨0xab5a, "", "LATIN SMALL LETTER Y WITH SHORT RIGHT LEG;MODIFIER BREVE WITH INVERTED BREVE"⟩,
   ⟨0xab5c, "MODIFIER LETTER SMALL ",
     "HENG;L WITH INVERTED LAZY S;L WITH MIDDLE TILDE;U WITH LEFT HOOK"⟩,
   ⟨0xab60, "LATIN SMALL LETTER ", "SAKHA YAT;IOTIFIED E;OPEN OE;UO"⟩,
   ⟨0xab64, "", "LATIN SMALL LETTER INVERTED ALPHA;GREEK LETTER SMALL CAPITAL OMEGA"⟩,
   ⟨0xab66, "LATIN SMALL LETTER ",
     "DZ DIGRAPH WITH RETROFLEX HOOK;TS DIGRAPH WITH RETROFLEX HOOK;TURNED R WITH MIDDLE TILDE"⟩,
   ⟨0xab69, "MODIFIER LETTER ", "SMALL TURNED W;LEFT TACK;RIGHT TACK"⟩]

/-- The names in the block Cherokee Supplement. -/
def cherokeeSupplement : List NameRun :=
  [⟨0xab70, "CHEROKEE SMALL LETTER ", "A;E;I;O;U;V;GA;KA;GE;GI;GO;GU;GV;HA;HE;HI;HO"⟩,
   ⟨0xab81, "CHEROKEE SMALL LETTER ", "HU;HV;LA;LE;LI;LO;LU;LV;MA;ME;MI;MO;MU;NA;HNA;NAH;NE;NI;NO"⟩,
   ⟨0xab94, "CHEROKEE SMALL LETTER ", "NU;NV;QUA;QUE;QUI;QUO;QUU;QUV;SA;S;SE;SI;SO;SU;SV;DA;TA;DE"⟩,
   ⟨0xaba6, "CHEROKEE SMALL LETTER ",
     "TE;DI;TI;DO;DU;DV;DLA;TLA;TLE;TLI;TLO;TLU;TLV;TSA;TSE;TSI;TSO;TSU;TSV;WA;WE;WI;WO;WU;WV;YA"⟩]

/-- The names in the block Meetei Mayek. -/
def meeteiMayek : List NameRun :=
  [⟨0xabc0, "MEETEI MAYEK LETTER ", "KOK;SAM;LAI;MIT;PA;NA;CHIL;TIL;KHOU;NGOU;THOU;WAI"⟩,
   ⟨0xabcc, "MEETEI MAYEK LETTER ", "YANG;HUK;UN;I;PHAM;ATIYA;GOK;JHAM;RAI;BA;JIL;DIL;GHOU;DHOU"⟩,
   ⟨0xabda, "MEETEI MAYEK LETTER ",
     "BHAM;KOK LONSUM;LAI LONSUM;MIT LONSUM;PA LONSUM;NA LONSUM;TIL LONSUM;NGOU LONSUM;I LONSUM"⟩,
   ⟨0xabe3, "MEETEI MAYEK VOWEL SIGN ", "ONAP;INAP;ANAP;YENAP;SOUNAP;UNAP"⟩,
   ⟨0xabe9, "MEETEI MAYEK ", "VOWEL SIGN CHEINAP;VOWEL SIGN NUNG;CHEIKHEI;LUM IYEK;APUN IYEK"⟩,
   ⟨0xabf0, "MEETEI MAYEK DIGIT ", "ZERO;ONE;TWO;THREE;FOUR;FIVE;SIX;SEVEN;EIGHT;NINE"⟩]

/-- The names in the block Hangul Jamo Extended-B. -/
def hangulJamoExtendedB : List NameRun :=
  [⟨0xd7b0, "HANGUL JUNGSEONG ", "O-YEO;O-O-I;YO-A;YO-AE;YO-EO;U-YEO;U-I-I"⟩,
   ⟨0xd7b7, "HANGUL JUNGSEONG ",
     "YU-AE;YU-O;EU-A;EU-EO;EU-E;EU-O;I-YA-O;I-YAE;I-YEO;I-YE;I-O-I;I-YO;I-YU;I-I;ARAEA-A;ARAEA-E"⟩,
   ⟨0xd7cb, "HANGUL JONGSEONG ", "NIEUN-RIEUL;NIEUN-CHIEUCH;SSANGTIKEUT;SSANGTIKEUT-PIEUP"⟩,
   ⟨0xd7cf, "HANGUL JONGSEONG TIKEUT-", "PIEUP;SIOS;SIOS-KIYEOK;CIEUC;CHIEUCH;THIEUTH"⟩,
   ⟨0xd7d5, "HANGUL JONGSEONG ", "RIEUL-SSANGKIYEOK;RIEUL-KIYEOK-HIEUH;SSANGRIEUL-KHIEUKH"⟩,
   ⟨0xd7d8, "HANGUL JONGSEONG RIEUL-", "MIEUM-HIEUH;PIEUP-TIKEUT;PIEUP-PHIEUPH;YESIEUNG"⟩,
   ⟨0xd7dc, "HANGUL JONGSEONG ", "RIEUL-YEORINHIEUH-HIEUH;KAPYEOUNRIEUL;MIEUM-NIEUN"⟩,
   ⟨0xd7df, "HANGUL JONGSEONG ", "MIEUM-SSANGNIEUN;SSANGMIEUM;MIEUM-PIEUP-SIOS;MIEUM-CIEUC"⟩,
   ⟨0xd7e3, "HANGUL JONGSEONG ", "PIEUP-TIKEUT;PIEUP-RIEUL-PHIEUPH;PIEUP-MIEUM;SSANGPIEUP"⟩,
   ⟨0xd7e7, "HANGUL JONGSEONG ", "PIEUP-SIOS-TIKEUT;PIEUP-CIEUC;PIEUP-CHIEUCH;SIOS-MIEUM"⟩,
   ⟨0xd7eb, "HANGUL JONGSEONG S", "IOS-KAPYEOUNPIEUP;SANGSIOS-KIYEOK;SANGSIOS-TIKEUT;IOS-PANSIOS"⟩,
   ⟨0xd7ef, "HANGUL JONGSEONG ", "SIOS-CIEUC;SIOS-CHIEUCH;SIOS-THIEUTH;SIOS-HIEUH;PANSIOS-PIEUP"⟩,
   ⟨0xd7f4, "HANGUL JONGSEONG ", "PANSIOS-KAPYEOUNPIEUP;YESIEUNG-MIEUM;YESIEUNG-HIEUH;CIEUC-PIEUP"⟩,
   ⟨0xd7f8, "HANGUL JONGSEONG ", "CIEUC-SSANGPIEUP;SSANGCIEUC;PHIEUPH-SIOS;PHIEUPH-THIEUTH"⟩]

/-- All names of this module. -/
def eastAsian : List NameRun :=
  List.flatten
    [glagolitic, latinExtendedC, coptic, georgianSupplement, tifinagh, ethiopicExtended,
     cyrillicExtendedA, supplementalPunctuation, cjkRadicalsSupplement, kangxiRadicals,
     ideographicDescriptionCharacters, cjkSymbolsAndPunctuation, hiragana, katakana, bopomofo,
     hangulCompatibilityJamo, kanbun, bopomofoExtended, cjkStrokes, katakanaPhoneticExtensions,
     enclosedCJKLettersAndMonths, cjkCompatibility, yijingHexagramSymbols, yiSyllables, yiRadicals,
     lisu, vai, cyrillicExtendedB, bamum, modifierToneLetters, latinExtendedD, sylotiNagri,
     commonIndicNumberForms, phagsPa, saurashtra, devanagariExtended, kayahLi, rejang,
     hangulJamoExtendedA, javanese, myanmarExtendedB, cham, myanmarExtendedA, taiViet,
     meeteiMayekExtensions, ethiopicExtendedA, latinExtendedE, cherokeeSupplement, meeteiMayek,
     hangulJamoExtendedB]

end Names
end Unicode
end LiquidMarkdown
