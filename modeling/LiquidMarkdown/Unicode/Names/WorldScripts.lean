import LiquidMarkdown.Unicode.NameRun

/-!
# Names of characters: scripts from Burma to America

* `worldScripts` — the names of the scripts of Burma, Georgia, Ethiopia, Cambodia, Mongolia and
  the islands, the parts of Korean syllables, and the scripts of North America.
-/

namespace LiquidMarkdown
namespace Unicode
namespace Names

/-- The names in the block Myanmar. -/
def myanmar : List NameRun :=
  [⟨0x1000, "MYANMAR LETTER ", "KA;KHA;GA;GHA;NGA;CA;CHA;JA;JHA;NYA;NNYA;TTA;TTHA;DDA;DDHA"⟩,
   ⟨0x100f, "MYANMAR LETTER ",
     "NNA;TA;THA;DA;DHA;NA;PA;PHA;BA;BHA;MA;YA;RA;LA;WA;SA;HA;LLA;A;SHAN A;I;II;U;UU;E;MON E;O;AU"⟩,
   ⟨0x102b, "MYANMAR VOWEL SIGN ", "TALL AA;AA;I;II;U;UU;E;AI;MON II;MON O"⟩,
   ⟨0x1035, "MYANMAR ", "VOWEL SIGN E ABOVE;SIGN ANUSVARA;SIGN DOT BELOW;SIGN VISARGA"⟩,
   ⟨0x1039, "MYANMAR ", "SIGN VIRAMA;SIGN ASAT;CONSONANT SIGN MEDIAL YA;CONSONANT SIGN MEDIAL RA"⟩,
   ⟨0x103d, "MYANMAR ", "CONSONANT SIGN MEDIAL WA;CONSONANT SIGN MEDIAL HA;LETTER GREAT SA"⟩,
   ⟨0x1040, "MYANMAR DIGIT ", "ZERO;ONE;TWO;THREE;FOUR;FIVE;SIX;SEVEN"⟩,
   ⟨0x1048, "MYANMAR ", "DIGIT EIGHT;DIGIT NINE;SIGN LITTLE SECTION;SIGN SECTION;SYMBOL LOCATIVE"⟩,
   ⟨0x104d, "MYANMAR ", "SYMBOL COMPLETED;SYMBOL AFOREMENTIONED;SYMBOL GENITIVE;LETTER SHA"⟩,
   ⟨0x1051, "MYANMAR LETTER ", "SSA;VOCALIC R;VOCALIC RR;VOCALIC L;VOCALIC LL"⟩,
   ⟨0x1056, "MYANMAR VOWEL SIGN VOCALIC ", "R;RR;L;LL"⟩,
   ⟨0x105a, "MYANMAR LETTER MON ", "NGA;JHA;BBA;BBE"⟩,
   ⟨0x105e, "MYANMAR CONSONANT SIGN MON MEDIAL ", "NA;MA;LA"⟩,
   ⟨0x1061, "MYANMAR ", "LETTER SGAW KAREN SHA;VOWEL SIGN SGAW KAREN EU"⟩,
   ⟨0x1063, "MYANMAR TONE MARK SGAW KAREN ", "HATHI;KE PHO"⟩,
   ⟨0x1065, "MYANMAR LETTER WESTERN PWO KAREN ", "THA;PWA"⟩,
   ⟨0x1067, "MYANMAR VOWEL SIGN WESTERN PWO KAREN ", "EU;UE"⟩,
   ⟨0x1069, "MYANMAR SIGN WESTERN PWO KAREN TONE-", "1;2;3;4;5"⟩,
   ⟨0x106e, "MYANMAR LETTER EASTERN PWO KAREN ", "NNA;YWA;GHWA"⟩,
   ⟨0x1071, "MYANMAR VOWEL SIGN ", "GEBA KAREN I;KAYAH OE;KAYAH U;KAYAH EE"⟩,
   ⟨0x1075, "MYANMAR LETTER SHAN ", "KA;KHA;GA;CA;ZA;NYA;DA;NA;PHA;FA;BA;THA;HA"⟩,
   ⟨0x1082, "MYANMAR ", "CONSONANT SIGN SHAN MEDIAL WA;VOWEL SIGN SHAN AA;VOWEL SIGN SHAN E"⟩,
   ⟨0x1085, "MYANMAR ", "VOWEL SIGN SHAN E ABOVE;VOWEL SIGN SHAN FINAL Y;SIGN SHAN TONE-2"⟩,
   ⟨0x1088, "MYANMAR SIGN SHAN ", "TONE-3;TONE-5;TONE-6;COUNCIL TONE-2;COUNCIL TONE-3"⟩,
   ⟨0x108d, "MYANMAR ",
     "SIGN SHAN COUNCIL EMPHATIC TONE;LETTER RUMAI PALAUNG FA;SIGN RUMAI PALAUNG TONE-5"⟩,
   ⟨0x1090, "MYANMAR SHAN DIGIT ", "ZERO;ONE;TWO;THREE;FOUR;FIVE;SIX;SEVEN;EIGHT"⟩,
   ⟨0x1099, "MYANMAR ", "SHAN DIGIT NINE;SIGN KHAMTI TONE-1;SIGN KHAMTI TONE-3;VOWEL SIGN AITON A"⟩,
   ⟨0x109d, "MYANMAR ", "VOWEL SIGN AITON AI;SYMBOL SHAN ONE;SYMBOL SHAN EXCLAMATION"⟩]

/-- The names in the block Georgian. -/
def georgian : List NameRun :=
  [⟨0x10a0, "GEORGIAN CAPITAL LETTER ", "AN;BAN;GAN;DON;EN;VIN;ZEN;TAN;IN;KAN;LAS;MAN"⟩,
   ⟨0x10ac, "GEORGIAN CAPITAL LETTER ", "NAR;ON;PAR;ZHAR;RAE;SAN;TAR;UN;PHAR;KHAR;GHAN;QAR;SHIN"⟩,
   ⟨0x10b9, "GEORGIAN CAPITAL LETTER ", "CHIN;CAN;JIL;CIL;CHAR;XAN;JHAN;HAE;HE;HIE;WE;HAR;HOE"⟩,
   ⟨0x10c7, "GEORGIAN CAPITAL LETTER YN", ""⟩,
   ⟨0x10cd, "GEORGIAN CAPITAL LETTER AEN", ""⟩,
   ⟨0x10d0, "GEORGIAN LETTER ", "AN;BAN;GAN;DON;EN;VIN;ZEN;TAN;IN;KAN;LAS;MAN;NAR"⟩,
   ⟨0x10dd, "GEORGIAN LETTER ", "ON;PAR;ZHAR;RAE;SAN;TAR;UN;PHAR;KHAR;GHAN;QAR;SHIN;CHIN;CAN;JIL"⟩,
   ⟨0x10ec, "GEORGIAN LETTER ", "CIL;CHAR;XAN;JHAN;HAE;HE;HIE;WE;HAR;HOE;FI;YN;ELIFI;TURNED GAN"⟩,
   ⟨0x10fa, "", "GEORGIAN LETTER AIN;GEORGIAN PARAGRAPH SEPARATOR;MODIFIER LETTER GEORGIAN NAR"⟩,
   ⟨0x10fd, "GEORGIAN LETTER ", "AEN;HARD SIGN;LABIAL SIGN"⟩]

/-- The names in the block Hangul Jamo. -/
def hangulJamo : List NameRun :=
  [⟨0x1100, "HANGUL CHOSEONG ", "KIYEOK;SSANGKIYEOK;NIEUN;TIKEUT;SSANGTIKEUT;RIEUL"⟩,
   ⟨0x1106, "HANGUL CHOSEONG ", "MIEUM;PIEUP;SSANGPIEUP;SIOS;SSANGSIOS;IEUNG;CIEUC;SSANGCIEUC"⟩,
   ⟨0x110e, "HANGUL CHOSEONG ", "CHIEUCH;KHIEUKH;THIEUTH;PHIEUPH;HIEUH;NIEUN-KIYEOK;SSANGNIEUN"⟩,
   ⟨0x1115, "HANGUL CHOSEONG ", "NIEUN-TIKEUT;NIEUN-PIEUP;TIKEUT-KIYEOK;RIEUL-NIEUN;SSANGRIEUL"⟩,
   ⟨0x111a, "HANGUL CHOSEONG ", "RIEUL-HIEUH;KAPYEOUNRIEUL;MIEUM-PIEUP;KAPYEOUNMIEUM;PIEUP-KIYEOK"⟩,
   ⟨0x111f, "HANGUL CHOSEONG PIEUP-",
     "NIEUN;TIKEUT;SIOS;SIOS-KIYEOK;SIOS-TIKEUT;SIOS-PIEUP;SSANGSIOS;SIOS-CIEUC;CIEUC;CHIEUCH"⟩,
   ⟨0x1129, "HANGUL CHOSEONG ", "PIEUP-THIEUTH;PIEUP-PHIEUPH;KAPYEOUNPIEUP;KAPYEOUNSSANGPIEUP"⟩,
   ⟨0x112d, "HANGUL CHOSEONG SIOS-", "KIYEOK;NIEUN;TIKEUT;RIEUL;MIEUM;PIEUP;PIEUP-KIYEOK"⟩,
   ⟨0x1134, "HANGUL CHOSEONG SIOS-", "SSANGSIOS;IEUNG;CIEUC;CHIEUCH;KHIEUKH;THIEUTH;PHIEUPH;HIEUH"⟩,
   ⟨0x113c, "HANGUL CHOSEONG C", "HITUEUMSIOS;HITUEUMSSANGSIOS;EONGCHIEUMSIOS;EONGCHIEUMSSANGSIOS"⟩,
   ⟨0x1140, "HANGUL CHOSEONG ", "PANSIOS;IEUNG-KIYEOK;IEUNG-TIKEUT;IEUNG-MIEUM;IEUNG-PIEUP"⟩,
   ⟨0x1145, "HANGUL CHOSEONG ", "IEUNG-SIOS;IEUNG-PANSIOS;SSANGIEUNG;IEUNG-CIEUC;IEUNG-CHIEUCH"⟩,
   ⟨0x114a, "HANGUL CHOSEONG ", "IEUNG-THIEUTH;IEUNG-PHIEUPH;YESIEUNG;CIEUC-IEUNG;CHITUEUMCIEUC"⟩,
   ⟨0x114f, "HANGUL CHOSEONG C",
     "HITUEUMSSANGCIEUC;EONGCHIEUMCIEUC;EONGCHIEUMSSANGCIEUC;HIEUCH-KHIEUKH;HIEUCH-HIEUH"⟩,
   ⟨0x1154, "HANGUL CHOSEONG ", "CHITUEUMCHIEUCH;CEONGCHIEUMCHIEUCH;PHIEUPH-PIEUP;KAPYEOUNPHIEUPH"⟩,
   ⟨0x1158, "HANGUL CHOSEONG ",
     "SSANGHIEUH;YEORINHIEUH;KIYEOK-TIKEUT;NIEUN-SIOS;NIEUN-CIEUC;NIEUN-HIEUH;TIKEUT-RIEUL;FILLER"⟩,
   ⟨0x1160, "HANGUL JUNGSEONG ", "FILLER;A;AE;YA;YAE;EO;E;YEO;YE;O;WA;WAE;OE;YO;U;WEO;WE;WI"⟩,
   ⟨0x1172, "HANGUL JUNGSEONG ", "YU;EU;YI;I;A-O;A-U;YA-O;YA-YO;EO-O;EO-U;EO-EU;YEO-O;YEO-U;O-EO"⟩,
   ⟨0x1180, "HANGUL JUNGSEONG ", "O-E;O-YE;O-O;O-U;YO-YA;YO-YAE;YO-YEO;YO-O;YO-I;U-A;U-AE;U-EO-EU"⟩,
   ⟨0x118c, "HANGUL JUNGSEONG ", "U-YE;U-U;YU-A;YU-EO;YU-E;YU-YEO;YU-YE;YU-U;YU-I;EU-U;EU-EU"⟩,
   ⟨0x1197, "HANGUL JUNGSEONG ",
     "YI-U;I-A;I-YA;I-O;I-U;I-EU;I-ARAEA;ARAEA;ARAEA-EO;ARAEA-U;ARAEA-I;SSANGARAEA;A-EU;YA-U"⟩,
   ⟨0x11a5, "HANGUL J", "UNGSEONG YEO-YA;UNGSEONG O-YA;UNGSEONG O-YAE;ONGSEONG KIYEOK"⟩,
   ⟨0x11a9, "HANGUL JONGSEONG ", "SSANGKIYEOK;KIYEOK-SIOS;NIEUN;NIEUN-CIEUC;NIEUN-HIEUH;TIKEUT"⟩,
   ⟨0x11af, "HANGUL JONGSEONG RIEUL", ";-KIYEOK;-MIEUM;-PIEUP;-SIOS;-THIEUTH;-PHIEUPH;-HIEUH"⟩,
   ⟨0x11b7, "HANGUL JONGSEONG ", "MIEUM;PIEUP;PIEUP-SIOS;SIOS;SSANGSIOS;IEUNG;CIEUC;CHIEUCH"⟩,
   ⟨0x11bf, "HANGUL JONGSEONG ", "KHIEUKH;THIEUTH;PHIEUPH;HIEUH;KIYEOK-RIEUL;KIYEOK-SIOS-KIYEOK"⟩,
   ⟨0x11c5, "HANGUL JONGSEONG NIEUN-", "KIYEOK;TIKEUT;SIOS;PANSIOS;THIEUTH"⟩,
   ⟨0x11ca, "HANGUL JONGSEONG ", "TIKEUT-KIYEOK;TIKEUT-RIEUL;RIEUL-KIYEOK-SIOS;RIEUL-NIEUN"⟩,
   ⟨0x11ce, "HANGUL JONGSEONG ", "RIEUL-TIKEUT;RIEUL-TIKEUT-HIEUH;SSANGRIEUL;RIEUL-MIEUM-KIYEOK"⟩,
   ⟨0x11d2, "HANGUL JONGSEONG RIEUL-",
     "MIEUM-SIOS;PIEUP-SIOS;PIEUP-HIEUH;KAPYEOUNPIEUP;SSANGSIOS;PANSIOS;KHIEUKH;YEORINHIEUH"⟩,
   ⟨0x11da, "HANGUL JONGSEONG MIEUM-", "KIYEOK;RIEUL;PIEUP;SIOS;SSANGSIOS;PANSIOS;CHIEUCH"⟩,
   ⟨0x11e1, "HANGUL JONGSEONG ", "MIEUM-HIEUH;KAPYEOUNMIEUM;PIEUP-RIEUL;PIEUP-PHIEUPH;PIEUP-HIEUH"⟩,
   ⟨0x11e6, "HANGUL JONGSEONG ", "KAPYEOUNPIEUP;SIOS-KIYEOK;SIOS-TIKEUT;SIOS-RIEUL;SIOS-PIEUP"⟩,
   ⟨0x11eb, "HANGUL JONGSEONG ", "PANSIOS;IEUNG-KIYEOK;IEUNG-SSANGKIYEOK;SSANGIEUNG;IEUNG-KHIEUKH"⟩,
   ⟨0x11f0, "HANGUL JONGSEONG ", "YESIEUNG;YESIEUNG-SIOS;YESIEUNG-PANSIOS;PHIEUPH-PIEUP"⟩,
   ⟨0x11f4, "HANGUL JONGSEONG ", "KAPYEOUNPHIEUPH;HIEUH-NIEUN;HIEUH-RIEUL;HIEUH-MIEUM;HIEUH-PIEUP"⟩,
   ⟨0x11f9, "HANGUL JONGSEONG ",
     "YEORINHIEUH;KIYEOK-NIEUN;KIYEOK-PIEUP;KIYEOK-CHIEUCH;KIYEOK-KHIEUKH;KIYEOK-HIEUH;SSANGNIEUN"⟩]

/-- The names in the block Ethiopic. -/
def ethiopic : List NameRun :=
  [⟨0x1200, "ETHIOPIC SYLLABLE ", "HA;HU;HI;HAA;HEE;HE;HO;HOA;LA;LU;LI;LAA;LEE;LE;LO;LWA;HHA"⟩,
   ⟨0x1211, "ETHIOPIC SYLLABLE ", "HHU;HHI;HHAA;HHEE;HHE;HHO;HHWA;MA;MU;MI;MAA;MEE;ME;MO;MWA;SZA"⟩,
   ⟨0x1221, "ETHIOPIC SYLLABLE ", "SZU;SZI;SZAA;SZEE;SZE;SZO;SZWA;RA;RU;RI;RAA;REE;RE;RO;RWA;SA"⟩,
   ⟨0x1231, "ETHIOPIC SYLLABLE ",
     "SU;SI;SAA;SEE;SE;SO;SWA;SHA;SHU;SHI;SHAA;SHEE;SHE;SHO;SHWA;QA;QU;QI;QAA;QEE;QE;QO;QOA;QWA"⟩,
   ⟨0x124a, "ETHIOPIC SYLLABLE QW", "I;AA;EE;E"⟩,
   ⟨0x1250, "ETHIOPIC SYLLABLE QH", "A;U;I;AA;EE;E;O"⟩,
   ⟨0x1258, "ETHIOPIC SYLLABLE QHWA", ""⟩,
   ⟨0x125a, "ETHIOPIC SYLLABLE QHW", "I;AA;EE;E"⟩,
   ⟨0x1260, "ETHIOPIC SYLLABLE ",
     "BA;BU;BI;BAA;BEE;BE;BO;BWA;VA;VU;VI;VAA;VEE;VE;VO;VWA;TA;TU;TI;TAA;TEE;TE;TO"⟩,
   ⟨0x1277, "ETHIOPIC SYLLABLE ", "TWA;CA;CU;CI;CAA;CEE;CE;CO;CWA;XA;XU;XI;XAA;XEE;XE;XO;XOA;XWA"⟩,
   ⟨0x128a, "ETHIOPIC SYLLABLE XW", "I;AA;EE;E"⟩,
   ⟨0x1290, "ETHIOPIC SYLLABLE N", "A;U;I;AA;EE;E;O;WA;YA;YU;YI;YAA;YEE;YE"⟩,
   ⟨0x129e, "ETHIOPIC SYLLABLE ", "NYO;NYWA;GLOTTAL A;GLOTTAL U;GLOTTAL I;GLOTTAL AA;GLOTTAL EE"⟩,
   ⟨0x12a5, "ETHIOPIC SYLLABLE ", "GLOTTAL E;GLOTTAL O;GLOTTAL WA;KA;KU;KI;KAA;KEE;KE;KO;KOA;KWA"⟩,
   ⟨0x12b2, "ETHIOPIC SYLLABLE KW", "I;AA;EE;E"⟩,
   ⟨0x12b8, "ETHIOPIC SYLLABLE KX", "A;U;I;AA;EE;E;O"⟩,
   ⟨0x12c0, "ETHIOPIC SYLLABLE KXWA", ""⟩,
   ⟨0x12c2, "ETHIOPIC SYLLABLE KXW", "I;AA;EE;E"⟩,
   ⟨0x12c8, "ETHIOPIC SYLLABLE ", "WA;WU;WI;WAA;WEE;WE;WO;WOA;PHARYNGEAL A"⟩,
   ⟨0x12d1, "ETHIOPIC SYLLABLE PHARYNGEAL ", "U;I;AA;EE;E;O"⟩,
   ⟨0x12d8, "ETHIOPIC SYLLABLE ",
     "ZA;ZU;ZI;ZAA;ZEE;ZE;ZO;ZWA;ZHA;ZHU;ZHI;ZHAA;ZHEE;ZHE;ZHO;ZHWA;YA;YU;YI;YAA;YEE;YE;YO"⟩,
   ⟨0x12ef, "ETHIOPIC SYLLABLE ", "YOA;DA;DU;DI;DAA;DEE;DE;DO;DWA;DDA;DDU;DDI;DDAA;DDEE;DDE;DDO"⟩,
   ⟨0x12ff, "ETHIOPIC SYLLABLE ", "DDWA;JA;JU;JI;JAA;JEE;JE;JO;JWA;GA;GU;GI;GAA;GEE;GE;GO;GOA;GWA"⟩,
   ⟨0x1312, "ETHIOPIC SYLLABLE GW", "I;AA;EE;E"⟩,
   ⟨0x1318, "ETHIOPIC SYLLABLE ", "GGA;GGU;GGI;GGAA;GGEE;GGE;GGO;GGWAA;THA;THU;THI;THAA;THEE;THE"⟩,
   ⟨0x1326, "ETHIOPIC SYLLABLE ", "THO;THWA;CHA;CHU;CHI;CHAA;CHEE;CHE;CHO;CHWA;PHA;PHU;PHI;PHAA"⟩,
   ⟨0x1334, "ETHIOPIC SYLLABLE ",
     "PHEE;PHE;PHO;PHWA;TSA;TSU;TSI;TSAA;TSEE;TSE;TSO;TSWA;TZA;TZU;TZI;TZAA;TZEE;TZE;TZO;TZOA;FA"⟩,
   ⟨0x1349, "ETHIOPIC SYLLABLE ", "FU;FI;FAA;FEE;FE;FO;FWA;PA;PU;PI;PAA;PEE;PE;PO;PWA;RYA;MYA;FYA"⟩,
   ⟨0x135d, "ETHIOPIC COMBINING ", "GEMINATION AND VOWEL LENGTH MARK;VOWEL LENGTH MARK"⟩,
   ⟨0x135f, "ETHIOPIC ", "COMBINING GEMINATION MARK;SECTION MARK;WORDSPACE;FULL STOP"⟩,
   ⟨0x1363, "ETHIOPIC ", "COMMA;SEMICOLON;COLON;PREFACE COLON;QUESTION MARK;PARAGRAPH SEPARATOR"⟩,
   ⟨0x1369, "ETHIOPIC DIGIT ", "ONE;TWO;THREE;FOUR;FIVE;SIX;SEVEN;EIGHT;NINE"⟩,
   ⟨0x1372, "ETHIOPIC NUMBER ",
     "TEN;TWENTY;THIRTY;FORTY;FIFTY;SIXTY;SEVENTY;EIGHTY;NINETY;HUNDRED;TEN THOUSAND"⟩]

/-- The names in the block Ethiopic Supplement. -/
def ethiopicSupplement : List NameRun :=
  [⟨0x1380, "ETHIOPIC SYLLABLE ", "SEBATBEIT MWA;MWI;MWEE;MWE;SEBATBEIT BWA;BWI"⟩,
   ⟨0x1386, "ETHIOPIC SYLLABLE ", "BWEE;BWE;SEBATBEIT FWA;FWI;FWEE;FWE;SEBATBEIT PWA;PWI;PWEE;PWE"⟩,
   ⟨0x1390, "ETHIOPIC TONAL MARK ",
     "YIZET;DERET;RIKRIK;SHORT RIKRIK;DIFAT;KENAT;CHIRET;HIDET;DERET-HIDET;KURT"⟩]

/-- The names in the block Cherokee. -/
def cherokee : List NameRun :=
  [⟨0x13a0, "CHEROKEE LETTER ", "A;E;I;O;U;V;GA;KA;GE;GI;GO;GU;GV;HA;HE;HI;HO;HU;HV;LA"⟩,
   ⟨0x13b4, "CHEROKEE LETTER ", "LE;LI;LO;LU;LV;MA;ME;MI;MO;MU;NA;HNA;NAH;NE;NI;NO;NU;NV;QUA;QUE"⟩,
   ⟨0x13c8, "CHEROKEE LETTER ", "QUI;QUO;QUU;QUV;SA;S;SE;SI;SO;SU;SV;DA;TA;DE;TE;DI;TI;DO;DU;DV"⟩,
   ⟨0x13dc, "CHEROKEE LETTER ",
     "DLA;TLA;TLE;TLI;TLO;TLU;TLV;TSA;TSE;TSI;TSO;TSU;TSV;WA;WE;WI;WO;WU;WV;YA;YE;YI;YO;YU;YV;MV"⟩,
   ⟨0x13f8, "CHEROKEE SMALL LETTER ", "YE;YI;YO;YU;YV;MV"⟩]

/-- The names in the block Unified Canadian Aboriginal Syllabics. -/
def unifiedCanadianAboriginalSyllabics : List NameRun :=
  [⟨0x1400, "CANADIAN SYLLABICS ", "HYPHEN;E;AAI;I;II;O;OO;Y-CREE OO;CARRIER EE;CARRIER I;A;AA"⟩,
   ⟨0x140c, "CANADIAN SYLLABICS W", "E;EST-CREE WE;I;EST-CREE WI;II;EST-CREE WII;O;EST-CREE WO;OO"⟩,
   ⟨0x1415, "CANADIAN SYLLABICS ", "WEST-CREE WOO;NASKAPI WOO;WA;WEST-CREE WA;WAA;WEST-CREE WAA"⟩,
   ⟨0x141b, "CANADIAN SYLLABICS ", "NASKAPI WAA;AI;Y-CREE W;GLOTTAL STOP;FINAL ACUTE;FINAL GRAVE"⟩,
   ⟨0x1421, "CANADIAN SYLLABICS FINAL ", "BOTTOM HALF RING;TOP HALF RING;RIGHT HALF RING;RING"⟩,
   ⟨0x1425, "CANADIAN SYLLABICS FINAL ", "DOUBLE ACUTE;DOUBLE SHORT VERTICAL STROKES;MIDDLE DOT"⟩,
   ⟨0x1428, "CANADIAN SYLLABICS ", "FINAL SHORT HORIZONTAL STROKE;FINAL PLUS;FINAL DOWN TACK;EN"⟩,
   ⟨0x142c, "CANADIAN SYLLABICS ", "IN;ON;AN;PE;PAAI;PI;PII;PO;POO;Y-CREE POO;CARRIER HEE"⟩,
   ⟨0x1437, "CANADIAN SYLLABICS ", "CARRIER HI;PA;PAA;PWE;WEST-CREE PWE;PWI;WEST-CREE PWI"⟩,
   ⟨0x143e, "CANADIAN SYLLABICS ", "PWII;WEST-CREE PWII;PWO;WEST-CREE PWO;PWOO;WEST-CREE PWOO;PWA"⟩,
   ⟨0x1445, "CANADIAN SYLLABICS ", "WEST-CREE PWA;PWAA;WEST-CREE PWAA;Y-CREE PWAA;P;WEST-CREE P"⟩,
   ⟨0x144b, "CANADIAN SYLLABICS ", "CARRIER H;TE;TAAI;TI;TII;TO;TOO;Y-CREE TOO;CARRIER DEE"⟩,
   ⟨0x1454, "CANADIAN SYLLABICS ", "CARRIER DI;TA;TAA;TWE;WEST-CREE TWE;TWI;WEST-CREE TWI"⟩,
   ⟨0x145b, "CANADIAN SYLLABICS ", "TWII;WEST-CREE TWII;TWO;WEST-CREE TWO;TWOO;WEST-CREE TWOO;TWA"⟩,
   ⟨0x1462, "CANADIAN SYLLABICS ", "WEST-CREE TWA;TWAA;WEST-CREE TWAA;NASKAPI TWAA;T;TTE;TTI;TTO"⟩,
   ⟨0x146a, "CANADIAN SYLLABICS ", "TTA;KE;KAAI;KI;KII;KO;KOO;Y-CREE KOO;KA;KAA;KWE;WEST-CREE KWE"⟩,
   ⟨0x1476, "CANADIAN SYLLABICS ", "KWI;WEST-CREE KWI;KWII;WEST-CREE KWII;KWO;WEST-CREE KWO"⟩,
   ⟨0x147c, "CANADIAN SYLLABICS ", "KWOO;WEST-CREE KWOO;KWA;WEST-CREE KWA;KWAA;WEST-CREE KWAA"⟩,
   ⟨0x1482, "CANADIAN SYLLABICS ", "NASKAPI KWAA;K;KW;SOUTH-SLAVEY KEH;SOUTH-SLAVEY KIH"⟩,
   ⟨0x1487, "CANADIAN SYLLABICS ", "SOUTH-SLAVEY KOH;SOUTH-SLAVEY KAH;CE;CAAI;CI;CII"⟩,
   ⟨0x148d, "CANADIAN SYLLABICS ", "CO;COO;Y-CREE COO;CA;CAA;CWE;WEST-CREE CWE;CWI;WEST-CREE CWI"⟩,
   ⟨0x1496, "CANADIAN SYLLABICS ", "CWII;WEST-CREE CWII;CWO;WEST-CREE CWO;CWOO;WEST-CREE CWOO;CWA"⟩,
   ⟨0x149d, "CANADIAN SYLLABICS ", "WEST-CREE CWA;CWAA;WEST-CREE CWAA;NASKAPI CWAA;C;SAYISI TH"⟩,
   ⟨0x14a3, "CANADIAN SYLLABICS ", "ME;MAAI;MI;MII;MO;MOO;Y-CREE MOO;MA;MAA;MWE;WEST-CREE MWE"⟩,
   ⟨0x14ae, "CANADIAN SYLLABICS ", "MWI;WEST-CREE MWI;MWII;WEST-CREE MWII;MWO;WEST-CREE MWO"⟩,
   ⟨0x14b4, "CANADIAN SYLLABICS ", "MWOO;WEST-CREE MWOO;MWA;WEST-CREE MWA;MWAA;WEST-CREE MWAA"⟩,
   ⟨0x14ba, "CANADIAN SYLLABICS ", "NASKAPI MWAA;M;WEST-CREE M;MH;ATHAPASCAN M;SAYISI M"⟩,
   ⟨0x14c0, "CANADIAN SYLLABICS ", "NE;NAAI;NI;NII;NO;NOO;Y-CREE NOO;NA;NAA;NWE;WEST-CREE NWE;NWA"⟩,
   ⟨0x14cc, "CANADIAN SYLLABICS ", "WEST-CREE NWA;NWAA;WEST-CREE NWAA;NASKAPI NWAA;N;CARRIER NG"⟩,
   ⟨0x14d2, "CANADIAN SYLLABICS ", "NH;LE;LAAI;LI;LII;LO;LOO;Y-CREE LOO;LA;LAA;LWE;WEST-CREE LWE"⟩,
   ⟨0x14de, "CANADIAN SYLLABICS ", "LWI;WEST-CREE LWI;LWII;WEST-CREE LWII;LWO;WEST-CREE LWO"⟩,
   ⟨0x14e4, "CANADIAN SYLLABICS ", "LWOO;WEST-CREE LWOO;LWA;WEST-CREE LWA;LWAA;WEST-CREE LWAA"⟩,
   ⟨0x14ea, "CANADIAN SYLLABICS ", "L;WEST-CREE L;MEDIAL L;SE;SAAI;SI;SII;SO;SOO;Y-CREE SOO;SA"⟩,
   ⟨0x14f5, "CANADIAN SYLLABICS ", "SAA;SWE;WEST-CREE SWE;SWI;WEST-CREE SWI;SWII;WEST-CREE SWII"⟩,
   ⟨0x14fc, "CANADIAN SYLLABICS ", "SWO;WEST-CREE SWO;SWOO;WEST-CREE SWOO;SWA;WEST-CREE SWA;SWAA"⟩,
   ⟨0x1503, "CANADIAN SYLLABICS ", "WEST-CREE SWAA;NASKAPI SWAA;S;ATHAPASCAN S;SW;BLACKFOOT S"⟩,
   ⟨0x1509, "CANADIAN SYLLABICS ", "MOOSE-CREE SK;NASKAPI SKW;NASKAPI S-W;NASKAPI SPWA"⟩,
   ⟨0x150d, "CANADIAN SYLLABICS ", "NASKAPI STWA;NASKAPI SKWA;NASKAPI SCWA;SHE;SHI;SHII;SHO"⟩,
   ⟨0x1514, "CANADIAN SYLLABICS ", "SHOO;SHA;SHAA;SHWE;WEST-CREE SHWE;SHWI;WEST-CREE SHWI;SHWII"⟩,
   ⟨0x151c, "CANADIAN SYLLABICS ", "WEST-CREE SHWII;SHWO;WEST-CREE SHWO;SHWOO;WEST-CREE SHWOO"⟩,
   ⟨0x1521, "CANADIAN SYLLABICS ", "SHWA;WEST-CREE SHWA;SHWAA;WEST-CREE SHWAA;SH;YE;YAAI;YI;YII"⟩,
   ⟨0x152a, "CANADIAN SYLLABICS ", "YO;YOO;Y-CREE YOO;YA;YAA;YWE;WEST-CREE YWE;YWI;WEST-CREE YWI"⟩,
   ⟨0x1533, "CANADIAN SYLLABICS ", "YWII;WEST-CREE YWII;YWO;WEST-CREE YWO;YWOO;WEST-CREE YWOO;YWA"⟩,
   ⟨0x153a, "CANADIAN SYLLABICS ", "WEST-CREE YWA;YWAA;WEST-CREE YWAA;NASKAPI YWAA;Y;BIBLE-CREE Y"⟩,
   ⟨0x1540, "CANADIAN SYLLABICS ", "WEST-CREE Y;SAYISI YI;RE;R-CREE RE;WEST-CREE LE;RAAI;RI;RII"⟩,
   ⟨0x1548, "CANADIAN SYLLABICS ", "RO;ROO;WEST-CREE LO;RA;RAA;WEST-CREE LA;RWAA;WEST-CREE RWAA"⟩,
   ⟨0x1550, "CANADIAN SYLLABICS ", "R;WEST-CREE R;MEDIAL R;FE;FAAI;FI;FII;FO;FOO;FA;FAA;FWAA"⟩,
   ⟨0x155c, "CANADIAN SYLLABICS ",
     "WEST-CREE FWAA;F;THE;N-CREE THE;THI;N-CREE THI;THII;N-CREE THII;THO;THOO;THA;THAA;THWAA"⟩,
   ⟨0x1569, "CANADIAN SYLLABICS ", "WEST-CREE THWAA;TH;TTHE;TTHI;TTHO;TTHA;TTH;TYE;TYI;TYO;TYA"⟩,
   ⟨0x1574, "CANADIAN SYLLABICS NUNAV", "IK HE;IK HI;IK HII;IK HO;IK HOO;IK HA;IK HAA;IK H;UT H"⟩,
   ⟨0x157d, "CANADIAN SYLLABICS ", "HK;QAAI;QI;QII;QO;QOO;QA;QAA;Q;TLHE;TLHI"⟩,
   ⟨0x1588, "CANADIAN SYLLABICS ", "TLHO;TLHA;WEST-CREE RE;WEST-CREE RI;WEST-CREE RO;WEST-CREE RA"⟩,
   ⟨0x158e, "CANADIAN SYLLABICS ", "NGAAI;NGI;NGII;NGO;NGOO;NGA;NGAA;NG;NNG;SAYISI SHE;SAYISI SHI"⟩,
   ⟨0x1599, "CANADIAN SYLLABICS ", "SAYISI SHO;SAYISI SHA;WOODS-CREE THE;WOODS-CREE THI"⟩,
   ⟨0x159d, "CANADIAN SYLLABICS ", "WOODS-CREE THO;WOODS-CREE THA;WOODS-CREE TH;LHI;LHII;LHO;LHOO"⟩,
   ⟨0x15a4, "CANADIAN SYLLABICS ", "LHA;LHAA;LH;TH-CREE THE;TH-CREE THI;TH-CREE THII;TH-CREE THO"⟩,
   ⟨0x15ab, "CANADIAN SYLLABICS ", "TH-CREE THOO;TH-CREE THA;TH-CREE THAA;TH-CREE TH;AIVILIK B"⟩,
   ⟨0x15b0, "CANADIAN SYLLABICS BLACKFOOT ", "E;I;O;A;WE;WI;WO;WA;NE;NI;NO;NA;KE;KI;KO;KA"⟩,
   ⟨0x15c0, "CANADIAN SYLLABICS ", "SAYISI HE;SAYISI HI;SAYISI HO;SAYISI HA;CARRIER GHU"⟩,
   ⟨0x15c5, "CANADIAN SYLLABICS CARRIER ", "GHO;GHE;GHEE;GHI;GHA;RU;RO;RE;REE;RI;RA;WU;WO;WE;WEE"⟩,
   ⟨0x15d4, "CANADIAN SYLLABICS CARRIER ", "WI;WA;HWU;HWO;HWE;HWEE;HWI;HWA;THU;THO;THE;THEE;THI"⟩,
   ⟨0x15e1, "CANADIAN SYLLABICS CARRIER ",
     "THA;TTU;TTO;TTE;TTEE;TTI;TTA;PU;PO;PE;PEE;PI;PA;P;GU;GO;GE;GEE;GI;GA;KHU;KHO;KHE;KHEE;KHI"⟩,
   ⟨0x15fa, "CANADIAN SYLLABICS CARRIER ",
     "KHA;KKU;KKO;KKE;KKEE;KKI;KKA;KK;NU;NO;NE;NEE;NI;NA;MU;MO;ME;MEE;MI;MA;YU;YO;YE;YEE;YI;YA;JU"⟩,
   ⟨0x1615, "CANADIAN SYLLABICS ",
     "SAYISI JU;CARRIER JO;CARRIER JE;CARRIER JEE;CARRIER JI;SAYISI JI;CARRIER JA;CARRIER JJU"⟩,
   ⟨0x161d, "CANADIAN SYLLABICS CARRIER ",
     "JJO;JJE;JJEE;JJI;JJA;LU;LO;LE;LEE;LI;LA;DLU;DLO;DLE;DLEE;DLI;DLA;LHU;LHO;LHE;LHEE;LHI;LHA"⟩,
   ⟨0x1634, "CANADIAN SYLLABICS CARRIER TL", "HU;HO;HE;HEE;HI;HA;U;O;E;EE;I;A"⟩,
   ⟨0x1640, "CANADIAN SYLLABICS CARRIER ",
     "ZU;ZO;ZE;ZEE;ZI;ZA;Z;INITIAL Z;DZU;DZO;DZE;DZEE;DZI;DZA;SU;SO;SE;SEE;SI;SA;SHU;SHO;SHE;SHEE"⟩,
   ⟨0x1658, "CANADIAN SYLLABICS CARRIER ",
     "SHI;SHA;SH;TSU;TSO;TSE;TSEE;TSI;TSA;CHU;CHO;CHE;CHEE;CHI;CHA;TTSU;TTSO;TTSE;TTSEE;TTSI;TTSA"⟩,
   ⟨0x166d, "CANADIAN SYLLABICS ", "CHI SIGN;FULL STOP;QAI;NGAI;NNGI;NNGII;NNGO;NNGOO;NNGA;NNGAA"⟩,
   ⟨0x1677, "CANADIAN SYLLABICS WOODS-CREE THW", "EE;I;II;O;OO;A"⟩,
   ⟨0x167d, "CANADIAN SYLLABICS ", "WOODS-CREE THWAA;WOODS-CREE FINAL TH;BLACKFOOT W"⟩]

/-- The names in the block Ogham. -/
def ogham : List NameRun :=
  [⟨0x1680, "OGHAM ", "SPACE MARK;LETTER BEITH"⟩,
   ⟨0x1682, "OGHAM LETTER ", "LUIS;FEARN;SAIL;NION;UATH;DAIR;TINNE;COLL;CEIRT;MUIN;GORT;NGEADAL"⟩,
   ⟨0x168e, "OGHAM LETTER ", "STRAIF;RUIS;AILM;ONN;UR;EADHADH;IODHADH;EABHADH;OR;UILLEANN;IFIN"⟩,
   ⟨0x1699, "OGHAM ", "LETTER EAMHANCHOLL;LETTER PEITH;FEATHER MARK;REVERSED FEATHER MARK"⟩]

/-- The names in the block Runic. -/
def runic : List NameRun :=
  [⟨0x16a0, "RUNIC LETTER ", "FEHU FEOH FE F;V;URUZ UR U;YR;Y"⟩,
   ⟨0x16a5, "RUNIC LETTER ", "W;THURISAZ THURS THORN;ETH;ANSUZ A;OS O;AC A;AESC;LONG-BRANCH-OSS O"⟩,
   ⟨0x16ad, "RUNIC LETTER ", "SHORT-TWIG-OSS O;O;OE;ON;RAIDO RAD REID R;KAUNA;CEN;KAUN K;G;ENG"⟩,
   ⟨0x16b7, "RUNIC LETTER ", "GEBO GYFU G;GAR;WUNJO WYNN W;HAGLAZ H;HAEGL H;LONG-BRANCH-HAGALL H"⟩,
   ⟨0x16bd, "RUNIC LETTER ", "SHORT-TWIG-HAGALL H;NAUDIZ NYD NAUD N;SHORT-TWIG-NAUD N;DOTTED-N"⟩,
   ⟨0x16c1, "RUNIC LETTER ", "ISAZ IS ISS I;E;JERAN J;GER;LONG-BRANCH-AR AE;SHORT-TWIG-AR A"⟩,
   ⟨0x16c7, "RUNIC LETTER ",
     "IWAZ EOH;PERTHO PEORTH P;ALGIZ EOLHX;SOWILO S;SIGEL LONG-BRANCH-SOL S;SHORT-TWIG-SOL S"⟩,
   ⟨0x16cd, "RUNIC LETTER ", "C;Z;TIWAZ TIR TYR T;SHORT-TWIG-TYR T;D;BERKANAN BEORC BJARKAN B"⟩,
   ⟨0x16d3, "RUNIC LETTER ", "SHORT-TWIG-BJARKAN B;DOTTED-P;OPEN-P;EHWAZ EH E;MANNAZ MAN M"⟩,
   ⟨0x16d8, "RUNIC LETTER ", "LONG-BRANCH-MADR M;SHORT-TWIG-MADR M;LAUKAZ LAGU LOGR L"⟩,
   ⟨0x16db, "RUNIC LETTER ", "DOTTED-L;INGWAZ;ING;DAGAZ DAEG D;OTHALAN ETHEL O;EAR;IOR"⟩,
   ⟨0x16e2, "RUNIC LETTER ", "CWEORTH;CALC;CEALC;STAN;LONG-BRANCH-YR;SHORT-TWIG-YR;ICELANDIC-YR;Q"⟩,
   ⟨0x16ea, "RUNIC ", "LETTER X;SINGLE PUNCTUATION;MULTIPLE PUNCTUATION;CROSS PUNCTUATION"⟩,
   ⟨0x16ee, "RUNIC ", "ARLAUG SYMBOL;TVIMADUR SYMBOL;BELGTHOR SYMBOL;LETTER K;LETTER SH;LETTER OO"⟩,
   ⟨0x16f4, "RUNIC LETTER FRANKS CASKET ", "OS;IS;EH;AC;AESC"⟩]

/-- The names in the block Tagalog. -/
def tagalog : List NameRun :=
  [⟨0x1700, "TAGALOG LETTER ", "A;I;U;KA;GA;NGA;TA;DA;NA;PA;BA;MA;YA;RA;LA;WA"⟩,
   ⟨0x1710, "TAGALOG ", "LETTER SA;LETTER HA;VOWEL SIGN I;VOWEL SIGN U;SIGN VIRAMA;SIGN PAMUDPOD"⟩,
   ⟨0x171f, "TAGALOG LETTER ARCHAIC RA", ""⟩]

/-- The names in the block Hanunoo. -/
def hanunoo : List NameRun :=
  [⟨0x1720, "HANUNOO LETTER ", "A;I;U;KA;GA;NGA;TA;DA;NA;PA;BA;MA;YA;RA;LA"⟩,
   ⟨0x172f, "HANUNOO ", "LETTER WA;LETTER SA;LETTER HA;VOWEL SIGN I;VOWEL SIGN U;SIGN PAMUDPOD"⟩,
   ⟨0x1735, "PHILIPPINE ", "SINGLE PUNCTUATION;DOUBLE PUNCTUATION"⟩]

/-- The names in the block Buhid. -/
def buhid : List NameRun :=
  [⟨0x1740, "BUHID LETTER ", "A;I;U;KA;GA;NGA;TA;DA;NA;PA;BA;MA;YA;RA"⟩,
   ⟨0x174e, "BUHID ", "LETTER LA;LETTER WA;LETTER SA;LETTER HA;VOWEL SIGN I;VOWEL SIGN U"⟩]

/-- The names in the block Tagbanwa. -/
def tagbanwa : List NameRun :=
  [⟨0x1760, "TAGBANWA LETTER ", "A;I;U;KA;GA;NGA;TA;DA;NA;PA;BA;MA;YA"⟩,
   ⟨0x176e, "TAGBANWA LETTER ", "LA;WA;SA"⟩,
   ⟨0x1772, "TAGBANWA VOWEL SIGN ", "I;U"⟩]

/-- The names in the block Khmer. -/
def khmer : List NameRun :=
  [⟨0x1780, "KHMER LETTER ", "KA;KHA;KO;KHO;NGO;CA;CHA;CO;CHO;NYO;DA;TTHA;DO;TTHO;NNO"⟩,
   ⟨0x178f, "KHMER LETTER ", "TA;THA;TO;THO;NO;BA;PHA;PO;PHO;MO;YO;RO;LO;VO;SHA;SSO;SA;HA;LA;QA"⟩,
   ⟨0x17a3, "KHMER INDEPENDENT VOWEL ",
     "QAQ;QAA;QI;QII;QU;QUK;QUU;QUUV;RY;RYY;LY;LYY;QE;QAI;QOO TYPE ONE;QOO TYPE TWO"⟩,
   ⟨0x17b3, "KHMER ", "INDEPENDENT VOWEL QAU;VOWEL INHERENT AQ;VOWEL INHERENT AA"⟩,
   ⟨0x17b6, "KHMER VOWEL SIGN ", "AA;I;II;Y;YY;U;UU;UA;OE;YA;IE;E;AE;AI;OO;AU"⟩,
   ⟨0x17c6, "KHMER SIGN ", "NIKAHIT;REAHMUK;YUUKALEAPINTU;MUUSIKATOAN;TRIISAP"⟩,
   ⟨0x17cb, "KHMER SIGN ", "BANTOC;ROBAT;TOANDAKHIAT;KAKABAT;AHSDA;SAMYOK SANNYA;VIRIAM;COENG"⟩,
   ⟨0x17d3, "KHMER SIGN ", "BATHAMASAT;KHAN;BARIYOOSAN;CAMNUC PII KUUH;LEK TOO;BEYYAL;PHNAEK MUAN"⟩,
   ⟨0x17da, "KHMER ", "SIGN KOOMUUT;CURRENCY SYMBOL RIEL;SIGN AVAKRAHASANYA;SIGN ATTHACAN"⟩,
   ⟨0x17e0, "KHMER DIGIT ", "ZERO;ONE;TWO;THREE;FOUR;FIVE;SIX;SEVEN;EIGHT;NINE"⟩,
   ⟨0x17f0, "KHMER SYMBOL LEK ATTAK ",
     "SON;MUOY;PII;BEI;BUON;PRAM;PRAM-MUOY;PRAM-PII;PRAM-BEI;PRAM-BUON"⟩]

/-- The names in the block Mongolian. -/
def mongolian : List NameRun :=
  [⟨0x1800, "MONGOLIAN ", "BIRGA;ELLIPSIS;COMMA;FULL STOP;COLON;FOUR DOTS;TODO SOFT HYPHEN"⟩,
   ⟨0x1807, "MONGOLIAN ", "SIBE SYLLABLE BOUNDARY MARKER;MANCHU COMMA;MANCHU FULL STOP;NIRUGU"⟩,
   ⟨0x180b, "MONGOLIAN FREE VARIATION SELECTOR ", "ONE;TWO;THREE"⟩,
   ⟨0x180e, "MONGOLIAN ", "VOWEL SEPARATOR;FREE VARIATION SELECTOR FOUR"⟩,
   ⟨0x1810, "MONGOLIAN DIGIT ", "ZERO;ONE;TWO;THREE;FOUR;FIVE;SIX;SEVEN;EIGHT;NINE"⟩,
   ⟨0x1820, "MONGOLIAN LETTER ", "A;E;I;O;U;OE;UE;EE;NA;ANG;BA;PA;QA;GA;MA;LA;SA"⟩,
   ⟨0x1831, "MONGOLIAN LETTER ", "SHA;TA;DA;CHA;JA;YA;RA;WA;FA;KA;KHA;TSA;ZA;HAA;ZRA;LHA;ZHI;CHI"⟩,
   ⟨0x1843, "MONGOLIAN LETTER TODO ", "LONG VOWEL SIGN;E;I;O;U;OE;UE;ANG;BA"⟩,
   ⟨0x184c, "MONGOLIAN LETTER TODO ", "PA;QA;GA;MA;TA;DA;CHA;JA;TSA;YA;WA;KA;GAA;HAA;JIA;NIA;DZA"⟩,
   ⟨0x185d, "MONGOLIAN LETTER SIBE ", "E;I;IY;UE;U;ANG;KA;GA;HA;PA;SHA;TA;DA;JA;FA;GAA"⟩,
   ⟨0x186d, "MONGOLIAN LETTER ", "SIBE HAA;SIBE TSA;SIBE ZA;SIBE RAA;SIBE CHA;SIBE ZHA;MANCHU I"⟩,
   ⟨0x1874, "MONGOLIAN LETTER ", "MANCHU KA;MANCHU RA;MANCHU FA;MANCHU ZHA;CHA WITH TWO DOTS"⟩,
   ⟨0x1880, "MONGOLIAN LETTER ALI GALI ", "ANUSVARA ONE;VISARGA ONE;DAMARU;UBADAMA"⟩,
   ⟨0x1884, "MONGOLIAN LETTER ALI GALI ",
     "INVERTED UBADAMA;BALUDA;THREE BALUDA;A;I;KA;NGA;CA;TTA;TTHA;DDA;NNA;TA;DA;PA;PHA;SSA;ZHA"⟩,
   ⟨0x1896, "MONGOLIAN LETTER ", "ALI GALI ZA;ALI GALI AH;TODO ALI GALI TA;TODO ALI GALI ZHA"⟩,
   ⟨0x189a, "MONGOLIAN LETTER MANCHU ALI GALI ", "GHA;NGA;CA;JHA;TTA;DDHA;TA;DHA;SSA;CYA;ZHA;ZA"⟩,
   ⟨0x18a6, "MONGOLIAN LETTER ",
     "ALI GALI HALF U;ALI GALI HALF YA;MANCHU ALI GALI BHA;ALI GALI DAGALGA;MANCHU ALI GALI LHA"⟩]

/-- The names in the block Unified Canadian Aboriginal Syllabics Extended. -/
def unifiedCanadianAboriginalSyllabicsExtended : List NameRun :=
  [⟨0x18b0, "CANADIAN SYLLABICS ", "OY;AY;AAY;WAY;POY;PAY;PWOY;TAY;KAY;KWAY;MAY;NOY"⟩,
   ⟨0x18bc, "CANADIAN SYLLABICS ", "NAY;LAY;SOY;SAY;SHOY;SHAY;SHWOY;YOY;YAY;RAY;NWI;OJIBWAY NWI"⟩,
   ⟨0x18c8, "CANADIAN SYLLABICS ", "NWII;OJIBWAY NWII;NWO;OJIBWAY NWO;NWOO;OJIBWAY NWOO"⟩,
   ⟨0x18ce, "CANADIAN SYLLABICS ", "RWEE;RWI;RWII;RWO;RWOO;RWA;OJIBWAY P;OJIBWAY T;OJIBWAY K"⟩,
   ⟨0x18d7, "CANADIAN SYLLABICS ", "OJIBWAY C;OJIBWAY M;OJIBWAY N;OJIBWAY S;OJIBWAY SH;EASTERN W"⟩,
   ⟨0x18dd, "CANADIAN SYLLABICS ", "WESTERN W;FINAL SMALL RING;FINAL RAISED DOT;R-CREE RWE"⟩,
   ⟨0x18e1, "CANADIAN SYLLABICS ", "WEST-CREE LOO;WEST-CREE LAA;THWE;THWA;TTHWE;TTHOO;TTHAA"⟩,
   ⟨0x18e8, "CANADIAN SYLLABICS ", "TLHWE;TLHOO;SAYISI SHWE;SAYISI SHOO;SAYISI HOO;CARRIER GWU"⟩,
   ⟨0x18ee, "CANADIAN SYLLABICS ", "CARRIER DENE GEE;CARRIER GAA;CARRIER GWA;SAYISI JUU"⟩,
   ⟨0x18f2, "CANADIAN SYLLABICS ", "CARRIER JWA;BEAVER DENE L;BEAVER DENE R;CARRIER DENTAL S"⟩]

/-- The names in the block Limbu. -/
def limbu : List NameRun :=
  [⟨0x1900, "LIMBU ", "VOWEL-CARRIER LETTER;LETTER KA;LETTER KHA;LETTER GA;LETTER GHA"⟩,
   ⟨0x1905, "LIMBU LETTER ",
     "NGA;CA;CHA;JA;JHA;YAN;TA;THA;DA;DHA;NA;PA;PHA;BA;BHA;MA;YA;RA;LA;WA;SHA;SSA;SA;HA;GYAN;TRA"⟩,
   ⟨0x1920, "LIMBU VOWEL SIGN ", "A;I;U;EE;AI;OO;AU;E"⟩,
   ⟨0x1928, "LIMBU ", "VOWEL SIGN O;SUBJOINED LETTER YA;SUBJOINED LETTER RA;SUBJOINED LETTER WA"⟩,
   ⟨0x1930, "LIMBU SMALL LETTER ", "KA;NGA;ANUSVARA;TA;NA;PA;MA"⟩,
   ⟨0x1937, "LIMBU S", "MALL LETTER RA;MALL LETTER LA;IGN MUKPHRENG;IGN KEMPHRENG;IGN SA-I"⟩,
   ⟨0x1940, "LIMBU SIGN LOO", ""⟩,
   ⟨0x1944, "LIMBU ", "EXCLAMATION MARK;QUESTION MARK"⟩,
   ⟨0x1946, "LIMBU DIGIT ", "ZERO;ONE;TWO;THREE;FOUR;FIVE;SIX;SEVEN;EIGHT;NINE"⟩]

/-- The names in the block Tai Le. -/
def taiLe : List NameRun :=
  [⟨0x1950, "TAI LE LETTER ", "KA;XA;NGA;TSA;SA;YA;TA;THA"⟩,
   ⟨0x1958, "TAI LE LETTER ", "LA;PA;PHA;MA;FA;VA;HA;QA;KHA;TSHA;NA;A;I;EE;EH;U;OO;O;UE;E;AUE;AI"⟩,
   ⟨0x1970, "TAI LE LETTER TONE-", "2;3;4;5;6"⟩]

/-- The names in the block New Tai Lue. -/
def newTaiLue : List NameRun :=
  [⟨0x1980, "NEW TAI LUE LETTER ", "HIGH QA;LOW QA;HIGH KA;HIGH XA;HIGH NGA;LOW KA;LOW XA;LOW NGA"⟩,
   ⟨0x1988, "NEW TAI LUE LETTER ", "HIGH TSA;HIGH SA;HIGH YA;LOW TSA;LOW SA;LOW YA;HIGH TA"⟩,
   ⟨0x198f, "NEW TAI LUE LETTER ", "HIGH THA;HIGH NA;LOW TA;LOW THA;LOW NA;HIGH PA;HIGH PHA"⟩,
   ⟨0x1996, "NEW TAI LUE LETTER ", "HIGH MA;LOW PA;LOW PHA;LOW MA;HIGH FA;HIGH VA;HIGH LA"⟩,
   ⟨0x199d, "NEW TAI LUE LETTER ", "LOW FA;LOW VA;LOW LA;HIGH HA;HIGH DA;HIGH BA;LOW HA;LOW DA"⟩,
   ⟨0x19a5, "NEW TAI LUE LETTER ", "LOW BA;HIGH KVA;HIGH XVA;LOW KVA;LOW XVA;HIGH SUA;LOW SUA"⟩,
   ⟨0x19b0, "NEW TAI LUE VOWEL SIGN ", "VOWEL SHORTENER;AA;II;U;UU;E;AE;O;OA;UE;AY;AAY;UY;OY;OAY"⟩,
   ⟨0x19bf, "NEW TAI LUE ",
     "VOWEL SIGN UEY;VOWEL SIGN IY;LETTER FINAL V;LETTER FINAL NG;LETTER FINAL N;LETTER FINAL M"⟩,
   ⟨0x19c5, "NEW TAI LUE ", "LETTER FINAL K;LETTER FINAL D;LETTER FINAL B;TONE MARK-1;TONE MARK-2"⟩,
   ⟨0x19d0, "NEW TAI LUE DIGIT ", "ZERO;ONE;TWO;THREE;FOUR;FIVE"⟩,
   ⟨0x19d6, "NEW TAI LUE ", "DIGIT SIX;DIGIT SEVEN;DIGIT EIGHT;DIGIT NINE;THAM DIGIT ONE"⟩,
   ⟨0x19de, "NEW TAI LUE SIGN LAE", ";V"⟩]

/-- The names in the block Khmer Symbols. -/
def khmerSymbols : List NameRun :=
  [⟨0x19e0, "KHMER SYMBOL ", "PATHAMASAT;MUOY KOET;PII KOET;BEI KOET;BUON KOET;PRAM KOET"⟩,
   ⟨0x19e6, "KHMER SYMBOL ", "PRAM-MUOY KOET;PRAM-PII KOET;PRAM-BEI KOET;PRAM-BUON KOET;DAP KOET"⟩,
   ⟨0x19eb, "KHMER SYMBOL DAP-", "MUOY KOET;PII KOET;BEI KOET;BUON KOET"⟩,
   ⟨0x19ef, "KHMER SYMBOL ", "DAP-PRAM KOET;TUTEYASAT;MUOY ROC;PII ROC;BEI ROC;BUON ROC;PRAM ROC"⟩,
   ⟨0x19f6, "KHMER SYMBOL ", "PRAM-MUOY ROC;PRAM-PII ROC;PRAM-BEI ROC;PRAM-BUON ROC;DAP ROC"⟩,
   ⟨0x19fb, "KHMER SYMBOL DAP-", "MUOY ROC;PII ROC;BEI ROC;BUON ROC;PRAM ROC"⟩]

/-- The names in the block Buginese. -/
def buginese : List NameRun :=
  [⟨0x1a00, "BUGINESE LETTER ",
     "KA;GA;NGA;NGKA;PA;BA;MA;MPA;TA;DA;NA;NRA;CA;JA;NYA;NYCA;YA;RA;LA;VA;SA;A;HA"⟩,
   ⟨0x1a17, "BUGINESE VOWEL SIGN ", "I;U;E;O;AE"⟩,
   ⟨0x1a1e, "BUGINESE ", "PALLAWA;END OF SECTION"⟩]

/-- The names in the block Tai Tham. -/
def taiTham : List NameRun :=
  [⟨0x1a20, "TAI THAM LETTER ", "HIGH KA;HIGH KHA;HIGH KXA;LOW KA;LOW KXA;LOW KHA;NGA;HIGH CA"⟩,
   ⟨0x1a28, "TAI THAM LETTER ", "HIGH CHA;LOW CA;LOW SA;LOW CHA;NYA;RATA;HIGH RATHA;DA;LOW RATHA"⟩,
   ⟨0x1a31, "TAI THAM LETTER ", "RANA;HIGH TA;HIGH THA;LOW TA;LOW THA;NA;BA;HIGH PA;HIGH PHA"⟩,
   ⟨0x1a3a, "TAI THAM LETTER ", "HIGH FA;LOW PA;LOW FA;LOW PHA;MA;LOW YA;HIGH YA;RA;RUE;LA"⟩,
   ⟨0x1a44, "TAI THAM LETTER ", "LUE;WA;HIGH SHA;HIGH SSA;HIGH SA;HIGH HA;LLA;A;LOW HA;I;II;U;UU"⟩,
   ⟨0x1a51, "TAI THAM ", "LETTER EE;LETTER OO;LETTER LAE;LETTER GREAT SA;CONSONANT SIGN MEDIAL RA"⟩,
   ⟨0x1a56, "TAI THAM ", "CONSONANT SIGN MEDIAL LA;CONSONANT SIGN LA TANG LAI;SIGN MAI KANG LAI"⟩,
   ⟨0x1a59, "TAI THAM CONSONANT SIGN ", "FINAL NGA;LOW PA;HIGH RATHA OR LOW PA;MA;BA;SA"⟩,
   ⟨0x1a60, "TAI THAM ", "SIGN SAKOT;VOWEL SIGN A;VOWEL SIGN MAI SAT"⟩,
   ⟨0x1a63, "TAI THAM VOWEL SIGN ", "AA;TALL AA;I;II;UE;UUE;U;UU;O;OA BELOW;OY;E;AE;OO;AI;THAM AI"⟩,
   ⟨0x1a73, "TAI THAM ",
     "VOWEL SIGN OA ABOVE;SIGN MAI KANG;SIGN TONE-1;SIGN TONE-2;SIGN KHUEN TONE-3"⟩,
   ⟨0x1a78, "TAI THAM SIGN ", "KHUEN TONE-4;KHUEN TONE-5;RA HAAM;MAI SAM;KHUEN-LUE KARAN"⟩,
   ⟨0x1a7f, "TAI THAM ", "COMBINING CRYPTOGRAMMIC DOT;HORA DIGIT ZERO"⟩,
   ⟨0x1a81, "TAI THAM HORA DIGIT ", "ONE;TWO;THREE;FOUR;FIVE;SIX;SEVEN;EIGHT;NINE"⟩,
   ⟨0x1a90, "TAI THAM THAM DIGIT ", "ZERO;ONE;TWO;THREE;FOUR;FIVE;SIX;SEVEN;EIGHT;NINE"⟩,
   ⟨0x1aa0, "TAI THAM SIGN ", "WIANG;WIANGWAAK;SAWAN;KEOW;HOY;DOKMAI;REVERSED ROTATED RANA"⟩,
   ⟨0x1aa7, "TAI THAM SIGN ", "MAI YAMOK;KAAN;KAANKUU;SATKAAN;SATKAANKUU;HANG;CAANG"⟩]

/-- The names in the block Combining Diacritical Marks Extended. -/
def combiningDiacriticalMarksExtended : List NameRun :=
  [⟨0x1ab0, "COMBINING ", "DOUBLED CIRCUMFLEX ACCENT;DIAERESIS-RING;INFINITY"⟩,
   ⟨0x1ab3, "COMBINING ", "DOWNWARDS ARROW;TRIPLE DOT;X-X BELOW;WIGGLY LINE BELOW;OPEN MARK BELOW"⟩,
   ⟨0x1ab8, "COMBINING ", "DOUBLE OPEN MARK BELOW;LIGHT CENTRALIZATION STROKE BELOW"⟩,
   ⟨0x1aba, "COMBINING ", "STRONG CENTRALIZATION STROKE BELOW;PARENTHESES ABOVE"⟩,
   ⟨0x1abc, "COMBINING ", "DOUBLE PARENTHESES ABOVE;PARENTHESES BELOW;PARENTHESES OVERLAY"⟩,
   ⟨0x1abf, "COMBINING L",
     "ATIN SMALL LETTER W BELOW;ATIN SMALL LETTER TURNED W BELOW;EFT PARENTHESIS ABOVE LEFT"⟩,
   ⟨0x1ac2, "COMBINING ", "RIGHT PARENTHESIS ABOVE RIGHT;LEFT PARENTHESIS BELOW LEFT"⟩,
   ⟨0x1ac4, "COMBINING ", "RIGHT PARENTHESIS BELOW RIGHT;SQUARE BRACKETS ABOVE"⟩,
   ⟨0x1ac6, "COMBINING ", "NUMBER SIGN ABOVE;INVERTED DOUBLE ARCH ABOVE;PLUS SIGN ABOVE"⟩,
   ⟨0x1ac9, "COMBINING ", "DOUBLE PLUS SIGN ABOVE;DOUBLE PLUS SIGN BELOW;TRIPLE ACUTE ACCENT"⟩,
   ⟨0x1acc, "COMBINING LATIN SMALL LETTER INSULAR ", "G;R;T"⟩]

/-- The names in the block Balinese. -/
def balinese : List NameRun :=
  [⟨0x1b00, "BALINESE SIGN ", "ULU RICEM;ULU CANDRA;CECEK;SURANG;BISAH"⟩,
   ⟨0x1b05, "BALINESE LETTER ", "AKARA;AKARA TEDUNG;IKARA;IKARA TEDUNG;UKARA;UKARA TEDUNG"⟩,
   ⟨0x1b0b, "BALINESE LETTER ", "RA REPA;RA REPA TEDUNG;LA LENGA;LA LENGA TEDUNG;EKARA;AIKARA"⟩,
   ⟨0x1b11, "BALINESE LETTER ", "OKARA;OKARA TEDUNG;KA;KA MAHAPRANA;GA;GA GORA;NGA;CA;CA LACA;JA"⟩,
   ⟨0x1b1b, "BALINESE LETTER ",
     "JA JERA;NYA;TA LATIK;TA MURDA MAHAPRANA;DA MURDA ALPAPRANA;DA MURDA MAHAPRANA;NA RAMBAT;TA"⟩,
   ⟨0x1b23, "BALINESE LETTER ", "TA TAWA;DA;DA MADU;NA;PA;PA KAPAL;BA;BA KEMBANG;MA;YA;RA;LA;WA"⟩,
   ⟨0x1b30, "BALINESE ", "LETTER SA SAGA;LETTER SA SAPA;LETTER SA;LETTER HA;SIGN REREKAN"⟩,
   ⟨0x1b35, "BALINESE VOWEL SIGN ", "TEDUNG;ULU;ULU SARI;SUKU;SUKU ILUT;RA REPA;RA REPA TEDUNG"⟩,
   ⟨0x1b3c, "BALINESE VOWEL SIGN ",
     "LA LENGA;LA LENGA TEDUNG;TALING;TALING REPA;TALING TEDUNG;TALING REPA TEDUNG;PEPET"⟩,
   ⟨0x1b43, "BALINESE ", "VOWEL SIGN PEPET TEDUNG;ADEG ADEG;LETTER KAF SASAK;LETTER KHOT SASAK"⟩,
   ⟨0x1b47, "BALINESE LETTER ", "TZIR SASAK;EF SASAK;VE SASAK;ZAL SASAK;ASYURA SASAK;ARCHAIC JNYA"⟩,
   ⟨0x1b50, "BALINESE DIGIT ", "ZERO;ONE;TWO;THREE;FOUR;FIVE;SIX;SEVEN;EIGHT;NINE"⟩,
   ⟨0x1b5a, "BALINESE ", "PANTI;PAMADA;WINDU;CARIK PAMUNGKAH;CARIK SIKI;CARIK PAREREN;PAMENENG"⟩,
   ⟨0x1b61, "BALINESE MUSICAL SYMBOL D", "ONG;ENG;UNG;ANG;ANG SURANG;ING;AENG;EUNG;AING;ANG GEDE"⟩,
   ⟨0x1b6b, "BALINESE MUSICAL SYMBOL COMBINING ",
     "TEGEH;ENDEP;KEMPUL;KEMPLI;JEGOGAN;KEMPUL WITH JEGOGAN;KEMPLI WITH JEGOGAN;BENDE;GONG"⟩,
   ⟨0x1b74, "BALINESE MUSICAL SYMBOL RIGHT-HAND ", "OPEN DUG;OPEN DAG;CLOSED TUK;CLOSED TAK"⟩,
   ⟨0x1b78, "BALINESE MUSICAL SYMBOL LEFT-HAND ", "OPEN PANG;OPEN PUNG;CLOSED PLAK;CLOSED PLUK"⟩,
   ⟨0x1b7c, "BALINESE ", "MUSICAL SYMBOL LEFT-HAND OPEN PING;PANTI LANTANG;PAMADA LANTANG"⟩]

/-- The names in the block Sundanese. -/
def sundanese : List NameRun :=
  [⟨0x1b80, "SUNDANESE ", "SIGN PANYECEK;SIGN PANGLAYAR;SIGN PANGWISAD;LETTER A"⟩,
   ⟨0x1b84, "SUNDANESE LETTER ",
     "I;U;AE;O;E;EU;KA;QA;GA;NGA;CA;JA;ZA;NYA;TA;DA;NA;PA;FA;VA;BA;MA;YA;RA;LA;WA;SA;XA;HA"⟩,
   ⟨0x1ba1, "SUNDANESE CONSONANT SIGN PA", "MINGKAL;NYAKRA;NYIKU"⟩,
   ⟨0x1ba4, "SUNDANESE VOWEL SIGN PA", "NGHULU;NYUKU;NAELAENG;NOLONG;MEPET;NEULEUNG"⟩,
   ⟨0x1baa, "SUNDANESE ", "SIGN PAMAAEH;SIGN VIRAMA;CONSONANT SIGN PASANGAN MA"⟩,
   ⟨0x1bad, "SUNDANESE ", "CONSONANT SIGN PASANGAN WA;LETTER KHA;LETTER SYA"⟩,
   ⟨0x1bb0, "SUNDANESE DIGIT ", "ZERO;ONE;TWO;THREE;FOUR;FIVE;SIX;SEVEN;EIGHT"⟩,
   ⟨0x1bb9, "SUNDANESE ",
     "DIGIT NINE;AVAGRAHA;LETTER REU;LETTER LEU;LETTER BHA;LETTER FINAL K;LETTER FINAL M"⟩]

/-- The names in the block Batak. -/
def batak : List NameRun :=
  [⟨0x1bc0, "BATAK LETTER ", "A;SIMALUNGUN A;HA;SIMALUNGUN HA;MANDAILING HA;BA;KARO BA"⟩,
   ⟨0x1bc7, "BATAK LETTER ", "PA;SIMALUNGUN PA;NA;MANDAILING NA;WA;SIMALUNGUN WA;PAKPAK WA;GA"⟩,
   ⟨0x1bcf, "BATAK LETTER ", "SIMALUNGUN GA;JA;DA;RA;SIMALUNGUN RA;MA;SIMALUNGUN MA;SOUTHERN TA"⟩,
   ⟨0x1bd7, "BATAK LETTER ",
     "NORTHERN TA;SA;SIMALUNGUN SA;MANDAILING SA;YA;SIMALUNGUN YA;NGA;LA;SIMALUNGUN LA"⟩,
   ⟨0x1be0, "BATAK ", "LETTER NYA;LETTER CA;LETTER NDA;LETTER MBA;LETTER I;LETTER U;SIGN TOMPI"⟩,
   ⟨0x1be7, "BATAK VOWEL SIGN ", "E;PAKPAK E;EE;I;KARO I;O;KARO O;U;U FOR SIMALUNGUN SA"⟩,
   ⟨0x1bf0, "BATAK ", "CONSONANT SIGN NG;CONSONANT SIGN H;PANGOLAT;PANONGONAN"⟩,
   ⟨0x1bfc, "BATAK SYMBOL BINDU ", "NA METEK;PINARBORAS;JUDUL;PANGOLAT"⟩]

/-- The names in the block Lepcha. -/
def lepcha : List NameRun :=
  [⟨0x1c00, "LEPCHA LETTER ", "KA;KLA;KHA;GA;GLA;NGA;CA;CHA;JA;NYA;TA;THA;DA;NA"⟩,
   ⟨0x1c0e, "LEPCHA LETTER ", "PA;PLA;PHA;FA;FLA;BA;BLA;MA;MLA;TSA;TSHA;DZA;YA;RA;LA;HA;HLA;VA;SA"⟩,
   ⟨0x1c21, "LEPCHA ", "LETTER SHA;LETTER WA;LETTER A;SUBJOINED LETTER YA;SUBJOINED LETTER RA"⟩,
   ⟨0x1c26, "LEPCHA VOWEL SIGN ", "AA;I;O;OO;U;UU;E"⟩,
   ⟨0x1c2d, "LEPCHA CONSONANT SIGN ", "K;M;L;N;P;R;T"⟩,
   ⟨0x1c34, "LEPCHA ", "CONSONANT SIGN NYIN-DO;CONSONANT SIGN KANG;SIGN RAN;SIGN NUKTA"⟩,
   ⟨0x1c3b, "LEPCHA PUNCTUATION ", "TA-ROL;NYET THYOOM TA-ROL;CER-WA;TSHOOK CER-WA;TSHOOK"⟩,
   ⟨0x1c40, "LEPCHA DIGIT ", "ZERO;ONE;TWO;THREE;FOUR;FIVE;SIX;SEVEN;EIGHT;NINE"⟩,
   ⟨0x1c4d, "LEPCHA LETTER ", "TTA;TTHA;DDA"⟩]

/-- The names in the block Ol Chiki. -/
def olChiki : List NameRun :=
  [⟨0x1c50, "OL CHIKI DIGIT ", "ZERO;ONE;TWO;THREE;FOUR;FIVE;SIX;SEVEN;EIGHT;NINE"⟩,
   ⟨0x1c5a, "OL CHIKI LETTER ", "LA;AT;AG;ANG;AL;LAA;AAK;AAJ;AAM"⟩,
   ⟨0x1c63, "OL CHIKI LETTER ", "AAW;LI;IS;IH;INY;IR;LU;UC;UD;UNN;UY;LE;EP;EDD;EN;ERR;LO;OTT;OB"⟩,
   ⟨0x1c76, "OL CHIKI ", "LETTER OV;LETTER OH;MU TTUDDAG;GAAHLAA TTUDDAAG;MU-GAAHLAA TTUDDAAG"⟩,
   ⟨0x1c7b, "OL CHIKI ", "RELAA;PHAARKAA;AHAD;PUNCTUATION MUCAAD;PUNCTUATION DOUBLE MUCAAD"⟩]

/-- The names in the block Cyrillic Extended-C. -/
def cyrillicExtendedC : List NameRun :=
  [⟨0x1c80, "CYRILLIC SMALL LETTER ", "ROUNDED VE;LONG-LEGGED DE;NARROW O;WIDE ES;TALL TE"⟩,
   ⟨0x1c85, "CYRILLIC SMALL LETTER ", "THREE-LEGGED TE;TALL HARD SIGN;TALL YAT;UNBLENDED UK"⟩]

/-- The names in the block Georgian Extended. -/
def georgianExtended : List NameRun :=
  [⟨0x1c90, "GEORGIAN MTAVRULI CAPITAL LETTER ",
     "AN;BAN;GAN;DON;EN;VIN;ZEN;TAN;IN;KAN;LAS;MAN;NAR;ON;PAR;ZHAR;RAE;SAN;TAR;UN;PHAR;KHAR;GHAN"⟩,
   ⟨0x1ca7, "GEORGIAN MTAVRULI CAPITAL LETTER ",
     "QAR;SHIN;CHIN;CAN;JIL;CIL;CHAR;XAN;JHAN;HAE;HE;HIE;WE;HAR;HOE;FI;YN;ELIFI;TURNED GAN;AIN"⟩,
   ⟨0x1cbd, "GEORGIAN MTAVRULI CAPITAL LETTER ", "AEN;HARD SIGN;LABIAL SIGN"⟩]

/-- The names in the block Sundanese Supplement. -/
def sundaneseSupplement : List NameRun :=
  [⟨0x1cc0, "SUNDANESE PUNCTUATION BINDU ",
     "SURYA;PANGLONG;PURNAMA;CAKRA;LEU SATANGA;KA SATANGA;DA SATANGA;BA SATANGA"⟩]

/-- The names in the block Vedic Extensions. -/
def vedicExtensions : List NameRun :=
  [⟨0x1cd0, "VEDIC ",
     "TONE KARSHANA;TONE SHARA;TONE PRENKHA;SIGN NIHSHVASA;SIGN YAJURVEDIC MIDLINE SVARITA"⟩,
   ⟨0x1cd5, "VEDIC TONE YAJURVEDIC ",
     "AGGRAVATED INDEPENDENT SVARITA;INDEPENDENT SVARITA;KATHAKA INDEPENDENT SVARITA"⟩,
   ⟨0x1cd8, "VEDIC TONE ", "CANDRA BELOW;YAJURVEDIC KATHAKA INDEPENDENT SVARITA SCHROEDER"⟩,
   ⟨0x1cda, "VEDIC TONE ", "DOUBLE SVARITA;TRIPLE SVARITA;KATHAKA ANUDATTA;DOT BELOW"⟩,
   ⟨0x1cde, "VEDIC TONE ", "TWO DOTS BELOW;THREE DOTS BELOW;RIGVEDIC KASHMIRI INDEPENDENT SVARITA"⟩,
   ⟨0x1ce1, "VEDIC ", "TONE ATHARVAVEDIC INDEPENDENT SVARITA;SIGN VISARGA SVARITA"⟩,
   ⟨0x1ce3, "VEDIC SIGN ", "VISARGA UDATTA;REVERSED VISARGA UDATTA;VISARGA ANUDATTA"⟩,
   ⟨0x1ce6, "VEDIC SIGN ",
     "REVERSED VISARGA ANUDATTA;VISARGA UDATTA WITH TAIL;VISARGA ANUDATTA WITH TAIL"⟩,
   ⟨0x1ce9, "VEDIC SIGN ANUSVARA ", "ANTARGOMUKHA;BAHIRGOMUKHA;VAMAGOMUKHA;VAMAGOMUKHA WITH TAIL"⟩,
   ⟨0x1ced, "VEDIC SIGN ", "TIRYAK;HEXIFORM LONG ANUSVARA;LONG ANUSVARA;RTHANG LONG ANUSVARA"⟩,
   ⟨0x1cf1, "VEDIC SIGN ", "ANUSVARA UBHAYATO MUKHA;ARDHAVISARGA;ROTATED ARDHAVISARGA"⟩,
   ⟨0x1cf4, "VEDIC ", "TONE CANDRA ABOVE;SIGN JIHVAMULIYA;SIGN UPADHMANIYA;SIGN ATIKRAMA"⟩,
   ⟨0x1cf8, "VEDIC ", "TONE RING ABOVE;TONE DOUBLE RING ABOVE;SIGN DOUBLE ANUSVARA ANTARGOMUKHA"⟩]

/-- All names of this module. -/
def worldScripts : List NameRun :=
  List.flatten
    [myanmar, georgian, hangulJamo, ethiopic, ethiopicSupplement, cherokee,
     unifiedCanadianAboriginalSyllabics, ogham, runic, tagalog, hanunoo, buhid, tagbanwa, khmer,
     mongolian, unifiedCanadianAboriginalSyllabicsExtended, limbu, taiLe, newTaiLue, khmerSymbols,
     buginese, taiTham, combiningDiacriticalMarksExtended, balinese, sundanese, batak, lepcha,
     olChiki, cyrillicExtendedC, georgianExtended, sundaneseSupplement, vedicExtensions]

end Names
end Unicode
end LiquidMarkdown
