import LiquidMarkdown.Unicode.NameRun

/-!
# Names of characters: pictographs

* `pictographs` — the names of recent scripts, tiles and cards, pictures, and the characters
  without a shape.
-/

namespace LiquidMarkdown
namespace Unicode
namespace Names

/-- The names in the block Glagolitic Supplement. -/
def glagoliticSupplement : List NameRun :=
  [⟨0x1e000, "COMBINING GLAGOLITIC LETTER ", "AZU;BUKY;VEDE;GLAGOLI;DOBRO;YESTU;ZHIVETE"⟩,
   ⟨0x1e008, "COMBINING GLAGOLITIC LETTER ", "ZEMLJA;IZHE;INITIAL IZHE"⟩,
   ⟨0x1e00b, "COMBINING GLAGOLITIC LETTER ",
     "I;DJERVI;KAKO;LJUDIJE;MYSLITE;NASHI;ONU;POKOJI;RITSI;SLOVO;TVRIDO;UKU;FRITU;HERU"⟩,
   ⟨0x1e01b, "COMBINING GLAGOLITIC LETTER ", "SHTA;TSI;CHRIVI;SHA;YERU;YERI;YATI"⟩,
   ⟨0x1e023, "COMBINING GLAGOLITIC LETTER ", "YU;SMALL YUS"⟩,
   ⟨0x1e026, "COMBINING GLAGOLITIC LETTER ", "YO;IOTATED SMALL YUS;BIG YUS;IOTATED BIG YUS;FITA"⟩]

/-- The names in the block Nyiakeng Puachue Hmong. -/
def nyiakengPuachueHmong : List NameRun :=
  [⟨0x1e100, "NYIAKENG PUACHUE HMONG LETTER ",
     "MA;TSA;NTA;TA;HA;NA;XA;NKA;CA;LA;SA;ZA;NCA;NTSA;KA;DA;NYA"⟩,
   ⟨0x1e111, "NYIAKENG PUACHUE HMONG LETTER ",
     "NRA;VA;NTXA;TXA;FA;RA;QA;YA;NQA;PA;XYA;NPA;DLA;NPLA;HAH;MLA;PLA;GA;RRA;A;AA;I;U;O;OO;E;EE;W"⟩,
   ⟨0x1e130, "NYIAKENG PUACHUE HMONG TONE-", "B;M;J;V;S;G;D"⟩,
   ⟨0x1e137, "NYIAKENG PUACHUE HMONG SIGN FOR ", "PERSON;THING;LOCATION;ANIMAL"⟩,
   ⟨0x1e13b, "NYIAKENG PUACHUE HMONG S", "IGN FOR INVERTEBRATE;IGN XW XW;YLLABLE LENGTHENER"⟩,
   ⟨0x1e140, "NYIAKENG PUACHUE HMONG DIGIT ", "ZERO;ONE;TWO;THREE;FOUR;FIVE;SIX;SEVEN;EIGHT;NINE"⟩,
   ⟨0x1e14e, "NYIAKENG PUACHUE HMONG ", "LOGOGRAM NYAJ;CIRCLED CA"⟩]

/-- The names in the block Toto. -/
def toto : List NameRun :=
  [⟨0x1e290, "TOTO LETTER ", "PA;BA;TA;DA;KA;GA;MA;NA;NGA;SA;CHA;YA;WA"⟩,
   ⟨0x1e29d, "TOTO LETTER ", "JA;HA;RA;LA;I;BREATHY I;IU;BREATHY IU;U;E;BREATHY E;EO;BREATHY EO"⟩,
   ⟨0x1e2aa, "TOTO ", "LETTER O;LETTER AE;LETTER BREATHY AE;LETTER A;SIGN RISING TONE"⟩]

/-- The names in the block Wancho. -/
def wancho : List NameRun :=
  [⟨0x1e2c0, "WANCHO LETTER ",
     "AA;A;BA;CA;DA;GA;YA;PHA;LA;NA;PA;TA;THA;FA;SA;SHA;JA;ZA;WA;VA;KA;O"⟩,
   ⟨0x1e2d6, "WANCHO LETTER ", "AU;RA;MA;KHA;HA;E;I;NGA;U;LLHA;TSA;TRA;ONG;AANG;ANG;ING;ON;EN;AAN"⟩,
   ⟨0x1e2e9, "WANCHO ", "LETTER NYA;LETTER UEN;LETTER YIH;TONE TUP;TONE TUPNI;TONE KOI;TONE KOINI"⟩,
   ⟨0x1e2f0, "WANCHO DIGIT ", "ZERO;ONE;TWO;THREE;FOUR;FIVE;SIX;SEVEN;EIGHT;NINE"⟩,
   ⟨0x1e2ff, "WANCHO NGUN SIGN", ""⟩]

/-- The names in the block Ethiopic Extended-B. -/
def ethiopicExtendedB : List NameRun :=
  [⟨0x1e7e0, "ETHIOPIC SYLLABLE HHY", "A;U;I;AA;EE;E;O"⟩,
   ⟨0x1e7e8, "ETHIOPIC SYLLABLE ", "GURAGE HHWA;HHWI;HHWEE;HHWE"⟩,
   ⟨0x1e7ed, "ETHIOPIC SYLLABLE GURAGE MW", "I;EE"⟩,
   ⟨0x1e7f0, "ETHIOPIC SYLLABLE GURAGE ",
     "QWI;QWEE;QWE;BWI;BWEE;KWI;KWEE;KWE;GWI;GWEE;GWE;FWI;FWEE;PWI;PWEE"⟩]

/-- The names in the block Mende Kikakui. -/
def mendeKikakui : List NameRun :=
  [⟨0x1e800, "MENDE KIKAKUI SYLLABLE M",
     "001 KI;002 KA;003 KU;065 KEE;095 KE;076 KOO;048 KO;179 KUA;004 WI;005 WA;006 WU"⟩,
   ⟨0x1e80b, "MENDE KIKAKUI SYLLABLE M", "126 WEE;118 WE;114 WOO;045 WO;194 WUI;143 WEI;061 WVI"⟩,
   ⟨0x1e812, "MENDE KIKAKUI SYLLABLE M", "049 WVA;139 WVE;007 MIN;008 MAN;009 MUN;059 MEN;094 MON"⟩,
   ⟨0x1e819, "MENDE KIKAKUI SYLLABLE M", "154 MUAN;189 MUEN;010 BI;011 BA;012 BU;150 BEE;097 BE"⟩,
   ⟨0x1e820, "MENDE KIKAKUI SYLLABLE M", "103 BOO;138 BO;013 I;014 A;015 U;163 EE;100 E;165 OO"⟩,
   ⟨0x1e828, "MENDE KIKAKUI SYLLABLE M", "147 O;137 EI;131 IN;135 IN;195 AN;178 EN;019 SI;020 SA"⟩,
   ⟨0x1e830, "MENDE KIKAKUI SYLLABLE M", "021 SU;162 SEE;116 SE;136 SOO;079 SO;196 SIA;025 LI"⟩,
   ⟨0x1e837, "MENDE KIKAKUI SYLLABLE M", "026 LA;027 LU;084 LEE;073 LE;054 LOO;153 LO;110 LONG LE"⟩,
   ⟨0x1e83e, "MENDE KIKAKUI SYLLABLE M", "016 DI;017 DA;018 DU;089 DEE;180 DOO;181 DO;022 TI"⟩,
   ⟨0x1e845, "MENDE KIKAKUI SYLLABLE M", "023 TA;024 TU;091 TEE;055 TE;104 TOO;069 TO;028 JI"⟩,
   ⟨0x1e84c, "MENDE KIKAKUI SYLLABLE M", "029 JA;030 JU;157 JEE;113 JE;160 JOO;063 JO;175 LONG JO"⟩,
   ⟨0x1e853, "MENDE KIKAKUI SYLLABLE M", "031 YI;032 YA;033 YU;109 YEE;080 YE;141 YOO;121 YO"⟩,
   ⟨0x1e85a, "MENDE KIKAKUI SYLLABLE M", "034 FI;035 FA;036 FU;078 FEE;075 FE;133 FOO;088 FO"⟩,
   ⟨0x1e861, "MENDE KIKAKUI SYLLABLE M", "197 FUA;101 FAN;037 NIN;038 NAN;039 NUN;117 NEN;169 NON"⟩,
   ⟨0x1e868, "MENDE KIKAKUI SYLLABLE M", "176 HI;041 HA;186 HU;040 HEE;096 HE;042 HOO;140 HO"⟩,
   ⟨0x1e86f, "MENDE KIKAKUI SYLLABLE M", "083 HEEI;128 HOOU;053 HIN;130 HAN;087 HUN;052 HEN"⟩,
   ⟨0x1e875, "MENDE KIKAKUI SYLLABLE M", "193 HON;046 HUAN;090 NGGI;043 NGGA;082 NGGU;115 NGGEE"⟩,
   ⟨0x1e87b, "MENDE KIKAKUI SYLLABLE M",
     "146 NGGE;156 NGGOO;120 NGGO;159 NGGAA;127 NGGUA;086 LONG NGGE;106 LONG NGGOO;183 LONG NGGO"⟩,
   ⟨0x1e883, "MENDE KIKAKUI SYLLABLE M1", "55 GI;11 GA;68 GU;90 GEE;66 GUEI;67 GUAN;84 NGEN"⟩,
   ⟨0x1e88a, "MENDE KIKAKUI SYLLABLE M", "057 NGON;177 NGUAN;068 PI;099 PA;050 PU;081 PEE"⟩,
   ⟨0x1e890, "MENDE KIKAKUI SYLLABLE M", "051 PE;102 POO;066 PO;145 MBI;062 MBA;122 MBU;047 MBEE"⟩,
   ⟨0x1e897, "MENDE KIKAKUI SYLLABLE M", "188 MBEE;072 MBE;172 MBOO;174 MBO;187 MBUU;161 LONG MBE"⟩,
   ⟨0x1e89d, "MENDE KIKAKUI SYLLABLE M", "105 LONG MBOO;142 LONG MBO;132 KPI;092 KPA;074 KPU"⟩,
   ⟨0x1e8a2, "MENDE KIKAKUI SYLLABLE M",
     "044 KPEE;108 KPE;112 KPOO;158 KPO;124 GBI;056 GBA;148 GBU;093 GBEE;107 GBE;071 GBOO;070 GBO"⟩,
   ⟨0x1e8ad, "MENDE KIKAKUI SYLLABLE M",
     "171 RA;123 NDI;129 NDA;125 NDU;191 NDEE;119 NDE;067 NDOO;064 NDO;152 NJA;192 NJU;149 NJEE"⟩,
   ⟨0x1e8b8, "MENDE KIKAKUI SYLLABLE M", "134 NJOO;182 VI;185 VA;151 VU;173 VEE;085 VE;144 VOO"⟩,
   ⟨0x1e8bf, "MENDE KIKAKUI SYLLABLE M", "077 VO;164 NYIN;058 NYAN;170 NYUN;098 NYEN;060 NYON"⟩,
   ⟨0x1e8c7, "MENDE KIKAKUI DIGIT ", "ONE;TWO;THREE;FOUR;FIVE;SIX;SEVEN;EIGHT;NINE"⟩,
   ⟨0x1e8d0, "MENDE KIKAKUI COMBINING NUMBER ",
     "TEENS;TENS;HUNDREDS;THOUSANDS;TEN THOUSANDS;HUNDRED THOUSANDS;MILLIONS"⟩]

/-- The names in the block Adlam. -/
def adlam : List NameRun :=
  [⟨0x1e900, "ADLAM CAPITAL LETTER ", "ALIF;DAALI;LAAM;MIIM;BA;SINNYIIYHE;PE;BHE"⟩,
   ⟨0x1e908, "ADLAM CAPITAL LETTER ",
     "RA;E;FA;I;O;DHA;YHE;WAW;NUN;KAF;YA;U;JIIM;CHI;HA;QAAF;GA;NYA;TU;NHA;VA;KHA;GBE;ZAL;KPO;SHA"⟩,
   ⟨0x1e922, "ADLAM SMALL LETTER ", "ALIF;DAALI;LAAM;MIIM;BA;SINNYIIYHE;PE"⟩,
   ⟨0x1e929, "ADLAM SMALL LETTER ",
     "BHE;RA;E;FA;I;O;DHA;YHE;WAW;NUN;KAF;YA;U;JIIM;CHI;HA;QAAF;GA;NYA;TU;NHA;VA;KHA;GBE;ZAL;KPO"⟩,
   ⟨0x1e943, "ADLAM ", "SMALL LETTER SHA;ALIF LENGTHENER;VOWEL LENGTHENER;GEMINATION MARK;HAMZA"⟩,
   ⟨0x1e948, "ADLAM ", "CONSONANT MODIFIER;GEMINATE CONSONANT MODIFIER;NUKTA;NASALIZATION MARK"⟩,
   ⟨0x1e950, "ADLAM DIGIT ", "ZERO;ONE;TWO;THREE;FOUR;FIVE;SIX;SEVEN;EIGHT;NINE"⟩,
   ⟨0x1e95e, "ADLAM INITIAL ", "EXCLAMATION MARK;QUESTION MARK"⟩]

/-- The names in the block Indic Siyaq Numbers. -/
def indicSiyaqNumbers : List NameRun :=
  [⟨0x1ec71, "INDIC SIYAQ NUMBER ", "ONE;TWO;THREE;FOUR;FIVE;SIX;SEVEN;EIGHT;NINE;TEN;TWENTY"⟩,
   ⟨0x1ec7c, "INDIC SIYAQ NUMBER ", "THIRTY;FORTY;FIFTY;SIXTY;SEVENTY;EIGHTY;NINETY;ONE HUNDRED"⟩,
   ⟨0x1ec84, "INDIC SIYAQ NUMBER ",
     "TWO HUNDRED;THREE HUNDRED;FOUR HUNDRED;FIVE HUNDRED;SIX HUNDRED;SEVEN HUNDRED;EIGHT HUNDRED"⟩,
   ⟨0x1ec8b, "INDIC SIYAQ NUMBER ", "NINE HUNDRED;ONE THOUSAND;TWO THOUSAND;THREE THOUSAND"⟩,
   ⟨0x1ec8f, "INDIC SIYAQ NUMBER ", "FOUR THOUSAND;FIVE THOUSAND;SIX THOUSAND;SEVEN THOUSAND"⟩,
   ⟨0x1ec93, "INDIC SIYAQ NUMBER ", "EIGHT THOUSAND;NINE THOUSAND;TEN THOUSAND;TWENTY THOUSAND"⟩,
   ⟨0x1ec97, "INDIC SIYAQ NUMBER ", "THIRTY THOUSAND;FORTY THOUSAND;FIFTY THOUSAND;SIXTY THOUSAND"⟩,
   ⟨0x1ec9b, "INDIC SIYAQ NUMBER ", "SEVENTY THOUSAND;EIGHTY THOUSAND;NINETY THOUSAND"⟩,
   ⟨0x1ec9e, "INDIC SIYAQ ", "NUMBER LAKH;NUMBER LAKHAN;LAKH MARK;NUMBER KAROR;NUMBER KARORAN"⟩,
   ⟨0x1eca3, "INDIC SIYAQ NUMBER PREFIXED ", "ONE;TWO;THREE;FOUR;FIVE;SIX;SEVEN;EIGHT;NINE"⟩,
   ⟨0x1ecac, "INDIC SIYAQ ",
     "PLACEHOLDER;FRACTION ONE QUARTER;FRACTION ONE HALF;FRACTION THREE QUARTERS;RUPEE MARK"⟩,
   ⟨0x1ecb1, "INDIC SIYAQ ",
     "NUMBER ALTERNATE ONE;NUMBER ALTERNATE TWO;NUMBER ALTERNATE TEN THOUSAND;ALTERNATE LAKH MARK"⟩]

/-- The names in the block Ottoman Siyaq Numbers. -/
def ottomanSiyaqNumbers : List NameRun :=
  [⟨0x1ed01, "OTTOMAN SIYAQ NUMBER ", "ONE;TWO;THREE;FOUR;FIVE;SIX;SEVEN;EIGHT;NINE;TEN;TWENTY"⟩,
   ⟨0x1ed0c, "OTTOMAN SIYAQ NUMBER ", "THIRTY;FORTY;FIFTY;SIXTY;SEVENTY;EIGHTY;NINETY;ONE HUNDRED"⟩,
   ⟨0x1ed14, "OTTOMAN SIYAQ NUMBER ", "TWO HUNDRED;THREE HUNDRED;FOUR HUNDRED;FIVE HUNDRED"⟩,
   ⟨0x1ed18, "OTTOMAN SIYAQ NUMBER ", "SIX HUNDRED;SEVEN HUNDRED;EIGHT HUNDRED;NINE HUNDRED"⟩,
   ⟨0x1ed1c, "OTTOMAN SIYAQ NUMBER ", "ONE THOUSAND;TWO THOUSAND;THREE THOUSAND;FOUR THOUSAND"⟩,
   ⟨0x1ed20, "OTTOMAN SIYAQ NUMBER ", "FIVE THOUSAND;SIX THOUSAND;SEVEN THOUSAND;EIGHT THOUSAND"⟩,
   ⟨0x1ed24, "OTTOMAN SIYAQ NUMBER ", "NINE THOUSAND;TEN THOUSAND;TWENTY THOUSAND;THIRTY THOUSAND"⟩,
   ⟨0x1ed28, "OTTOMAN SIYAQ NUMBER ",
     "FORTY THOUSAND;FIFTY THOUSAND;SIXTY THOUSAND;SEVENTY THOUSAND;EIGHTY THOUSAND"⟩,
   ⟨0x1ed2d, "OTTOMAN SIYAQ ", "NUMBER NINETY THOUSAND;MARRATAN;ALTERNATE NUMBER TWO"⟩,
   ⟨0x1ed30, "OTTOMAN SIYAQ ALTERNATE NUMBER ",
     "THREE;FOUR;FIVE;SIX;SEVEN;EIGHT;NINE;TEN;FOUR HUNDRED;SIX HUNDRED;TWO THOUSAND;TEN THOUSAND"⟩,
   ⟨0x1ed3c, "OTTOMAN SIYAQ FRACTION ONE ", "HALF;SIXTH"⟩]

/-- The names in the block Arabic Mathematical Alphabetic Symbols. -/
def arabicMathematicalAlphabeticSymbols : List NameRun :=
  [⟨0x1ee00, "ARABIC MATHEMATICAL ", "ALEF;BEH;JEEM;DAL"⟩,
   ⟨0x1ee05, "ARABIC MATHEMATICAL ", "WAW;ZAIN;HAH;TAH;YEH;KAF;LAM;MEEM;NOON;SEEN;AIN;FEH;SAD;QAF"⟩,
   ⟨0x1ee13, "ARABIC MATHEMATICAL ",
     "REH;SHEEN;TEH;THEH;KHAH;THAL;DAD;ZAH;GHAIN;DOTLESS BEH;DOTLESS NOON;DOTLESS FEH;DOTLESS QAF"⟩,
   ⟨0x1ee21, "ARABIC MATHEMATICAL INITIAL ", "BEH;JEEM"⟩,
   ⟨0x1ee24, "ARABIC MATHEMATICAL INITIAL HEH", ""⟩,
   ⟨0x1ee27, "ARABIC MATHEMATICAL INITIAL HAH", ""⟩,
   ⟨0x1ee29, "ARABIC MATHEMATICAL INITIAL ", "YEH;KAF;LAM;MEEM;NOON;SEEN;AIN;FEH;SAD;QAF"⟩,
   ⟨0x1ee34, "ARABIC MATHEMATICAL INITIAL ", "SHEEN;TEH;THEH;KHAH"⟩,
   ⟨0x1ee39, "ARABIC MATHEMATICAL INITIAL DAD", ""⟩,
   ⟨0x1ee3b, "ARABIC MATHEMATICAL INITIAL GHAIN", ""⟩,
   ⟨0x1ee42, "ARABIC MATHEMATICAL TAILED JEEM", ""⟩,
   ⟨0x1ee47, "ARABIC MATHEMATICAL TAILED HAH", ""⟩,
   ⟨0x1ee49, "ARABIC MATHEMATICAL TAILED YEH", ""⟩,
   ⟨0x1ee4b, "ARABIC MATHEMATICAL TAILED LAM", ""⟩,
   ⟨0x1ee4d, "ARABIC MATHEMATICAL TAILED ", "NOON;SEEN;AIN"⟩,
   ⟨0x1ee51, "ARABIC MATHEMATICAL TAILED ", "SAD;QAF"⟩,
   ⟨0x1ee54, "ARABIC MATHEMATICAL TAILED SHEEN", ""⟩,
   ⟨0x1ee57, "ARABIC MATHEMATICAL TAILED KHAH", ""⟩,
   ⟨0x1ee59, "ARABIC MATHEMATICAL TAILED DAD", ""⟩,
   ⟨0x1ee5b, "ARABIC MATHEMATICAL TAILED GHAIN", ""⟩,
   ⟨0x1ee5d, "ARABIC MATHEMATICAL TAILED DOTLESS NOON", ""⟩,
   ⟨0x1ee5f, "ARABIC MATHEMATICAL TAILED DOTLESS QAF", ""⟩,
   ⟨0x1ee61, "ARABIC MATHEMATICAL STRETCHED ", "BEH;JEEM"⟩,
   ⟨0x1ee64, "ARABIC MATHEMATICAL STRETCHED HEH", ""⟩,
   ⟨0x1ee67, "ARABIC MATHEMATICAL STRETCHED ", "HAH;TAH;YEH;KAF"⟩,
   ⟨0x1ee6c, "ARABIC MATHEMATICAL STRETCHED ", "MEEM;NOON;SEEN;AIN;FEH;SAD;QAF"⟩,
   ⟨0x1ee74, "ARABIC MATHEMATICAL STRETCHED ", "SHEEN;TEH;THEH;KHAH"⟩,
   ⟨0x1ee79, "ARABIC MATHEMATICAL STRETCHED ", "DAD;ZAH;GHAIN;DOTLESS BEH"⟩,
   ⟨0x1ee7e, "ARABIC MATHEMATICAL STRETCHED DOTLESS FEH", ""⟩,
   ⟨0x1ee80, "ARABIC MATHEMATICAL LOOPED ", "ALEF;BEH;JEEM;DAL;HEH;WAW;ZAIN;HAH;TAH;YEH"⟩,
   ⟨0x1ee8b, "ARABIC MATHEMATICAL LOOPED ",
     "LAM;MEEM;NOON;SEEN;AIN;FEH;SAD;QAF;REH;SHEEN;TEH;THEH;KHAH;THAL;DAD;ZAH;GHAIN"⟩,
   ⟨0x1eea1, "ARABIC MATHEMATICAL DOUBLE-STRUCK ", "BEH;JEEM;DAL"⟩,
   ⟨0x1eea5, "ARABIC MATHEMATICAL DOUBLE-STRUCK ", "WAW;ZAIN;HAH;TAH;YEH"⟩,
   ⟨0x1eeab, "ARABIC MATHEMATICAL DOUBLE-STRUCK ",
     "LAM;MEEM;NOON;SEEN;AIN;FEH;SAD;QAF;REH;SHEEN;TEH;THEH;KHAH;THAL;DAD;ZAH;GHAIN"⟩,
   ⟨0x1eef0, "ARABIC MATHEMATICAL OPERATOR ", "MEEM WITH HAH WITH TATWEEL;HAH WITH DAL"⟩]

/-- The names in the block Mahjong Tiles. -/
def mahjongTiles : List NameRun :=
  [⟨0x1f000, "MAHJONG TILE ", "EAST WIND;SOUTH WIND;WEST WIND;NORTH WIND;RED DRAGON"⟩,
   ⟨0x1f005, "MAHJONG TILE ", "GREEN DRAGON;WHITE DRAGON;ONE OF CHARACTERS;TWO OF CHARACTERS"⟩,
   ⟨0x1f009, "MAHJONG TILE ", "THREE OF CHARACTERS;FOUR OF CHARACTERS;FIVE OF CHARACTERS"⟩,
   ⟨0x1f00c, "MAHJONG TILE ", "SIX OF CHARACTERS;SEVEN OF CHARACTERS;EIGHT OF CHARACTERS"⟩,
   ⟨0x1f00f, "MAHJONG TILE ", "NINE OF CHARACTERS;ONE OF BAMBOOS;TWO OF BAMBOOS;THREE OF BAMBOOS"⟩,
   ⟨0x1f013, "MAHJONG TILE ", "FOUR OF BAMBOOS;FIVE OF BAMBOOS;SIX OF BAMBOOS;SEVEN OF BAMBOOS"⟩,
   ⟨0x1f017, "MAHJONG TILE ", "EIGHT OF BAMBOOS;NINE OF BAMBOOS;ONE OF CIRCLES;TWO OF CIRCLES"⟩,
   ⟨0x1f01b, "MAHJONG TILE ", "THREE OF CIRCLES;FOUR OF CIRCLES;FIVE OF CIRCLES;SIX OF CIRCLES"⟩,
   ⟨0x1f01f, "MAHJONG TILE ", "SEVEN OF CIRCLES;EIGHT OF CIRCLES;NINE OF CIRCLES;PLUM"⟩,
   ⟨0x1f023, "MAHJONG TILE ", "ORCHID;BAMBOO;CHRYSANTHEMUM;SPRING;SUMMER;AUTUMN;WINTER;JOKER;BACK"⟩]

/-- The names in the block Domino Tiles. -/
def dominoTiles : List NameRun :=
  [⟨0x1f030, "DOMINO TILE HORIZONTAL", " BACK;-00-00;-00-01;-00-02;-00-03;-00-04"⟩,
   ⟨0x1f036, "DOMINO TILE HORIZONTAL-0", "0-05;0-06;1-00;1-01;1-02;1-03;1-04;1-05;1-06;2-00;2-01"⟩,
   ⟨0x1f041, "DOMINO TILE HORIZONTAL-0", "2-02;2-03;2-04;2-05;2-06;3-00;3-01;3-02;3-03;3-04;3-05"⟩,
   ⟨0x1f04c, "DOMINO TILE HORIZONTAL-0", "3-06;4-00;4-01;4-02;4-03;4-04;4-05;4-06;5-00;5-01;5-02"⟩,
   ⟨0x1f057, "DOMINO TILE HORIZONTAL-0", "5-03;5-04;5-05;5-06;6-00;6-01;6-02;6-03;6-04;6-05;6-06"⟩,
   ⟨0x1f062, "DOMINO TILE VERTICAL", " BACK;-00-00;-00-01;-00-02;-00-03;-00-04"⟩,
   ⟨0x1f068, "DOMINO TILE VERTICAL-0", "0-05;0-06;1-00;1-01;1-02;1-03;1-04;1-05;1-06;2-00;2-01"⟩,
   ⟨0x1f073, "DOMINO TILE VERTICAL-0", "2-02;2-03;2-04;2-05;2-06;3-00;3-01;3-02;3-03;3-04;3-05"⟩,
   ⟨0x1f07e, "DOMINO TILE VERTICAL-0", "3-06;4-00;4-01;4-02;4-03;4-04;4-05;4-06;5-00;5-01;5-02"⟩,
   ⟨0x1f089, "DOMINO TILE VERTICAL-0", "5-03;5-04;5-05;5-06;6-00;6-01;6-02;6-03;6-04;6-05;6-06"⟩]

/-- The names in the block Playing Cards. -/
def playingCards : List NameRun :=
  [⟨0x1f0a0, "PLAYING CARD ", "BACK;ACE OF SPADES;TWO OF SPADES;THREE OF SPADES;FOUR OF SPADES"⟩,
   ⟨0x1f0a5, "PLAYING CARD ", "FIVE OF SPADES;SIX OF SPADES;SEVEN OF SPADES;EIGHT OF SPADES"⟩,
   ⟨0x1f0a9, "PLAYING CARD ",
     "NINE OF SPADES;TEN OF SPADES;JACK OF SPADES;KNIGHT OF SPADES;QUEEN OF SPADES;KING OF SPADES"⟩,
   ⟨0x1f0b1, "PLAYING CARD ", "ACE OF HEARTS;TWO OF HEARTS;THREE OF HEARTS"⟩,
   ⟨0x1f0b4, "PLAYING CARD ", "FOUR OF HEARTS;FIVE OF HEARTS;SIX OF HEARTS;SEVEN OF HEARTS"⟩,
   ⟨0x1f0b8, "PLAYING CARD ", "EIGHT OF HEARTS;NINE OF HEARTS;TEN OF HEARTS;JACK OF HEARTS"⟩,
   ⟨0x1f0bc, "PLAYING CARD ", "KNIGHT OF HEARTS;QUEEN OF HEARTS;KING OF HEARTS;RED JOKER"⟩,
   ⟨0x1f0c1, "PLAYING CARD ", "ACE OF DIAMONDS;TWO OF DIAMONDS;THREE OF DIAMONDS;FOUR OF DIAMONDS"⟩,
   ⟨0x1f0c5, "PLAYING CARD ", "FIVE OF DIAMONDS;SIX OF DIAMONDS;SEVEN OF DIAMONDS"⟩,
   ⟨0x1f0c8, "PLAYING CARD ", "EIGHT OF DIAMONDS;NINE OF DIAMONDS;TEN OF DIAMONDS"⟩,
   ⟨0x1f0cb, "PLAYING CARD ",
     "JACK OF DIAMONDS;KNIGHT OF DIAMONDS;QUEEN OF DIAMONDS;KING OF DIAMONDS;BLACK JOKER"⟩,
   ⟨0x1f0d1, "PLAYING CARD ", "ACE OF CLUBS;TWO OF CLUBS;THREE OF CLUBS"⟩,
   ⟨0x1f0d4, "PLAYING CARD ", "FOUR OF CLUBS;FIVE OF CLUBS;SIX OF CLUBS;SEVEN OF CLUBS"⟩,
   ⟨0x1f0d8, "PLAYING CARD ", "EIGHT OF CLUBS;NINE OF CLUBS;TEN OF CLUBS;JACK OF CLUBS"⟩,
   ⟨0x1f0dc, "PLAYING CARD ", "KNIGHT OF CLUBS;QUEEN OF CLUBS;KING OF CLUBS;WHITE JOKER;FOOL"⟩,
   ⟨0x1f0e1, "PLAYING CARD TRUMP-", "1;2;3;4;5;6;7;8;9;10;11;12;13;14;15;16;17;18;19;20;21"⟩]

/-- The names in the block Enclosed Alphanumeric Supplement. -/
def enclosedAlphanumericSupplement : List NameRun :=
  [⟨0x1f100, "DIGIT ", "ZERO FULL STOP;ZERO COMMA;ONE COMMA;TWO COMMA;THREE COMMA"⟩,
   ⟨0x1f105, "DIGIT ", "FOUR COMMA;FIVE COMMA;SIX COMMA;SEVEN COMMA;EIGHT COMMA;NINE COMMA"⟩,
   ⟨0x1f10b, "DINGBAT ", "CIRCLED SANS-SERIF DIGIT ZERO;NEGATIVE CIRCLED SANS-SERIF DIGIT ZERO"⟩,
   ⟨0x1f10d, "CIRCLED ", "ZERO WITH SLASH;ANTICLOCKWISE ARROW;DOLLAR SIGN WITH OVERLAID BACKSLASH"⟩,
   ⟨0x1f110, "PARENTHESIZED LATIN CAPITAL LETTER ",
     "A;B;C;D;E;F;G;H;I;J;K;L;M;N;O;P;Q;R;S;T;U;V;W;X;Y;Z"⟩,
   ⟨0x1f12a, "",
     "TORTOISE SHELL BRACKETED LATIN CAPITAL LETTER S;CIRCLED ITALIC LATIN CAPITAL LETTER C"⟩,
   ⟨0x1f12c, "C", "IRCLED ITALIC LATIN CAPITAL LETTER R;IRCLED CD;IRCLED WZ;OPYLEFT SYMBOL"⟩,
   ⟨0x1f130, "SQUARED LATIN CAPITAL LETTER ", "A;B;C;D;E;F;G;H;I;J;K;L;M;N;O;P;Q;R;S;T;U;V;W;X"⟩,
   ⟨0x1f148, "SQUARED ", "LATIN CAPITAL LETTER Y;LATIN CAPITAL LETTER Z;HV;MV;SD;SS;PPV;WC"⟩,
   ⟨0x1f150, "NEGATIVE CIRCLED LATIN CAPITAL LETTER ",
     "A;B;C;D;E;F;G;H;I;J;K;L;M;N;O;P;Q;R;S;T;U;V;W;X;Y;Z"⟩,
   ⟨0x1f16a, "", "RAISED MC SIGN;RAISED MD SIGN;RAISED MR SIGN;CIRCLED CC"⟩,
   ⟨0x1f16e, "CIRCLED ", "C WITH OVERLAID BACKSLASH;HUMAN FIGURE"⟩,
   ⟨0x1f170, "NEGATIVE SQUARED LATIN CAPITAL LETTER ",
     "A;B;C;D;E;F;G;H;I;J;K;L;M;N;O;P;Q;R;S;T;U;V;W;X;Y;Z"⟩,
   ⟨0x1f18a, "", "CROSSED NEGATIVE SQUARED LATIN CAPITAL LETTER P;NEGATIVE SQUARED IC"⟩,
   ⟨0x1f18c, "NEGATIVE SQUARED ", "PA;SA;AB"⟩,
   ⟨0x1f18f, "", "NEGATIVE SQUARED WC;SQUARE DJ;SQUARED CL;SQUARED COOL;SQUARED FREE;SQUARED ID"⟩,
   ⟨0x1f195, "SQUARED ", "NEW;NG;OK;SOS;UP WITH EXCLAMATION MARK;VS;THREE D;SECOND SCREEN;TWO K"⟩,
   ⟨0x1f19e, "SQUARED ", "FOUR K;EIGHT K;FIVE POINT ONE;SEVEN POINT ONE;TWENTY-TWO POINT TWO"⟩,
   ⟨0x1f1a3, "SQUARED ", "SIXTY P;ONE HUNDRED TWENTY P;LATIN SMALL LETTER D;HC;HDR;HI-RES"⟩,
   ⟨0x1f1a9, "", "SQUARED LOSSLESS;SQUARED SHV;SQUARED UHD;SQUARED VOD;MASK WORK SYMBOL"⟩,
   ⟨0x1f1e6, "REGIONAL INDICATOR SYMBOL LETTER ",
     "A;B;C;D;E;F;G;H;I;J;K;L;M;N;O;P;Q;R;S;T;U;V;W;X;Y;Z"⟩]

/-- The names in the block Enclosed Ideographic Supplement. -/
def enclosedIdeographicSupplement : List NameRun :=
  [⟨0x1f200, "SQUARE", " HIRAGANA HOKA;D KATAKANA KOKO;D KATAKANA SA"⟩,
   ⟨0x1f210, "SQUARED CJK UNIFIED IDEOGRAPH-", "624B;5B57;53CC"⟩,
   ⟨0x1f213, "SQUARED ", "KATAKANA DE;CJK UNIFIED IDEOGRAPH-4E8C;CJK UNIFIED IDEOGRAPH-591A"⟩,
   ⟨0x1f216, "SQUARED CJK UNIFIED IDEOGRAPH-", "89E3;5929;4EA4;6620;7121;6599;524D;5F8C;518D;65B0"⟩,
   ⟨0x1f220, "SQUARED CJK UNIFIED IDEOGRAPH-", "521D;7D42;751F;8CA9;58F0;5439;6F14;6295;6355;4E00"⟩,
   ⟨0x1f22a, "SQUARED CJK UNIFIED IDEOGRAPH-",
     "4E09;904A;5DE6;4E2D;53F3;6307;8D70;6253;7981;7A7A;5408;6E80;6709;6708;7533;5272;55B6;914D"⟩,
   ⟨0x1f240, "TORTOISE SHELL BRACKETED CJK UNIFIED IDEOGRAPH-",
     "672C;4E09;4E8C;5B89;70B9;6253;76D7;52DD;6557"⟩,
   ⟨0x1f250, "CIRCLED IDEOGRAPH A", "DVANTAGE;CCEPT"⟩,
   ⟨0x1f260, "ROUNDED SYMBOL FOR ", "FU;LU;SHOU;XI;SHUANGXI;CAI"⟩]

/-- The names in the block Miscellaneous Symbols and Pictographs. -/
def miscellaneousSymbolsAndPictographs : List NameRun :=
  [⟨0x1f300, "", "CYCLONE;FOGGY;CLOSED UMBRELLA;NIGHT WITH STARS"⟩,
   ⟨0x1f304, "", "SUNRISE OVER MOUNTAINS;SUNRISE;CITYSCAPE AT DUSK;SUNSET OVER BUILDINGS"⟩,
   ⟨0x1f308, "", "RAINBOW;BRIDGE AT NIGHT;WATER WAVE;VOLCANO;MILKY WAY;EARTH GLOBE EUROPE-AFRICA"⟩,
   ⟨0x1f30e, "", "EARTH GLOBE AMERICAS;EARTH GLOBE ASIA-AUSTRALIA;GLOBE WITH MERIDIANS"⟩,
   ⟨0x1f311, "", "NEW MOON SYMBOL;WAXING CRESCENT MOON SYMBOL;FIRST QUARTER MOON SYMBOL"⟩,
   ⟨0x1f314, "", "WAXING GIBBOUS MOON SYMBOL;FULL MOON SYMBOL;WANING GIBBOUS MOON SYMBOL"⟩,
   ⟨0x1f317, "", "LAST QUARTER MOON SYMBOL;WANING CRESCENT MOON SYMBOL;CRESCENT MOON"⟩,
   ⟨0x1f31a, "", "NEW MOON WITH FACE;FIRST QUARTER MOON WITH FACE;LAST QUARTER MOON WITH FACE"⟩,
   ⟨0x1f31d, "", "FULL MOON WITH FACE;SUN WITH FACE;GLOWING STAR;SHOOTING STAR;THERMOMETER"⟩,
   ⟨0x1f322, "", "BLACK DROPLET;WHITE SUN;WHITE SUN WITH SMALL CLOUD;WHITE SUN BEHIND CLOUD"⟩,
   ⟨0x1f326, "",
     "WHITE SUN BEHIND CLOUD WITH RAIN;CLOUD WITH RAIN;CLOUD WITH SNOW;CLOUD WITH LIGHTNING"⟩,
   ⟨0x1f32a, "", "CLOUD WITH TORNADO;FOG;WIND BLOWING FACE;HOT DOG;TACO;BURRITO;CHESTNUT;SEEDLING"⟩,
   ⟨0x1f332, "", "EVERGREEN TREE;DECIDUOUS TREE;PALM TREE;CACTUS;HOT PEPPER;TULIP;CHERRY BLOSSOM"⟩,
   ⟨0x1f339, "", "ROSE;HIBISCUS;SUNFLOWER;BLOSSOM;EAR OF MAIZE;EAR OF RICE;HERB;FOUR LEAF CLOVER"⟩,
   ⟨0x1f341, "", "MAPLE LEAF;FALLEN LEAF;LEAF FLUTTERING IN WIND;MUSHROOM;TOMATO;AUBERGINE"⟩,
   ⟨0x1f347, "", "GRAPES;MELON;WATERMELON;TANGERINE;LEMON;BANANA;PINEAPPLE;RED APPLE;GREEN APPLE"⟩,
   ⟨0x1f350, "", "PEAR;PEACH;CHERRIES;STRAWBERRY;HAMBURGER;SLICE OF PIZZA;MEAT ON BONE"⟩,
   ⟨0x1f357, "", "POULTRY LEG;RICE CRACKER;RICE BALL;COOKED RICE;CURRY AND RICE;STEAMING BOWL"⟩,
   ⟨0x1f35d, "", "SPAGHETTI;BREAD;FRENCH FRIES;ROASTED SWEET POTATO;DANGO;ODEN;SUSHI;FRIED SHRIMP"⟩,
   ⟨0x1f365, "", "FISH CAKE WITH SWIRL DESIGN;SOFT ICE CREAM;SHAVED ICE;ICE CREAM;DOUGHNUT"⟩,
   ⟨0x1f36a, "", "COOKIE;CHOCOLATE BAR;CANDY;LOLLIPOP;CUSTARD;HONEY POT;SHORTCAKE;BENTO BOX"⟩,
   ⟨0x1f372, "", "POT OF FOOD;COOKING;FORK AND KNIFE;TEACUP WITHOUT HANDLE;SAKE BOTTLE AND CUP"⟩,
   ⟨0x1f377, "", "WINE GLASS;COCKTAIL GLASS;TROPICAL DRINK;BEER MUG;CLINKING BEER MUGS"⟩,
   ⟨0x1f37c, "", "BABY BOTTLE;FORK AND KNIFE WITH PLATE;BOTTLE WITH POPPING CORK;POPCORN;RIBBON"⟩,
   ⟨0x1f381, "", "WRAPPED PRESENT;BIRTHDAY CAKE;JACK-O-LANTERN;CHRISTMAS TREE;FATHER CHRISTMAS"⟩,
   ⟨0x1f386, "", "FIREWORKS;FIREWORK SPARKLER;BALLOON;PARTY POPPER;CONFETTI BALL;TANABATA TREE"⟩,
   ⟨0x1f38c, "", "CROSSED FLAGS;PINE DECORATION;JAPANESE DOLLS;CARP STREAMER;WIND CHIME"⟩,
   ⟨0x1f391, "", "MOON VIEWING CEREMONY;SCHOOL SATCHEL;GRADUATION CAP;HEART WITH TIP ON THE LEFT"⟩,
   ⟨0x1f395, "", "BOUQUET OF FLOWERS;MILITARY MEDAL;REMINDER RIBBON;MUSICAL KEYBOARD WITH JACKS"⟩,
   ⟨0x1f399, "", "STUDIO MICROPHONE;LEVEL SLIDER;CONTROL KNOBS;BEAMED ASCENDING MUSICAL NOTES"⟩,
   ⟨0x1f39d, "", "BEAMED DESCENDING MUSICAL NOTES;FILM FRAMES;ADMISSION TICKETS;CAROUSEL HORSE"⟩,
   ⟨0x1f3a1, "", "FERRIS WHEEL;ROLLER COASTER;FISHING POLE AND FISH;MICROPHONE;MOVIE CAMERA"⟩,
   ⟨0x1f3a6, "", "CINEMA;HEADPHONE;ARTIST PALETTE;TOP HAT;CIRCUS TENT;TICKET;CLAPPER BOARD"⟩,
   ⟨0x1f3ad, "", "PERFORMING ARTS;VIDEO GAME;DIRECT HIT;SLOT MACHINE;BILLIARDS;GAME DIE"⟩,
   ⟨0x1f3b3, "", "BOWLING;FLOWER PLAYING CARDS;MUSICAL NOTE;MULTIPLE MUSICAL NOTES;SAXOPHONE"⟩,
   ⟨0x1f3b8, "", "GUITAR;MUSICAL KEYBOARD;TRUMPET;VIOLIN;MUSICAL SCORE;RUNNING SHIRT WITH SASH"⟩,
   ⟨0x1f3be, "", "TENNIS RACQUET AND BALL;SKI AND SKI BOOT;BASKETBALL AND HOOP;CHEQUERED FLAG"⟩,
   ⟨0x1f3c2, "", "SNOWBOARDER;RUNNER;SURFER;SPORTS MEDAL;TROPHY;HORSE RACING;AMERICAN FOOTBALL"⟩,
   ⟨0x1f3c9, "", "RUGBY FOOTBALL;SWIMMER;WEIGHT LIFTER;GOLFER;RACING MOTORCYCLE;RACING CAR"⟩,
   ⟨0x1f3cf, "",
     "CRICKET BAT AND BALL;VOLLEYBALL;FIELD HOCKEY STICK AND BALL;ICE HOCKEY STICK AND PUCK"⟩,
   ⟨0x1f3d3, "", "TABLE TENNIS PADDLE AND BALL;SNOW CAPPED MOUNTAIN;CAMPING;BEACH WITH UMBRELLA"⟩,
   ⟨0x1f3d7, "", "BUILDING CONSTRUCTION;HOUSE BUILDINGS;CITYSCAPE;DERELICT HOUSE BUILDING"⟩,
   ⟨0x1f3db, "", "CLASSICAL BUILDING;DESERT;DESERT ISLAND;NATIONAL PARK;STADIUM;HOUSE BUILDING"⟩,
   ⟨0x1f3e1, "", "HOUSE WITH GARDEN;OFFICE BUILDING;JAPANESE POST OFFICE;EUROPEAN POST OFFICE"⟩,
   ⟨0x1f3e5, "", "HOSPITAL;BANK;AUTOMATED TELLER MACHINE;HOTEL;LOVE HOTEL;CONVENIENCE STORE"⟩,
   ⟨0x1f3eb, "", "SCHOOL;DEPARTMENT STORE;FACTORY;IZAKAYA LANTERN;JAPANESE CASTLE;EUROPEAN CASTLE"⟩,
   ⟨0x1f3f1, "", "WHITE PENNANT;BLACK PENNANT;WAVING WHITE FLAG;WAVING BLACK FLAG;ROSETTE"⟩,
   ⟨0x1f3f6, "", "BLACK ROSETTE;LABEL;BADMINTON RACQUET AND SHUTTLECOCK;BOW AND ARROW;AMPHORA"⟩,
   ⟨0x1f3fb, "EMOJI MODIFIER FITZPATRICK TYPE-", "1-2;3;4;5;6"⟩,
   ⟨0x1f400, "", "RAT;MOUSE;OX;WATER BUFFALO;COW;TIGER;LEOPARD;RABBIT;CAT"⟩,
   ⟨0x1f409, "", "DRAGON;CROCODILE;WHALE;SNAIL;SNAKE;HORSE;RAM;GOAT;SHEEP;MONKEY;ROOSTER;CHICKEN"⟩,
   ⟨0x1f415, "", "DOG;PIG;BOAR;ELEPHANT;OCTOPUS;SPIRAL SHELL;BUG;ANT;HONEYBEE;LADY BEETLE;FISH"⟩,
   ⟨0x1f420, "", "TROPICAL FISH;BLOWFISH;TURTLE;HATCHING CHICK;BABY CHICK;FRONT-FACING BABY CHICK"⟩,
   ⟨0x1f426, "", "BIRD;PENGUIN;KOALA;POODLE;DROMEDARY CAMEL;BACTRIAN CAMEL;DOLPHIN"⟩,
   ⟨0x1f42d, "", "MOUSE FACE;COW FACE;TIGER FACE;RABBIT FACE;CAT FACE;DRAGON FACE;SPOUTING WHALE"⟩,
   ⟨0x1f434, "", "HORSE FACE;MONKEY FACE;DOG FACE;PIG FACE;FROG FACE;HAMSTER FACE;WOLF FACE"⟩,
   ⟨0x1f43b, "", "BEAR FACE;PANDA FACE;PIG NOSE;PAW PRINTS;CHIPMUNK;EYES;EYE;EAR;NOSE;MOUTH"⟩,
   ⟨0x1f445, "", "TONGUE;WHITE UP POINTING BACKHAND INDEX;WHITE DOWN POINTING BACKHAND INDEX"⟩,
   ⟨0x1f448, "WHITE ", "LEFT POINTING BACKHAND INDEX;RIGHT POINTING BACKHAND INDEX"⟩,
   ⟨0x1f44a, "", "FISTED HAND SIGN;WAVING HAND SIGN;OK HAND SIGN"⟩,
   ⟨0x1f44d, "", "THUMBS UP SIGN;THUMBS DOWN SIGN;CLAPPING HANDS SIGN;OPEN HANDS SIGN"⟩,
   ⟨0x1f451, "", "CROWN;WOMANS HAT;EYEGLASSES;NECKTIE;T-SHIRT;JEANS;DRESS;KIMONO;BIKINI"⟩,
   ⟨0x1f45a, "", "WOMANS CLOTHES;PURSE;HANDBAG;POUCH;MANS SHOE;ATHLETIC SHOE;HIGH-HEELED SHOE"⟩,
   ⟨0x1f461, "", "WOMANS SANDAL;WOMANS BOOTS;FOOTPRINTS;BUST IN SILHOUETTE;BUSTS IN SILHOUETTE"⟩,
   ⟨0x1f466, "", "BOY;GIRL;MAN;WOMAN;FAMILY;MAN AND WOMAN HOLDING HANDS;TWO MEN HOLDING HANDS"⟩,
   ⟨0x1f46d, "", "TWO WOMEN HOLDING HANDS;POLICE OFFICER;WOMAN WITH BUNNY EARS"⟩,
   ⟨0x1f470, "", "BRIDE WITH VEIL;PERSON WITH BLOND HAIR;MAN WITH GUA PI MAO;MAN WITH TURBAN"⟩,
   ⟨0x1f474, "", "OLDER MAN;OLDER WOMAN;BABY;CONSTRUCTION WORKER;PRINCESS;JAPANESE OGRE"⟩,
   ⟨0x1f47a, "", "JAPANESE GOBLIN;GHOST;BABY ANGEL;EXTRATERRESTRIAL ALIEN;ALIEN MONSTER"⟩,
   ⟨0x1f47f, "", "IMP;SKULL;INFORMATION DESK PERSON;GUARDSMAN;DANCER;LIPSTICK;NAIL POLISH"⟩,
   ⟨0x1f486, "", "FACE MASSAGE;HAIRCUT;BARBER POLE;SYRINGE;PILL;KISS MARK;LOVE LETTER;RING"⟩,
   ⟨0x1f48e, "", "GEM STONE;KISS;BOUQUET;COUPLE WITH HEART;WEDDING;BEATING HEART;BROKEN HEART"⟩,
   ⟨0x1f495, "", "TWO HEARTS;SPARKLING HEART;GROWING HEART;HEART WITH ARROW;BLUE HEART"⟩,
   ⟨0x1f49a, "", "GREEN HEART;YELLOW HEART;PURPLE HEART;HEART WITH RIBBON;REVOLVING HEARTS"⟩,
   ⟨0x1f49f, "", "HEART DECORATION;DIAMOND SHAPE WITH A DOT INSIDE;ELECTRIC LIGHT BULB"⟩,
   ⟨0x1f4a2, "", "ANGER SYMBOL;BOMB;SLEEPING SYMBOL;COLLISION SYMBOL;SPLASHING SWEAT SYMBOL"⟩,
   ⟨0x1f4a7, "", "DROPLET;DASH SYMBOL;PILE OF POO;FLEXED BICEPS;DIZZY SYMBOL;SPEECH BALLOON"⟩,
   ⟨0x1f4ad, "", "THOUGHT BALLOON;WHITE FLOWER;HUNDRED POINTS SYMBOL;MONEY BAG;CURRENCY EXCHANGE"⟩,
   ⟨0x1f4b2, "", "HEAVY DOLLAR SIGN;CREDIT CARD;BANKNOTE WITH YEN SIGN;BANKNOTE WITH DOLLAR SIGN"⟩,
   ⟨0x1f4b6, "", "BANKNOTE WITH EURO SIGN;BANKNOTE WITH POUND SIGN;MONEY WITH WINGS"⟩,
   ⟨0x1f4b9, "", "CHART WITH UPWARDS TREND AND YEN SIGN;SEAT;PERSONAL COMPUTER"⟩,
   ⟨0x1f4bc, "", "BRIEFCASE;MINIDISC;FLOPPY DISK;OPTICAL DISC;DVD;FILE FOLDER;OPEN FILE FOLDER"⟩,
   ⟨0x1f4c3, "", "PAGE WITH CURL;PAGE FACING UP;CALENDAR;TEAR-OFF CALENDAR;CARD INDEX"⟩,
   ⟨0x1f4c8, "", "CHART WITH UPWARDS TREND;CHART WITH DOWNWARDS TREND;BAR CHART;CLIPBOARD"⟩,
   ⟨0x1f4cc, "", "PUSHPIN;ROUND PUSHPIN;PAPERCLIP;STRAIGHT RULER;TRIANGULAR RULER;BOOKMARK TABS"⟩,
   ⟨0x1f4d2, "", "LEDGER;NOTEBOOK;NOTEBOOK WITH DECORATIVE COVER;CLOSED BOOK;OPEN BOOK;GREEN BOOK"⟩,
   ⟨0x1f4d8, "", "BLUE BOOK;ORANGE BOOK;BOOKS;NAME BADGE;SCROLL;MEMO;TELEPHONE RECEIVER;PAGER"⟩,
   ⟨0x1f4e0, "", "FAX MACHINE;SATELLITE ANTENNA;PUBLIC ADDRESS LOUDSPEAKER;CHEERING MEGAPHONE"⟩,
   ⟨0x1f4e4, "", "OUTBOX TRAY;INBOX TRAY;PACKAGE;E-MAIL SYMBOL;INCOMING ENVELOPE"⟩,
   ⟨0x1f4e9, "", "ENVELOPE WITH DOWNWARDS ARROW ABOVE;CLOSED MAILBOX WITH LOWERED FLAG"⟩,
   ⟨0x1f4eb, "", "CLOSED MAILBOX WITH RAISED FLAG;OPEN MAILBOX WITH RAISED FLAG"⟩,
   ⟨0x1f4ed, "", "OPEN MAILBOX WITH LOWERED FLAG;POSTBOX"⟩,
   ⟨0x1f4ef, "", "POSTAL HORN;NEWSPAPER;MOBILE PHONE;MOBILE PHONE WITH RIGHTWARDS ARROW AT LEFT"⟩,
   ⟨0x1f4f3, "", "VIBRATION MODE;MOBILE PHONE OFF;NO MOBILE PHONES;ANTENNA WITH BARS"⟩,
   ⟨0x1f4f7, "", "CAMERA;CAMERA WITH FLASH;VIDEO CAMERA;TELEVISION;RADIO;VIDEOCASSETTE"⟩,
   ⟨0x1f4fd, "", "FILM PROJECTOR;PORTABLE STEREO;PRAYER BEADS;TWISTED RIGHTWARDS ARROWS"⟩,
   ⟨0x1f501, "CLOCKWISE RIGHTWARDS AND LEFTWARDS OPEN CIRCLE ARROWS", "; WITH CIRCLED ONE OVERLAY"⟩,
   ⟨0x1f503, "CLOCKWISE DOWNWARDS AND UPWARDS OPEN CIRCLE ARROWS", ""⟩,
   ⟨0x1f504, "", "ANTICLOCKWISE DOWNWARDS AND UPWARDS OPEN CIRCLE ARROWS;LOW BRIGHTNESS SYMBOL"⟩,
   ⟨0x1f506, "", "HIGH BRIGHTNESS SYMBOL;SPEAKER WITH CANCELLATION STROKE"⟩,
   ⟨0x1f508, "", "SPEAKER;SPEAKER WITH ONE SOUND WAVE;SPEAKER WITH THREE SOUND WAVES;BATTERY"⟩,
   ⟨0x1f50c, "", "ELECTRIC PLUG;LEFT-POINTING MAGNIFYING GLASS"⟩,
   ⟨0x1f50e, "", "RIGHT-POINTING MAGNIFYING GLASS;LOCK WITH INK PEN;CLOSED LOCK WITH KEY"⟩,
   ⟨0x1f511, "", "KEY;LOCK;OPEN LOCK;BELL;BELL WITH CANCELLATION STROKE;BOOKMARK;LINK SYMBOL"⟩,
   ⟨0x1f518, "", "RADIO BUTTON;BACK WITH LEFTWARDS ARROW ABOVE;END WITH LEFTWARDS ARROW ABOVE"⟩,
   ⟨0x1f51b, "",
     "ON WITH EXCLAMATION MARK WITH LEFT RIGHT ARROW ABOVE;SOON WITH RIGHTWARDS ARROW ABOVE"⟩,
   ⟨0x1f51d, "", "TOP WITH UPWARDS ARROW ABOVE;NO ONE UNDER EIGHTEEN SYMBOL;KEYCAP TEN"⟩,
   ⟨0x1f520, "INPUT SYMBOL FOR ", "LATIN CAPITAL LETTERS;LATIN SMALL LETTERS;NUMBERS"⟩,
   ⟨0x1f523, "", "INPUT SYMBOL FOR SYMBOLS;INPUT SYMBOL FOR LATIN LETTERS;FIRE"⟩,
   ⟨0x1f526, "", "ELECTRIC TORCH;WRENCH;HAMMER;NUT AND BOLT;HOCHO;PISTOL;MICROSCOPE;TELESCOPE"⟩,
   ⟨0x1f52e, "", "CRYSTAL BALL;SIX POINTED STAR WITH MIDDLE DOT;JAPANESE SYMBOL FOR BEGINNER"⟩,
   ⟨0x1f531, "", "TRIDENT EMBLEM;BLACK SQUARE BUTTON;WHITE SQUARE BUTTON;LARGE RED CIRCLE"⟩,
   ⟨0x1f535, "", "LARGE BLUE CIRCLE;LARGE ORANGE DIAMOND;LARGE BLUE DIAMOND;SMALL ORANGE DIAMOND"⟩,
   ⟨0x1f539, "", "SMALL BLUE DIAMOND;UP-POINTING RED TRIANGLE;DOWN-POINTING RED TRIANGLE"⟩,
   ⟨0x1f53c, "", "UP-POINTING SMALL RED TRIANGLE;DOWN-POINTING SMALL RED TRIANGLE"⟩,
   ⟨0x1f53e, "", "LOWER RIGHT SHADOWED WHITE CIRCLE;UPPER RIGHT SHADOWED WHITE CIRCLE"⟩,
   ⟨0x1f540, "C", "IRCLED CROSS POMMEE;ROSS POMMEE WITH HALF-CIRCLE BELOW;ROSS POMMEE"⟩,
   ⟨0x1f543, "NOTCHED ", "LEFT SEMICIRCLE WITH THREE DOTS;RIGHT SEMICIRCLE WITH THREE DOTS"⟩,
   ⟨0x1f545, "", "SYMBOL FOR MARKS CHAPTER;WHITE LATIN CROSS;HEAVY LATIN CROSS;CELTIC CROSS"⟩,
   ⟨0x1f549, "", "OM SYMBOL;DOVE OF PEACE;KAABA;MOSQUE;SYNAGOGUE;MENORAH WITH NINE BRANCHES"⟩,
   ⟨0x1f54f, "", "BOWL OF HYGIEIA;CLOCK FACE ONE OCLOCK;CLOCK FACE TWO OCLOCK"⟩,
   ⟨0x1f552, "CLOCK FACE ", "THREE OCLOCK;FOUR OCLOCK;FIVE OCLOCK;SIX OCLOCK;SEVEN OCLOCK"⟩,
   ⟨0x1f557, "CLOCK FACE ", "EIGHT OCLOCK;NINE OCLOCK;TEN OCLOCK;ELEVEN OCLOCK;TWELVE OCLOCK"⟩,
   ⟨0x1f55c, "CLOCK FACE ", "ONE-THIRTY;TWO-THIRTY;THREE-THIRTY;FOUR-THIRTY;FIVE-THIRTY"⟩,
   ⟨0x1f561, "CLOCK FACE ", "SIX-THIRTY;SEVEN-THIRTY;EIGHT-THIRTY;NINE-THIRTY;TEN-THIRTY"⟩,
   ⟨0x1f566, "", "CLOCK FACE ELEVEN-THIRTY;CLOCK FACE TWELVE-THIRTY;RIGHT SPEAKER"⟩,
   ⟨0x1f569, "", "RIGHT SPEAKER WITH ONE SOUND WAVE;RIGHT SPEAKER WITH THREE SOUND WAVES;BULLHORN"⟩,
   ⟨0x1f56c, "", "BULLHORN WITH SOUND WAVES;RINGING BELL"⟩,
   ⟨0x1f56e, "", "BOOK;CANDLE;MANTELPIECE CLOCK;BLACK SKULL AND CROSSBONES;NO PIRACY;HOLE"⟩,
   ⟨0x1f574, "", "MAN IN BUSINESS SUIT LEVITATING;SLEUTH OR SPY;DARK SUNGLASSES;SPIDER;SPIDER WEB"⟩,
   ⟨0x1f579, "", "JOYSTICK;MAN DANCING;LEFT HAND TELEPHONE RECEIVER;TELEPHONE RECEIVER WITH PAGE"⟩,
   ⟨0x1f57d, "", "RIGHT HAND TELEPHONE RECEIVER;WHITE TOUCHTONE TELEPHONE"⟩,
   ⟨0x1f57f, "", "BLACK TOUCHTONE TELEPHONE;TELEPHONE ON TOP OF MODEM;CLAMSHELL MOBILE PHONE"⟩,
   ⟨0x1f582, "", "BACK OF ENVELOPE;STAMPED ENVELOPE;ENVELOPE WITH LIGHTNING"⟩,
   ⟨0x1f585, "", "FLYING ENVELOPE;PEN OVER STAMPED ENVELOPE;LINKED PAPERCLIPS;BLACK PUSHPIN"⟩,
   ⟨0x1f589, "LOWER LEFT ", "PENCIL;BALLPOINT PEN;FOUNTAIN PEN;PAINTBRUSH;CRAYON"⟩,
   ⟨0x1f58e, "", "LEFT WRITING HAND;TURNED OK HAND SIGN;RAISED HAND WITH FINGERS SPLAYED"⟩,
   ⟨0x1f591, "REVERSED ", "RAISED HAND WITH FINGERS SPLAYED;THUMBS UP SIGN"⟩,
   ⟨0x1f593, "REVERSED ", "THUMBS DOWN SIGN;VICTORY HAND;HAND WITH MIDDLE FINGER EXTENDED"⟩,
   ⟨0x1f596, "RAISED HAND WITH PART BETWEEN MIDDLE AND RING FINGERS", ""⟩,
   ⟨0x1f597, "", "WHITE DOWN POINTING LEFT HAND INDEX;SIDEWAYS WHITE LEFT POINTING INDEX"⟩,
   ⟨0x1f599, "SIDEWAYS ", "WHITE RIGHT POINTING INDEX;BLACK LEFT POINTING INDEX"⟩,
   ⟨0x1f59b, "", "SIDEWAYS BLACK RIGHT POINTING INDEX;BLACK LEFT POINTING BACKHAND INDEX"⟩,
   ⟨0x1f59d, "", "BLACK RIGHT POINTING BACKHAND INDEX;SIDEWAYS WHITE UP POINTING INDEX"⟩,
   ⟨0x1f59f, "SIDEWAYS ", "WHITE DOWN POINTING INDEX;BLACK UP POINTING INDEX"⟩,
   ⟨0x1f5a1, "", "SIDEWAYS BLACK DOWN POINTING INDEX;BLACK UP POINTING BACKHAND INDEX"⟩,
   ⟨0x1f5a3, "", "BLACK DOWN POINTING BACKHAND INDEX;BLACK HEART;DESKTOP COMPUTER"⟩,
   ⟨0x1f5a6, "", "KEYBOARD AND MOUSE;THREE NETWORKED COMPUTERS;PRINTER"⟩,
   ⟨0x1f5a9, "", "POCKET CALCULATOR;BLACK HARD SHELL FLOPPY DISK;WHITE HARD SHELL FLOPPY DISK"⟩,
   ⟨0x1f5ac, "", "SOFT SHELL FLOPPY DISK;TAPE CARTRIDGE;WIRED KEYBOARD;ONE BUTTON MOUSE"⟩,
   ⟨0x1f5b0, "", "TWO BUTTON MOUSE;THREE BUTTON MOUSE;TRACKBALL;OLD PERSONAL COMPUTER"⟩,
   ⟨0x1f5b4, "", "HARD DISK;SCREEN;PRINTER ICON;FAX ICON;OPTICAL DISC ICON;DOCUMENT WITH TEXT"⟩,
   ⟨0x1f5ba, "", "DOCUMENT WITH TEXT AND PICTURE;DOCUMENT WITH PICTURE;FRAME WITH PICTURE"⟩,
   ⟨0x1f5bd, "", "FRAME WITH TILES;FRAME WITH AN X;BLACK FOLDER;FOLDER;OPEN FOLDER"⟩,
   ⟨0x1f5c2, "", "CARD INDEX DIVIDERS;CARD FILE BOX;FILE CABINET;EMPTY NOTE;EMPTY NOTE PAGE"⟩,
   ⟨0x1f5c7, "", "EMPTY NOTE PAD;NOTE;NOTE PAGE;NOTE PAD;EMPTY DOCUMENT;EMPTY PAGE;EMPTY PAGES"⟩,
   ⟨0x1f5ce, "",
     "DOCUMENT;PAGE;PAGES;WASTEBASKET;SPIRAL NOTE PAD;SPIRAL CALENDAR PAD;DESKTOP WINDOW;MINIMIZE"⟩,
   ⟨0x1f5d6, "", "MAXIMIZE;OVERLAP;CLOCKWISE RIGHT AND LEFT SEMICIRCLE ARROWS;CANCELLATION X"⟩,
   ⟨0x1f5da, "", "INCREASE FONT SIZE SYMBOL;DECREASE FONT SIZE SYMBOL;COMPRESSION;OLD KEY"⟩,
   ⟨0x1f5de, "", "ROLLED-UP NEWSPAPER;PAGE WITH CIRCLED TEXT;STOCK CHART;DAGGER KNIFE;LIPS"⟩,
   ⟨0x1f5e3, "", "SPEAKING HEAD IN SILHOUETTE;THREE RAYS ABOVE;THREE RAYS BELOW;THREE RAYS LEFT"⟩,
   ⟨0x1f5e7, "", "THREE RAYS RIGHT;LEFT SPEECH BUBBLE;RIGHT SPEECH BUBBLE;TWO SPEECH BUBBLES"⟩,
   ⟨0x1f5eb, "", "THREE SPEECH BUBBLES;LEFT THOUGHT BUBBLE;RIGHT THOUGHT BUBBLE;LEFT ANGER BUBBLE"⟩,
   ⟨0x1f5ef, "", "RIGHT ANGER BUBBLE;MOOD BUBBLE;LIGHTNING MOOD BUBBLE;LIGHTNING MOOD"⟩,
   ⟨0x1f5f3, "BALLOT ", "BOX WITH BALLOT;SCRIPT X;BOX WITH SCRIPT X;BOLD SCRIPT X"⟩,
   ⟨0x1f5f7, "", "BALLOT BOX WITH BOLD SCRIPT X;LIGHT CHECK MARK;BALLOT BOX WITH BOLD CHECK"⟩,
   ⟨0x1f5fa, "", "WORLD MAP;MOUNT FUJI;TOKYO TOWER;STATUE OF LIBERTY;SILHOUETTE OF JAPAN;MOYAI"⟩]

/-- The names in the block Emoticons. -/
def emoticons : List NameRun :=
  [⟨0x1f600, "", "GRINNING FACE;GRINNING FACE WITH SMILING EYES;FACE WITH TEARS OF JOY"⟩,
   ⟨0x1f603, "SMILING FACE WITH OPEN MOUTH", "; AND SMILING EYES; AND COLD SWEAT"⟩,
   ⟨0x1f606, "SMILING FACE WITH ", "OPEN MOUTH AND TIGHTLY-CLOSED EYES;HALO;HORNS"⟩,
   ⟨0x1f609, "", "WINKING FACE;SMILING FACE WITH SMILING EYES;FACE SAVOURING DELICIOUS FOOD"⟩,
   ⟨0x1f60c, "", "RELIEVED FACE;SMILING FACE WITH HEART-SHAPED EYES;SMILING FACE WITH SUNGLASSES"⟩,
   ⟨0x1f60f, "", "SMIRKING FACE;NEUTRAL FACE;EXPRESSIONLESS FACE;UNAMUSED FACE"⟩,
   ⟨0x1f613, "", "FACE WITH COLD SWEAT;PENSIVE FACE;CONFUSED FACE;CONFOUNDED FACE;KISSING FACE"⟩,
   ⟨0x1f618, "",
     "FACE THROWING A KISS;KISSING FACE WITH SMILING EYES;KISSING FACE WITH CLOSED EYES"⟩,
   ⟨0x1f61b, "FACE WITH STUCK-OUT TONGUE", "; AND WINKING EYE; AND TIGHTLY-CLOSED EYES"⟩,
   ⟨0x1f61e, "", "DISAPPOINTED FACE;WORRIED FACE;ANGRY FACE;POUTING FACE;CRYING FACE"⟩,
   ⟨0x1f623, "", "PERSEVERING FACE;FACE WITH LOOK OF TRIUMPH;DISAPPOINTED BUT RELIEVED FACE"⟩,
   ⟨0x1f626, "", "FROWNING FACE WITH OPEN MOUTH;ANGUISHED FACE;FEARFUL FACE"⟩,
   ⟨0x1f629, "", "WEARY FACE;SLEEPY FACE;TIRED FACE;GRIMACING FACE;LOUDLY CRYING FACE"⟩,
   ⟨0x1f62e, "", "FACE WITH OPEN MOUTH;HUSHED FACE;FACE WITH OPEN MOUTH AND COLD SWEAT"⟩,
   ⟨0x1f631, "", "FACE SCREAMING IN FEAR;ASTONISHED FACE;FLUSHED FACE;SLEEPING FACE;DIZZY FACE"⟩,
   ⟨0x1f636, "", "FACE WITHOUT MOUTH;FACE WITH MEDICAL MASK;GRINNING CAT FACE WITH SMILING EYES"⟩,
   ⟨0x1f639, "", "CAT FACE WITH TEARS OF JOY;SMILING CAT FACE WITH OPEN MOUTH"⟩,
   ⟨0x1f63b, "", "SMILING CAT FACE WITH HEART-SHAPED EYES;CAT FACE WITH WRY SMILE"⟩,
   ⟨0x1f63d, "", "KISSING CAT FACE WITH CLOSED EYES;POUTING CAT FACE"⟩,
   ⟨0x1f63f, "", "CRYING CAT FACE;WEARY CAT FACE;SLIGHTLY FROWNING FACE;SLIGHTLY SMILING FACE"⟩,
   ⟨0x1f643, "", "UPSIDE-DOWN FACE;FACE WITH ROLLING EYES;FACE WITH NO GOOD GESTURE"⟩,
   ⟨0x1f646, "", "FACE WITH OK GESTURE;PERSON BOWING DEEPLY;SEE-NO-EVIL MONKEY"⟩,
   ⟨0x1f649, "", "HEAR-NO-EVIL MONKEY;SPEAK-NO-EVIL MONKEY;HAPPY PERSON RAISING ONE HAND"⟩,
   ⟨0x1f64c, "PERSON ",
     "RAISING BOTH HANDS IN CELEBRATION;FROWNING;WITH POUTING FACE;WITH FOLDED HANDS"⟩]

/-- The names in the block Ornamental Dingbats. -/
def ornamentalDingbats : List NameRun :=
  [⟨0x1f650, "", "NORTH WEST POINTING LEAF;SOUTH WEST POINTING LEAF;NORTH EAST POINTING LEAF"⟩,
   ⟨0x1f653, "", "SOUTH EAST POINTING LEAF;TURNED NORTH WEST POINTING LEAF"⟩,
   ⟨0x1f655, "TURNED ", "SOUTH WEST POINTING LEAF;NORTH EAST POINTING LEAF"⟩,
   ⟨0x1f657, "", "TURNED SOUTH EAST POINTING LEAF;NORTH WEST POINTING VINE LEAF"⟩,
   ⟨0x1f659, "", "SOUTH WEST POINTING VINE LEAF;NORTH EAST POINTING VINE LEAF"⟩,
   ⟨0x1f65b, "", "SOUTH EAST POINTING VINE LEAF;HEAVY NORTH WEST POINTING VINE LEAF"⟩,
   ⟨0x1f65d, "HEAVY ", "SOUTH WEST POINTING VINE LEAF;NORTH EAST POINTING VINE LEAF"⟩,
   ⟨0x1f65f, "", "HEAVY SOUTH EAST POINTING VINE LEAF;NORTH WEST POINTING BUD"⟩,
   ⟨0x1f661, "", "SOUTH WEST POINTING BUD;NORTH EAST POINTING BUD;SOUTH EAST POINTING BUD"⟩,
   ⟨0x1f664, "HEAVY ", "NORTH WEST POINTING BUD;SOUTH WEST POINTING BUD;NORTH EAST POINTING BUD"⟩,
   ⟨0x1f667, "H", "EAVY SOUTH EAST POINTING BUD;OLLOW QUILT SQUARE ORNAMENT"⟩,
   ⟨0x1f669, "", "HOLLOW QUILT SQUARE ORNAMENT IN BLACK SQUARE;SOLID QUILT SQUARE ORNAMENT"⟩,
   ⟨0x1f66b, "", "SOLID QUILT SQUARE ORNAMENT IN BLACK SQUARE;LEFTWARDS ROCKET"⟩,
   ⟨0x1f66d, "", "UPWARDS ROCKET;RIGHTWARDS ROCKET;DOWNWARDS ROCKET;SCRIPT LIGATURE ET ORNAMENT"⟩,
   ⟨0x1f671, "", "HEAVY SCRIPT LIGATURE ET ORNAMENT;LIGATURE OPEN ET ORNAMENT"⟩,
   ⟨0x1f673, "HEAVY ", "LIGATURE OPEN ET ORNAMENT;AMPERSAND ORNAMENT"⟩,
   ⟨0x1f675, "S",
     "WASH AMPERSAND ORNAMENT;ANS-SERIF HEAVY DOUBLE TURNED COMMA QUOTATION MARK ORNAMENT"⟩,
   ⟨0x1f677, "SANS-SERIF HEAVY ",
     "DOUBLE COMMA QUOTATION MARK ORNAMENT;LOW DOUBLE COMMA QUOTATION MARK ORNAMENT"⟩,
   ⟨0x1f679, "", "HEAVY INTERROBANG ORNAMENT;SANS-SERIF INTERROBANG ORNAMENT"⟩,
   ⟨0x1f67b, "", "HEAVY SANS-SERIF INTERROBANG ORNAMENT;VERY HEAVY SOLIDUS"⟩,
   ⟨0x1f67d, "", "VERY HEAVY REVERSE SOLIDUS;CHECKER BOARD;REVERSE CHECKER BOARD"⟩]

/-- The names in the block Transport and Map Symbols. -/
def transportAndMapSymbols : List NameRun :=
  [⟨0x1f680, "", "ROCKET;HELICOPTER;STEAM LOCOMOTIVE;RAILWAY CAR"⟩,
   ⟨0x1f684, "", "HIGH-SPEED TRAIN;HIGH-SPEED TRAIN WITH BULLET NOSE;TRAIN;METRO;LIGHT RAIL"⟩,
   ⟨0x1f689, "", "STATION;TRAM;TRAM CAR;BUS;ONCOMING BUS;TROLLEYBUS;BUS STOP;MINIBUS;AMBULANCE"⟩,
   ⟨0x1f692, "", "FIRE ENGINE;POLICE CAR;ONCOMING POLICE CAR;TAXI;ONCOMING TAXI;AUTOMOBILE"⟩,
   ⟨0x1f698, "", "ONCOMING AUTOMOBILE;RECREATIONAL VEHICLE;DELIVERY TRUCK;ARTICULATED LORRY"⟩,
   ⟨0x1f69c, "", "TRACTOR;MONORAIL;MOUNTAIN RAILWAY;SUSPENSION RAILWAY;MOUNTAIN CABLEWAY"⟩,
   ⟨0x1f6a1, "", "AERIAL TRAMWAY;SHIP;ROWBOAT;SPEEDBOAT;HORIZONTAL TRAFFIC LIGHT"⟩,
   ⟨0x1f6a6, "", "VERTICAL TRAFFIC LIGHT;CONSTRUCTION SIGN;POLICE CARS REVOLVING LIGHT"⟩,
   ⟨0x1f6a9, "", "TRIANGULAR FLAG ON POST;DOOR;NO ENTRY SIGN;SMOKING SYMBOL;NO SMOKING SYMBOL"⟩,
   ⟨0x1f6ae, "", "PUT LITTER IN ITS PLACE SYMBOL;DO NOT LITTER SYMBOL;POTABLE WATER SYMBOL"⟩,
   ⟨0x1f6b1, "", "NON-POTABLE WATER SYMBOL;BICYCLE;NO BICYCLES;BICYCLIST;MOUNTAIN BICYCLIST"⟩,
   ⟨0x1f6b6, "", "PEDESTRIAN;NO PEDESTRIANS;CHILDREN CROSSING;MENS SYMBOL;WOMENS SYMBOL;RESTROOM"⟩,
   ⟨0x1f6bc, "", "BABY SYMBOL;TOILET;WATER CLOSET;SHOWER;BATH;BATHTUB;PASSPORT CONTROL;CUSTOMS"⟩,
   ⟨0x1f6c4, "", "BAGGAGE CLAIM;LEFT LUGGAGE;TRIANGLE WITH ROUNDED CORNERS;PROHIBITED SIGN"⟩,
   ⟨0x1f6c8, "", "CIRCLED INFORMATION SOURCE;BOYS SYMBOL;GIRLS SYMBOL;COUCH AND LAMP"⟩,
   ⟨0x1f6cc, "", "SLEEPING ACCOMMODATION;SHOPPING BAGS;BELLHOP BELL;BED;PLACE OF WORSHIP"⟩,
   ⟨0x1f6d1, "", "OCTAGONAL SIGN;SHOPPING TROLLEY;STUPA;PAGODA;HINDU TEMPLE;HUT;ELEVATOR"⟩,
   ⟨0x1f6dd, "", "PLAYGROUND SLIDE;WHEEL;RING BUOY;HAMMER AND WRENCH"⟩,
   ⟨0x1f6e1, "", "SHIELD;OIL DRUM;MOTORWAY;RAILWAY TRACK;MOTOR BOAT;UP-POINTING MILITARY AIRPLANE"⟩,
   ⟨0x1f6e7, "", "UP-POINTING AIRPLANE;UP-POINTING SMALL AIRPLANE;SMALL AIRPLANE"⟩,
   ⟨0x1f6ea, "", "NORTHEAST-POINTING AIRPLANE;AIRPLANE DEPARTURE;AIRPLANE ARRIVING"⟩,
   ⟨0x1f6f0, "", "SATELLITE;ONCOMING FIRE ENGINE;DIESEL LOCOMOTIVE;PASSENGER SHIP;SCOOTER"⟩,
   ⟨0x1f6f5, "",
     "MOTOR SCOOTER;CANOE;SLED;FLYING SAUCER;SKATEBOARD;AUTO RICKSHAW;PICKUP TRUCK;ROLLER SKATE"⟩]

/-- The names in the block Alchemical Symbols. -/
def alchemicalSymbols : List NameRun :=
  [⟨0x1f700, "ALCHEMICAL SYMBOL FOR ", "QUINTESSENCE;AIR;FIRE;EARTH;WATER;AQUAFORTIS;AQUA REGIA"⟩,
   ⟨0x1f707, "ALCHEMICAL SYMBOL FOR ", "AQUA REGIA-2;AQUA VITAE;AQUA VITAE-2;VINEGAR;VINEGAR-2"⟩,
   ⟨0x1f70c, "ALCHEMICAL SYMBOL FOR ",
     "VINEGAR-3;SULFUR;PHILOSOPHERS SULFUR;BLACK SULFUR;MERCURY SUBLIMATE;MERCURY SUBLIMATE-2"⟩,
   ⟨0x1f712, "ALCHEMICAL SYMBOL FOR ", "MERCURY SUBLIMATE-3;CINNABAR;SALT;NITRE;VITRIOL;VITRIOL-2"⟩,
   ⟨0x1f718, "ALCHEMICAL SYMBOL FOR ", "ROCK SALT;ROCK SALT-2;GOLD;SILVER;IRON ORE;IRON ORE-2"⟩,
   ⟨0x1f71e, "ALCHEMICAL SYMBOL FOR ", "CROCUS OF IRON;REGULUS OF IRON;COPPER ORE;IRON-COPPER ORE"⟩,
   ⟨0x1f722, "ALCHEMICAL SYMBOL FOR ", "SUBLIMATE OF COPPER;CROCUS OF COPPER;CROCUS OF COPPER-2"⟩,
   ⟨0x1f725, "ALCHEMICAL SYMBOL FOR ", "COPPER ANTIMONIATE;SALT OF COPPER ANTIMONIATE"⟩,
   ⟨0x1f727, "ALCHEMICAL SYMBOL FOR ", "SUBLIMATE OF SALT OF COPPER;VERDIGRIS;TIN ORE;LEAD ORE"⟩,
   ⟨0x1f72b, "ALCHEMICAL SYMBOL FOR ", "ANTIMONY ORE;SUBLIMATE OF ANTIMONY;SALT OF ANTIMONY"⟩,
   ⟨0x1f72e, "ALCHEMICAL SYMBOL FOR ", "SUBLIMATE OF SALT OF ANTIMONY;VINEGAR OF ANTIMONY"⟩,
   ⟨0x1f730, "ALCHEMICAL SYMBOL FOR REGULUS", " OF ANTIMONY; OF ANTIMONY-2;;-2;-3"⟩,
   ⟨0x1f735, "ALCHEMICAL SYMBOL FOR ", "REGULUS-4;ALKALI;ALKALI-2;MARCASITE;SAL-AMMONIAC;ARSENIC"⟩,
   ⟨0x1f73b, "ALCHEMICAL SYMBOL FOR ", "REALGAR;REALGAR-2;AURIPIGMENT;BISMUTH ORE;TARTAR;TARTAR-2"⟩,
   ⟨0x1f741, "ALCHEMICAL SYMBOL FOR ", "QUICK LIME;BORAX;BORAX-2;BORAX-3;ALUM;OIL;SPIRIT;TINCTURE"⟩,
   ⟨0x1f749, "ALCHEMICAL SYMBOL FOR ", "GUM;WAX;POWDER;CALX;TUTTY;CAPUT MORTUUM;SCEPTER OF JOVE"⟩,
   ⟨0x1f750, "ALCHEMICAL SYMBOL FOR ", "CADUCEUS;TRIDENT;STARRED TRIDENT;LODESTONE;SOAP;URINE"⟩,
   ⟨0x1f756, "ALCHEMICAL SYMBOL FOR ", "HORSE DUNG;ASHES;POT ASHES;BRICK;POWDERED BRICK;AMALGAM"⟩,
   ⟨0x1f75c, "ALCHEMICAL SYMBOL FOR S", "TRATUM SUPER STRATUM;TRATUM SUPER STRATUM-2;UBLIMATION"⟩,
   ⟨0x1f75f, "ALCHEMICAL SYMBOL FOR ", "PRECIPITATE;DISTILL;DISSOLVE;DISSOLVE-2;PURIFY"⟩,
   ⟨0x1f764, "ALCHEMICAL SYMBOL FOR ", "PUTREFACTION;CRUCIBLE;CRUCIBLE-2;CRUCIBLE-3;CRUCIBLE-4"⟩,
   ⟨0x1f769, "ALCHEMICAL SYMBOL FOR ", "CRUCIBLE-5;ALEMBIC;BATH OF MARY;BATH OF VAPOURS"⟩,
   ⟨0x1f76d, "ALCHEMICAL SYMBOL FOR ", "RETORT;HOUR;NIGHT;DAY-NIGHT;MONTH;HALF DRAM;HALF OUNCE"⟩]

/-- The names in the block Geometric Shapes Extended. -/
def geometricShapesExtended : List NameRun :=
  [⟨0x1f780, "BLACK ",
     "LEFT-POINTING ISOSCELES RIGHT TRIANGLE;UP-POINTING ISOSCELES RIGHT TRIANGLE"⟩,
   ⟨0x1f782, "BLACK ",
     "RIGHT-POINTING ISOSCELES RIGHT TRIANGLE;DOWN-POINTING ISOSCELES RIGHT TRIANGLE"⟩,
   ⟨0x1f784, "", "BLACK SLIGHTLY SMALL CIRCLE;MEDIUM BOLD WHITE CIRCLE;BOLD WHITE CIRCLE"⟩,
   ⟨0x1f787, "", "HEAVY WHITE CIRCLE;VERY HEAVY WHITE CIRCLE;EXTREMELY HEAVY WHITE CIRCLE"⟩,
   ⟨0x1f78a, "", "WHITE CIRCLE CONTAINING BLACK SMALL CIRCLE;ROUND TARGET;BLACK TINY SQUARE"⟩,
   ⟨0x1f78d, "", "BLACK SLIGHTLY SMALL SQUARE;LIGHT WHITE SQUARE;MEDIUM WHITE SQUARE"⟩,
   ⟨0x1f790, "", "BOLD WHITE SQUARE;HEAVY WHITE SQUARE;VERY HEAVY WHITE SQUARE"⟩,
   ⟨0x1f793, "", "EXTREMELY HEAVY WHITE SQUARE;WHITE SQUARE CONTAINING BLACK VERY SMALL SQUARE"⟩,
   ⟨0x1f795, "", "WHITE SQUARE CONTAINING BLACK MEDIUM SQUARE;SQUARE TARGET"⟩,
   ⟨0x1f797, "BLACK ", "TINY DIAMOND;VERY SMALL DIAMOND"⟩,
   ⟨0x1f799, "", "BLACK MEDIUM SMALL DIAMOND;WHITE DIAMOND CONTAINING BLACK VERY SMALL DIAMOND"⟩,
   ⟨0x1f79b, "", "WHITE DIAMOND CONTAINING BLACK MEDIUM DIAMOND;DIAMOND TARGET"⟩,
   ⟨0x1f79d, "BLACK ", "TINY LOZENGE;VERY SMALL LOZENGE;MEDIUM SMALL LOZENGE"⟩,
   ⟨0x1f7a0, "", "WHITE LOZENGE CONTAINING BLACK SMALL LOZENGE;THIN GREEK CROSS"⟩,
   ⟨0x1f7a2, "", "LIGHT GREEK CROSS;MEDIUM GREEK CROSS;BOLD GREEK CROSS;VERY BOLD GREEK CROSS"⟩,
   ⟨0x1f7a6, "", "VERY HEAVY GREEK CROSS;EXTREMELY HEAVY GREEK CROSS;THIN SALTIRE"⟩,
   ⟨0x1f7a9, "", "LIGHT SALTIRE;MEDIUM SALTIRE;BOLD SALTIRE;HEAVY SALTIRE;VERY HEAVY SALTIRE"⟩,
   ⟨0x1f7ae, "", "EXTREMELY HEAVY SALTIRE;LIGHT FIVE SPOKED ASTERISK;MEDIUM FIVE SPOKED ASTERISK"⟩,
   ⟨0x1f7b1, "", "BOLD FIVE SPOKED ASTERISK;HEAVY FIVE SPOKED ASTERISK"⟩,
   ⟨0x1f7b3, "", "VERY HEAVY FIVE SPOKED ASTERISK;EXTREMELY HEAVY FIVE SPOKED ASTERISK"⟩,
   ⟨0x1f7b5, "", "LIGHT SIX SPOKED ASTERISK;MEDIUM SIX SPOKED ASTERISK;BOLD SIX SPOKED ASTERISK"⟩,
   ⟨0x1f7b8, "", "HEAVY SIX SPOKED ASTERISK;VERY HEAVY SIX SPOKED ASTERISK"⟩,
   ⟨0x1f7ba, "", "EXTREMELY HEAVY SIX SPOKED ASTERISK;LIGHT EIGHT SPOKED ASTERISK"⟩,
   ⟨0x1f7bc, "", "MEDIUM EIGHT SPOKED ASTERISK;BOLD EIGHT SPOKED ASTERISK"⟩,
   ⟨0x1f7be, "", "HEAVY EIGHT SPOKED ASTERISK;VERY HEAVY EIGHT SPOKED ASTERISK"⟩,
   ⟨0x1f7c0, "", "LIGHT THREE POINTED BLACK STAR;MEDIUM THREE POINTED BLACK STAR"⟩,
   ⟨0x1f7c2, "", "THREE POINTED BLACK STAR;MEDIUM THREE POINTED PINWHEEL STAR"⟩,
   ⟨0x1f7c4, "", "LIGHT FOUR POINTED BLACK STAR;MEDIUM FOUR POINTED BLACK STAR"⟩,
   ⟨0x1f7c6, "", "FOUR POINTED BLACK STAR;MEDIUM FOUR POINTED PINWHEEL STAR"⟩,
   ⟨0x1f7c8, "", "REVERSE LIGHT FOUR POINTED PINWHEEL STAR;LIGHT FIVE POINTED BLACK STAR"⟩,
   ⟨0x1f7ca, "", "HEAVY FIVE POINTED BLACK STAR;MEDIUM SIX POINTED BLACK STAR"⟩,
   ⟨0x1f7cc, "", "HEAVY SIX POINTED BLACK STAR;SIX POINTED PINWHEEL STAR"⟩,
   ⟨0x1f7ce, "", "MEDIUM EIGHT POINTED BLACK STAR;HEAVY EIGHT POINTED BLACK STAR"⟩,
   ⟨0x1f7d0, "", "VERY HEAVY EIGHT POINTED BLACK STAR;HEAVY EIGHT POINTED PINWHEEL STAR"⟩,
   ⟨0x1f7d2, "", "LIGHT TWELVE POINTED BLACK STAR;HEAVY TWELVE POINTED BLACK STAR"⟩,
   ⟨0x1f7d4, "", "HEAVY TWELVE POINTED PINWHEEL STAR;CIRCLED TRIANGLE"⟩,
   ⟨0x1f7d6, "", "NEGATIVE CIRCLED TRIANGLE;CIRCLED SQUARE;NEGATIVE CIRCLED SQUARE"⟩,
   ⟨0x1f7e0, "LARGE ", "ORANGE CIRCLE;YELLOW CIRCLE;GREEN CIRCLE;PURPLE CIRCLE;BROWN CIRCLE"⟩,
   ⟨0x1f7e5, "LARGE ",
     "RED SQUARE;BLUE SQUARE;ORANGE SQUARE;YELLOW SQUARE;GREEN SQUARE;PURPLE SQUARE;BROWN SQUARE"⟩,
   ⟨0x1f7f0, "HEAVY EQUALS SIGN", ""⟩]

/-- The names in the block Supplemental Arrows-C. -/
def supplementalArrowsC : List NameRun :=
  [⟨0x1f800, "LEFTWARDS ARROW WITH SMALL TRIANGLE ARROWHEAD", ""⟩,
   ⟨0x1f801, "",
     "UPWARDS ARROW WITH SMALL TRIANGLE ARROWHEAD;RIGHTWARDS ARROW WITH SMALL TRIANGLE ARROWHEAD"⟩,
   ⟨0x1f803, "DOWNWARDS ARROW WITH SMALL TRIANGLE ARROWHEAD", ""⟩,
   ⟨0x1f804, "",
     "LEFTWARDS ARROW WITH MEDIUM TRIANGLE ARROWHEAD;UPWARDS ARROW WITH MEDIUM TRIANGLE ARROWHEAD"⟩,
   ⟨0x1f806, "RIGHTWARDS ARROW WITH MEDIUM TRIANGLE ARROWHEAD", ""⟩,
   ⟨0x1f807, "DOWNWARDS ARROW WITH MEDIUM TRIANGLE ARROWHEAD", ""⟩,
   ⟨0x1f808, "LEFTWARDS ARROW WITH LARGE TRIANGLE ARROWHEAD", ""⟩,
   ⟨0x1f809, "",
     "UPWARDS ARROW WITH LARGE TRIANGLE ARROWHEAD;RIGHTWARDS ARROW WITH LARGE TRIANGLE ARROWHEAD"⟩,
   ⟨0x1f80b, "DOWNWARDS ARROW WITH LARGE TRIANGLE ARROWHEAD", ""⟩,
   ⟨0x1f810, "LEFTWARDS ARROW WITH SMALL EQUILATERAL ARROWHEAD", ""⟩,
   ⟨0x1f811, "UPWARDS ARROW WITH SMALL EQUILATERAL ARROWHEAD", ""⟩,
   ⟨0x1f812, "RIGHTWARDS ARROW WITH SMALL EQUILATERAL ARROWHEAD", ""⟩,
   ⟨0x1f813, "",
     "DOWNWARDS ARROW WITH SMALL EQUILATERAL ARROWHEAD;LEFTWARDS ARROW WITH EQUILATERAL ARROWHEAD"⟩,
   ⟨0x1f815, "",
     "UPWARDS ARROW WITH EQUILATERAL ARROWHEAD;RIGHTWARDS ARROW WITH EQUILATERAL ARROWHEAD"⟩,
   ⟨0x1f817, "",
     "DOWNWARDS ARROW WITH EQUILATERAL ARROWHEAD;HEAVY LEFTWARDS ARROW WITH EQUILATERAL ARROWHEAD"⟩,
   ⟨0x1f819, "HEAVY ",
     "UPWARDS ARROW WITH EQUILATERAL ARROWHEAD;RIGHTWARDS ARROW WITH EQUILATERAL ARROWHEAD"⟩,
   ⟨0x1f81b, "HEAVY ",
     "DOWNWARDS ARROW WITH EQUILATERAL ARROWHEAD;LEFTWARDS ARROW WITH LARGE EQUILATERAL ARROWHEAD"⟩,
   ⟨0x1f81d, "HEAVY UPWARDS ARROW WITH LARGE EQUILATERAL ARROWHEAD", ""⟩,
   ⟨0x1f81e, "HEAVY RIGHTWARDS ARROW WITH LARGE EQUILATERAL ARROWHEAD", ""⟩,
   ⟨0x1f81f, "HEAVY DOWNWARDS ARROW WITH LARGE EQUILATERAL ARROWHEAD", ""⟩,
   ⟨0x1f820, "LEFTWARDS TRIANGLE-HEADED ARROW WITH NARROW SHAFT", ""⟩,
   ⟨0x1f821, "UPWARDS TRIANGLE-HEADED ARROW WITH NARROW SHAFT", ""⟩,
   ⟨0x1f822, "RIGHTWARDS TRIANGLE-HEADED ARROW WITH NARROW SHAFT", ""⟩,
   ⟨0x1f823, "DOWNWARDS TRIANGLE-HEADED ARROW WITH NARROW SHAFT", ""⟩,
   ⟨0x1f824, "LEFTWARDS TRIANGLE-HEADED ARROW WITH MEDIUM SHAFT", ""⟩,
   ⟨0x1f825, "UPWARDS TRIANGLE-HEADED ARROW WITH MEDIUM SHAFT", ""⟩,
   ⟨0x1f826, "RIGHTWARDS TRIANGLE-HEADED ARROW WITH MEDIUM SHAFT", ""⟩,
   ⟨0x1f827, "DOWNWARDS TRIANGLE-HEADED ARROW WITH MEDIUM SHAFT", ""⟩,
   ⟨0x1f828, "LEFTWARDS TRIANGLE-HEADED ARROW WITH BOLD SHAFT", ""⟩,
   ⟨0x1f829, "UPWARDS TRIANGLE-HEADED ARROW WITH BOLD SHAFT", ""⟩,
   ⟨0x1f82a, "RIGHTWARDS TRIANGLE-HEADED ARROW WITH BOLD SHAFT", ""⟩,
   ⟨0x1f82b, "DOWNWARDS TRIANGLE-HEADED ARROW WITH BOLD SHAFT", ""⟩,
   ⟨0x1f82c, "LEFTWARDS TRIANGLE-HEADED ARROW WITH HEAVY SHAFT", ""⟩,
   ⟨0x1f82d, "UPWARDS TRIANGLE-HEADED ARROW WITH HEAVY SHAFT", ""⟩,
   ⟨0x1f82e, "RIGHTWARDS TRIANGLE-HEADED ARROW WITH HEAVY SHAFT", ""⟩,
   ⟨0x1f82f, "DOWNWARDS TRIANGLE-HEADED ARROW WITH HEAVY SHAFT", ""⟩,
   ⟨0x1f830, "LEFTWARDS TRIANGLE-HEADED ARROW WITH VERY HEAVY SHAFT", ""⟩,
   ⟨0x1f831, "UPWARDS TRIANGLE-HEADED ARROW WITH VERY HEAVY SHAFT", ""⟩,
   ⟨0x1f832, "RIGHTWARDS TRIANGLE-HEADED ARROW WITH VERY HEAVY SHAFT", ""⟩,
   ⟨0x1f833, "",
     "DOWNWARDS TRIANGLE-HEADED ARROW WITH VERY HEAVY SHAFT;LEFTWARDS FINGER-POST ARROW"⟩,
   ⟨0x1f835, "", "UPWARDS FINGER-POST ARROW;RIGHTWARDS FINGER-POST ARROW"⟩,
   ⟨0x1f837, "", "DOWNWARDS FINGER-POST ARROW;LEFTWARDS SQUARED ARROW;UPWARDS SQUARED ARROW"⟩,
   ⟨0x1f83a, "", "RIGHTWARDS SQUARED ARROW;DOWNWARDS SQUARED ARROW;LEFTWARDS COMPRESSED ARROW"⟩,
   ⟨0x1f83d, "", "UPWARDS COMPRESSED ARROW;RIGHTWARDS COMPRESSED ARROW;DOWNWARDS COMPRESSED ARROW"⟩,
   ⟨0x1f840, "", "LEFTWARDS HEAVY COMPRESSED ARROW;UPWARDS HEAVY COMPRESSED ARROW"⟩,
   ⟨0x1f842, "", "RIGHTWARDS HEAVY COMPRESSED ARROW;DOWNWARDS HEAVY COMPRESSED ARROW"⟩,
   ⟨0x1f844, "",
     "LEFTWARDS HEAVY ARROW;UPWARDS HEAVY ARROW;RIGHTWARDS HEAVY ARROW;DOWNWARDS HEAVY ARROW"⟩,
   ⟨0x1f850, "", "LEFTWARDS SANS-SERIF ARROW;UPWARDS SANS-SERIF ARROW;RIGHTWARDS SANS-SERIF ARROW"⟩,
   ⟨0x1f853, "", "DOWNWARDS SANS-SERIF ARROW;NORTH WEST SANS-SERIF ARROW"⟩,
   ⟨0x1f855, "", "NORTH EAST SANS-SERIF ARROW;SOUTH EAST SANS-SERIF ARROW"⟩,
   ⟨0x1f857, "",
     "SOUTH WEST SANS-SERIF ARROW;LEFT RIGHT SANS-SERIF ARROW;UP DOWN SANS-SERIF ARROW"⟩,
   ⟨0x1f860, "WIDE-HEADED ", "LEFTWARDS LIGHT BARB ARROW;UPWARDS LIGHT BARB ARROW"⟩,
   ⟨0x1f862, "WIDE-HEADED ", "RIGHTWARDS LIGHT BARB ARROW;DOWNWARDS LIGHT BARB ARROW"⟩,
   ⟨0x1f864, "WIDE-HEADED ",
     "NORTH WEST LIGHT BARB ARROW;NORTH EAST LIGHT BARB ARROW;SOUTH EAST LIGHT BARB ARROW"⟩,
   ⟨0x1f867, "WIDE-HEADED ", "SOUTH WEST LIGHT BARB ARROW;LEFTWARDS BARB ARROW;UPWARDS BARB ARROW"⟩,
   ⟨0x1f86a, "WIDE-HEADED ", "RIGHTWARDS BARB ARROW;DOWNWARDS BARB ARROW;NORTH WEST BARB ARROW"⟩,
   ⟨0x1f86d, "WIDE-HEADED ", "NORTH EAST BARB ARROW;SOUTH EAST BARB ARROW;SOUTH WEST BARB ARROW"⟩,
   ⟨0x1f870, "WIDE-HEADED ", "LEFTWARDS MEDIUM BARB ARROW;UPWARDS MEDIUM BARB ARROW"⟩,
   ⟨0x1f872, "WIDE-HEADED ", "RIGHTWARDS MEDIUM BARB ARROW;DOWNWARDS MEDIUM BARB ARROW"⟩,
   ⟨0x1f874, "WIDE-HEADED NORTH ", "WEST MEDIUM BARB ARROW;EAST MEDIUM BARB ARROW"⟩,
   ⟨0x1f876, "WIDE-HEADED SOUTH ", "EAST MEDIUM BARB ARROW;WEST MEDIUM BARB ARROW"⟩,
   ⟨0x1f878, "WIDE-HEADED ", "LEFTWARDS HEAVY BARB ARROW;UPWARDS HEAVY BARB ARROW"⟩,
   ⟨0x1f87a, "WIDE-HEADED ", "RIGHTWARDS HEAVY BARB ARROW;DOWNWARDS HEAVY BARB ARROW"⟩,
   ⟨0x1f87c, "WIDE-HEADED NORTH ", "WEST HEAVY BARB ARROW;EAST HEAVY BARB ARROW"⟩,
   ⟨0x1f87e, "WIDE-HEADED SOUTH ", "EAST HEAVY BARB ARROW;WEST HEAVY BARB ARROW"⟩,
   ⟨0x1f880, "WIDE-HEADED ", "LEFTWARDS VERY HEAVY BARB ARROW;UPWARDS VERY HEAVY BARB ARROW"⟩,
   ⟨0x1f882, "WIDE-HEADED ", "RIGHTWARDS VERY HEAVY BARB ARROW;DOWNWARDS VERY HEAVY BARB ARROW"⟩,
   ⟨0x1f884, "WIDE-HEADED NORTH ", "WEST VERY HEAVY BARB ARROW;EAST VERY HEAVY BARB ARROW"⟩,
   ⟨0x1f886, "WIDE-HEADED SOUTH ", "EAST VERY HEAVY BARB ARROW;WEST VERY HEAVY BARB ARROW"⟩,
   ⟨0x1f890, "",
     "LEFTWARDS TRIANGLE ARROWHEAD;UPWARDS TRIANGLE ARROWHEAD;RIGHTWARDS TRIANGLE ARROWHEAD"⟩,
   ⟨0x1f893, "", "DOWNWARDS TRIANGLE ARROWHEAD;LEFTWARDS WHITE ARROW WITHIN TRIANGLE ARROWHEAD"⟩,
   ⟨0x1f895, "UPWARDS WHITE ARROW WITHIN TRIANGLE ARROWHEAD", ""⟩,
   ⟨0x1f896, "RIGHTWARDS WHITE ARROW WITHIN TRIANGLE ARROWHEAD", ""⟩,
   ⟨0x1f897, "DOWNWARDS WHITE ARROW WITHIN TRIANGLE ARROWHEAD", ""⟩,
   ⟨0x1f898, "", "LEFTWARDS ARROW WITH NOTCHED TAIL;UPWARDS ARROW WITH NOTCHED TAIL"⟩,
   ⟨0x1f89a, "", "RIGHTWARDS ARROW WITH NOTCHED TAIL;DOWNWARDS ARROW WITH NOTCHED TAIL"⟩,
   ⟨0x1f89c, "HEAVY ARROW SHAFT WIDTH ", "ONE;TWO THIRDS;ONE HALF;ONE THIRD"⟩,
   ⟨0x1f8a0, "", "LEFTWARDS BOTTOM-SHADED WHITE ARROW;RIGHTWARDS BOTTOM SHADED WHITE ARROW"⟩,
   ⟨0x1f8a2, "", "LEFTWARDS TOP SHADED WHITE ARROW;RIGHTWARDS TOP SHADED WHITE ARROW"⟩,
   ⟨0x1f8a4, "", "LEFTWARDS LEFT-SHADED WHITE ARROW;RIGHTWARDS RIGHT-SHADED WHITE ARROW"⟩,
   ⟨0x1f8a6, "", "LEFTWARDS RIGHT-SHADED WHITE ARROW;RIGHTWARDS LEFT-SHADED WHITE ARROW"⟩,
   ⟨0x1f8a8, "",
     "LEFTWARDS BACK-TILTED SHADOWED WHITE ARROW;RIGHTWARDS BACK-TILTED SHADOWED WHITE ARROW"⟩,
   ⟨0x1f8aa, "",
     "LEFTWARDS FRONT-TILTED SHADOWED WHITE ARROW;RIGHTWARDS FRONT-TILTED SHADOWED WHITE ARROW"⟩,
   ⟨0x1f8ac, "WHITE ARROW SHAFT WIDTH ", "ONE;TWO THIRDS"⟩,
   ⟨0x1f8b0, "ARROW POINTING ", "UPWARDS THEN NORTH WEST;RIGHTWARDS THEN CURVING SOUTH WEST"⟩]

/-- The names in the block Supplemental Symbols and Pictographs. -/
def supplementalSymbolsAndPictographs : List NameRun :=
  [⟨0x1f900, "CIRCLED CROSS FORMEE", " WITH FOUR DOTS; WITH TWO DOTS;"⟩,
   ⟨0x1f903, "LEFT HALF CIRCLE", " WITH FOUR DOTS; WITH THREE DOTS; WITH TWO DOTS; WITH DOT;"⟩,
   ⟨0x1f908, "DOWNWARD FACING ", "HOOK;NOTCHED HOOK;HOOK WITH DOT;NOTCHED HOOK WITH DOT"⟩,
   ⟨0x1f90c, "", "PINCHED FINGERS;WHITE HEART;BROWN HEART;PINCHING HAND"⟩,
   ⟨0x1f910, "", "ZIPPER-MOUTH FACE;MONEY-MOUTH FACE;FACE WITH THERMOMETER;NERD FACE"⟩,
   ⟨0x1f914, "", "THINKING FACE;FACE WITH HEAD-BANDAGE;ROBOT FACE;HUGGING FACE;SIGN OF THE HORNS"⟩,
   ⟨0x1f919, "", "CALL ME HAND;RAISED BACK OF HAND;LEFT-FACING FIST;RIGHT-FACING FIST"⟩,
   ⟨0x1f91d, "", "HANDSHAKE;HAND WITH INDEX AND MIDDLE FINGERS CROSSED;I LOVE YOU HAND SIGN"⟩,
   ⟨0x1f920, "", "FACE WITH COWBOY HAT;CLOWN FACE;NAUSEATED FACE;ROLLING ON THE FLOOR LAUGHING"⟩,
   ⟨0x1f924, "", "DROOLING FACE;LYING FACE;FACE PALM;SNEEZING FACE;FACE WITH ONE EYEBROW RAISED"⟩,
   ⟨0x1f929, "GRINNING FACE WITH ", "STAR EYES;ONE LARGE AND ONE SMALL EYE"⟩,
   ⟨0x1f92b, "", "FACE WITH FINGER COVERING CLOSED LIPS;SERIOUS FACE WITH SYMBOLS COVERING MOUTH"⟩,
   ⟨0x1f92d, "SMILING FACE WITH SMILING EYES AND HAND COVERING MOUTH", ""⟩,
   ⟨0x1f92e, "", "FACE WITH OPEN MOUTH VOMITING;SHOCKED FACE WITH EXPLODING HEAD"⟩,
   ⟨0x1f930, "", "PREGNANT WOMAN;BREAST-FEEDING;PALMS UP TOGETHER;SELFIE;PRINCE;MAN IN TUXEDO"⟩,
   ⟨0x1f936, "", "MOTHER CHRISTMAS;SHRUG;PERSON DOING CARTWHEEL;JUGGLING;FENCER;MODERN PENTATHLON"⟩,
   ⟨0x1f93c, "", "WRESTLERS;WATER POLO;HANDBALL;DIVING MASK;WILTED FLOWER;DRUM WITH DRUMSTICKS"⟩,
   ⟨0x1f942, "", "CLINKING GLASSES;TUMBLER GLASS;SPOON;GOAL NET;RIFLE;FIRST PLACE MEDAL"⟩,
   ⟨0x1f948, "", "SECOND PLACE MEDAL;THIRD PLACE MEDAL;BOXING GLOVE;MARTIAL ARTS UNIFORM"⟩,
   ⟨0x1f94c, "", "CURLING STONE;LACROSSE STICK AND BALL;SOFTBALL;FLYING DISC;CROISSANT;AVOCADO"⟩,
   ⟨0x1f952, "", "CUCUMBER;BACON;POTATO;CARROT;BAGUETTE BREAD;GREEN SALAD;SHALLOW PAN OF FOOD"⟩,
   ⟨0x1f959, "", "STUFFED FLATBREAD;EGG;GLASS OF MILK;PEANUTS;KIWIFRUIT;PANCAKES"⟩,
   ⟨0x1f95f, "", "DUMPLING;FORTUNE COOKIE;TAKEOUT BOX;CHOPSTICKS;BOWL WITH SPOON;CUP WITH STRAW"⟩,
   ⟨0x1f965, "", "COCONUT;BROCCOLI;PIE;PRETZEL;CUT OF MEAT;SANDWICH;CANNED FOOD;LEAFY GREEN"⟩,
   ⟨0x1f96d, "", "MANGO;MOON CAKE;BAGEL;SMILING FACE WITH SMILING EYES AND THREE HEARTS"⟩,
   ⟨0x1f971, "", "YAWNING FACE;SMILING FACE WITH TEAR;FACE WITH PARTY HORN AND PARTY HAT"⟩,
   ⟨0x1f974, "", "FACE WITH UNEVEN EYES AND WAVY MOUTH;OVERHEATED FACE;FREEZING FACE;NINJA"⟩,
   ⟨0x1f978, "", "DISGUISED FACE;FACE HOLDING BACK TEARS;FACE WITH PLEADING EYES;SARI;LAB COAT"⟩,
   ⟨0x1f97d, "", "GOGGLES;HIKING BOOT;FLAT SHOE;CRAB;LION FACE;SCORPION;TURKEY;UNICORN FACE"⟩,
   ⟨0x1f985, "", "EAGLE;DUCK;BAT;SHARK;OWL;FOX FACE;BUTTERFLY;DEER;GORILLA;LIZARD;RHINOCEROS"⟩,
   ⟨0x1f990, "", "SHRIMP;SQUID;GIRAFFE FACE;ZEBRA FACE;HEDGEHOG;SAUROPOD;T-REX;CRICKET;KANGAROO"⟩,
   ⟨0x1f999, "", "LLAMA;PEACOCK;HIPPOPOTAMUS;PARROT;RACCOON;LOBSTER;MOSQUITO;MICROBE;BADGER"⟩,
   ⟨0x1f9a2, "", "SWAN;MAMMOTH;DODO;SLOTH;OTTER;ORANGUTAN;SKUNK;FLAMINGO;OYSTER;BEAVER;BISON"⟩,
   ⟨0x1f9ad, "", "SEAL;GUIDE DOG;PROBING CANE;EMOJI COMPONENT RED HAIR;EMOJI COMPONENT CURLY HAIR"⟩,
   ⟨0x1f9b2, "", "EMOJI COMPONENT BALD;EMOJI COMPONENT WHITE HAIR;BONE;LEG;FOOT;TOOTH"⟩,
   ⟨0x1f9b8, "", "SUPERHERO;SUPERVILLAIN;SAFETY VEST;EAR WITH HEARING AID;MOTORIZED WHEELCHAIR"⟩,
   ⟨0x1f9bd, "", "MANUAL WHEELCHAIR;MECHANICAL ARM;MECHANICAL LEG;CHEESE WEDGE"⟩,
   ⟨0x1f9c1, "", "CUPCAKE;SALT SHAKER;BEVERAGE BOX;GARLIC;ONION;FALAFEL;WAFFLE;BUTTER;MATE DRINK"⟩,
   ⟨0x1f9ca, "", "ICE CUBE;BUBBLE TEA;TROLL;STANDING PERSON;KNEELING PERSON;DEAF PERSON"⟩,
   ⟨0x1f9d0, "", "FACE WITH MONOCLE;ADULT;CHILD;OLDER ADULT;BEARDED PERSON;PERSON WITH HEADSCARF"⟩,
   ⟨0x1f9d6, "", "PERSON IN STEAMY ROOM;PERSON CLIMBING;PERSON IN LOTUS POSITION;MAGE"⟩,
   ⟨0x1f9da, "", "FAIRY;VAMPIRE;MERPERSON;ELF;GENIE;ZOMBIE;BRAIN;ORANGE HEART;BILLED CAP"⟩,
   ⟨0x1f9e3, "", "SCARF;GLOVES;COAT;SOCKS;RED GIFT ENVELOPE;FIRECRACKER;JIGSAW PUZZLE PIECE"⟩,
   ⟨0x1f9ea, "", "TEST TUBE;PETRI DISH;DNA DOUBLE HELIX;COMPASS;ABACUS;FIRE EXTINGUISHER;TOOLBOX"⟩,
   ⟨0x1f9f1, "", "BRICK;MAGNET;LUGGAGE;LOTION BOTTLE;SPOOL OF THREAD;BALL OF YARN;SAFETY PIN"⟩,
   ⟨0x1f9f8, "", "TEDDY BEAR;BROOM;BASKET;ROLL OF PAPER;BAR OF SOAP;SPONGE;RECEIPT;NAZAR AMULET"⟩]

/-- The names in the block Chess Symbols. -/
def chessSymbols : List NameRun :=
  [⟨0x1fa00, "NEUTRAL CHESS ", "KING;QUEEN;ROOK;BISHOP;KNIGHT;PAWN"⟩,
   ⟨0x1fa06, "",
     "WHITE CHESS KNIGHT ROTATED FORTY-FIVE DEGREES;BLACK CHESS KNIGHT ROTATED FORTY-FIVE DEGREES"⟩,
   ⟨0x1fa08, "NEUTRAL CHESS KNIGHT ROTATED FORTY-FIVE DEGREES", ""⟩,
   ⟨0x1fa09, "WHITE CHESS ", "KING ROTATED NINETY DEGREES;QUEEN ROTATED NINETY DEGREES"⟩,
   ⟨0x1fa0b, "WHITE CHESS ", "ROOK ROTATED NINETY DEGREES;BISHOP ROTATED NINETY DEGREES"⟩,
   ⟨0x1fa0d, "WHITE CHESS ", "KNIGHT ROTATED NINETY DEGREES;PAWN ROTATED NINETY DEGREES"⟩,
   ⟨0x1fa0f, "BLACK CHESS ", "KING ROTATED NINETY DEGREES;QUEEN ROTATED NINETY DEGREES"⟩,
   ⟨0x1fa11, "BLACK CHESS ", "ROOK ROTATED NINETY DEGREES;BISHOP ROTATED NINETY DEGREES"⟩,
   ⟨0x1fa13, "BLACK CHESS ", "KNIGHT ROTATED NINETY DEGREES;PAWN ROTATED NINETY DEGREES"⟩,
   ⟨0x1fa15, "NEUTRAL CHESS ", "KING ROTATED NINETY DEGREES;QUEEN ROTATED NINETY DEGREES"⟩,
   ⟨0x1fa17, "NEUTRAL CHESS ", "ROOK ROTATED NINETY DEGREES;BISHOP ROTATED NINETY DEGREES"⟩,
   ⟨0x1fa19, "NEUTRAL CHESS ", "KNIGHT ROTATED NINETY DEGREES;PAWN ROTATED NINETY DEGREES"⟩,
   ⟨0x1fa1b, "WHITE CHESS KNIGHT ROTATED ONE HUNDRED THIRTY-FIVE DEGREES", ""⟩,
   ⟨0x1fa1c, "BLACK CHESS KNIGHT ROTATED ONE HUNDRED THIRTY-FIVE DEGREES", ""⟩,
   ⟨0x1fa1d, "NEUTRAL CHESS KNIGHT ROTATED ONE HUNDRED THIRTY-FIVE DEGREES", ""⟩,
   ⟨0x1fa1e, "WHITE CHESS TURNED ", "KING;QUEEN;ROOK;BISHOP;KNIGHT;PAWN"⟩,
   ⟨0x1fa24, "BLACK CHESS TURNED ", "KING;QUEEN;ROOK;BISHOP;KNIGHT;PAWN"⟩,
   ⟨0x1fa2a, "NEUTRAL CHESS TURNED ", "KING;QUEEN;ROOK;BISHOP;KNIGHT;PAWN"⟩,
   ⟨0x1fa30, "WHITE CHESS KNIGHT ROTATED TWO HUNDRED TWENTY-FIVE DEGREES", ""⟩,
   ⟨0x1fa31, "BLACK CHESS KNIGHT ROTATED TWO HUNDRED TWENTY-FIVE DEGREES", ""⟩,
   ⟨0x1fa32, "NEUTRAL CHESS KNIGHT ROTATED TWO HUNDRED TWENTY-FIVE DEGREES", ""⟩,
   ⟨0x1fa33, "WHITE CHESS ",
     "KING ROTATED TWO HUNDRED SEVENTY DEGREES;QUEEN ROTATED TWO HUNDRED SEVENTY DEGREES"⟩,
   ⟨0x1fa35, "WHITE CHESS ",
     "ROOK ROTATED TWO HUNDRED SEVENTY DEGREES;BISHOP ROTATED TWO HUNDRED SEVENTY DEGREES"⟩,
   ⟨0x1fa37, "WHITE CHESS ",
     "KNIGHT ROTATED TWO HUNDRED SEVENTY DEGREES;PAWN ROTATED TWO HUNDRED SEVENTY DEGREES"⟩,
   ⟨0x1fa39, "BLACK CHESS ",
     "KING ROTATED TWO HUNDRED SEVENTY DEGREES;QUEEN ROTATED TWO HUNDRED SEVENTY DEGREES"⟩,
   ⟨0x1fa3b, "BLACK CHESS ",
     "ROOK ROTATED TWO HUNDRED SEVENTY DEGREES;BISHOP ROTATED TWO HUNDRED SEVENTY DEGREES"⟩,
   ⟨0x1fa3d, "BLACK CHESS ",
     "KNIGHT ROTATED TWO HUNDRED SEVENTY DEGREES;PAWN ROTATED TWO HUNDRED SEVENTY DEGREES"⟩,
   ⟨0x1fa3f, "NEUTRAL CHESS ",
     "KING ROTATED TWO HUNDRED SEVENTY DEGREES;QUEEN ROTATED TWO HUNDRED SEVENTY DEGREES"⟩,
   ⟨0x1fa41, "NEUTRAL CHESS ",
     "ROOK ROTATED TWO HUNDRED SEVENTY DEGREES;BISHOP ROTATED TWO HUNDRED SEVENTY DEGREES"⟩,
   ⟨0x1fa43, "NEUTRAL CHESS ",
     "KNIGHT ROTATED TWO HUNDRED SEVENTY DEGREES;PAWN ROTATED TWO HUNDRED SEVENTY DEGREES"⟩,
   ⟨0x1fa45, "WHITE CHESS KNIGHT ROTATED THREE HUNDRED FIFTEEN DEGREES", ""⟩,
   ⟨0x1fa46, "BLACK CHESS KNIGHT ROTATED THREE HUNDRED FIFTEEN DEGREES", ""⟩,
   ⟨0x1fa47, "NEUTRAL CHESS KNIGHT ROTATED THREE HUNDRED FIFTEEN DEGREES", ""⟩,
   ⟨0x1fa48, "", "WHITE CHESS EQUIHOPPER;BLACK CHESS EQUIHOPPER;NEUTRAL CHESS EQUIHOPPER"⟩,
   ⟨0x1fa4b, "",
     "WHITE CHESS EQUIHOPPER ROTATED NINETY DEGREES;BLACK CHESS EQUIHOPPER ROTATED NINETY DEGREES"⟩,
   ⟨0x1fa4d, "", "NEUTRAL CHESS EQUIHOPPER ROTATED NINETY DEGREES;WHITE CHESS KNIGHT-QUEEN"⟩,
   ⟨0x1fa4f, "", "WHITE CHESS KNIGHT-ROOK;WHITE CHESS KNIGHT-BISHOP;BLACK CHESS KNIGHT-QUEEN"⟩,
   ⟨0x1fa52, "BLACK CHESS KNIGHT-", "ROOK;BISHOP"⟩,
   ⟨0x1fa60, "XIANGQI RED ", "GENERAL;MANDARIN;ELEPHANT;HORSE;CHARIOT;CANNON;SOLDIER"⟩,
   ⟨0x1fa67, "XIANGQI BLACK ", "GENERAL;MANDARIN;ELEPHANT;HORSE;CHARIOT;CANNON;SOLDIER"⟩]

/-- The names in the block Symbols and Pictographs Extended-A. -/
def symbolsAndPictographsExtendedA : List NameRun :=
  [⟨0x1fa70, "", "BALLET SHOES;ONE-PIECE SWIMSUIT;BRIEFS;SHORTS;THONG SANDAL"⟩,
   ⟨0x1fa78, "", "DROP OF BLOOD;ADHESIVE BANDAGE;STETHOSCOPE;X-RAY;CRUTCH"⟩,
   ⟨0x1fa80, "", "YO-YO;KITE;PARACHUTE;BOOMERANG;MAGIC WAND;PINATA;NESTING DOLLS"⟩,
   ⟨0x1fa90, "", "RINGED PLANET;CHAIR;RAZOR;AXE;DIYA LAMP"⟩,
   ⟨0x1fa95, "", "BANJO;MILITARY HELMET;ACCORDION;LONG DRUM;COIN;CARPENTRY SAW;SCREWDRIVER;LADDER"⟩,
   ⟨0x1fa9d, "", "HOOK;MIRROR;WINDOW;PLUNGER;SEWING NEEDLE;KNOT;BUCKET;MOUSE TRAP;TOOTHBRUSH"⟩,
   ⟨0x1faa6, "", "HEADSTONE;PLACARD;ROCK;MIRROR BALL;IDENTIFICATION CARD;LOW BATTERY;HAMSA"⟩,
   ⟨0x1fab0, "",
     "FLY;WORM;BEETLE;COCKROACH;POTTED PLANT;WOOD;FEATHER;LOTUS;CORAL;EMPTY NEST;NEST WITH EGGS"⟩,
   ⟨0x1fac0, "",
     "ANATOMICAL HEART;LUNGS;PEOPLE HUGGING;PREGNANT MAN;PREGNANT PERSON;PERSON WITH CROWN"⟩,
   ⟨0x1fad0, "",
     "BLUEBERRIES;BELL PEPPER;OLIVE;FLATBREAD;TAMALE;FONDUE;TEAPOT;POURING LIQUID;BEANS;JAR"⟩,
   ⟨0x1fae0, "", "MELTING FACE;SALUTING FACE;FACE WITH OPEN EYES AND HAND OVER MOUTH"⟩,
   ⟨0x1fae3, "",
     "FACE WITH PEEKING EYE;FACE WITH DIAGONAL MOUTH;DOTTED LINE FACE;BITING LIP;BUBBLES"⟩,
   ⟨0x1faf0, "", "HAND WITH INDEX FINGER AND THUMB CROSSED;RIGHTWARDS HAND;LEFTWARDS HAND"⟩,
   ⟨0x1faf3, "", "PALM DOWN HAND;PALM UP HAND;INDEX POINTING AT THE VIEWER;HEART HANDS"⟩]

/-- The names in the block Symbols for Legacy Computing. -/
def symbolsForLegacyComputing : List NameRun :=
  [⟨0x1fb00, "BLOCK SEXTANT-", "1;2;12;3;13;23;123;4;14;24;124;34;134;234;1234"⟩,
   ⟨0x1fb0f, "BLOCK SEXTANT-", "5;15;25;125;35;235;1235;45;145;245;1245;345;1345;2345;12345;6"⟩,
   ⟨0x1fb1f, "BLOCK SEXTANT-", "16;26;126;36;136;236;1236;46;146;1246;346;1346;2346;12346;56;156"⟩,
   ⟨0x1fb2f, "BLOCK SEXTANT-", "256;1256;356;1356;2356;12356;456;1456;2456;12456;3456;13456;23456"⟩,
   ⟨0x1fb3c, "LOWER LEFT BLOCK DIAGONAL LOWER MIDDLE LEFT TO LOWER ", "CENTRE;RIGHT"⟩,
   ⟨0x1fb3e, "LOWER LEFT BLOCK DIAGONAL UPPER ",
     "MIDDLE LEFT TO LOWER CENTRE;MIDDLE LEFT TO LOWER RIGHT;LEFT TO LOWER CENTRE"⟩,
   ⟨0x1fb41, "LOWER RIGHT BLOCK DIAGONAL UPPER MIDDLE LEFT TO UPPER ", "CENTRE;RIGHT"⟩,
   ⟨0x1fb43, "LOWER RIGHT BLOCK DIAGONAL LOWER ",
     "MIDDLE LEFT TO UPPER CENTRE;MIDDLE LEFT TO UPPER RIGHT;LEFT TO UPPER CENTRE"⟩,
   ⟨0x1fb46, "LOWER RIGHT BLOCK DIAGONAL LOWER ",
     "MIDDLE LEFT TO UPPER MIDDLE RIGHT;CENTRE TO LOWER MIDDLE RIGHT;LEFT TO LOWER MIDDLE RIGHT"⟩,
   ⟨0x1fb49, "LOWER RIGHT BLOCK DIAGONAL LOWER ",
     "CENTRE TO UPPER MIDDLE RIGHT;LEFT TO UPPER MIDDLE RIGHT;CENTRE TO UPPER RIGHT"⟩,
   ⟨0x1fb4c, "LOWER LEFT BLOCK DIAGONAL UPPER ",
     "CENTRE TO UPPER MIDDLE RIGHT;LEFT TO UPPER MIDDLE RIGHT;CENTRE TO LOWER MIDDLE RIGHT"⟩,
   ⟨0x1fb4f, "LOWER LEFT BLOCK DIAGONAL UPPER ",
     "LEFT TO LOWER MIDDLE RIGHT;CENTRE TO LOWER RIGHT;MIDDLE LEFT TO LOWER MIDDLE RIGHT"⟩,
   ⟨0x1fb52, "UPPER RIGHT BLOCK DIAGONAL LOWER MIDDLE LEFT TO LOWER ", "CENTRE;RIGHT"⟩,
   ⟨0x1fb54, "UPPER RIGHT BLOCK DIAGONAL UPPER ",
     "MIDDLE LEFT TO LOWER CENTRE;MIDDLE LEFT TO LOWER RIGHT;LEFT TO LOWER CENTRE"⟩,
   ⟨0x1fb57, "UPPER LEFT BLOCK DIAGONAL UPPER MIDDLE LEFT TO UPPER ", "CENTRE;RIGHT"⟩,
   ⟨0x1fb59, "UPPER LEFT BLOCK DIAGONAL LOWER ",
     "MIDDLE LEFT TO UPPER CENTRE;MIDDLE LEFT TO UPPER RIGHT;LEFT TO UPPER CENTRE"⟩,
   ⟨0x1fb5c, "UPPER LEFT BLOCK DIAGONAL LOWER ",
     "MIDDLE LEFT TO UPPER MIDDLE RIGHT;CENTRE TO LOWER MIDDLE RIGHT;LEFT TO LOWER MIDDLE RIGHT"⟩,
   ⟨0x1fb5f, "UPPER LEFT BLOCK DIAGONAL LOWER ",
     "CENTRE TO UPPER MIDDLE RIGHT;LEFT TO UPPER MIDDLE RIGHT;CENTRE TO UPPER RIGHT"⟩,
   ⟨0x1fb62, "UPPER RIGHT BLOCK DIAGONAL UPPER ",
     "CENTRE TO UPPER MIDDLE RIGHT;LEFT TO UPPER MIDDLE RIGHT;CENTRE TO LOWER MIDDLE RIGHT"⟩,
   ⟨0x1fb65, "UPPER RIGHT BLOCK DIAGONAL UPPER ",
     "LEFT TO LOWER MIDDLE RIGHT;CENTRE TO LOWER RIGHT;MIDDLE LEFT TO LOWER MIDDLE RIGHT"⟩,
   ⟨0x1fb68, "UPPER AND RIGHT AND LOWER TRIANGULAR THREE QUARTERS BLOCK", ""⟩,
   ⟨0x1fb69, "LEFT AND LOWER AND RIGHT TRIANGULAR THREE QUARTERS BLOCK", ""⟩,
   ⟨0x1fb6a, "UPPER AND LEFT AND LOWER TRIANGULAR THREE QUARTERS BLOCK", ""⟩,
   ⟨0x1fb6b, "LEFT AND UPPER AND RIGHT TRIANGULAR THREE QUARTERS BLOCK", ""⟩,
   ⟨0x1fb6c, "", "LEFT TRIANGULAR ONE QUARTER BLOCK;UPPER TRIANGULAR ONE QUARTER BLOCK"⟩,
   ⟨0x1fb6e, "", "RIGHT TRIANGULAR ONE QUARTER BLOCK;LOWER TRIANGULAR ONE QUARTER BLOCK"⟩,
   ⟨0x1fb70, "VERTICAL ONE EIGHTH BLOCK-", "2;3;4;5;6;7"⟩,
   ⟨0x1fb76, "HORIZONTAL ONE EIGHTH BLOCK-", "2;3;4;5;6;7"⟩,
   ⟨0x1fb7c, "LEFT AND ", "LOWER ONE EIGHTH BLOCK;UPPER ONE EIGHTH BLOCK"⟩,
   ⟨0x1fb7e, "RIGHT AND ", "UPPER ONE EIGHTH BLOCK;LOWER ONE EIGHTH BLOCK"⟩,
   ⟨0x1fb80, "", "UPPER AND LOWER ONE EIGHTH BLOCK;HORIZONTAL ONE EIGHTH BLOCK-1358"⟩,
   ⟨0x1fb82, "UPPER ", "ONE QUARTER BLOCK;THREE EIGHTHS BLOCK;FIVE EIGHTHS BLOCK"⟩,
   ⟨0x1fb85, "", "UPPER THREE QUARTERS BLOCK;UPPER SEVEN EIGHTHS BLOCK;RIGHT ONE QUARTER BLOCK"⟩,
   ⟨0x1fb88, "RIGHT ", "THREE EIGHTHS BLOCK;FIVE EIGHTHS BLOCK;THREE QUARTERS BLOCK"⟩,
   ⟨0x1fb8b, "", "RIGHT SEVEN EIGHTHS BLOCK;LEFT HALF MEDIUM SHADE;RIGHT HALF MEDIUM SHADE"⟩,
   ⟨0x1fb8e, "", "UPPER HALF MEDIUM SHADE;LOWER HALF MEDIUM SHADE;INVERSE MEDIUM SHADE"⟩,
   ⟨0x1fb91, "UPPER HALF ",
     "BLOCK AND LOWER HALF INVERSE MEDIUM SHADE;INVERSE MEDIUM SHADE AND LOWER HALF BLOCK"⟩,
   ⟨0x1fb94, "", "LEFT HALF INVERSE MEDIUM SHADE AND RIGHT HALF BLOCK;CHECKER BOARD FILL"⟩,
   ⟨0x1fb96, "", "INVERSE CHECKER BOARD FILL;HEAVY HORIZONTAL FILL"⟩,
   ⟨0x1fb98, "UPPER ", "LEFT TO LOWER RIGHT FILL;RIGHT TO LOWER LEFT FILL"⟩,
   ⟨0x1fb9a, "", "UPPER AND LOWER TRIANGULAR HALF BLOCK;LEFT AND RIGHT TRIANGULAR HALF BLOCK"⟩,
   ⟨0x1fb9c, "UPPER ", "LEFT TRIANGULAR MEDIUM SHADE;RIGHT TRIANGULAR MEDIUM SHADE"⟩,
   ⟨0x1fb9e, "LOWER ", "RIGHT TRIANGULAR MEDIUM SHADE;LEFT TRIANGULAR MEDIUM SHADE"⟩,
   ⟨0x1fba0, "BOX DRAWINGS LIGHT DIAGONAL UPPER CENTRE TO MIDDLE ", "LEFT;RIGHT"⟩,
   ⟨0x1fba2, "BOX DRAWINGS LIGHT DIAGONAL MIDDLE ", "LEFT TO LOWER CENTRE;RIGHT TO LOWER CENTRE"⟩,
   ⟨0x1fba4, "BOX DRAWINGS LIGHT DIAGONAL UPPER CENTRE TO MIDDLE ",
     "LEFT TO LOWER CENTRE;RIGHT TO LOWER CENTRE"⟩,
   ⟨0x1fba6, "BOX DRAWINGS LIGHT DIAGONAL MIDDLE LEFT TO ",
     "LOWER CENTRE TO MIDDLE RIGHT;UPPER CENTRE TO MIDDLE RIGHT"⟩,
   ⟨0x1fba8, "BOX DRAWINGS LIGHT DIAGONAL UPPER CENTRE TO MIDDLE LEFT AND MIDDLE ",
     "RIGHT TO LOWER CENTRE"⟩,
   ⟨0x1fba9, "BOX DRAWINGS LIGHT DIAGONAL UPPER CENTRE TO MIDDLE RIGHT AND MIDDLE ",
     "LEFT TO LOWER CENTRE"⟩,
   ⟨0x1fbaa, "BOX DRAWINGS LIGHT DIAGONAL UPPER CENTRE TO MIDDLE RIGHT TO LOWER ",
     "CENTRE TO MIDDLE LEFT"⟩,
   ⟨0x1fbab, "BOX DRAWINGS LIGHT DIAGONAL UPPER CENTRE TO MIDDLE LEFT TO LOWER ",
     "CENTRE TO MIDDLE RIGHT"⟩,
   ⟨0x1fbac, "BOX DRAWINGS LIGHT DIAGONAL MIDDLE LEFT TO UPPER CENTRE TO MIDDLE ",
     "RIGHT TO LOWER CENTRE"⟩,
   ⟨0x1fbad, "BOX DRAWINGS LIGHT DIAGONAL MIDDLE RIGHT TO UPPER CENTRE TO MIDDLE ",
     "LEFT TO LOWER CENTRE"⟩,
   ⟨0x1fbae, "BOX DRAWINGS LIGHT ", "DIAGONAL DIAMOND;HORIZONTAL WITH VERTICAL STROKE"⟩,
   ⟨0x1fbb0, "", "ARROWHEAD-SHAPED POINTER;INVERSE CHECK MARK;LEFT HALF RUNNING MAN"⟩,
   ⟨0x1fbb3, "", "RIGHT HALF RUNNING MAN;INVERSE DOWNWARDS ARROW WITH TIP LEFTWARDS"⟩,
   ⟨0x1fbb5, "LEFTWARDS ARROW AND UPPER AND LOWER ONE EIGHTH BLOCK", ""⟩,
   ⟨0x1fbb6, "RIGHTWARDS ARROW AND UPPER AND LOWER ONE EIGHTH BLOCK", ""⟩,
   ⟨0x1fbb7, "",
     "DOWNWARDS ARROW AND RIGHT ONE EIGHTH BLOCK;UPWARDS ARROW AND RIGHT ONE EIGHTH BLOCK"⟩,
   ⟨0x1fbb9, "", "LEFT HALF FOLDER;RIGHT HALF FOLDER;VOIDED GREEK CROSS;RIGHT OPEN SQUARED DOT"⟩,
   ⟨0x1fbbd, "NEGATIVE DIAGONAL ", "CROSS;MIDDLE RIGHT TO LOWER CENTRE"⟩,
   ⟨0x1fbbf, "", "NEGATIVE DIAGONAL DIAMOND;WHITE HEAVY SALTIRE WITH ROUNDED CORNERS"⟩,
   ⟨0x1fbc1, "", "LEFT THIRD WHITE RIGHT POINTING INDEX;MIDDLE THIRD WHITE RIGHT POINTING INDEX"⟩,
   ⟨0x1fbc3, "", "RIGHT THIRD WHITE RIGHT POINTING INDEX;NEGATIVE SQUARED QUESTION MARK"⟩,
   ⟨0x1fbc5, "STICK FIGURE", "; WITH ARMS RAISED; LEANING LEFT"⟩,
   ⟨0x1fbc8, "", "STICK FIGURE LEANING RIGHT;STICK FIGURE WITH DRESS;WHITE UP-POINTING CHEVRON"⟩,
   ⟨0x1fbf0, "SEGMENTED DIGIT ", "ZERO;ONE;TWO;THREE;FOUR;FIVE;SIX;SEVEN;EIGHT;NINE"⟩]

/-- The names in the block Tags. -/
def tags : List NameRun :=
  [⟨0xe0001, "LANGUAGE TAG", ""⟩,
   ⟨0xe0020, "TAG ", "SPACE;EXCLAMATION MARK;QUOTATION MARK;NUMBER SIGN;DOLLAR SIGN;PERCENT SIGN"⟩,
   ⟨0xe0026, "TAG ", "AMPERSAND;APOSTROPHE;LEFT PARENTHESIS;RIGHT PARENTHESIS;ASTERISK;PLUS SIGN"⟩,
   ⟨0xe002c, "TAG ",
     "COMMA;HYPHEN-MINUS;FULL STOP;SOLIDUS;DIGIT ZERO;DIGIT ONE;DIGIT TWO;DIGIT THREE;DIGIT FOUR"⟩,
   ⟨0xe0035, "TAG ", "DIGIT FIVE;DIGIT SIX;DIGIT SEVEN;DIGIT EIGHT;DIGIT NINE;COLON;SEMICOLON"⟩,
   ⟨0xe003c, "TAG ", "LESS-THAN SIGN;EQUALS SIGN;GREATER-THAN SIGN;QUESTION MARK;COMMERCIAL AT"⟩,
   ⟨0xe0041, "TAG LATIN CAPITAL LETTER ", "A;B;C;D;E;F;G;H;I;J;K;L;M;N;O;P;Q;R;S;T;U;V;W;X;Y"⟩,
   ⟨0xe005a, "TAG ", "LATIN CAPITAL LETTER Z;LEFT SQUARE BRACKET;REVERSE SOLIDUS"⟩,
   ⟨0xe005d, "TAG ", "RIGHT SQUARE BRACKET;CIRCUMFLEX ACCENT;LOW LINE;GRAVE ACCENT"⟩,
   ⟨0xe0061, "TAG LATIN SMALL LETTER ", "A;B;C;D;E;F;G;H;I;J;K;L;M;N;O;P;Q;R;S;T;U;V;W;X;Y;Z"⟩,
   ⟨0xe007b, "",
     "TAG LEFT CURLY BRACKET;TAG VERTICAL LINE;TAG RIGHT CURLY BRACKET;TAG TILDE;CANCEL TAG"⟩]

/-- The names in the block Variation Selectors Supplement. -/
def variationSelectorsSupplement : List NameRun :=
  [⟨0xe0100, "VARIATION SELECTOR-", "17;18;19;20;21;22;23;24;25;26;27;28;29;30;31;32;33;34;35"⟩,
   ⟨0xe0113, "VARIATION SELECTOR-", "36;37;38;39;40;41;42;43;44;45;46;47;48;49;50;51;52;53;54;55"⟩,
   ⟨0xe0127, "VARIATION SELECTOR-", "56;57;58;59;60;61;62;63;64;65;66;67;68;69;70;71;72;73;74;75"⟩,
   ⟨0xe013b, "VARIATION SELECTOR-", "76;77;78;79;80;81;82;83;84;85;86;87;88;89;90;91;92;93;94;95"⟩,
   ⟨0xe014f, "VARIATION SELECTOR-", "96;97;98;99;100;101;102;103;104;105;106;107;108;109;110;111"⟩,
   ⟨0xe015f, "VARIATION SELECTOR-1", "12;13;14;15;16;17;18;19;20;21;22;23;24;25;26;27;28;29;30;31"⟩,
   ⟨0xe0173, "VARIATION SELECTOR-1", "32;33;34;35;36;37;38;39;40;41;42;43;44;45;46;47;48;49;50;51"⟩,
   ⟨0xe0187, "VARIATION SELECTOR-1", "52;53;54;55;56;57;58;59;60;61;62;63;64;65;66;67;68;69;70;71"⟩,
   ⟨0xe019b, "VARIATION SELECTOR-1", "72;73;74;75;76;77;78;79;80;81;82;83;84;85;86;87;88;89;90;91"⟩,
   ⟨0xe01af, "VARIATION SELECTOR-", "192;193;194;195;196;197;198;199;200;201;202;203;204;205;206"⟩,
   ⟨0xe01be, "VARIATION SELECTOR-2", "07;08;09;10;11;12;13;14;15;16;17;18;19;20;21;22;23;24;25;26"⟩,
   ⟨0xe01d2, "VARIATION SELECTOR-2",
     "27;28;29;30;31;32;33;34;35;36;37;38;39;40;41;42;43;44;45;46;47;48;49;50;51;52;53;54;55;56"⟩]

/-- All names of this module. -/
def pictographs : List NameRun :=
  List.flatten
    [glagoliticSupplement, nyiakengPuachueHmong, toto, wancho, ethiopicExtendedB, mendeKikakui,
     adlam, indicSiyaqNumbers, ottomanSiyaqNumbers, arabicMathematicalAlphabeticSymbols,
     mahjongTiles, dominoTiles, playingCards, enclosedAlphanumericSupplement,
     enclosedIdeographicSupplement, miscellaneousSymbolsAndPictographs, emoticons,
     ornamentalDingbats, transportAndMapSymbols, alchemicalSymbols, geometricShapesExtended,
     supplementalArrowsC, supplementalSymbolsAndPictographs, chessSymbols,
     symbolsAndPictographsExtendedA, symbolsForLegacyComputing, tags, variationSelectorsSupplement]

end Names
end Unicode
end LiquidMarkdown
