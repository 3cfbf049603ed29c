import LiquidMarkdown.Unicode.NameRun

/-!
# Names of characters: ancient alphabets

* `ancient` — the names of the scripts of the old Mediterranean, of Persia and of the steppe.
-/

namespace LiquidMarkdown
namespace Unicode
namespace Names

/-- The names in the block Linear B Syllabary. -/
def linearBSyllabary : List NameRun :=
  [⟨0x10000, "LINEAR B SYLLABLE B0",
     "08 A;38 E;28 I;61 O;10 U;01 DA;45 DE;07 DI;14 DO;51 DU;57 JA;46 JE"⟩,
   ⟨0x1000d, "LINEAR B SYLLABLE B0", "36 JO;65 JU;77 KA;44 KE;67 KI;70 KO"⟩,
   ⟨0x10013, "LINEAR B SYLLABLE B0", "81 KU;80 MA;13 ME;73 MI;15 MO;23 MU;06 NA;24 NE;30 NI;52 NO"⟩,
   ⟨0x1001d, "LINEAR B SYLLABLE B0", "55 NU;03 PA;72 PE;39 PI;11 PO;50 PU;16 QA;78 QE;21 QI;32 QO"⟩,
   ⟨0x10028, "LINEAR B SYLLABLE B0", "60 RA;27 RE;53 RI;02 RO;26 RU;31 SA;09 SE;41 SI;12 SO"⟩,
   ⟨0x10031, "LINEAR B SYLLABLE B0", "58 SU;59 TA;04 TE;37 TI;05 TO;69 TU;54 WA;75 WE;40 WI;42 WO"⟩,
   ⟨0x1003c, "LINEAR B SYLLABLE B0", "17 ZA;74 ZE"⟩,
   ⟨0x1003f, "LINEAR B SYLLABLE B0", "20 ZO;25 A2;43 A3;85 AU;71 DWE;90 DWO;48 NWA"⟩,
   ⟨0x10046, "LINEAR B SYLLABLE B0", "29 PU2;62 PTE;76 RA2;33 RA3;68 RO2;66 TA2;87 TWE;91 TWO"⟩,
   ⟨0x10050, "LINEAR B SYMBOL B0", "18;19;22;34;47;49;56;63;64;79;82;83;86;89"⟩]

/-- The names in the block Linear B Ideograms. -/
def linearBIdeograms : List NameRun :=
  [⟨0x10080, "LINEAR B IDEOGRAM B10", "0 MAN;2 WOMAN;4 DEER;5 EQUID;5F MARE;5M STALLION"⟩,
   ⟨0x10086, "LINEAR B IDEOGRAM B10", "6F EWE;6M RAM;7F SHE-GOAT;7M HE-GOAT;8F SOW;8M BOAR"⟩,
   ⟨0x1008c, "LINEAR B IDEOGRAM B1", "09F COW;09M BULL;20 WHEAT;21 BARLEY;22 OLIVE;23 SPICE"⟩,
   ⟨0x10092, "LINEAR B ", "IDEOGRAM B125 CYPERUS;MONOGRAM B127 KAPO;MONOGRAM B128 KANAKO"⟩,
   ⟨0x10095, "LINEAR B ",
     "IDEOGRAM B130 OIL;IDEOGRAM B131 WINE;IDEOGRAM B132;MONOGRAM B133 AREPA;MONOGRAM B135 MERI"⟩,
   ⟨0x1009a, "LINEAR B IDEOGRAM B1", "40 BRONZE;41 GOLD;42;45 WOOL;46;50;51 HORN"⟩,
   ⟨0x100a1, "LINEAR B ", "IDEOGRAM B152;IDEOGRAM B153;IDEOGRAM B154;MONOGRAM B156 TURO2"⟩,
   ⟨0x100a5, "LINEAR B IDEOGRAM B1", "57;58;59 CLOTH;60;61;62 GARMENT;63 ARMOUR;64;65;66;67"⟩,
   ⟨0x100b0, "LINEAR B IDEOGRAM B1", "68;69;70;71;72;73 MONTH;74;76 TREE;77;78;79;80;81;82;83;84"⟩,
   ⟨0x100c0, "LINEAR B IDEOGRAM B", "185;189;190;191 HELMET;220 FOOTSTOOL;225 BATHTUB;230 SPEAR"⟩,
   ⟨0x100c7, "LINEAR B IDEOGRAM B2",
     "31 ARROW;32;33 SWORD;34;36;40 WHEELED CHARIOT;41 CHARIOT;42 CHARIOT FRAME;43 WHEEL;45"⟩,
   ⟨0x100d1, "LINEAR B ", "IDEOGRAM B246;MONOGRAM B247 DIPTE;IDEOGRAM B248;IDEOGRAM B249"⟩,
   ⟨0x100d5, "LINEAR B IDEOGRAM ", "B251;B252;B253;B254 DART;B255;B256;B257;B258;B259;VESSEL B155"⟩,
   ⟨0x100df, "LINEAR B IDEOGRAM VESSEL B2", "00;01;02;03;04;05;06;07;08;09;10;11;12;13;14"⟩,
   ⟨0x100ee, "LINEAR B IDEOGRAM VESSEL B", "215;216;217;218;219;221;222;226;227;228;229;250;305"⟩]

/-- The names in the block Aegean Numbers. -/
def aegeanNumbers : List NameRun :=
  [⟨0x10100, "AEGEAN ", "WORD SEPARATOR LINE;WORD SEPARATOR DOT;CHECK MARK"⟩,
   ⟨0x10107, "AEGEAN NUMBER ", "ONE;TWO;THREE;FOUR;FIVE;SIX;SEVEN;EIGHT;NINE;TEN;TWENTY;THIRTY"⟩,
   ⟨0x10113, "AEGEAN NUMBER ", "FORTY;FIFTY;SIXTY;SEVENTY;EIGHTY;NINETY;ONE HUNDRED;TWO HUNDRED"⟩,
   ⟨0x1011b, "AEGEAN NUMBER ", "THREE HUNDRED;FOUR HUNDRED;FIVE HUNDRED;SIX HUNDRED;SEVEN HUNDRED"⟩,
   ⟨0x10120, "AEGEAN NUMBER ", "EIGHT HUNDRED;NINE HUNDRED;ONE THOUSAND;TWO THOUSAND"⟩,
   ⟨0x10124, "AEGEAN NUMBER ", "THREE THOUSAND;FOUR THOUSAND;FIVE THOUSAND;SIX THOUSAND"⟩,
   ⟨0x10128, "AEGEAN NUMBER ", "SEVEN THOUSAND;EIGHT THOUSAND;NINE THOUSAND;TEN THOUSAND"⟩,
   ⟨0x1012c, "AEGEAN NUMBER ", "TWENTY THOUSAND;THIRTY THOUSAND;FORTY THOUSAND;FIFTY THOUSAND"⟩,
   ⟨0x10130, "AEGEAN NUMBER ", "SIXTY THOUSAND;SEVENTY THOUSAND;EIGHTY THOUSAND;NINETY THOUSAND"⟩,
   ⟨0x10137, "AEGEAN WEIGHT ", "BASE UNIT;FIRST SUBUNIT;SECOND SUBUNIT"⟩,
   ⟨0x1013a, "AEGEAN ", "WEIGHT THIRD SUBUNIT;WEIGHT FOURTH SUBUNIT;DRY MEASURE FIRST SUBUNIT"⟩,
   ⟨0x1013d, "AEGEAN ",
     "LIQUID MEASURE FIRST SUBUNIT;MEASURE SECOND SUBUNIT;MEASURE THIRD SUBUNIT"⟩]

/-- The names in the block Ancient Greek Numbers. -/
def ancientGreekNumbers : List NameRun :=
  [⟨0x10140, "GREEK ACROPHONIC ATTIC ", "ONE QUARTER;ONE HALF;ONE DRACHMA;FIVE;FIFTY;FIVE HUNDRED"⟩,
   ⟨0x10146, "GREEK ACROPHONIC ATTIC ", "FIVE THOUSAND;FIFTY THOUSAND;FIVE TALENTS;TEN TALENTS"⟩,
   ⟨0x1014a, "GREEK ACROPHONIC ATTIC ", "FIFTY TALENTS;ONE HUNDRED TALENTS;FIVE HUNDRED TALENTS"⟩,
   ⟨0x1014d, "GREEK ACROPHONIC ATTIC ", "ONE THOUSAND TALENTS;FIVE THOUSAND TALENTS;FIVE STATERS"⟩,
   ⟨0x10150, "GREEK ACROPHONIC ATTIC ",
     "TEN STATERS;FIFTY STATERS;ONE HUNDRED STATERS;FIVE HUNDRED STATERS;ONE THOUSAND STATERS"⟩,
   ⟨0x10155, "GREEK ACROPHONIC ",
     "ATTIC TEN THOUSAND STATERS;ATTIC FIFTY THOUSAND STATERS;ATTIC TEN MNAS;HERAEUM ONE PLETHRON"⟩,
   ⟨0x10159, "GREEK ACROPHONIC ", "THESPIAN ONE;HERMIONIAN ONE;EPIDAUREAN TWO;THESPIAN TWO"⟩,
   ⟨0x1015d, "GREEK ACROPHONIC ", "CYRENAIC TWO DRACHMAS;EPIDAUREAN TWO DRACHMAS;TROEZENIAN FIVE"⟩,
   ⟨0x10160, "GREEK ACROPHONIC ", "TROEZENIAN TEN;TROEZENIAN TEN ALTERNATE FORM;HERMIONIAN TEN"⟩,
   ⟨0x10163, "GREEK ACROPHONIC ", "MESSENIAN TEN;THESPIAN TEN;THESPIAN THIRTY;TROEZENIAN FIFTY"⟩,
   ⟨0x10167, "GREEK ACROPHONIC ", "TROEZENIAN FIFTY ALTERNATE FORM;HERMIONIAN FIFTY"⟩,
   ⟨0x10169, "GREEK ACROPHONIC ",
     "THESPIAN FIFTY;THESPIAN ONE HUNDRED;THESPIAN THREE HUNDRED;EPIDAUREAN FIVE HUNDRED"⟩,
   ⟨0x1016d, "GREEK ACROPHONIC ",
     "TROEZENIAN FIVE HUNDRED;THESPIAN FIVE HUNDRED;CARYSTIAN FIVE HUNDRED;NAXIAN FIVE HUNDRED"⟩,
   ⟨0x10171, "GREEK ACROPHONIC ", "THESPIAN ONE THOUSAND;THESPIAN FIVE THOUSAND;DELPHIC FIVE MNAS"⟩,
   ⟨0x10174, "GREEK ", "ACROPHONIC STRATIAN FIFTY MNAS;ONE HALF SIGN;ONE HALF SIGN ALTERNATE FORM"⟩,
   ⟨0x10177, "GREEK ", "TWO THIRDS SIGN;THREE QUARTERS SIGN;YEAR SIGN;TALENT SIGN;DRACHMA SIGN"⟩,
   ⟨0x1017c, "GREEK ", "OBOL SIGN;TWO OBOLS SIGN;THREE OBOLS SIGN;FOUR OBOLS SIGN;FIVE OBOLS SIGN"⟩,
   ⟨0x10181, "GREEK ", "METRETES SIGN;KYATHOS BASE SIGN;LITRA SIGN;OUNKIA SIGN;XESTES SIGN"⟩,
   ⟨0x10186, "GREEK ", "ARTABE SIGN;AROURA SIGN;GRAMMA SIGN;TRYBLION BASE SIGN;ZERO SIGN"⟩,
   ⟨0x1018b, "", "GREEK ONE QUARTER SIGN;GREEK SINUSOID SIGN;GREEK INDICTION SIGN;NOMISMA SIGN"⟩]

/-- The names in the block Ancient Symbols. -/
def ancientSymbols : List NameRun :=
  [⟨0x10190, "ROMAN ", "SEXTANS SIGN;UNCIA SIGN;SEMUNCIA SIGN;SEXTULA SIGN;DIMIDIA SEXTULA SIGN"⟩,
   ⟨0x10195, "ROMAN ", "SILIQUA SIGN;DENARIUS SIGN;QUINARIUS SIGN;SESTERTIUS SIGN"⟩,
   ⟨0x10199, "", "ROMAN DUPONDIUS SIGN;ROMAN AS SIGN;ROMAN CENTURIAL SIGN;ASCIA SYMBOL"⟩,
   ⟨0x101a0, "GREEK SYMBOL TAU RHO", ""⟩]

/-- The names in the block Phaistos Disc. -/
def phaistosDisc : List NameRun :=
  [⟨0x101d0, "PHAISTOS DISC SIGN ", "PEDESTRIAN;PLUMED HEAD;TATTOOED HEAD;CAPTIVE;CHILD"⟩,
   ⟨0x101d5, "PHAISTOS DISC SIGN ", "WOMAN;HELMET;GAUNTLET;TIARA;ARROW;BOW;SHIELD;CLUB;MANACLES"⟩,
   ⟨0x101de, "PHAISTOS DISC SIGN ", "MATTOCK;SAW;LID;BOOMERANG;CARPENTRY PLANE;DOLIUM;COMB;SLING"⟩,
   ⟨0x101e6, "PHAISTOS DISC SIGN ", "COLUMN;BEEHIVE;SHIP;HORN;HIDE;BULLS LEG;CAT;RAM;EAGLE;DOVE"⟩,
   ⟨0x101f0, "PHAISTOS DISC SIGN ", "TUNNY;BEE;PLANE TREE;VINE;PAPYRUS;ROSETTE;LILY;OX BACK;FLUTE"⟩,
   ⟨0x101f9, "PHAISTOS DISC SIGN ", "GRATER;STRAINER;SMALL AXE;WAVY BAND;COMBINING OBLIQUE STROKE"⟩]

/-- The names in the block Lycian. -/
def lycian : List NameRun :=
  [⟨0x10280, "LYCIAN LETTER ", "A;E;B;BH;G;D;I;W;Z;TH;J;K;Q;L;M;N;MM;NN;U;P;KK;R;S;T;TT;AN;EN;H;X"⟩]

/-- The names in the block Carian. -/
def carian : List NameRun :=
  [⟨0x102a0, "CARIAN LETTER ",
     "A;P2;D;L;UUU;R;LD;A2;Q;B;M;O;D2;T;SH;SH2;S;C-18;U;NN;X;N;TT2;P;SS;I;E;UUUU;K;K2;ND"⟩,
   ⟨0x102bf, "CARIAN LETTER ", "UU;G;G2;ST;ST2;NG;II;C-39;TT;UUU2;RR;MB;MB2;MB3;MB4;LD2;E2;UUU3"⟩]

/-- The names in the block Coptic Epact Numbers. -/
def copticEpactNumbers : List NameRun :=
  [⟨0x102e0, "COPTIC EPACT ", "THOUSANDS MARK;DIGIT ONE;DIGIT TWO;DIGIT THREE;DIGIT FOUR"⟩,
   ⟨0x102e5, "COPTIC EPACT ", "DIGIT FIVE;DIGIT SIX;DIGIT SEVEN;DIGIT EIGHT;DIGIT NINE;NUMBER TEN"⟩,
   ⟨0x102eb, "COPTIC EPACT NUMBER ",
     "TWENTY;THIRTY;FORTY;FIFTY;SIXTY;SEVENTY;EIGHTY;NINETY;ONE HUNDRED;TWO HUNDRED;THREE HUNDRED"⟩,
   ⟨0x102f6, "COPTIC EPACT NUMBER ",
     "FOUR HUNDRED;FIVE HUNDRED;SIX HUNDRED;SEVEN HUNDRED;EIGHT HUNDRED;NINE HUNDRED"⟩]

/-- The names in the block Old Italic. -/
def oldItalic : List NameRun :=
  [⟨0x10300, "OLD ITALIC LETTER ", "A;BE;KE;DE;E;VE;ZE;HE;THE;I;KA;EL"⟩,
   ⟨0x1030c, "OLD ITALIC LETTER ", "EM;EN;ESH;O;PE;SHE;KU;ER;ES;TE;U;EKS;PHE;KHE;EF;ERS;CHE;II;UU"⟩,
   ⟨0x1031f, "OLD ITALIC ", "LETTER ESS;NUMERAL ONE;NUMERAL FIVE;NUMERAL TEN;NUMERAL FIFTY"⟩,
   ⟨0x1032d, "OLD ITALIC LETTER ", "YE;NORTHERN TSE;SOUTHERN TSE"⟩]

/-- The names in the block Gothic. -/
def gothic : List NameRun :=
  [⟨0x10330, "GOTHIC LETTER ", "AHSA;BAIRKAN;GIBA;DAGS;AIHVUS;QAIRTHRA;IUJA"⟩,
   ⟨0x10337, "GOTHIC LETTER ", "HAGL;THIUTH;EIS;KUSMA;LAGUS;MANNA;NAUTHS;JER;URUS;PAIRTHRA;NINETY"⟩,
   ⟨0x10342, "GOTHIC LETTER ", "RAIDA;SAUIL;TEIWS;WINJA;FAIHU;IGGWS;HWAIR;OTHAL;NINE HUNDRED"⟩]

/-- The names in the block Old Permic. -/
def oldPermic : List NameRun :=
  [⟨0x10350, "OLD PERMIC LETTER ", "AN;BUR;GAI;DOI;E;ZHOI;DZHOI;ZATA;DZITA"⟩,
   ⟨0x10359, "OLD PERMIC LETTER ", "I;KOKE;LEI;MENOE;NENOE;VOOI;PEEI;REI;SII;TAI;U;CHERY;SHOOI"⟩,
   ⟨0x10366, "OLD PERMIC LETTER ", "SHCHOOI;YRY;YERU;O;OO;EF;HA;TSIU;VER;YER;YERI;YAT;IE;YU;YA;IA"⟩,
   ⟨0x10376, "COMBINING OLD PERMIC LETTER ", "AN;DOI;ZATA;NENOE;SII"⟩]

/-- The names in the block Ugaritic. -/
def ugaritic : List NameRun :=
  [⟨0x10380, "UGARITIC LETTER ", "ALPA;BETA;GAMLA;KHA;DELTA;HO;WO;ZETA;HOTA"⟩,
   ⟨0x10389, "UGARITIC LETTER ",
     "TET;YOD;KAF;SHIN;LAMDA;MEM;DHAL;NUN;ZU;SAMKA;AIN;PU;SADE;QOPA;RASHA;THANNA;GHAIN;TO;I;U;SSU"⟩,
   ⟨0x1039f, "UGARITIC WORD DIVIDER", ""⟩]

/-- The names in the block Old Persian. -/
def oldPersian : List NameRun :=
  [⟨0x103a0, "OLD PERSIAN SIGN ", "A;I;U;KA;KU;GA;GU;XA;CA;JA;JI;TA;TU;DA;DI;DU"⟩,
   ⟨0x103b0, "OLD PERSIAN SIGN ", "THA;PA;BA;FA;NA;NU;MA;MI;MU;YA;VA;VI;RA;RU;LA;SA;ZA;SHA;SSA;HA"⟩,
   ⟨0x103c8, "OLD PERSIAN SIGN ", "AURAMAZDAA;AURAMAZDAA-2;AURAMAZDAAHA;XSHAAYATHIYA"⟩,
   ⟨0x103cc, "OLD PERSIAN ", "SIGN DAHYAAUSH;SIGN DAHYAAUSH-2;SIGN BAGA;SIGN BUUMISH;WORD DIVIDER"⟩,
   ⟨0x103d1, "OLD PERSIAN NUMBER ", "ONE;TWO;TEN;TWENTY;HUNDRED"⟩]

/-- The names in the block Deseret. -/
def deseret : List NameRun :=
  [⟨0x10400, "DESERET CAPITAL LETTER ", "LONG I;LONG E;LONG A;LONG AH;LONG O;LONG OO;SHORT I"⟩,
   ⟨0x10407, "DESERET CAPITAL LETTER ", "SHORT E;SHORT A;SHORT AH;SHORT O;SHORT OO;AY;OW;WU;YEE"⟩,
   ⟨0x10410, "DESERET CAPITAL LETTER ",
     "H;PEE;BEE;TEE;DEE;CHEE;JEE;KAY;GAY;EF;VEE;ETH;THEE;ES;ZEE;ESH;ZHEE;ER;EL;EM;EN;ENG;OI;EW"⟩,
   ⟨0x10428, "DESERET SMALL LETTER ", "LONG I;LONG E;LONG A;LONG AH;LONG O;LONG OO;SHORT I"⟩,
   ⟨0x1042f, "DESERET SMALL LETTER ", "SHORT E;SHORT A;SHORT AH;SHORT O;SHORT OO;AY;OW;WU;YEE"⟩,
   ⟨0x10438, "DESERET SMALL LETTER ",
     "H;PEE;BEE;TEE;DEE;CHEE;JEE;KAY;GAY;EF;VEE;ETH;THEE;ES;ZEE;ESH;ZHEE;ER;EL;EM;EN;ENG;OI;EW"⟩]

/-- The names in the block Shavian. -/
def shavian : List NameRun :=
  [⟨0x10450, "SHAVIAN LETTER ", "PEEP;TOT;KICK;FEE;THIGH;SO;SURE;CHURCH;YEA;HUNG;BIB;DEAD;GAG"⟩,
   ⟨0x1045d, "SHAVIAN LETTER ", "VOW;THEY;ZOO;MEASURE;JUDGE;WOE;HA-HA;LOLL;MIME;IF;EGG;ASH;ADO"⟩,
   ⟨0x1046a, "SHAVIAN LETTER ",
     "ON;WOOL;OUT;AH;ROAR;NUN;EAT;AGE;ICE;UP;OAK;OOZE;OIL;AWE;ARE;OR;AIR;ERR;ARRAY;EAR;IAN;YEW"⟩]

/-- The names in the block Osmanya. -/
def osmanya : List NameRun :=
  [⟨0x10480, "OSMANYA LETTER ", "ALEF;BA;TA;JA;XA;KHA;DEEL;RA;SA;SHIIN;DHA"⟩,
   ⟨0x1048b, "OSMANYA LETTER ", "CAYN;GA;FA;QAAF;KAAF;LAAN;MIIN;NUUN;WAW;HA;YA;A;E;I;O;U;AA;EE;OO"⟩,
   ⟨0x104a0, "OSMANYA DIGIT ", "ZERO;ONE;TWO;THREE;FOUR;FIVE;SIX;SEVEN;EIGHT;NINE"⟩]

/-- The names in the block Osage. -/
def osage : List NameRun :=
  [⟨0x104b0, "OSAGE CAPITAL LETTER ", "A;AI;AIN;AH;BRA;CHA;EHCHA;E;EIN;HA;HYA"⟩,
   ⟨0x104bb, "OSAGE CAPITAL LETTER ",
     "I;KA;EHKA;KYA;LA;MA;NA;O;OIN;PA;EHPA;SA;SHA;TA;EHTA;TSA;EHTSA;TSHA;DHA;U;WA;KHA;GHA;ZA;ZHA"⟩,
   ⟨0x104d8, "OSAGE SMALL LETTER ", "A;AI;AIN;AH;BRA;CHA;EHCHA;E;EIN;HA;HYA"⟩,
   ⟨0x104e3, "OSAGE SMALL LETTER ",
     "I;KA;EHKA;KYA;LA;MA;NA;O;OIN;PA;EHPA;SA;SHA;TA;EHTA;TSA;EHTSA;TSHA;DHA;U;WA;KHA;GHA;ZA;ZHA"⟩]

/-- The names in the block Elbasan. -/
def elbasan : List NameRun :=
  [⟨0x10500, "ELBASAN LETTER ", "A;BE;CE;CHE;DE;NDE;DHE;EI;E;FE;GE;GJE;HE;I;JE;KE;LE;LLE;ME;NE;NA"⟩,
   ⟨0x10515, "ELBASAN LETTER ", "NJE;O;PE;QE;RE;RRE;SE;SHE;TE;THE;U;VE;XE;Y;ZE;ZHE;GHE;GHAMMA;KHE"⟩]

/-- The names in the block Caucasian Albanian. -/
def caucasianAlbanian : List NameRun :=
  [⟨0x10530, "CAUCASIAN ALBANIAN LETTER ", "ALT;BET;GIM;DAT;EB;ZARL;EYN;ZHIL;TAS;CHA;YOWD;ZHA;IRB"⟩,
   ⟨0x1053d, "CAUCASIAN ALBANIAN LETTER ",
     "SHA;LAN;INYA;XEYN;DYAN;CAR;JHOX;KAR;LYIT;HEYT;QAY;AOR;CHOY;CHI;CYAY;MAQ;QAR;NOWC;DZYAY;SHAK"⟩,
   ⟨0x10551, "CAUCASIAN ALBANIAN LETTER ",
     "JAYN;ON;TYAY;FAM;DZAY;CHAT;PEN;GHEYS;RAT;SEYK;VEYZ;TIWR;SHOY;IWN;CYAW;CAYN;YAYD;PIWR;KIW"⟩,
   ⟨0x1056f, "CAUCASIAN ALBANIAN CITATION MARK", ""⟩]

/-- The names in the block Vithkuqi. -/
def vithkuqi : List NameRun :=
  [⟨0x10570, "VITHKUQI CAPITAL LETTER ", "A;BBE;BE;CE;CHE;DE;DHE;EI;E;FE;GA"⟩,
   ⟨0x1057c, "VITHKUQI CAPITAL LETTER ", "HA;HHA;I;IJE;JE;KA;LA;LLA;ME;NE;NJE;O;PE;QA;RE"⟩,
   ⟨0x1058c, "VITHKUQI CAPITAL LETTER ", "SE;SHE;TE;THE;U;VE;XE"⟩,
   ⟨0x10594, "VITHKUQI CAPITAL LETTER ", "Y;ZE"⟩,
   ⟨0x10597, "VITHKUQI SMALL LETTER ", "A;BBE;BE;CE;CHE;DE;DHE;EI;E;FE;GA"⟩,
   ⟨0x105a3, "VITHKUQI SMALL LETTER ", "HA;HHA;I;IJE;JE;KA;LA;LLA;ME;NE;NJE;O;PE;QA;RE"⟩,
   ⟨0x105b3, "VITHKUQI SMALL LETTER ", "SE;SHE;TE;THE;U;VE;XE"⟩,
   ⟨0x105bb, "VITHKUQI SMALL LETTER ", "Y;ZE"⟩]

/-- The names in the block Linear A. -/
def linearA : List NameRun :=
  [⟨0x10600, "LINEAR A SIGN AB0", "01;02;03;04;05;06;07;08;09;10;11;13;16;17;20;21;21F"⟩,
   ⟨0x10611, "LINEAR A SIGN A", "B021M;B022;B022F;B022M;B023;B023M;B024;B026;B027;B028;028B;B029"⟩,
   ⟨0x1061d, "LINEAR A SIGN AB0", "30;31;34;37;38;39;40;41;44;45;46;47;48;49;50;51;53;54;55;56;57"⟩,
   ⟨0x10632, "LINEAR A SIGN AB0", "58;59;60;61;65;66;67;69;70;73;74;76;77;78;79;80;81;82;85;86;87"⟩,
   ⟨0x10647, "LINEAR A SIGN A", "100-102;B118;B120;120B;B122;B123;B131A;B131B;131C;B164;B171;B180"⟩,
   ⟨0x10653, "LINEAR A SIGN A", "B188;B191;301;302;303;304;305;306;307;308;309A;309B;309C;310;311"⟩,
   ⟨0x10662, "LINEAR A SIGN A3", "12;13A;13B;13C;14;15;16;17;18;19;20;21;22;23;24;25;26;27;28;29"⟩,
   ⟨0x10676, "LINEAR A SIGN A3", "30;31;32;33;34;35;36;37;38;39;40;41;42;43;44;45;46;47;48;49;50"⟩,
   ⟨0x1068b, "LINEAR A SIGN A3", "51;52;53;54;55;56;57;58;59;60;61;62;63;64;65;66;67;68;69;70;71"⟩,
   ⟨0x106a0, "LINEAR A SIGN A40", "0-VAS;1-VAS;2-VAS;3-VAS;4-VAS;5-VAS;6-VAS;7-VAS"⟩,
   ⟨0x106a8, "LINEAR A SIGN A4", "08-VAS;09-VAS;10-VAS;11-VAS;12-VAS;13-VAS;14-VAS;15-VAS;16-VAS"⟩,
   ⟨0x106b1, "LINEAR A SIGN A", "417-VAS;418-VAS;501;502;503;504;505;506;508;509;510;511;512"⟩,
   ⟨0x106be, "LINEAR A SIGN A5", "13;15;16;20;21;23;24;25;26;27;28;29;30;31;32;34;35;36;37;38;39"⟩,
   ⟨0x106d3, "LINEAR A SIGN A5", "40;41;42;45;47;48;49;50;51;52;53;54;55;56;57;59;63;64;65;66;68"⟩,
   ⟨0x106e8, "LINEAR A SIGN A5", "69;70;71;72;73;74;75;76;77;78;79;80;81;82;83;84;85;86;87;88;89"⟩,
   ⟨0x106fd, "LINEAR A SIGN A", "591;592;594;595;596;598;600;601;602;603;604;606;608;609;610;611"⟩,
   ⟨0x1070d, "LINEAR A SIGN A6", "12;13;14;15;16;17;18;19;20;21;22;23;24;26;27;28;29;34;37;38;40"⟩,
   ⟨0x10722, "LINEAR A SIGN A6", "42;43;44;45;46;48;49;51;52;53;54;55;56;57;58;59;60;61;62;63;64"⟩,
   ⟨0x10740, "LINEAR A SIGN A7",
     "01 A;02 B;03 D;04 E;05 F;06 H;07 J;08 K;09 L;09-2 L2;09-3 L3;09-4 L4;09-6 L6;10 W"⟩,
   ⟨0x1074e, "LINEAR A SIGN A7", "11 X;12 Y;13 OMEGA;14 ABB;15 BB;17 DD;26 EYYY;32 JE"⟩,
   ⟨0x10760, "LINEAR A SIGN A80", "0;1;2;3;4;5;6;7"⟩]

/-- The names in the block Latin Extended-F. -/
def latinExtendedF : List NameRun :=
  [⟨0x10780, "MODIFIER LETTER S", "MALL CAPITAL AA;UPERSCRIPT TRIANGULAR COLON"⟩,
   ⟨0x10782, "MODIFIER LETTER S",
     "UPERSCRIPT HALF TRIANGULAR COLON;MALL AE;MALL CAPITAL B;MALL B WITH HOOK"⟩,
   ⟨0x10787, "MODIFIER LETTER SMALL DZ DIGRAPH", "; WITH RETROFLEX HOOK; WITH CURL"⟩,
   ⟨0x1078a, "MODIFIER LETTER SMALL D", "EZH DIGRAPH; WITH TAIL; WITH HOOK; WITH HOOK AND TAIL"⟩,
   ⟨0x1078e, "MODIFIER LETTER SMALL ", "REVERSED E;CLOSED REVERSED OPEN E;FENG DIGRAPH;RAMS HORN"⟩,
   ⟨0x10792, "MODIFIER LETTER SMALL ", "CAPITAL G;G WITH HOOK;CAPITAL G WITH HOOK;H WITH STROKE"⟩,
   ⟨0x10796, "MODIFIER LETTER SMALL ", "CAPITAL H;HENG WITH HOOK;DOTLESS J WITH STROKE AND HOOK"⟩,
   ⟨0x10799, "MODIFIER LETTER SMALL ",
     "LS DIGRAPH;LZ DIGRAPH;L WITH BELT;CAPITAL L WITH BELT;L WITH RETROFLEX HOOK AND BELT"⟩,
   ⟨0x1079e, "MODIFIER LETTER SMALL ",
     "LEZH;LEZH WITH RETROFLEX HOOK;TURNED Y;TURNED Y WITH BELT;O WITH STROKE;CAPITAL OE"⟩,
   ⟨0x107a4, "MODIFIER LETTER SMALL ",
     "CLOSED OMEGA;Q;TURNED R WITH LONG LEG;TURNED R WITH LONG LEG AND RETROFLEX HOOK;R WITH TAIL"⟩,
   ⟨0x107a9, "MODIFIER LETTER SMALL ", "R WITH FISHHOOK;CAPITAL R;TC DIGRAPH WITH CURL;TS DIGRAPH"⟩,
   ⟨0x107ad, "MODIFIER LETTER SMALL ",
     "TS DIGRAPH WITH RETROFLEX HOOK;TESH DIGRAPH;T WITH RETROFLEX HOOK;V WITH RIGHT HOOK"⟩,
   ⟨0x107b2, "MODIFIER LETTER ", "SMALL CAPITAL Y;GLOTTAL STOP WITH STROKE"⟩,
   ⟨0x107b4, "MODIFIER LETTER ", "REVERSED GLOTTAL STOP WITH STROKE;BILABIAL CLICK;DENTAL CLICK"⟩,
   ⟨0x107b7, "MODIFIER LETTER ",
     "LATERAL CLICK;ALVEOLAR CLICK;RETROFLEX CLICK WITH RETROFLEX HOOK;SMALL S WITH CURL"⟩]

/-- The names in the block Cypriot Syllabary. -/
def cypriotSyllabary : List NameRun :=
  [⟨0x10800, "CYPRIOT SYLLABLE ", "A;E;I;O;U;JA"⟩,
   ⟨0x10808, "CYPRIOT SYLLABLE JO", ""⟩,
   ⟨0x1080a, "CYPRIOT SYLLABLE ", "KA;KE;KI;KO;KU;LA;LE;LI;LO;LU;MA;ME;MI;MO"⟩,
   ⟨0x10818, "CYPRIOT SYLLABLE ",
     "MU;NA;NE;NI;NO;NU;PA;PE;PI;PO;PU;RA;RE;RI;RO;RU;SA;SE;SI;SO;SU;TA;TE;TI;TO;TU;WA;WE;WI;WO"⟩,
   ⟨0x10837, "CYPRIOT SYLLABLE X", "A;E"⟩,
   ⟨0x1083c, "CYPRIOT SYLLABLE ZA", ""⟩,
   ⟨0x1083f, "CYPRIOT SYLLABLE ZO", ""⟩]

/-- The names in the block Imperial Aramaic. -/
def imperialAramaic : List NameRun :=
  [⟨0x10840, "IMPERIAL ARAMAIC LETTER ", "ALEPH;BETH;GIMEL;DALETH"⟩,
   ⟨0x10844, "IMPERIAL ARAMAIC LETTER ",
     "HE;WAW;ZAYIN;HETH;TETH;YODH;KAPH;LAMEDH;MEM;NUN;SAMEKH;AYIN;PE;SADHE;QOPH;RESH;SHIN;TAW"⟩,
   ⟨0x10857, "IMPERIAL ARAMAIC ", "SECTION SIGN;NUMBER ONE;NUMBER TWO"⟩,
   ⟨0x1085a, "IMPERIAL ARAMAIC NUMBER ", "THREE;TEN;TWENTY;ONE HUNDRED;ONE THOUSAND;TEN THOUSAND"⟩]

/-- The names in the block Palmyrene. -/
def palmyrene : List NameRun :=
  [⟨0x10860, "PALMYRENE LETTER ", "ALEPH;BETH;GIMEL;DALETH;HE;WAW;ZAYIN;HETH;TETH;YODH"⟩,
   ⟨0x1086a, "PALMYRENE LETTER ", "KAPH;LAMEDH;MEM;FINAL NUN;NUN;SAMEKH;AYIN;PE;SADHE;QOPH;RESH"⟩,
   ⟨0x10875, "PALMYRENE ", "LETTER SHIN;LETTER TAW;LEFT-POINTING FLEURON;RIGHT-POINTING FLEURON"⟩,
   ⟨0x10879, "PALMYRENE NUMBER ", "ONE;TWO;THREE;FOUR;FIVE;TEN;TWENTY"⟩]

/-- The names in the block Nabataean. -/
def nabataean : List NameRun :=
  [⟨0x10880, "NABATAEAN LETTER ", "FINAL ALEPH;ALEPH;FINAL BETH;BETH;GIMEL;DALETH;FINAL HE;HE;WAW"⟩,
   ⟨0x10889, "NABATAEAN LETTER ", "ZAYIN;HETH;TETH;FINAL YODH;YODH;FINAL KAPH;KAPH;FINAL LAMEDH"⟩,
   ⟨0x10891, "NABATAEAN LETTER ",
     "LAMEDH;FINAL MEM;MEM;FINAL NUN;NUN;SAMEKH;AYIN;PE;SADHE;QOPH;RESH;FINAL SHIN;SHIN;TAW"⟩,
   ⟨0x108a7, "NABATAEAN ", "NUMBER ONE;NUMBER TWO;NUMBER THREE;NUMBER FOUR;CRUCIFORM NUMBER FOUR"⟩,
   ⟨0x108ac, "NABATAEAN NUMBER ", "FIVE;TEN;TWENTY;ONE HUNDRED"⟩]

/-- The names in the block Hatran. -/
def hatran : List NameRun :=
  [⟨0x108e0, "HATRAN LETTER ", "ALEPH;BETH;GIMEL;DALETH-RESH;HE;WAW"⟩,
   ⟨0x108e6, "HATRAN LETTER ", "ZAYN;HETH;TETH;YODH;KAPH;LAMEDH;MEM;NUN;SAMEKH;AYN;PE;SADHE;QOPH"⟩,
   ⟨0x108f4, "HATRAN LETTER ", "SHIN;TAW"⟩,
   ⟨0x108fb, "HATRAN NUMBER ", "ONE;FIVE;TEN;TWENTY;ONE HUNDRED"⟩]

/-- The names in the block Phoenician. -/
def phoenician : List NameRun :=
  [⟨0x10900, "PHOENICIAN LETTER ", "ALF;BET;GAML;DELT;HE;WAU;ZAI;HET"⟩,
   ⟨0x10908, "PHOENICIAN LETTER ", "TET;YOD;KAF;LAMD;MEM;NUN;SEMK;AIN;PE;SADE;QOF;ROSH;SHIN;TAU"⟩,
   ⟨0x10916, "PHOENICIAN NUMBER ", "ONE;TEN;TWENTY;ONE HUNDRED;TWO;THREE"⟩,
   ⟨0x1091f, "PHOENICIAN WORD SEPARATOR", ""⟩]

/-- The names in the block Lydian. -/
def lydian : List NameRun :=
  [⟨0x10920, "LYDIAN LETTER ", "A;B;G;D;E;V;I;Y;K;L;M;N;O;R;SS;T;U;F;Q;S;TT;AN;EN;LY;NN;C"⟩,
   ⟨0x1093f, "LYDIAN TRIANGULAR MARK", ""⟩]

/-- The names in the block Meroitic Hieroglyphs. -/
def meroiticHieroglyphs : List NameRun :=
  [⟨0x10980, "MEROITIC HIEROGLYPHIC LETTER ",
     "A;E;I;O;YA;WA;BA;BA-2;PA;MA;NA;NA-2;NE;NE-2;RA;RA-2;LA;KHA;HHA;SA;SA-2;SE;KA;QA;TA;TA-2;TE"⟩,
   ⟨0x1099b, "MEROITIC HIEROGLYPHIC ", "LETTER TE-2;LETTER TO;LETTER DA;SYMBOL VIDJ;SYMBOL VIDJ-2"⟩]

/-- The names in the block Meroitic Cursive. -/
def meroiticCursive : List NameRun :=
  [⟨0x109a0, "MEROITIC CURSIVE LETTER ",
     "A;E;I;O;YA;WA;BA;PA;MA;NA;NE;RA;LA;KHA;HHA;SA;ARCHAIC SA;SE;KA;QA;TA;TE;TO;DA"⟩,
   ⟨0x109bc, "MEROITIC CURSIVE ",
     "FRACTION ELEVEN TWELFTHS;FRACTION ONE HALF;LOGOGRAM RMT;LOGOGRAM IMN"⟩,
   ⟨0x109c0, "MEROITIC CURSIVE NUMBER ",
     "ONE;TWO;THREE;FOUR;FIVE;SIX;SEVEN;EIGHT;NINE;TEN;TWENTY;THIRTY;FORTY;FIFTY;SIXTY;SEVENTY"⟩,
   ⟨0x109d2, "MEROITIC CURSIVE NUMBER ", "ONE HUNDRED;TWO HUNDRED;THREE HUNDRED;FOUR HUNDRED"⟩,
   ⟨0x109d6, "MEROITIC CURSIVE NUMBER ", "FIVE HUNDRED;SIX HUNDRED;SEVEN HUNDRED;EIGHT HUNDRED"⟩,
   ⟨0x109da, "MEROITIC CURSIVE NUMBER ", "NINE HUNDRED;ONE THOUSAND;TWO THOUSAND;THREE THOUSAND"⟩,
   ⟨0x109de, "MEROITIC CURSIVE NUMBER ", "FOUR THOUSAND;FIVE THOUSAND;SIX THOUSAND;SEVEN THOUSAND"⟩,
   ⟨0x109e2, "MEROITIC CURSIVE NUMBER ",
     "EIGHT THOUSAND;NINE THOUSAND;TEN THOUSAND;TWENTY THOUSAND;THIRTY THOUSAND;FORTY THOUSAND"⟩,
   ⟨0x109e8, "MEROITIC CURSIVE NUMBER ", "FIFTY THOUSAND;SIXTY THOUSAND;SEVENTY THOUSAND"⟩,
   ⟨0x109eb, "MEROITIC CURSIVE NUMBER ", "EIGHTY THOUSAND;NINETY THOUSAND;ONE HUNDRED THOUSAND"⟩,
   ⟨0x109ee, "MEROITIC CURSIVE NUMBER ",
     "TWO HUNDRED THOUSAND;THREE HUNDRED THOUSAND;FOUR HUNDRED THOUSAND;FIVE HUNDRED THOUSAND"⟩,
   ⟨0x109f2, "MEROITIC CURSIVE NUMBER ",
     "SIX HUNDRED THOUSAND;SEVEN HUNDRED THOUSAND;EIGHT HUNDRED THOUSAND;NINE HUNDRED THOUSAND"⟩,
   ⟨0x109f6, "MEROITIC CURSIVE FRACTION ", "ONE TWELFTH;TWO TWELFTHS;THREE TWELFTHS;FOUR TWELFTHS"⟩,
   ⟨0x109fa, "MEROITIC CURSIVE FRACTION ",
     "FIVE TWELFTHS;SIX TWELFTHS;SEVEN TWELFTHS;EIGHT TWELFTHS;NINE TWELFTHS;TEN TWELFTHS"⟩]

/-- The names in the block Kharoshthi. -/
def kharoshthi : List NameRun :=
  [⟨0x10a00, "KHAROSHTHI ", "LETTER A;VOWEL SIGN I;VOWEL SIGN U;VOWEL SIGN VOCALIC R"⟩,
   ⟨0x10a05, "KHAROSHTHI VOWEL SIGN ", "E;O"⟩,
   ⟨0x10a0c, "KHAROSHTHI ", "VOWEL LENGTH MARK;SIGN DOUBLE RING BELOW"⟩,
   ⟨0x10a0e, "KHAROSHTHI ", "SIGN ANUSVARA;SIGN VISARGA;LETTER KA;LETTER KHA;LETTER GA;LETTER GHA"⟩,
   ⟨0x10a15, "KHAROSHTHI LETTER ", "CA;CHA;JA"⟩,
   ⟨0x10a19, "KHAROSHTHI LETTER ", "NYA;TTA;TTHA;DDA;DDHA;NNA;TA;THA;DA;DHA;NA;PA"⟩,
   ⟨0x10a25, "KHAROSHTHI LETTER ", "PHA;BA;BHA;MA;YA;RA;LA;VA;SHA;SSA;SA;ZA;HA;KKA;TTTHA;TTTA;VHA"⟩,
   ⟨0x10a38, "KHAROSHTHI SIGN ", "BAR ABOVE;CAUDA;DOT BELOW"⟩,
   ⟨0x10a3f, "KHAROSHTHI ", "VIRAMA;DIGIT ONE;DIGIT TWO;DIGIT THREE;DIGIT FOUR"⟩,
   ⟨0x10a44, "KHAROSHTHI ",
     "NUMBER TEN;NUMBER TWENTY;NUMBER ONE HUNDRED;NUMBER ONE THOUSAND;FRACTION ONE HALF"⟩,
   ⟨0x10a50, "KHAROSHTHI PUNCTUATION ",
     "DOT;SMALL CIRCLE;CIRCLE;CRESCENT BAR;MANGALAM;LOTUS;DANDA;DOUBLE DANDA;LINES"⟩]

/-- The names in the block Old South Arabian. -/
def oldSouthArabian : List NameRun :=
  [⟨0x10a60, "OLD SOUTH ARABIAN LETTER ",
     "HE;LAMEDH;HETH;MEM;QOPH;WAW;SHIN;RESH;BETH;TAW;SAT;KAPH;NUN;KHETH;SADHE;SAMEKH;FE;ALEF;AYN"⟩,
   ⟨0x10a73, "OLD SOUTH ARABIAN LETTER ", "DHADHE;GIMEL;DALETH;GHAYN;TETH;ZAYN;DHALETH;YODH;THAW"⟩,
   ⟨0x10a7c, "OLD SOUTH ARABIAN ", "LETTER THETH;NUMBER ONE;NUMBER FIFTY;NUMERIC INDICATOR"⟩]

/-- The names in the block Old North Arabian. -/
def oldNorthArabian : List NameRun :=
  [⟨0x10a80, "OLD NORTH ARABIAN LETTER ", "HEH;LAM;HAH;MEEM;QAF;WAW;ES-2"⟩,
   ⟨0x10a87, "OLD NORTH ARABIAN LETTER ",
     "REH;BEH;TEH;ES-1;KAF;NOON;KHAH;SAD;ES-3;FEH;ALEF;AIN;DAD;GEEM;DAL;GHAIN;TAH;ZAIN;THAL;YEH"⟩,
   ⟨0x10a9b, "OLD NORTH ARABIAN ", "LETTER THEH;LETTER ZAH;NUMBER ONE;NUMBER TEN;NUMBER TWENTY"⟩]

/-- The names in the block Manichaean. -/
def manichaean : List NameRun :=
  [⟨0x10ac0, "MANICHAEAN LETTER ", "ALEPH;BETH;BHETH;GIMEL;GHIMEL;DALETH;HE;WAW"⟩,
   ⟨0x10ac8, "MANICHAEAN ", "SIGN UD;LETTER ZAYIN;LETTER ZHAYIN;LETTER JAYIN;LETTER JHAYIN"⟩,
   ⟨0x10acd, "MANICHAEAN LETTER ", "HETH;TETH;YODH;KAPH;XAPH;KHAPH;LAMEDH;DHAMEDH;THAMEDH;MEM;NUN"⟩,
   ⟨0x10ad8, "MANICHAEAN LETTER ", "SAMEKH;AYIN;AAYIN;PE;FE;SADHE;QOPH;XOPH;QHOPH;RESH;SHIN;SSHIN"⟩,
   ⟨0x10ae4, "MANICHAEAN ", "LETTER TAW;ABBREVIATION MARK ABOVE;ABBREVIATION MARK BELOW"⟩,
   ⟨0x10aeb, "MANICHAEAN NUMBER ", "ONE;FIVE;TEN;TWENTY;ONE HUNDRED"⟩,
   ⟨0x10af0, "MANICHAEAN PUNCTUATION ",
     "STAR;FLEURON;DOUBLE DOT WITHIN DOT;DOT WITHIN DOT;DOT;TWO DOTS;LINE FILLER"⟩]

/-- The names in the block Avestan. -/
def avestan : List NameRun :=
  [⟨0x10b00, "AVESTAN LETTER ", "A;AA;AO;AAO;AN;AAN;AE;AEE;E;EE;O;OO;I;II;U;UU;KE;XE;XYE;XVE"⟩,
   ⟨0x10b14, "AVESTAN LETTER ", "GE;GGE;GHE;CE;JE;TE;THE;DE;DHE;TTE;PE;FE;BE;BHE;NGE;NGYE;NGVE"⟩,
   ⟨0x10b25, "AVESTAN LETTER ", "NE;NYE;NNE;ME;HME;YYE;YE;VE;RE;LE;SE;ZE;SHE;ZHE;SHYE;SSHE;HE"⟩,
   ⟨0x10b39, "AVESTAN ABBREVIATION MARK", ""⟩,
   ⟨0x10b3a, "", "TINY TWO DOTS OVER ONE DOT PUNCTUATION;SMALL TWO DOTS OVER ONE DOT PUNCTUATION"⟩,
   ⟨0x10b3c, "LARGE ", "TWO DOTS OVER ONE DOT PUNCTUATION;ONE DOT OVER TWO DOTS PUNCTUATION"⟩,
   ⟨0x10b3e, "LARGE ", "TWO RINGS OVER ONE RING PUNCTUATION;ONE RING OVER TWO RINGS PUNCTUATION"⟩]

/-- The names in the block Inscriptional Parthian. -/
def inscriptionalParthian : List NameRun :=
  [⟨0x10b40, "INSCRIPTIONAL PARTHIAN LETTER ", "ALEPH;BETH;GIMEL;DALETH"⟩,
   ⟨0x10b44, "INSCRIPTIONAL PARTHIAN LETTER ",
     "HE;WAW;ZAYIN;HETH;TETH;YODH;KAPH;LAMEDH;MEM;NUN;SAMEKH;AYIN;PE;SADHE;QOPH;RESH;SHIN;TAW"⟩,
   ⟨0x10b58, "INSCRIPTIONAL PARTHIAN NUMBER ",
     "ONE;TWO;THREE;FOUR;TEN;TWENTY;ONE HUNDRED;ONE THOUSAND"⟩]

/-- The names in the block Inscriptional Pahlavi. -/
def inscriptionalPahlavi : List NameRun :=
  [⟨0x10b60, "INSCRIPTIONAL PAHLAVI LETTER ", "ALEPH;BETH;GIMEL;DALETH"⟩,
   ⟨0x10b64, "INSCRIPTIONAL PAHLAVI LETTER ",
     "HE;WAW-AYIN-RESH;ZAYIN;HETH;TETH;YODH;KAPH;LAMEDH;MEM-QOPH;NUN;SAMEKH;PE;SADHE;SHIN;TAW"⟩,
   ⟨0x10b78, "INSCRIPTIONAL PAHLAVI NUMBER ",
     "ONE;TWO;THREE;FOUR;TEN;TWENTY;ONE HUNDRED;ONE THOUSAND"⟩]

/-- The names in the block Psalter Pahlavi. -/
def psalterPahlavi : List NameRun :=
  [⟨0x10b80, "PSALTER PAHLAVI LETTER ", "ALEPH;BETH;GIMEL;DALETH;HE;WAW-AYIN-RESH;ZAYIN;HETH"⟩,
   ⟨0x10b88, "PSALTER PAHLAVI LETTER ", "YODH;KAPH;LAMEDH;MEM-QOPH;NUN;SAMEKH;PE;SADHE;SHIN;TAW"⟩,
   ⟨0x10b99, "PSALTER PAHLAVI ",
     "SECTION MARK;TURNED SECTION MARK;FOUR DOTS WITH CROSS;FOUR DOTS WITH DOT"⟩,
   ⟨0x10ba9, "PSALTER PAHLAVI NUMBER ", "ONE;TWO;THREE;FOUR;TEN;TWENTY;ONE HUNDRED"⟩]

/-- The names in the block Old Turkic. -/
def oldTurkic : List NameRun :=
  [⟨0x10c00, "OLD TURKIC LETTER ", "ORKHON A;YENISEI A;YENISEI AE;ORKHON I;YENISEI I;YENISEI E"⟩,
   ⟨0x10c06, "OLD TURKIC LETTER ", "ORKHON O;ORKHON OE;YENISEI OE;ORKHON AB;YENISEI AB;ORKHON AEB"⟩,
   ⟨0x10c0c, "OLD TURKIC LETTER ", "YENISEI AEB;ORKHON AG;YENISEI AG;ORKHON AEG;YENISEI AEG"⟩,
   ⟨0x10c11, "OLD TURKIC LETTER ", "ORKHON AD;YENISEI AD;ORKHON AED;ORKHON EZ;YENISEI EZ"⟩,
   ⟨0x10c16, "OLD TURKIC LETTER ", "ORKHON AY;YENISEI AY;ORKHON AEY;YENISEI AEY;ORKHON AEK"⟩,
   ⟨0x10c1b, "OLD TURKIC LETTER ", "YENISEI AEK;ORKHON OEK;YENISEI OEK;ORKHON AL;YENISEI AL"⟩,
   ⟨0x10c20, "OLD TURKIC LETTER ORKHON ", "AEL;ELT;EM;AN;AEN"⟩,
   ⟨0x10c25, "OLD TURKIC LETTER ", "YENISEI AEN;ORKHON ENT;YENISEI ENT;ORKHON ENC;YENISEI ENC"⟩,
   ⟨0x10c2a, "OLD TURKIC LETTER ", "ORKHON ENY;YENISEI ENY;YENISEI ANG;ORKHON ENG;YENISEI AENG"⟩,
   ⟨0x10c2f, "OLD TURKIC LETTER ", "ORKHON EP;ORKHON OP;ORKHON IC;ORKHON EC;YENISEI EC;ORKHON AQ"⟩,
   ⟨0x10c35, "OLD TURKIC LETTER ", "YENISEI AQ;ORKHON IQ;YENISEI IQ;ORKHON OQ;YENISEI OQ"⟩,
   ⟨0x10c3a, "OLD TURKIC LETTER ", "ORKHON AR;YENISEI AR;ORKHON AER;ORKHON AS;ORKHON AES"⟩,
   ⟨0x10c3f, "OLD TURKIC LETTER ", "ORKHON ASH;YENISEI ASH;ORKHON ESH;YENISEI ESH;ORKHON AT"⟩,
   ⟨0x10c44, "OLD TURKIC LETTER ", "YENISEI AT;ORKHON AET;YENISEI AET;ORKHON OT;ORKHON BASH"⟩]

/-- The names in the block Old Hungarian. -/
def oldHungarian : List NameRun :=
  [⟨0x10c80, "OLD HUNGARIAN CAPITAL LETTER ", "A;AA;EB;AMB;EC;ENC;ECS;ED;AND;E;CLOSE E;EE;EF"⟩,
   ⟨0x10c8d, "OLD HUNGARIAN CAPITAL LETTER ",
     "EG;EGY;EH;I;II;EJ;EK;AK;UNK;EL;ELY;EM;EN;ENY;O;OO;NIKOLSBURG OE;RUDIMENTA OE;OEE;EP;EMP;ER"⟩,
   ⟨0x10ca3, "OLD HUNGARIAN CAPITAL LETTER ",
     "SHORT ER;ES;ESZ;ET;ENT;ETY;ECH;U;UU;NIKOLSBURG UE;RUDIMENTA UE;EV;EZ;EZS;ENT-SHAPED SIGN;US"⟩,
   ⟨0x10cc0, "OLD HUNGARIAN SMALL LETTER ", "A;AA;EB;AMB;EC;ENC;ECS;ED;AND;E;CLOSE E;EE;EF"⟩,
   ⟨0x10ccd, "OLD HUNGARIAN SMALL LETTER ",
     "EG;EGY;EH;I;II;EJ;EK;AK;UNK;EL;ELY;EM;EN;ENY;O;OO;NIKOLSBURG OE;RUDIMENTA OE;OEE;EP;EMP;ER"⟩,
   ⟨0x10ce3, "OLD HUNGARIAN SMALL LETTER ",
     "SHORT ER;ES;ESZ;ET;ENT;ETY;ECH;U;UU;NIKOLSBURG UE;RUDIMENTA UE;EV;EZ;EZS;ENT-SHAPED SIGN;US"⟩,
   ⟨0x10cfa, "OLD HUNGARIAN NUMBER ", "ONE;FIVE;TEN;FIFTY;ONE HUNDRED;ONE THOUSAND"⟩]

/-- The names in the block Hanifi Rohingya. -/
def hanifiRohingya : List NameRun :=
  [⟨0x10d00, "HANIFI ROHINGYA LETTER ", "A;BA;PA;TA;TTA;JA;CA;HA;KHA;FA;DA;DDA;RA;RRA"⟩,
   ⟨0x10d0e, "HANIFI ROHINGYA LETTER ", "ZA;SA;SHA;KA;GA;LA;MA;NA;WA;KINNA WA;YA;KINNA YA;NGA;NYA"⟩,
   ⟨0x10d1c, "HANIFI ROHINGYA ", "LETTER VA;VOWEL A;VOWEL I;VOWEL U;VOWEL E;VOWEL O;MARK SAKIN"⟩,
   ⟨0x10d23, "HANIFI ROHINGYA ", "MARK NA KHONNA;SIGN HARBAHAY;SIGN TAHALA;SIGN TANA;SIGN TASSI"⟩,
   ⟨0x10d30, "HANIFI ROHINGYA DIGIT ", "ZERO;ONE;TWO;THREE;FOUR;FIVE;SIX;SEVEN;EIGHT;NINE"⟩]

/-- The names in the block Rumi Numeral Symbols. -/
def rumiNumeralSymbols : List NameRun :=
  [⟨0x10e60, "RUMI DIGIT ", "ONE;TWO;THREE;FOUR;FIVE;SIX;SEVEN;EIGHT;NINE"⟩,
   ⟨0x10e69, "RUMI NUMBER ", "TEN;TWENTY;THIRTY;FORTY;FIFTY;SIXTY;SEVENTY"⟩,
   ⟨0x10e70, "RUMI NUMBER ", "EIGHTY;NINETY;ONE HUNDRED;TWO HUNDRED;THREE HUNDRED;FOUR HUNDRED"⟩,
   ⟨0x10e76, "RUMI NUMBER ", "FIVE HUNDRED;SIX HUNDRED;SEVEN HUNDRED;EIGHT HUNDRED;NINE HUNDRED"⟩,
   ⟨0x10e7b, "RUMI FRACTION ", "ONE HALF;ONE QUARTER;ONE THIRD;TWO THIRDS"⟩]

/-- The names in the block Yezidi. -/
def yezidi : List NameRun :=
  [⟨0x10e80, "YEZIDI LETTER ", "ELIF;BE;PE;PHE;THE;SE;CIM;CHIM;CHHIM;HHA;XA;DAL;ZAL;RA;RHA"⟩,
   ⟨0x10e8f, "YEZIDI LETTER ", "ZA;JA;SIN;SHIN;SAD;DAD;TA;ZE;EYN;XHEYN;FA;VA;VA ALTERNATE FORM"⟩,
   ⟨0x10e9c, "YEZIDI LETTER ", "QAF;KAF;KHAF;GAF;LAM;MIM;NUN;UM;WAW;OW;EW;HAY;YOT;ET"⟩,
   ⟨0x10eab, "YEZIDI ", "COMBINING HAMZA MARK;COMBINING MADDA MARK;HYPHENATION MARK"⟩,
   ⟨0x10eb0, "YEZIDI LETTER ", "LAM WITH DOT ABOVE;YOT WITH CIRCUMFLEX ABOVE"⟩]

/-- The names in the block Old Sogdian. -/
def oldSogdian : List NameRun :=
  [⟨0x10f00, "OLD SOGDIAN LETTER ",
     "ALEPH;FINAL ALEPH;BETH;FINAL BETH;GIMEL;HE;FINAL HE;WAW;ZAYIN;HETH;YODH;KAPH;LAMEDH;MEM"⟩,
   ⟨0x10f0e, "OLD SOGDIAN LETTER ",
     "NUN;FINAL NUN;FINAL NUN WITH VERTICAL TAIL;SAMEKH;AYIN;ALTERNATE AYIN;PE;SADHE;FINAL SADHE"⟩,
   ⟨0x10f17, "OLD SOGDIAN LETTER ", "FINAL SADHE WITH VERTICAL TAIL;RESH-AYIN-DALETH;SHIN;TAW"⟩,
   ⟨0x10f1b, "OLD SOGDIAN ", "LETTER FINAL TAW;LETTER FINAL TAW WITH VERTICAL TAIL;NUMBER ONE"⟩,
   ⟨0x10f1e, "OLD SOGDIAN NUMBER ", "TWO;THREE;FOUR;FIVE;TEN;TWENTY;THIRTY"⟩,
   ⟨0x10f25, "OLD SOGDIAN ", "NUMBER ONE HUNDRED;FRACTION ONE HALF;LIGATURE AYIN-DALETH"⟩]

/-- The names in the block Sogdian. -/
def sogdian : List NameRun :=
  [⟨0x10f30, "SOGDIAN LETTER ", "ALEPH;BETH;GIMEL;HE;WAW;ZAYIN;HETH;YODH;KAPH"⟩,
   ⟨0x10f39, "SOGDIAN LETTER ", "LAMEDH;MEM;NUN;SAMEKH;AYIN;PE;SADHE;RESH-AYIN;SHIN;TAW;FETH;LESH"⟩,
   ⟨0x10f45, "SOGDIAN ", "INDEPENDENT SHIN;COMBINING DOT BELOW;COMBINING TWO DOTS BELOW"⟩,
   ⟨0x10f48, "SOGDIAN COMBINING ", "DOT ABOVE;TWO DOTS ABOVE;CURVE ABOVE;CURVE BELOW"⟩,
   ⟨0x10f4c, "SOGDIAN COMBINING ", "HOOK ABOVE;HOOK BELOW;LONG HOOK BELOW;RESH BELOW;STROKE BELOW"⟩,
   ⟨0x10f51, "SOGDIAN NUMBER ", "ONE;TEN;TWENTY;ONE HUNDRED"⟩,
   ⟨0x10f55, "SOGDIAN PUNCTUATION TWO VERTICAL BARS", "; WITH DOTS"⟩,
   ⟨0x10f57, "SOGDIAN PUNCTUATION ", "CIRCLE WITH DOT;TWO CIRCLES WITH DOTS;HALF CIRCLE WITH DOT"⟩]

/-- The names in the block Old Uyghur. -/
def oldUyghur : List NameRun :=
  [⟨0x10f70, "OLD UYGHUR LETTER ", "ALEPH;BETH;GIMEL-HETH;WAW;ZAYIN;FINAL HETH"⟩,
   ⟨0x10f76, "OLD UYGHUR LETTER ", "YODH;KAPH;LAMEDH;MEM;NUN;SAMEKH;PE;SADHE;RESH;SHIN;TAW;LESH"⟩,
   ⟨0x10f82, "OLD UYGHUR COMBINING ", "DOT ABOVE;DOT BELOW;TWO DOTS ABOVE;TWO DOTS BELOW"⟩,
   ⟨0x10f86, "OLD UYGHUR PUNCTUATION ", "BAR;TWO BARS;TWO DOTS;FOUR DOTS"⟩]

/-- The names in the block Chorasmian. -/
def chorasmian : List NameRun :=
  [⟨0x10fb0, "CHORASMIAN LETTER ", "ALEPH;SMALL ALEPH;BETH;GIMEL;DALETH;HE;WAW;CURLED WAW;ZAYIN"⟩,
   ⟨0x10fb9, "CHORASMIAN LETTER ", "HETH;YODH;KAPH;LAMEDH;MEM;NUN;SAMEKH;AYIN;PE;RESH;SHIN;TAW"⟩,
   ⟨0x10fc5, "CHORASMIAN NUMBER ", "ONE;TWO;THREE;FOUR;TEN;TWENTY;ONE HUNDRED"⟩]

/-- The names in the block Elymaic. -/
def elymaic : List NameRun :=
  [⟨0x10fe0, "ELYMAIC LETTER ", "ALEPH;BETH;GIMEL;DALETH;HE;WAW"⟩,
   ⟨0x10fe6, "ELYMAIC LETTER ", "ZAYIN;HETH;TETH;YODH;KAPH;LAMEDH;MEM;NUN;SAMEKH;AYIN;PE;SADHE"⟩,
   ⟨0x10ff2, "ELYMAIC L", "ETTER QOPH;ETTER RESH;ETTER SHIN;ETTER TAW;IGATURE ZAYIN-YODH"⟩]

/-- All names of this module. -/
def ancient : List NameRun :=
  List.flatten
    [linearBSyllabary, linearBIdeograms, aegeanNumbers, ancientGreekNumbers, ancientSymbols,
     phaistosDisc, lycian, carian, copticEpactNumbers, oldItalic, gothic, oldPermic, ugaritic,
     oldPersian, deseret, shavian, osmanya, osage, elbasan, caucasianAlbanian, vithkuqi, linearA,
     latinExtendedF, cypriotSyllabary, imperialAramaic, palmyrene, nabataean, hatran, phoenician,
     lydian, meroiticHieroglyphs, meroiticCursive, kharoshthi, oldSouthArabian, oldNorthArabian,
     manichaean, avestan, inscriptionalParthian, inscriptionalPahlavi, psalterPahlavi, oldTurkic,
     oldHungarian, hanifiRohingya, rumiNumeralSymbols, yezidi, oldSogdian, sogdian, oldUyghur,
     chorasmian, elymaic]

end Names
end Unicode
end LiquidMarkdown
