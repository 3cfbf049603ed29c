import LiquidMarkdown.Unicode.NameRun

/-!
# Names of characters: the scripts of the Near East

* `nearEastern` — the names of the Hebrew, Arabic and Syriac letters and those of their
  neighbours.
-/

namespace LiquidMarkdown
namespace Unicode
namespace Names

/-- The names in the block Hebrew. -/
def hebrew : List NameRun :=
  [⟨0x591, "HEBREW ACCENT ", "ETNAHTA;SEGOL;SHALSHELET;ZAQEF QATAN;ZAQEF GADOL;TIPEHA"⟩,
   ⟨0x597, "HEBREW ACCENT ", "REVIA;ZARQA;PASHTA;YETIV;TEVIR;GERESH;GERESH MUQDAM;GERSHAYIM"⟩,
   ⟨0x59f, "HEBREW ACCENT ", "QARNEY PARA;TELISHA GEDOLA;PAZER;ATNAH HAFUKH;MUNAH;MAHAPAKH;MERKHA"⟩,
   ⟨0x5a6, "HEBREW ACCENT ", "MERKHA KEFULA;DARGA;QADMA;TELISHA QETANA;YERAH BEN YOMO;OLE;ILUY"⟩,
   ⟨0x5ad, "HEBREW ", "ACCENT DEHI;ACCENT ZINOR;MARK MASORA CIRCLE;POINT SHEVA;POINT HATAF SEGOL"⟩,
   ⟨0x5b2, "HEBREW POINT ",
     "HATAF PATAH;HATAF QAMATS;HIRIQ;TSERE;SEGOL;PATAH;QAMATS;HOLAM;HOLAM HASER FOR VAV"⟩,
   ⟨0x5bb, "HEBREW P", "OINT QUBUTS;OINT DAGESH OR MAPIQ;OINT METEG;UNCTUATION MAQAF;OINT RAFE"⟩,
   ⟨0x5c0, "HEBREW P", "UNCTUATION PASEQ;OINT SHIN DOT;OINT SIN DOT;UNCTUATION SOF PASUQ"⟩,
   ⟨0x5c4, "HEBREW ", "MARK UPPER DOT;MARK LOWER DOT;PUNCTUATION NUN HAFUKHA;POINT QAMATS QATAN"⟩,
   ⟨0x5d0, "HEBREW LETTER ",
     "ALEF;BET;GIMEL;DALET;HE;VAV;ZAYIN;HET;TET;YOD;FINAL KAF;KAF;LAMED;FINAL MEM;MEM;FINAL NUN"⟩,
   ⟨0x5e0, "HEBREW LETTER ", "NUN;SAMEKH;AYIN;FINAL PE;PE;FINAL TSADI;TSADI;QOF;RESH;SHIN;TAV"⟩,
   ⟨0x5ef, "HEBREW ", "YOD TRIANGLE;LIGATURE YIDDISH DOUBLE VAV;LIGATURE YIDDISH VAV YOD"⟩,
   ⟨0x5f2, "HEBREW ", "LIGATURE YIDDISH DOUBLE YOD;PUNCTUATION GERESH;PUNCTUATION GERSHAYIM"⟩]

/-- The names in the block Arabic. -/
def arabic : List NameRun :=
  [⟨0x600, "ARABIC ", "NUMBER SIGN;SIGN SANAH;FOOTNOTE MARKER;SIGN SAFHA"⟩,
   ⟨0x604, "ARABIC", " SIGN SAMVAT; NUMBER MARK ABOVE;-INDIC CUBE ROOT;-INDIC FOURTH ROOT; RAY"⟩,
   ⟨0x609, "A", "RABIC-INDIC PER MILLE SIGN;RABIC-INDIC PER TEN THOUSAND SIGN;FGHANI SIGN"⟩,
   ⟨0x60c, "ARABIC ", "COMMA;DATE SEPARATOR;POETIC VERSE SIGN;SIGN MISRA"⟩,
   ⟨0x610, "ARABIC SIGN ",
     "SALLALLAHOU ALAYHE WASSALLAM;ALAYHE ASSALLAM;RAHMATULLAH ALAYHE;RADI ALLAHOU ANHU;TAKHALLUS"⟩,
   ⟨0x615, "ARABIC SMALL ", "HIGH TAH;HIGH LIGATURE ALEF WITH LAM WITH YEH;HIGH ZAIN;FATHA"⟩,
   ⟨0x619, "ARABIC ", "SMALL DAMMA;SMALL KASRA;SEMICOLON;LETTER MARK;END OF TEXT MARK"⟩,
   ⟨0x61e, "ARABIC ", "TRIPLE DOT PUNCTUATION MARK;QUESTION MARK;LETTER KASHMIRI YEH;LETTER HAMZA"⟩,
   ⟨0x622, "ARABIC LETTER ", "ALEF WITH MADDA ABOVE;ALEF WITH HAMZA ABOVE;WAW WITH HAMZA ABOVE"⟩,
   ⟨0x625, "ARABIC LETTER ", "ALEF WITH HAMZA BELOW;YEH WITH HAMZA ABOVE;ALEF;BEH;TEH MARBUTA"⟩,
   ⟨0x62a, "ARABIC LETTER ", "TEH;THEH;JEEM;HAH;KHAH;DAL;THAL;REH;ZAIN;SEEN;SHEEN;SAD;DAD;TAH"⟩,
   ⟨0x638, "ARABIC LETTER ", "ZAH;AIN;GHAIN;KEHEH WITH TWO DOTS ABOVE;KEHEH WITH THREE DOTS BELOW"⟩,
   ⟨0x63d, "ARABIC LETTER FARSI YEH WITH ", "INVERTED V;TWO DOTS ABOVE;THREE DOTS ABOVE"⟩,
   ⟨0x640, "ARABIC ", "TATWEEL;LETTER FEH;LETTER QAF;LETTER KAF;LETTER LAM;LETTER MEEM"⟩,
   ⟨0x646, "ARABIC ", "LETTER NOON;LETTER HEH;LETTER WAW;LETTER ALEF MAKSURA;LETTER YEH;FATHATAN"⟩,
   ⟨0x64c, "ARABIC ", "DAMMATAN;KASRATAN;FATHA;DAMMA;KASRA;SHADDA;SUKUN;MADDAH ABOVE"⟩,
   ⟨0x654, "ARABIC ", "HAMZA ABOVE;HAMZA BELOW;SUBSCRIPT ALEF;INVERTED DAMMA;MARK NOON GHUNNA"⟩,
   ⟨0x659, "ARABIC ", "ZWARAKAY;VOWEL SIGN SMALL V ABOVE;VOWEL SIGN INVERTED SMALL V ABOVE"⟩,
   ⟨0x65c, "ARABIC ", "VOWEL SIGN DOT BELOW;REVERSED DAMMA;FATHA WITH TWO DOTS;WAVY HAMZA BELOW"⟩,
   ⟨0x660, "ARABIC-INDIC DIGIT ", "ZERO;ONE;TWO;THREE;FOUR;FIVE;SIX;SEVEN;EIGHT;NINE"⟩,
   ⟨0x66a, "ARABIC ", "PERCENT SIGN;DECIMAL SEPARATOR;THOUSANDS SEPARATOR;FIVE POINTED STAR"⟩,
   ⟨0x66e, "ARABIC LETTER ", "DOTLESS BEH;DOTLESS QAF;SUPERSCRIPT ALEF;ALEF WASLA"⟩,
   ⟨0x672, "ARABIC LETTER ", "ALEF WITH WAVY HAMZA ABOVE;ALEF WITH WAVY HAMZA BELOW;HIGH HAMZA"⟩,
   ⟨0x675, "ARABIC LETTER ", "HIGH HAMZA ALEF;HIGH HAMZA WAW;U WITH HAMZA ABOVE;HIGH HAMZA YEH"⟩,
   ⟨0x679, "ARABIC LETTER ", "TTEH;TTEHEH;BEEH;TEH WITH RING;TEH WITH THREE DOTS ABOVE DOWNWARDS"⟩,
   ⟨0x67e, "ARABIC LETTER ",
     "PEH;TEHEH;BEHEH;HAH WITH HAMZA ABOVE;HAH WITH TWO DOTS VERTICAL ABOVE;NYEH"⟩,
   ⟨0x684, "ARABIC LETTER ", "DYEH;HAH WITH THREE DOTS ABOVE;TCHEH;TCHEHEH;DDAL;DAL WITH RING"⟩,
   ⟨0x68a, "ARABIC LETTER D", "AL WITH DOT BELOW;AL WITH DOT BELOW AND SMALL TAH;AHAL;DAHAL;UL"⟩,
   ⟨0x68f, "ARABIC LETTER ", "DAL WITH THREE DOTS ABOVE DOWNWARDS;DAL WITH FOUR DOTS ABOVE;RREH"⟩,
   ⟨0x692, "ARABIC LETTER REH WITH ",
     "SMALL V;RING;DOT BELOW;SMALL V BELOW;DOT BELOW AND DOT ABOVE;TWO DOTS ABOVE"⟩,
   ⟨0x698, "ARABIC LETTER ", "JEH;REH WITH FOUR DOTS ABOVE;SEEN WITH DOT BELOW AND DOT ABOVE"⟩,
   ⟨0x69b, "ARABIC LETTER SEEN WITH THREE DOTS BELOW", "; AND THREE DOTS ABOVE"⟩,
   ⟨0x69d, "ARABIC LETTER SAD WITH T", "WO DOTS BELOW;HREE DOTS ABOVE"⟩,
   ⟨0x69f, "ARABIC LETTER ", "TAH WITH THREE DOTS ABOVE;AIN WITH THREE DOTS ABOVE"⟩,
   ⟨0x6a1, "ARABIC LETTER ", "DOTLESS FEH;FEH WITH DOT MOVED BELOW;FEH WITH DOT BELOW"⟩,
   ⟨0x6a4, "ARABIC LETTER ", "VEH;FEH WITH THREE DOTS BELOW;PEHEH;QAF WITH DOT ABOVE"⟩,
   ⟨0x6a8, "ARABIC LETTER ", "QAF WITH THREE DOTS ABOVE;KEHEH;SWASH KAF;KAF WITH RING"⟩,
   ⟨0x6ac, "ARABIC LETTER ", "KAF WITH DOT ABOVE;NG;KAF WITH THREE DOTS BELOW;GAF;GAF WITH RING"⟩,
   ⟨0x6b1, "ARABIC LETTER ", "NGOEH;GAF WITH TWO DOTS BELOW;GUEH;GAF WITH THREE DOTS ABOVE"⟩,
   ⟨0x6b5, "ARABIC LETTER LAM WITH ", "SMALL V;DOT ABOVE;THREE DOTS ABOVE"⟩,
   ⟨0x6b8, "ARABIC LETTER ", "LAM WITH THREE DOTS BELOW;NOON WITH DOT BELOW;NOON GHUNNA"⟩,
   ⟨0x6bb, "ARABIC LETTER ", "RNOON;NOON WITH RING;NOON WITH THREE DOTS ABOVE;HEH DOACHASHMEE"⟩,
   ⟨0x6bf, "ARABIC LETTER ",
     "TCHEH WITH DOT ABOVE;HEH WITH YEH ABOVE;HEH GOAL;HEH GOAL WITH HAMZA ABOVE;TEH MARBUTA GOAL"⟩,
   ⟨0x6c4, "ARABIC LETTER ", "WAW WITH RING;KIRGHIZ OE;OE;U;YU;KIRGHIZ YU;WAW WITH TWO DOTS ABOVE"⟩,
   ⟨0x6cb, "ARABIC LETTER ", "VE;FARSI YEH;YEH WITH TAIL;YEH WITH SMALL V;WAW WITH DOT ABOVE"⟩,
   ⟨0x6d0, "ARABIC LETTER ", "E;YEH WITH THREE DOTS BELOW;YEH BARREE;YEH BARREE WITH HAMZA ABOVE"⟩,
   ⟨0x6d4, "ARABIC ", "FULL STOP;LETTER AE;SMALL HIGH LIGATURE SAD WITH LAM WITH ALEF MAKSURA"⟩,
   ⟨0x6d7, "ARABIC SMALL HIGH ",
     "LIGATURE QAF WITH LAM WITH ALEF MAKSURA;MEEM INITIAL FORM;LAM ALEF;JEEM"⟩,
   ⟨0x6db, "ARABIC ", "SMALL HIGH THREE DOTS;SMALL HIGH SEEN;END OF AYAH;START OF RUB EL HIZB"⟩,
   ⟨0x6df, "ARABIC SMALL HIGH ", "ROUNDED ZERO;UPRIGHT RECTANGULAR ZERO;DOTLESS HEAD OF KHAH"⟩,
   ⟨0x6e2, "ARABIC SMALL ", "HIGH MEEM ISOLATED FORM;LOW SEEN;HIGH MADDA;WAW;YEH"⟩,
   ⟨0x6e7, "ARABIC ", "SMALL HIGH YEH;SMALL HIGH NOON;PLACE OF SAJDAH;EMPTY CENTRE LOW STOP"⟩,
   ⟨0x6eb, "ARABIC ", "EMPTY CENTRE HIGH STOP;ROUNDED HIGH STOP WITH FILLED CENTRE"⟩,
   ⟨0x6ed, "ARABIC ", "SMALL LOW MEEM;LETTER DAL WITH INVERTED V;LETTER REH WITH INVERTED V"⟩,
   ⟨0x6f0, "EXTENDED ARABIC-INDIC DIGIT ", "ZERO;ONE;TWO;THREE;FOUR;FIVE;SIX;SEVEN;EIGHT;NINE"⟩,
   ⟨0x6fa, "ARABIC LETTER ", "SHEEN WITH DOT BELOW;DAD WITH DOT BELOW;GHAIN WITH DOT BELOW"⟩,
   ⟨0x6fd, "ARABIC ",
     "SIGN SINDHI AMPERSAND;SIGN SINDHI POSTPOSITION MEN;LETTER HEH WITH INVERTED V"⟩]

/-- The names in the block Syriac. -/
def syriac : List NameRun :=
  [⟨0x700, "SYRIAC ", "END OF PARAGRAPH;SUPRALINEAR FULL STOP;SUBLINEAR FULL STOP"⟩,
   ⟨0x703, "SYRIAC ", "SUPRALINEAR COLON;SUBLINEAR COLON;HORIZONTAL COLON;COLON SKEWED LEFT"⟩,
   ⟨0x707, "SYRIAC ",
     "COLON SKEWED RIGHT;SUPRALINEAR COLON SKEWED LEFT;SUBLINEAR COLON SKEWED RIGHT"⟩,
   ⟨0x70a, "SYRIAC ", "CONTRACTION;HARKLEAN OBELUS;HARKLEAN METOBELUS;HARKLEAN ASTERISCUS"⟩,
   ⟨0x70f, "SYRIAC ", "ABBREVIATION MARK;LETTER ALAPH;LETTER SUPERSCRIPT ALAPH"⟩,
   ⟨0x712, "SYRIAC LETTER ", "BETH;GAMAL;GAMAL GARSHUNI;DALATH;DOTLESS DALATH RISH;HE;WAW;ZAIN"⟩,
   ⟨0x71a, "SYRIAC LETTER ", "HETH;TETH;TETH GARSHUNI;YUDH;YUDH HE;KAPH;LAMADH;MIM;NUN;SEMKATH"⟩,
   ⟨0x724, "SYRIAC LETTER ",
     "FINAL SEMKATH;E;PE;REVERSED PE;SADHE;QAPH;RISH;SHIN;TAW;PERSIAN BHETH;PERSIAN GHAMAL"⟩,
   ⟨0x72f, "SYRIAC ", "LETTER PERSIAN DHALATH;PTHAHA ABOVE;PTHAHA BELOW;PTHAHA DOTTED"⟩,
   ⟨0x733, "SYRIAC ", "ZQAPHA ABOVE;ZQAPHA BELOW;ZQAPHA DOTTED;RBASA ABOVE;RBASA BELOW"⟩,
   ⟨0x738, "SYRIAC ", "DOTTED ZLAMA HORIZONTAL;DOTTED ZLAMA ANGULAR;HBASA ABOVE;HBASA BELOW"⟩,
   ⟨0x73c, "SYRIAC ", "HBASA-ESASA DOTTED;ESASA ABOVE;ESASA BELOW;RWAHA;FEMININE DOT;QUSHSHAYA"⟩,
   ⟨0x742, "SYRIAC ", "RUKKAKHA;TWO VERTICAL DOTS ABOVE;TWO VERTICAL DOTS BELOW;THREE DOTS ABOVE"⟩,
   ⟨0x746, "SYRIAC ", "THREE DOTS BELOW;OBLIQUE LINE ABOVE;OBLIQUE LINE BELOW;MUSIC;BARREKH"⟩,
   ⟨0x74d, "SYRIAC LETTER SOGDIAN ", "ZHAIN;KHAPH;FE"⟩]

/-- The names in the block Arabic Supplement. -/
def arabicSupplement : List NameRun :=
  [⟨0x750, "ARABIC LETTER BEH WITH ",
     "THREE DOTS HORIZONTALLY BELOW;DOT BELOW AND THREE DOTS ABOVE"⟩,
   ⟨0x752, "ARABIC LETTER BEH WITH THREE DOTS POINTING UPWARDS BELOW", "; AND TWO DOTS ABOVE"⟩,
   ⟨0x754, "ARABIC LETTER BEH WITH ", "TWO DOTS BELOW AND DOT ABOVE;INVERTED SMALL V BELOW"⟩,
   ⟨0x756, "ARABIC LETTER ", "BEH WITH SMALL V;HAH WITH TWO DOTS ABOVE"⟩,
   ⟨0x758, "ARABIC LETTER ",
     "HAH WITH THREE DOTS POINTING UPWARDS BELOW;DAL WITH TWO DOTS VERTICALLY BELOW AND SMALL TAH"⟩,
   ⟨0x75a, "ARABIC LETTER ",
     "DAL WITH INVERTED SMALL V BELOW;REH WITH STROKE;SEEN WITH FOUR DOTS ABOVE"⟩,
   ⟨0x75d, "ARABIC LETTER AIN WITH T", "WO DOTS ABOVE;HREE DOTS POINTING DOWNWARDS ABOVE"⟩,
   ⟨0x75f, "ARABIC LETTER ", "AIN WITH TWO DOTS VERTICALLY ABOVE;FEH WITH TWO DOTS BELOW"⟩,
   ⟨0x761, "ARABIC LETTER ",
     "FEH WITH THREE DOTS POINTING UPWARDS BELOW;KEHEH WITH DOT ABOVE;KEHEH WITH THREE DOTS ABOVE"⟩,
   ⟨0x764, "ARABIC LETTER ", "KEHEH WITH THREE DOTS POINTING UPWARDS BELOW;MEEM WITH DOT ABOVE"⟩,
   ⟨0x766, "ARABIC LETTER ", "MEEM WITH DOT BELOW;NOON WITH TWO DOTS BELOW;NOON WITH SMALL TAH"⟩,
   ⟨0x769, "ARABIC LETTER ", "NOON WITH SMALL V;LAM WITH BAR;REH WITH TWO DOTS VERTICALLY ABOVE"⟩,
   ⟨0x76c, "ARABIC LETTER ", "REH WITH HAMZA ABOVE;SEEN WITH TWO DOTS VERTICALLY ABOVE"⟩,
   ⟨0x76e, "ARABIC LETTER HAH WITH SMALL ARABIC LETTER TAH ", "BELOW;AND TWO DOTS"⟩,
   ⟨0x770, "ARABIC LETTER SEEN WITH SMALL ARABIC LETTER TAH AND TWO DOTS", ""⟩,
   ⟨0x771, "ARABIC LETTER ",
     "REH WITH SMALL ARABIC LETTER TAH AND TWO DOTS;HAH WITH SMALL ARABIC LETTER TAH ABOVE"⟩,
   ⟨0x773, "ARABIC LETTER ALEF WITH EXTENDED ARABIC-INDIC DIGIT T", "WO ABOVE;HREE ABOVE"⟩,
   ⟨0x775, "ARABIC LETTER FARSI YEH WITH EXTENDED ARABIC-INDIC DIGIT ",
     "TWO ABOVE;THREE ABOVE;FOUR BELOW"⟩,
   ⟨0x778, "ARABIC LETTER WAW WITH EXTENDED ARABIC-INDIC DIGIT T", "WO ABOVE;HREE ABOVE"⟩,
   ⟨0x77a, "ARABIC LETTER YEH BARREE WITH EXTENDED ARABIC-INDIC DIGIT T", "WO ABOVE;HREE ABOVE"⟩,
   ⟨0x77c, "ARABIC LETTER HAH WITH EXTENDED ARABIC-INDIC DIGIT FOUR BELOW", ""⟩,
   ⟨0x77d, "ARABIC LETTER SEEN WITH ", "EXTENDED ARABIC-INDIC DIGIT FOUR ABOVE;INVERTED V"⟩,
   ⟨0x77f, "ARABIC LETTER KAF WITH TWO DOTS ABOVE", ""⟩]

/-- The names in the block Thaana. -/
def thaana : List NameRun :=
  [⟨0x780, "THAANA LETTER ", "HAA;SHAVIYANI;NOONU;RAA;BAA;LHAVIYANI"⟩,
   ⟨0x786, "THAANA LETTER ", "KAAFU;ALIFU;VAAVU;MEEMU;FAAFU;DHAALU;THAA;LAAMU;GAAFU;GNAVIYANI"⟩,
   ⟨0x790, "THAANA LETTER ", "SEENU;DAVIYANI;ZAVIYANI;TAVIYANI;YAA;PAVIYANI;JAVIYANI;CHAVIYANI"⟩,
   ⟨0x798, "THAANA LETTER ", "TTAA;HHAA;KHAA;THAALU;ZAA;SHEENU;SAADHU;DAADHU;TO;ZO;AINU;GHAINU"⟩,
   ⟨0x7a4, "THAANA ", "LETTER QAAFU;LETTER WAAVU;ABAFILI;AABAAFILI;IBIFILI;EEBEEFILI"⟩,
   ⟨0x7aa, "THAANA ", "UBUFILI;OOBOOFILI;EBEFILI;EYBEYFILI;OBOFILI;OABOAFILI;SUKUN;LETTER NAA"⟩]

/-- The names in the block NKo. -/
def nko : List NameRun :=
  [⟨0x7c0, "NKO DIGIT ", "ZERO;ONE;TWO;THREE;FOUR;FIVE;SIX;SEVEN;EIGHT;NINE"⟩,
   ⟨0x7ca, "NKO LETTER ", "A;EE;I;E;U;OO;O;DAGBASINNA;N;BA;PA;TA;JA;CHA;DA;RA;RRA;SA;GBA;FA"⟩,
   ⟨0x7de, "NKO LETTER ", "KA;LA;NA WOLOSO;MA;NYA;NA;HA;WA;YA;NYA WOLOSO;JONA JA;JONA CHA;JONA RA"⟩,
   ⟨0x7eb, "NKO COMBINING ",
     "SHORT HIGH TONE;SHORT LOW TONE;SHORT RISING TONE;LONG DESCENDING TONE"⟩,
   ⟨0x7ef, "NKO COMBINING ", "LONG HIGH TONE;LONG LOW TONE;LONG RISING TONE;NASALIZATION MARK"⟩,
   ⟨0x7f3, "NKO ", "COMBINING DOUBLE DOT ABOVE;HIGH TONE APOSTROPHE;LOW TONE APOSTROPHE"⟩,
   ⟨0x7f6, "NKO ", "SYMBOL OO DENNEN;SYMBOL GBAKURUNEN;COMMA;EXCLAMATION MARK;LAJANYALAN"⟩,
   ⟨0x7fd, "NKO ", "DANTAYALAN;DOROME SIGN;TAMAN SIGN"⟩]

/-- The names in the block Samaritan. -/
def samaritan : List NameRun :=
  [⟨0x800, "SAMARITAN LETTER ",
     "ALAF;BIT;GAMAN;DALAT;IY;BAA;ZEN;IT;TIT;YUT;KAAF;LABAT;MIM;NUN;SINGAAT;IN;FI;TSAADIY;QUF"⟩,
   ⟨0x813, "SAMARITAN ", "LETTER RISH;LETTER SHAN;LETTER TAAF;MARK IN;MARK IN-ALAF;MARK OCCLUSION"⟩,
   ⟨0x819, "SAMARITAN M", "ARK DAGESH;ODIFIER LETTER EPENTHETIC YUT;ARK EPENTHETIC YUT"⟩,
   ⟨0x81c, "SAMARITAN VOWEL SIGN ", "LONG E;E;OVERLONG AA;LONG AA;AA;OVERLONG A;LONG A"⟩,
   ⟨0x823, "SAMARITAN ", "VOWEL SIGN A;MODIFIER LETTER SHORT A;VOWEL SIGN SHORT A"⟩,
   ⟨0x826, "SAMARITAN ", "VOWEL SIGN LONG U;VOWEL SIGN U;MODIFIER LETTER I;VOWEL SIGN LONG I"⟩,
   ⟨0x82a, "SAMARITAN ", "VOWEL SIGN I;VOWEL SIGN O;VOWEL SIGN SUKUN;MARK NEQUDAA"⟩,
   ⟨0x830, "SAMARITAN PUNCTUATION ", "NEQUDAA;AFSAAQ;ANGED;BAU;ATMAAU"⟩,
   ⟨0x835, "SAMARITAN ", "PUNCTUATION SHIYYAALAA;ABBREVIATION MARK;PUNCTUATION MELODIC QITSA"⟩,
   ⟨0x838, "SAMARITAN PUNCTUATION ", "ZIQAA;QITSA;ZAEF;TURU;ARKAANU;SOF MASHFAAT;ANNAAU"⟩]

/-- The names in the block Mandaic. -/
def mandaic : List NameRun :=
  [⟨0x840, "MANDAIC LETTER ",
     "HALQA;AB;AG;AD;AH;USHENNA;AZ;IT;ATT;AKSA;AK;AL;AM;AN;AS;IN;AP;ASZ;AQ;AR;ASH;AT;DUSHENNA"⟩,
   ⟨0x857, "MANDAIC ", "LETTER KAD;LETTER AIN;AFFRICATION MARK;VOCALIZATION MARK;GEMINATION MARK"⟩,
   ⟨0x85e, "MANDAIC PUNCTUATION", ""⟩]

/-- The names in the block Syriac Supplement. -/
def syriacSupplement : List NameRun :=
  [⟨0x860, "SYRIAC LETTER MALAYALAM ", "NGA;JA;NYA;TTA;NNA;NNNA;BHA;RA;LLA;LLLA;SSA"⟩]

/-- The names in the block Arabic Extended-B. -/
def arabicExtendedB : List NameRun :=
  [⟨0x870, "ARABIC LETTER ALEF WITH ",
     "ATTACHED FATHA;ATTACHED TOP RIGHT FATHA;RIGHT MIDDLE STROKE;LEFT MIDDLE STROKE"⟩,
   ⟨0x874, "ARABIC LETTER ALEF WITH ATTACHED ",
     "KASRA;BOTTOM RIGHT KASRA;ROUND DOT ABOVE;RIGHT ROUND DOT;LEFT ROUND DOT;ROUND DOT BELOW"⟩,
   ⟨0x87a, "ARABIC LETTER ALEF WITH ", "DOT ABOVE;ATTACHED TOP RIGHT FATHA AND DOT ABOVE"⟩,
   ⟨0x87c, "ARABIC LETTER ALEF WITH ",
     "RIGHT MIDDLE STROKE AND DOT ABOVE;ATTACHED BOTTOM RIGHT KASRA AND DOT ABOVE"⟩,
   ⟨0x87e, "ARABIC LETTER ALEF WITH ",
     "ATTACHED TOP RIGHT FATHA AND LEFT RING;RIGHT MIDDLE STROKE AND LEFT RING"⟩,
   ⟨0x880, "ARABIC LETTER ALEF WITH ATTACHED ", "BOTTOM RIGHT KASRA AND LEFT RING;RIGHT HAMZA"⟩,
   ⟨0x882, "ARABIC ", "LETTER ALEF WITH ATTACHED LEFT HAMZA;TATWEEL WITH OVERSTRUCK HAMZA"⟩,
   ⟨0x884, "ARABIC ", "TATWEEL WITH OVERSTRUCK WAW;TATWEEL WITH TWO DOTS BELOW;LETTER THIN YEH"⟩,
   ⟨0x887, "ARABIC ", "BASELINE ROUND DOT;RAISED ROUND DOT;LETTER NOON WITH INVERTED SMALL V"⟩,
   ⟨0x88a, "ARABIC LETTER ", "HAH WITH INVERTED SMALL V BELOW;TAH WITH DOT BELOW"⟩,
   ⟨0x88c, "ARABIC ",
     "LETTER TAH WITH THREE DOTS BELOW;LETTER KEHEH WITH TWO DOTS VERTICALLY BELOW;VERTICAL TAIL"⟩,
   ⟨0x890, "ARABIC P", "OUND MARK ABOVE;IASTRE MARK ABOVE"⟩,
   ⟨0x898, "ARABIC SMALL ", "HIGH WORD AL-JUZ;LOW WORD ISHMAAM;LOW WORD IMAALA;LOW WORD TASHEEL"⟩,
   ⟨0x89c, "ARABIC ",
     "MADDA WAAJIB;SUPERSCRIPT ALEF MOKHASSAS;DOUBLED MADDA;HALF MADDA OVER MADDA"⟩]

/-- The names in the block Arabic Extended-A. -/
def arabicExtendedA : List NameRun :=
  [⟨0x8a0, "ARABIC LETTER ",
     "BEH WITH SMALL V BELOW;BEH WITH HAMZA ABOVE;JEEM WITH TWO DOTS ABOVE"⟩,
   ⟨0x8a3, "ARABIC LETTER ", "TAH WITH TWO DOTS ABOVE;FEH WITH DOT BELOW AND THREE DOTS ABOVE"⟩,
   ⟨0x8a5, "ARABIC LETTER ", "QAF WITH DOT BELOW;LAM WITH DOUBLE BAR;MEEM WITH THREE DOTS ABOVE"⟩,
   ⟨0x8a8, "ARABIC LETTER ",
     "YEH WITH TWO DOTS BELOW AND HAMZA ABOVE;YEH WITH TWO DOTS BELOW AND DOT ABOVE;REH WITH LOOP"⟩,
   ⟨0x8ab, "ARABIC LETTER ", "WAW WITH DOT WITHIN;ROHINGYA YEH;LOW ALEF;DAL WITH THREE DOTS BELOW"⟩,
   ⟨0x8af, "ARABIC LETTER ", "SAD WITH THREE DOTS BELOW;GAF WITH INVERTED STROKE"⟩,
   ⟨0x8b1, "ARABIC LETTER ", "STRAIGHT WAW;ZAIN WITH INVERTED V ABOVE;AIN WITH THREE DOTS BELOW"⟩,
   ⟨0x8b4, "ARABIC LETTER ", "KAF WITH DOT BELOW;QAF WITH DOT BELOW AND NO DOTS ABOVE"⟩,
   ⟨0x8b6, "ARABIC LETTER ", "BEH WITH SMALL MEEM ABOVE;PEH WITH SMALL MEEM ABOVE"⟩,
   ⟨0x8b8, "ARABIC LETTER ", "TEH WITH SMALL TEH ABOVE;REH WITH SMALL NOON ABOVE"⟩,
   ⟨0x8ba, "ARABIC LETTER ", "YEH WITH TWO DOTS BELOW AND SMALL NOON ABOVE;AFRICAN FEH"⟩,
   ⟨0x8bc, "ARABIC LETTER ", "AFRICAN QAF;AFRICAN NOON;PEH WITH SMALL V;TEH WITH SMALL V"⟩,
   ⟨0x8c0, "ARABIC LETTER ", "TTEH WITH SMALL V;TCHEH WITH SMALL V;KEHEH WITH SMALL V"⟩,
   ⟨0x8c3, "ARABIC LETTER ", "GHAIN WITH THREE DOTS ABOVE;AFRICAN QAF WITH THREE DOTS ABOVE"⟩,
   ⟨0x8c5, "ARABIC LETTER JEEM WITH THREE DOTS ", "ABOVE;BELOW"⟩,
   ⟨0x8c7, "ARABIC ", "LETTER LAM WITH SMALL ARABIC LETTER TAH ABOVE;LETTER GRAF;SMALL FARSI YEH"⟩,
   ⟨0x8ca, "ARABIC SMALL HIGH ", "FARSI YEH;YEH BARREE WITH TWO DOTS BELOW;WORD SAH;ZAH"⟩,
   ⟨0x8ce, "ARABIC ", "LARGE ROUND DOT ABOVE;LARGE ROUND DOT BELOW;SUKUN BELOW;LARGE CIRCLE BELOW"⟩,
   ⟨0x8d2, "ARABIC ", "LARGE ROUND DOT INSIDE CIRCLE BELOW;SMALL LOW WAW;SMALL HIGH WORD AR-RUB"⟩,
   ⟨0x8d5, "ARABIC SMALL ", "HIGH SAD;HIGH AIN;HIGH QAF;HIGH NOON WITH KASRA;LOW NOON WITH KASRA"⟩,
   ⟨0x8da, "ARABIC SMALL HIGH WORD ", "ATH-THALATHA;AS-SAJDA;AN-NISF;SAKTA;QIF;WAQFA"⟩,
   ⟨0x8e0, "ARABIC ", "SMALL HIGH FOOTNOTE MARKER;SMALL HIGH SIGN SAFHA;DISPUTED END OF AYAH"⟩,
   ⟨0x8e3, "ARABIC ", "TURNED DAMMA BELOW;CURLY FATHA;CURLY DAMMA;CURLY KASRA"⟩,
   ⟨0x8e7, "ARABIC ", "CURLY FATHATAN;CURLY DAMMATAN;CURLY KASRATAN;TONE ONE DOT ABOVE"⟩,
   ⟨0x8eb, "ARABIC TONE ", "TWO DOTS ABOVE;LOOP ABOVE;ONE DOT BELOW;TWO DOTS BELOW;LOOP BELOW"⟩,
   ⟨0x8f0, "ARABIC ", "OPEN FATHATAN;OPEN DAMMATAN;OPEN KASRATAN;SMALL HIGH WAW;FATHA WITH RING"⟩,
   ⟨0x8f5, "ARABIC ", "FATHA WITH DOT ABOVE;KASRA WITH DOT BELOW;LEFT ARROWHEAD ABOVE"⟩,
   ⟨0x8f8, "ARABIC ", "RIGHT ARROWHEAD ABOVE;LEFT ARROWHEAD BELOW;RIGHT ARROWHEAD BELOW"⟩,
   ⟨0x8fb, "ARABIC DOUBLE RIGHT ARROWHEAD ABOVE", "; WITH DOT"⟩,
   ⟨0x8fd, "ARABIC ", "RIGHT ARROWHEAD ABOVE WITH DOT;DAMMA WITH DOT;MARK SIDEWAYS NOON GHUNNA"⟩]

/-- All names of this module. -/
def nearEastern : List NameRun :=
  List.flatten
    [hebrew, arabic, syriac, arabicSupplement, thaana, nko, samaritan, mandaic, syriacSupplement,
     arabicExtendedB, arabicExtendedA]

end Names
end Unicode
end LiquidMarkdown
