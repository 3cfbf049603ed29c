import LiquidMarkdown.Unicode.NameRun

/-!
# Names of characters: further scripts of India

* `brahmic` — the names of Brahmi and the scripts that came from it.
-/

namespace LiquidMarkdown
namespace Unicode
namespace Names

/-- The names in the block Brahmi. -/
def brahmi : List NameRun :=
  [⟨0x11000, "BRAHMI SIGN ", "CANDRABINDU;ANUSVARA;VISARGA;JIHVAMULIYA;UPADHMANIYA"⟩,
   ⟨0x11005, "BRAHMI LETTER ", "A;AA;I;II;U;UU;VOCALIC R;VOCALIC RR;VOCALIC L;VOCALIC LL;E;AI"⟩,
   ⟨0x11011, "BRAHMI LETTER ", "O;AU;KA;KHA;GA;GHA;NGA;CA;CHA;JA;JHA;NYA;TTA;TTHA;DDA;DDHA;NNA;TA"⟩,
   ⟨0x11023, "BRAHMI LETTER ",
     "THA;DA;DHA;NA;PA;PHA;BA;BHA;MA;YA;RA;LA;VA;SHA;SSA;SA;HA;LLA;OLD TAMIL LLLA;OLD TAMIL RRA"⟩,
   ⟨0x11037, "BRAHMI ", "LETTER OLD TAMIL NNNA;VOWEL SIGN AA;VOWEL SIGN BHATTIPROLU AA"⟩,
   ⟨0x1103a, "BRAHMI VOWEL SIGN ", "I;II;U;UU;VOCALIC R;VOCALIC RR;VOCALIC L;VOCALIC LL;E"⟩,
   ⟨0x11043, "BRAHMI ", "VOWEL SIGN AI;VOWEL SIGN O;VOWEL SIGN AU;VIRAMA;DANDA;DOUBLE DANDA"⟩,
   ⟨0x11049, "BRAHMI PUNCTUATION ", "DOT;DOUBLE DOT;LINE;CRESCENT BAR;LOTUS"⟩,
   ⟨0x11052, "BRAHMI NUMBER ", "ONE;TWO;THREE;FOUR;FIVE;SIX;SEVEN;EIGHT;NINE;TEN;TWENTY;THIRTY"⟩,
   ⟨0x1105e, "BRAHMI NUMBER ", "FORTY;FIFTY;SIXTY;SEVENTY;EIGHTY;NINETY;ONE HUNDRED;ONE THOUSAND"⟩,
   ⟨0x11066, "BRAHMI DIGIT ", "ZERO;ONE;TWO;THREE;FOUR;FIVE;SIX;SEVEN;EIGHT;NINE"⟩,
   ⟨0x11070, "BRAHMI ", "SIGN OLD TAMIL VIRAMA;LETTER OLD TAMIL SHORT E;LETTER OLD TAMIL SHORT O"⟩,
   ⟨0x11073, "BRAHMI ",
     "VOWEL SIGN OLD TAMIL SHORT E;VOWEL SIGN OLD TAMIL SHORT O;LETTER OLD TAMIL LLA"⟩,
   ⟨0x1107f, "BRAHMI NUMBER JOINER", ""⟩]

/-- The names in the block Kaithi. -/
def kaithi : List NameRun :=
  [⟨0x11080, "KAITHI ", "SIGN CANDRABINDU;SIGN ANUSVARA;SIGN VISARGA;LETTER A"⟩,
   ⟨0x11084, "KAITHI LETTER ", "AA;I;II;U;UU;E;AI;O;AU;KA;KHA;GA;GHA;NGA;CA;CHA;JA;JHA;NYA"⟩,
   ⟨0x11097, "KAITHI LETTER ",
     "TTA;TTHA;DDA;DDDHA;DDHA;RHA;NNA;TA;THA;DA;DHA;NA;PA;PHA;BA;BHA;MA;YA;RA;LA;VA;SHA;SSA;SA;HA"⟩,
   ⟨0x110b0, "KAITHI VOWEL SIGN ", "AA;I;II;U;UU;E;AI;O;AU"⟩,
   ⟨0x110b9, "KAITHI ", "SIGN VIRAMA;SIGN NUKTA;ABBREVIATION SIGN;ENUMERATION SIGN;NUMBER SIGN"⟩,
   ⟨0x110be, "KAITHI ", "SECTION MARK;DOUBLE SECTION MARK;DANDA;DOUBLE DANDA;VOWEL SIGN VOCALIC R"⟩,
   ⟨0x110cd, "KAITHI NUMBER SIGN ABOVE", ""⟩]

/-- The names in the block Sora Sompeng. -/
def soraSompeng : List NameRun :=
  [⟨0x110d0, "SORA SOMPENG LETTER ", "SAH;TAH;BAH;CAH;DAH;GAH;MAH;NGAH;LAH"⟩,
   ⟨0x110d9, "SORA SOMPENG LETTER ", "NAH;VAH;PAH;YAH;RAH;HAH;KAH;JAH;NYAH;AH;EEH;IH;UH;OH;EH;MAE"⟩,
   ⟨0x110f0, "SORA SOMPENG DIGIT ", "ZERO;ONE;TWO;THREE;FOUR;FIVE;SIX;SEVEN;EIGHT;NINE"⟩]

/-- The names in the block Chakma. -/
def chakma : List NameRun :=
  [⟨0x11100, "CHAKMA ", "SIGN CANDRABINDU;SIGN ANUSVARA;SIGN VISARGA;LETTER AA"⟩,
   ⟨0x11104, "CHAKMA LETTER ", "I;U;E;KAA;KHAA;GAA;GHAA;NGAA;CAA;CHAA;JAA;JHAA;NYAA;TTAA;TTHAA"⟩,
   ⟨0x11113, "CHAKMA LETTER ",
     "DDAA;DDHAA;NNAA;TAA;THAA;DAA;DHAA;NAA;PAA;PHAA;BAA;BHAA;MAA;YYAA;YAA;RAA;LAA;WAA;SAA;HAA"⟩,
   ⟨0x11127, "CHAKMA VOWEL SIGN ", "A;I;II;U;UU;E;AI"⟩,
   ⟨0x1112e, "CHAKMA ", "VOWEL SIGN O;VOWEL SIGN AU;VOWEL SIGN OI;O MARK;AU MARK;VIRAMA;MAAYYAA"⟩,
   ⟨0x11136, "CHAKMA DIGIT ", "ZERO;ONE;TWO;THREE;FOUR;FIVE;SIX"⟩,
   ⟨0x1113d, "CHAKMA ", "DIGIT SEVEN;DIGIT EIGHT;DIGIT NINE;SECTION MARK;DANDA;DOUBLE DANDA"⟩,
   ⟨0x11143, "CHAKMA ", "QUESTION MARK;LETTER LHAA;VOWEL SIGN AA;VOWEL SIGN EI;LETTER VAA"⟩]

/-- The names in the block Mahajani. -/
def mahajani : List NameRun :=
  [⟨0x11150, "MAHAJANI LETTER ", "A;I;U;E;O;KA;KHA;GA;GHA;CA;CHA;JA;JHA;NYA;TTA;TTHA"⟩,
   ⟨0x11160, "MAHAJANI LETTER ", "DDA;DDHA;NNA;TA;THA;DA;DHA;NA;PA;PHA;BA;BHA;MA;RA;LA;VA;SA;HA"⟩,
   ⟨0x11172, "MAHAJANI ", "LETTER RRA;SIGN NUKTA;ABBREVIATION SIGN;SECTION MARK;LIGATURE SHRI"⟩]

/-- The names in the block Sharada. -/
def sharada : List NameRun :=
  [⟨0x11180, "SHARADA ", "SIGN CANDRABINDU;SIGN ANUSVARA;SIGN VISARGA;LETTER A"⟩,
   ⟨0x11184, "SHARADA LETTER ", "AA;I;II;U;UU;VOCALIC R;VOCALIC RR;VOCALIC L;VOCALIC LL;E;AI"⟩,
   ⟨0x1118f, "SHARADA LETTER ", "O;AU;KA;KHA;GA;GHA;NGA;CA;CHA;JA;JHA;NYA;TTA;TTHA;DDA;DDHA;NNA"⟩,
   ⟨0x111a0, "SHARADA LETTER ", "TA;THA;DA;DHA;NA;PA;PHA;BA;BHA;MA;YA;RA;LA;LLA;VA;SHA;SSA;SA;HA"⟩,
   ⟨0x111b3, "SHARADA VOWEL SIGN ", "AA;I;II;U;UU;VOCALIC R;VOCALIC RR;VOCALIC L;VOCALIC LL;E;AI"⟩,
   ⟨0x111be, "SHARADA ", "VOWEL SIGN O;VOWEL SIGN AU;SIGN VIRAMA;SIGN AVAGRAHA;SIGN JIHVAMULIYA"⟩,
   ⟨0x111c3, "SHARADA ", "SIGN UPADHMANIYA;OM;DANDA;DOUBLE DANDA;ABBREVIATION SIGN;SEPARATOR"⟩,
   ⟨0x111c9, "SHARADA ", "SANDHI MARK;SIGN NUKTA;VOWEL MODIFIER MARK;EXTRA SHORT VOWEL MARK"⟩,
   ⟨0x111cd, "SHARADA ", "SUTRA MARK;VOWEL SIGN PRISHTHAMATRA E;SIGN INVERTED CANDRABINDU"⟩,
   ⟨0x111d0, "SHARADA DIGIT ", "ZERO;ONE;TWO;THREE;FOUR;FIVE;SIX;SEVEN;EIGHT"⟩,
   ⟨0x111d9, "SHARADA ",
     "DIGIT NINE;EKAM;SIGN SIDDHAM;HEADSTROKE;CONTINUATION SIGN;SECTION MARK-1;SECTION MARK-2"⟩]

/-- The names in the block Sinhala Archaic Numbers. -/
def sinhalaArchaicNumbers : List NameRun :=
  [⟨0x111e1, "SINHALA ARCHAIC DIGIT ", "ONE;TWO;THREE;FOUR;FIVE;SIX;SEVEN;EIGHT;NINE"⟩,
   ⟨0x111ea, "SINHALA ARCHAIC NUMBER ",
     "TEN;TWENTY;THIRTY;FORTY;FIFTY;SIXTY;SEVENTY;EIGHTY;NINETY;ONE HUNDRED;ONE THOUSAND"⟩]

/-- The names in the block Khojki. -/
def khojki : List NameRun :=
  [⟨0x11200, "KHOJKI LETTER ", "A;AA;I;U;E;AI;O;AU;KA;KHA;GA;GGA;GHA;NGA;CA;CHA;JA;JJA"⟩,
   ⟨0x11213, "KHOJKI LETTER ",
     "NYA;TTA;TTHA;DDA;DDHA;NNA;TA;THA;DA;DDDA;DHA;NA;PA;PHA;BA;BBA;BHA;MA;YA;RA;LA;VA;SA;HA"⟩,
   ⟨0x1122b, "KHOJKI ", "LETTER LLA;VOWEL SIGN AA;VOWEL SIGN I;VOWEL SIGN II;VOWEL SIGN U"⟩,
   ⟨0x11230, "KHOJKI ", "VOWEL SIGN E;VOWEL SIGN AI;VOWEL SIGN O;VOWEL SIGN AU;SIGN ANUSVARA"⟩,
   ⟨0x11235, "KHOJKI ", "SIGN VIRAMA;SIGN NUKTA;SIGN SHADDA;DANDA;DOUBLE DANDA;WORD SEPARATOR"⟩,
   ⟨0x1123b, "KHOJKI ", "SECTION MARK;DOUBLE SECTION MARK;ABBREVIATION SIGN;SIGN SUKUN"⟩]

/-- The names in the block Multani. -/
def multani : List NameRun :=
  [⟨0x11280, "MULTANI LETTER ", "A;I;U;E;KA;KHA;GA"⟩,
   ⟨0x11288, "MULTANI LETTER GHA", ""⟩,
   ⟨0x1128a, "MULTANI LETTER ", "CA;CHA;JA;JJA"⟩,
   ⟨0x1128f, "MULTANI LETTER ", "NYA;TTA;TTHA;DDA;DDDA;DDHA;NNA;TA;THA;DA;DHA;NA;PA;PHA;BA"⟩,
   ⟨0x1129f, "MULTANI LETTER ", "BHA;MA;YA;RA;LA"⟩,
   ⟨0x112a4, "MULTANI ", "LETTER VA;LETTER SA;LETTER HA;LETTER RRA;LETTER RHA;SECTION MARK"⟩]

/-- The names in the block Khudawadi. -/
def khudawadi : List NameRun :=
  [⟨0x112b0, "KHUDAWADI LETTER ", "A;AA;I;II;U;UU;E;AI;O;AU;KA;KHA;GA;GGA"⟩,
   ⟨0x112be, "KHUDAWADI LETTER ", "GHA;NGA;CA;CHA;JA;JJA;JHA;NYA;TTA;TTHA;DDA;DDDA;RRA;DDHA;NNA"⟩,
   ⟨0x112cd, "KHUDAWADI LETTER ", "TA;THA;DA;DHA;NA;PA;PHA;BA;BBA;BHA;MA;YA;RA;LA;VA;SHA;SA;HA"⟩,
   ⟨0x112df, "KHUDAWADI ", "SIGN ANUSVARA;VOWEL SIGN AA;VOWEL SIGN I;VOWEL SIGN II;VOWEL SIGN U"⟩,
   ⟨0x112e4, "KHUDAWADI ",
     "VOWEL SIGN UU;VOWEL SIGN E;VOWEL SIGN AI;VOWEL SIGN O;VOWEL SIGN AU;SIGN NUKTA;SIGN VIRAMA"⟩,
   ⟨0x112f0, "KHUDAWADI DIGIT ", "ZERO;ONE;TWO;THREE;FOUR;FIVE;SIX;SEVEN;EIGHT;NINE"⟩]

/-- The names in the block Grantha. -/
def grantha : List NameRun :=
  [⟨0x11300, "GRANTHA SIGN ", "COMBINING ANUSVARA ABOVE;CANDRABINDU;ANUSVARA;VISARGA"⟩,
   ⟨0x11305, "GRANTHA LETTER ", "A;AA;I;II;U;UU;VOCALIC R;VOCALIC L"⟩,
   ⟨0x1130f, "GRANTHA LETTER ", "EE;AI"⟩,
   ⟨0x11313, "GRANTHA LETTER ",
     "OO;AU;KA;KHA;GA;GHA;NGA;CA;CHA;JA;JHA;NYA;TTA;TTHA;DDA;DDHA;NNA;TA;THA;DA;DHA;NA"⟩,
   ⟨0x1132a, "GRANTHA LETTER ", "PA;PHA;BA;BHA;MA;YA;RA"⟩,
   ⟨0x11332, "GRANTHA LETTER L", "A;LA"⟩,
   ⟨0x11335, "GRANTHA LETTER ", "VA;SHA;SSA;SA;HA"⟩,
   ⟨0x1133b, "", "COMBINING BINDU BELOW;GRANTHA SIGN NUKTA;GRANTHA SIGN AVAGRAHA"⟩,
   ⟨0x1133e, "GRANTHA VOWEL SIGN ", "AA;I;II;U;UU;VOCALIC R;VOCALIC RR"⟩,
   ⟨0x11347, "GRANTHA VOWEL SIGN ", "EE;AI"⟩,
   ⟨0x1134b, "GRANTHA ", "VOWEL SIGN OO;VOWEL SIGN AU;SIGN VIRAMA"⟩,
   ⟨0x11350, "GRANTHA OM", ""⟩,
   ⟨0x11357, "GRANTHA AU LENGTH MARK", ""⟩,
   ⟨0x1135d, "GRANTHA ", "SIGN PLUTA;LETTER VEDIC ANUSVARA;LETTER VEDIC DOUBLE ANUSVARA"⟩,
   ⟨0x11360, "GRANTHA ",
     "LETTER VOCALIC RR;LETTER VOCALIC LL;VOWEL SIGN VOCALIC L;VOWEL SIGN VOCALIC LL"⟩,
   ⟨0x11366, "COMBINING GRANTHA DIGIT ", "ZERO;ONE;TWO;THREE;FOUR;FIVE;SIX"⟩,
   ⟨0x11370, "COMBINING GRANTHA LETTER ", "A;KA;NA;VI;PA"⟩]

/-- The names in the block Newa. -/
def newa : List NameRun :=
  [⟨0x11400, "NEWA LETTER ", "A;AA;I;II;U;UU;VOCALIC R;VOCALIC RR;VOCALIC L;VOCALIC LL;E"⟩,
   ⟨0x1140b, "NEWA LETTER ", "AI;O;AU;KA;KHA;GA;GHA;NGA;NGHA;CA;CHA;JA;JHA;NYA;NYHA;TTA;TTHA;DDA"⟩,
   ⟨0x1141d, "NEWA LETTER ", "DDHA;NNA;TA;THA;DA;DHA;NA;NHA;PA;PHA;BA;BHA;MA;MHA;YA;RA;RHA;LA;LHA"⟩,
   ⟨0x11430, "NEWA ", "LETTER WA;LETTER SHA;LETTER SSA;LETTER SA;LETTER HA;VOWEL SIGN AA"⟩,
   ⟨0x11436, "NEWA VOWEL SIGN ", "I;II;U;UU;VOCALIC R;VOCALIC RR;VOCALIC L;VOCALIC LL;E;AI;O;AU"⟩,
   ⟨0x11442, "NEWA SIGN ", "VIRAMA;CANDRABINDU;ANUSVARA;VISARGA;NUKTA;AVAGRAHA;FINAL ANUSVARA"⟩,
   ⟨0x11449, "NEWA ", "OM;SIDDHI;DANDA;DOUBLE DANDA;COMMA;GAP FILLER;ABBREVIATION SIGN"⟩,
   ⟨0x11450, "NEWA DIGIT ", "ZERO;ONE;TWO;THREE;FOUR;FIVE"⟩,
   ⟨0x11456, "NEWA ", "DIGIT SIX;DIGIT SEVEN;DIGIT EIGHT;DIGIT NINE;DOUBLE COMMA;PLACEHOLDER MARK"⟩,
   ⟨0x1145d, "NEWA ",
     "INSERTION SIGN;SANDHI MARK;LETTER VEDIC ANUSVARA;SIGN JIHVAMULIYA;SIGN UPADHMANIYA"⟩]

/-- The names in the block Tirhuta. -/
def tirhuta : List NameRun :=
  [⟨0x11480, "TIRHUTA ", "ANJI;LETTER A"⟩,
   ⟨0x11482, "TIRHUTA LETTER ", "AA;I;II;U;UU;VOCALIC R;VOCALIC RR;VOCALIC L;VOCALIC LL"⟩,
   ⟨0x1148b, "TIRHUTA LETTER ", "E;AI;O;AU;KA;KHA;GA;GHA;NGA;CA;CHA;JA;JHA;NYA;TTA;TTHA;DDA;DDHA"⟩,
   ⟨0x1149d, "TIRHUTA LETTER ", "NNA;TA;THA;DA;DHA;NA;PA;PHA;BA;BHA;MA;YA;RA;LA;VA;SHA;SSA;SA;HA"⟩,
   ⟨0x114b0, "TIRHUTA VOWEL SIGN ",
     "AA;I;II;U;UU;VOCALIC R;VOCALIC RR;VOCALIC L;VOCALIC LL;E;SHORT E;AI;O;SHORT O"⟩,
   ⟨0x114be, "TIRHUTA ", "VOWEL SIGN AU;SIGN CANDRABINDU;SIGN ANUSVARA;SIGN VISARGA"⟩,
   ⟨0x114c2, "TIRHUTA ", "SIGN VIRAMA;SIGN NUKTA;SIGN AVAGRAHA;GVANG;ABBREVIATION SIGN;OM"⟩,
   ⟨0x114d0, "TIRHUTA DIGIT ", "ZERO;ONE;TWO;THREE;FOUR;FIVE;SIX;SEVEN;EIGHT;NINE"⟩]

/-- The names in the block Siddham. -/
def siddham : List NameRun :=
  [⟨0x11580, "SIDDHAM LETTER ", "A;AA;I;II;U;UU;VOCALIC R;VOCALIC RR;VOCALIC L;VOCALIC LL"⟩,
   ⟨0x1158a, "SIDDHAM LETTER ", "E;AI;O;AU;KA;KHA;GA;GHA;NGA;CA;CHA;JA;JHA;NYA;TTA;TTHA;DDA;DDHA"⟩,
   ⟨0x1159c, "SIDDHAM LETTER ", "NNA;TA;THA;DA;DHA;NA;PA;PHA;BA;BHA;MA;YA;RA;LA;VA;SHA;SSA;SA;HA"⟩,
   ⟨0x115af, "SIDDHAM VOWEL SIGN ", "AA;I;II;U;UU;VOCALIC R;VOCALIC RR"⟩,
   ⟨0x115b8, "SIDDHAM ", "VOWEL SIGN E;VOWEL SIGN AI;VOWEL SIGN O;VOWEL SIGN AU;SIGN CANDRABINDU"⟩,
   ⟨0x115bd, "SIDDHAM ", "SIGN ANUSVARA;SIGN VISARGA;SIGN VIRAMA;SIGN NUKTA;SIGN SIDDHAM;DANDA"⟩,
   ⟨0x115c3, "SIDDHAM ", "DOUBLE DANDA;SEPARATOR DOT;SEPARATOR BAR"⟩,
   ⟨0x115c6, "SIDDHAM ", "REPETITION MARK-1;REPETITION MARK-2;REPETITION MARK-3;END OF TEXT MARK"⟩,
   ⟨0x115ca, "SIDDHAM SECTION MARK WITH ",
     "TRIDENT AND U-SHAPED ORNAMENTS;TRIDENT AND DOTTED CRESCENTS;RAYS AND DOTTED CRESCENTS"⟩,
   ⟨0x115cd, "SIDDHAM SECTION MARK WITH RAYS AND DOTTED ", "DOUBLE CRESCENTS;TRIPLE CRESCENTS"⟩,
   ⟨0x115cf, "SIDDHAM SECTION MARK ", "DOUBLE RING;DOUBLE RING WITH RAYS;WITH DOUBLE CRESCENTS"⟩,
   ⟨0x115d2, "SIDDHAM SECTION MARK WITH ", "TRIPLE CRESCENTS;QUADRUPLE CRESCENTS"⟩,
   ⟨0x115d4, "SIDDHAM SECTION MARK WITH ",
     "SEPTUPLE CRESCENTS;CIRCLES AND RAYS;CIRCLES AND TWO ENCLOSURES;CIRCLES AND FOUR ENCLOSURES"⟩,
   ⟨0x115d8, "SIDDHAM LETTER T",
     "HREE-CIRCLE ALTERNATE I;WO-CIRCLE ALTERNATE I;WO-CIRCLE ALTERNATE II"⟩,
   ⟨0x115db, "SIDDHAM ", "LETTER ALTERNATE U;VOWEL SIGN ALTERNATE U;VOWEL SIGN ALTERNATE UU"⟩]

/-- The names in the block Modi. -/
def modi : List NameRun :=
  [⟨0x11600, "MODI LETTER ", "A;AA;I;II;U;UU;VOCALIC R;VOCALIC RR;VOCALIC L;VOCALIC LL"⟩,
   ⟨0x1160a, "MODI LETTER ", "E;AI;O;AU;KA;KHA;GA;GHA;NGA;CA;CHA;JA;JHA;NYA;TTA;TTHA;DDA;DDHA"⟩,
   ⟨0x1161c, "MODI LETTER ", "NNA;TA;THA;DA;DHA;NA;PA;PHA;BA;BHA;MA;YA;RA;LA;VA;SHA;SSA;SA;HA;LLA"⟩,
   ⟨0x11630, "MODI VOWEL SIGN ", "AA;I;II;U;UU;VOCALIC R;VOCALIC RR;VOCALIC L;VOCALIC LL;E;AI"⟩,
   ⟨0x1163b, "MODI ", "VOWEL SIGN O;VOWEL SIGN AU;SIGN ANUSVARA;SIGN VISARGA;SIGN VIRAMA"⟩,
   ⟨0x11640, "MODI ", "SIGN ARDHACANDRA;DANDA;DOUBLE DANDA;ABBREVIATION SIGN;SIGN HUVA"⟩,
   ⟨0x11650, "MODI DIGIT ", "ZERO;ONE;TWO;THREE;FOUR;FIVE;SIX;SEVEN;EIGHT;NINE"⟩]

/-- The names in the block Mongolian Supplement. -/
def mongolianSupplement : List NameRun :=
  [⟨0x11660, "MONGOLIAN ", "BIRGA WITH ORNAMENT;ROTATED BIRGA;DOUBLE BIRGA WITH ORNAMENT"⟩,
   ⟨0x11663, "MONGOLIAN ", "TRIPLE BIRGA WITH ORNAMENT;BIRGA WITH DOUBLE ORNAMENT"⟩,
   ⟨0x11665, "MONGOLIAN ROTATED BIRGA WITH ", "ORNAMENT;DOUBLE ORNAMENT"⟩,
   ⟨0x11667, "MONGOLIAN ", "INVERTED BIRGA;INVERTED BIRGA WITH DOUBLE ORNAMENT;SWIRL BIRGA"⟩,
   ⟨0x1166a, "MONGOLIAN SWIRL BIRGA WITH ", "ORNAMENT;DOUBLE ORNAMENT"⟩,
   ⟨0x1166c, "MONGOLIAN TURNED SWIRL BIRGA WITH DOUBLE ORNAMENT", ""⟩]

/-- The names in the block Takri. -/
def takri : List NameRun :=
  [⟨0x11680, "TAKRI LETTER ", "A;AA;I;II;U;UU;E;AI;O;AU;KA;KHA;GA;GHA;NGA;CA;CHA;JA;JHA;NYA;TTA"⟩,
   ⟨0x11695, "TAKRI LETTER ", "TTHA;DDA;DDHA;NNA;TA;THA;DA;DHA;NA;PA;PHA;BA;BHA;MA;YA;RA;LA;VA"⟩,
   ⟨0x116a7, "TAKRI ", "LETTER SHA;LETTER SA;LETTER HA;LETTER RRA;SIGN ANUSVARA;SIGN VISARGA"⟩,
   ⟨0x116ad, "TAKRI VOWEL SIGN ", "AA;I;II;U;UU;E;AI;O"⟩,
   ⟨0x116b5, "TAKRI ", "VOWEL SIGN AU;SIGN VIRAMA;SIGN NUKTA;LETTER ARCHAIC KHA;ABBREVIATION SIGN"⟩,
   ⟨0x116c0, "TAKRI DIGIT ", "ZERO;ONE;TWO;THREE;FOUR;FIVE;SIX;SEVEN;EIGHT;NINE"⟩]

/-- The names in the block Ahom. -/
def ahom : List NameRun :=
  [⟨0x11700, "AHOM LETTER ", "KA;KHA;NGA;NA;TA;ALTERNATE TA;PA;PHA;BA;MA;JA;CHA;THA"⟩,
   ⟨0x1170d, "AHOM LETTER ", "RA;LA;SA;NYA;HA;A;DA;DHA;GA;ALTERNATE GA;GHA;BHA;JHA;ALTERNATE BA"⟩,
   ⟨0x1171d, "AHOM CONSONANT SIGN MEDIAL ", "LA;RA;LIGATING RA"⟩,
   ⟨0x11720, "AHOM VOWEL SIGN ", "A;AA;I;II;U;UU;E"⟩,
   ⟨0x11727, "AHOM ", "VOWEL SIGN AW;VOWEL SIGN O;VOWEL SIGN AI;VOWEL SIGN AM;SIGN KILLER"⟩,
   ⟨0x11730, "AHOM DIGIT ", "ZERO;ONE;TWO;THREE;FOUR;FIVE;SIX;SEVEN;EIGHT;NINE"⟩,
   ⟨0x1173a, "AHOM ", "NUMBER TEN;NUMBER TWENTY;SIGN SMALL SECTION;SIGN SECTION;SIGN RULAI"⟩,
   ⟨0x1173f, "AHOM ",
     "SYMBOL VI;LETTER CA;LETTER TTA;LETTER TTHA;LETTER DDA;LETTER DDHA;LETTER NNA;LETTER LLA"⟩]

/-- The names in the block Dogra. -/
def dogra : List NameRun :=
  [⟨0x11800, "DOGRA LETTER ", "A;AA;I;II;U;UU;E;AI;O;AU;KA;KHA;GA;GHA;NGA;CA;CHA;JA;JHA"⟩,
   ⟨0x11813, "DOGRA LETTER ",
     "NYA;TTA;TTHA;DDA;DDHA;NNA;TA;THA;DA;DHA;NA;PA;PHA;BA;BHA;MA;YA;RA;LA;VA;SHA;SSA;SA;HA;RRA"⟩,
   ⟨0x1182c, "DOGRA VOWEL SIGN ", "AA;I;II;U;UU;VOCALIC R;VOCALIC RR;E;AI;O;AU"⟩,
   ⟨0x11837, "DOGRA ", "SIGN ANUSVARA;SIGN VISARGA;SIGN VIRAMA;SIGN NUKTA;ABBREVIATION SIGN"⟩]

/-- The names in the block Warang Citi. -/
def warangCiti : List NameRun :=
  [⟨0x118a0, "WARANG CITI CAPITAL LETTER ", "NGAA;A;WI;YU;YA;YO;II;UU"⟩,
   ⟨0x118a8, "WARANG CITI CAPITAL LETTER ",
     "E;O;ANG;GA;KO;ENY;YUJ;UC;ENN;ODD;TTE;NUNG;DA;AT;AM;BU;PU;HIYO;HOLO;HORR;HAR;SSUU;SII;VIYO"⟩,
   ⟨0x118c0, "WARANG CITI SMALL LETTER ", "NGAA;A;WI;YU;YA;YO;II;UU"⟩,
   ⟨0x118c8, "WARANG CITI SMALL LETTER ",
     "E;O;ANG;GA;KO;ENY;YUJ;UC;ENN;ODD;TTE;NUNG;DA;AT;AM;BU;PU;HIYO;HOLO;HORR;HAR;SSUU;SII;VIYO"⟩,
   ⟨0x118e0, "WARANG CITI DIGIT ", "ZERO;ONE;TWO;THREE;FOUR;FIVE;SIX;SEVEN;EIGHT;NINE"⟩,
   ⟨0x118ea, "WARANG CITI NUMBER ", "TEN;TWENTY;THIRTY;FORTY;FIFTY;SIXTY;SEVENTY;EIGHTY;NINETY"⟩,
   ⟨0x118ff, "WARANG CITI OM", ""⟩]

/-- The names in the block Dives Akuru. -/
def divesAkuru : List NameRun :=
  [⟨0x11900, "DIVES AKURU LETTER ", "A;AA;I;II;U;UU;E"⟩,
   ⟨0x11909, "DIVES AKURU LETTER O", ""⟩,
   ⟨0x1190c, "DIVES AKURU LETTER ", "KA;KHA;GA;GHA;NGA;CA;CHA;JA"⟩,
   ⟨0x11915, "DIVES AKURU LETTER ", "NYA;TTA"⟩,
   ⟨0x11918, "DIVES AKURU LETTER ",
     "DDA;DDHA;NNA;TA;THA;DA;DHA;NA;PA;PHA;BA;BHA;MA;YA;YYA;RA;LA;VA;SHA;SSA;SA;HA;LLA;ZA"⟩,
   ⟨0x11930, "DIVES AKURU VOWEL SIGN ", "AA;I;II;U;UU;E"⟩,
   ⟨0x11937, "DIVES AKURU VOWEL SIGN ", "AI;O"⟩,
   ⟨0x1193b, "DIVES AKURU ",
     "SIGN ANUSVARA;SIGN CANDRABINDU;SIGN HALANTA;VIRAMA;PREFIXED NASAL SIGN;MEDIAL YA;INITIAL RA"⟩,
   ⟨0x11942, "DIVES AKURU ", "MEDIAL RA;SIGN NUKTA;DOUBLE DANDA;GAP FILLER;END OF TEXT MARK"⟩,
   ⟨0x11950, "DIVES AKURU DIGIT ", "ZERO;ONE;TWO;THREE;FOUR;FIVE;SIX;SEVEN;EIGHT;NINE"⟩]

/-- The names in the block Nandinagari. -/
def nandinagari : List NameRun :=
  [⟨0x119a0, "NANDINAGARI LETTER ", "A;AA;I;II;U;UU;VOCALIC R;VOCALIC RR"⟩,
   ⟨0x119aa, "NANDINAGARI LETTER ", "E;AI;O;AU;KA;KHA;GA;GHA;NGA;CA;CHA;JA;JHA;NYA"⟩,
   ⟨0x119b8, "NANDINAGARI LETTER ",
     "TTA;TTHA;DDA;DDHA;NNA;TA;THA;DA;DHA;NA;PA;PHA;BA;BHA;MA;YA;RA;LA;VA;SHA;SSA;SA;HA;LLA;RRA"⟩,
   ⟨0x119d1, "NANDINAGARI VOWEL SIGN ", "AA;I;II;U;UU;VOCALIC R;VOCALIC RR"⟩,
   ⟨0x119da, "NANDINAGARI ", "VOWEL SIGN E;VOWEL SIGN AI;VOWEL SIGN O;VOWEL SIGN AU;SIGN ANUSVARA"⟩,
   ⟨0x119df, "NANDINAGARI ",
     "SIGN VISARGA;SIGN VIRAMA;SIGN AVAGRAHA;SIGN SIDDHAM;HEADSTROKE;VOWEL SIGN PRISHTHAMATRA E"⟩]

/-- The names in the block Zanabazar Square. -/
def zanabazarSquare : List NameRun :=
  [⟨0x11a00, "ZANABAZAR SQUARE ", "LETTER A;VOWEL SIGN I"⟩,
   ⟨0x11a02, "ZANABAZAR SQUARE VOWEL ",
     "SIGN UE;SIGN U;SIGN E;SIGN OE;SIGN O;SIGN AI;SIGN AU;SIGN REVERSED I;LENGTH MARK"⟩,
   ⟨0x11a0b, "ZANABAZAR SQUARE LETTER ", "KA;KHA;GA;GHA;NGA;CA;CHA;JA;NYA;TTA;TTHA;DDA;DDHA"⟩,
   ⟨0x11a18, "ZANABAZAR SQUARE LETTER ",
     "NNA;TA;THA;DA;DHA;NA;PA;PHA;BA;BHA;MA;TSA;TSHA;DZA;DZHA;ZHA;ZA;-A;YA;RA;LA;VA;SHA;SSA;SA;HA"⟩,
   ⟨0x11a32, "ZANABAZAR SQUARE ", "LETTER KSSA;FINAL CONSONANT MARK;SIGN VIRAMA;SIGN CANDRABINDU"⟩,
   ⟨0x11a36, "ZANABAZAR SQUARE SIGN ", "CANDRABINDU WITH ORNAMENT;CANDRA WITH ORNAMENT;ANUSVARA"⟩,
   ⟨0x11a39, "ZANABAZAR SQUARE ", "SIGN VISARGA;CLUSTER-INITIAL LETTER RA;CLUSTER-FINAL LETTER YA"⟩,
   ⟨0x11a3c, "ZANABAZAR SQUARE ",
     "CLUSTER-FINAL LETTER RA;CLUSTER-FINAL LETTER LA;CLUSTER-FINAL LETTER VA;INITIAL HEAD MARK"⟩,
   ⟨0x11a40, "ZANABAZAR SQUARE ", "CLOSING HEAD MARK;MARK TSHEG;MARK SHAD;MARK DOUBLE SHAD"⟩,
   ⟨0x11a44, "ZANABAZAR SQUARE ",
     "MARK LONG TSHEG;INITIAL DOUBLE-LINED HEAD MARK;CLOSING DOUBLE-LINED HEAD MARK;SUBJOINER"⟩]

/-- The names in the block Soyombo. -/
def soyombo : List NameRun :=
  [⟨0x11a50, "SOYOMBO ", "LETTER A;VOWEL SIGN I"⟩,
   ⟨0x11a52, "SOYOMBO VOWEL SIGN ", "UE;U;E;O;OE;AI;AU;VOCALIC R"⟩,
   ⟨0x11a5a, "SOYOMBO ", "VOWEL SIGN VOCALIC L;VOWEL LENGTH MARK;LETTER KA;LETTER KHA"⟩,
   ⟨0x11a5e, "SOYOMBO LETTER ", "GA;GHA;NGA;CA;CHA;JA;JHA;NYA;TTA;TTHA;DDA;DDHA;NNA;TA;THA;DA;DHA"⟩,
   ⟨0x11a6f, "SOYOMBO LETTER ", "NA;PA;PHA;BA;BHA;MA;TSA;TSHA;DZA;ZHA;ZA;-A;YA;RA;LA;VA;SHA;SSA"⟩,
   ⟨0x11a81, "SOYOMBO ", "LETTER SA;LETTER HA;LETTER KSSA;SIGN JIHVAMULIYA;SIGN UPADHMANIYA"⟩,
   ⟨0x11a86, "SOYOMBO CLUSTER-INITIAL LETTER ", "RA;LA;SHA;SA"⟩,
   ⟨0x11a8a, "SOYOMBO FINAL CONSONANT SIGN ", "G;K;NG;D;N;B;M;R;L;SH;S"⟩,
   ⟨0x11a95, "SOYOMBO ", "FINAL CONSONANT SIGN -A;SIGN ANUSVARA;SIGN VISARGA;GEMINATION MARK"⟩,
   ⟨0x11a99, "SOYOMBO ", "SUBJOINER;MARK TSHEG;MARK SHAD;MARK DOUBLE SHAD;MARK PLUTA"⟩,
   ⟨0x11a9e, "SOYOMBO HEAD MARK WITH MOON AND SUN AND ", "TRIPLE FLAME;FLAME"⟩,
   ⟨0x11aa0, "SOYOMBO ", "HEAD MARK WITH MOON AND SUN;TERMINAL MARK-1;TERMINAL MARK-2"⟩]

/-- The names in the block Unified Canadian Aboriginal Syllabics Extended-A. -/
def unifiedCanadianAboriginalSyllabicsExtendedA : List NameRun :=
  [⟨0x11ab0, "CANADIAN SYLLABICS NATTILIK ", "HI;HII;HO;HOO;HA;HAA;SHRI;SHRII;SHRO"⟩,
   ⟨0x11ab9, "CANADIAN SYLLABICS ", "NATTILIK SHROO;NATTILIK SHRA;NATTILIK SHRAA;SPE;SPI;SPO;SPA"⟩]

/-- The names in the block Pau Cin Hau. -/
def pauCinHau : List NameRun :=
  [⟨0x11ac0, "PAU CIN HAU LETTER ",
     "PA;KA;LA;MA;DA;ZA;VA;NGA;HA;GA;KHA;SA;BA;CA;TA;THA;NA;PHA;RA;FA;CHA;A;E;I;O;U;UA;IA"⟩,
   ⟨0x11adc, "PAU CIN HAU LETTER FINAL ", "P;K;T;M;N;L;W;NG;Y"⟩,
   ⟨0x11ae5, "PAU CIN HAU ",
     "RISING TONE LONG;RISING TONE;SANDHI GLOTTAL STOP;RISING TONE LONG FINAL;RISING TONE FINAL"⟩,
   ⟨0x11aea, "PAU CIN HAU SANDHI ", "GLOTTAL STOP FINAL;TONE LONG;TONE;TONE LONG FINAL;TONE FINAL"⟩,
   ⟨0x11aef, "PAU CIN HAU ", "MID-LEVEL TONE;GLOTTAL STOP VARIANT;MID-LEVEL TONE LONG FINAL"⟩,
   ⟨0x11af2, "PAU CIN HAU ", "MID-LEVEL TONE FINAL;LOW-FALLING TONE LONG;LOW-FALLING TONE"⟩,
   ⟨0x11af5, "PAU CIN HAU ",
     "GLOTTAL STOP;LOW-FALLING TONE LONG FINAL;LOW-FALLING TONE FINAL;GLOTTAL STOP FINAL"⟩]

/-- The names in the block Bhaiksuki. -/
def bhaiksuki : List NameRun :=
  [⟨0x11c00, "BHAIKSUKI LETTER ", "A;AA;I;II;U;UU;VOCALIC R;VOCALIC RR;VOCALIC L"⟩,
   ⟨0x11c0a, "BHAIKSUKI LETTER ", "E;AI;O;AU;KA;KHA;GA;GHA;NGA;CA;CHA;JA"⟩,
   ⟨0x11c16, "BHAIKSUKI LETTER ",
     "JHA;NYA;TTA;TTHA;DDA;DDHA;NNA;TA;THA;DA;DHA;NA;PA;PHA;BA;BHA;MA;YA;RA;LA;VA;SHA;SSA;SA;HA"⟩,
   ⟨0x11c2f, "BHAIKSUKI VOWEL SIGN ", "AA;I;II;U;UU;VOCALIC R;VOCALIC RR;VOCALIC L"⟩,
   ⟨0x11c38, "BHAIKSUKI VOWEL SIGN ", "E;AI;O;AU"⟩,
   ⟨0x11c3c, "BHAIKSUKI SIGN ", "CANDRABINDU;ANUSVARA;VISARGA;VIRAMA;AVAGRAHA"⟩,
   ⟨0x11c41, "BHAIKSUKI ", "DANDA;DOUBLE DANDA;WORD SEPARATOR;GAP FILLER-1;GAP FILLER-2"⟩,
   ⟨0x11c50, "BHAIKSUKI DIGIT ", "ZERO;ONE;TWO;THREE;FOUR;FIVE;SIX;SEVEN;EIGHT;NINE"⟩,
   ⟨0x11c5a, "BHAIKSUKI NUMBER ",
     "ONE;TWO;THREE;FOUR;FIVE;SIX;SEVEN;EIGHT;NINE;TEN;TWENTY;THIRTY;FORTY;FIFTY;SIXTY"⟩,
   ⟨0x11c69, "BHAIKSUKI ", "NUMBER SEVENTY;NUMBER EIGHTY;NUMBER NINETY;HUNDREDS UNIT MARK"⟩]

/-- The names in the block Marchen. -/
def marchen : List NameRun :=
  [⟨0x11c70, "MARCHEN ", "HEAD MARK;MARK SHAD;LETTER KA;LETTER KHA;LETTER GA"⟩,
   ⟨0x11c75, "MARCHEN LETTER ",
     "NGA;CA;CHA;JA;NYA;TA;THA;DA;NA;PA;PHA;BA;MA;TSA;TSHA;DZA;WA;ZHA;ZA;-A;YA;RA;LA;SHA;SA;HA;A"⟩,
   ⟨0x11c92, "MARCHEN SUBJOINED LETTER ",
     "KA;KHA;GA;NGA;CA;CHA;JA;NYA;TA;THA;DA;NA;PA;PHA;BA;MA;TSA;TSHA;DZA;WA;ZHA;ZA"⟩,
   ⟨0x11ca9, "MARCHEN SUBJOINED LETTER ", "YA;RA;LA;SHA;SA"⟩,
   ⟨0x11cae, "MARCHEN ", "SUBJOINED LETTER HA;SUBJOINED LETTER A;VOWEL SIGN AA;VOWEL SIGN I"⟩,
   ⟨0x11cb2, "MARCHEN ", "VOWEL SIGN U;VOWEL SIGN E;VOWEL SIGN O;SIGN ANUSVARA;SIGN CANDRABINDU"⟩]

/-- The names in the block Masaram Gondi. -/
def masaramGondi : List NameRun :=
  [⟨0x11d00, "MASARAM GONDI LETTER ", "A;AA;I;II;U;UU;E"⟩,
   ⟨0x11d08, "MASARAM GONDI LETTER ", "AI;O"⟩,
   ⟨0x11d0b, "MASARAM GONDI LETTER ", "AU;KA;KHA;GA;GHA;NGA;CA;CHA;JA;JHA;NYA;TTA;TTHA"⟩,
   ⟨0x11d18, "MASARAM GONDI LETTER ",
     "DDA;DDHA;NNA;TA;THA;DA;DHA;NA;PA;PHA;BA;BHA;MA;YA;RA;LA;VA;SHA;SSA;SA;HA;LLA;KSSA;JNYA;TRA"⟩,
   ⟨0x11d31, "MASARAM GONDI VOWEL SIGN ", "AA;I;II;U;UU;VOCALIC R"⟩,
   ⟨0x11d3a, "MASARAM GONDI VOWEL SIGN E", ""⟩,
   ⟨0x11d3c, "MASARAM GONDI VOWEL SIGN ", "AI;O"⟩,
   ⟨0x11d3f, "MASARAM GONDI ", "VOWEL SIGN AU;SIGN ANUSVARA;SIGN VISARGA"⟩,
   ⟨0x11d42, "MASARAM GONDI ", "SIGN NUKTA;SIGN CANDRA;SIGN HALANTA;VIRAMA;REPHA;RA-KARA"⟩,
   ⟨0x11d50, "MASARAM GONDI DIGIT ", "ZERO;ONE;TWO;THREE;FOUR;FIVE;SIX;SEVEN;EIGHT;NINE"⟩]

/-- The names in the block Gunjala Gondi. -/
def gunjalaGondi : List NameRun :=
  [⟨0x11d60, "GUNJALA GONDI LETTER ", "A;AA;I;II;U;UU"⟩,
   ⟨0x11d67, "GUNJALA GONDI LETTER ", "EE;AI"⟩,
   ⟨0x11d6a, "GUNJALA GONDI LETTER ", "OO;AU;YA;VA;BA;BHA;MA;KA;KHA;TA;THA;LA;GA;GHA;DA;DHA"⟩,
   ⟨0x11d7a, "GUNJALA GONDI LETTER ", "NA;CA;CHA;TTA;TTHA;LLA;JA;JHA;DDA;DDHA;NGA;PA;PHA;HA;RA;SA"⟩,
   ⟨0x11d8a, "GUNJALA GONDI VOWEL SIGN ", "AA;I;II;U;UU"⟩,
   ⟨0x11d90, "GUNJALA GONDI VOWEL SIGN ", "EE;AI"⟩,
   ⟨0x11d93, "GUNJALA GONDI ", "VOWEL SIGN OO;VOWEL SIGN AU;SIGN ANUSVARA;SIGN VISARGA;VIRAMA;OM"⟩,
   ⟨0x11da0, "GUNJALA GONDI DIGIT ", "ZERO;ONE;TWO;THREE;FOUR;FIVE;SIX;SEVEN;EIGHT;NINE"⟩]

/-- The names in the block Makasar. -/
def makasar : List NameRun :=
  [⟨0x11ee0, "MAKASAR LETTER ", "KA;GA;NGA;PA;BA;MA;TA;DA;NA;CA;JA;NYA;YA;RA;LA;VA;SA;A"⟩,
   ⟨0x11ef2, "MAKASAR ",
     "ANGKA;VOWEL SIGN I;VOWEL SIGN U;VOWEL SIGN E;VOWEL SIGN O;PASSIMBANG;END OF SECTION"⟩]

/-- The names in the block Lisu Supplement. -/
def lisuSupplement : List NameRun :=
  [⟨0x11fb0, "LISU LETTER YHA", ""⟩]

/-- The names in the block Tamil Supplement. -/
def tamilSupplement : List NameRun :=
  [⟨0x11fc0, "TAMIL FRACTION ONE ",
     "THREE-HUNDRED-AND-TWENTIETH;ONE-HUNDRED-AND-SIXTIETH;EIGHTIETH;SIXTY-FOURTH;FORTIETH"⟩,
   ⟨0x11fc5, "TAMIL FRACTION ", "ONE THIRTY-SECOND;THREE EIGHTIETHS;THREE SIXTY-FOURTHS"⟩,
   ⟨0x11fc8, "TAMIL FRACTION ONE ", "TWENTIETH;SIXTEENTH-1;SIXTEENTH-2;TENTH;EIGHTH"⟩,
   ⟨0x11fcd, "TAMIL FRACTION ", "THREE TWENTIETHS;THREE SIXTEENTHS;ONE FIFTH;ONE QUARTER"⟩,
   ⟨0x11fd1, "TAMIL FRACTION ", "ONE HALF-1;ONE HALF-2;THREE QUARTERS;DOWNSCALING FACTOR KIIZH"⟩,
   ⟨0x11fd5, "TAMIL SIGN ",
     "NEL;CEVITU;AAZHAAKKU;UZHAKKU;MUUVUZHAKKU;KURUNI;PATHAKKU;MUKKURUNI;KAACU;PANAM;PON"⟩,
   ⟨0x11fe0, "TAMIL ", "SIGN VARAAKAN;SIGN PAARAM;SIGN KUZHI;SIGN VELI;WET CULTIVATION SIGN"⟩,
   ⟨0x11fe5, "TAMIL ", "DRY CULTIVATION SIGN;LAND SIGN;SALT PAN SIGN;TRADITIONAL CREDIT SIGN"⟩,
   ⟨0x11fe9, "TAMIL ", "TRADITIONAL NUMBER SIGN;CURRENT SIGN;AND ODD SIGN;SPENT SIGN;TOTAL SIGN"⟩,
   ⟨0x11fee, "TAMIL ", "IN POSSESSION SIGN;STARTING FROM SIGN;SIGN MUTHALIYA;SIGN VAKAIYARAA"⟩,
   ⟨0x11fff, "TAMIL PUNCTUATION END OF TEXT", ""⟩]

/-- All names of this module. -/
def brahmic : List NameRun :=
  List.flatten
    [brahmi, kaithi, soraSompeng, chakma, mahajani, sharada, sinhalaArchaicNumbers, khojki, multani,
     khudawadi, grantha, newa, tirhuta, siddham, modi, mongolianSupplement, takri, ahom, dogra,
     warangCiti, divesAkuru, nandinagari, zanabazarSquare, soyombo,
     unifiedCanadianAboriginalSyllabicsExtendedA, pauCinHau, bhaiksuki, marchen, masaramGondi,
     gunjalaGondi, makasar, lisuSupplement, tamilSupplement]

end Names
end Unicode
end LiquidMarkdown
