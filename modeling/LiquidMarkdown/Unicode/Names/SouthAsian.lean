import LiquidMarkdown.Unicode.NameRun

/-!
# Names of characters: the scripts of South Asia

* `southAsian` — the names of the scripts of India, Sri Lanka, Thailand, Laos and Tibet.
-/

namespace LiquidMarkdown
namespace Unicode
namespace Names

/-- The names in the block Devanagari. -/
def devanagari : List NameRun :=
  [⟨0x900, "DEVANAGARI SIGN ", "INVERTED CANDRABINDU;CANDRABINDU;ANUSVARA;VISARGA"⟩,
   ⟨0x904, "DEVANAGARI LETTER ", "SHORT A;A;AA;I;II;U;UU;VOCALIC R"⟩,
   ⟨0x90c, "DEVANAGARI LETTER ", "VOCALIC L;CANDRA E;SHORT E;E;AI;CANDRA O;SHORT O;O;AU;KA;KHA;GA"⟩,
   ⟨0x918, "DEVANAGARI LETTER ", "GHA;NGA;CA;CHA;JA;JHA;NYA;TTA;TTHA;DDA;DDHA;NNA;TA;THA;DA;DHA"⟩,
   ⟨0x928, "DEVANAGARI LETTER ", "NA;NNNA;PA;PHA;BA;BHA;MA;YA;RA;RRA;LA;LLA;LLLA;VA;SHA;SSA;SA"⟩,
   ⟨0x939, "DEVANAGARI ", "LETTER HA;VOWEL SIGN OE;VOWEL SIGN OOE;SIGN NUKTA;SIGN AVAGRAHA"⟩,
   ⟨0x93e, "DEVANAGARI VOWEL SIGN ",
     "AA;I;II;U;UU;VOCALIC R;VOCALIC RR;CANDRA E;SHORT E;E;AI;CANDRA O;SHORT O"⟩,
   ⟨0x94b, "DEVANAGARI ", "VOWEL SIGN O;VOWEL SIGN AU;SIGN VIRAMA;VOWEL SIGN PRISHTHAMATRA E"⟩,
   ⟨0x94f, "DEVANAGARI ", "VOWEL SIGN AW;OM;STRESS SIGN UDATTA;STRESS SIGN ANUDATTA;GRAVE ACCENT"⟩,
   ⟨0x954, "DEVANAGARI ", "ACUTE ACCENT;VOWEL SIGN CANDRA LONG E;VOWEL SIGN UE;VOWEL SIGN UUE"⟩,
   ⟨0x958, "DEVANAGARI LETTER ", "QA;KHHA;GHHA;ZA;DDDHA;RHA;FA;YYA;VOCALIC RR;VOCALIC LL"⟩,
   ⟨0x962, "DEVANAGARI ", "VOWEL SIGN VOCALIC L;VOWEL SIGN VOCALIC LL;DANDA;DOUBLE DANDA"⟩,
   ⟨0x966, "DEVANAGARI DIGIT ", "ZERO;ONE;TWO;THREE;FOUR;FIVE;SIX;SEVEN"⟩,
   ⟨0x96e, "DEVANAGARI ", "DIGIT EIGHT;DIGIT NINE;ABBREVIATION SIGN;SIGN HIGH SPACING DOT"⟩,
   ⟨0x972, "DEVANAGARI LETTER ",
     "CANDRA A;OE;OOE;AW;UE;UUE;MARWARI DDA;ZHA;HEAVY YA;GGA;JJA;GLOTTAL STOP;DDDA;BBA"⟩]

/-- The names in the block Bengali. -/
def bengali : List NameRun :=
  [⟨0x980, "BENGALI ", "ANJI;SIGN CANDRABINDU;SIGN ANUSVARA;SIGN VISARGA"⟩,
   ⟨0x985, "BENGALI LETTER ", "A;AA;I;II;U;UU;VOCALIC R;VOCALIC L"⟩,
   ⟨0x98f, "BENGALI LETTER ", "E;AI"⟩,
   ⟨0x993, "BENGALI LETTER ",
     "O;AU;KA;KHA;GA;GHA;NGA;CA;CHA;JA;JHA;NYA;TTA;TTHA;DDA;DDHA;NNA;TA;THA;DA;DHA;NA"⟩,
   ⟨0x9aa, "BENGALI LETTER ", "PA;PHA;BA;BHA;MA;YA;RA"⟩,
   ⟨0x9b2, "BENGALI LETTER LA", ""⟩,
   ⟨0x9b6, "BENGALI LETTER ", "SHA;SSA;SA;HA"⟩,
   ⟨0x9bc, "BENGALI ", "SIGN NUKTA;SIGN AVAGRAHA;VOWEL SIGN AA"⟩,
   ⟨0x9bf, "BENGALI VOWEL SIGN ", "I;II;U;UU;VOCALIC R;VOCALIC RR"⟩,
   ⟨0x9c7, "BENGALI VOWEL SIGN ", "E;AI"⟩,
   ⟨0x9cb, "BENGALI ", "VOWEL SIGN O;VOWEL SIGN AU;SIGN VIRAMA;LETTER KHANDA TA"⟩,
   ⟨0x9d7, "BENGALI AU LENGTH MARK", ""⟩,
   ⟨0x9dc, "BENGALI LETTER R", "RA;HA"⟩,
   ⟨0x9df, "BENGALI ",
     "LETTER YYA;LETTER VOCALIC RR;LETTER VOCALIC LL;VOWEL SIGN VOCALIC L;VOWEL SIGN VOCALIC LL"⟩,
   ⟨0x9e6, "BENGALI DIGIT ", "ZERO;ONE;TWO;THREE;FOUR;FIVE;SIX;SEVEN;EIGHT"⟩,
   ⟨0x9ef, "BENGALI ", "DIGIT NINE;LETTER RA WITH MIDDLE DIAGONAL;LETTER RA WITH LOWER DIAGONAL"⟩,
   ⟨0x9f2, "BENGALI ", "RUPEE MARK;RUPEE SIGN;CURRENCY NUMERATOR ONE;CURRENCY NUMERATOR TWO"⟩,
   ⟨0x9f6, "BENGALI CURRENCY ",
     "NUMERATOR THREE;NUMERATOR FOUR;NUMERATOR ONE LESS THAN THE DENOMINATOR;DENOMINATOR SIXTEEN"⟩,
   ⟨0x9fa, "BENGALI ", "ISSHAR;GANDA MARK;LETTER VEDIC ANUSVARA;ABBREVIATION SIGN;SANDHI MARK"⟩]

/-- The names in the block Gurmukhi. -/
def gurmukhi : List NameRun :=
  [⟨0xa01, "GURMUKHI SIGN ", "ADAK BINDI;BINDI;VISARGA"⟩,
   ⟨0xa05, "GURMUKHI LETTER ", "A;AA;I;II;U;UU"⟩,
   ⟨0xa0f, "GURMUKHI LETTER ", "EE;AI"⟩,
   ⟨0xa13, "GURMUKHI LETTER ",
     "OO;AU;KA;KHA;GA;GHA;NGA;CA;CHA;JA;JHA;NYA;TTA;TTHA;DDA;DDHA;NNA;TA;THA;DA;DHA;NA"⟩,
   ⟨0xa2a, "GURMUKHI LETTER ", "PA;PHA;BA;BHA;MA;YA;RA"⟩,
   ⟨0xa32, "GURMUKHI LETTER L", "A;LA"⟩,
   ⟨0xa35, "GURMUKHI LETTER ", "VA;SHA"⟩,
   ⟨0xa38, "GURMUKHI LETTER ", "SA;HA"⟩,
   ⟨0xa3c, "GURMUKHI SIGN NUKTA", ""⟩,
   ⟨0xa3e, "GURMUKHI VOWEL SIGN ", "AA;I;II;U;UU"⟩,
   ⟨0xa47, "GURMUKHI VOWEL SIGN ", "EE;AI"⟩,
   ⟨0xa4b, "GURMUKHI ", "VOWEL SIGN OO;VOWEL SIGN AU;SIGN VIRAMA"⟩,
   ⟨0xa51, "GURMUKHI SIGN UDAAT", ""⟩,
   ⟨0xa59, "GURMUKHI LETTER ", "KHHA;GHHA;ZA;RRA"⟩,
   ⟨0xa5e, "GURMUKHI LETTER FA", ""⟩,
   ⟨0xa66, "GURMUKHI DIGIT ", "ZERO;ONE;TWO;THREE;FOUR;FIVE;SIX;SEVEN;EIGHT"⟩,
   ⟨0xa6f, "GURMUKHI ", "DIGIT NINE;TIPPI;ADDAK;IRI;URA;EK ONKAR;SIGN YAKASH;ABBREVIATION SIGN"⟩]

/-- The names in the block Gujarati. -/
def gujarati : List NameRun :=
  [⟨0xa81, "GUJARATI SIGN ", "CANDRABINDU;ANUSVARA;VISARGA"⟩,
   ⟨0xa85, "GUJARATI LETTER ", "A;AA;I;II"⟩,
   ⟨0xa89, "GUJARATI ", "LETTER U;LETTER UU;LETTER VOCALIC R;LETTER VOCALIC L;VOWEL CANDRA E"⟩,
   ⟨0xa8f, "GUJARATI ", "LETTER E;LETTER AI;VOWEL CANDRA O"⟩,
   ⟨0xa93, "GUJARATI LETTER ",
     "O;AU;KA;KHA;GA;GHA;NGA;CA;CHA;JA;JHA;NYA;TTA;TTHA;DDA;DDHA;NNA;TA;THA;DA;DHA;NA"⟩,
   ⟨0xaaa, "GUJARATI LETTER ", "PA;PHA;BA;BHA;MA;YA;RA"⟩,
   ⟨0xab2, "GUJARATI LETTER L", "A;LA"⟩,
   ⟨0xab5, "GUJARATI LETTER ", "VA;SHA;SSA;SA;HA"⟩,
   ⟨0xabc, "GUJARATI ", "SIGN NUKTA;SIGN AVAGRAHA;VOWEL SIGN AA"⟩,
   ⟨0xabf, "GUJARATI VOWEL SIGN ", "I;II;U;UU;VOCALIC R;VOCALIC RR;CANDRA E"⟩,
   ⟨0xac7, "GUJARATI VOWEL SIGN ", "E;AI;CANDRA O"⟩,
   ⟨0xacb, "GUJARATI ", "VOWEL SIGN O;VOWEL SIGN AU;SIGN VIRAMA"⟩,
   ⟨0xad0, "GUJARATI OM", ""⟩,
   ⟨0xae0, "GUJARATI ",
     "LETTER VOCALIC RR;LETTER VOCALIC LL;VOWEL SIGN VOCALIC L;VOWEL SIGN VOCALIC LL"⟩,
   ⟨0xae6, "GUJARATI DIGIT ", "ZERO;ONE;TWO;THREE;FOUR;FIVE;SIX"⟩,
   ⟨0xaed, "GUJARATI ", "DIGIT SEVEN;DIGIT EIGHT;DIGIT NINE;ABBREVIATION SIGN;RUPEE SIGN"⟩,
   ⟨0xaf9, "GUJARATI ", "LETTER ZHA;SIGN SUKUN;SIGN SHADDA;SIGN MADDAH"⟩,
   ⟨0xafd, "GUJARATI SIGN ", "THREE-DOT NUKTA ABOVE;CIRCLE NUKTA ABOVE;TWO-CIRCLE NUKTA ABOVE"⟩]

/-- The names in the block Oriya. -/
def oriya : List NameRun :=
  [⟨0xb01, "ORIYA SIGN ", "CANDRABINDU;ANUSVARA;VISARGA"⟩,
   ⟨0xb05, "ORIYA LETTER ", "A;AA;I;II;U;UU;VOCALIC R;VOCALIC L"⟩,
   ⟨0xb0f, "ORIYA LETTER ", "E;AI"⟩,
   ⟨0xb13, "ORIYA LETTER ",
     "O;AU;KA;KHA;GA;GHA;NGA;CA;CHA;JA;JHA;NYA;TTA;TTHA;DDA;DDHA;NNA;TA;THA;DA;DHA;NA"⟩,
   ⟨0xb2a, "ORIYA LETTER ", "PA;PHA;BA;BHA;MA;YA;RA"⟩,
   ⟨0xb32, "ORIYA LETTER L", "A;LA"⟩,
   ⟨0xb35, "ORIYA LETTER ", "VA;SHA;SSA;SA;HA"⟩,
   ⟨0xb3c, "ORIYA ", "SIGN NUKTA;SIGN AVAGRAHA;VOWEL SIGN AA"⟩,
   ⟨0xb3f, "ORIYA VOWEL SIGN ", "I;II;U;UU;VOCALIC R;VOCALIC RR"⟩,
   ⟨0xb47, "ORIYA VOWEL SIGN ", "E;AI"⟩,
   ⟨0xb4b, "ORIYA ", "VOWEL SIGN O;VOWEL SIGN AU;SIGN VIRAMA"⟩,
   ⟨0xb55, "ORIYA ", "SIGN OVERLINE;AI LENGTH MARK;AU LENGTH MARK"⟩,
   ⟨0xb5c, "ORIYA LETTER R", "RA;HA"⟩,
   ⟨0xb5f, "ORIYA ",
     "LETTER YYA;LETTER VOCALIC RR;LETTER VOCALIC LL;VOWEL SIGN VOCALIC L;VOWEL SIGN VOCALIC LL"⟩,
   ⟨0xb66, "ORIYA DIGIT ", "ZERO;ONE;TWO;THREE;FOUR;FIVE;SIX"⟩,
   ⟨0xb6d, "ORIYA ", "DIGIT SEVEN;DIGIT EIGHT;DIGIT NINE;ISSHAR;LETTER WA;FRACTION ONE QUARTER"⟩,
   ⟨0xb73, "ORIYA FRACTION ", "ONE HALF;THREE QUARTERS;ONE SIXTEENTH;ONE EIGHTH;THREE SIXTEENTHS"⟩]

/-- The names in the block Tamil. -/
def tamil : List NameRun :=
  [⟨0xb82, "TAMIL SIGN ", "ANUSVARA;VISARGA"⟩,
   ⟨0xb85, "TAMIL LETTER ", "A;AA;I;II;U;UU"⟩,
   ⟨0xb8e, "TAMIL LETTER ", "E;EE;AI"⟩,
   ⟨0xb92, "TAMIL LETTER ", "O;OO;AU;KA"⟩,
   ⟨0xb99, "TAMIL LETTER ", "NGA;CA"⟩,
   ⟨0xb9c, "TAMIL LETTER JA", ""⟩,
   ⟨0xb9e, "TAMIL LETTER ", "NYA;TTA"⟩,
   ⟨0xba3, "TAMIL LETTER ", "NNA;TA"⟩,
   ⟨0xba8, "TAMIL LETTER ", "NA;NNNA;PA"⟩,
   ⟨0xbae, "TAMIL LETTER ", "MA;YA;RA;RRA;LA;LLA;LLLA;VA;SHA;SSA;SA;HA"⟩,
   ⟨0xbbe, "TAMIL VOWEL SIGN ", "AA;I;II;U;UU"⟩,
   ⟨0xbc6, "TAMIL VOWEL SIGN ", "E;EE;AI"⟩,
   ⟨0xbca, "TAMIL ", "VOWEL SIGN O;VOWEL SIGN OO;VOWEL SIGN AU;SIGN VIRAMA"⟩,
   ⟨0xbd0, "TAMIL OM", ""⟩,
   ⟨0xbd7, "TAMIL AU LENGTH MARK", ""⟩,
   ⟨0xbe6, "TAMIL DIGIT ", "ZERO;ONE;TWO;THREE;FOUR;FIVE;SIX;SEVEN;EIGHT;NINE"⟩,
   ⟨0xbf0, "TAMIL ", "NUMBER TEN;NUMBER ONE HUNDRED;NUMBER ONE THOUSAND;DAY SIGN;MONTH SIGN"⟩,
   ⟨0xbf5, "TAMIL ", "YEAR SIGN;DEBIT SIGN;CREDIT SIGN;AS ABOVE SIGN;RUPEE SIGN;NUMBER SIGN"⟩]

/-- The names in the block Telugu. -/
def telugu : List NameRun :=
  [⟨0xc00, "TELUGU SIGN ",
     "COMBINING CANDRABINDU ABOVE;CANDRABINDU;ANUSVARA;VISARGA;COMBINING ANUSVARA ABOVE"⟩,
   ⟨0xc05, "TELUGU LETTER ", "A;AA;I;II;U;UU;VOCALIC R;VOCALIC L"⟩,
   ⟨0xc0e, "TELUGU LETTER ", "E;EE;AI"⟩,
   ⟨0xc12, "TELUGU LETTER ",
     "O;OO;AU;KA;KHA;GA;GHA;NGA;CA;CHA;JA;JHA;NYA;TTA;TTHA;DDA;DDHA;NNA;TA;THA;DA;DHA;NA"⟩,
   ⟨0xc2a, "TELUGU LETTER ", "PA;PHA;BA;BHA;MA;YA;RA;RRA;LA;LLA;LLLA;VA;SHA;SSA;SA;HA"⟩,
   ⟨0xc3c, "TELUGU ", "SIGN NUKTA;SIGN AVAGRAHA;VOWEL SIGN AA"⟩,
   ⟨0xc3f, "TELUGU VOWEL SIGN ", "I;II;U;UU;VOCALIC R;VOCALIC RR"⟩,
   ⟨0xc46, "TELUGU VOWEL SIGN ", "E;EE;AI"⟩,
   ⟨0xc4a, "TELUGU ", "VOWEL SIGN O;VOWEL SIGN OO;VOWEL SIGN AU;SIGN VIRAMA"⟩,
   ⟨0xc55, "TELUGU ", "LENGTH MARK;AI LENGTH MARK"⟩,
   ⟨0xc58, "TELUGU LETTER ", "TSA;DZA;RRRA"⟩,
   ⟨0xc5d, "TELUGU LETTER NAKAARA POLLU", ""⟩,
   ⟨0xc60, "TELUGU ",
     "LETTER VOCALIC RR;LETTER VOCALIC LL;VOWEL SIGN VOCALIC L;VOWEL SIGN VOCALIC LL"⟩,
   ⟨0xc66, "TELUGU DIGIT ", "ZERO;ONE;TWO;THREE;FOUR;FIVE;SIX;SEVEN;EIGHT;NINE"⟩,
   ⟨0xc77, "TELUGU ", "SIGN SIDDHAM;FRACTION DIGIT ZERO FOR ODD POWERS OF FOUR"⟩,
   ⟨0xc79, "TELUGU FRACTION DIGIT ", "ONE FOR ODD POWERS OF FOUR;TWO FOR ODD POWERS OF FOUR"⟩,
   ⟨0xc7b, "TELUGU FRACTION DIGIT ",
     "THREE FOR ODD POWERS OF FOUR;ONE FOR EVEN POWERS OF FOUR;TWO FOR EVEN POWERS OF FOUR"⟩,
   ⟨0xc7e, "TELUGU ", "FRACTION DIGIT THREE FOR EVEN POWERS OF FOUR;SIGN TUUMU"⟩]

/-- The names in the block Kannada. -/
def kannada : List NameRun :=
  [⟨0xc80, "KANNADA SIGN ", "SPACING CANDRABINDU;CANDRABINDU;ANUSVARA;VISARGA;SIDDHAM"⟩,
   ⟨0xc85, "KANNADA LETTER ", "A;AA;I;II;U;UU;VOCALIC R;VOCALIC L"⟩,
   ⟨0xc8e, "KANNADA LETTER ", "E;EE;AI"⟩,
   ⟨0xc92, "KANNADA LETTER ",
     "O;OO;AU;KA;KHA;GA;GHA;NGA;CA;CHA;JA;JHA;NYA;TTA;TTHA;DDA;DDHA;NNA;TA;THA;DA;DHA;NA"⟩,
   ⟨0xcaa, "KANNADA LETTER ", "PA;PHA;BA;BHA;MA;YA;RA;RRA;LA;LLA"⟩,
   ⟨0xcb5, "KANNADA LETTER ", "VA;SHA;SSA;SA;HA"⟩,
   ⟨0xcbc, "KANNADA ", "SIGN NUKTA;SIGN AVAGRAHA;VOWEL SIGN AA"⟩,
   ⟨0xcbf, "KANNADA VOWEL SIGN ", "I;II;U;UU;VOCALIC R;VOCALIC RR"⟩,
   ⟨0xcc6, "KANNADA VOWEL SIGN ", "E;EE;AI"⟩,
   ⟨0xcca, "KANNADA ", "VOWEL SIGN O;VOWEL SIGN OO;VOWEL SIGN AU;SIGN VIRAMA"⟩,
   ⟨0xcd5, "KANNADA ", "LENGTH MARK;AI LENGTH MARK"⟩,
   ⟨0xcdd, "KANNADA LETTER ", "NAKAARA POLLU;FA"⟩,
   ⟨0xce0, "KANNADA ",
     "LETTER VOCALIC RR;LETTER VOCALIC LL;VOWEL SIGN VOCALIC L;VOWEL SIGN VOCALIC LL"⟩,
   ⟨0xce6, "KANNADA DIGIT ", "ZERO;ONE;TWO;THREE;FOUR;FIVE;SIX;SEVEN;EIGHT;NINE"⟩,
   ⟨0xcf1, "KANNADA SIGN ", "JIHVAMULIYA;UPADHMANIYA"⟩]

/-- The names in the block Malayalam. -/
def malayalam : List NameRun :=
  [⟨0xd00, "MALAYALAM SIGN ", "COMBINING ANUSVARA ABOVE;CANDRABINDU;ANUSVARA;VISARGA"⟩,
   ⟨0xd04, "MALAYALAM LETTER ", "VEDIC ANUSVARA;A;AA;I;II;U;UU;VOCALIC R;VOCALIC L"⟩,
   ⟨0xd0e, "MALAYALAM LETTER ", "E;EE;AI"⟩,
   ⟨0xd12, "MALAYALAM LETTER ", "O;OO;AU;KA;KHA;GA;GHA;NGA;CA;CHA;JA;JHA;NYA;TTA;TTHA"⟩,
   ⟨0xd21, "MALAYALAM LETTER ",
     "DDA;DDHA;NNA;TA;THA;DA;DHA;NA;NNNA;PA;PHA;BA;BHA;MA;YA;RA;RRA;LA;LLA;LLLA;VA;SHA;SSA;SA;HA"⟩,
   ⟨0xd3a, "MALAYALAM ", "LETTER TTTA;SIGN VERTICAL BAR VIRAMA;SIGN CIRCULAR VIRAMA;SIGN AVAGRAHA"⟩,
   ⟨0xd3e, "MALAYALAM VOWEL SIGN ", "AA;I;II;U;UU;VOCALIC R;VOCALIC RR"⟩,
   ⟨0xd46, "MALAYALAM VOWEL SIGN ", "E;EE;AI"⟩,
   ⟨0xd4a, "MALAYALAM ",
     "VOWEL SIGN O;VOWEL SIGN OO;VOWEL SIGN AU;SIGN VIRAMA;LETTER DOT REPH;SIGN PARA"⟩,
   ⟨0xd54, "MALAYALAM ", "LETTER CHILLU M;LETTER CHILLU Y;LETTER CHILLU LLL;AU LENGTH MARK"⟩,
   ⟨0xd58, "MALAYALAM FRACTION ", "ONE ONE-HUNDRED-AND-SIXTIETH;ONE FORTIETH;THREE EIGHTIETHS"⟩,
   ⟨0xd5b, "MALAYALAM FRACTION ", "ONE TWENTIETH;ONE TENTH;THREE TWENTIETHS"⟩,
   ⟨0xd5e, "MALAYALAM ", "FRACTION ONE FIFTH;LETTER ARCHAIC II;LETTER VOCALIC RR"⟩,
   ⟨0xd61, "MALAYALAM ", "LETTER VOCALIC LL;VOWEL SIGN VOCALIC L;VOWEL SIGN VOCALIC LL"⟩,
   ⟨0xd66, "MALAYALAM DIGIT ", "ZERO;ONE;TWO;THREE;FOUR;FIVE;SIX;SEVEN;EIGHT"⟩,
   ⟨0xd6f, "MALAYALAM ", "DIGIT NINE;NUMBER TEN;NUMBER ONE HUNDRED;NUMBER ONE THOUSAND"⟩,
   ⟨0xd73, "MALAYALAM FRACTION ", "ONE QUARTER;ONE HALF;THREE QUARTERS;ONE SIXTEENTH"⟩,
   ⟨0xd77, "MALAYALAM ", "FRACTION ONE EIGHTH;FRACTION THREE SIXTEENTHS;DATE MARK"⟩,
   ⟨0xd7a, "MALAYALAM LETTER CHILLU ", "NN;N;RR;L;LL;K"⟩]

/-- The names in the block Sinhala. -/
def sinhala : List NameRun :=
  [⟨0xd81, "SINHALA SIGN ", "CANDRABINDU;ANUSVARAYA;VISARGAYA"⟩,
   ⟨0xd85, "SINHALA LETTER ", "AYANNA;AAYANNA;AEYANNA;AEEYANNA;IYANNA;IIYANNA;UYANNA"⟩,
   ⟨0xd8c, "SINHALA LETTER ",
     "UUYANNA;IRUYANNA;IRUUYANNA;ILUYANNA;ILUUYANNA;EYANNA;EEYANNA;AIYANNA;OYANNA;OOYANNA;AUYANNA"⟩,
   ⟨0xd9a, "SINHALA LETTER ", "ALPAPRAANA KAYANNA;MAHAAPRAANA KAYANNA"⟩,
   ⟨0xd9c, "SINHALA LETTER ", "ALPAPRAANA GAYANNA;MAHAAPRAANA GAYANNA;KANTAJA NAASIKYAYA"⟩,
   ⟨0xd9f, "SINHALA LETTER ", "SANYAKA GAYANNA;ALPAPRAANA CAYANNA;MAHAAPRAANA CAYANNA"⟩,
   ⟨0xda2, "SINHALA LETTER ", "ALPAPRAANA JAYANNA;MAHAAPRAANA JAYANNA;TAALUJA NAASIKYAYA"⟩,
   ⟨0xda5, "SINHALA LETTER ", "TAALUJA SANYOOGA NAAKSIKYAYA;SANYAKA JAYANNA;ALPAPRAANA TTAYANNA"⟩,
   ⟨0xda8, "SINHALA LETTER ", "MAHAAPRAANA TTAYANNA;ALPAPRAANA DDAYANNA;MAHAAPRAANA DDAYANNA"⟩,
   ⟨0xdab, "SINHALA LETTER ", "MUURDHAJA NAYANNA;SANYAKA DDAYANNA;ALPAPRAANA TAYANNA"⟩,
   ⟨0xdae, "SINHALA LETTER ",
     "MAHAAPRAANA TAYANNA;ALPAPRAANA DAYANNA;MAHAAPRAANA DAYANNA;DANTAJA NAYANNA"⟩,
   ⟨0xdb3, "SINHALA LETTER ", "SANYAKA DAYANNA;ALPAPRAANA PAYANNA;MAHAAPRAANA PAYANNA"⟩,
   ⟨0xdb6, "SINHALA LETTER ",
     "ALPAPRAANA BAYANNA;MAHAAPRAANA BAYANNA;MAYANNA;AMBA BAYANNA;YAYANNA;RAYANNA"⟩,
   ⟨0xdbd, "SINHALA LETTER DANTAJA LAYANNA", ""⟩,
   ⟨0xdc0, "SINHALA LETTER ",
     "VAYANNA;TAALUJA SAYANNA;MUURDHAJA SAYANNA;DANTAJA SAYANNA;HAYANNA;MUURDHAJA LAYANNA;FAYANNA"⟩,
   ⟨0xdca, "SINHALA SIGN AL-LAKUNA", ""⟩,
   ⟨0xdcf, "SINHALA VOWEL SIGN ",
     "AELA-PILLA;KETTI AEDA-PILLA;DIGA AEDA-PILLA;KETTI IS-PILLA;DIGA IS-PILLA;KETTI PAA-PILLA"⟩,
   ⟨0xdd6, "SINHALA VOWEL SIGN DIGA PAA-PILLA", ""⟩,
   ⟨0xdd8, "SINHALA VOWEL SIGN ", "GAETTA-PILLA;KOMBUVA;DIGA KOMBUVA;KOMBU DEKA"⟩,
   ⟨0xddc, "SINHALA VOWEL SIGN ",
     "KOMBUVA HAA AELA-PILLA;KOMBUVA HAA DIGA AELA-PILLA;KOMBUVA HAA GAYANUKITTA;GAYANUKITTA"⟩,
   ⟨0xde6, "SINHALA LITH DIGIT ", "ZERO;ONE;TWO;THREE;FOUR;FIVE;SIX;SEVEN;EIGHT;NINE"⟩,
   ⟨0xdf2, "SINHALA ",
     "VOWEL SIGN DIGA GAETTA-PILLA;VOWEL SIGN DIGA GAYANUKITTA;PUNCTUATION KUNDDALIYA"⟩]

/-- The names in the block Thai. -/
def thai : List NameRun :=
  [⟨0xe01, "THAI CHARACTER ", "KO KAI;KHO KHAI;KHO KHUAT;KHO KHWAI;KHO KHON;KHO RAKHANG;NGO NGU"⟩,
   ⟨0xe08, "THAI CHARACTER ", "CHO CHAN;CHO CHING;CHO CHANG;SO SO;CHO CHOE"⟩,
   ⟨0xe0d, "THAI CHARACTER ", "YO YING;DO CHADA;TO PATAK;THO THAN;THO NANGMONTHO;THO PHUTHAO"⟩,
   ⟨0xe13, "THAI CHARACTER ", "NO NEN;DO DEK;TO TAO;THO THUNG;THO THAHAN;THO THONG;NO NU"⟩,
   ⟨0xe1a, "THAI CHARACTER ", "BO BAIMAI;PO PLA;PHO PHUNG;FO FA;PHO PHAN;FO FAN;PHO SAMPHAO;MO MA"⟩,
   ⟨0xe22, "THAI CHARACTER ", "YO YAK;RO RUA;RU;LO LING;LU;WO WAEN;SO SALA;SO RUSI;SO SUA;HO HIP"⟩,
   ⟨0xe2c, "THAI CHARACTER ", "LO CHULA;O ANG;HO NOKHUK;PAIYANNOI;SARA A;MAI HAN-AKAT;SARA AA"⟩,
   ⟨0xe33, "THAI CHARACTER ", "SARA AM;SARA I;SARA II;SARA UE;SARA UEE;SARA U;SARA UU;PHINTHU"⟩,
   ⟨0xe3f, "THAI C", "URRENCY SYMBOL BAHT;HARACTER SARA E;HARACTER SARA AE"⟩,
   ⟨0xe42, "THAI CHARACTER ", "SARA O;SARA AI MAIMUAN;SARA AI MAIMALAI;LAKKHANGYAO;MAIYAMOK"⟩,
   ⟨0xe47, "THAI CHARACTER ",
     "MAITAIKHU;MAI EK;MAI THO;MAI TRI;MAI CHATTAWA;THANTHAKHAT;NIKHAHIT;YAMAKKAN;FONGMAN"⟩,
   ⟨0xe50, "THAI DIGIT ", "ZERO;ONE;TWO;THREE;FOUR;FIVE;SIX"⟩,
   ⟨0xe57, "THAI ", "DIGIT SEVEN;DIGIT EIGHT;DIGIT NINE;CHARACTER ANGKHANKHU;CHARACTER KHOMUT"⟩]

/-- The names in the block Lao. -/
def lao : List NameRun :=
  [⟨0xe81, "LAO LETTER K", "O;HO SUNG"⟩,
   ⟨0xe84, "LAO LETTER KHO TAM", ""⟩,
   ⟨0xe86, "LAO LETTER ", "PALI GHA;NGO;CO;PALI CHA;SO TAM"⟩,
   ⟨0xe8c, "LAO LETTER ", "PALI JHA;NYO;PALI NYA;PALI TTA"⟩,
   ⟨0xe90, "LAO LETTER ", "PALI TTHA;PALI DDA;PALI DDHA;PALI NNA;DO;TO;THO SUNG;THO TAM;PALI DHA"⟩,
   ⟨0xe99, "LAO LETTER ", "NO;BO;PO;PHO SUNG;FO TAM;PHO TAM;FO SUNG;PALI BHA;MO;YO;LO LING"⟩,
   ⟨0xea5, "LAO LETTER LO LOOT", ""⟩,
   ⟨0xea7, "LAO LETTER ", "WO;SANSKRIT SHA;SANSKRIT SSA"⟩,
   ⟨0xeaa, "LAO ", "LETTER SO SUNG;LETTER HO SUNG;LETTER PALI LLA;LETTER O;LETTER HO TAM;ELLIPSIS"⟩,
   ⟨0xeb0, "LAO VOWEL SIGN ", "A;MAI KAN;AA;AM;I;II;Y;YY;U;UU"⟩,
   ⟨0xeba, "LAO ", "SIGN PALI VIRAMA;VOWEL SIGN MAI KON;SEMIVOWEL SIGN LO;SEMIVOWEL SIGN NYO"⟩,
   ⟨0xec0, "LAO VOWEL SIGN ", "E;EI;O;AY;AI"⟩,
   ⟨0xec6, "LAO KO LA", ""⟩,
   ⟨0xec8, "LAO ",
     "TONE MAI EK;TONE MAI THO;TONE MAI TI;TONE MAI CATAWA;CANCELLATION MARK;NIGGAHITA"⟩,
   ⟨0xed0, "LAO DIGIT ", "ZERO;ONE;TWO;THREE;FOUR;FIVE;SIX;SEVEN;EIGHT;NINE"⟩,
   ⟨0xedc, "LAO ", "HO NO;HO MO;LETTER KHMU GO;LETTER KHMU NYO"⟩]

/-- The names in the block Tibetan. -/
def tibetan : List NameRun :=
  [⟨0xf00, "TIBETAN ", "SYLLABLE OM;MARK GTER YIG MGO TRUNCATED A"⟩,
   ⟨0xf02, "TIBETAN MARK GTER YIG MGO -UM ", "RNAM BCAD MA;GTER TSHEG MA"⟩,
   ⟨0xf04, "TIBETAN MARK ", "INITIAL YIG MGO MDUN MA;CLOSING YIG MGO SGAB MA"⟩,
   ⟨0xf06, "TIBETAN MARK ", "CARET YIG MGO PHUR SHAD MA;YIG MGO TSHEG SHAD MA"⟩,
   ⟨0xf08, "TIBETAN MARK ", "SBRUL SHAD;BSKUR YIG MGO;BKA- SHOG YIG MGO;INTERSYLLABIC TSHEG"⟩,
   ⟨0xf0c, "TIBETAN MARK ", "DELIMITER TSHEG BSTAR;SHAD;NYIS SHAD;TSHEG SHAD;NYIS TSHEG SHAD"⟩,
   ⟨0xf11, "TIBETAN MARK ", "RIN CHEN SPUNGS SHAD;RGYA GRAM SHAD;CARET -DZUD RTAGS ME LONG CAN"⟩,
   ⟨0xf14, "TIBETAN ", "MARK GTER TSHEG;LOGOTYPE SIGN CHAD RTAGS;LOGOTYPE SIGN LHAG RTAGS"⟩,
   ⟨0xf17, "TIBETAN ASTROLOGICAL SIGN ", "SGRA GCAN -CHAR RTAGS;-KHYUD PA;SDONG TSHUGS"⟩,
   ⟨0xf1a, "TIBETAN SIGN RDEL ", "DKAR GCIG;DKAR GNYIS;DKAR GSUM;NAG GCIG;NAG GNYIS;DKAR RDEL NAG"⟩,
   ⟨0xf20, "TIBETAN DIGIT ", "ZERO;ONE;TWO;THREE;FOUR;FIVE;SIX;SEVEN;EIGHT;NINE"⟩,
   ⟨0xf2a, "TIBETAN DIGIT HALF ", "ONE;TWO;THREE;FOUR;FIVE;SIX;SEVEN;EIGHT;NINE;ZERO"⟩,
   ⟨0xf34, "TIBETAN MARK ", "BSDUS RTAGS;NGAS BZUNG NYI ZLA;CARET -DZUD RTAGS BZHI MIG CAN"⟩,
   ⟨0xf37, "TIBETAN MARK ", "NGAS BZUNG SGOR RTAGS;CHE MGO;TSA -PHRU;GUG RTAGS GYON"⟩,
   ⟨0xf3b, "TIBETAN ",
     "MARK GUG RTAGS GYAS;MARK ANG KHANG GYON;MARK ANG KHANG GYAS;SIGN YAR TSHES;SIGN MAR TSHES"⟩,
   ⟨0xf40, "TIBETAN LETTER ", "KA;KHA;GA;GHA;NGA;CA;CHA;JA"⟩,
   ⟨0xf49, "TIBETAN LETTER ", "NYA;TTA;TTHA;DDA;DDHA;NNA;TA;THA;DA;DHA;NA;PA;PHA;BA"⟩,
   ⟨0xf57, "TIBETAN LETTER ",
     "BHA;MA;TSA;TSHA;DZA;DZHA;WA;ZHA;ZA;-A;YA;RA;LA;SHA;SSA;SA;HA;A;KSSA;FIXED-FORM RA;KKA;RRA"⟩,
   ⟨0xf71, "TIBETAN VOWEL SIGN ", "AA;I;II;U;UU;VOCALIC R;VOCALIC RR;VOCALIC L;VOCALIC LL;E;EE;O"⟩,
   ⟨0xf7d, "TIBETAN ", "VOWEL SIGN OO;SIGN RJES SU NGA RO;SIGN RNAM BCAD;VOWEL SIGN REVERSED I"⟩,
   ⟨0xf81, "TIBETAN ", "VOWEL SIGN REVERSED II;SIGN NYI ZLA NAA DA;SIGN SNA LDAN"⟩,
   ⟨0xf84, "TIBETAN ", "MARK HALANTA;MARK PALUTA;SIGN LCI RTAGS;SIGN YANG RTAGS;SIGN LCE TSA CAN"⟩,
   ⟨0xf89, "TIBETAN SIGN ", "MCHU CAN;GRU CAN RGYINGS;GRU MED RGYINGS;INVERTED MCHU CAN"⟩,
   ⟨0xf8d, "TIBETAN SUBJOINED ", "SIGN LCE TSA CAN;SIGN MCHU CAN;SIGN INVERTED MCHU CAN;LETTER KA"⟩,
   ⟨0xf91, "TIBETAN SUBJOINED LETTER ", "KHA;GA;GHA;NGA;CA;CHA;JA"⟩,
   ⟨0xf99, "TIBETAN SUBJOINED LETTER ", "NYA;TTA;TTHA;DDA;DDHA;NNA;TA;THA;DA;DHA;NA;PA;PHA;BA"⟩,
   ⟨0xfa7, "TIBETAN SUBJOINED LETTER ", "BHA;MA;TSA;TSHA;DZA;DZHA;WA;ZHA;ZA;-A;YA;RA;LA;SHA;SSA"⟩,
   ⟨0xfb6, "TIBETAN SUBJOINED LETTER ", "SA;HA;A;KSSA;FIXED-FORM WA;FIXED-FORM YA;FIXED-FORM RA"⟩,
   ⟨0xfbe, "TIBETAN ", "KU RU KHA;KU RU KHA BZHI MIG CAN;CANTILLATION SIGN HEAVY BEAT"⟩,
   ⟨0xfc1, "TIBETAN CANTILLATION SIGN ", "LIGHT BEAT;CANG TE-U;SBUB -CHAL"⟩,
   ⟨0xfc4, "TIBETAN SYMBOL ", "DRIL BU;RDO RJE;PADMA GDAN;RDO RJE RGYA GRAM;PHUR PA"⟩,
   ⟨0xfc9, "TIBETAN SYMBOL NOR BU", "; NYIS -KHYIL; GSUM -KHYIL; BZHI -KHYIL"⟩,
   ⟨0xfce, "TIBETAN ", "SIGN RDEL NAG RDEL DKAR;SIGN RDEL NAG GSUM;MARK BSKA- SHOG GI MGO RGYAN"⟩,
   ⟨0xfd1, "TIBETAN MARK ", "MNYAM YIG GI MGO RGYAN;NYIS TSHEG"⟩,
   ⟨0xfd3, "TIBETAN MARK ",
     "INITIAL BRDA RNYING YIG MGO MDUN MA;CLOSING BRDA RNYING YIG MGO SGAB MA"⟩,
   ⟨0xfd5, "", "RIGHT-FACING SVASTI SIGN;LEFT-FACING SVASTI SIGN"⟩,
   ⟨0xfd7, "", "RIGHT-FACING SVASTI SIGN WITH DOTS;LEFT-FACING SVASTI SIGN WITH DOTS"⟩,
   ⟨0xfd9, "TIBETAN MARK ", "LEADING MCHAN RTAGS;TRAILING MCHAN RTAGS"⟩]

/-- All names of this module. -/
def southAsian : List NameRun :=
  List.flatten
    [devanagari, bengali, gurmukhi, gujarati, oriya, tamil, telugu, kannada, malayalam, sinhala,
     thai, lao, tibetan]

end Names
end Unicode
end LiquidMarkdown
