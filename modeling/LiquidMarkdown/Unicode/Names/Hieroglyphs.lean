import LiquidMarkdown.Unicode.NameRun

/-!
# Names of characters: signs for words

* `hieroglyphs` — the names of cuneiform, hieroglyphs, the parts of Tangut characters, and
  syllabaries of Africa and Asia.
-/

namespace LiquidMarkdown
namespace Unicode
namespace Names

/-- The names in the block Cuneiform. -/
def cuneiform : List NameRun :=
  [⟨0x12000, "CUNEIFORM SIGN A", "; TIMES A; TIMES BAD; TIMES GAN2 TENU; TIMES HA; TIMES IGI"⟩,
   ⟨0x12006, "CUNEIFORM SIGN A", " TIMES LAGAR GUNU; TIMES MUSH; TIMES SAG;2;B;B TIMES ASH2"⟩,
   ⟨0x1200c, "CUNEIFORM SIGN AB TIMES ", "DUN3 GUNU;GAL;GAN2 TENU;HA;IGI GUNU;IMIN;LAGAB;SHESH"⟩,
   ⟨0x12014, "CUNEIFORM SIGN AB", " TIMES U PLUS U PLUS U; GUNU;2;2 TIMES BALAG;2 TIMES GAN2 TENU"⟩,
   ⟨0x12019, "CUNEIFORM SIGN A",
     "B2 TIMES ME PLUS EN;B2 TIMES SHA3;B2 TIMES TAK4;D;K;K TIMES ERIN2;K TIMES SHITA PLUS GISH;L"⟩,
   ⟨0x12021, "CUNEIFORM SIGN AL TIMES ", "AL;DIM2;GISH;HA;KAD3;KI;SHE;USH"⟩,
   ⟨0x12029, "CUNEIFORM SIGN A", "LAN;LEPH;MAR;MAR TIMES SHE;N;N OVER AN;N THREE TIMES"⟩,
   ⟨0x12030, "CUNEIFORM SIGN A", "N PLUS NAGA OPPOSING AN PLUS NAGA;N PLUS NAGA SQUARED;NSHE;PIN"⟩,
   ⟨0x12034, "CUNEIFORM SIGN A", "RAD;RAD TIMES KUR;RKAB;SAL2;SH;SH ZIDA TENU;SH KABA TENU"⟩,
   ⟨0x1203b, "CUNEIFORM SIGN ASH OVER ASH ", "TUG2 OVER TUG2 TUG2 OVER TUG2 PAP;OVER ASH"⟩,
   ⟨0x1203d, "CUNEIFORM SIGN ASH", " OVER ASH OVER ASH CROSSING ASH OVER ASH OVER ASH;2;GAB"⟩,
   ⟨0x12040, "CUNEIFORM SIGN B", "A;AD;AG3;AHAR2;AL;AL OVER BAL;ALAG;AR;ARA2;I;I TIMES A"⟩,
   ⟨0x1204b, "CUNEIFORM SIGN B", "I TIMES GAR;I TIMES IGI GUNU;U;U OVER BU AB;U OVER BU UN"⟩,
   ⟨0x12050, "CUNEIFORM SIGN ", "BU CROSSING BU;BULUG;BULUG OVER BULUG;BUR;BUR2;DA;DAG"⟩,
   ⟨0x12057, "CUNEIFORM SIGN DAG KISIM5 TIMES ", "A PLUS MASH;AMAR;BALAG;BI;GA;GA PLUS MASH;GI"⟩,
   ⟨0x1205e, "CUNEIFORM SIGN DAG KISIM5 TIMES ",
     "GIR2;GUD;HA;IR;IR PLUS LU;KAK;LA;LU;LU PLUS MASH2;LUM;NE;PAP PLUS PAP;SI;TAK4;U2 PLUS GIR2"⟩,
   ⟨0x1206d, "CUNEIFORM SIGN D",
     "AG KISIM5 TIMES USH;AM;AR;ARA3;ARA4;I;IB;IM;IM TIMES SHE;IM2;IN;IN KASKAL U GUNU DISH;ISH;U"⟩,
   ⟨0x1207b, "CUNEIFORM SIGN DU", " OVER DU; GUNU; SHESHIG;B;B TIMES ESH2;B2;G;GUD;H;N;N3;N3 GUNU"⟩,
   ⟨0x12087, "CUNEIFORM SIGN ", "DUN3 GUNU GUNU;DUN4;DUR2;E;E TIMES PAP;E OVER E NUN OVER NUN;E2"⟩,
   ⟨0x1208e, "CUNEIFORM SIGN E2 TIMES ", "A PLUS HA PLUS DA;GAR;MI;SAL;SHE"⟩,
   ⟨0x12093, "CUNEIFORM SIGN E", "2 TIMES U;DIN;GIR;L;N;N TIMES GAN2;N TIMES GAN2 TENU;N TIMES ME"⟩,
   ⟨0x1209b, "CUNEIFORM SIGN E", "N CROSSING EN;N OPPOSING EN;N SQUARED;REN;RIN2;SH2;ZEN"⟩,
   ⟨0x120a2, "CUNEIFORM SIGN EZEN TIMES ", "A;A PLUS LAL;A PLUS LAL TIMES LAL;AN;BAD;DUN3 GUNU"⟩,
   ⟨0x120a8, "CUNEIFORM SIGN EZEN TIMES ",
     "DUN3 GUNU GUNU;HA;HA GUNU;IGI GUNU;KASKAL;KASKAL SQUARED;KU3;LA;LAL TIMES LAL;LI;LU;U2"⟩,
   ⟨0x120b4, "CUNEIFORM SIGN ", "EZEN TIMES UD;GA;GA GUNU;GA2;GA2 TIMES A PLUS DA PLUS HA"⟩,
   ⟨0x120b9, "CUNEIFORM SIGN GA2 TIMES A", " PLUS HA; PLUS IGI;B2 TENU PLUS TAB;N;SH;SH2 PLUS GAL"⟩,
   ⟨0x120bf, "CUNEIFORM SIGN GA2 TIMES ", "BAD;BAR PLUS RA;BUR;BUR PLUS RA;DA;DI;DIM TIMES SHE"⟩,
   ⟨0x120c6, "CUNEIFORM SIGN GA2 TIMES ", "DUB;EL;EL PLUS LA;EN;EN TIMES GAN2 TENU;GAN2 TENU;GAR"⟩,
   ⟨0x120cd, "CUNEIFORM SIGN GA2 TIMES ", "GI;GI4;GI4 PLUS A;GIR2 PLUS SU;HA PLUS LU PLUS ESH2"⟩,
   ⟨0x120d2, "CUNEIFORM SIGN GA2 TIMES ",
     "HAL;HAL PLUS LA;HI PLUS LI;HUB2;IGI GUNU;ISH PLUS HU PLUS ASH;KAK;KASKAL;KID;KID PLUS LAL"⟩,
   ⟨0x120dc, "CUNEIFORM SIGN GA2 TIMES ", "KU3 PLUS AN;LA;ME PLUS EN;MI;NUN;NUN OVER NUN;PA"⟩,
   ⟨0x120e3, "CUNEIFORM SIGN GA2 TIMES ", "SAL;SAR;SHE;SHE PLUS TUR;SHID;SUM;TAK4;U;UD;UD PLUS DU"⟩,
   ⟨0x120ed, "CUNEIFORM SIGN GA", "2 OVER GA2;BA;BA CROSSING GABA;D;D OVER GAD GAR OVER GAR"⟩,
   ⟨0x120f2, "CUNEIFORM SIGN GA", "L;L GAD OVER GAD GAR OVER GAR;LAM;M;N;N2;N2 TENU;N2 OVER GAN2"⟩,
   ⟨0x120fa, "CUNEIFORM SIGN G", "AN2 CROSSING GAN2;AR;AR3;ASHAN;ESHTIN;ESHTIN TIMES KUR;I"⟩,
   ⟨0x12101, "CUNEIFORM SIGN GI", " TIMES E; TIMES U; CROSSING GI;4;4 OVER GI4;4 CROSSING GI4;DIM"⟩,
   ⟨0x12108, "CUNEIFORM SIGN GIR", "2;2 GUNU;3;3 TIMES A PLUS IGI;3 TIMES GAN2 TENU;3 TIMES IGI"⟩,
   ⟨0x1210e, "CUNEIFORM SIGN GI", "R3 TIMES LU PLUS IGI;R3 TIMES PA;SAL;SH;SH CROSSING GISH"⟩,
   ⟨0x12113, "CUNEIFORM SIGN G", "ISH TIMES BAD;ISH TIMES TAK4;ISH TENU;U;U CROSSING GU;U2"⟩,
   ⟨0x12119, "CUNEIFORM SIGN GU2 TIMES ", "KAK;KAK TIMES IGI GUNU;NUN;SAL PLUS TUG2"⟩,
   ⟨0x1211d, "CUNEIFORM SIGN GU", "2 GUNU;D;D TIMES A PLUS KUR;D TIMES KUR;D OVER GUD LUGAL;L;M"⟩,
   ⟨0x12124, "CUNEIFORM SIGN ", "GUM TIMES SHE;GUR;GUR7;GURUN;GURUSH;HA;HA TENU;HA GUNU;HAL;HI"⟩,
   ⟨0x1212e, "CUNEIFORM SIGN HI TIMES ", "ASH;ASH2;BAD;DISH;GAD;KIN;NUN;SHE;U"⟩,
   ⟨0x12137, "CUNEIFORM SIGN ",
     "HU;HUB2;HUB2 TIMES AN;HUB2 TIMES HAL;HUB2 TIMES KASKAL;HUB2 TIMES LISH;HUB2 TIMES UD;HUL2;I"⟩,
   ⟨0x12140, "CUNEIFORM SIGN I", " A;B;DIM;DIM OVER IDIM BUR;DIM OVER IDIM SQUARED;G;GI;GI DIB"⟩,
   ⟨0x12148, "CUNEIFORM SIGN I",
     "GI RI;GI OVER IGI SHIR OVER SHIR UD OVER UD;GI GUNU;L;L TIMES GAN2 TENU;L2;M;M TIMES TAK4"⟩,
   ⟨0x12150, "CUNEIFORM SIGN ", "IM CROSSING IM;IM OPPOSING IM;IM SQUARED;IMIN;IN;IR;ISH;KA"⟩,
   ⟨0x12158, "CUNEIFORM SIGN KA TIMES ", "A;AD;AD PLUS KU3;ASH2;BAD;BALAG;BAR;BI;ERIN2;ESH2;GA"⟩,
   ⟨0x12163, "CUNEIFORM SIGN KA TIMES ",
     "GAL;GAN2 TENU;GAR;GAR PLUS SHA3 PLUS A;GI;GIR2;GISH PLUS SAR;GISH CROSSING GISH;GU;GUR7;IGI"⟩,
   ⟨0x1216e, "CUNEIFORM SIGN KA TIMES ", "IM;KAK;KI;KID;LI;LU;ME;ME PLUS DU;ME PLUS GI;ME PLUS TE"⟩,
   ⟨0x12178, "CUNEIFORM SIGN KA TIMES ",
     "MI;MI PLUS NUNUZ;NE;NUN;PI;RU;SA;SAR;SHA;SHE;SHID;SHU;SIG;SUHUR;TAR;U;U2;UD;UMUM TIMES PA"⟩,
   ⟨0x1218b, "CUNEIFORM SIGN KA", " TIMES USH; TIMES ZI;2;2 CROSSING KA2;B;D2;D3;D4;D5"⟩,
   ⟨0x12194, "CUNEIFORM SIGN KA", "D5 OVER KAD5;K;K TIMES IGI GUNU;L;L TIMES BAD;L CROSSING KAL"⟩,
   ⟨0x1219a, "CUNEIFORM SIGN KA", "M2;M4;SKAL;SKAL LAGAB TIMES U OVER LAGAB TIMES U"⟩,
   ⟨0x1219e, "CUNEIFORM SIGN K", "ASKAL OVER KASKAL LAGAB TIMES U OVER LAGAB TIMES U;ESH2;I"⟩,
   ⟨0x121a1, "CUNEIFORM SIGN KI", " TIMES BAD; TIMES U; TIMES UD;D;N;SAL;SH;SIM5;SIM5 OVER KISIM5"⟩,
   ⟨0x121aa, "CUNEIFORM SIGN KU", "; OVER HI TIMES ASH2 KU OVER HI TIMES ASH2;3;4;4 VARIANT FORM"⟩,
   ⟨0x121af, "CUNEIFORM SIGN ", "KU7;KUL;KUL GUNU;KUN;KUR;KUR OPPOSING KUR;KUSHU2;KWU318;LA;LAGAB"⟩,
   ⟨0x121b9, "CUNEIFORM SIGN LAGAB TIMES ",
     "A;A PLUS DA PLUS HA;A PLUS GAR;A PLUS LAL;AL;AN;ASH ZIDA TENU;BAD;BI;DAR;EN"⟩,
   ⟨0x121c4, "CUNEIFORM SIGN LAGAB TIMES ", "GA;GAR;GUD;GUD PLUS GUD;HA;HAL;HI TIMES NUN;IGI GUNU"⟩,
   ⟨0x121cc, "CUNEIFORM SIGN LAGAB TIMES ",
     "IM;IM PLUS HA;IM PLUS LU;KI;KIN;KU3;KUL;KUL PLUS HI PLUS A;LAGAB;LISH;LU;LUL;ME;ME PLUS EN"⟩,
   ⟨0x121da, "CUNEIFORM SIGN LAGAB TIMES ",
     "MUSH;NE;SHE PLUS SUM;SHITA PLUS GISH PLUS ERIN2;SHITA PLUS GISH TENU;SHU2;SHU2 PLUS SHU2"⟩,
   ⟨0x121e1, "CUNEIFORM SIGN LAGAB TIMES ",
     "SUM;TAG;TAK4;TE PLUS A PLUS SU PLUS NA;U;U PLUS A;U PLUS U PLUS U;U2 PLUS ASH;UD;USH"⟩,
   ⟨0x121eb, "CUNEIFORM SIGN LAGA", "B SQUARED;R;R TIMES SHE;R TIMES SHE PLUS SUM;R GUNU"⟩,
   ⟨0x121f0, "CUNEIFORM SIGN LA", "GAR GUNU OVER LAGAR GUNU SHE;HSHU;L;L TIMES LAL;M;M TIMES KUR"⟩,
   ⟨0x121f6, "CUNEIFORM SIGN L", "AM TIMES KUR PLUS RU;I;IL;IMMU2;ISH;U;U TIMES BAD;U2"⟩,
   ⟨0x121fe, "CUNEIFORM SIGN LU2 TIMES ", "AL;BAD;ESH2;ESH2 TENU;GAN2 TENU;HI TIMES BAD;IM"⟩,
   ⟨0x12205, "CUNEIFORM SIGN LU2 TIMES ",
     "KAD2;KAD3;KAD3 PLUS ASH;KI;LA PLUS ASH;LAGAB;ME PLUS EN;NE;NU;SI PLUS ASH;SIK2 PLUS BU;TUG2"⟩,
   ⟨0x12211, "CUNEIFORM SIGN LU", "2 TENU;2 CROSSING LU2;2 OPPOSING LU2;2 SQUARED;2 SHESHIG;3"⟩,
   ⟨0x12217, "CUNEIFORM SIGN LU", "GAL;GAL OVER LUGAL;GAL OPPOSING LUGAL;GAL SHESHIG;H;L;M"⟩,
   ⟨0x1221e, "CUNEIFORM SIGN ", "LUM OVER LUM;LUM OVER LUM GAR OVER GAR;MA;MA TIMES TAK4;MA GUNU"⟩,
   ⟨0x12223, "CUNEIFORM SIGN M", "A2;AH;AR;ASH;ASH2;E;ES;I;IN;U;U OVER MU;UG;UG GUNU;UNSUB;URGU2"⟩,
   ⟨0x12232, "CUNEIFORM SIGN MUSH",
     "; TIMES A; TIMES KUR; TIMES ZA; OVER MUSH; OVER MUSH TIMES A PLUS NA; CROSSING MUSH;3"⟩,
   ⟨0x1223a, "CUNEIFORM SIGN ", "MUSH3 TIMES A;MUSH3 TIMES A PLUS DI;MUSH3 TIMES DI;MUSH3 GUNU;NA"⟩,
   ⟨0x1223f, "CUNEIFORM SIGN NA", "2;GA;GA INVERTED;GA TIMES SHU TENU;GA OPPOSING NAGA"⟩,
   ⟨0x12244, "CUNEIFORM SIGN N", "AGAR;AM NUTILLU;AM;AM2;E;E TIMES A;E TIMES UD;E SHESHIG;I"⟩,
   ⟨0x1224d, "CUNEIFORM SIGN NI", " TIMES E;2;M;M TIMES GAN2 TENU;M TIMES GAR PLUS GAN2 TENU;NDA2"⟩,
   ⟨0x12253, "CUNEIFORM SIGN NINDA2 TIMES ", "AN;ASH;ASH PLUS ASH;GUD;ME PLUS GAN2 TENU;NE;NUN"⟩,
   ⟨0x1225a, "CUNEIFORM SIGN NINDA2 TIMES SHE", "; PLUS A AN; PLUS ASH; PLUS ASH PLUS ASH"⟩,
   ⟨0x1225e, "CUNEIFORM SIGN N", "INDA2 TIMES U2 PLUS ASH;INDA2 TIMES USH;ISAG;U;U11;UN"⟩,
   ⟨0x12264, "CUNEIFORM SIGN NUN LAGAR TIMES ", "GAR;MASH;SAL;SAL OVER NUN LAGAR TIMES SAL"⟩,
   ⟨0x12268, "CUNEIFORM SIGN NUN",
     " LAGAR TIMES USH; TENU; OVER NUN; CROSSING NUN; CROSSING NUN LAGAR OVER LAGAR;UZ"⟩,
   ⟨0x1226e, "CUNEIFORM SIGN NUNUZ AB2 TIMES ", "ASHGAB;BI;DUG;GUD;IGI GUNU;KAD3;LA;NE;SILA3;U2"⟩,
   ⟨0x12278, "CUNEIFORM SIGN ", "NUNUZ KISIM5 TIMES BI;NUNUZ KISIM5 TIMES BI U;PA"⟩,
   ⟨0x1227b, "CUNEIFORM SIGN P", "AD;AN;AP;ESH2;I;I TIMES A;I TIMES AB;I TIMES BI;I TIMES BU"⟩,
   ⟨0x12284, "CUNEIFORM SIGN PI ", "TIMES E;TIMES I;TIMES IB;TIMES U;TIMES U2;CROSSING PI"⟩,
   ⟨0x1228a, "CUNEIFORM SIGN PIRIG", "; TIMES KAL; TIMES UD; TIMES ZA; OPPOSING PIRIG"⟩,
   ⟨0x1228f, "CUNEIFORM SIGN ", "RA;RAB;RI;RU;SA;SAG NUTILLU;SAG;SAG TIMES A;SAG TIMES DU"⟩,
   ⟨0x12298, "CUNEIFORM SIGN SAG TIMES ", "DUB;HA;KAK;KUR;LUM;MI;NUN;SAL;SHID;TAB;U2;UB;UM;UR;USH"⟩,
   ⟨0x122a7, "CUNEIFORM SIGN S", "AG OVER SAG;AG GUNU;AL;AL LAGAB TIMES ASH2;ANGA2;AR;HA;HA3"⟩,
   ⟨0x122af, "CUNEIFORM SIGN SHA3 TIMES ", "A;BAD;GISH;NE;SHU2;TUR;U;U PLUS A"⟩,
   ⟨0x122b7, "CUNEIFORM SIGN SH", "A6;AB6;AR2;E;E HU;E OVER SHE GAD OVER GAD GAR OVER GAR"⟩,
   ⟨0x122bd, "CUNEIFORM SIGN SH",
     "E OVER SHE TAB OVER TAB GAR OVER GAR;EG9;EN;ESH;ESH2;ESHLAM;ID;ID TIMES A;ID TIMES IM;IM"⟩,
   ⟨0x122c7, "CUNEIFORM SIGN SHIM TIMES ", "A;BAL;BULUG;DIN;GAR;IGI;IGI GUNU;KUSHU2;LUL;MUG;SAL"⟩,
   ⟨0x122d2, "CUNEIFORM SIGN S",
     "HINIG;HIR;HIR TENU;HIR OVER SHIR BUR OVER BUR;HITA;HU;HU OVER INVERTED SHU;HU2;HUBUR;I"⟩,
   ⟨0x122dc, "CUNEIFORM SIGN S", "I GUNU;IG;IG4;IG4 OVER SIG4 SHU2;IK2;ILA3;U;U OVER SU;UD;UD2"⟩,
   ⟨0x122e6, "CUNEIFORM SIGN ", "SUHUR;SUM;SUMASH;SUR;SUR9;TA;TA ASTERISK;TA TIMES HI;TA TIMES MI"⟩,
   ⟨0x122ef, "CUNEIFORM SIGN TA", " GUNU;B;B OVER TAB NI OVER NI DISH OVER DISH;B SQUARED"⟩,
   ⟨0x122f3, "CUNEIFORM SIGN TAG", "; TIMES BI; TIMES GUD; TIMES SHE; TIMES SHU; TIMES TUG2"⟩,
   ⟨0x122f9, "CUNEIFORM SIGN T", "AG TIMES UD;AK4;AR;E;E GUNU;I;I TENU;IL;IR;IR TIMES TAK4"⟩,
   ⟨0x12303, "CUNEIFORM SIGN T",
     "IR OVER TIR;IR OVER TIR GAD OVER GAD GAR OVER GAR;U;UG2;UK;UM;UR;UR OVER TUR ZA OVER ZA"⟩,
   ⟨0x1230b, "CUNEIFORM SIGN U", "; GUD; U U; OVER U PA OVER PA GAR OVER GAR; OVER U SUR OVER SUR"⟩,
   ⟨0x12310, "CUNEIFORM SIGN U", " OVER U U REVERSED OVER U REVERSED;2;B;D;D KUSHU2"⟩,
   ⟨0x12315, "CUNEIFORM SIGN UD TIMES ", "BAD;MI;U PLUS U PLUS U;U PLUS U PLUS U GUNU"⟩,
   ⟨0x12319, "CUNEIFORM SIGN U", "D GUNU;D SHESHIG;D SHESHIG TIMES BAD;DUG;M;M TIMES LAGAB"⟩,
   ⟨0x1231f, "CUNEIFORM SIGN UM", " TIMES ME PLUS DA; TIMES SHA3; TIMES U;BIN;UM;UM TIMES KASKAL"⟩,
   ⟨0x12325, "CUNEIFORM SIGN U", "MUM TIMES PA;N;N GUNU;R;R CROSSING UR;R SHESHIG;R2"⟩,
   ⟨0x1232c, "CUNEIFORM SIGN UR2 TIMES ", "A PLUS HA;A PLUS NA;AL;HA;NUN;U2;U2 PLUS ASH"⟩,
   ⟨0x12333, "CUNEIFORM SIGN UR", "2 TIMES U2 PLUS BI;4;I;I3;U;U TIMES A;U TIMES ASHGAB"⟩,
   ⟨0x1233a, "CUNEIFORM SIGN URU TIMES ",
     "BAR;DUN;GA;GAL;GAN2 TENU;GAR;GU;HA;IGI;IM;ISH;KI;LUM;MIN;PA;SHE;SIG4;TU;U PLUS GUD;UD;URUDA"⟩,
   ⟨0x1234f, "CUNEIFORM SIGN U",
     "RUDA;RUDA TIMES U;SH;SH TIMES A;SH TIMES KU;SH TIMES KUR;SH TIMES TAK4;SHX;SH2;SHUMX"⟩,
   ⟨0x12359, "CUNEIFORM SIGN ", "UTUKI;UZ3;UZ3 TIMES KASKAL;UZU;ZA;ZA TENU;ZA SQUARED TIMES KUR"⟩,
   ⟨0x12360, "CUNEIFORM SIGN Z", "AG;AMX;E2;I;I OVER ZI;I3;IB;IB KABA TENU;IG;IZ2;U;U5;U5 TIMES A"⟩,
   ⟨0x1236d, "CUNEIFORM SIGN ",
     "ZUBUR;ZUM;KAP ELAMITE;AB TIMES NUN;AB2 TIMES A;AMAR TIMES KUG;DAG KISIM5 TIMES U2 PLUS MASH"⟩,
   ⟨0x12374, "CUNEIFORM SIGN ", "DAG3;DISH PLUS SHU;DUB TIMES SHE;EZEN TIMES GUD;EZEN TIMES SHE"⟩,
   ⟨0x12379, "CUNEIFORM SIGN ", "GA2 TIMES AN PLUS KAK PLUS A;GA2 TIMES ASH2;GE22;GIG;HUSH"⟩,
   ⟨0x1237e, "CUNEIFORM SIGN KA TIMES ", "ANSHE;ASH3;GISH;GUD;HI TIMES ASH2;LUM;PA;SHUL;TU;UR2"⟩,
   ⟨0x12388, "CUNEIFORM SIGN L", "AGAB TIMES GI;U2 SHESHIG TIMES BAD;U2 TIMES ESH2 PLUS LAL"⟩,
   ⟨0x1238b, "CUNEIFORM SIGN ", "LU2 TIMES SHU;MESH;MUSH3 TIMES ZA;NA4;NIN;NIN9;NINDA2 TIMES BAL"⟩,
   ⟨0x12392, "CUNEIFORM SIGN ", "NINDA2 TIMES GI;NU11 ROTATED NINETY DEGREES;PESH2 ASTERISK"⟩,
   ⟨0x12395, "CUNEIFORM SIGN ", "PIR2;SAG TIMES IGI GUNU;TI2;UM TIMES ME;U U"⟩]

/-- The names in the block Cuneiform Numbers and Punctuation. -/
def cuneiformNumbersAndPunctuation : List NameRun :=
  [⟨0x12400, "CUNEIFORM NUMERIC SIGN ", "TWO ASH;THREE ASH;FOUR ASH;FIVE ASH;SIX ASH;SEVEN ASH"⟩,
   ⟨0x12406, "CUNEIFORM NUMERIC SIGN ",
     "EIGHT ASH;NINE ASH;THREE DISH;FOUR DISH;FIVE DISH;SIX DISH;SEVEN DISH;EIGHT DISH;NINE DISH"⟩,
   ⟨0x1240f, "CUNEIFORM NUMERIC SIGN ", "FOUR U;FIVE U;SIX U;SEVEN U;EIGHT U;NINE U;ONE GESH2"⟩,
   ⟨0x12416, "CUNEIFORM NUMERIC SIGN ", "TWO GESH2;THREE GESH2;FOUR GESH2;FIVE GESH2;SIX GESH2"⟩,
   ⟨0x1241b, "CUNEIFORM NUMERIC SIGN ", "SEVEN GESH2;EIGHT GESH2;NINE GESH2;ONE GESHU;TWO GESHU"⟩,
   ⟨0x12420, "CUNEIFORM NUMERIC SIGN ", "THREE GESHU;FOUR GESHU;FIVE GESHU;TWO SHAR2;THREE SHAR2"⟩,
   ⟨0x12425, "CUNEIFORM NUMERIC SIGN ", "THREE SHAR2 VARIANT FORM;FOUR SHAR2;FIVE SHAR2;SIX SHAR2"⟩,
   ⟨0x12429, "CUNEIFORM NUMERIC SIGN ",
     "SEVEN SHAR2;EIGHT SHAR2;NINE SHAR2;ONE SHARU;TWO SHARU;THREE SHARU;THREE SHARU VARIANT FORM"⟩,
   ⟨0x12430, "CUNEIFORM NUMERIC SIGN ",
     "FOUR SHARU;FIVE SHARU;SHAR2 TIMES GAL PLUS DISH;SHAR2 TIMES GAL PLUS MIN;ONE BURU;TWO BURU"⟩,
   ⟨0x12436, "CUNEIFORM NUMERIC SIGN ", "THREE BURU;THREE BURU VARIANT FORM;FOUR BURU;FIVE BURU"⟩,
   ⟨0x1243a, "CUNEIFORM NUMERIC SIGN THREE VARIANT FORM ESH", "16;21"⟩,
   ⟨0x1243c, "CUNEIFORM NUMERIC SIGN FOUR VARIANT FORM LIMMU", ";4; A"⟩,
   ⟨0x1243f, "CUNEIFORM NUMERIC SIGN ", "FOUR VARIANT FORM LIMMU B;SIX VARIANT FORM ASH9"⟩,
   ⟨0x12441, "CUNEIFORM NUMERIC SIGN SEVEN VARIANT FORM IMIN", "3; A; B"⟩,
   ⟨0x12444, "CUNEIFORM NUMERIC SIGN EIGHT VARIANT FORM USSU", ";3"⟩,
   ⟨0x12446, "CUNEIFORM NUMERIC SIGN NINE VARIANT FORM ILIMMU", ";3;4; A"⟩,
   ⟨0x1244a, "CUNEIFORM NUMERIC SIGN ", "TWO ASH TENU;THREE ASH TENU;FOUR ASH TENU;FIVE ASH TENU"⟩,
   ⟨0x1244e, "CUNEIFORM NUMERIC SIGN ", "SIX ASH TENU;ONE BAN2;TWO BAN2;THREE BAN2;FOUR BAN2"⟩,
   ⟨0x12453, "CUNEIFORM NUMERIC SIGN F", "OUR BAN2 VARIANT FORM;IVE BAN2;IVE BAN2 VARIANT FORM"⟩,
   ⟨0x12456, "CUNEIFORM NUMERIC SIGN ", "NIGIDAMIN;NIGIDAESH;ONE ESHE3;TWO ESHE3;ONE THIRD DISH"⟩,
   ⟨0x1245b, "CUNEIFORM NUMERIC SIGN ",
     "TWO THIRDS DISH;FIVE SIXTHS DISH;ONE THIRD VARIANT FORM A;TWO THIRDS VARIANT FORM A"⟩,
   ⟨0x1245f, "CUNEIFORM NUMERIC SIGN O", "NE EIGHTH ASH;NE QUARTER ASH;LD ASSYRIAN ONE SIXTH"⟩,
   ⟨0x12462, "CUNEIFORM NUMERIC SIGN O", "LD ASSYRIAN ONE QUARTER;NE QUARTER GUR;NE HALF GUR"⟩,
   ⟨0x12465, "CUNEIFORM NUMERIC SIGN ELAMITE ", "ONE THIRD;TWO THIRDS;FORTY"⟩,
   ⟨0x12468, "CUNEIFORM NUMERIC SIGN ", "ELAMITE FIFTY;FOUR U VARIANT FORM;FIVE U VARIANT FORM"⟩,
   ⟨0x1246b, "CUNEIFORM NUMERIC SIGN ",
     "SIX U VARIANT FORM;SEVEN U VARIANT FORM;EIGHT U VARIANT FORM;NINE U VARIANT FORM"⟩,
   ⟨0x12470, "CUNEIFORM PUNCTUATION SIGN ", "OLD ASSYRIAN WORD DIVIDER;VERTICAL COLON"⟩,
   ⟨0x12472, "CUNEIFORM PUNCTUATION SIGN DIAGONAL ", "COLON;TRICOLON;QUADCOLON"⟩]

/-- The names in the block Early Dynastic Cuneiform. -/
def earlyDynasticCuneiform : List NameRun :=
  [⟨0x12480, "CUNEIFORM SIGN A", "B TIMES NUN TENU;B TIMES SHU2;D TIMES ESH2"⟩,
   ⟨0x12483, "CUNEIFORM SIGN BA", "D TIMES DISH TENU;HAR2 TIMES AB2;HAR2 TIMES NI"⟩,
   ⟨0x12486, "CUNEIFORM SIGN ", "BAHAR2 TIMES ZA;BU OVER BU TIMES NA2;DA TIMES TAK4"⟩,
   ⟨0x12489, "CUNEIFORM SIGN D", "AG TIMES KUR;IM TIMES IGI;IM TIMES U U U;IM2 TIMES UD"⟩,
   ⟨0x1248d, "CUNEIFORM SIGN DUG TIMES ",
     "ANSHE;ASH;ASH AT LEFT;DIN;DUN;ERIN2;GA;GI;GIR2 GUNU;GISH;HA;HI;IGI GUNU;KASKAL;KUR;KUSHU2"⟩,
   ⟨0x1249d, "CUNEIFORM SIGN DUG TIMES ",
     "KUSHU2 PLUS KASKAL;LAK-020;LAM;LAM TIMES KUR;LUH PLUS GISH;MASH;MES;MI;NI;PI;SHE;SI GUNU"⟩,
   ⟨0x124a9, "CUNEIFORM SIGN E", "2 TIMES KUR;2 TIMES PAP;RIN2 X;SH2 CROSSING ESH2"⟩,
   ⟨0x124ad, "CUNEIFORM SIGN EZEN SHESHIG TIMES ", "ASH;HI;IGI GUNU;LA;LAL;ME;MES"⟩,
   ⟨0x124b4, "CUNEIFORM SIGN ", "EZEN SHESHIG TIMES SU;EZEN TIMES SU;GA2 TIMES BAHAR2"⟩,
   ⟨0x124b7, "CUNEIFORM SIGN GA2 TIMES ", "DIM GUNU;DUG TIMES IGI GUNU;DUG TIMES KASKAL;EREN;GA"⟩,
   ⟨0x124bc, "CUNEIFORM SIGN GA2 TIMES ", "GAR PLUS DI;GAR PLUS NE;HA PLUS A;KUSHU2 PLUS KASKAL"⟩,
   ⟨0x124c0, "CUNEIFORM SIGN GA2 TIMES ", "LAM;LAM TIMES KUR;LUH;MUSH;NE;NE PLUS E2;NE PLUS GI"⟩,
   ⟨0x124c7, "CUNEIFORM SIGN GA", "2 TIMES SHIM;2 TIMES ZIZ2;BA ROTATED NINETY DEGREES"⟩,
   ⟨0x124ca, "CUNEIFORM SIGN G", "ESHTIN TIMES U;ISH TIMES GISH CROSSING GISH"⟩,
   ⟨0x124cc, "CUNEIFORM SIGN ", "GU2 TIMES IGI GUNU;GUD PLUS GISH TIMES TAK4;HA TENU GUNU"⟩,
   ⟨0x124cf, "CUNEIFORM SIGN ", "HI TIMES ASH OVER HI TIMES ASH;KA TIMES BU;KA TIMES KA"⟩,
   ⟨0x124d2, "CUNEIFORM SIGN ", "KA TIMES U U U;KA TIMES UR;LAGAB TIMES ZU OVER ZU;LAK-003"⟩,
   ⟨0x124d6, "CUNEIFORM SIGN LAK-0", "21;25;30;50;51;62;79 OVER LAK-079 GUNU;80;81 OVER LAK-081"⟩,
   ⟨0x124df, "CUNEIFORM SIGN LAK-",
     "092;130;142;210;219;220;225;228;238;265;266;343;347;348;383;384;390;441;449;449 TIMES GU"⟩,
   ⟨0x124f3, "CUNEIFORM SIGN LAK-449 TIMES ", "IGI;PAP PLUS LU3;PAP PLUS PAP PLUS LU3;U2 PLUS BA"⟩,
   ⟨0x124f7, "CUNEIFORM SIGN LAK-", "450;457;470;483;490;492;493;495;550;608;617"⟩,
   ⟨0x12502, "CUNEIFORM SIGN LAK-617 TIMES ", "ASH;BAD;DUN3 GUNU GUNU;KU3;LA;TAR;TE;U2;UD"⟩,
   ⟨0x1250b, "CUNEIFORM SIGN LAK-6", "17 TIMES URUDA;36;48;48 TIMES DUB;48 TIMES GA;48 TIMES IGI"⟩,
   ⟨0x12511, "CUNEIFORM SIGN LAK-648 TIMES ", "IGI GUNU;NI;PAP PLUS PAP PLUS LU3;SHESH PLUS KI;UD"⟩,
   ⟨0x12516, "CUNEIFORM SIGN L", "AK-648 TIMES URUDA;AK-724;AK-749;U2 GUNU TIMES ASH"⟩,
   ⟨0x1251a, "CUNEIFORM SIGN LU2 TIMES ", "DISH;HAL;PAP;PAP PLUS PAP PLUS LU3;TAK4"⟩,
   ⟨0x1251f, "CUNEIFORM SIGN M", "I PLUS ZA7;USH OVER MUSH TIMES GA;USH OVER MUSH TIMES KAK"⟩,
   ⟨0x12522, "CUNEIFORM SIGN NINDA2 TIMES ",
     "DIM GUNU;GISH;GUL;HI;KESH2;LAK-050;MASH;PAP PLUS PAP;U;U PLUS U;URUDA"⟩,
   ⟨0x1252d, "CUNEIFORM SIGN SAG ", "GUNU TIMES HA;TIMES EN;TIMES SHE AT LEFT;TIMES TAK4"⟩,
   ⟨0x12531, "CUNEIFORM SIGN SH", "A6 TENU;E OVER SHE;E PLUS HUB2;E PLUS NAM2;E PLUS SAR"⟩,
   ⟨0x12536, "CUNEIFORM SIGN S", "HU2 PLUS DUG TIMES NI;HU2 PLUS E2 TIMES AN;I TIMES TAK4"⟩,
   ⟨0x12539, "CUNEIFORM SIGN T", "AK4 PLUS SAG;UM TIMES GAN2 TENU;UM TIMES THREE DISH"⟩,
   ⟨0x1253c, "CUNEIFORM SIGN UR", "2 INVERTED;2 TIMES UD;U TIMES DARA3;U TIMES LAK-668"⟩,
   ⟨0x12540, "CUNEIFORM SIGN ", "URU TIMES LU3;ZA7;ZU OVER ZU PLUS SAR;ZU5 TIMES THREE DISH TENU"⟩]

/-- The names in the block Cypro-Minoan. -/
def cyproMinoan : List NameRun :=
  [⟨0x12f90, "CYPRO-MINOAN SIGN CM0", "01;02;04;05;06;07;08;09;10;11;12;12B;13;15;17;19;21;23;24"⟩,
   ⟨0x12fa3, "CYPRO-MINOAN SIGN CM0", "25;26;27;28;29;30;33;34;35;36;37;38;39;40;41;44;46;47;49"⟩,
   ⟨0x12fb6, "CYPRO-MINOAN SIGN CM0", "50;51;52;53;54;55;56;58;59;60;61;62;63;64;66;67;68;69;70"⟩,
   ⟨0x12fc9, "CYPRO-MINOAN SIGN CM0", "71;72;73;74;75;75B;76;78;79;80;81;82;83;84;85;86;87;88;89"⟩,
   ⟨0x12fdc, "CYPRO-MINOAN SIGN CM",
     "090;091;092;094;095;096;097;098;099;100;101;102;103;104;105;107;108;109;110;112;114;301;302"⟩]

/-- The names in the block Egyptian Hieroglyphs. -/
def egyptianHieroglyphs : List NameRun :=
  [⟨0x13000, "EGYPTIAN HIEROGLYPH A0",
     "01;02;03;04;05;05A;06;06A;06B;07;08;09;10;11;12;13;14;14A;15;16;17;17A;18;19;20;21;22;23;24"⟩,
   ⟨0x1301d, "EGYPTIAN HIEROGLYPH A0",
     "25;26;27;28;29;30;31;32;32A;33;34;35;36;37;38;39;40;40A;41;42;42A;43;43A;44;45;45A;46;47;48"⟩,
   ⟨0x1303a, "EGYPTIAN HIEROGLYPH A0", "49;50;51;52;53;54;55;56;57;58;59;60;61;62;63;64;65;66;67"⟩,
   ⟨0x1304d, "EGYPTIAN HIEROGLYPH ", "A068;A069;A070;B001;B002;B003;B004;B005;B005A;B006;B007"⟩,
   ⟨0x13058, "EGYPTIAN HIEROGLYPH ", "B008;B009;C001;C002;C002A;C002B;C002C;C003;C004;C005;C006"⟩,
   ⟨0x13063, "EGYPTIAN HIEROGLYPH C0", "07;08;09;10;10A;11;12;13;14;15;16;17;18;19;20;21;22;23;24"⟩,
   ⟨0x13076, "EGYPTIAN HIEROGLYPH D0", "01;02;03;04;05;06;07;08;08A;09;10;11;12;13;14;15;16;17;18"⟩,
   ⟨0x13089, "EGYPTIAN HIEROGLYPH D0", "19;20;21;22;23;24;25;26;27;27A;28;29;30;31;31A;32;33;34"⟩,
   ⟨0x1309b, "EGYPTIAN HIEROGLYPH D0", "34A;35;36;37;38;39;40;41;42;43;44;45;46;46A;47;48;48A;49"⟩,
   ⟨0x130ad, "EGYPTIAN HIEROGLYPH D05", "0;0A;0B;0C;0D;0E;0F;0G;0H;0I;1;2;2A;3;4;4A;5;6;7;8;9"⟩,
   ⟨0x130c2, "EGYPTIAN HIEROGLYPH D06", "0;1;2;3;4;5;6;7;7A;7B;7C;7D;7E;7F;7G;7H"⟩,
   ⟨0x130d2, "EGYPTIAN HIEROGLYPH E0", "01;02;03;04;05;06;07;08;08A;09;09A;10;11;12;13;14"⟩,
   ⟨0x130e2, "EGYPTIAN HIEROGLYPH E0", "15;16;16A;17;17A;18;19;20;20A;21;22;23;24;25;26;27;28;28A"⟩,
   ⟨0x130f4, "EGYPTIAN HIEROGLYPH ", "E029;E030;E031;E032;E033;E034;E034A;E036;E037;E038;F001"⟩,
   ⟨0x130ff, "EGYPTIAN HIEROGLYPH F0", "01A;02;03;04;05;06;07;08;09;10;11;12;13;13A;14;15;16;17"⟩,
   ⟨0x13111, "EGYPTIAN HIEROGLYPH F0", "18;19;20;21;21A;22;23;24;25;26;27;28;29;30;31;31A;32;33"⟩,
   ⟨0x13123, "EGYPTIAN HIEROGLYPH F0",
     "34;35;36;37;37A;38;38A;39;40;41;42;43;44;45;45A;46;46A;47;47A;48;49;50;51;51A;51B;51C;52;53"⟩,
   ⟨0x1313f, "EGYPTIAN HIEROGLYPH G0", "01;02;03;04;05;06;06A;07;07A;07B;08;09;10;11;11A;12"⟩,
   ⟨0x1314f, "EGYPTIAN HIEROGLYPH G0", "13;14;15;16;17;18;19;20;20A;21;22;23;24;25;26;26A;27;28"⟩,
   ⟨0x13161, "EGYPTIAN HIEROGLYPH G0",
     "29;30;31;32;33;34;35;36;36A;37;37A;38;39;40;41;42;43;43A;44;45;45A;46;47;48;49;50;51;52;53"⟩,
   ⟨0x1317e, "EGYPTIAN HIEROGLYPH ", "G054;H001;H002;H003;H004;H005;H006;H006A;H007;H008;I001"⟩,
   ⟨0x13189, "EGYPTIAN HIEROGLYPH I0", "02;03;04;05;05A;06;07;08;09;09A;10;10A;11;11A;12;13;14;15"⟩,
   ⟨0x1319b, "EGYPTIAN HIEROGLYPH ", "K001;K002;K003;K004;K005;K006;K007;K008;L001;L002;L002A"⟩,
   ⟨0x131a6, "EGYPTIAN HIEROGLYPH ", "L003;L004;L005;L006;L006A;L007;L008;M001;M001A;M001B;M002"⟩,
   ⟨0x131b1, "EGYPTIAN HIEROGLYPH M0", "03;03A;04;05;06;07;08;09;10;10A;11;12;12A;12B;12C;12D;12E"⟩,
   ⟨0x131c2, "EGYPTIAN HIEROGLYPH M0", "12F;12G;12H;13;14;15;15A;16;16A;17;17A;18;19;20;21;22;22A"⟩,
   ⟨0x131d3, "EGYPTIAN HIEROGLYPH M0",
     "23;24;24A;25;26;27;28;28A;29;30;31;31A;32;33;33A;33B;34;35;36;37;38;39;40;40A;41;42;43;44"⟩,
   ⟨0x131ef, "EGYPTIAN HIEROGLYPH N0", "01;02;03;04;05;06;07;08;09;10;11;12;13;14;15;16;17;18;18A"⟩,
   ⟨0x13202, "EGYPTIAN HIEROGLYPH N0", "18B;19;20;21;22;23;24;25;25A;26;27;28;29;30;31;32;33;33A"⟩,
   ⟨0x13214, "EGYPTIAN HIEROGLYPH N", "034;034A;035;035A;036;037;037A;038;039;040;041;042;L001"⟩,
   ⟨0x13221, "EGYPTIAN HIEROGLYPH NL0", "02;03;04;05;05A;06;07;08;09;10;11"⟩,
   ⟨0x1322c, "EGYPTIAN HIEROGLYPH N", "L012;L013;L014;L015;L016;L017;L017A;L018;L019;L020;U001"⟩,
   ⟨0x13237, "EGYPTIAN HIEROGLYPH NU0", "02;03;04;05;06;07;08;09;10;10A;11;11A;12;13;14;15;16;17"⟩,
   ⟨0x13249, "EGYPTIAN HIEROGLYPH ", "NU018;NU018A;NU019;NU020;NU021;NU022;NU022A;O001;O001A;O002"⟩,
   ⟨0x13253, "EGYPTIAN HIEROGLYPH O0", "03;04;05;05A;06;06A;06B;06C;06D;06E;06F;07;08;09;10;10A"⟩,
   ⟨0x13263, "EGYPTIAN HIEROGLYPH O0", "10B;10C;11;12;13;14;15;16;17;18;19;19A;20;20A;21;22;23;24"⟩,
   ⟨0x13275, "EGYPTIAN HIEROGLYPH O0", "24A;25;25A;26;27;28;29;29A;30;30A;31;32;33;33A;34;35;36"⟩,
   ⟨0x13286, "EGYPTIAN HIEROGLYPH O0", "36A;36B;36C;36D;37;38;39;40;41;42;43;44;45;46;47;48;49;50"⟩,
   ⟨0x13298, "EGYPTIAN HIEROGLYPH ", "O050A;O050B;O051;P001;P001A;P002;P003;P003A;P004;P005;P006"⟩,
   ⟨0x132a3, "EGYPTIAN HIEROGLYPH ", "P007;P008;P009;P010;P011;Q001;Q002;Q003;Q004;Q005;Q006;Q007"⟩,
   ⟨0x132af, "EGYPTIAN HIEROGLYPH R0", "01;02;02A;03;03A;03B;04;05;06;07;08;09;10;10A;11"⟩,
   ⟨0x132be, "EGYPTIAN HIEROGLYPH R0", "12;13;14;15;16;16A;17;18;19;20;21;22;23;24;25;26;27;28;29"⟩,
   ⟨0x132d1, "EGYPTIAN HIEROGLYPH S0", "01;02;02A;03;04;05;06;06A;07;08;09;10;11;12;13;14;14A"⟩,
   ⟨0x132e2, "EGYPTIAN HIEROGLYPH S0", "14B;15;16;17;17A;18;19;20;21;22;23;24;25;26;26A;26B;27;28"⟩,
   ⟨0x132f4, "EGYPTIAN HIEROGLYPH S0", "29;30;31;32;33;34;35;35A;36;37;38;39;40;41;42;43;44;45;46"⟩,
   ⟨0x13307, "EGYPTIAN HIEROGLYPH T0", "01;02;03;03A;04;05;06;07;07A;08;08A;09;09A;10;11"⟩,
   ⟨0x13316, "EGYPTIAN HIEROGLYPH T0",
     "11A;12;13;14;15;16;16A;17;18;19;20;21;22;23;24;25;26;27;28;29;30;31;32;32A;33;33A;34;35;36"⟩,
   ⟨0x13333, "EGYPTIAN HIEROGLYPH U0", "01;02;03;04;05;06;06A;06B;07;08;09;10;11;12;13;14;15;16"⟩,
   ⟨0x13345, "EGYPTIAN HIEROGLYPH U0",
     "17;18;19;20;21;22;23;23A;24;25;26;27;28;29;29A;30;31;32;32A;33;34;35;36;37;38;39;40;41;42"⟩,
   ⟨0x13362, "EGYPTIAN HIEROGLYPH V00", "1;1A;1B;1C;1D;1E;1F;1G;1H;1I;2;2A;3;4;5;6;7;7A;7B;8;9"⟩,
   ⟨0x13377, "EGYPTIAN HIEROGLYPH V0", "10;11;11A;11B;11C;12;12A;12B;13;14;15;16;17;18;19;20;20A"⟩,
   ⟨0x13388, "EGYPTIAN HIEROGLYPH V02", "0B;0C;0D;0E;0F;0G;0H;0I;0J;0K;0L;1;2;3;3A;4;5;6;7;8;8A;9"⟩,
   ⟨0x1339e, "EGYPTIAN HIEROGLYPH V0", "29A;30;30A;31;31A;32;33;33A;34;35;36;37;37A;38;39;40;40A"⟩,
   ⟨0x133af, "EGYPTIAN HIEROGLYPH W0", "01;02;03;03A;04;05;06;07;08;09;09A;10;10A;11;12;13;14;14A"⟩,
   ⟨0x133c1, "EGYPTIAN HIEROGLYPH ",
     "W015;W016;W017;W017A;W018;W018A;W019;W020;W021;W022;W023;W024;W024A;W025;X001;X002;X003"⟩,
   ⟨0x133d2, "EGYPTIAN HIEROGLYPH ", "X004;X004A;X004B;X005;X006;X006A;X007;X008;X008A;Y001;Y001A"⟩,
   ⟨0x133dd, "EGYPTIAN HIEROGLYPH ", "Y002;Y003;Y004;Y005;Y006;Y007;Y008;Z001;Z002;Z002A;Z002B"⟩,
   ⟨0x133e8, "EGYPTIAN HIEROGLYPH Z0", "02C;02D;03;03A;03B;04;04A;05;05A;06;07;08;09;10;11;12;13"⟩,
   ⟨0x133f9, "EGYPTIAN HIEROGLYPH Z01", "4;5;5A;5B;5C;5D;5E;5F;5G;5H;5I;6;6A;6B;6C;6D;6E;6F;6G;6H"⟩,
   ⟨0x1340d, "EGYPTIAN HIEROGLYPH AA0", "01;02;03;04;05;06;07;07A;07B;08;09;10;11;12;13"⟩,
   ⟨0x1341c, "EGYPTIAN HIEROGLYPH AA0", "14;15;16;17;18;19;20;21;22;23;24;25;26;27;28;29;30;31;32"⟩]

/-- The names in the block Egyptian Hieroglyph Format Controls. -/
def egyptianHieroglyphFormatControls : List NameRun :=
  [⟨0x13430, "EGYPTIAN HIEROGLYPH ", "VERTICAL JOINER;HORIZONTAL JOINER"⟩,
   ⟨0x13432, "EGYPTIAN HIEROGLYPH INSERT AT ", "TOP START;BOTTOM START;TOP END;BOTTOM END"⟩,
   ⟨0x13436, "EGYPTIAN HIEROGLYPH ", "OVERLAY MIDDLE;BEGIN SEGMENT;END SEGMENT"⟩]

/-- The names in the block Anatolian Hieroglyphs. -/
def anatolianHieroglyphs : List NameRun :=
  [⟨0x14400, "ANATOLIAN HIEROGLYPH A0", "01;02;03;04;05;06;07;08;09;10;10A;11;12;13"⟩,
   ⟨0x1440e, "ANATOLIAN HIEROGLYPH A0", "14;15;16;17;18;19;20;21;22;23;24;25;26;26A;27;28;29;30"⟩,
   ⟨0x14420, "ANATOLIAN HIEROGLYPH A0", "31;32;33;34;35;36;37;38;39;39A;40;41;41A;42;43;44;45;45A"⟩,
   ⟨0x14432, "ANATOLIAN HIEROGLYPH A0", "46;46A;46B;47;48;49;50;51;52;53;54;55;56;57;58;59;60;61"⟩,
   ⟨0x14444, "ANATOLIAN HIEROGLYPH A0", "62;63;64;65;66;66A;66B;66C;67;68;69;70;71;72;73;74;75;76"⟩,
   ⟨0x14456, "ANATOLIAN HIEROGLYPH A0", "77;78;79;80;81;82;83;84;85;86;87;88;89;90;91;92;93;94;95"⟩,
   ⟨0x14469, "ANATOLIAN HIEROGLYPH A", "096;097;097A;098;098A;099;100;100A;101;101A;102;102A;103"⟩,
   ⟨0x14476, "ANATOLIAN HIEROGLYPH A1", "04;04A;04B;04C;05;05A;05B;06;07;07A;07B;07C;08;09;10;10A"⟩,
   ⟨0x14486, "ANATOLIAN HIEROGLYPH A1", "10B;11;12;13;14;15;15A;16;17;18;19;20;21;22;23;24;25;25A"⟩,
   ⟨0x14498, "ANATOLIAN HIEROGLYPH A1", "26;27;28;29;30;31;32;33;34;35;35A;36;37;38;39;40;41;42"⟩,
   ⟨0x144aa, "ANATOLIAN HIEROGLYPH A1", "43;44;45;46;47;48;49;50;51;52;53;54;55;56;57;58;59;60;61"⟩,
   ⟨0x144bd, "ANATOLIAN HIEROGLYPH A1", "62;63;64;65;66;67;68;69;70;71;72;73;74;75;76;77;78;79;80"⟩,
   ⟨0x144d0, "ANATOLIAN HIEROGLYPH A1", "81;82;83;84;85;86;87;88;89;90;91;92;93;94;95;96;97;98;99"⟩,
   ⟨0x144e3, "ANATOLIAN HIEROGLYPH A2", "00;01;02;02A;02B;03;04;05;06;07;07A;08;09;09A;10;11;12"⟩,
   ⟨0x144f4, "ANATOLIAN HIEROGLYPH A2", "13;14;15;15A;16;16A;17;18;19;20;21;22;23;24;25;26;27;27A"⟩,
   ⟨0x14506, "ANATOLIAN HIEROGLYPH A2", "28;29;30;31;32;33;34;35;36;37;38;39;40;41;42;43;44;45;46"⟩,
   ⟨0x14519, "ANATOLIAN HIEROGLYPH A2", "47;48;49;50;51;52;53;54;55;56;57;58;59;60;61;62;63;64;65"⟩,
   ⟨0x1452c, "ANATOLIAN HIEROGLYPH A2", "66;67;67A;68;69;70;71;72;73;74;75;76;77;78;79;80;81;82"⟩,
   ⟨0x1453e, "ANATOLIAN HIEROGLYPH A2", "83;84;85;86;87;88;89;89A;90;91;92;93;94;94A;95;96;97;98"⟩,
   ⟨0x14550, "ANATOLIAN HIEROGLYPH A", "299;299A;300;301;302;303;304;305;306;307;308;309;309A;310"⟩,
   ⟨0x1455e, "ANATOLIAN HIEROGLYPH A3", "11;12;13;14;15;16;17;18;19;20;21;22;23;24;25;26;27;28;29"⟩,
   ⟨0x14571, "ANATOLIAN HIEROGLYPH A3", "29A;30;31;32A;32B;32C;33;34;35;36;36A;36B;36C;37;38;39"⟩,
   ⟨0x14581, "ANATOLIAN HIEROGLYPH A3", "40;41;42;43;44;45;46;47;48;49;50;51;52;53;54;55;56;57;58"⟩,
   ⟨0x14594, "ANATOLIAN HIEROGLYPH A3",
     "59;59A;60;61;62;63;64;64A;65;66;67;68;68A;69;70;71;71A;72;73;74;75;76;77;78;79;80;81;81A;82"⟩,
   ⟨0x145b1, "ANATOLIAN HIEROGLYPH A3", "83 RA OR RI;83A;84;85;86;86A;87;88;89;90;91;92;93 EIGHT"⟩,
   ⟨0x145be, "ANATOLIAN HIEROGLYPH A", "394;395;396;397;398;399;400;401;402;403;404;405;406;407"⟩,
   ⟨0x145cc, "ANATOLIAN HIEROGLYPH A4", "08;09;10 BEGIN LOGOGRAM MARK;10A END LOGOGRAM MARK;11;12"⟩,
   ⟨0x145d2, "ANATOLIAN HIEROGLYPH A4", "13;14;15;16;17;18;19;20;21;22;23;24;25;26;27;28;29;30;31"⟩,
   ⟨0x145e5, "ANATOLIAN HIEROGLYPH A4", "32;33;34;35;36;37;38;39;40;41;42;43;44;45;46;47;48;49;50"⟩,
   ⟨0x145f8, "ANATOLIAN HIEROGLYPH A4",
     "50A;51;52;53;54;55;56;57;57A;58;59;60;61;62;63;64;65;66;67;68;69;70;71;72;73;74;75;76;77;78"⟩,
   ⟨0x14616, "ANATOLIAN HIEROGLYPH A4", "79;80;81;82;83;84;85;86;87;88;89;90;91;92;93;94;95;96;97"⟩,
   ⟨0x14629, "ANATOLIAN HIEROGLYPH A5",
     "01;02;03;04;05;06;07;08;09;10;11;12;13;14;15;16;17;18;19;20;21;22;23;24;25;26;27;28;29;30"⟩]

/-- The names in the block Bamum Supplement. -/
def bamumSupplement : List NameRun :=
  [⟨0x16800, "BAMUM LETTER PHASE-A ", "NGKUE MFON;GBIEE FON;PON MFON PIPAEMGBIEE"⟩,
   ⟨0x16803, "BAMUM LETTER PHASE-A ", "PON MFON PIPAEMBA;NAA MFON;SHUENSHUET;TITA MFON;NZA MFON"⟩,
   ⟨0x16808, "BAMUM LETTER PHASE-A ", "SHINDA PA NJI;PON PA NJI PIPAEMGBIEE;PON PA NJI PIPAEMBA"⟩,
   ⟨0x1680b, "BAMUM LETTER PHASE-A ", "MAEMBGBIEE;TU MAEMBA;NGANGU;MAEMVEUX;MANSUAE;MVEUAENGAM"⟩,
   ⟨0x16811, "BAMUM LETTER PHASE-A ", "SEUNYAM;NTOQPEN;KEUKEUTNDA;NKINDI;SUU;NGKUENZEUM"⟩,
   ⟨0x16817, "BAMUM LETTER PHASE-A ", "LAPAQ;LET KUT;NTAP MFAA;MAEKEUP;PASHAE;GHEUAERAE;PAMSHAE"⟩,
   ⟨0x1681e, "BAMUM LETTER PHASE-A ", "MON NGGEUAET;NZUN MEUT;U YUQ NAE;GHEUAEGHEUAE;NTAP NTAA"⟩,
   ⟨0x16823, "BAMUM LETTER PHASE-A ",
     "SISA;MGBASA;MEUNJOMNDEUQ;MOOMPUQ;KAFA;PA LEERAEWA;NDA LEERAEWA;PET;MAEMKPEN;NIKA;PUP"⟩,
   ⟨0x1682e, "BAMUM LETTER PHASE-A ", "TUAEP;LUAEP;SONJAM;TEUTEUWEN;MAENYI;KET;NDAANGGEUAET;KUOQ"⟩,
   ⟨0x16836, "BAMUM LETTER PHASE-A ", "MOOMEUT;SHUM;LOMMAE;FIRI;ROM;KPOQ;SOQ;MAP PIEET;SHIRAE"⟩,
   ⟨0x1683f, "BAMUM LETTER PHASE-A ", "NTAP;SHOQ NSHUT YUM;NYIT MONGKEUAEQ;PAARAE;NKAARAE;UNKNOWN"⟩,
   ⟨0x16845, "BAMUM LETTER PHASE-A ",
     "NGGEN;MAESI;NJAM;MBANYI;NYET;TEUAEN;SOT;PAAM;NSHIEE;MAEM;NYI;KAQ;NSHA;VEE;LU;NEN;NAQ;MBAQ"⟩,
   ⟨0x16857, "BAMUM LETTER PHASE-B ", "NSHUET;TU MAEMGBIEE;SIEE;SET TU;LOM NTEUM;MBA MAELEE;KIEEM"⟩,
   ⟨0x1685e, "BAMUM LETTER PHASE-B ", "YEURAE;MBAARAE;KAM;PEESHI;YAFU LEERAEWA;LAM NSHUT NYAM"⟩,
   ⟨0x16864, "BAMUM LETTER PHASE-B ", "NTIEE SHEUOQ;NDU NJAA;GHEUGHEUAEM;PIT;TU NSIEE;SHET NJAQ"⟩,
   ⟨0x1686a, "BAMUM LETTER PHASE-B ", "SHEUAEQTU;MFON TEUAEQ;MBIT MBAAKET;NYI NTEUM;KEUPUQ"⟩,
   ⟨0x1686f, "BAMUM LETTER PHASE-B ", "GHEUGHEN;KEUYEUX;LAANAE;PARUM;VEUM;NGKINDI MVOP;NGGEU MBU"⟩,
   ⟨0x16876, "BAMUM LETTER PHASE-B ", "WUAET;SAKEUAE;TAAM;MEUQ;NGGUOQ;NGGUOQ LARGE;MFIYAQ;SUE"⟩,
   ⟨0x1687e, "BAMUM LETTER PHASE-B ", "MBEURI;MONTIEEN;NYAEMAE;PUNGAAM;MEUT NGGEET;FEUX;MBUOQ;FEE"⟩,
   ⟨0x16886, "BAMUM LETTER PHASE-B ", "KEUAEM;MA NJEUAENA;MA NJUQA;LET;NGGAAM;NSEN;MA;KIQ;NGOM"⟩,
   ⟨0x1688f, "BAMUM LETTER PHASE-C ", "NGKUE MAEMBA;NZA;YUM;WANGKUOQ;NGGEN;NDEUAEREE;NGKAQ;GHARAE"⟩,
   ⟨0x16897, "BAMUM LETTER PHASE-C ", "MBEEKEET;GBAYI;NYIR MKPARAQ MEUN;NTU MBIT;MBEUM;PIRIEEN"⟩,
   ⟨0x1689d, "BAMUM LETTER PHASE-C ", "NDOMBU;MBAA CABBAGE-TREE;KEUSHEUAEP;GHAP;KEUKAQ;YU MUOMAE"⟩,
   ⟨0x168a3, "BAMUM LETTER PHASE-C ", "NZEUM;MBUE;NSEUAEN;MBIT;YEUQ;KPARAQ;KAA;SEUX;NDIDA;TAASHAE"⟩,
   ⟨0x168ad, "BAMUM LETTER PHASE-C ", "NJUEQ;TITA YUE;SUAET;NGGUAEN NYAM;VEUX;NANSANAQ;MA KEUAERI"⟩,
   ⟨0x168b4, "BAMUM LETTER PHASE-C ", "NTAA;NGGUON;LAP;MBIRIEEN;MGBASAQ;NTEUNGBA;TEUTEUX"⟩,
   ⟨0x168bb, "BAMUM LETTER PHASE-C ", "NGGUM;FUE;NDEUT;NSA;NSHAQ;BUNG;VEUAEPEN;MBERAE;RU;NJAEM"⟩,
   ⟨0x168c5, "BAMUM LETTER PHASE-C ", "LAM;TITUAEP;NSUOT NGOM;NJEEEE;KET;NGGU;MAESI;MBUAEM;LU"⟩,
   ⟨0x168ce, "BAMUM LETTER PHASE-C ", "KUT;NJAM;NGOM;WUP;NGGUEET;NSOM;NTEN;KUOP NKAARAE;NSUN;NDAM"⟩,
   ⟨0x168d8, "BAMUM LETTER PHASE-C ", "MA NSIEE;YAA;NDAP;SHUEQ;SETFON;MBI;MAEMBA;MBANYI;KEUSEUX"⟩,
   ⟨0x168e1, "BAMUM LETTER PHASE-C ", "MBEUX;KEUM;MBAA PICKET;YUWOQ;NJEUX;MIEE;MUAE;SHIQ;KEN LAW"⟩,
   ⟨0x168ea, "BAMUM LETTER PHASE-", "C KEN FATIGUE;C NGAQ;C NAQ;C LIQ;C PIN;C PEN;C TET;D MBUO"⟩,
   ⟨0x168f2, "BAMUM LETTER PHASE-D ", "WAP;NJI;MFON;NJIEE;LIEE;NJEUT;NSHEE;NGGAAMAE"⟩,
   ⟨0x168fa, "BAMUM LETTER PHASE-D ", "NYAM;WUAEN;NGKUN;SHEE;NGKAP;KEUAETMEUN;TEUT;SHEUAE;NJAP"⟩,
   ⟨0x16903, "BAMUM LETTER PHASE-D ", "SUE;KET;YAEMMAE;KUOM;SAP;MFEUT;NDEUX;MALEERI;MEUT;SEUAEQ"⟩,
   ⟨0x1690d, "BAMUM LETTER PHASE-D ", "YEN;NJEUAEM;KEUOT MBUAE;NGKEURI;TU;GHAA;NGKYEE;FEUFEUAET"⟩,
   ⟨0x16915, "BAMUM LETTER PHASE-D ", "NDEE;MGBOFUM;LEUAEP;NDON;MONI;MGBEUN;PUUT;MGBIEE;MFO;LUM"⟩,
   ⟨0x1691f, "BAMUM LETTER PHASE-D ", "NSIEEP;MBAA;KWAET;NYET;TEUAEN;SOT;YUWOQ;KEUM;RAEM;TEEEE"⟩,
   ⟨0x16929, "BAMUM LETTER PHASE-D ", "NGKEUAEQ;MFEUAE;NSIEET;KEUP;PIP;PEUTAE;NYUE;LET;NGGAAM"⟩,
   ⟨0x16932, "BAMUM LETTER PHASE-D ", "MFIEE;NGGWAEN;YUOM;PAP;YUOP;NDAM;NTEUM;SUAE;KUN;NGGEUX"⟩,
   ⟨0x1693c, "BAMUM LETTER PHASE-D ", "NGKIEE;TUOT;MEUN;KUQ;NSUM;TEUN;MAENJET;NGGAP;LEUM;NGGUOM"⟩,
   ⟨0x16946, "BAMUM LETTER PHASE-D ", "NSHUT;NJUEQ;GHEUAE;KU;REN OLD;TAE;TOQ;NYI;RII;LEEEE;MEEEE"⟩,
   ⟨0x16951, "BAMUM LETTER PHASE-D ", "M;SUU;MU;SHII;SHEUX;KYEE;NU;SHU;NTEE;PEE;NI;SHOQ;PUQ;MVOP"⟩,
   ⟨0x1695f, "BAMUM LETTER PHASE-", "D LOQ;D REN MUCH;D TI;D NTUU;D MBAA SEVEN;D SAQ;D FAA;E NDAP"⟩,
   ⟨0x16967, "BAMUM LETTER PHASE-E ", "TOON;MBEUM;LAP;VOM;LOON;PAA;SOM;RAQ;NSHUOP;NDUN;PUAE;TAM"⟩,
   ⟨0x16973, "BAMUM LETTER PHASE-E ", "NGKA;KPEUX;WUO;SEE;NGGEUAET;PAAM;TOO;KUOP;LOM;NSHIEE;NGOP"⟩,
   ⟨0x1697e, "BAMUM LETTER PHASE-E ", "MAEM;NGKEUX;NGOQ;NSHUE;RIMGBA;NJEUX;PEEM;SAA;NGGURAE;MGBA"⟩,
   ⟨0x16988, "BAMUM LETTER PHASE-E ", "GHEUX;NGKEUAEM;NJAEMLI;MAP;LOOT;NGGEEEE;NDIQ;TAEN NTEUM"⟩,
   ⟨0x16990, "BAMUM LETTER PHASE-E ", "SET;PUM;NDAA SOFTNESS;NGGUAESHAE NYAM;YIEE;GHEUN;TUAE"⟩,
   ⟨0x16997, "BAMUM LETTER PHASE-E ", "YEUAE;PO;TUMAE;KEUAE;SUAEN;TEUAEQ;VEUAE;WEUX;LAAM;PU;TAAQ"⟩,
   ⟨0x169a2, "BAMUM LETTER PHASE-E ", "GHAAMAE;NGEUREUT;SHEUAEQ;MGBEN;MBEE;NZAQ;NKOM;GBET;TUM"⟩,
   ⟨0x169ab, "BAMUM LETTER PHASE-E ", "KUET;YAP;NYI CLEAVER;YIT;MFEUQ;NDIAQ;PIEEQ;YUEQ;LEUAEM;FUE"⟩,
   ⟨0x169b5, "BAMUM LETTER PHASE-E ", "GBEUX;NGKUP;KET;MAE;NGKAAMI;GHET;FA;NTUM;PEUT;YEUM;NGGEUAE"⟩,
   ⟨0x169c0, "BAMUM LETTER PHASE-E ", "NYI BETWEEN;NZUQ;POON;MIEE;FUET;NAE;MUAE;GHEUAE;FU I;MVI"⟩,
   ⟨0x169ca, "BAMUM LETTER PHASE-E ", "PUAQ;NGKUM;KUT;PIET;NTAP;YEUAET;NGGUP;PA PEOPLE;FU CALL"⟩,
   ⟨0x169d3, "BAMUM LETTER PHASE-E ",
     "FOM;NJEE;A;TOQ;O;I;LAQ;PA PLURAL;TAA;TAQ;NDAA MY HOUSE;SHIQ;YEUX;NGUAE;YUAEN;YOQ SWIMMING"⟩,
   ⟨0x169e3, "BAMUM LETTER PHASE-E ", "YOQ COVER;YUQ;YUN;KEUX;PEUX;NJEE EPOCH;PUE;WUE;FEE;VEE;LU"⟩,
   ⟨0x169ee, "BAMUM LETTER PHASE-E ",
     "MI;REUX;RAE;NGUAET;NGA;SHO;SHOQ;FU REMEDY;NA;PI;LOQ;KO;MEN;MA;MAQ;TEU;KI;MON;TEN;FAQ;GHOM"⟩,
   ⟨0x16a03, "BAMUM LETTER PHASE-F ", "KA;U;KU;EE;REE;TAE;NYI;LA;RII;RIEE;MEEEE;TAA;NDAA;NJAEM"⟩,
   ⟨0x16a11, "BAMUM LETTER PHASE-F ", "M;SUU;SHII;SI;SEUX;KYEE;KET;NUAE;NU;NJUAE;YOQ;SHU;YA;NSHA"⟩,
   ⟨0x16a1f, "BAMUM LETTER PHASE-F ", "PEUX;NTEE;WUE;PEE;RU;NI;REUX;KEN;NGKWAEN;NGGA;SHO;PUAE"⟩,
   ⟨0x16a2b, "BAMUM LETTER PHASE-F ", "FOM;WA;LI;LOQ;KO;MBEN;REN;MA;MO;MBAA;TET;KPA;SAMBA;VUEQ"⟩]

/-- The names in the block Mro. -/
def mro : List NameRun :=
  [⟨0x16a40, "MRO LETTER ", "TA;NGI;YO;MIM;BA;DA;A;PHI;KHAI;HAO;DAI;CHU"⟩,
   ⟨0x16a4c, "MRO LETTER ", "KEAAE;OL;MAEM;NIN;PA;OO;O;RO;SHI;THEA;EA;WA;E;KO;LAN;LA;HAI;RI;TEK"⟩,
   ⟨0x16a60, "MRO DIGIT ", "ZERO;ONE;TWO;THREE;FOUR;FIVE;SIX;SEVEN;EIGHT;NINE"⟩,
   ⟨0x16a6e, "MRO D", "ANDA;OUBLE DANDA"⟩]

/-- The names in the block Tangsa. -/
def tangsa : List NameRun :=
  [⟨0x16a70, "TANGSA LETTER ", "OZ;OC;OQ;OX;AZ;AC;AQ;AX;VZ;VC;VQ;VX;EZ"⟩,
   ⟨0x16a7d, "TANGSA LETTER ", "EC;EQ;EX;IZ;IC;IQ;IX;UZ;UC;UQ;UX;AWZ;AWC;AWQ;AWX;UIZ;UIC;UIQ;UIX"⟩,
   ⟨0x16a90, "TANGSA LETTER ", "FINAL NG;LONG UEX;SHORT UEZ;SHORT AWX;UEC;UEZ;UEQ;UEX;UIUZ;UIUC"⟩,
   ⟨0x16a9a, "TANGSA LETTER ", "UIUQ;UIUX;MZ;MC;MQ;MX;KA;KHA;GA;NGA;SA;YA;WA;PA;NYA;PHA;BA;MA;NA"⟩,
   ⟨0x16aad, "TANGSA LETTER ", "HA;LA;HTA;TA;DA;RA;NHA;SHA;CA;TSA;GHA;HTTA;THA;XA;FA;DHA;CHA;ZA"⟩,
   ⟨0x16ac0, "TANGSA DIGIT ", "ZERO;ONE;TWO;THREE;FOUR;FIVE;SIX;SEVEN;EIGHT;NINE"⟩]

/-- The names in the block Bassa Vah. -/
def bassaVah : List NameRun :=
  [⟨0x16ad0, "BASSA VAH LETTER ", "ENNI;KA;SE;FA;MBE;YIE;GAH;DHII;KPAH;JO;HWAH"⟩,
   ⟨0x16adb, "BASSA VAH LETTER ", "WA;ZO;GBU;DO;CE;UWU;TO;BA;VU;YEIN;PA;WADDA;A;O;OO;U;EE;E;I"⟩,
   ⟨0x16af0, "BASSA VAH COMBINING ", "HIGH TONE;LOW TONE;MID TONE"⟩,
   ⟨0x16af3, "BASSA VAH ", "COMBINING LOW-MID TONE;COMBINING HIGH-LOW TONE;FULL STOP"⟩]

/-- The names in the block Pahawh Hmong. -/
def pahawhHmong : List NameRun :=
  [⟨0x16b00, "PAHAWH HMONG VOWEL K", "EEB;EEV;IB;IV;AUB;AUV;UB;UV;EB;EV;AIB;AIV"⟩,
   ⟨0x16b0c, "PAHAWH HMONG VOWEL K", "OOB;OOV;AWB;AWV;UAB;UAV;OB;OV;IAB;IAV;AB;AV;WB;WV;AAB;AAV"⟩,
   ⟨0x16b1c, "PAHAWH HMONG CONSONANT ", "VAU;NTSAU;LAU;HAU;NLAU;RAU;NKAU;QHAU"⟩,
   ⟨0x16b24, "PAHAWH HMONG CONSONANT ", "YAU;HLAU;MAU;CHAU;NCHAU;HNAU;PLHAU;NTHAU;NAU;AU;XAU;CAU"⟩,
   ⟨0x16b30, "PAHAWH HMONG MARK CIM ", "TUB;SO;KES;KHAV;SUAM;HOM"⟩,
   ⟨0x16b36, "PAHAWH HMONG ", "MARK CIM TAUM;SIGN VOS THOM;SIGN VOS TSHAB CEEB;SIGN CIM CHEEM"⟩,
   ⟨0x16b3a, "PAHAWH HMONG SIGN ", "VOS THIAB;VOS FEEM;XYEEM NTXIV;XYEEM RHO;XYEEM TOV;XYEEM FAIB"⟩,
   ⟨0x16b40, "PAHAWH HMONG SIGN ", "VOS SEEV;MEEJ SUAB;VOS NRUA;IB YAM;XAUS;CIM TSOV ROG"⟩,
   ⟨0x16b50, "PAHAWH HMONG DIGIT ", "ZERO;ONE;TWO;THREE;FOUR;FIVE;SIX;SEVEN;EIGHT;NINE"⟩,
   ⟨0x16b5b, "PAHAWH HMONG NUMBER ",
     "TENS;HUNDREDS;TEN THOUSANDS;MILLIONS;HUNDRED MILLIONS;TEN BILLIONS;TRILLIONS"⟩,
   ⟨0x16b63, "PAHAWH HMONG SIGN ", "VOS LUB;XYOO;HLI;THIRD-STAGE HLI;ZWJ THAJ;HNUB;NQIG;XIAB;NTUJ"⟩,
   ⟨0x16b6c, "PAHAWH HMONG SIGN ", "AV;TXHEEJ CEEV;MEEJ TSEEB;TAU;LOS;MUS;CIM HAIS LUS NTOG NTOG"⟩,
   ⟨0x16b73, "PAHAWH HMONG SIGN CIM ", "CUAM TSHOOJ;TXWV;TXWV CHWV;PUB DAWB;NRES TOS"⟩,
   ⟨0x16b7d, "PAHAWH HMONG CLAN SIGN ",
     "TSHEEJ;YEEG;LIS;LAUJ;XYOOJ;KOO;HAWJ;MUAS;THOJ;TSAB;PHAB;KHAB;HAM;VAJ;FAJ;YAJ;TSWB;KWM;VWJ"⟩]

/-- The names in the block Medefaidrin. -/
def medefaidrin : List NameRun :=
  [⟨0x16e40, "MEDEFAIDRIN CAPITAL LETTER ",
     "M;S;V;W;ATIU;Z;KP;P;T;G;F;I;K;A;J;E;B;C;U;YU;L;Q;HP;NY;X;D;OE;N;R;O;AI;Y"⟩,
   ⟨0x16e60, "MEDEFAIDRIN SMALL LETTER ",
     "M;S;V;W;ATIU;Z;KP;P;T;G;F;I;K;A;J;E;B;C;U;YU;L;Q;HP;NY;X;D;OE;N;R;O;AI;Y"⟩,
   ⟨0x16e80, "MEDEFAIDRIN DIGIT ", "ZERO;ONE;TWO;THREE;FOUR;FIVE;SIX;SEVEN;EIGHT;NINE"⟩,
   ⟨0x16e8a, "MEDEFAIDRIN NUMBER ",
     "TEN;ELEVEN;TWELVE;THIRTEEN;FOURTEEN;FIFTEEN;SIXTEEN;SEVENTEEN;EIGHTEEN;NINETEEN"⟩,
   ⟨0x16e94, "MEDEFAIDRIN DIGIT ", "ONE ALTERNATE FORM;TWO ALTERNATE FORM;THREE ALTERNATE FORM"⟩,
   ⟨0x16e97, "MEDEFAIDRIN ", "COMMA;FULL STOP;SYMBOL AIVA;EXCLAMATION OH"⟩]

/-- The names in the block Miao. -/
def miao : List NameRun :=
  [⟨0x16f00, "MIAO LETTER ", "PA;BA;YI PA;PLA;MA;MHA;ARCHAIC MA;FA"⟩,
   ⟨0x16f08, "MIAO LETTER ", "VA;VFA;TA;DA;YI TTA;YI TA;TTA;DDA;NA;NHA;YI NNA;ARCHAIC NA;NNA;NNHA"⟩,
   ⟨0x16f16, "MIAO LETTER ", "LA;LYA;LHA;LHYA;TLHA;DLHA;TLHYA;DLHYA;KA;GA;YI KA;QA;QGA;NGA;NGHA"⟩,
   ⟨0x16f25, "MIAO LETTER ", "ARCHAIC NGA;HA;XA;GHA;GHHA;TSSA;DZZA;NYA;NYHA;TSHA;DZHA;YI TSHA"⟩,
   ⟨0x16f31, "MIAO LETTER ", "YI DZHA;REFORMED TSHA;SHA;SSA;ZHA;ZSHA;TSA;DZA;YI TSA;SA;ZA;ZSA"⟩,
   ⟨0x16f3d, "MIAO LETTER ", "ZZA;ZZSA;ARCHAIC ZZA;ZZYA;ZZSYA;WA;AH;HHA;BRI;SYI;DZYI;TE;TSE;RTE"⟩,
   ⟨0x16f4f, "MIAO ", "SIGN CONSONANT MODIFIER BAR;LETTER NASALIZATION;SIGN ASPIRATION"⟩,
   ⟨0x16f52, "MIAO ", "SIGN REFORMED VOICING;SIGN REFORMED ASPIRATION;VOWEL SIGN A"⟩,
   ⟨0x16f55, "MIAO VOWEL SIGN ", "AA;AHH;AN;ANG;O;OO;WO;W;E;EN;ENG;OEY;I;IA;IAN;IANG;IO;IE"⟩,
   ⟨0x16f67, "MIAO VOWEL SIGN ", "II;IU;ING;U;UA;UAN;UANG;UU;UEI;UNG;Y;YI;AE;AEE;ERR;ROUNDED ERR"⟩,
   ⟨0x16f77, "MIAO VOWEL SIGN ", "ER;ROUNDED ER;AI;EI;AU;OU;N;NG;UOG;YUI;OG;OER;VW;IG;EA;IONG;UI"⟩,
   ⟨0x16f8f, "MIAO ", "TONE RIGHT;TONE TOP RIGHT;TONE ABOVE;TONE BELOW;LETTER TONE-2"⟩,
   ⟨0x16f94, "MIAO LETTER ", "TONE-3;TONE-4;TONE-5;TONE-6;TONE-7;TONE-8;REFORMED TONE-1"⟩,
   ⟨0x16f9b, "MIAO LETTER REFORMED TONE-", "2;4;5;6;8"⟩]

/-- The names in the block Ideographic Symbols and Punctuation. -/
def ideographicSymbolsAndPunctuation : List NameRun :=
  [⟨0x16fe0, "", "TANGUT ITERATION MARK;NUSHU ITERATION MARK"⟩,
   ⟨0x16fe2, "", "OLD CHINESE HOOK MARK;OLD CHINESE ITERATION MARK;KHITAN SMALL SCRIPT FILLER"⟩,
   ⟨0x16ff0, "VIETNAMESE ALTERNATE READING MARK ", "CA;NHAY"⟩]

/-- The names in the block Tangut Components. -/
def tangutComponents : List NameRun :=
  [⟨0x18800, "TANGUT COMPONENT-0", "01;02;03;04;05;06;07;08;09;10;11;12;13;14;15;16;17;18;19"⟩,
   ⟨0x18813, "TANGUT COMPONENT-0", "20;21;22;23;24;25;26;27;28;29;30;31;32;33;34;35;36;37;38;39"⟩,
   ⟨0x18827, "TANGUT COMPONENT-0", "40;41;42;43;44;45;46;47;48;49;50;51;52;53;54;55;56;57;58;59"⟩,
   ⟨0x1883b, "TANGUT COMPONENT-0", "60;61;62;63;64;65;66;67;68;69;70;71;72;73;74;75;76;77;78;79"⟩,
   ⟨0x1884f, "TANGUT COMPONENT-0", "80;81;82;83;84;85;86;87;88;89;90;91;92;93;94;95;96;97;98;99"⟩,
   ⟨0x18863, "TANGUT COMPONENT-1", "00;01;02;03;04;05;06;07;08;09;10;11;12;13;14;15;16;17;18;19"⟩,
   ⟨0x18877, "TANGUT COMPONENT-1", "20;21;22;23;24;25;26;27;28;29;30;31;32;33;34;35;36;37;38;39"⟩,
   ⟨0x1888b, "TANGUT COMPONENT-1", "40;41;42;43;44;45;46;47;48;49;50;51;52;53;54;55;56;57;58;59"⟩,
   ⟨0x1889f, "TANGUT COMPONENT-1", "60;61;62;63;64;65;66;67;68;69;70;71;72;73;74;75;76;77;78;79"⟩,
   ⟨0x188b3, "TANGUT COMPONENT-1", "80;81;82;83;84;85;86;87;88;89;90;91;92;93;94;95;96;97;98;99"⟩,
   ⟨0x188c7, "TANGUT COMPONENT-2", "00;01;02;03;04;05;06;07;08;09;10;11;12;13;14;15;16;17;18;19"⟩,
   ⟨0x188db, "TANGUT COMPONENT-2", "20;21;22;23;24;25;26;27;28;29;30;31;32;33;34;35;36;37;38;39"⟩,
   ⟨0x188ef, "TANGUT COMPONENT-2", "40;41;42;43;44;45;46;47;48;49;50;51;52;53;54;55;56;57;58;59"⟩,
   ⟨0x18903, "TANGUT COMPONENT-2", "60;61;62;63;64;65;66;67;68;69;70;71;72;73;74;75;76;77;78;79"⟩,
   ⟨0x18917, "TANGUT COMPONENT-2", "80;81;82;83;84;85;86;87;88;89;90;91;92;93;94;95;96;97;98;99"⟩,
   ⟨0x1892b, "TANGUT COMPONENT-3", "00;01;02;03;04;05;06;07;08;09;10;11;12;13;14;15;16;17;18;19"⟩,
   ⟨0x1893f, "TANGUT COMPONENT-3", "20;21;22;23;24;25;26;27;28;29;30;31;32;33;34;35;36;37;38;39"⟩,
   ⟨0x18953, "TANGUT COMPONENT-3", "40;41;42;43;44;45;46;47;48;49;50;51;52;53;54;55;56;57;58;59"⟩,
   ⟨0x18967, "TANGUT COMPONENT-3", "60;61;62;63;64;65;66;67;68;69;70;71;72;73;74;75;76;77;78;79"⟩,
   ⟨0x1897b, "TANGUT COMPONENT-3", "80;81;82;83;84;85;86;87;88;89;90;91;92;93;94;95;96;97;98;99"⟩,
   ⟨0x1898f, "TANGUT COMPONENT-4", "00;01;02;03;04;05;06;07;08;09;10;11;12;13;14;15;16;17;18;19"⟩,
   ⟨0x189a3, "TANGUT COMPONENT-4", "20;21;22;23;24;25;26;27;28;29;30;31;32;33;34;35;36;37;38;39"⟩,
   ⟨0x189b7, "TANGUT COMPONENT-4", "40;41;42;43;44;45;46;47;48;49;50;51;52;53;54;55;56;57;58;59"⟩,
   ⟨0x189cb, "TANGUT COMPONENT-4", "60;61;62;63;64;65;66;67;68;69;70;71;72;73;74;75;76;77;78;79"⟩,
   ⟨0x189df, "TANGUT COMPONENT-4", "80;81;82;83;84;85;86;87;88;89;90;91;92;93;94;95;96;97;98;99"⟩,
   ⟨0x189f3, "TANGUT COMPONENT-5", "00;01;02;03;04;05;06;07;08;09;10;11;12;13;14;15;16;17;18;19"⟩,
   ⟨0x18a07, "TANGUT COMPONENT-5", "20;21;22;23;24;25;26;27;28;29;30;31;32;33;34;35;36;37;38;39"⟩,
   ⟨0x18a1b, "TANGUT COMPONENT-5", "40;41;42;43;44;45;46;47;48;49;50;51;52;53;54;55;56;57;58;59"⟩,
   ⟨0x18a2f, "TANGUT COMPONENT-5", "60;61;62;63;64;65;66;67;68;69;70;71;72;73;74;75;76;77;78;79"⟩,
   ⟨0x18a43, "TANGUT COMPONENT-5", "80;81;82;83;84;85;86;87;88;89;90;91;92;93;94;95;96;97;98;99"⟩,
   ⟨0x18a57, "TANGUT COMPONENT-6", "00;01;02;03;04;05;06;07;08;09;10;11;12;13;14;15;16;17;18;19"⟩,
   ⟨0x18a6b, "TANGUT COMPONENT-6", "20;21;22;23;24;25;26;27;28;29;30;31;32;33;34;35;36;37;38;39"⟩,
   ⟨0x18a7f, "TANGUT COMPONENT-6", "40;41;42;43;44;45;46;47;48;49;50;51;52;53;54;55;56;57;58;59"⟩,
   ⟨0x18a93, "TANGUT COMPONENT-6", "60;61;62;63;64;65;66;67;68;69;70;71;72;73;74;75;76;77;78;79"⟩,
   ⟨0x18aa7, "TANGUT COMPONENT-6", "80;81;82;83;84;85;86;87;88;89;90;91;92;93;94;95;96;97;98;99"⟩,
   ⟨0x18abb, "TANGUT COMPONENT-7", "00;01;02;03;04;05;06;07;08;09;10;11;12;13;14;15;16;17;18"⟩,
   ⟨0x18ace, "TANGUT COMPONENT-7", "19;20;21;22;23;24;25;26;27;28;29;30;31;32;33;34;35;36;37;38"⟩,
   ⟨0x18ae2, "TANGUT COMPONENT-7",
     "39;40;41;42;43;44;45;46;47;48;49;50;51;52;53;54;55;56;57;58;59;60;61;62;63;64;65;66;67;68"⟩]

/-- The names in the block Kana Extended-B. -/
def kanaExtendedB : List NameRun :=
  [⟨0x1aff0, "KATAKANA LETTER MINNAN TONE-", "2;3;4;5"⟩,
   ⟨0x1aff5, "KATAKANA LETTER MINNAN ", "TONE-7;TONE-8;NASALIZED TONE-1"⟩,
   ⟨0x1aff8, "KATAKANA LETTER MINNAN NASALIZED TONE-", "2;3;4;5"⟩,
   ⟨0x1affd, "KATAKANA LETTER MINNAN NASALIZED TONE-", "7;8"⟩]

/-- The names in the block Kana Supplement. -/
def kanaSupplement : List NameRun :=
  [⟨0x1b000, "", "KATAKANA LETTER ARCHAIC E;HIRAGANA LETTER ARCHAIC YE;HENTAIGANA LETTER A-1"⟩,
   ⟨0x1b003, "HENTAIGANA LETTER ", "A-2;A-3;A-WO;I-1;I-2;I-3;I-4;U-1;U-2;U-3;U-4;U-5;E-2;E-3;E-4"⟩,
   ⟨0x1b012, "HENTAIGANA LETTER ", "E-5;E-6;O-1;O-2;O-3;KA-1;KA-2;KA-3;KA-4;KA-5;KA-6;KA-7;KA-8"⟩,
   ⟨0x1b01f, "HENTAIGANA LETTER K", "A-9;A-10;A-11;A-KE;I-1;I-2;I-3;I-4;I-5;I-6;I-7;I-8;U-1;U-2"⟩,
   ⟨0x1b02d, "HENTAIGANA LETTER K", "U-3;U-4;U-5;U-6;U-7;E-1;E-2;E-3;E-4;E-5;E-6;O-1;O-2;O-3;O-KI"⟩,
   ⟨0x1b03c, "HENTAIGANA LETTER S", "A-1;A-2;A-3;A-4;A-5;A-6;A-7;A-8;I-1;I-2;I-3;I-4;I-5;I-6"⟩,
   ⟨0x1b04a, "HENTAIGANA LETTER S", "U-1;U-2;U-3;U-4;U-5;U-6;U-7;U-8;E-1;E-2;E-3;E-4;E-5;O-1;O-2"⟩,
   ⟨0x1b059, "HENTAIGANA LETTER ", "SO-3;SO-4;SO-5;SO-6;SO-7;TA-1;TA-2;TA-3;TA-4;TI-1;TI-2;TI-3"⟩,
   ⟨0x1b065, "HENTAIGANA LETTER T", "I-4;I-5;I-6;I-7;U-1;U-2;U-3;U-4;U-TO;E-1;E-2;E-3;E-4;E-5;E-6"⟩,
   ⟨0x1b074, "HENTAIGANA LETTER ", "TE-7;TE-8;TE-9;TO-1;TO-2;TO-3;TO-4;TO-5;TO-6;TO-RA;NA-1;NA-2"⟩,
   ⟨0x1b080, "HENTAIGANA LETTER N", "A-3;A-4;A-5;A-6;A-7;A-8;A-9;I-1;I-2;I-3;I-4;I-5;I-6;I-7;I-TE"⟩,
   ⟨0x1b08f, "HENTAIGANA LETTER N", "U-1;U-2;U-3;E-1;E-2;E-3;E-4;E-5;E-6;E-KO;O-1;O-2;O-3;O-4"⟩,
   ⟨0x1b09d, "HENTAIGANA LETTER ", "NO-5;HA-1;HA-2;HA-3;HA-4;HA-5;HA-6;HA-7;HA-8;HA-9;HA-10;HA-11"⟩,
   ⟨0x1b0a9, "HENTAIGANA LETTER H", "I-1;I-2;I-3;I-4;I-5;I-6;I-7;U-1;U-2;U-3;E-1;E-2;E-3;E-4;E-5"⟩,
   ⟨0x1b0b8, "HENTAIGANA LETTER ", "HE-6;HE-7;HO-1;HO-2;HO-3;HO-4;HO-5;HO-6;HO-7;HO-8;MA-1;MA-2"⟩,
   ⟨0x1b0c4, "HENTAIGANA LETTER M", "A-3;A-4;A-5;A-6;A-7;I-1;I-2;I-3;I-4;I-5;I-6;I-7;U-1;U-2;U-3"⟩,
   ⟨0x1b0d3, "HENTAIGANA LETTER ", "MU-4;ME-1;ME-2;ME-MA;MO-1;MO-2;MO-3;MO-4;MO-5;MO-6;YA-1;YA-2"⟩,
   ⟨0x1b0df, "HENTAIGANA LETTER ",
     "YA-3;YA-4;YA-5;YA-YO;YU-1;YU-2;YU-3;YU-4;YO-1;YO-2;YO-3;YO-4;YO-5;YO-6;RA-1;RA-2;RA-3;RA-4"⟩,
   ⟨0x1b0f1, "HENTAIGANA LETTER R", "I-1;I-2;I-3;I-4;I-5;I-6;I-7;U-1;U-2;U-3;U-4;U-5;U-6;E-1;E-2"⟩]

/-- The names in the block Kana Extended-A. -/
def kanaExtendedA : List NameRun :=
  [⟨0x1b100, "HENTAIGANA LETTER ", "RE-3;RE-4;RO-1;RO-2;RO-3;RO-4;RO-5;RO-6;WA-1"⟩,
   ⟨0x1b109, "HENTAIGANA LETTER W", "A-2;A-3;A-4;A-5;I-1;I-2;I-3;I-4;I-5;E-1;E-2;E-3"⟩,
   ⟨0x1b115, "HENTAIGANA LETTER ", "WE-4;WO-1;WO-2;WO-3;WO-4;WO-5;WO-6;WO-7;N-MU-MO-1;N-MU-MO-2"⟩,
   ⟨0x1b11f, "", "HIRAGANA LETTER ARCHAIC WU;KATAKANA LETTER ARCHAIC YI"⟩,
   ⟨0x1b121, "KATAKANA LETTER ARCHAIC ", "YE;WU"⟩]

/-- The names in the block Small Kana Extension. -/
def smallKanaExtension : List NameRun :=
  [⟨0x1b150, "HIRAGANA LETTER SMALL W", "I;E;O"⟩,
   ⟨0x1b164, "KATAKANA LETTER SMALL ", "WI;WE;WO;N"⟩]

/-- The names in the block Duployan. -/
def duployan : List NameRun :=
  [⟨0x1bc00, "DUPLOYAN LETTER ", "H;X;P;T;F;K;L;B;D;V;G;R;P N;D S;F N;K M"⟩,
   ⟨0x1bc10, "DUPLOYAN LETTER ", "R S;TH;SLOAN DH;DH;KK;SLOAN J;HL;LH;RH;M;N;J;S;M N;N M;J M;S J"⟩,
   ⟨0x1bc21, "DUPLOYAN LETTER ", "M WITH DOT;N WITH DOT;J WITH DOT;J WITH DOTS INSIDE AND ABOVE"⟩,
   ⟨0x1bc25, "DUPLOYAN LETTER ", "S WITH DOT;S WITH DOT BELOW;M S;N S;J S;S S;M N S;N M S;J M S"⟩,
   ⟨0x1bc2e, "DUPLOYAN LETTER ", "S J S;J S WITH DOT;J N;J N S;S T;S T R;S P;S P R;T S;T R S"⟩,
   ⟨0x1bc38, "DUPLOYAN LETTER ", "W;WH;W R;S N;S M;K R S;G R S;S K;S K R;A;SLOAN OW;OA;O;AOU;I"⟩,
   ⟨0x1bc47, "DUPLOYAN LETTER ", "E;IE;SHORT I;UI;EE;SLOAN EH;ROMANIAN I;SLOAN EE;LONG I;YE;U;EU"⟩,
   ⟨0x1bc53, "DUPLOYAN LETTER ", "XW;U N;LONG U;ROMANIAN U;UH;SLOAN U;OOH;OW;OU;WA;WO;WI;WEI;WOW"⟩,
   ⟨0x1bc61, "DUPLOYAN LETTER ",
     "NASAL U;NASAL O;NASAL I;NASAL A;PERNIN AN;PERNIN AM;SLOAN EN;SLOAN AN;SLOAN ON;VOCALIC M"⟩,
   ⟨0x1bc70, "DUPLOYAN AFFIX ", "LEFT HORIZONTAL SECANT;MID HORIZONTAL SECANT"⟩,
   ⟨0x1bc72, "DUPLOYAN AFFIX ",
     "RIGHT HORIZONTAL SECANT;LOW VERTICAL SECANT;MID VERTICAL SECANT;HIGH VERTICAL SECANT"⟩,
   ⟨0x1bc76, "DUPLOYAN AFFIX ATTACHED ",
     "SECANT;LEFT-TO-RIGHT SECANT;TANGENT;TAIL;E HOOK;I HOOK;TANGENT HOOK"⟩,
   ⟨0x1bc80, "DUPLOYAN AFFIX HIGH ",
     "ACUTE;TIGHT ACUTE;GRAVE;LONG GRAVE;DOT;CIRCLE;LINE;WAVE;VERTICAL"⟩,
   ⟨0x1bc90, "DUPLOYAN AFFIX LOW ",
     "ACUTE;TIGHT ACUTE;GRAVE;LONG GRAVE;DOT;CIRCLE;LINE;WAVE;VERTICAL;ARROW"⟩,
   ⟨0x1bc9c, "DUPLOYAN ",
     "SIGN O WITH CROSS;THICK LETTER SELECTOR;DOUBLE MARK;PUNCTUATION CHINOOK FULL STOP"⟩]

/-- The names in the block Shorthand Format Controls. -/
def shorthandFormatControls : List NameRun :=
  [⟨0x1bca0, "SHORTHAND FORMAT ", "LETTER OVERLAP;CONTINUING OVERLAP;DOWN STEP;UP STEP"⟩]

/-- All names of this module. -/
def hieroglyphs : List NameRun :=
  List.flatten
    [cuneiform, cuneiformNumbersAndPunctuation, earlyDynasticCuneiform, cyproMinoan,
     egyptianHieroglyphs, egyptianHieroglyphFormatControls, anatolianHieroglyphs, bamumSupplement,
     mro, tangsa, bassaVah, pahawhHmong, medefaidrin, miao, ideographicSymbolsAndPunctuation,
     tangutComponents, kanaExtendedB, kanaSupplement, kanaExtendedA, smallKanaExtension, duployan,
     shorthandFormatControls]

end Names
end Unicode
end LiquidMarkdown
