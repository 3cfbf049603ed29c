import LiquidMarkdown.Unicode.NameRun

/-!
# Names of characters: notations

* `notations` — the names of music, counting rods, letters of mathematics, and sign writing.
-/

namespace LiquidMarkdown
namespace Unicode
namespace Names

/-- The names in the block Znamenny Musical Notation. -/
def znamennyMusicalNotation : List NameRun :=
  [⟨0x1cf00, "ZNAMENNY COMBINING MARK ", "GORAZDO NIZKO S KRYZHEM ON LEFT;NIZKO S KRYZHEM ON LEFT"⟩,
   ⟨0x1cf02, "ZNAMENNY COMBINING MARK ",
     "TSATA ON LEFT;GORAZDO NIZKO ON LEFT;NIZKO ON LEFT;SREDNE ON LEFT;MALO POVYSHE ON LEFT"⟩,
   ⟨0x1cf07, "ZNAMENNY COMBINING MARK ",
     "POVYSHE ON LEFT;VYSOKO ON LEFT;MALO POVYSHE S KHOKHLOM ON LEFT;POVYSHE S KHOKHLOM ON LEFT"⟩,
   ⟨0x1cf0b, "ZNAMENNY COMBINING MARK ",
     "VYSOKO S KHOKHLOM ON LEFT;GORAZDO NIZKO S KRYZHEM ON RIGHT;NIZKO S KRYZHEM ON RIGHT"⟩,
   ⟨0x1cf0e, "ZNAMENNY COMBINING MARK ", "TSATA ON RIGHT;GORAZDO NIZKO ON RIGHT;NIZKO ON RIGHT"⟩,
   ⟨0x1cf11, "ZNAMENNY COMBINING MARK ", "SREDNE ON RIGHT;MALO POVYSHE ON RIGHT;POVYSHE ON RIGHT"⟩,
   ⟨0x1cf14, "ZNAMENNY COMBINING MARK ", "VYSOKO ON RIGHT;MALO POVYSHE S KHOKHLOM ON RIGHT"⟩,
   ⟨0x1cf16, "ZNAMENNY COMBINING MARK ", "POVYSHE S KHOKHLOM ON RIGHT;VYSOKO S KHOKHLOM ON RIGHT"⟩,
   ⟨0x1cf18, "ZNAMENNY COMBINING MARK ", "TSATA S KRYZHEM;MALO POVYSHE S KRYZHEM"⟩,
   ⟨0x1cf1a, "ZNAMENNY COMBINING MARK ", "STRANNO MALO POVYSHE;POVYSHE S KRYZHEM;POVYSHE STRANNO"⟩,
   ⟨0x1cf1d, "ZNAMENNY COMBINING MARK ", "VYSOKO S KRYZHEM;MALO POVYSHE STRANNO;GORAZDO VYSOKO"⟩,
   ⟨0x1cf20, "ZNAMENNY COMBINING MARK ", "ZELO;ON;RAVNO;TIKHAYA;BORZAYA;UDARKA;PODVERTKA"⟩,
   ⟨0x1cf27, "ZNAMENNY COMBINING MARK ", "LOMKA;KUPNAYA;KACHKA;ZEVOK;SKOBA;RAZSEKA;KRYZH ON LEFT"⟩,
   ⟨0x1cf30, "ZNAMENNY COMBINING TONAL RANGE MARK ", "MRACHNO;SVETLO;TRESVETLO"⟩,
   ⟨0x1cf33, "ZNAMENNY COMBINING MARK ", "ZADERZHKA;DEMESTVENNY ZADERZHKA;OTSECHKA;PODCHASHIE"⟩,
   ⟨0x1cf37, "ZNAMENNY COMBINING MARK ", "PODCHASHIE WITH VERTICAL STROKE;CHASHKA;CHASHKA POLNAYA"⟩,
   ⟨0x1cf3a, "ZNAMENNY COMBINING ",
     "MARK OBLACHKO;MARK SOROCHYA NOZHKA;MARK TOCHKA;MARK DVOETOCHIE;ATTACHING VERTICAL OMET"⟩,
   ⟨0x1cf3f, "ZNAMENNY COMBINING ", "MARK CURVED OMET;MARK KRYZH;LOWER TONAL RANGE INDICATOR"⟩,
   ⟨0x1cf42, "ZNAMENNY PRIZNAK MODIFIER ", "LEVEL-2;LEVEL-3;DIRECTION FLIP;KRYZH;ROG"⟩,
   ⟨0x1cf50, "ZNAMENNY NEUME ", "KRYUK;KRYUK TIKHY;PARAKLIT;DVA V CHELNU;KLYUCH;ZANOZHEK"⟩,
   ⟨0x1cf56, "ZNAMENNY NEUME ", "STOPITSA;STOPITSA S OCHKOM;PEREVODKA;PEREVODKA NEPOSTOYANNAYA"⟩,
   ⟨0x1cf5a, "ZNAMENNY NEUME ", "STOPITSA WITH SOROCHYA NOZHKA;CHELYUSTKA;PALKA;ZAPYATAYA"⟩,
   ⟨0x1cf5e, "ZNAMENNY NEUME GOLUBCHIK ", "BORZY;TIKHY;MRACHNY;SVETLY;TRESVETLY"⟩,
   ⟨0x1cf63, "ZNAMENNY NEUME VRAKHIYA ", "PROSTAYA;MRACHNAYA;SVETLAYA;TRESVETLAYA"⟩,
   ⟨0x1cf67, "ZNAMENNY NEUME VRAKHIYA KLYUCHEVAYA ", "PROSTAYA;MRACHNAYA;SVETLAYA;TRESVETLAYA"⟩,
   ⟨0x1cf6b, "ZNAMENNY NEUME ", "DOUBLE ZAPYATAYA;REVERSED CHELYUSTKA;DERBITSA;KHAMILO"⟩,
   ⟨0x1cf6f, "ZNAMENNY NEUME ", "CHASHKA;PODCHASHIE;SKAMEYTSA MRACHNAYA;SKAMEYTSA SVETLAYA"⟩,
   ⟨0x1cf73, "ZNAMENNY NEUME ", "SKAMEYTSA TRESVETLAYA;SKAMEYTSA TIKHAYA;DEMESTVENNY KLYUCH"⟩,
   ⟨0x1cf76, "ZNAMENNY NEUME SKAMEYTSA KLYUCHE", "VAYA SVETLAYA;NEPOSTOYANNAYA;VAYA TIKHAYA"⟩,
   ⟨0x1cf79, "ZNAMENNY NEUME SKAMEYTSA DVOECHELNAYA ", "PROSTAYA;SVETLAYA;NEPOSTOYANNAYA"⟩,
   ⟨0x1cf7c, "ZNAMENNY NEUME S", "KAMEYTSA DVOECHELNAYA KLYUCHEVAYA;LOZHITIE;LOZHITIE S ZAPYATOY"⟩,
   ⟨0x1cf7f, "ZNAMENNY NEUME ",
     "SLOZHITIE ZAKRYTOE;SLOZHITIE S KRYZHEM;KRYZH;ROG;FITA;KOBYLA;ZMEYTSA;STATYA"⟩,
   ⟨0x1cf87, "ZNAMENNY NEUME STATYA S ", "ZAPYATOY;KRYZHEM;ZAPYATOY I KRYZHEM;KRYZHEM I ZAPYATOY"⟩,
   ⟨0x1cf8b, "ZNAMENNY NEUME STATYA ", "ZAKRYTAYA;ZAKRYTAYA S ZAPYATOY;S ROGOM;S DVUMYA ZAPYATYMI"⟩,
   ⟨0x1cf8f, "ZNAMENNY NEUME ", "STATYA S ZAPYATOY I PODCHASHIEM;POLKULIZMY;STATYA NEPOSTOYANNAYA"⟩,
   ⟨0x1cf92, "ZNAMENNY NEUME STRELA ",
     "PROSTAYA;MRACHNOTIKHAYA;KRYZHEVAYA;POLUPOVODNAYA;POVODNAYA;NEPOSTOYANNAYA;KLYUCHEPOVODNAYA"⟩,
   ⟨0x1cf99, "ZNAMENNY NEUME STRELA ",
     "KLYUCHENEPOSTOYANNAYA;TIKHAYA PUTNAYA;DVOECHELNAYA;DVOECHELNOKRYZHEVAYA;DVOECHELNOPOVODNAYA"⟩,
   ⟨0x1cf9e, "ZNAMENNY NEUME STRELA ",
     "DVOECHELNAYA KLYUCHEVAYA;DVOECHELNOPOVODNAYA KLYUCHEVAYA;GROMNAYA WITH SINGLE ZAPYATAYA"⟩,
   ⟨0x1cfa1, "ZNAMENNY NEUME STRELA GROM",
     "OPOVODNAYA WITH SINGLE ZAPYATAYA;NAYA;OPOVODNAYA;OPOVODNAYA WITH DOUBLE ZAPYATAYA"⟩,
   ⟨0x1cfa5, "ZNAMENNY NEUME ", "STRELA GROMOKRYZHEVAYA;STRELA GROMOKRYZHEVAYA POVODNAYA;MECHIK"⟩,
   ⟨0x1cfa8, "ZNAMENNY NEUME MECHIK ", "POVODNY;KLYUCHEVOY;KLYUCHEPOVODNY;KLYUCHENEPOSTOYANNY"⟩,
   ⟨0x1cfac, "ZNAMENNY NEUME STRELA TRYASO", "GLASNAYA;POVODNAYA;STRELNAYA"⟩,
   ⟨0x1cfaf, "ZNAMENNY NEUME OSOKA", "; SVETLAYA; TRESVETLAYA; KRYUKOVAYA SVETLAYA"⟩,
   ⟨0x1cfb3, "ZNAMENNY NEUME OSOKA KLYUCHEVAYA ", "SVETLAYA;NEPOSTOYANNAYA"⟩,
   ⟨0x1cfb5, "ZNAMENNY NEUME STRELA KRYUKOVAYA",
     "; POVODNAYA; GROMNAYA WITH SINGLE ZAPYATAYA; GROMOPOVODNAYA WITH SINGLE ZAPYATAYA"⟩,
   ⟨0x1cfb9, "ZNAMENNY NEUME STRELA KRYUKOVAYA GROM",
     "NAYA;OPOVODNAYA;OPOVODNAYA WITH DOUBLE ZAPYATAYA;OKRYZHEVAYA;OKRYZHEVAYA POVODNAYA"⟩,
   ⟨0x1cfbe, "ZNAMENNY NEUME ", "STRELA KRYUKOVAYA TRYASKA;KUFISMA;OBLAKO;DUDA;NEMKA;PAUK"⟩]

/-- The names in the block Byzantine Musical Symbols. -/
def byzantineMusicalSymbols : List NameRun :=
  [⟨0x1d000, "BYZANTINE MUSICAL SYMBOL ", "PSILI;DASEIA;PERISPOMENI;OXEIA EKFONITIKON;OXEIA DIPLI"⟩,
   ⟨0x1d005, "BYZANTINE MUSICAL SYMBOL ", "VAREIA EKFONITIKON;VAREIA DIPLI;KATHISTI;SYRMATIKI"⟩,
   ⟨0x1d009, "BYZANTINE MUSICAL SYMBOL ",
     "PARAKLITIKI;YPOKRISIS;YPOKRISIS DIPLI;KREMASTI;APESO EKFONITIKON;EXO EKFONITIKON;TELEIA"⟩,
   ⟨0x1d010, "BYZANTINE MUSICAL SYMBOL ", "KENTIMATA;APOSTROFOS;APOSTROFOS DIPLI;SYNEVMA;THITA"⟩,
   ⟨0x1d015, "BYZANTINE MUSICAL SYMBOL ", "OLIGON ARCHAION;GORGON ARCHAION;PSILON;CHAMILON;VATHY"⟩,
   ⟨0x1d01a, "BYZANTINE MUSICAL SYMBOL ", "ISON ARCHAION;KENTIMA ARCHAION;KENTIMATA ARCHAION"⟩,
   ⟨0x1d01d, "BYZANTINE MUSICAL SYMBOL ", "SAXIMATA;PARICHON;STAVROS APODEXIA;OXEIAI ARCHAION"⟩,
   ⟨0x1d021, "BYZANTINE MUSICAL SYMBOL ", "VAREIAI ARCHAION;APODERMA ARCHAION;APOTHEMA;KLASMA"⟩,
   ⟨0x1d025, "BYZANTINE MUSICAL SYMBOL ", "REVMA;PIASMA ARCHAION;TINAGMA;ANATRICHISMA;SEISMA"⟩,
   ⟨0x1d02a, "BYZANTINE MUSICAL SYMBOL ",
     "SYNAGMA ARCHAION;SYNAGMA META STAVROU;OYRANISMA ARCHAION;THEMA;LEMOI;DYO;TRIA;TESSERA"⟩,
   ⟨0x1d032, "BYZANTINE MUSICAL SYMBOL ", "KRATIMATA;APESO EXO NEO;FTHORA ARCHAION;IMIFTHORA"⟩,
   ⟨0x1d036, "BYZANTINE MUSICAL SYMBOL ", "TROMIKON ARCHAION;KATAVA TROMIKON;PELASTON;PSIFISTON"⟩,
   ⟨0x1d03a, "BYZANTINE MUSICAL SYMBOL ",
     "KONTEVMA;CHOREVMA ARCHAION;RAPISMA;PARAKALESMA ARCHAION;PARAKLITIKI ARCHAION;ICHADIN"⟩,
   ⟨0x1d040, "BYZANTINE MUSICAL SYMBOL ", "NANA;PETASMA;KONTEVMA ALLO;TROMIKON ALLO;STRAGGISMATA"⟩,
   ⟨0x1d045, "BYZANTINE MUSICAL SYMBOL ", "GRONTHISMATA;ISON NEO;OLIGON NEO;OXEIA NEO;PETASTI"⟩,
   ⟨0x1d04a, "BYZANTINE MUSICAL SYMBOL ", "KOUFISMA;PETASTOKOUFISMA;KRATIMOKOUFISMA;PELASTON NEO"⟩,
   ⟨0x1d04e, "BYZANTINE MUSICAL SYMBOL ",
     "KENTIMATA NEO ANO;KENTIMA NEO ANO;YPSILI;APOSTROFOS NEO;APOSTROFOI SYNDESMOS NEO;YPORROI"⟩,
   ⟨0x1d054, "BYZANTINE MUSICAL SYMBOL ", "KRATIMOYPORROON;ELAFRON;CHAMILI;MIKRON ISON;VAREIA NEO"⟩,
   ⟨0x1d059, "BYZANTINE MUSICAL SYMBOL ", "PIASMA NEO;PSIFISTON NEO;OMALON;ANTIKENOMA;LYGISMA"⟩,
   ⟨0x1d05e, "BYZANTINE MUSICAL SYMBOL ", "PARAKLITIKI NEO;PARAKALESMA NEO;ETERON PARAKALESMA"⟩,
   ⟨0x1d061, "BYZANTINE MUSICAL SYMBOL ",
     "KYLISMA;ANTIKENOKYLISMA;TROMIKON NEO;EKSTREPTON;SYNAGMA NEO;SYRMA;CHOREVMA NEO;EPEGERMA"⟩,
   ⟨0x1d069, "BYZANTINE MUSICAL SYMBOL ",
     "SEISMA NEO;XIRON KLASMA;TROMIKOPSIFISTON;PSIFISTOLYGISMA;TROMIKOLYGISMA;TROMIKOPARAKALESMA"⟩,
   ⟨0x1d06f, "BYZANTINE MUSICAL SYMBOL ", "PSIFISTOPARAKALESMA;TROMIKOSYNAGMA;PSIFISTOSYNAGMA"⟩,
   ⟨0x1d072, "BYZANTINE MUSICAL SYMBOL ", "GORGOSYNTHETON;ARGOSYNTHETON;ETERON ARGOSYNTHETON"⟩,
   ⟨0x1d075, "BYZANTINE MUSICAL SYMBOL ", "OYRANISMA NEO;THEMATISMOS ESO;THEMATISMOS EXO"⟩,
   ⟨0x1d078, "BYZANTINE MUSICAL SYMBOL ", "THEMA APLOUN;THES KAI APOTHES;KATAVASMA;ENDOFONON"⟩,
   ⟨0x1d07c, "BYZANTINE MUSICAL SYMBOL ", "YFEN KATO;YFEN ANO;STAVROS;KLASMA ANO;DIPLI ARCHAION"⟩,
   ⟨0x1d081, "BYZANTINE MUSICAL SYMBOL ",
     "KRATIMA ARCHAION;KRATIMA ALLO;KRATIMA NEO;APODERMA NEO;APLI;DIPLI;TRIPLI;TETRAPLI;KORONIS"⟩,
   ⟨0x1d08a, "BYZANTINE MUSICAL SYMBOL LEIMMA ",
     "ENOS CHRONOU;DYO CHRONON;TRION CHRONON;TESSARON CHRONON;IMISEOS CHRONOU"⟩,
   ⟨0x1d08f, "BYZANTINE MUSICAL SYMBOL ",
     "GORGON NEO ANO;GORGON PARESTIGMENON ARISTERA;GORGON PARESTIGMENON DEXIA;DIGORGON"⟩,
   ⟨0x1d093, "BYZANTINE MUSICAL SYMBOL DIGORGON PARESTIGMENON ARISTERA ", "KATO;ANO"⟩,
   ⟨0x1d095, "BYZANTINE MUSICAL SYMBOL ", "DIGORGON PARESTIGMENON DEXIA;TRIGORGON;ARGON"⟩,
   ⟨0x1d098, "BYZANTINE MUSICAL SYMBOL ", "IMIDIARGON;DIARGON;AGOGI POLI ARGI;AGOGI ARGOTERI"⟩,
   ⟨0x1d09c, "BYZANTINE MUSICAL SYMBOL AGOGI ", "ARGI;METRIA;MESI;GORGI;GORGOTERI;POLI GORGI"⟩,
   ⟨0x1d0a2, "BYZANTINE MUSICAL SYMBOL MARTYRIA ",
     "PROTOS ICHOS;ALLI PROTOS ICHOS;DEYTEROS ICHOS;ALLI DEYTEROS ICHOS"⟩,
   ⟨0x1d0a6, "BYZANTINE MUSICAL SYMBOL MARTYRIA ",
     "TRITOS ICHOS;TRIFONIAS;TETARTOS ICHOS;TETARTOS LEGETOS ICHOS;LEGETOS ICHOS;PLAGIOS ICHOS"⟩,
   ⟨0x1d0ac, "BYZANTINE MUSICAL SYMBOL ", "ISAKIA TELOUS ICHIMATOS;APOSTROFOI TELOUS ICHIMATOS"⟩,
   ⟨0x1d0ae, "BYZANTINE MUSICAL SYMBOL FANEROSIS ", "TETRAFONIAS;MONOFONIAS;DIFONIAS"⟩,
   ⟨0x1d0b1, "BYZANTINE MUSICAL SYMBOL MARTYRIA ", "VARYS ICHOS;PROTOVARYS ICHOS"⟩,
   ⟨0x1d0b3, "BYZANTINE MUSICAL SYMBOL ", "MARTYRIA PLAGIOS TETARTOS ICHOS;GORTHMIKON N APLOUN"⟩,
   ⟨0x1d0b5, "BYZANTINE MUSICAL SYMBOL ", "GORTHMIKON N DIPLOUN;ENARXIS KAI FTHORA VOU"⟩,
   ⟨0x1d0b7, "BYZANTINE MUSICAL SYMBOL ", "IMIFONON;IMIFTHORON;FTHORA ARCHAION DEYTEROU ICHOU"⟩,
   ⟨0x1d0ba, "BYZANTINE MUSICAL SYMBOL FTHORA ",
     "DIATONIKI PA;DIATONIKI NANA;NAOS ICHOS;DIATONIKI DI;SKLIRON DIATONON DI"⟩,
   ⟨0x1d0bf, "BYZANTINE MUSICAL SYMBOL FTHORA ",
     "DIATONIKI KE;DIATONIKI ZO;DIATONIKI NI KATO;DIATONIKI NI ANO;MALAKON CHROMA DIFONIAS"⟩,
   ⟨0x1d0c4, "BYZANTINE MUSICAL SYMBOL F",
     "THORA MALAKON CHROMA MONOFONIAS;HTORA SKLIRON CHROMA VASIS;THORA SKLIRON CHROMA SYNAFI"⟩,
   ⟨0x1d0c7, "BYZANTINE MUSICAL SYMBOL ", "FTHORA NENANO;CHROA ZYGOS;CHROA KLITON;CHROA SPATHI"⟩,
   ⟨0x1d0cb, "BYZANTINE MUSICAL SYMBOL FTHORA ", "I YFESIS TETARTIMORION;ENARMONIOS ANTIFONIA"⟩,
   ⟨0x1d0cd, "BYZANTINE MUSICAL SYMBOL ",
     "YFESIS TRITIMORION;DIESIS TRITIMORION;DIESIS TETARTIMORION;DIESIS APLI DYO DODEKATA"⟩,
   ⟨0x1d0d1, "BYZANTINE MUSICAL SYMBOL DIESIS ",
     "MONOGRAMMOS TESSERA DODEKATA;DIGRAMMOS EX DODEKATA;TRIGRAMMOS OKTO DODEKATA"⟩,
   ⟨0x1d0d4, "BYZANTINE MUSICAL SYMBOL YFESIS ", "APLI DYO DODEKATA;MONOGRAMMOS TESSERA DODEKATA"⟩,
   ⟨0x1d0d6, "BYZANTINE MUSICAL SYMBOL ",
     "YFESIS DIGRAMMOS EX DODEKATA;YFESIS TRIGRAMMOS OKTO DODEKATA;GENIKI DIESIS;GENIKI YFESIS"⟩,
   ⟨0x1d0da, "BYZANTINE MUSICAL SYMBOL DIASTOLI ", "APLI MIKRI;APLI MEGALI;DIPLI;THESEOS"⟩,
   ⟨0x1d0de, "BYZANTINE MUSICAL SYMBOL SIMANSIS THESEOS", "; DISIMOU; TRISIMOU; TETRASIMOU"⟩,
   ⟨0x1d0e2, "BYZANTINE MUSICAL SYMBOL SIMANSIS ARSEOS", "; DISIMOU; TRISIMOU; TETRASIMOU"⟩,
   ⟨0x1d0e6, "BYZANTINE MUSICAL SYMBOL ", "DIGRAMMA GG;DIFTOGGOS OU;STIGMA"⟩,
   ⟨0x1d0e9, "BYZANTINE MUSICAL SYMBOL ARKTIKO ", "PA;VOU;GA;DI;KE;ZO;NI"⟩,
   ⟨0x1d0f0, "BYZANTINE MUSICAL SYMBOL KENTIMA", "TA NEO MESO; NEO MESO;TA NEO KATO"⟩,
   ⟨0x1d0f3, "BYZANTINE MUSICAL SYMBOL ", "KENTIMA NEO KATO;KLASMA KATO;GORGON NEO KATO"⟩]

/-- The names in the block Musical Symbols. -/
def musicalSymbols : List NameRun :=
  [⟨0x1d100, "MUSICAL SYMBOL ",
     "SINGLE BARLINE;DOUBLE BARLINE;FINAL BARLINE;REVERSE FINAL BARLINE;DASHED BARLINE"⟩,
   ⟨0x1d105, "MUSICAL SYMBOL ", "SHORT BARLINE;LEFT REPEAT SIGN;RIGHT REPEAT SIGN;REPEAT DOTS"⟩,
   ⟨0x1d109, "MUSICAL SYMBOL ", "DAL SEGNO;DA CAPO;SEGNO;CODA;REPEATED FIGURE-1;REPEATED FIGURE-2"⟩,
   ⟨0x1d10f, "MUSICAL SYMBOL ", "REPEATED FIGURE-3;FERMATA;FERMATA BELOW;BREATH MARK;CAESURA"⟩,
   ⟨0x1d114, "MUSICAL SYMBOL ", "BRACE;BRACKET;ONE-LINE STAFF;TWO-LINE STAFF;THREE-LINE STAFF"⟩,
   ⟨0x1d119, "MUSICAL SYMBOL ",
     "FOUR-LINE STAFF;FIVE-LINE STAFF;SIX-LINE STAFF;SIX-STRING FRETBOARD;FOUR-STRING FRETBOARD"⟩,
   ⟨0x1d11e, "MUSICAL SYMBOL ", "G CLEF;G CLEF OTTAVA ALTA;G CLEF OTTAVA BASSA;C CLEF;F CLEF"⟩,
   ⟨0x1d123, "MUSICAL SYMBOL ", "F CLEF OTTAVA ALTA;F CLEF OTTAVA BASSA;DRUM CLEF-1;DRUM CLEF-2"⟩,
   ⟨0x1d129, "MUSICAL SYMBOL ", "MULTIPLE MEASURE REST;DOUBLE SHARP;DOUBLE FLAT;FLAT UP;FLAT DOWN"⟩,
   ⟨0x1d12e, "MUSICAL SYMBOL ", "NATURAL UP;NATURAL DOWN;SHARP UP;SHARP DOWN;QUARTER TONE SHARP"⟩,
   ⟨0x1d133, "MUSICAL SYMBOL ", "QUARTER TONE FLAT;COMMON TIME;CUT TIME;OTTAVA ALTA;OTTAVA BASSA"⟩,
   ⟨0x1d138, "MUSICAL SYMBOL ", "QUINDICESIMA ALTA;QUINDICESIMA BASSA;MULTI REST;WHOLE REST"⟩,
   ⟨0x1d13c, "MUSICAL SYMBOL ",
     "HALF REST;QUARTER REST;EIGHTH REST;SIXTEENTH REST;THIRTY-SECOND REST;SIXTY-FOURTH REST"⟩,
   ⟨0x1d142, "MUSICAL SYMBOL ", "ONE HUNDRED TWENTY-EIGHTH REST;X NOTEHEAD;PLUS NOTEHEAD"⟩,
   ⟨0x1d145, "MUSICAL SYMBOL ", "CIRCLE X NOTEHEAD;SQUARE NOTEHEAD WHITE;SQUARE NOTEHEAD BLACK"⟩,
   ⟨0x1d148, "MUSICAL SYMBOL TRIANGLE NOTEHEAD ", "UP WHITE;UP BLACK;LEFT WHITE"⟩,
   ⟨0x1d14b, "MUSICAL SYMBOL TRIANGLE NOTEHEAD ",
     "LEFT BLACK;RIGHT WHITE;RIGHT BLACK;DOWN WHITE;DOWN BLACK;UP RIGHT WHITE;UP RIGHT BLACK"⟩,
   ⟨0x1d152, "MUSICAL SYMBOL MOON NOTEHEAD ", "WHITE;BLACK"⟩,
   ⟨0x1d154, "MUSICAL SYMBOL TRIANGLE-ROUND NOTEHEAD DOWN ", "WHITE;BLACK"⟩,
   ⟨0x1d156, "MUSICAL SYMBOL ", "PARENTHESIS NOTEHEAD;VOID NOTEHEAD;NOTEHEAD BLACK"⟩,
   ⟨0x1d159, "MUSICAL SYMBOL ", "NULL NOTEHEAD;CLUSTER NOTEHEAD WHITE;CLUSTER NOTEHEAD BLACK"⟩,
   ⟨0x1d15c, "MUSICAL SYMBOL ", "BREVE;WHOLE NOTE;HALF NOTE;QUARTER NOTE;EIGHTH NOTE"⟩,
   ⟨0x1d161, "MUSICAL SYMBOL ",
     "SIXTEENTH NOTE;THIRTY-SECOND NOTE;SIXTY-FOURTH NOTE;ONE HUNDRED TWENTY-EIGHTH NOTE"⟩,
   ⟨0x1d165, "MUSICAL SYMBOL COMBINING ", "STEM;SPRECHGESANG STEM;TREMOLO-1;TREMOLO-2;TREMOLO-3"⟩,
   ⟨0x1d16a, "MUSICAL SYMBOL FINGERED TREMOLO-", "1;2;3"⟩,
   ⟨0x1d16d, "MUSICAL SYMBOL COMBINING ", "AUGMENTATION DOT;FLAG-1;FLAG-2;FLAG-3;FLAG-4;FLAG-5"⟩,
   ⟨0x1d173, "MUSICAL SYMBOL ",
     "BEGIN BEAM;END BEAM;BEGIN TIE;END TIE;BEGIN SLUR;END SLUR;BEGIN PHRASE;END PHRASE"⟩,
   ⟨0x1d17b, "MUSICAL SYMBOL COMBINING ",
     "ACCENT;STACCATO;TENUTO;STACCATISSIMO;MARCATO;MARCATO-STACCATO;ACCENT-STACCATO"⟩,
   ⟨0x1d182, "MUSICAL SYMBOL ", "COMBINING LOURE;ARPEGGIATO UP;ARPEGGIATO DOWN"⟩,
   ⟨0x1d185, "MUSICAL SYMBOL COMBINING ", "DOIT;RIP;FLIP;SMEAR;BEND;DOUBLE TONGUE;TRIPLE TONGUE"⟩,
   ⟨0x1d18c, "MUSICAL SYMBOL ", "RINFORZANDO;SUBITO;Z;PIANO;MEZZO;FORTE;CRESCENDO"⟩,
   ⟨0x1d193, "MUSICAL SYMBOL ",
     "DECRESCENDO;GRACE NOTE SLASH;GRACE NOTE NO SLASH;TR;TURN;INVERTED TURN;TURN SLASH;TURN UP"⟩,
   ⟨0x1d19b, "MUSICAL SYMBOL ORNAMENT STROKE-", "1;2;3;4;5;6;7;8;9;10;11"⟩,
   ⟨0x1d1a6, "MUSICAL SYMBOL ", "HAUPTSTIMME;NEBENSTIMME;END OF STIMME;DEGREE SLASH"⟩,
   ⟨0x1d1aa, "MUSICAL SYMBOL COMBINING ", "DOWN BOW;UP BOW;HARMONIC;SNAP PIZZICATO"⟩,
   ⟨0x1d1ae, "MUSICAL SYMBOL ",
     "PEDAL MARK;PEDAL UP MARK;HALF PEDAL MARK;GLISSANDO UP;GLISSANDO DOWN;WITH FINGERNAILS;DAMP"⟩,
   ⟨0x1d1b5, "MUSICAL SYMBOL ", "DAMP ALL;MAXIMA;LONGA;BREVIS;SEMIBREVIS WHITE;SEMIBREVIS BLACK"⟩,
   ⟨0x1d1bb, "MUSICAL SYMBOL ", "MINIMA;MINIMA BLACK;SEMIMINIMA WHITE;SEMIMINIMA BLACK"⟩,
   ⟨0x1d1bf, "MUSICAL SYMBOL ", "FUSA WHITE;FUSA BLACK;LONGA PERFECTA REST;LONGA IMPERFECTA REST"⟩,
   ⟨0x1d1c3, "MUSICAL SYMBOL ", "BREVIS REST;SEMIBREVIS REST;MINIMA REST;SEMIMINIMA REST"⟩,
   ⟨0x1d1c7, "MUSICAL SYMBOL TEMPUS PERFECTUM CUM PROLATIONE ",
     "PERFECTA;IMPERFECTA;PERFECTA DIMINUTION-1"⟩,
   ⟨0x1d1ca, "MUSICAL SYMBOL TEMPUS IMPERFECTUM CUM PROLATIONE ",
     "PERFECTA;IMPERFECTA;IMPERFECTA DIMINUTION-1;IMPERFECTA DIMINUTION-2;IMPERFECTA DIMINUTION-3"⟩,
   ⟨0x1d1cf, "MUSICAL SYMBOL ", "CROIX;GREGORIAN C CLEF;GREGORIAN F CLEF;SQUARE B;VIRGA;PODATUS"⟩,
   ⟨0x1d1d5, "MUSICAL SYMBOL ", "CLIVIS;SCANDICUS;CLIMACUS;TORCULUS;PORRECTUS;PORRECTUS FLEXUS"⟩,
   ⟨0x1d1db, "MUSICAL SYMBOL ", "SCANDICUS FLEXUS;TORCULUS RESUPINUS;PES SUBPUNCTIS"⟩,
   ⟨0x1d1de, "MUSICAL SYMBOL KIEVAN ", "C CLEF;END OF PIECE;FINAL NOTE;RECITATIVE MARK;WHOLE NOTE"⟩,
   ⟨0x1d1e3, "MUSICAL SYMBOL KIEVAN ", "HALF NOTE;QUARTER NOTE STEM DOWN;QUARTER NOTE STEM UP"⟩,
   ⟨0x1d1e6, "MUSICAL SYMBOL ",
     "KIEVAN EIGHTH NOTE STEM DOWN;KIEVAN EIGHTH NOTE STEM UP;KIEVAN FLAT SIGN;SORI;KORON"⟩]

/-- The names in the block Ancient Greek Musical Notation. -/
def ancientGreekMusicalNotation : List NameRun :=
  [⟨0x1d200, "GREEK VOCAL NOTATION SYMBOL-",
     "1;2;3;4;5;6;7;8;9;10;11;12;13;14;15;16;17;18;19;20;21;22;23;24;50;51;52;53;54"⟩,
   ⟨0x1d21d, "GREEK INSTRUMENTAL NOTATION SYMBOL-", "1;2;4;5;7;8;11"⟩,
   ⟨0x1d224, "GREEK INSTRUMENTAL NOTATION SYMBOL-",
     "12;13;14;17;18;19;23;24;25;26;27;29;30;32;36;37;38;39;40;42;43;45;47;48;49;50;51;52;53;54"⟩,
   ⟨0x1d242, "COMBINING GREEK MUSICAL T", "RISEME;ETRASEME"⟩,
   ⟨0x1d244, "", "COMBINING GREEK MUSICAL PENTASEME;GREEK MUSICAL LEIMMA"⟩]

/-- The names in the block Mayan Numerals. -/
def mayanNumerals : List NameRun :=
  [⟨0x1d2e0, "MAYAN NUMERAL ",
     "ZERO;ONE;TWO;THREE;FOUR;FIVE;SIX;SEVEN;EIGHT;NINE;TEN;ELEVEN;TWELVE"⟩,
   ⟨0x1d2ed, "MAYAN NUMERAL ", "THIRTEEN;FOURTEEN;FIFTEEN;SIXTEEN;SEVENTEEN;EIGHTEEN;NINETEEN"⟩]

/-- The names in the block Tai Xuan Jing Symbols. -/
def taiXuanJingSymbols : List NameRun :=
  [⟨0x1d300, "", "MONOGRAM FOR EARTH;DIGRAM FOR HEAVENLY EARTH"⟩,
   ⟨0x1d302, "DIGRAM FOR ", "HUMAN EARTH;EARTHLY HEAVEN;EARTHLY HUMAN;EARTH"⟩,
   ⟨0x1d306, "TETRAGRAM FOR ", "CENTRE;FULL CIRCLE;MIRED;BARRIER;KEEPING SMALL;CONTRARIETY;ASCENT"⟩,
   ⟨0x1d30d, "TETRAGRAM FOR ", "OPPOSITION;BRANCHING OUT;DEFECTIVENESS OR DISTORTION;DIVERGENCE"⟩,
   ⟨0x1d311, "TETRAGRAM FOR ", "YOUTHFULNESS;INCREASE;PENETRATION;REACH;CONTACT;HOLDING BACK"⟩,
   ⟨0x1d317, "TETRAGRAM FOR ", "WAITING;FOLLOWING;ADVANCE;RELEASE;RESISTANCE;EASE;JOY"⟩,
   ⟨0x1d31e, "TETRAGRAM FOR ", "CONTENTION;ENDEAVOUR;DUTIES;CHANGE;DECISIVENESS;BOLD RESOLUTION"⟩,
   ⟨0x1d324, "TETRAGRAM FOR ", "PACKING;LEGION;CLOSENESS;KINSHIP;GATHERING;STRENGTH"⟩,
   ⟨0x1d32a, "TETRAGRAM FOR ", "PURITY;FULLNESS;RESIDENCE;LAW OR MODEL;RESPONSE;GOING TO MEET"⟩,
   ⟨0x1d330, "TETRAGRAM FOR ", "ENCOUNTERS;STOVE;GREATNESS;ENLARGEMENT;PATTERN;RITUAL;FLIGHT"⟩,
   ⟨0x1d337, "TETRAGRAM FOR ", "VASTNESS OR WASTING;CONSTANCY;MEASURE;ETERNITY;UNITY;DIMINISHMENT"⟩,
   ⟨0x1d33d, "TETRAGRAM FOR ", "CLOSED MOUTH;GUARDEDNESS;GATHERING IN;MASSING;ACCUMULATION"⟩,
   ⟨0x1d342, "TETRAGRAM FOR ", "EMBELLISHMENT;DOUBT;WATCH;SINKING;INNER;DEPARTURE;DARKENING"⟩,
   ⟨0x1d349, "TETRAGRAM FOR ", "DIMMING;EXHAUSTION;SEVERANCE;STOPPAGE;HARDNESS;COMPLETION"⟩,
   ⟨0x1d34f, "TETRAGRAM FOR ",
     "CLOSURE;FAILURE;AGGRAVATION;COMPLIANCE;ON THE VERGE;DIFFICULTIES;LABOURING;FOSTERING"⟩]

/-- The names in the block Counting Rod Numerals. -/
def countingRodNumerals : List NameRun :=
  [⟨0x1d360, "COUNTING ROD UNIT DIGIT ", "ONE;TWO;THREE;FOUR;FIVE;SIX;SEVEN;EIGHT;NINE"⟩,
   ⟨0x1d369, "COUNTING ROD TENS DIGIT ", "ONE;TWO;THREE;FOUR;FIVE;SIX;SEVEN;EIGHT;NINE"⟩,
   ⟨0x1d372, "IDEOGRAPHIC TALLY MARK ", "ONE;TWO;THREE;FOUR"⟩,
   ⟨0x1d376, "", "IDEOGRAPHIC TALLY MARK FIVE;TALLY MARK ONE;TALLY MARK FIVE"⟩]

/-- The names in the block Mathematical Alphanumeric Symbols. -/
def mathematicalAlphanumericSymbols : List NameRun :=
  [⟨0x1d400, "MATHEMATICAL BOLD CAPITAL ", "A;B;C;D;E;F;G;H;I;J;K;L;M;N;O;P;Q;R;S;T;U;V;W;X;Y;Z"⟩,
   ⟨0x1d41a, "MATHEMATICAL BOLD SMALL ", "A;B;C;D;E;F;G;H;I;J;K;L;M;N;O;P;Q;R;S;T;U;V;W;X;Y;Z"⟩,
   ⟨0x1d434, "MATHEMATICAL ITALIC CAPITAL ", "A;B;C;D;E;F;G;H;I;J;K;L;M;N;O;P;Q;R;S;T;U;V;W;X;Y;Z"⟩,
   ⟨0x1d44e, "MATHEMATICAL ITALIC SMALL ", "A;B;C;D;E;F;G"⟩,
   ⟨0x1d456, "MATHEMATICAL ITALIC SMALL ", "I;J;K;L;M;N;O;P;Q;R;S;T;U;V;W;X;Y;Z"⟩,
   ⟨0x1d468, "MATHEMATICAL BOLD ITALIC CAPITAL ",
     "A;B;C;D;E;F;G;H;I;J;K;L;M;N;O;P;Q;R;S;T;U;V;W;X;Y;Z"⟩,
   ⟨0x1d482, "MATHEMATICAL BOLD ITALIC SMALL ", "A;B;C;D;E;F;G;H;I;J;K;L;M;N;O;P;Q;R;S;T;U;V;W;X"⟩,
   ⟨0x1d49a, "MATHEMATICAL ", "BOLD ITALIC SMALL Y;BOLD ITALIC SMALL Z;SCRIPT CAPITAL A"⟩,
   ⟨0x1d49e, "MATHEMATICAL SCRIPT CAPITAL ", "C;D"⟩,
   ⟨0x1d4a2, "MATHEMATICAL SCRIPT CAPITAL G", ""⟩,
   ⟨0x1d4a5, "MATHEMATICAL SCRIPT CAPITAL ", "J;K"⟩,
   ⟨0x1d4a9, "MATHEMATICAL SCRIPT CAPITAL ", "N;O;P;Q"⟩,
   ⟨0x1d4ae, "MATHEMATICAL SCRIPT CAPITAL ", "S;T;U;V;W;X"⟩,
   ⟨0x1d4b4, "MATHEMATICAL SCRIPT ", "CAPITAL Y;CAPITAL Z;SMALL A;SMALL B;SMALL C;SMALL D"⟩,
   ⟨0x1d4bb, "MATHEMATICAL SCRIPT SMALL F", ""⟩,
   ⟨0x1d4bd, "MATHEMATICAL SCRIPT SMALL ", "H;I;J;K;L;M;N"⟩,
   ⟨0x1d4c5, "MATHEMATICAL SCRIPT SMALL ", "P;Q;R;S;T;U;V;W;X;Y;Z"⟩,
   ⟨0x1d4d0, "MATHEMATICAL BOLD SCRIPT CAPITAL ", "A;B;C;D;E;F;G;H;I;J;K;L;M;N;O;P;Q;R;S;T;U;V"⟩,
   ⟨0x1d4e6, "MATHEMATICAL BOLD SCRIPT ", "CAPITAL W;CAPITAL X;CAPITAL Y;CAPITAL Z;SMALL A"⟩,
   ⟨0x1d4eb, "MATHEMATICAL BOLD SCRIPT SMALL ", "B;C;D;E;F;G;H;I;J;K;L;M;N;O;P;Q;R;S;T;U;V;W;X;Y"⟩,
   ⟨0x1d503, "MATHEMATICAL ", "BOLD SCRIPT SMALL Z;FRAKTUR CAPITAL A;FRAKTUR CAPITAL B"⟩,
   ⟨0x1d507, "MATHEMATICAL FRAKTUR CAPITAL ", "D;E;F;G"⟩,
   ⟨0x1d50d, "MATHEMATICAL FRAKTUR CAPITAL ", "J;K;L;M;N;O;P;Q"⟩,
   ⟨0x1d516, "MATHEMATICAL FRAKTUR CAPITAL ", "S;T;U;V;W;X;Y"⟩,
   ⟨0x1d51e, "MATHEMATICAL FRAKTUR SMALL ", "A;B;C;D;E;F;G;H;I;J;K;L;M;N;O;P;Q;R;S;T;U;V;W;X;Y"⟩,
   ⟨0x1d537, "MATHEMATICAL ", "FRAKTUR SMALL Z;DOUBLE-STRUCK CAPITAL A;DOUBLE-STRUCK CAPITAL B"⟩,
   ⟨0x1d53b, "MATHEMATICAL DOUBLE-STRUCK CAPITAL ", "D;E;F;G"⟩,
   ⟨0x1d540, "MATHEMATICAL DOUBLE-STRUCK CAPITAL ", "I;J;K;L;M"⟩,
   ⟨0x1d546, "MATHEMATICAL DOUBLE-STRUCK CAPITAL O", ""⟩,
   ⟨0x1d54a, "MATHEMATICAL DOUBLE-STRUCK CAPITAL ", "S;T;U;V;W;X;Y"⟩,
   ⟨0x1d552, "MATHEMATICAL DOUBLE-STRUCK SMALL ",
     "A;B;C;D;E;F;G;H;I;J;K;L;M;N;O;P;Q;R;S;T;U;V;W;X;Y;Z"⟩,
   ⟨0x1d56c, "MATHEMATICAL BOLD FRAKTUR CAPITAL ", "A;B;C;D;E;F;G;H;I;J;K;L;M;N;O;P;Q;R;S;T;U;V;W"⟩,
   ⟨0x1d583, "MATHEMATICAL BOLD FRAKTUR ", "CAPITAL X;CAPITAL Y;CAPITAL Z;SMALL A;SMALL B"⟩,
   ⟨0x1d588, "MATHEMATICAL BOLD FRAKTUR SMALL ", "C;D;E;F;G;H;I;J;K;L;M;N;O;P;Q;R;S;T;U;V;W;X;Y;Z"⟩,
   ⟨0x1d5a0, "MATHEMATICAL SANS-SERIF CAPITAL ", "A;B;C;D;E;F;G;H;I;J;K;L;M;N;O;P;Q;R;S;T;U;V"⟩,
   ⟨0x1d5b6, "MATHEMATICAL SANS-SERIF ", "CAPITAL W;CAPITAL X;CAPITAL Y;CAPITAL Z;SMALL A"⟩,
   ⟨0x1d5bb, "MATHEMATICAL SANS-SERIF SMALL ", "B;C;D;E;F;G;H;I;J;K;L;M;N;O;P;Q;R;S;T;U;V;W;X;Y;Z"⟩,
   ⟨0x1d5d4, "MATHEMATICAL SANS-SERIF BOLD CAPITAL ",
     "A;B;C;D;E;F;G;H;I;J;K;L;M;N;O;P;Q;R;S;T;U;V;W;X;Y;Z"⟩,
   ⟨0x1d5ee, "MATHEMATICAL SANS-SERIF BOLD SMALL ",
     "A;B;C;D;E;F;G;H;I;J;K;L;M;N;O;P;Q;R;S;T;U;V;W;X;Y;Z"⟩,
   ⟨0x1d608, "MATHEMATICAL SANS-SERIF ITALIC CAPITAL ",
     "A;B;C;D;E;F;G;H;I;J;K;L;M;N;O;P;Q;R;S;T;U;V;W;X;Y;Z"⟩,
   ⟨0x1d622, "MATHEMATICAL SANS-SERIF ITALIC SMALL ",
     "A;B;C;D;E;F;G;H;I;J;K;L;M;N;O;P;Q;R;S;T;U;V;W;X;Y;Z"⟩,
   ⟨0x1d63c, "MATHEMATICAL SANS-SERIF BOLD ITALIC CAPITAL ",
     "A;B;C;D;E;F;G;H;I;J;K;L;M;N;O;P;Q;R;S;T;U;V;W;X;Y;Z"⟩,
   ⟨0x1d656, "MATHEMATICAL SANS-SERIF BOLD ITALIC SMALL ",
     "A;B;C;D;E;F;G;H;I;J;K;L;M;N;O;P;Q;R;S;T;U;V;W;X;Y;Z"⟩,
   ⟨0x1d670, "MATHEMATICAL MONOSPACE CAPITAL ",
     "A;B;C;D;E;F;G;H;I;J;K;L;M;N;O;P;Q;R;S;T;U;V;W;X;Y;Z"⟩,
   ⟨0x1d68a, "MATHEMATICAL MONOSPACE SMALL ", "A;B;C;D;E;F;G;H;I;J;K;L;M;N;O;P;Q;R;S;T;U;V;W;X;Y"⟩,
   ⟨0x1d6a3, "MATHEMATICAL ", "MONOSPACE SMALL Z;ITALIC SMALL DOTLESS I;ITALIC SMALL DOTLESS J"⟩,
   ⟨0x1d6a8, "MATHEMATICAL BOLD CAPITAL ", "ALPHA;BETA;GAMMA;DELTA;EPSILON;ZETA;ETA"⟩,
   ⟨0x1d6af, "MATHEMATICAL BOLD CAPITAL ",
     "THETA;IOTA;KAPPA;LAMDA;MU;NU;XI;OMICRON;PI;RHO;THETA SYMBOL;SIGMA;TAU;UPSILON;PHI;CHI;PSI"⟩,
   ⟨0x1d6c0, "MATHEMATICAL BOLD ", "CAPITAL OMEGA;NABLA;SMALL ALPHA;SMALL BETA;SMALL GAMMA"⟩,
   ⟨0x1d6c5, "MATHEMATICAL BOLD SMALL ", "DELTA;EPSILON;ZETA;ETA;THETA;IOTA;KAPPA;LAMDA;MU;NU"⟩,
   ⟨0x1d6cf, "MATHEMATICAL BOLD SMALL ", "XI;OMICRON;PI;RHO;FINAL SIGMA;SIGMA;TAU;UPSILON;PHI;CHI"⟩,
   ⟨0x1d6d9, "MATHEMATICAL BOLD ", "SMALL PSI;SMALL OMEGA;PARTIAL DIFFERENTIAL;EPSILON SYMBOL"⟩,
   ⟨0x1d6dd, "MATHEMATICAL BOLD ", "THETA SYMBOL;KAPPA SYMBOL;PHI SYMBOL;RHO SYMBOL;PI SYMBOL"⟩,
   ⟨0x1d6e2, "MATHEMATICAL ITALIC CAPITAL ", "ALPHA;BETA;GAMMA;DELTA;EPSILON;ZETA;ETA;THETA"⟩,
   ⟨0x1d6ea, "MATHEMATICAL ITALIC CAPITAL ",
     "IOTA;KAPPA;LAMDA;MU;NU;XI;OMICRON;PI;RHO;THETA SYMBOL;SIGMA;TAU;UPSILON;PHI;CHI;PSI;OMEGA"⟩,
   ⟨0x1d6fb, "MATHEMATICAL ITALIC ", "NABLA;SMALL ALPHA;SMALL BETA;SMALL GAMMA;SMALL DELTA"⟩,
   ⟨0x1d700, "MATHEMATICAL ITALIC SMALL ", "EPSILON;ZETA;ETA;THETA;IOTA;KAPPA;LAMDA;MU;NU;XI"⟩,
   ⟨0x1d70a, "MATHEMATICAL ITALIC SMALL ", "OMICRON;PI;RHO;FINAL SIGMA;SIGMA;TAU;UPSILON;PHI;CHI"⟩,
   ⟨0x1d713, "MATHEMATICAL ITALIC ", "SMALL PSI;SMALL OMEGA;PARTIAL DIFFERENTIAL;EPSILON SYMBOL"⟩,
   ⟨0x1d717, "MATHEMATICAL ITALIC ", "THETA SYMBOL;KAPPA SYMBOL;PHI SYMBOL;RHO SYMBOL;PI SYMBOL"⟩,
   ⟨0x1d71c, "MATHEMATICAL BOLD ITALIC CAPITAL ", "ALPHA;BETA;GAMMA;DELTA;EPSILON;ZETA;ETA;THETA"⟩,
   ⟨0x1d724, "MATHEMATICAL BOLD ITALIC CAPITAL ",
     "IOTA;KAPPA;LAMDA;MU;NU;XI;OMICRON;PI;RHO;THETA SYMBOL;SIGMA;TAU;UPSILON;PHI;CHI;PSI;OMEGA"⟩,
   ⟨0x1d735, "MATHEMATICAL BOLD ITALIC ", "NABLA;SMALL ALPHA;SMALL BETA;SMALL GAMMA;SMALL DELTA"⟩,
   ⟨0x1d73a, "MATHEMATICAL BOLD ITALIC SMALL ", "EPSILON;ZETA;ETA;THETA;IOTA;KAPPA;LAMDA;MU;NU;XI"⟩,
   ⟨0x1d744, "MATHEMATICAL BOLD ITALIC SMALL ", "OMICRON;PI;RHO;FINAL SIGMA;SIGMA;TAU;UPSILON;PHI"⟩,
   ⟨0x1d74c, "MATHEMATICAL BOLD ITALIC ", "SMALL CHI;SMALL PSI;SMALL OMEGA;PARTIAL DIFFERENTIAL"⟩,
   ⟨0x1d750, "MATHEMATICAL BOLD ITALIC ",
     "EPSILON SYMBOL;THETA SYMBOL;KAPPA SYMBOL;PHI SYMBOL;RHO SYMBOL;PI SYMBOL"⟩,
   ⟨0x1d756, "MATHEMATICAL SANS-SERIF BOLD CAPITAL ", "ALPHA;BETA;GAMMA;DELTA;EPSILON;ZETA"⟩,
   ⟨0x1d75c, "MATHEMATICAL SANS-SERIF BOLD CAPITAL ",
     "ETA;THETA;IOTA;KAPPA;LAMDA;MU;NU;XI;OMICRON;PI;RHO;THETA SYMBOL;SIGMA;TAU;UPSILON;PHI;CHI"⟩,
   ⟨0x1d76d, "MATHEMATICAL SANS-SERIF BOLD ", "CAPITAL PSI;CAPITAL OMEGA;NABLA;SMALL ALPHA"⟩,
   ⟨0x1d771, "MATHEMATICAL SANS-SERIF BOLD SMALL ", "BETA;GAMMA;DELTA;EPSILON;ZETA;ETA;THETA"⟩,
   ⟨0x1d778, "MATHEMATICAL SANS-SERIF BOLD SMALL ",
     "IOTA;KAPPA;LAMDA;MU;NU;XI;OMICRON;PI;RHO;FINAL SIGMA;SIGMA;TAU;UPSILON;PHI;CHI;PSI;OMEGA"⟩,
   ⟨0x1d789, "MATHEMATICAL SANS-SERIF BOLD ", "PARTIAL DIFFERENTIAL;EPSILON SYMBOL;THETA SYMBOL"⟩,
   ⟨0x1d78c, "MATHEMATICAL SANS-SERIF BOLD ", "KAPPA SYMBOL;PHI SYMBOL;RHO SYMBOL;PI SYMBOL"⟩,
   ⟨0x1d790, "MATHEMATICAL SANS-SERIF BOLD ITALIC CAPITAL ", "ALPHA;BETA;GAMMA;DELTA;EPSILON"⟩,
   ⟨0x1d795, "MATHEMATICAL SANS-SERIF BOLD ITALIC CAPITAL ",
     "ZETA;ETA;THETA;IOTA;KAPPA;LAMDA;MU;NU;XI;OMICRON;PI;RHO;THETA SYMBOL;SIGMA;TAU;UPSILON;PHI"⟩,
   ⟨0x1d7a6, "MATHEMATICAL SANS-SERIF BOLD ITALIC ", "CAPITAL CHI;CAPITAL PSI;CAPITAL OMEGA;NABLA"⟩,
   ⟨0x1d7aa, "MATHEMATICAL SANS-SERIF BOLD ITALIC SMALL ", "ALPHA;BETA;GAMMA;DELTA;EPSILON;ZETA"⟩,
   ⟨0x1d7b0, "MATHEMATICAL SANS-SERIF BOLD ITALIC SMALL ",
     "ETA;THETA;IOTA;KAPPA;LAMDA;MU;NU;XI;OMICRON;PI;RHO;FINAL SIGMA;SIGMA;TAU;UPSILON;PHI;CHI"⟩,
   ⟨0x1d7c1, "MATHEMATICAL SANS-SERIF BOLD ITALIC ", "SMALL PSI;SMALL OMEGA;PARTIAL DIFFERENTIAL"⟩,
   ⟨0x1d7c4, "MATHEMATICAL SANS-SERIF BOLD ITALIC ",
     "EPSILON SYMBOL;THETA SYMBOL;KAPPA SYMBOL;PHI SYMBOL;RHO SYMBOL;PI SYMBOL"⟩,
   ⟨0x1d7ca, "MATHEMATICAL BOLD ", "CAPITAL DIGAMMA;SMALL DIGAMMA"⟩,
   ⟨0x1d7ce, "MATHEMATICAL BOLD DIGIT ", "ZERO;ONE;TWO;THREE;FOUR;FIVE;SIX;SEVEN;EIGHT;NINE"⟩,
   ⟨0x1d7d8, "MATHEMATICAL DOUBLE-STRUCK DIGIT ",
     "ZERO;ONE;TWO;THREE;FOUR;FIVE;SIX;SEVEN;EIGHT;NINE"⟩,
   ⟨0x1d7e2, "MATHEMATICAL SANS-SERIF DIGIT ", "ZERO;ONE;TWO;THREE;FOUR;FIVE;SIX;SEVEN;EIGHT;NINE"⟩,
   ⟨0x1d7ec, "MATHEMATICAL SANS-SERIF BOLD DIGIT ",
     "ZERO;ONE;TWO;THREE;FOUR;FIVE;SIX;SEVEN;EIGHT;NINE"⟩,
   ⟨0x1d7f6, "MATHEMATICAL MONOSPACE DIGIT ", "ZERO;ONE;TWO;THREE;FOUR;FIVE;SIX;SEVEN;EIGHT;NINE"⟩]

/-- The names in the block Sutton SignWriting. -/
def suttonSignWriting : List NameRun :=
  [⟨0x1d800, "SIGNWRITING HAND-", "FIST INDEX;CIRCLE INDEX;CUP INDEX;OVAL INDEX"⟩,
   ⟨0x1d804, "SIGNWRITING HAND-", "HINGE INDEX;ANGLE INDEX;FIST INDEX BENT;CIRCLE INDEX BENT"⟩,
   ⟨0x1d808, "SIGNWRITING HAND-FIST ",
     "THUMB UNDER INDEX BENT;INDEX RAISED KNUCKLE;INDEX CUPPED;INDEX HINGED;INDEX HINGED LOW"⟩,
   ⟨0x1d80d, "SIGNWRITING HAND-", "CIRCLE INDEX HINGE;FIST INDEX MIDDLE;CIRCLE INDEX MIDDLE"⟩,
   ⟨0x1d810, "SIGNWRITING HAND-FIST INDEX ",
     "MIDDLE BENT;MIDDLE RAISED KNUCKLES;MIDDLE HINGED;UP MIDDLE HINGED;HINGED MIDDLE UP"⟩,
   ⟨0x1d815, "SIGNWRITING HAND-FIST INDEX MIDDLE C",
     "ONJOINED;ONJOINED INDEX BENT;ONJOINED MIDDLE BENT;ONJOINED CUPPED;ONJOINED HINGED;ROSSED"⟩,
   ⟨0x1d81b, "SIGNWRITING HAND-", "CIRCLE INDEX MIDDLE CROSSED;FIST MIDDLE BENT OVER INDEX"⟩,
   ⟨0x1d81d, "SIGNWRITING HAND-",
     "FIST INDEX BENT OVER MIDDLE;FIST INDEX MIDDLE THUMB;CIRCLE INDEX MIDDLE THUMB"⟩,
   ⟨0x1d820, "SIGNWRITING HAND-FIST INDEX MIDDLE ",
     "STRAIGHT THUMB BENT;BENT THUMB STRAIGHT;THUMB BENT;HINGED SPREAD THUMB SIDE"⟩,
   ⟨0x1d824, "SIGNWRITING HAND-FIST INDEX ",
     "UP MIDDLE HINGED THUMB SIDE;UP MIDDLE HINGED THUMB CONJOINED;HINGED MIDDLE UP THUMB SIDE"⟩,
   ⟨0x1d827, "SIGNWRITING HAND-FIST INDEX MIDDLE ",
     "UP SPREAD THUMB FORWARD;THUMB CUPPED;THUMB CIRCLED;THUMB HOOKED;THUMB HINGED"⟩,
   ⟨0x1d82c, "SIGNWRITING HAND-FIST THUMB BETWEEN INDEX MIDDLE STRAIGHT", ""⟩,
   ⟨0x1d82d, "SIGNWRITING HAND-FIST INDEX MIDDLE CONJOINED THUMB SIDE", "; CONJOINED; BENT"⟩,
   ⟨0x1d830, "SIGNWRITING HAND-FIST ", "MIDDLE THUMB HOOKED INDEX UP;INDEX THUMB HOOKED MIDDLE UP"⟩,
   ⟨0x1d832, "SIGNWRITING HAND-FIST INDEX MIDDLE C",
     "ONJOINED HINGED THUMB SIDE;ROSSED THUMB SIDE"⟩,
   ⟨0x1d834, "SIGNWRITING HAND-FIST INDEX MIDDLE CONJOINED ", "THUMB FORWARD;CUPPED THUMB FORWARD"⟩,
   ⟨0x1d836, "SIGNWRITING HAND-FIST ", "MIDDLE THUMB CUPPED INDEX UP;INDEX THUMB CUPPED MIDDLE UP"⟩,
   ⟨0x1d838, "SIGNWRITING HAND-FIST MIDDLE THUMB CIRCLED INDEX ", "UP;HINGED"⟩,
   ⟨0x1d83a, "SIGNWRITING HAND-FIST INDEX THUMB ",
     "ANGLED OUT MIDDLE UP;ANGLED IN MIDDLE UP;CIRCLED MIDDLE UP"⟩,
   ⟨0x1d83d, "SIGNWRITING HAND-FIST INDEX MIDDLE THUMB ", "CONJOINED HINGED;ANGLED OUT;ANGLED"⟩,
   ⟨0x1d840, "SIGNWRITING HAND-FIST MIDDLE THUMB ANGLED ",
     "OUT INDEX UP;OUT INDEX CROSSED;INDEX UP"⟩,
   ⟨0x1d843, "SIGNWRITING HAND-F", "IST INDEX THUMB HOOKED MIDDLE HINGED;LAT FOUR FINGERS"⟩,
   ⟨0x1d845, "SIGNWRITING HAND-FLAT FOUR FINGERS ", "BENT;HINGED;CONJOINED;CONJOINED SPLIT"⟩,
   ⟨0x1d849, "SIGNWRITING HAND-", "CLAW FOUR FINGERS CONJOINED;FIST FOUR FINGERS CONJOINED BENT"⟩,
   ⟨0x1d84b, "SIGNWRITING HAND-", "HINGE FOUR FINGERS CONJOINED;FLAT FIVE FINGERS SPREAD"⟩,
   ⟨0x1d84d, "SIGNWRITING HAND-FLAT ", "HEEL FIVE FINGERS SPREAD;FIVE FINGERS SPREAD FOUR BENT"⟩,
   ⟨0x1d84f, "SIGNWRITING HAND-FLAT ",
     "HEEL FIVE FINGERS SPREAD FOUR BENT;FIVE FINGERS SPREAD BENT;HEEL FIVE FINGERS SPREAD BENT"⟩,
   ⟨0x1d852, "SIGNWRITING HAND-", "FLAT FIVE FINGERS SPREAD THUMB FORWARD;CUP FIVE FINGERS SPREAD"⟩,
   ⟨0x1d854, "SIGNWRITING HAND-",
     "CUP FIVE FINGERS SPREAD OPEN;HINGE FIVE FINGERS SPREAD OPEN;OVAL FIVE FINGERS SPREAD"⟩,
   ⟨0x1d857, "SIGNWRITING HAND-FLAT FIVE FINGERS SPREAD HINGED", "; THUMB SIDE; NO THUMB"⟩,
   ⟨0x1d85a, "SIGNWRITING HAND-FLAT", "; BETWEEN PALM FACINGS; HEEL; THUMB SIDE; HEEL THUMB SIDE"⟩,
   ⟨0x1d85f, "SIGNWRITING HAND-FLAT ", "THUMB BENT;THUMB FORWARD;SPLIT INDEX THUMB SIDE"⟩,
   ⟨0x1d862, "SIGNWRITING HAND-FLAT SPLIT CENTRE", "; THUMB SIDE; THUMB SIDE BENT"⟩,
   ⟨0x1d865, "SIGNWRITING HAND-", "FLAT SPLIT LITTLE;CLAW;CLAW THUMB SIDE"⟩,
   ⟨0x1d868, "SIGNWRITING HAND-", "CLAW NO THUMB;CLAW THUMB FORWARD;HOOK CURLICUE;HOOK;CUP OPEN"⟩,
   ⟨0x1d86d, "SIGNWRITING HAND-CUP", "; OPEN THUMB SIDE; THUMB SIDE; OPEN NO THUMB; NO THUMB"⟩,
   ⟨0x1d872, "SIGNWRITING HAND-CU", "P OPEN THUMB FORWARD;P THUMB FORWARD;RLICUE OPEN;RLICUE"⟩,
   ⟨0x1d876, "SIGNWRITING HAND-", "CIRCLE;OVAL;OVAL THUMB SIDE;OVAL NO THUMB;OVAL THUMB FORWARD"⟩,
   ⟨0x1d87b, "SIGNWRITING HAND-HINGE", " OPEN; OPEN THUMB FORWARD;; SMALL; OPEN THUMB SIDE"⟩,
   ⟨0x1d880, "SIGNWRITING HAND-HINGE ",
     "THUMB SIDE;OPEN NO THUMB;NO THUMB;THUMB SIDE TOUCHING INDEX;THUMB BETWEEN MIDDLE RING"⟩,
   ⟨0x1d885, "SIGNWRITING HAND-", "ANGLE;FIST INDEX MIDDLE RING;CIRCLE INDEX MIDDLE RING"⟩,
   ⟨0x1d888, "SIGNWRITING HAND-", "HINGE INDEX MIDDLE RING;ANGLE INDEX MIDDLE RING;HINGE LITTLE"⟩,
   ⟨0x1d88b, "SIGNWRITING HAND-FIST INDEX MIDDLE RING ", "BENT;CONJOINED"⟩,
   ⟨0x1d88d, "SIGNWRITING HAND-", "HINGE INDEX MIDDLE RING CONJOINED;FIST LITTLE DOWN"⟩,
   ⟨0x1d88f, "SIGNWRITING HAND-FIST LITTLE ",
     "DOWN RIPPLE STRAIGHT;DOWN RIPPLE CURVED;DOWN OTHERS CIRCLED;UP"⟩,
   ⟨0x1d893, "SIGNWRITING HAND-", "FIST THUMB UNDER LITTLE UP;CIRCLE LITTLE UP;OVAL LITTLE UP"⟩,
   ⟨0x1d896, "SIGNWRITING HAND-", "ANGLE LITTLE UP;FIST LITTLE RAISED KNUCKLE;FIST LITTLE BENT"⟩,
   ⟨0x1d899, "SIGNWRITING HAND-", "FIST LITTLE TOUCHES THUMB;FIST LITTLE THUMB;HINGE LITTLE THUMB"⟩,
   ⟨0x1d89c, "SIGNWRITING HAND-",
     "FIST LITTLE INDEX THUMB;HINGE LITTLE INDEX THUMB;ANGLE LITTLE INDEX THUMB INDEX THUMB OUT"⟩,
   ⟨0x1d89f, "SIGNWRITING HAND-", "ANGLE LITTLE INDEX THUMB INDEX THUMB;FIST LITTLE INDEX"⟩,
   ⟨0x1d8a1, "SIGNWRITING HAND-", "CIRCLE LITTLE INDEX;HINGE LITTLE INDEX;ANGLE LITTLE INDEX"⟩,
   ⟨0x1d8a4, "SIGNWRITING HAND-",
     "FIST INDEX MIDDLE LITTLE;CIRCLE INDEX MIDDLE LITTLE;HINGE INDEX MIDDLE LITTLE;HINGE RING"⟩,
   ⟨0x1d8a8, "SIGNWRITING HAND-", "ANGLE INDEX MIDDLE LITTLE;FIST INDEX MIDDLE CROSS LITTLE"⟩,
   ⟨0x1d8aa, "SIGNWRITING HAND-",
     "CIRCLE INDEX MIDDLE CROSS LITTLE;FIST RING DOWN;HINGE RING DOWN INDEX THUMB HOOK MIDDLE"⟩,
   ⟨0x1d8ad, "SIGNWRITING HAND-", "ANGLE RING DOWN MIDDLE THUMB INDEX CROSS;FIST RING UP"⟩,
   ⟨0x1d8af, "SIGNWRITING HAND-", "FIST RING RAISED KNUCKLE;FIST RING LITTLE;CIRCLE RING LITTLE"⟩,
   ⟨0x1d8b2, "SIGNWRITING HAND-", "OVAL RING LITTLE;ANGLE RING LITTLE"⟩,
   ⟨0x1d8b4, "SIGNWRITING HAND-FIST RING ", "MIDDLE;MIDDLE CONJOINED;MIDDLE RAISED KNUCKLES;INDEX"⟩,
   ⟨0x1d8b8, "SIGNWRITING HAND-", "FIST RING THUMB;HOOK RING THUMB;FIST INDEX RING LITTLE"⟩,
   ⟨0x1d8bb, "SIGNWRITING HAND-C", "IRCLE INDEX RING LITTLE;URLICUE INDEX RING LITTLE ON"⟩,
   ⟨0x1d8bd, "SIGNWRITING HAND-HOOK INDEX RING LITTLE ", "OUT;IN;UNDER"⟩,
   ⟨0x1d8c0, "SIGNWRITING HAND-", "CUP INDEX RING LITTLE;HINGE INDEX RING LITTLE"⟩,
   ⟨0x1d8c2, "SIGNWRITING HAND-ANGLE INDEX RING LITTLE", " OUT;"⟩,
   ⟨0x1d8c4, "SIGNWRITING HAND-", "FIST MIDDLE DOWN;HINGE MIDDLE;FIST MIDDLE UP;CIRCLE MIDDLE UP"⟩,
   ⟨0x1d8c8, "SIGNWRITING HAND-FIST MIDDLE ", "RAISED KNUCKLE;UP THUMB SIDE"⟩,
   ⟨0x1d8ca, "SIGNWRITING HAND-", "HOOK MIDDLE THUMB;FIST MIDDLE THUMB LITTLE;FIST MIDDLE LITTLE"⟩,
   ⟨0x1d8cd, "SIGNWRITING HAND-", "FIST MIDDLE RING LITTLE;CIRCLE MIDDLE RING LITTLE"⟩,
   ⟨0x1d8cf, "SIGNWRITING HAND-CU", "RLICUE MIDDLE RING LITTLE ON;P MIDDLE RING LITTLE"⟩,
   ⟨0x1d8d1, "SIGNWRITING HAND-", "HINGE MIDDLE RING LITTLE;ANGLE MIDDLE RING LITTLE OUT"⟩,
   ⟨0x1d8d3, "SIGNWRITING HAND-",
     "ANGLE MIDDLE RING LITTLE IN;ANGLE MIDDLE RING LITTLE;CIRCLE MIDDLE RING LITTLE BENT"⟩,
   ⟨0x1d8d6, "SIGNWRITING HAND-CLAW MIDDLE RING LITTLE CONJOINED", "; SIDE"⟩,
   ⟨0x1d8d8, "SIGNWRITING HAND-HOOK MIDDLE RING LITTLE CONJOINED", " OUT; IN;"⟩,
   ⟨0x1d8db, "SIGNWRITING HAND-",
     "HINGE INDEX HINGED;FIST INDEX THUMB SIDE;HINGE INDEX THUMB SIDE"⟩,
   ⟨0x1d8de, "SIGNWRITING HAND-FIST INDEX THUMB SIDE ",
     "THUMB DIAGONAL;THUMB CONJOINED;THUMB BENT;INDEX BENT;BOTH BENT"⟩,
   ⟨0x1d8e3, "SIGNWRITING HAND-FIST INDEX THUMB ",
     "SIDE INDEX HINGE;FORWARD INDEX STRAIGHT;FORWARD INDEX BENT;HOOK;CURLICUE;CURVE THUMB INSIDE"⟩,
   ⟨0x1d8e9, "SIGNWRITING HAND-",
     "CLAW INDEX THUMB CURVE THUMB INSIDE;FIST INDEX THUMB CURVE THUMB UNDER"⟩,
   ⟨0x1d8eb, "SIGNWRITING HAND-", "FIST INDEX THUMB CIRCLE;CUP INDEX THUMB;CUP INDEX THUMB OPEN"⟩,
   ⟨0x1d8ee, "SIGNWRITING HAND-HINGE INDEX THUMB", " OPEN; LARGE;; SMALL"⟩,
   ⟨0x1d8f2, "SIGNWRITING HAND-ANGLE INDEX THUMB", " OUT; IN;"⟩,
   ⟨0x1d8f5, "SIGNWRITING HAND-FIST THUMB", "; HEEL; SIDE DIAGONAL; SIDE CONJOINED; SIDE BENT"⟩,
   ⟨0x1d8fa, "SIGNWRITING HAND-FIST THUMB ",
     "FORWARD;BETWEEN INDEX MIDDLE;BETWEEN MIDDLE RING;BETWEEN RING LITTLE;UNDER TWO FINGERS"⟩,
   ⟨0x1d8ff, "SIGNWRITING HAND-FIST THUMB ",
     "OVER TWO FINGERS;UNDER THREE FINGERS;UNDER FOUR FINGERS;OVER FOUR RAISED KNUCKLES"⟩,
   ⟨0x1d903, "SIGNWRITING ", "HAND-FIST;HAND-FIST HEEL;TOUCH SINGLE;TOUCH MULTIPLE;TOUCH BETWEEN"⟩,
   ⟨0x1d908, "SIGNWRITING ",
     "GRASP SINGLE;GRASP MULTIPLE;GRASP BETWEEN;STRIKE SINGLE;STRIKE MULTIPLE;STRIKE BETWEEN"⟩,
   ⟨0x1d90e, "SIGNWRITING ", "BRUSH SINGLE;BRUSH MULTIPLE;BRUSH BETWEEN;RUB SINGLE;RUB MULTIPLE"⟩,
   ⟨0x1d913, "SIGNWRITING ", "RUB BETWEEN;SURFACE SYMBOLS;SURFACE BETWEEN;SQUEEZE LARGE SINGLE"⟩,
   ⟨0x1d917, "SIGNWRITING SQUEEZE ", "SMALL SINGLE;LARGE MULTIPLE;SMALL MULTIPLE;SEQUENTIAL"⟩,
   ⟨0x1d91b, "SIGNWRITING FLICK ", "LARGE SINGLE;SMALL SINGLE;LARGE MULTIPLE"⟩,
   ⟨0x1d91e, "SIGNWRITING ", "FLICK SMALL MULTIPLE;FLICK SEQUENTIAL;SQUEEZE FLICK ALTERNATING"⟩,
   ⟨0x1d921, "SIGNWRITING MOVEMENT-HINGE ",
     "UP DOWN LARGE;UP DOWN SMALL;UP SEQUENTIAL;DOWN SEQUENTIAL;UP DOWN ALTERNATING LARGE"⟩,
   ⟨0x1d926, "SIGNWRITING MOVEMENT-HINGE ", "UP DOWN ALTERNATING SMALL;SIDE TO SIDE SCISSORS"⟩,
   ⟨0x1d928, "SIGNWRITING MOVEMENT-", "WALLPLANE FINGER CONTACT;FLOORPLANE FINGER CONTACT"⟩,
   ⟨0x1d92a, "SIGNWRITING MOVEMENT-WALLPLANE SINGLE ",
     "STRAIGHT SMALL;STRAIGHT MEDIUM;STRAIGHT LARGE;STRAIGHT LARGEST;WRIST FLEX"⟩,
   ⟨0x1d92f, "SIGNWRITING MOVEMENT-WALLPLANE ",
     "DOUBLE STRAIGHT;DOUBLE WRIST FLEX;DOUBLE ALTERNATING;DOUBLE ALTERNATING WRIST FLEX;CROSS"⟩,
   ⟨0x1d934, "SIGNWRITING MOVEMENT-WALLPLANE TRIPLE ", "STRAIGHT MOVEMENT;WRIST FLEX;ALTERNATING"⟩,
   ⟨0x1d937, "SIGNWRITING MOVEMENT-WALLPLANE ",
     "TRIPLE ALTERNATING WRIST FLEX;BEND SMALL;BEND MEDIUM;BEND LARGE;CORNER SMALL;CORNER MEDIUM"⟩,
   ⟨0x1d93d, "SIGNWRITING MOVEMENT-WALLPLANE ",
     "CORNER LARGE;CORNER ROTATION;CHECK SMALL;CHECK MEDIUM;CHECK LARGE;BOX SMALL;BOX MEDIUM"⟩,
   ⟨0x1d944, "SIGNWRITING MOVEMENT-WALLPLANE ",
     "BOX LARGE;ZIGZAG SMALL;ZIGZAG MEDIUM;ZIGZAG LARGE;PEAKS SMALL;PEAKS MEDIUM;PEAKS LARGE"⟩,
   ⟨0x1d94b, "SIGNWRITING TRAVEL-WALLPLANE ROTATION-",
     "WALLPLANE SINGLE;WALLPLANE DOUBLE;WALLPLANE ALTERNATING;FLOORPLANE SINGLE;FLOORPLANE DOUBLE"⟩,
   ⟨0x1d950, "SIGNWRITING TRAVEL-WALLPLANE ", "ROTATION-FLOORPLANE ALTERNATING;SHAKING"⟩,
   ⟨0x1d952, "SIGNWRITING TRAVEL-WALLPLANE ARM SPIRAL ", "SINGLE;DOUBLE;TRIPLE"⟩,
   ⟨0x1d955, "SIGNWRITING MOVEMENT-DIAGONAL AWAY ", "SMALL;MEDIUM;LARGE;LARGEST"⟩,
   ⟨0x1d959, "SIGNWRITING MOVEMENT-DIAGONAL TOWARDS ", "SMALL;MEDIUM;LARGE;LARGEST"⟩,
   ⟨0x1d95d, "SIGNWRITING MOVEMENT-DIAGONAL BETWEEN AWAY ", "SMALL;MEDIUM;LARGE;LARGEST"⟩,
   ⟨0x1d961, "SIGNWRITING MOVEMENT-DIAGONAL BETWEEN TOWARDS ", "SMALL;MEDIUM;LARGE;LARGEST"⟩,
   ⟨0x1d965, "SIGNWRITING MOVEMENT-FLOORPLANE SINGLE ",
     "STRAIGHT SMALL;STRAIGHT MEDIUM;STRAIGHT LARGE;STRAIGHT LARGEST;WRIST FLEX"⟩,
   ⟨0x1d96a, "SIGNWRITING MOVEMENT-FLOORPLANE ",
     "DOUBLE STRAIGHT;DOUBLE WRIST FLEX;DOUBLE ALTERNATING;DOUBLE ALTERNATING WRIST FLEX;CROSS"⟩,
   ⟨0x1d96f, "SIGNWRITING MOVEMENT-FLOORPLANE TRIPLE ",
     "STRAIGHT MOVEMENT;WRIST FLEX;ALTERNATING MOVEMENT;ALTERNATING WRIST FLEX"⟩,
   ⟨0x1d973, "SIGNWRITING MOVEMENT-FLOORPLANE ",
     "BEND;CORNER SMALL;CORNER MEDIUM;CORNER LARGE;CHECK;BOX SMALL;BOX MEDIUM"⟩,
   ⟨0x1d97a, "SIGNWRITING MOVEMENT-FLOORPLANE ",
     "BOX LARGE;ZIGZAG SMALL;ZIGZAG MEDIUM;ZIGZAG LARGE;PEAKS SMALL;PEAKS MEDIUM;PEAKS LARGE"⟩,
   ⟨0x1d981, "SIGNWRITING TRAVEL-FLOORPLANE ROTATION-FLOORPLANE ", "SINGLE;DOUBLE;ALTERNATING"⟩,
   ⟨0x1d984, "SIGNWRITING TRAVEL-FLOORPLANE ",
     "ROTATION-WALLPLANE SINGLE;ROTATION-WALLPLANE DOUBLE;ROTATION-WALLPLANE ALTERNATING;SHAKING"⟩,
   ⟨0x1d988, "SIGNWRITING MOVEMENT-WALLPLANE CURVE QUARTER ", "SMALL;MEDIUM;LARGE;LARGEST"⟩,
   ⟨0x1d98c, "SIGNWRITING MOVEMENT-WALLPLANE CURVE HALF-CIRCLE ", "SMALL;MEDIUM;LARGE;LARGEST"⟩,
   ⟨0x1d990, "SIGNWRITING MOVEMENT-WALLPLANE CURVE THREE-QUARTER CIRCLE ", "SMALL;MEDIUM"⟩,
   ⟨0x1d992, "SIGNWRITING MOVEMENT-WALLPLANE ",
     "HUMP SMALL;HUMP MEDIUM;HUMP LARGE;LOOP SMALL;LOOP MEDIUM;LOOP LARGE;LOOP SMALL DOUBLE"⟩,
   ⟨0x1d999, "SIGNWRITING MOVEMENT-WALLPLANE WAVE CURVE ",
     "DOUBLE SMALL;DOUBLE MEDIUM;DOUBLE LARGE;TRIPLE SMALL;TRIPLE MEDIUM;TRIPLE LARGE"⟩,
   ⟨0x1d99f, "SIGNWRITING MOVEMENT-WALLPLANE CURVE", " THEN STRAIGHT;D CROSS SMALL;D CROSS MEDIUM"⟩,
   ⟨0x1d9a2, "SIGNWRITING ROTATION-WALLPLANE ", "SINGLE;DOUBLE;ALTERNATE"⟩,
   ⟨0x1d9a5, "SIGNWRITING MOVEMENT-WALLPLANE ", "SHAKING;CURVE HITTING FRONT WALL"⟩,
   ⟨0x1d9a7, "SIGNWRITING MOVEMENT-WALLPLANE ",
     "HUMP HITTING FRONT WALL;LOOP HITTING FRONT WALL;WAVE HITTING FRONT WALL"⟩,
   ⟨0x1d9aa, "SIGNWRITING ROTATION-WALLPLANE ",
     "SINGLE HITTING FRONT WALL;DOUBLE HITTING FRONT WALL;ALTERNATING HITTING FRONT WALL"⟩,
   ⟨0x1d9ad, "SIGNWRITING MOVEMENT-WALLPLANE ",
     "CURVE HITTING CHEST;HUMP HITTING CHEST;LOOP HITTING CHEST;WAVE HITTING CHEST"⟩,
   ⟨0x1d9b1, "SIGNWRITING ROTATION-WALLPLANE ",
     "SINGLE HITTING CHEST;DOUBLE HITTING CHEST;ALTERNATING HITTING CHEST"⟩,
   ⟨0x1d9b4, "SIGNWRITING MOVEMENT-WALLPLANE WAVE DIAGONAL PATH ", "SMALL;MEDIUM;LARGE"⟩,
   ⟨0x1d9b7, "SIGNWRITING MOVEMENT-FLOORPLANE CURVE HITTING CEILING ", "SMALL;LARGE"⟩,
   ⟨0x1d9b9, "SIGNWRITING MOVEMENT-FLOORPLANE HUMP HITTING CEILING ",
     "SMALL DOUBLE;LARGE DOUBLE;SMALL TRIPLE;LARGE TRIPLE"⟩,
   ⟨0x1d9bd, "SIGNWRITING MOVEMENT-FLOORPLANE LOOP HITTING CEILING ",
     "SMALL SINGLE;LARGE SINGLE;SMALL DOUBLE;LARGE DOUBLE"⟩,
   ⟨0x1d9c1, "SIGNWRITING MOVEMENT-FLOORPLANE WAVE HITTING CEILING ", "SMALL;LARGE"⟩,
   ⟨0x1d9c3, "SIGNWRITING ROTATION-FLOORPLANE ",
     "SINGLE HITTING CEILING;DOUBLE HITTING CEILING;ALTERNATING HITTING CEILING"⟩,
   ⟨0x1d9c6, "SIGNWRITING MOVEMENT-FLOORPLANE CURVE HITTING FLOOR ", "SMALL;LARGE"⟩,
   ⟨0x1d9c8, "SIGNWRITING MOVEMENT-FLOORPLANE HUMP HITTING FLOOR ",
     "SMALL DOUBLE;LARGE DOUBLE;TRIPLE SMALL TRIPLE;TRIPLE LARGE TRIPLE"⟩,
   ⟨0x1d9cc, "SIGNWRITING MOVEMENT-FLOORPLANE LOOP HITTING FLOOR ",
     "SMALL SINGLE;LARGE SINGLE;SMALL DOUBLE;LARGE DOUBLE"⟩,
   ⟨0x1d9d0, "SIGNWRITING MOVEMENT-FLOORPLANE WAVE HITTING FLOOR ", "SMALL;LARGE"⟩,
   ⟨0x1d9d2, "SIGNWRITING ROTATION-FLOORPLANE ",
     "SINGLE HITTING FLOOR;DOUBLE HITTING FLOOR;ALTERNATING HITTING FLOOR"⟩,
   ⟨0x1d9d5, "SIGNWRITING MOVEMENT-FLOORPLANE ",
     "CURVE SMALL;CURVE MEDIUM;CURVE LARGE;CURVE LARGEST;CURVE COMBINED;HUMP SMALL"⟩,
   ⟨0x1d9db, "SIGNWRITING MOVEMENT-FLOORPLANE ", "LOOP SMALL;WAVE SNAKE;WAVE SMALL;WAVE LARGE"⟩,
   ⟨0x1d9df, "SIGNWRITING ROTATION-FLOORPLANE ", "SINGLE;DOUBLE;ALTERNATING"⟩,
   ⟨0x1d9e2, "SIGNWRITING MOVEMENT-FLOORPLANE SHAKING PARALLEL", ""⟩,
   ⟨0x1d9e3, "SIGNWRITING MOVEMENT-WALLPLANE ARM CIRCLE ",
     "SMALL SINGLE;MEDIUM SINGLE;SMALL DOUBLE;MEDIUM DOUBLE"⟩,
   ⟨0x1d9e7, "SIGNWRITING MOVEMENT-FLOORPLANE ARM CIRCLE HITTING WALL ",
     "SMALL SINGLE;MEDIUM SINGLE;LARGE SINGLE;SMALL DOUBLE;MEDIUM DOUBLE;LARGE DOUBLE"⟩,
   ⟨0x1d9ed, "SIGNWRITING MOVEMENT-WALLPLANE WRIST CIRCLE FRONT ", "SINGLE;DOUBLE"⟩,
   ⟨0x1d9ef, "SIGNWRITING MOVEMENT-FLOORPLANE WRIST CIRCLE HITTING WALL ", "SINGLE;DOUBLE"⟩,
   ⟨0x1d9f1, "SIGNWRITING MOVEMENT-WALLPLANE FINGER CIRCLES ", "SINGLE;DOUBLE"⟩,
   ⟨0x1d9f3, "SIGNWRITING MOVEMENT-FLOORPLANE FINGER CIRCLES HITTING WALL ", "SINGLE;DOUBLE"⟩,
   ⟨0x1d9f5, "SIGNWRITING DYNAMIC ", "ARROWHEAD SMALL;ARROWHEAD LARGE;FAST;SLOW;TENSE;RELAXED"⟩,
   ⟨0x1d9fb, "SIGNWRITING DYNAMIC ", "SIMULTANEOUS;SIMULTANEOUS ALTERNATING;EVERY OTHER TIME"⟩,
   ⟨0x1d9fe, "SIGNWRITING ", "DYNAMIC GRADUAL;HEAD;HEAD RIM;HEAD MOVEMENT-WALLPLANE STRAIGHT"⟩,
   ⟨0x1da02, "SIGNWRITING HEAD MOVEMENT",
     "-WALLPLANE TILT;-FLOORPLANE STRAIGHT;-WALLPLANE CURVE;-FLOORPLANE CURVE; CIRCLE"⟩,
   ⟨0x1da07, "SIGNWRITING FACE DIRECTION POSITION NOSE ",
     "FORWARD TILTING;UP OR DOWN;UP OR DOWN TILTING"⟩,
   ⟨0x1da0a, "SIGNWRITING EYEBROWS STRAIGHT ", "UP;NEUTRAL;DOWN"⟩,
   ⟨0x1da0d, "SIGNWRITING DREAMY EYEBROWS ", "NEUTRAL DOWN;DOWN NEUTRAL;UP NEUTRAL;NEUTRAL UP"⟩,
   ⟨0x1da11, "SIGNWRITING ", "FOREHEAD NEUTRAL;FOREHEAD CONTACT;FOREHEAD WRINKLED;EYES OPEN"⟩,
   ⟨0x1da15, "SIGNWRITING EYE", "S SQUEEZED;S CLOSED; BLINK SINGLE; BLINK MULTIPLE;S HALF OPEN"⟩,
   ⟨0x1da1a, "SIGNWRITING EYE",
     "S WIDE OPEN;S HALF CLOSED;S WIDENING MOVEMENT; WINK;LASHES UP;LASHES DOWN;LASHES FLUTTERING"⟩,
   ⟨0x1da21, "SIGNWRITING EYEGAZE-WALLPLANE STRAIGHT", "; DOUBLE; ALTERNATING"⟩,
   ⟨0x1da24, "SIGNWRITING EYEGAZE-FLOORPLANE STRAIGHT", "; DOUBLE; ALTERNATING"⟩,
   ⟨0x1da27, "SIGNWRITING EYEGAZE-", "WALLPLANE CURVED;FLOORPLANE CURVED;WALLPLANE CIRCLING"⟩,
   ⟨0x1da2a, "SIGNWRITING ", "CHEEKS PUFFED;CHEEKS NEUTRAL;CHEEKS SUCKED;TENSE CHEEKS HIGH"⟩,
   ⟨0x1da2e, "SIGNWRITING ", "TENSE CHEEKS MIDDLE;TENSE CHEEKS LOW;EARS;NOSE NEUTRAL;NOSE CONTACT"⟩,
   ⟨0x1da33, "SIGNWRITING ", "NOSE WRINKLES;NOSE WIGGLES;AIR BLOWING OUT;AIR SUCKING IN"⟩,
   ⟨0x1da37, "SIGNWRITING ", "AIR BLOW SMALL ROTATIONS;AIR SUCK SMALL ROTATIONS;BREATH INHALE"⟩,
   ⟨0x1da3a, "SIGNWRITING ", "BREATH EXHALE;MOUTH CLOSED NEUTRAL;MOUTH CLOSED FORWARD"⟩,
   ⟨0x1da3d, "SIGNWRITING MOUTH ",
     "CLOSED CONTACT;SMILE;SMILE WRINKLED;SMILE OPEN;FROWN;FROWN WRINKLED;FROWN OPEN;OPEN CIRCLE"⟩,
   ⟨0x1da45, "SIGNWRITING MOUTH OPEN ", "FORWARD;WRINKLED;OVAL;OVAL WRINKLED;OVAL YAWN;RECTANGLE"⟩,
   ⟨0x1da4b, "SIGNWRITING MOUTH ", "OPEN RECTANGLE WRINKLED;OPEN RECTANGLE YAWN;KISS"⟩,
   ⟨0x1da4e, "SIGNWRITING MOUTH ", "KISS FORWARD;KISS WRINKLED;TENSE;TENSE FORWARD;TENSE SUCKED"⟩,
   ⟨0x1da53, "SIGNWRITING LIP", "S PRESSED TOGETHER; LOWER OVER UPPER; UPPER OVER LOWER"⟩,
   ⟨0x1da56, "SIGNWRITING MOUTH ", "CORNERS;WRINKLES SINGLE;WRINKLES DOUBLE"⟩,
   ⟨0x1da59, "SIGNWRITING TONGUE ", "STICKING OUT FAR;LICKING LIPS;TIP BETWEEN LIPS"⟩,
   ⟨0x1da5c, "SIGNWRITING TONGUE ", "TIP TOUCHING INSIDE MOUTH;INSIDE MOUTH RELAXED"⟩,
   ⟨0x1da5e, "SIGNWRITING TONGUE ", "MOVES AGAINST CHEEK;CENTRE STICKING OUT;CENTRE INSIDE MOUTH"⟩,
   ⟨0x1da61, "SIGNWRITING TEETH", "; MOVEMENT; ON TONGUE; ON TONGUE MOVEMENT; ON LIPS"⟩,
   ⟨0x1da66, "SIGNWRITING ", "TEETH ON LIPS MOVEMENT;TEETH BITE LIPS;MOVEMENT-WALLPLANE JAW"⟩,
   ⟨0x1da69, "SIGNWRITING ", "MOVEMENT-FLOORPLANE JAW;NECK;HAIR;EXCITEMENT;SHOULDER HIP SPINE"⟩,
   ⟨0x1da6e, "SIGNWRITING ", "SHOULDER HIP POSITIONS;WALLPLANE SHOULDER HIP MOVE"⟩,
   ⟨0x1da70, "SIGNWRITING ", "FLOORPLANE SHOULDER HIP MOVE;SHOULDER TILTING FROM WAIST"⟩,
   ⟨0x1da72, "SIGNWRITING TORSO-WALLPLANE ", "STRAIGHT STRETCH;CURVED BEND"⟩,
   ⟨0x1da74, "SIGNWRITING ", "TORSO-FLOORPLANE TWISTING;UPPER BODY TILTING FROM HIP JOINTS"⟩,
   ⟨0x1da76, "SIGNWRITING LIMB ", "COMBINATION;LENGTH-1;LENGTH-2;LENGTH-3;LENGTH-4;LENGTH-5"⟩,
   ⟨0x1da7c, "SIGNWRITING ", "LIMB LENGTH-6;LIMB LENGTH-7;FINGER;LOCATION-WALLPLANE SPACE"⟩,
   ⟨0x1da80, "SIGNWRITING LOCATION", "-FLOORPLANE SPACE; HEIGHT; WIDTH; DEPTH; HEAD NECK; TORSO"⟩,
   ⟨0x1da86, "SIGNWRITING ", "LOCATION LIMBS DIGITS;COMMA;FULL STOP;SEMICOLON;COLON;PARENTHESIS"⟩,
   ⟨0x1da9b, "SIGNWRITING FILL MODIFIER-", "2;3;4;5;6"⟩,
   ⟨0x1daa1, "SIGNWRITING ROTATION MODIFIER-", "2;3;4;5;6;7;8;9;10;11;12;13;14;15;16"⟩]

/-- The names in the block Latin Extended-G. -/
def latinExtendedG : List NameRun :=
  [⟨0x1df00, "LATIN SMALL LETTER ", "FENG DIGRAPH WITH TRILL;REVERSED SCRIPT G"⟩,
   ⟨0x1df02, "LATIN ", "LETTER SMALL CAPITAL TURNED G;SMALL LETTER REVERSED K"⟩,
   ⟨0x1df04, "LATIN ", "LETTER SMALL CAPITAL L WITH BELT;SMALL LETTER LEZH WITH RETROFLEX HOOK"⟩,
   ⟨0x1df06, "LATIN SMALL LETTER ",
     "TURNED Y WITH BELT;REVERSED ENG;TURNED R WITH LONG LEG AND RETROFLEX HOOK"⟩,
   ⟨0x1df09, "LATIN ",
     "SMALL LETTER T WITH HOOK AND RETROFLEX HOOK;LETTER RETROFLEX CLICK WITH RETROFLEX HOOK"⟩,
   ⟨0x1df0b, "LATIN SMALL LETTER ESH WITH DOUBLE BAR", "; AND CURL"⟩,
   ⟨0x1df0d, "LATIN ", "SMALL LETTER TURNED T WITH CURL;LETTER INVERTED GLOTTAL STOP WITH CURL"⟩,
   ⟨0x1df0f, "LATIN LETTER S", "TRETCHED C WITH CURL;MALL CAPITAL TURNED K"⟩,
   ⟨0x1df11, "LATIN SMALL LETTER ", "L WITH FISHHOOK;DEZH DIGRAPH WITH PALATAL HOOK"⟩,
   ⟨0x1df13, "LATIN SMALL LETTER ", "L WITH BELT AND PALATAL HOOK;ENG WITH PALATAL HOOK"⟩,
   ⟨0x1df15, "LATIN SMALL LETTER ",
     "TURNED R WITH PALATAL HOOK;R WITH FISHHOOK AND PALATAL HOOK;TESH DIGRAPH WITH PALATAL HOOK"⟩,
   ⟨0x1df18, "LATIN SMALL LETTER ",
     "EZH WITH PALATAL HOOK;DEZH DIGRAPH WITH RETROFLEX HOOK;I WITH STROKE AND RETROFLEX HOOK"⟩,
   ⟨0x1df1b, "LATIN SMALL LETTER ",
     "O WITH RETROFLEX HOOK;TESH DIGRAPH WITH RETROFLEX HOOK;C WITH RETROFLEX HOOK;S WITH CURL"⟩]

/-- All names of this module. -/
def notations : List NameRun :=
  List.flatten
    [znamennyMusicalNotation, byzantineMusicalSymbols, musicalSymbols, ancientGreekMusicalNotation,
     mayanNumerals, taiXuanJingSymbols, countingRodNumerals, mathematicalAlphanumericSymbols,
     suttonSignWriting, latinExtendedG]

end Names
end Unicode
end LiquidMarkdown
