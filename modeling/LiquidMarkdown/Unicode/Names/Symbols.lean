import LiquidMarkdown.Unicode.NameRun

/-!
# Names of characters: symbols

* `symbols` — the names of enclosed letters, boxes, shapes, ornaments, Braille patterns and
  further arrows.
-/

namespace LiquidMarkdown
namespace Unicode
namespace Names

/-- The names in the block Control Pictures. -/
def controlPictures : List NameRun :=
  [⟨0x2400, "SYMBOL FOR ", "NULL;START OF HEADING;START OF TEXT;END OF TEXT;END OF TRANSMISSION"⟩,
   ⟨0x2405, "SYMBOL FOR ", "ENQUIRY;ACKNOWLEDGE;BELL;BACKSPACE;HORIZONTAL TABULATION"⟩,
   ⟨0x240a, "SYMBOL FOR ", "LINE FEED;VERTICAL TABULATION;FORM FEED;CARRIAGE RETURN;SHIFT OUT"⟩,
   ⟨0x240f, "SYMBOL FOR ", "SHIFT IN;DATA LINK ESCAPE;DEVICE CONTROL ONE;DEVICE CONTROL TWO"⟩,
   ⟨0x2413, "SYMBOL FOR ", "DEVICE CONTROL THREE;DEVICE CONTROL FOUR;NEGATIVE ACKNOWLEDGE"⟩,
   ⟨0x2416, "SYMBOL FOR ", "SYNCHRONOUS IDLE;END OF TRANSMISSION BLOCK;CANCEL;END OF MEDIUM"⟩,
   ⟨0x241a, "SYMBOL FOR ", "SUBSTITUTE;ESCAPE;FILE SEPARATOR;GROUP SEPARATOR;RECORD SEPARATOR"⟩,
   ⟨0x241f, "", "SYMBOL FOR UNIT SEPARATOR;SYMBOL FOR SPACE;SYMBOL FOR DELETE;BLANK SYMBOL"⟩,
   ⟨0x2423, "",
     "OPEN BOX;SYMBOL FOR NEWLINE;SYMBOL FOR DELETE FORM TWO;SYMBOL FOR SUBSTITUTE FORM TWO"⟩]

/-- The names in the block Optical Character Recognition. -/
def opticalCharacterRecognition : List NameRun :=
  [⟨0x2440, "OCR ", "HOOK;CHAIR;FORK;INVERTED FORK;BELT BUCKLE;BOW TIE;BRANCH BANK IDENTIFICATION"⟩,
   ⟨0x2447, "OCR ", "AMOUNT OF CHECK;DASH;CUSTOMER ACCOUNT NUMBER;DOUBLE BACKSLASH"⟩]

/-- The names in the block Enclosed Alphanumerics. -/
def enclosedAlphanumerics : List NameRun :=
  [⟨0x2460, "CIRCLED DIGIT ", "ONE;TWO;THREE;FOUR;FIVE;SIX;SEVEN;EIGHT;NINE"⟩,
   ⟨0x2469, "CIRCLED NUMBER ",
     "TEN;ELEVEN;TWELVE;THIRTEEN;FOURTEEN;FIFTEEN;SIXTEEN;SEVENTEEN;EIGHTEEN;NINETEEN;TWENTY"⟩,
   ⟨0x2474, "PARENTHESIZED DIGIT ", "ONE;TWO;THREE;FOUR;FIVE;SIX;SEVEN;EIGHT;NINE"⟩,
   ⟨0x247d, "PARENTHESIZED NUMBER ",
     "TEN;ELEVEN;TWELVE;THIRTEEN;FOURTEEN;FIFTEEN;SIXTEEN;SEVENTEEN;EIGHTEEN;NINETEEN;TWENTY"⟩,
   ⟨0x2488, "DIGIT ", "ONE FULL STOP;TWO FULL STOP;THREE FULL STOP;FOUR FULL STOP;FIVE FULL STOP"⟩,
   ⟨0x248d, "DIGIT ", "SIX FULL STOP;SEVEN FULL STOP;EIGHT FULL STOP;NINE FULL STOP"⟩,
   ⟨0x2491, "NUMBER ", "TEN FULL STOP;ELEVEN FULL STOP;TWELVE FULL STOP"⟩,
   ⟨0x2494, "NUMBER ", "THIRTEEN FULL STOP;FOURTEEN FULL STOP;FIFTEEN FULL STOP;SIXTEEN FULL STOP"⟩,
   ⟨0x2498, "NUMBER ",
     "SEVENTEEN FULL STOP;EIGHTEEN FULL STOP;NINETEEN FULL STOP;TWENTY FULL STOP"⟩,
   ⟨0x249c, "PARENTHESIZED LATIN SMALL LETTER ",
     "A;B;C;D;E;F;G;H;I;J;K;L;M;N;O;P;Q;R;S;T;U;V;W;X;Y;Z"⟩,
   ⟨0x24b6, "CIRCLED LATIN CAPITAL LETTER ", "A;B;C;D;E;F;G;H;I;J;K;L;M;N;O;P;Q;R;S;T;U;V;W;X;Y;Z"⟩,
   ⟨0x24d0, "CIRCLED LATIN SMALL LETTER ", "A;B;C;D;E;F;G;H;I;J;K;L;M;N;O;P;Q;R;S;T;U;V;W;X;Y"⟩,
   ⟨0x24e9, "", "CIRCLED LATIN SMALL LETTER Z;CIRCLED DIGIT ZERO;NEGATIVE CIRCLED NUMBER ELEVEN"⟩,
   ⟨0x24ec, "NEGATIVE CIRCLED NUMBER ",
     "TWELVE;THIRTEEN;FOURTEEN;FIFTEEN;SIXTEEN;SEVENTEEN;EIGHTEEN;NINETEEN;TWENTY"⟩,
   ⟨0x24f5, "DOUBLE CIRCLED DIGIT ", "ONE;TWO;THREE;FOUR;FIVE;SIX;SEVEN;EIGHT"⟩,
   ⟨0x24fd, "", "DOUBLE CIRCLED DIGIT NINE;DOUBLE CIRCLED NUMBER TEN;NEGATIVE CIRCLED DIGIT ZERO"⟩]

/-- The names in the block Box Drawing. -/
def boxDrawing : List NameRun :=
  [⟨0x2500, "BOX DRAWINGS ", "LIGHT HORIZONTAL;HEAVY HORIZONTAL;LIGHT VERTICAL;HEAVY VERTICAL"⟩,
   ⟨0x2504, "BOX DRAWINGS ", "LIGHT TRIPLE DASH HORIZONTAL;HEAVY TRIPLE DASH HORIZONTAL"⟩,
   ⟨0x2506, "BOX DRAWINGS ", "LIGHT TRIPLE DASH VERTICAL;HEAVY TRIPLE DASH VERTICAL"⟩,
   ⟨0x2508, "BOX DRAWINGS ", "LIGHT QUADRUPLE DASH HORIZONTAL;HEAVY QUADRUPLE DASH HORIZONTAL"⟩,
   ⟨0x250a, "BOX DRAWINGS ", "LIGHT QUADRUPLE DASH VERTICAL;HEAVY QUADRUPLE DASH VERTICAL"⟩,
   ⟨0x250c, "BOX DRAWINGS ", "LIGHT DOWN AND RIGHT;DOWN LIGHT AND RIGHT HEAVY"⟩,
   ⟨0x250e, "BOX DRAWINGS ", "DOWN HEAVY AND RIGHT LIGHT;HEAVY DOWN AND RIGHT;LIGHT DOWN AND LEFT"⟩,
   ⟨0x2511, "BOX DRAWINGS DOWN ", "LIGHT AND LEFT HEAVY;HEAVY AND LEFT LIGHT"⟩,
   ⟨0x2513, "BOX DRAWINGS ", "HEAVY DOWN AND LEFT;LIGHT UP AND RIGHT;UP LIGHT AND RIGHT HEAVY"⟩,
   ⟨0x2516, "BOX DRAWINGS ", "UP HEAVY AND RIGHT LIGHT;HEAVY UP AND RIGHT;LIGHT UP AND LEFT"⟩,
   ⟨0x2519, "BOX DRAWINGS ", "UP LIGHT AND LEFT HEAVY;UP HEAVY AND LEFT LIGHT;HEAVY UP AND LEFT"⟩,
   ⟨0x251c, "BOX DRAWINGS ", "LIGHT VERTICAL AND RIGHT;VERTICAL LIGHT AND RIGHT HEAVY"⟩,
   ⟨0x251e, "BOX DRAWINGS ", "UP HEAVY AND RIGHT DOWN LIGHT;DOWN HEAVY AND RIGHT UP LIGHT"⟩,
   ⟨0x2520, "BOX DRAWINGS ", "VERTICAL HEAVY AND RIGHT LIGHT;DOWN LIGHT AND RIGHT UP HEAVY"⟩,
   ⟨0x2522, "BOX DRAWINGS ", "UP LIGHT AND RIGHT DOWN HEAVY;HEAVY VERTICAL AND RIGHT"⟩,
   ⟨0x2524, "BOX DRAWINGS ", "LIGHT VERTICAL AND LEFT;VERTICAL LIGHT AND LEFT HEAVY"⟩,
   ⟨0x2526, "BOX DRAWINGS ", "UP HEAVY AND LEFT DOWN LIGHT;DOWN HEAVY AND LEFT UP LIGHT"⟩,
   ⟨0x2528, "BOX DRAWINGS ", "VERTICAL HEAVY AND LEFT LIGHT;DOWN LIGHT AND LEFT UP HEAVY"⟩,
   ⟨0x252a, "BOX DRAWINGS ", "UP LIGHT AND LEFT DOWN HEAVY;HEAVY VERTICAL AND LEFT"⟩,
   ⟨0x252c, "BOX DRAWINGS L", "IGHT DOWN AND HORIZONTAL;EFT HEAVY AND RIGHT DOWN LIGHT"⟩,
   ⟨0x252e, "BOX DRAWINGS ", "RIGHT HEAVY AND LEFT DOWN LIGHT;DOWN LIGHT AND HORIZONTAL HEAVY"⟩,
   ⟨0x2530, "BOX DRAWINGS ", "DOWN HEAVY AND HORIZONTAL LIGHT;RIGHT LIGHT AND LEFT DOWN HEAVY"⟩,
   ⟨0x2532, "BOX DRAWINGS ", "LEFT LIGHT AND RIGHT DOWN HEAVY;HEAVY DOWN AND HORIZONTAL"⟩,
   ⟨0x2534, "BOX DRAWINGS L", "IGHT UP AND HORIZONTAL;EFT HEAVY AND RIGHT UP LIGHT"⟩,
   ⟨0x2536, "BOX DRAWINGS ", "RIGHT HEAVY AND LEFT UP LIGHT;UP LIGHT AND HORIZONTAL HEAVY"⟩,
   ⟨0x2538, "BOX DRAWINGS ", "UP HEAVY AND HORIZONTAL LIGHT;RIGHT LIGHT AND LEFT UP HEAVY"⟩,
   ⟨0x253a, "BOX DRAWINGS ", "LEFT LIGHT AND RIGHT UP HEAVY;HEAVY UP AND HORIZONTAL"⟩,
   ⟨0x253c, "BOX DRAWINGS L", "IGHT VERTICAL AND HORIZONTAL;EFT HEAVY AND RIGHT VERTICAL LIGHT"⟩,
   ⟨0x253e, "BOX DRAWINGS ",
     "RIGHT HEAVY AND LEFT VERTICAL LIGHT;VERTICAL LIGHT AND HORIZONTAL HEAVY"⟩,
   ⟨0x2540, "BOX DRAWINGS ",
     "UP HEAVY AND DOWN HORIZONTAL LIGHT;DOWN HEAVY AND UP HORIZONTAL LIGHT"⟩,
   ⟨0x2542, "BOX DRAWINGS ",
     "VERTICAL HEAVY AND HORIZONTAL LIGHT;LEFT UP HEAVY AND RIGHT DOWN LIGHT"⟩,
   ⟨0x2544, "BOX DRAWINGS ",
     "RIGHT UP HEAVY AND LEFT DOWN LIGHT;LEFT DOWN HEAVY AND RIGHT UP LIGHT"⟩,
   ⟨0x2546, "BOX DRAWINGS ",
     "RIGHT DOWN HEAVY AND LEFT UP LIGHT;DOWN LIGHT AND UP HORIZONTAL HEAVY"⟩,
   ⟨0x2548, "BOX DRAWINGS ",
     "UP LIGHT AND DOWN HORIZONTAL HEAVY;RIGHT LIGHT AND LEFT VERTICAL HEAVY"⟩,
   ⟨0x254a, "BOX DRAWINGS ", "LEFT LIGHT AND RIGHT VERTICAL HEAVY;HEAVY VERTICAL AND HORIZONTAL"⟩,
   ⟨0x254c, "BOX DRAWINGS ", "LIGHT DOUBLE DASH HORIZONTAL;HEAVY DOUBLE DASH HORIZONTAL"⟩,
   ⟨0x254e, "BOX DRAWINGS ", "LIGHT DOUBLE DASH VERTICAL;HEAVY DOUBLE DASH VERTICAL"⟩,
   ⟨0x2550, "BOX DRAWINGS DO",
     "UBLE HORIZONTAL;UBLE VERTICAL;WN SINGLE AND RIGHT DOUBLE;WN DOUBLE AND RIGHT SINGLE"⟩,
   ⟨0x2554, "BOX DRAWINGS DO",
     "UBLE DOWN AND RIGHT;WN SINGLE AND LEFT DOUBLE;WN DOUBLE AND LEFT SINGLE;UBLE DOWN AND LEFT"⟩,
   ⟨0x2558, "BOX DRAWINGS UP ", "SINGLE AND RIGHT DOUBLE;DOUBLE AND RIGHT SINGLE"⟩,
   ⟨0x255a, "BOX DRAWINGS ",
     "DOUBLE UP AND RIGHT;UP SINGLE AND LEFT DOUBLE;UP DOUBLE AND LEFT SINGLE;DOUBLE UP AND LEFT"⟩,
   ⟨0x255e, "BOX DRAWINGS VERTICAL ", "SINGLE AND RIGHT DOUBLE;DOUBLE AND RIGHT SINGLE"⟩,
   ⟨0x2560, "BOX DRAWINGS ", "DOUBLE VERTICAL AND RIGHT;VERTICAL SINGLE AND LEFT DOUBLE"⟩,
   ⟨0x2562, "BOX DRAWINGS ", "VERTICAL DOUBLE AND LEFT SINGLE;DOUBLE VERTICAL AND LEFT"⟩,
   ⟨0x2564, "BOX DRAWINGS DOWN ", "SINGLE AND HORIZONTAL DOUBLE;DOUBLE AND HORIZONTAL SINGLE"⟩,
   ⟨0x2566, "BOX DRAWINGS ", "DOUBLE DOWN AND HORIZONTAL;UP SINGLE AND HORIZONTAL DOUBLE"⟩,
   ⟨0x2568, "BOX DRAWINGS ", "UP DOUBLE AND HORIZONTAL SINGLE;DOUBLE UP AND HORIZONTAL"⟩,
   ⟨0x256a, "BOX DRAWINGS VERTICAL ", "SINGLE AND HORIZONTAL DOUBLE;DOUBLE AND HORIZONTAL SINGLE"⟩,
   ⟨0x256c, "BOX DRAWINGS ", "DOUBLE VERTICAL AND HORIZONTAL;LIGHT ARC DOWN AND RIGHT"⟩,
   ⟨0x256e, "BOX DRAWINGS LIGHT ",
     "ARC DOWN AND LEFT;ARC UP AND LEFT;ARC UP AND RIGHT;DIAGONAL UPPER RIGHT TO LOWER LEFT"⟩,
   ⟨0x2572, "BOX DRAWINGS LIGHT ", "DIAGONAL UPPER LEFT TO LOWER RIGHT;DIAGONAL CROSS;LEFT"⟩,
   ⟨0x2575, "BOX DRAWINGS ", "LIGHT UP;LIGHT RIGHT;LIGHT DOWN;HEAVY LEFT;HEAVY UP;HEAVY RIGHT"⟩,
   ⟨0x257b, "BOX DRAWINGS ", "HEAVY DOWN;LIGHT LEFT AND HEAVY RIGHT;LIGHT UP AND HEAVY DOWN"⟩,
   ⟨0x257e, "BOX DRAWINGS HEAVY ", "LEFT AND LIGHT RIGHT;UP AND LIGHT DOWN"⟩]

/-- The names in the block Block Elements. -/
def blockElements : List NameRun :=
  [⟨0x2580, "", "UPPER HALF BLOCK;LOWER ONE EIGHTH BLOCK;LOWER ONE QUARTER BLOCK"⟩,
   ⟨0x2583, "LOWER ", "THREE EIGHTHS BLOCK;HALF BLOCK;FIVE EIGHTHS BLOCK;THREE QUARTERS BLOCK"⟩,
   ⟨0x2587, "", "LOWER SEVEN EIGHTHS BLOCK;FULL BLOCK;LEFT SEVEN EIGHTHS BLOCK"⟩,
   ⟨0x258a, "LEFT ", "THREE QUARTERS BLOCK;FIVE EIGHTHS BLOCK;HALF BLOCK;THREE EIGHTHS BLOCK"⟩,
   ⟨0x258e, "", "LEFT ONE QUARTER BLOCK;LEFT ONE EIGHTH BLOCK;RIGHT HALF BLOCK"⟩,
   ⟨0x2591, "", "LIGHT SHADE;MEDIUM SHADE;DARK SHADE;UPPER ONE EIGHTH BLOCK"⟩,
   ⟨0x2595, "", "RIGHT ONE EIGHTH BLOCK;QUADRANT LOWER LEFT;QUADRANT LOWER RIGHT"⟩,
   ⟨0x2598, "QUADRANT UPPER LEFT", "; AND LOWER LEFT AND LOWER RIGHT; AND LOWER RIGHT"⟩,
   ⟨0x259b, "QUADRANT UPPER LEFT AND UPPER RIGHT AND LOWER ", "LEFT;RIGHT"⟩,
   ⟨0x259d, "QUADRANT UPPER RIGHT", "; AND LOWER LEFT; AND LOWER LEFT AND LOWER RIGHT"⟩]

/-- The names in the block Geometric Shapes. -/
def geometricShapes : List NameRun :=
  [⟨0x25a0, "", "BLACK SQUARE;WHITE SQUARE;WHITE SQUARE WITH ROUNDED CORNERS"⟩,
   ⟨0x25a3, "", "WHITE SQUARE CONTAINING BLACK SMALL SQUARE;SQUARE WITH HORIZONTAL FILL"⟩,
   ⟨0x25a5, "SQUARE WITH ", "VERTICAL FILL;ORTHOGONAL CROSSHATCH FILL"⟩,
   ⟨0x25a7, "SQUARE WITH ",
     "UPPER LEFT TO LOWER RIGHT FILL;UPPER RIGHT TO LOWER LEFT FILL;DIAGONAL CROSSHATCH FILL"⟩,
   ⟨0x25aa, "", "BLACK SMALL SQUARE;WHITE SMALL SQUARE;BLACK RECTANGLE;WHITE RECTANGLE"⟩,
   ⟨0x25ae, "", "BLACK VERTICAL RECTANGLE;WHITE VERTICAL RECTANGLE;BLACK PARALLELOGRAM"⟩,
   ⟨0x25b1, "", "WHITE PARALLELOGRAM;BLACK UP-POINTING TRIANGLE;WHITE UP-POINTING TRIANGLE"⟩,
   ⟨0x25b4, "", "BLACK UP-POINTING SMALL TRIANGLE;WHITE UP-POINTING SMALL TRIANGLE"⟩,
   ⟨0x25b6, "", "BLACK RIGHT-POINTING TRIANGLE;WHITE RIGHT-POINTING TRIANGLE"⟩,
   ⟨0x25b8, "", "BLACK RIGHT-POINTING SMALL TRIANGLE;WHITE RIGHT-POINTING SMALL TRIANGLE"⟩,
   ⟨0x25ba, "", "BLACK RIGHT-POINTING POINTER;WHITE RIGHT-POINTING POINTER"⟩,
   ⟨0x25bc, "", "BLACK DOWN-POINTING TRIANGLE;WHITE DOWN-POINTING TRIANGLE"⟩,
   ⟨0x25be, "", "BLACK DOWN-POINTING SMALL TRIANGLE;WHITE DOWN-POINTING SMALL TRIANGLE"⟩,
   ⟨0x25c0, "", "BLACK LEFT-POINTING TRIANGLE;WHITE LEFT-POINTING TRIANGLE"⟩,
   ⟨0x25c2, "", "BLACK LEFT-POINTING SMALL TRIANGLE;WHITE LEFT-POINTING SMALL TRIANGLE"⟩,
   ⟨0x25c4, "", "BLACK LEFT-POINTING POINTER;WHITE LEFT-POINTING POINTER"⟩,
   ⟨0x25c6, "", "BLACK DIAMOND;WHITE DIAMOND;WHITE DIAMOND CONTAINING BLACK SMALL DIAMOND"⟩,
   ⟨0x25c9, "", "FISHEYE;LOZENGE;WHITE CIRCLE;DOTTED CIRCLE;CIRCLE WITH VERTICAL FILL"⟩,
   ⟨0x25ce, "", "BULLSEYE;BLACK CIRCLE;CIRCLE WITH LEFT HALF BLACK;CIRCLE WITH RIGHT HALF BLACK"⟩,
   ⟨0x25d2, "CIRCLE WITH ", "LOWER HALF BLACK;UPPER HALF BLACK;UPPER RIGHT QUADRANT BLACK"⟩,
   ⟨0x25d5, "", "CIRCLE WITH ALL BUT UPPER LEFT QUADRANT BLACK;LEFT HALF BLACK CIRCLE"⟩,
   ⟨0x25d7, "", "RIGHT HALF BLACK CIRCLE;INVERSE BULLET;INVERSE WHITE CIRCLE"⟩,
   ⟨0x25da, "", "UPPER HALF INVERSE WHITE CIRCLE;LOWER HALF INVERSE WHITE CIRCLE"⟩,
   ⟨0x25dc, "UPPER ", "LEFT QUADRANT CIRCULAR ARC;RIGHT QUADRANT CIRCULAR ARC"⟩,
   ⟨0x25de, "LOWER ", "RIGHT QUADRANT CIRCULAR ARC;LEFT QUADRANT CIRCULAR ARC"⟩,
   ⟨0x25e0, "", "UPPER HALF CIRCLE;LOWER HALF CIRCLE;BLACK LOWER RIGHT TRIANGLE"⟩,
   ⟨0x25e3, "BLACK ", "LOWER LEFT TRIANGLE;UPPER LEFT TRIANGLE;UPPER RIGHT TRIANGLE"⟩,
   ⟨0x25e6, "", "WHITE BULLET;SQUARE WITH LEFT HALF BLACK;SQUARE WITH RIGHT HALF BLACK"⟩,
   ⟨0x25e9, "SQUARE WITH ", "UPPER LEFT DIAGONAL HALF BLACK;LOWER RIGHT DIAGONAL HALF BLACK"⟩,
   ⟨0x25eb, "WHITE ", "SQUARE WITH VERTICAL BISECTING LINE;UP-POINTING TRIANGLE WITH DOT"⟩,
   ⟨0x25ed, "UP-POINTING TRIANGLE WITH ", "LEFT HALF BLACK;RIGHT HALF BLACK"⟩,
   ⟨0x25ef, "", "LARGE CIRCLE;WHITE SQUARE WITH UPPER LEFT QUADRANT"⟩,
   ⟨0x25f1, "WHITE SQUARE WITH ", "LOWER LEFT QUADRANT;LOWER RIGHT QUADRANT;UPPER RIGHT QUADRANT"⟩,
   ⟨0x25f4, "WHITE CIRCLE WITH ", "UPPER LEFT QUADRANT;LOWER LEFT QUADRANT;LOWER RIGHT QUADRANT"⟩,
   ⟨0x25f7, "", "WHITE CIRCLE WITH UPPER RIGHT QUADRANT;UPPER LEFT TRIANGLE"⟩,
   ⟨0x25f9, "", "UPPER RIGHT TRIANGLE;LOWER LEFT TRIANGLE;WHITE MEDIUM SQUARE;BLACK MEDIUM SQUARE"⟩,
   ⟨0x25fd, "", "WHITE MEDIUM SMALL SQUARE;BLACK MEDIUM SMALL SQUARE;LOWER RIGHT TRIANGLE"⟩]

/-- The names in the block Miscellaneous Symbols. -/
def miscellaneousSymbols : List NameRun :=
  [⟨0x2600, "", "BLACK SUN WITH RAYS;CLOUD;UMBRELLA;SNOWMAN;COMET;BLACK STAR;WHITE STAR"⟩,
   ⟨0x2607, "", "LIGHTNING;THUNDERSTORM;SUN;ASCENDING NODE;DESCENDING NODE;CONJUNCTION;OPPOSITION"⟩,
   ⟨0x260e, "",
     "BLACK TELEPHONE;WHITE TELEPHONE;BALLOT BOX;BALLOT BOX WITH CHECK;BALLOT BOX WITH X;SALTIRE"⟩,
   ⟨0x2614, "", "UMBRELLA WITH RAIN DROPS;HOT BEVERAGE;WHITE SHOGI PIECE;BLACK SHOGI PIECE"⟩,
   ⟨0x2618, "", "SHAMROCK;REVERSED ROTATED FLORAL HEART BULLET;BLACK LEFT POINTING INDEX"⟩,
   ⟨0x261b, "", "BLACK RIGHT POINTING INDEX;WHITE LEFT POINTING INDEX;WHITE UP POINTING INDEX"⟩,
   ⟨0x261e, "", "WHITE RIGHT POINTING INDEX;WHITE DOWN POINTING INDEX;SKULL AND CROSSBONES"⟩,
   ⟨0x2621, "", "CAUTION SIGN;RADIOACTIVE SIGN;BIOHAZARD SIGN;CADUCEUS;ANKH"⟩,
   ⟨0x2626, "", "ORTHODOX CROSS;CHI RHO;CROSS OF LORRAINE;CROSS OF JERUSALEM;STAR AND CRESCENT"⟩,
   ⟨0x262b, "", "FARSI SYMBOL;ADI SHAKTI;HAMMER AND SICKLE;PEACE SYMBOL;YIN YANG"⟩,
   ⟨0x2630, "TRIGRAM FOR ", "HEAVEN;LAKE;FIRE;THUNDER;WIND;WATER;MOUNTAIN;EARTH"⟩,
   ⟨0x2638, "", "WHEEL OF DHARMA;WHITE FROWNING FACE;WHITE SMILING FACE;BLACK SMILING FACE"⟩,
   ⟨0x263c, "", "WHITE SUN WITH RAYS;FIRST QUARTER MOON;LAST QUARTER MOON;MERCURY"⟩,
   ⟨0x2640, "", "FEMALE SIGN;EARTH;MALE SIGN;JUPITER;SATURN;URANUS;NEPTUNE;PLUTO;ARIES;TAURUS"⟩,
   ⟨0x264a, "", "GEMINI;CANCER;LEO;VIRGO;LIBRA;SCORPIUS;SAGITTARIUS;CAPRICORN;AQUARIUS;PISCES"⟩,
   ⟨0x2654, "WHITE CHESS ", "KING;QUEEN;ROOK;BISHOP;KNIGHT;PAWN"⟩,
   ⟨0x265a, "BLACK CHESS ", "KING;QUEEN;ROOK;BISHOP"⟩,
   ⟨0x265e, "", "BLACK CHESS KNIGHT;BLACK CHESS PAWN;BLACK SPADE SUIT;WHITE HEART SUIT"⟩,
   ⟨0x2662, "", "WHITE DIAMOND SUIT;BLACK CLUB SUIT;WHITE SPADE SUIT;BLACK HEART SUIT"⟩,
   ⟨0x2666, "", "BLACK DIAMOND SUIT;WHITE CLUB SUIT;HOT SPRINGS;QUARTER NOTE;EIGHTH NOTE"⟩,
   ⟨0x266b, "", "BEAMED EIGHTH NOTES;BEAMED SIXTEENTH NOTES;MUSIC FLAT SIGN;MUSIC NATURAL SIGN"⟩,
   ⟨0x266f, "", "MUSIC SHARP SIGN;WEST SYRIAC CROSS;EAST SYRIAC CROSS;UNIVERSAL RECYCLING SYMBOL"⟩,
   ⟨0x2673, "RECYCLING SYMBOL FOR TYPE-",
     "1 PLASTICS;2 PLASTICS;3 PLASTICS;4 PLASTICS;5 PLASTICS;6 PLASTICS;7 PLASTICS"⟩,
   ⟨0x267a, "", "RECYCLING SYMBOL FOR GENERIC MATERIALS;BLACK UNIVERSAL RECYCLING SYMBOL"⟩,
   ⟨0x267c, "", "RECYCLED PAPER SYMBOL;PARTIALLY-RECYCLED PAPER SYMBOL"⟩,
   ⟨0x267e, "", "PERMANENT PAPER SIGN;WHEELCHAIR SYMBOL;DIE FACE-1;DIE FACE-2"⟩,
   ⟨0x2682, "", "DIE FACE-3;DIE FACE-4;DIE FACE-5;DIE FACE-6;WHITE CIRCLE WITH DOT RIGHT"⟩,
   ⟨0x2687, "", "WHITE CIRCLE WITH TWO DOTS;BLACK CIRCLE WITH WHITE DOT RIGHT"⟩,
   ⟨0x2689, "", "BLACK CIRCLE WITH TWO WHITE DOTS;MONOGRAM FOR YANG;MONOGRAM FOR YIN"⟩,
   ⟨0x268c, "DIGRAM FOR ", "GREATER YANG;LESSER YIN;LESSER YANG;GREATER YIN"⟩,
   ⟨0x2690, "", "WHITE FLAG;BLACK FLAG;HAMMER AND PICK;ANCHOR;CROSSED SWORDS;STAFF OF AESCULAPIUS"⟩,
   ⟨0x2696, "", "SCALES;ALEMBIC;FLOWER;GEAR;STAFF OF HERMES;ATOM SYMBOL;FLEUR-DE-LIS"⟩,
   ⟨0x269d, "", "OUTLINED WHITE STAR;THREE LINES CONVERGING RIGHT;THREE LINES CONVERGING LEFT"⟩,
   ⟨0x26a0, "", "WARNING SIGN;HIGH VOLTAGE SIGN;DOUBLED FEMALE SIGN;DOUBLED MALE SIGN"⟩,
   ⟨0x26a4, "", "INTERLOCKED FEMALE AND MALE SIGN;MALE AND FEMALE SIGN;MALE WITH STROKE SIGN"⟩,
   ⟨0x26a7, "", "MALE WITH STROKE AND MALE AND FEMALE SIGN;VERTICAL MALE WITH STROKE SIGN"⟩,
   ⟨0x26a9, "", "HORIZONTAL MALE WITH STROKE SIGN;MEDIUM WHITE CIRCLE"⟩,
   ⟨0x26ab, "", "MEDIUM BLACK CIRCLE;MEDIUM SMALL WHITE CIRCLE;MARRIAGE SYMBOL;DIVORCE SYMBOL"⟩,
   ⟨0x26af, "", "UNMARRIED PARTNERSHIP SYMBOL;COFFIN;FUNERAL URN;NEUTER;CERES;PALLAS"⟩,
   ⟨0x26b5, "", "JUNO;VESTA;CHIRON;BLACK MOON LILITH;SEXTILE;SEMISEXTILE;QUINCUNX;SESQUIQUADRATE"⟩,
   ⟨0x26bd, "", "SOCCER BALL;BASEBALL;SQUARED KEY;WHITE DRAUGHTS MAN;WHITE DRAUGHTS KING"⟩,
   ⟨0x26c2, "", "BLACK DRAUGHTS MAN;BLACK DRAUGHTS KING;SNOWMAN WITHOUT SNOW;SUN BEHIND CLOUD"⟩,
   ⟨0x26c6, "", "RAIN;BLACK SNOWMAN;THUNDER CLOUD AND RAIN;TURNED WHITE SHOGI PIECE"⟩,
   ⟨0x26ca, "", "TURNED BLACK SHOGI PIECE;WHITE DIAMOND IN SQUARE;CROSSING LANES;DISABLED CAR"⟩,
   ⟨0x26ce, "", "OPHIUCHUS;PICK;CAR SLIDING;HELMET WITH WHITE CROSS;CIRCLED CROSSING LANES;CHAINS"⟩,
   ⟨0x26d4, "", "NO ENTRY;ALTERNATE ONE-WAY LEFT WAY TRAFFIC;BLACK TWO-WAY LEFT WAY TRAFFIC"⟩,
   ⟨0x26d7, "", "WHITE TWO-WAY LEFT WAY TRAFFIC;BLACK LEFT LANE MERGE;WHITE LEFT LANE MERGE"⟩,
   ⟨0x26da, "", "DRIVE SLOW SIGN;HEAVY WHITE DOWN-POINTING TRIANGLE;LEFT CLOSED ENTRY"⟩,
   ⟨0x26dd, "", "SQUARED SALTIRE;FALLING DIAGONAL IN WHITE CIRCLE IN BLACK SQUARE"⟩,
   ⟨0x26df, "", "BLACK TRUCK;RESTRICTED LEFT ENTRY-1;RESTRICTED LEFT ENTRY-2"⟩,
   ⟨0x26e2, "", "ASTRONOMICAL SYMBOL FOR URANUS;HEAVY CIRCLE WITH STROKE AND TWO DOTS ABOVE"⟩,
   ⟨0x26e4, "", "PENTAGRAM;RIGHT-HANDED INTERLACED PENTAGRAM;LEFT-HANDED INTERLACED PENTAGRAM"⟩,
   ⟨0x26e7, "", "INVERTED PENTAGRAM;BLACK CROSS ON SHIELD;SHINTO SHRINE;CHURCH;CASTLE"⟩,
   ⟨0x26ec, "", "HISTORIC SITE;GEAR WITHOUT HUB;GEAR WITH HANDLES;MAP SYMBOL FOR LIGHTHOUSE"⟩,
   ⟨0x26f0, "",
     "MOUNTAIN;UMBRELLA ON GROUND;FOUNTAIN;FLAG IN HOLE;FERRY;SAILBOAT;SQUARE FOUR CORNERS;SKIER"⟩,
   ⟨0x26f8, "", "ICE SKATE;PERSON WITH BALL;TENT;JAPANESE BANK SYMBOL;HEADSTONE GRAVEYARD SYMBOL"⟩,
   ⟨0x26fd, "", "FUEL PUMP;CUP ON BLACK SQUARE;WHITE FLAG WITH HORIZONTAL MIDDLE BLACK STRIPE"⟩]

/-- The names in the block Dingbats. -/
def dingbats : List NameRun :=
  [⟨0x2700, "", "BLACK SAFETY SCISSORS;UPPER BLADE SCISSORS"⟩,
   ⟨0x2702, "", "BLACK SCISSORS;LOWER BLADE SCISSORS;WHITE SCISSORS;WHITE HEAVY CHECK MARK"⟩,
   ⟨0x2706, "", "TELEPHONE LOCATION SIGN;TAPE DRIVE;AIRPLANE;ENVELOPE;RAISED FIST;RAISED HAND"⟩,
   ⟨0x270c, "", "VICTORY HAND;WRITING HAND;LOWER RIGHT PENCIL;PENCIL;UPPER RIGHT PENCIL;WHITE NIB"⟩,
   ⟨0x2712, "", "BLACK NIB;CHECK MARK;HEAVY CHECK MARK;MULTIPLICATION X;HEAVY MULTIPLICATION X"⟩,
   ⟨0x2717, "", "BALLOT X;HEAVY BALLOT X;OUTLINED GREEK CROSS;HEAVY GREEK CROSS"⟩,
   ⟨0x271b, "", "OPEN CENTRE CROSS;HEAVY OPEN CENTRE CROSS;LATIN CROSS;SHADOWED WHITE LATIN CROSS"⟩,
   ⟨0x271f, "", "OUTLINED LATIN CROSS;MALTESE CROSS;STAR OF DAVID;FOUR TEARDROP-SPOKED ASTERISK"⟩,
   ⟨0x2723, "", "FOUR BALLOON-SPOKED ASTERISK;HEAVY FOUR BALLOON-SPOKED ASTERISK"⟩,
   ⟨0x2725, "", "FOUR CLUB-SPOKED ASTERISK;BLACK FOUR POINTED STAR;WHITE FOUR POINTED STAR"⟩,
   ⟨0x2728, "", "SPARKLES;STRESS OUTLINED WHITE STAR;CIRCLED WHITE STAR;OPEN CENTRE BLACK STAR"⟩,
   ⟨0x272c, "", "BLACK CENTRE WHITE STAR;OUTLINED BLACK STAR;HEAVY OUTLINED BLACK STAR"⟩,
   ⟨0x272f, "",
     "PINWHEEL STAR;SHADOWED WHITE STAR;HEAVY ASTERISK;OPEN CENTRE ASTERISK;EIGHT SPOKED ASTERISK"⟩,
   ⟨0x2734, "", "EIGHT POINTED BLACK STAR;EIGHT POINTED PINWHEEL STAR;SIX POINTED BLACK STAR"⟩,
   ⟨0x2737, "", "EIGHT POINTED RECTILINEAR BLACK STAR;HEAVY EIGHT POINTED RECTILINEAR BLACK STAR"⟩,
   ⟨0x2739, "", "TWELVE POINTED BLACK STAR;SIXTEEN POINTED ASTERISK"⟩,
   ⟨0x273b, "", "TEARDROP-SPOKED ASTERISK;OPEN CENTRE TEARDROP-SPOKED ASTERISK"⟩,
   ⟨0x273d, "", "HEAVY TEARDROP-SPOKED ASTERISK;SIX PETALLED BLACK AND WHITE FLORETTE"⟩,
   ⟨0x273f, "", "BLACK FLORETTE;WHITE FLORETTE;EIGHT PETALLED OUTLINED BLACK FLORETTE"⟩,
   ⟨0x2742, "", "CIRCLED OPEN CENTRE EIGHT POINTED STAR;HEAVY TEARDROP-SPOKED PINWHEEL ASTERISK"⟩,
   ⟨0x2744, "", "SNOWFLAKE;TIGHT TRIFOLIATE SNOWFLAKE;HEAVY CHEVRON SNOWFLAKE;SPARKLE"⟩,
   ⟨0x2748, "", "HEAVY SPARKLE;BALLOON-SPOKED ASTERISK;EIGHT TEARDROP-SPOKED PROPELLER ASTERISK"⟩,
   ⟨0x274b, "", "HEAVY EIGHT TEARDROP-SPOKED PROPELLER ASTERISK;CROSS MARK;SHADOWED WHITE CIRCLE"⟩,
   ⟨0x274e, "", "NEGATIVE SQUARED CROSS MARK;LOWER RIGHT DROP-SHADOWED WHITE SQUARE"⟩,
   ⟨0x2750, "", "UPPER RIGHT DROP-SHADOWED WHITE SQUARE;LOWER RIGHT SHADOWED WHITE SQUARE"⟩,
   ⟨0x2752, "", "UPPER RIGHT SHADOWED WHITE SQUARE;BLACK QUESTION MARK ORNAMENT"⟩,
   ⟨0x2754, "WHITE ", "QUESTION MARK ORNAMENT;EXCLAMATION MARK ORNAMENT"⟩,
   ⟨0x2756, "", "BLACK DIAMOND MINUS WHITE X;HEAVY EXCLAMATION MARK SYMBOL"⟩,
   ⟨0x2758, "", "LIGHT VERTICAL BAR;MEDIUM VERTICAL BAR;HEAVY VERTICAL BAR"⟩,
   ⟨0x275b, "HEAVY SINGLE ", "TURNED COMMA QUOTATION MARK ORNAMENT;COMMA QUOTATION MARK ORNAMENT"⟩,
   ⟨0x275d, "HEAVY DOUBLE ", "TURNED COMMA QUOTATION MARK ORNAMENT;COMMA QUOTATION MARK ORNAMENT"⟩,
   ⟨0x275f, "HEAVY LOW ",
     "SINGLE COMMA QUOTATION MARK ORNAMENT;DOUBLE COMMA QUOTATION MARK ORNAMENT"⟩,
   ⟨0x2761, "", "CURVED STEM PARAGRAPH SIGN ORNAMENT;HEAVY EXCLAMATION MARK ORNAMENT"⟩,
   ⟨0x2763, "HEAVY ", "HEART EXCLAMATION MARK ORNAMENT;BLACK HEART"⟩,
   ⟨0x2765, "", "ROTATED HEAVY BLACK HEART BULLET;FLORAL HEART;ROTATED FLORAL HEART BULLET"⟩,
   ⟨0x2768, "MEDIUM ", "LEFT PARENTHESIS ORNAMENT;RIGHT PARENTHESIS ORNAMENT"⟩,
   ⟨0x276a, "MEDIUM FLATTENED ", "LEFT PARENTHESIS ORNAMENT;RIGHT PARENTHESIS ORNAMENT"⟩,
   ⟨0x276c, "MEDIUM ",
     "LEFT-POINTING ANGLE BRACKET ORNAMENT;RIGHT-POINTING ANGLE BRACKET ORNAMENT"⟩,
   ⟨0x276e, "HEAVY ",
     "LEFT-POINTING ANGLE QUOTATION MARK ORNAMENT;RIGHT-POINTING ANGLE QUOTATION MARK ORNAMENT"⟩,
   ⟨0x2770, "HEAVY ", "LEFT-POINTING ANGLE BRACKET ORNAMENT;RIGHT-POINTING ANGLE BRACKET ORNAMENT"⟩,
   ⟨0x2772, "LIGHT ", "LEFT TORTOISE SHELL BRACKET ORNAMENT;RIGHT TORTOISE SHELL BRACKET ORNAMENT"⟩,
   ⟨0x2774, "MEDIUM ", "LEFT CURLY BRACKET ORNAMENT;RIGHT CURLY BRACKET ORNAMENT"⟩,
   ⟨0x2776, "DINGBAT NEGATIVE CIRCLED DIGIT ", "ONE;TWO;THREE;FOUR;FIVE;SIX;SEVEN;EIGHT;NINE"⟩,
   ⟨0x277f, "DINGBAT ", "NEGATIVE CIRCLED NUMBER TEN;CIRCLED SANS-SERIF DIGIT ONE"⟩,
   ⟨0x2781, "DINGBAT CIRCLED SANS-SERIF DIGIT ", "TWO;THREE;FOUR;FIVE;SIX;SEVEN;EIGHT;NINE"⟩,
   ⟨0x2789, "DINGBAT ", "CIRCLED SANS-SERIF NUMBER TEN;NEGATIVE CIRCLED SANS-SERIF DIGIT ONE"⟩,
   ⟨0x278b, "DINGBAT NEGATIVE CIRCLED SANS-SERIF DIGIT ", "TWO;THREE;FOUR;FIVE;SIX;SEVEN"⟩,
   ⟨0x2791, "DINGBAT NEGATIVE CIRCLED SANS-SERIF ", "DIGIT EIGHT;DIGIT NINE;NUMBER TEN"⟩,
   ⟨0x2794, "HEAVY ",
     "WIDE-HEADED RIGHTWARDS ARROW;PLUS SIGN;MINUS SIGN;DIVISION SIGN;SOUTH EAST ARROW"⟩,
   ⟨0x2799, "", "HEAVY RIGHTWARDS ARROW;HEAVY NORTH EAST ARROW;DRAFTING POINT RIGHTWARDS ARROW"⟩,
   ⟨0x279c, "", "HEAVY ROUND-TIPPED RIGHTWARDS ARROW;TRIANGLE-HEADED RIGHTWARDS ARROW"⟩,
   ⟨0x279e, "", "HEAVY TRIANGLE-HEADED RIGHTWARDS ARROW;DASHED TRIANGLE-HEADED RIGHTWARDS ARROW"⟩,
   ⟨0x27a0, "", "HEAVY DASHED TRIANGLE-HEADED RIGHTWARDS ARROW;BLACK RIGHTWARDS ARROW"⟩,
   ⟨0x27a2, "THREE-D ", "TOP-LIGHTED RIGHTWARDS ARROWHEAD;BOTTOM-LIGHTED RIGHTWARDS ARROWHEAD"⟩,
   ⟨0x27a4, "", "BLACK RIGHTWARDS ARROWHEAD;HEAVY BLACK CURVED DOWNWARDS AND RIGHTWARDS ARROW"⟩,
   ⟨0x27a6, "", "HEAVY BLACK CURVED UPWARDS AND RIGHTWARDS ARROW;SQUAT BLACK RIGHTWARDS ARROW"⟩,
   ⟨0x27a8, "", "HEAVY CONCAVE-POINTED BLACK RIGHTWARDS ARROW;RIGHT-SHADED WHITE RIGHTWARDS ARROW"⟩,
   ⟨0x27aa, "", "LEFT-SHADED WHITE RIGHTWARDS ARROW;BACK-TILTED SHADOWED WHITE RIGHTWARDS ARROW"⟩,
   ⟨0x27ac, "FRONT-TILTED SHADOWED WHITE RIGHTWARDS ARROW", ""⟩,
   ⟨0x27ad, "HEAVY ",
     "LOWER RIGHT-SHADOWED WHITE RIGHTWARDS ARROW;UPPER RIGHT-SHADOWED WHITE RIGHTWARDS ARROW"⟩,
   ⟨0x27af, "NOTCHED LOWER RIGHT-SHADOWED WHITE RIGHTWARDS ARROW", ""⟩,
   ⟨0x27b0, "", "CURLY LOOP;NOTCHED UPPER RIGHT-SHADOWED WHITE RIGHTWARDS ARROW"⟩,
   ⟨0x27b2, "", "CIRCLED HEAVY WHITE RIGHTWARDS ARROW;WHITE-FEATHERED RIGHTWARDS ARROW"⟩,
   ⟨0x27b4, "BLACK-FEATHERED ", "SOUTH EAST ARROW;RIGHTWARDS ARROW;NORTH EAST ARROW"⟩,
   ⟨0x27b7, "HEAVY BLACK-FEATHERED ", "SOUTH EAST ARROW;RIGHTWARDS ARROW;NORTH EAST ARROW"⟩,
   ⟨0x27ba, "", "TEARDROP-BARBED RIGHTWARDS ARROW;HEAVY TEARDROP-SHANKED RIGHTWARDS ARROW"⟩,
   ⟨0x27bc, "", "WEDGE-TAILED RIGHTWARDS ARROW;HEAVY WEDGE-TAILED RIGHTWARDS ARROW"⟩,
   ⟨0x27be, "", "OPEN-OUTLINED RIGHTWARDS ARROW;DOUBLE CURLY LOOP"⟩]

/-- The names in the block Miscellaneous Mathematical Symbols-A. -/
def miscellaneousMathematicalSymbolsA : List NameRun :=
  [⟨0x27c0, "", "THREE DIMENSIONAL ANGLE;WHITE TRIANGLE CONTAINING SMALL WHITE TRIANGLE"⟩,
   ⟨0x27c2, "", "PERPENDICULAR;OPEN SUBSET"⟩,
   ⟨0x27c4, "", "OPEN SUPERSET;LEFT S-SHAPED BAG DELIMITER;RIGHT S-SHAPED BAG DELIMITER"⟩,
   ⟨0x27c7, "", "OR WITH DOT INSIDE;REVERSE SOLIDUS PRECEDING SUBSET;SUPERSET PRECEDING SOLIDUS"⟩,
   ⟨0x27ca, "", "VERTICAL BAR WITH HORIZONTAL STROKE;MATHEMATICAL RISING DIAGONAL;LONG DIVISION"⟩,
   ⟨0x27cd, "", "MATHEMATICAL FALLING DIAGONAL;SQUARED LOGICAL AND;SQUARED LOGICAL OR"⟩,
   ⟨0x27d0, "", "WHITE DIAMOND WITH CENTRED DOT;AND WITH DOT;ELEMENT OF OPENING UPWARDS"⟩,
   ⟨0x27d3, "", "LOWER RIGHT CORNER WITH DOT;UPPER LEFT CORNER WITH DOT"⟩,
   ⟨0x27d5, "", "LEFT OUTER JOIN;RIGHT OUTER JOIN;FULL OUTER JOIN;LARGE UP TACK;LARGE DOWN TACK"⟩,
   ⟨0x27da, "L", "EFT AND RIGHT DOUBLE TURNSTILE;EFT AND RIGHT TACK;EFT MULTIMAP;ONG RIGHT TACK"⟩,
   ⟨0x27de, "", "LONG LEFT TACK;UP TACK WITH CIRCLE ABOVE;LOZENGE DIVIDED BY HORIZONTAL RULE"⟩,
   ⟨0x27e1, "WHITE CONCAVE-SIDED DIAMOND", "; WITH LEFTWARDS TICK; WITH RIGHTWARDS TICK"⟩,
   ⟨0x27e4, "WHITE SQUARE WITH ", "LEFTWARDS TICK;RIGHTWARDS TICK"⟩,
   ⟨0x27e6, "MATHEMATICAL ", "LEFT WHITE SQUARE BRACKET;RIGHT WHITE SQUARE BRACKET"⟩,
   ⟨0x27e8, "MATHEMATICAL ", "LEFT ANGLE BRACKET;RIGHT ANGLE BRACKET;LEFT DOUBLE ANGLE BRACKET"⟩,
   ⟨0x27eb, "MATHEMATICAL ", "RIGHT DOUBLE ANGLE BRACKET;LEFT WHITE TORTOISE SHELL BRACKET"⟩,
   ⟨0x27ed, "MATHEMATICAL ",
     "RIGHT WHITE TORTOISE SHELL BRACKET;LEFT FLATTENED PARENTHESIS;RIGHT FLATTENED PARENTHESIS"⟩]

/-- The names in the block Supplemental Arrows-A. -/
def supplementalArrowsA : List NameRun :=
  [⟨0x27f0, "", "UPWARDS QUADRUPLE ARROW;DOWNWARDS QUADRUPLE ARROW"⟩,
   ⟨0x27f2, "", "ANTICLOCKWISE GAPPED CIRCLE ARROW;CLOCKWISE GAPPED CIRCLE ARROW"⟩,
   ⟨0x27f4, "", "RIGHT ARROW WITH CIRCLED PLUS;LONG LEFTWARDS ARROW;LONG RIGHTWARDS ARROW"⟩,
   ⟨0x27f7, "LONG ", "LEFT RIGHT ARROW;LEFTWARDS DOUBLE ARROW;RIGHTWARDS DOUBLE ARROW"⟩,
   ⟨0x27fa, "LONG ", "LEFT RIGHT DOUBLE ARROW;LEFTWARDS ARROW FROM BAR;RIGHTWARDS ARROW FROM BAR"⟩,
   ⟨0x27fd, "LONG ",
     "LEFTWARDS DOUBLE ARROW FROM BAR;RIGHTWARDS DOUBLE ARROW FROM BAR;RIGHTWARDS SQUIGGLE ARROW"⟩]

/-- The names in the block Braille Patterns. -/
def braillePatterns : List NameRun :=
  [⟨0x2800, "BRAILLE PATTERN ", "BLANK;DOTS-1;DOTS-2;DOTS-12;DOTS-3;DOTS-13;DOTS-23"⟩,
   ⟨0x2807, "BRAILLE PATTERN DOTS-", "123;4;14;24;124;34;134;234;1234;5;15;25;125;35;135;235;1235"⟩,
   ⟨0x2818, "BRAILLE PATTERN DOTS-", "45;145;245;1245;345;1345;2345;12345;6;16;26;126;36;136;236"⟩,
   ⟨0x2827, "BRAILLE PATTERN DOTS-", "1236;46;146;246;1246;346;1346;2346;12346;56;156;256;1256"⟩,
   ⟨0x2834, "BRAILLE PATTERN DOTS-", "356;1356;2356;12356;456;1456;2456;12456;3456;13456;23456"⟩,
   ⟨0x283f, "BRAILLE PATTERN DOTS-", "123456;7;17;27;127;37;137;237;1237;47;147;247;1247;347;1347"⟩,
   ⟨0x284e, "BRAILLE PATTERN DOTS-", "2347;12347;57;157;257;1257;357;1357;2357;12357;457;1457"⟩,
   ⟨0x285a, "BRAILLE PATTERN DOTS-", "2457;12457;3457;13457;23457;123457;67;167;267;1267;367;1367"⟩,
   ⟨0x2866, "BRAILLE PATTERN DOTS-", "2367;12367;467;1467;2467;12467;3467;13467;23467;123467;567"⟩,
   ⟨0x2871, "BRAILLE PATTERN DOTS-", "1567;2567;12567;3567;13567;23567;123567;4567;14567;24567"⟩,
   ⟨0x287b, "BRAILLE PATTERN DOTS-", "124567;34567;134567;234567;1234567;8;18;28;128;38;138;238"⟩,
   ⟨0x2887, "BRAILLE PATTERN DOTS-",
     "1238;48;148;248;1248;348;1348;2348;12348;58;158;258;1258;358;1358;2358;12358;458;1458;2458"⟩,
   ⟨0x289b, "BRAILLE PATTERN DOTS-", "12458;3458;13458;23458;123458;68;168;268;1268;368;1368;2368"⟩,
   ⟨0x28a7, "BRAILLE PATTERN DOTS-", "12368;468;1468;2468;12468;3468;13468;23468;123468;568;1568"⟩,
   ⟨0x28b2, "BRAILLE PATTERN DOTS-", "2568;12568;3568;13568;23568;123568;4568;14568;24568;124568"⟩,
   ⟨0x28bc, "BRAILLE PATTERN DOTS-", "34568;134568;234568;1234568;78;178;278;1278;378;1378;2378"⟩,
   ⟨0x28c7, "BRAILLE PATTERN DOTS-", "12378;478;1478;2478;12478;3478;13478;23478;123478;578;1578"⟩,
   ⟨0x28d2, "BRAILLE PATTERN DOTS-", "2578;12578;3578;13578;23578;123578;4578;14578;24578;124578"⟩,
   ⟨0x28dc, "BRAILLE PATTERN DOTS-", "34578;134578;234578;1234578;678;1678;2678;12678;3678;13678"⟩,
   ⟨0x28e6, "BRAILLE PATTERN DOTS-", "23678;123678;4678;14678;24678;124678;34678;134678;234678"⟩,
   ⟨0x28ef, "BRAILLE PATTERN DOTS-", "1234678;5678;15678;25678;125678;35678;135678;235678;1235678"⟩,
   ⟨0x28f8, "BRAILLE PATTERN DOTS-", "45678;145678;245678;1245678;345678;1345678;2345678;12345678"⟩]

/-- The names in the block Supplemental Arrows-B. -/
def supplementalArrowsB : List NameRun :=
  [⟨0x2900, "RIGHTWARDS TWO-HEADED ARROW WITH ", "VERTICAL STROKE;DOUBLE VERTICAL STROKE"⟩,
   ⟨0x2902, "",
     "LEFTWARDS DOUBLE ARROW WITH VERTICAL STROKE;RIGHTWARDS DOUBLE ARROW WITH VERTICAL STROKE"⟩,
   ⟨0x2904, "",
     "LEFT RIGHT DOUBLE ARROW WITH VERTICAL STROKE;RIGHTWARDS TWO-HEADED ARROW FROM BAR"⟩,
   ⟨0x2906, "", "LEFTWARDS DOUBLE ARROW FROM BAR;RIGHTWARDS DOUBLE ARROW FROM BAR"⟩,
   ⟨0x2908, "", "DOWNWARDS ARROW WITH HORIZONTAL STROKE;UPWARDS ARROW WITH HORIZONTAL STROKE"⟩,
   ⟨0x290a, "", "UPWARDS TRIPLE ARROW;DOWNWARDS TRIPLE ARROW;LEFTWARDS DOUBLE DASH ARROW"⟩,
   ⟨0x290d, "", "RIGHTWARDS DOUBLE DASH ARROW;LEFTWARDS TRIPLE DASH ARROW"⟩,
   ⟨0x290f, "RIGHTWARDS ", "TRIPLE DASH ARROW;TWO-HEADED TRIPLE DASH ARROW;ARROW WITH DOTTED STEM"⟩,
   ⟨0x2912, "", "UPWARDS ARROW TO BAR;DOWNWARDS ARROW TO BAR"⟩,
   ⟨0x2914, "RIGHTWARDS ARROW WITH TAIL WITH ", "VERTICAL STROKE;DOUBLE VERTICAL STROKE"⟩,
   ⟨0x2916, "RIGHTWARDS TWO-HEADED ARROW WITH TAIL",
     "; WITH VERTICAL STROKE; WITH DOUBLE VERTICAL STROKE"⟩,
   ⟨0x2919, "", "LEFTWARDS ARROW-TAIL;RIGHTWARDS ARROW-TAIL;LEFTWARDS DOUBLE ARROW-TAIL"⟩,
   ⟨0x291c, "", "RIGHTWARDS DOUBLE ARROW-TAIL;LEFTWARDS ARROW TO BLACK DIAMOND"⟩,
   ⟨0x291e, "", "RIGHTWARDS ARROW TO BLACK DIAMOND;LEFTWARDS ARROW FROM BAR TO BLACK DIAMOND"⟩,
   ⟨0x2920, "", "RIGHTWARDS ARROW FROM BAR TO BLACK DIAMOND;NORTH WEST AND SOUTH EAST ARROW"⟩,
   ⟨0x2922, "NORTH ", "EAST AND SOUTH WEST ARROW;WEST ARROW WITH HOOK;EAST ARROW WITH HOOK"⟩,
   ⟨0x2925, "",
     "SOUTH EAST ARROW WITH HOOK;SOUTH WEST ARROW WITH HOOK;NORTH WEST ARROW AND NORTH EAST ARROW"⟩,
   ⟨0x2928, "", "NORTH EAST ARROW AND SOUTH EAST ARROW;SOUTH EAST ARROW AND SOUTH WEST ARROW"⟩,
   ⟨0x292a, "", "SOUTH WEST ARROW AND NORTH WEST ARROW;RISING DIAGONAL CROSSING FALLING DIAGONAL"⟩,
   ⟨0x292c, "",
     "FALLING DIAGONAL CROSSING RISING DIAGONAL;SOUTH EAST ARROW CROSSING NORTH EAST ARROW"⟩,
   ⟨0x292e, "",
     "NORTH EAST ARROW CROSSING SOUTH EAST ARROW;FALLING DIAGONAL CROSSING NORTH EAST ARROW"⟩,
   ⟨0x2930, "",
     "RISING DIAGONAL CROSSING SOUTH EAST ARROW;NORTH EAST ARROW CROSSING NORTH WEST ARROW"⟩,
   ⟨0x2932, "", "NORTH WEST ARROW CROSSING NORTH EAST ARROW;WAVE ARROW POINTING DIRECTLY RIGHT"⟩,
   ⟨0x2934, "ARROW POINTING RIGHTWARDS THEN CURVING ", "UPWARDS;DOWNWARDS"⟩,
   ⟨0x2936, "ARROW POINTING DOWNWARDS THEN CURVING ", "LEFTWARDS;RIGHTWARDS"⟩,
   ⟨0x2938, "", "RIGHT-SIDE ARC CLOCKWISE ARROW;LEFT-SIDE ARC ANTICLOCKWISE ARROW"⟩,
   ⟨0x293a, "", "TOP ARC ANTICLOCKWISE ARROW;BOTTOM ARC ANTICLOCKWISE ARROW"⟩,
   ⟨0x293c, "TOP ARC ", "CLOCKWISE ARROW WITH MINUS;ANTICLOCKWISE ARROW WITH PLUS"⟩,
   ⟨0x293e, "LOWER ", "RIGHT SEMICIRCULAR CLOCKWISE ARROW;LEFT SEMICIRCULAR ANTICLOCKWISE ARROW"⟩,
   ⟨0x2940, "", "ANTICLOCKWISE CLOSED CIRCLE ARROW;CLOCKWISE CLOSED CIRCLE ARROW"⟩,
   ⟨0x2942, "",
     "RIGHTWARDS ARROW ABOVE SHORT LEFTWARDS ARROW;LEFTWARDS ARROW ABOVE SHORT RIGHTWARDS ARROW"⟩,
   ⟨0x2944, "", "SHORT RIGHTWARDS ARROW ABOVE LEFTWARDS ARROW;RIGHTWARDS ARROW WITH PLUS BELOW"⟩,
   ⟨0x2946, "", "LEFTWARDS ARROW WITH PLUS BELOW;RIGHTWARDS ARROW THROUGH X"⟩,
   ⟨0x2948, "", "LEFT RIGHT ARROW THROUGH SMALL CIRCLE;UPWARDS TWO-HEADED ARROW FROM SMALL CIRCLE"⟩,
   ⟨0x294a, "LEFT BARB ", "UP RIGHT BARB DOWN HARPOON;DOWN RIGHT BARB UP HARPOON"⟩,
   ⟨0x294c, "UP BARB ", "RIGHT DOWN BARB LEFT HARPOON;LEFT DOWN BARB RIGHT HARPOON"⟩,
   ⟨0x294e, "", "LEFT BARB UP RIGHT BARB UP HARPOON;UP BARB RIGHT DOWN BARB RIGHT HARPOON"⟩,
   ⟨0x2950, "", "LEFT BARB DOWN RIGHT BARB DOWN HARPOON;UP BARB LEFT DOWN BARB LEFT HARPOON"⟩,
   ⟨0x2952, "", "LEFTWARDS HARPOON WITH BARB UP TO BAR;RIGHTWARDS HARPOON WITH BARB UP TO BAR"⟩,
   ⟨0x2954, "", "UPWARDS HARPOON WITH BARB RIGHT TO BAR;DOWNWARDS HARPOON WITH BARB RIGHT TO BAR"⟩,
   ⟨0x2956, "", "LEFTWARDS HARPOON WITH BARB DOWN TO BAR;RIGHTWARDS HARPOON WITH BARB DOWN TO BAR"⟩,
   ⟨0x2958, "", "UPWARDS HARPOON WITH BARB LEFT TO BAR;DOWNWARDS HARPOON WITH BARB LEFT TO BAR"⟩,
   ⟨0x295a, "", "LEFTWARDS HARPOON WITH BARB UP FROM BAR;RIGHTWARDS HARPOON WITH BARB UP FROM BAR"⟩,
   ⟨0x295c, "",
     "UPWARDS HARPOON WITH BARB RIGHT FROM BAR;DOWNWARDS HARPOON WITH BARB RIGHT FROM BAR"⟩,
   ⟨0x295e, "",
     "LEFTWARDS HARPOON WITH BARB DOWN FROM BAR;RIGHTWARDS HARPOON WITH BARB DOWN FROM BAR"⟩,
   ⟨0x2960, "",
     "UPWARDS HARPOON WITH BARB LEFT FROM BAR;DOWNWARDS HARPOON WITH BARB LEFT FROM BAR"⟩,
   ⟨0x2962, "LEFTWARDS HARPOON WITH BARB UP ABOVE LEFTWARDS HARPOON WITH BARB DOWN", ""⟩,
   ⟨0x2963, "UPWARDS HARPOON WITH BARB LEFT BESIDE UPWARDS HARPOON WITH BARB RIGHT", ""⟩,
   ⟨0x2964, "RIGHTWARDS HARPOON WITH BARB UP ABOVE RIGHTWARDS HARPOON WITH BARB DOWN", ""⟩,
   ⟨0x2965, "DOWNWARDS HARPOON WITH BARB LEFT BESIDE DOWNWARDS HARPOON WITH BARB RIGHT", ""⟩,
   ⟨0x2966, "LEFTWARDS HARPOON WITH BARB ",
     "UP ABOVE RIGHTWARDS HARPOON WITH BARB UP;DOWN ABOVE RIGHTWARDS HARPOON WITH BARB DOWN"⟩,
   ⟨0x2968, "RIGHTWARDS HARPOON WITH BARB ",
     "UP ABOVE LEFTWARDS HARPOON WITH BARB UP;DOWN ABOVE LEFTWARDS HARPOON WITH BARB DOWN"⟩,
   ⟨0x296a, "LEFTWARDS HARPOON WITH BARB ", "UP ABOVE LONG DASH;DOWN BELOW LONG DASH"⟩,
   ⟨0x296c, "RIGHTWARDS HARPOON WITH BARB ", "UP ABOVE LONG DASH;DOWN BELOW LONG DASH"⟩,
   ⟨0x296e, "UPWARDS HARPOON WITH BARB LEFT BESIDE DOWNWARDS HARPOON WITH BARB RIGHT", ""⟩,
   ⟨0x296f, "DOWNWARDS HARPOON WITH BARB LEFT BESIDE UPWARDS HARPOON WITH BARB RIGHT", ""⟩,
   ⟨0x2970, "", "RIGHT DOUBLE ARROW WITH ROUNDED HEAD;EQUALS SIGN ABOVE RIGHTWARDS ARROW"⟩,
   ⟨0x2972, "", "TILDE OPERATOR ABOVE RIGHTWARDS ARROW;LEFTWARDS ARROW ABOVE TILDE OPERATOR"⟩,
   ⟨0x2974, "RIGHTWARDS ARROW ABOVE ", "TILDE OPERATOR;ALMOST EQUAL TO"⟩,
   ⟨0x2976, "LE", "SS-THAN ABOVE LEFTWARDS ARROW;FTWARDS ARROW THROUGH LESS-THAN"⟩,
   ⟨0x2978, "", "GREATER-THAN ABOVE RIGHTWARDS ARROW;SUBSET ABOVE RIGHTWARDS ARROW"⟩,
   ⟨0x297a, "", "LEFTWARDS ARROW THROUGH SUBSET;SUPERSET ABOVE LEFTWARDS ARROW"⟩,
   ⟨0x297c, "", "LEFT FISH TAIL;RIGHT FISH TAIL;UP FISH TAIL;DOWN FISH TAIL"⟩]

/-- The names in the block Miscellaneous Mathematical Symbols-B. -/
def miscellaneousMathematicalSymbolsB : List NameRun :=
  [⟨0x2980, "", "TRIPLE VERTICAL BAR DELIMITER;Z NOTATION SPOT"⟩,
   ⟨0x2982, "", "Z NOTATION TYPE COLON;LEFT WHITE CURLY BRACKET;RIGHT WHITE CURLY BRACKET"⟩,
   ⟨0x2985, "", "LEFT WHITE PARENTHESIS;RIGHT WHITE PARENTHESIS;Z NOTATION LEFT IMAGE BRACKET"⟩,
   ⟨0x2988, "Z NOTATION ", "RIGHT IMAGE BRACKET;LEFT BINDING BRACKET;RIGHT BINDING BRACKET"⟩,
   ⟨0x298b, "", "LEFT SQUARE BRACKET WITH UNDERBAR;RIGHT SQUARE BRACKET WITH UNDERBAR"⟩,
   ⟨0x298d, "",
     "LEFT SQUARE BRACKET WITH TICK IN TOP CORNER;RIGHT SQUARE BRACKET WITH TICK IN BOTTOM CORNER"⟩,
   ⟨0x298f, "",
     "LEFT SQUARE BRACKET WITH TICK IN BOTTOM CORNER;RIGHT SQUARE BRACKET WITH TICK IN TOP CORNER"⟩,
   ⟨0x2991, "", "LEFT ANGLE BRACKET WITH DOT;RIGHT ANGLE BRACKET WITH DOT"⟩,
   ⟨0x2993, "", "LEFT ARC LESS-THAN BRACKET;RIGHT ARC GREATER-THAN BRACKET"⟩,
   ⟨0x2995, "DOUBLE ", "LEFT ARC GREATER-THAN BRACKET;RIGHT ARC LESS-THAN BRACKET"⟩,
   ⟨0x2997, "", "LEFT BLACK TORTOISE SHELL BRACKET;RIGHT BLACK TORTOISE SHELL BRACKET"⟩,
   ⟨0x2999, "", "DOTTED FENCE;VERTICAL ZIGZAG LINE;MEASURED ANGLE OPENING LEFT"⟩,
   ⟨0x299c, "", "RIGHT ANGLE VARIANT WITH SQUARE;MEASURED RIGHT ANGLE WITH DOT"⟩,
   ⟨0x299e, "", "ANGLE WITH S INSIDE;ACUTE ANGLE;SPHERICAL ANGLE OPENING LEFT"⟩,
   ⟨0x29a1, "", "SPHERICAL ANGLE OPENING UP;TURNED ANGLE;REVERSED ANGLE;ANGLE WITH UNDERBAR"⟩,
   ⟨0x29a5, "", "REVERSED ANGLE WITH UNDERBAR;OBLIQUE ANGLE OPENING UP;OBLIQUE ANGLE OPENING DOWN"⟩,
   ⟨0x29a8, "MEASURED ANGLE WITH OPEN ARM ENDING IN ARROW POINTING UP AND ", "RIGHT;LEFT"⟩,
   ⟨0x29aa, "MEASURED ANGLE WITH OPEN ARM ENDING IN ARROW POINTING ",
     "DOWN AND RIGHT;DOWN AND LEFT;RIGHT AND UP;LEFT AND UP;RIGHT AND DOWN;LEFT AND DOWN"⟩,
   ⟨0x29b0, "", "REVERSED EMPTY SET;EMPTY SET WITH OVERBAR;EMPTY SET WITH SMALL CIRCLE ABOVE"⟩,
   ⟨0x29b3, "",
     "EMPTY SET WITH RIGHT ARROW ABOVE;EMPTY SET WITH LEFT ARROW ABOVE;CIRCLE WITH HORIZONTAL BAR"⟩,
   ⟨0x29b6, "CIRCLED ", "VERTICAL BAR;PARALLEL;REVERSE SOLIDUS;PERPENDICULAR"⟩,
   ⟨0x29ba, "CIRCLE ",
     "DIVIDED BY HORIZONTAL BAR AND TOP HALF DIVIDED BY VERTICAL BAR;WITH SUPERIMPOSED X"⟩,
   ⟨0x29bc, "", "CIRCLED ANTICLOCKWISE-ROTATED DIVISION SIGN;UP ARROW THROUGH CIRCLE"⟩,
   ⟨0x29be, "CIRCLED ", "WHITE BULLET;BULLET;LESS-THAN;GREATER-THAN"⟩,
   ⟨0x29c2, "CIRCLE WITH ", "SMALL CIRCLE TO THE RIGHT;TWO HORIZONTAL STROKES TO THE RIGHT"⟩,
   ⟨0x29c4, "SQUARED ", "RISING DIAGONAL SLASH;FALLING DIAGONAL SLASH;ASTERISK"⟩,
   ⟨0x29c7, "", "SQUARED SMALL CIRCLE;SQUARED SQUARE;TWO JOINED SQUARES;TRIANGLE WITH DOT ABOVE"⟩,
   ⟨0x29cb, "", "TRIANGLE WITH UNDERBAR;S IN TRIANGLE;TRIANGLE WITH SERIFS AT BOTTOM"⟩,
   ⟨0x29ce, "", "RIGHT TRIANGLE ABOVE LEFT TRIANGLE;LEFT TRIANGLE BESIDE VERTICAL BAR"⟩,
   ⟨0x29d0, "", "VERTICAL BAR BESIDE RIGHT TRIANGLE;BOWTIE WITH LEFT HALF BLACK"⟩,
   ⟨0x29d2, "", "BOWTIE WITH RIGHT HALF BLACK;BLACK BOWTIE;TIMES WITH LEFT HALF BLACK"⟩,
   ⟨0x29d5, "", "TIMES WITH RIGHT HALF BLACK;WHITE HOURGLASS;BLACK HOURGLASS;LEFT WIGGLY FENCE"⟩,
   ⟨0x29d9, "", "RIGHT WIGGLY FENCE;LEFT DOUBLE WIGGLY FENCE;RIGHT DOUBLE WIGGLY FENCE"⟩,
   ⟨0x29dc, "", "INCOMPLETE INFINITY;TIE OVER INFINITY;INFINITY NEGATED WITH VERTICAL BAR"⟩,
   ⟨0x29df, "", "DOUBLE-ENDED MULTIMAP;SQUARE WITH CONTOURED OUTLINE;INCREASES AS;SHUFFLE PRODUCT"⟩,
   ⟨0x29e3, "EQUALS SIGN AND SLANTED PARALLEL", "; WITH TILDE ABOVE"⟩,
   ⟨0x29e5, "", "IDENTICAL TO AND SLANTED PARALLEL;GLEICH STARK"⟩,
   ⟨0x29e7, "", "THERMODYNAMIC;DOWN-POINTING TRIANGLE WITH LEFT HALF BLACK"⟩,
   ⟨0x29e9, "", "DOWN-POINTING TRIANGLE WITH RIGHT HALF BLACK;BLACK DIAMOND WITH DOWN ARROW"⟩,
   ⟨0x29eb, "", "BLACK LOZENGE;WHITE CIRCLE WITH DOWN ARROW;BLACK CIRCLE WITH DOWN ARROW"⟩,
   ⟨0x29ee, "ERROR-BARRED ", "WHITE SQUARE;BLACK SQUARE;WHITE DIAMOND;BLACK DIAMOND;WHITE CIRCLE"⟩,
   ⟨0x29f3, "", "ERROR-BARRED BLACK CIRCLE;RULE-DELAYED;REVERSE SOLIDUS OPERATOR"⟩,
   ⟨0x29f6, "", "SOLIDUS WITH OVERBAR;REVERSE SOLIDUS WITH HORIZONTAL STROKE"⟩,
   ⟨0x29f8, "", "BIG SOLIDUS;BIG REVERSE SOLIDUS;DOUBLE PLUS;TRIPLE PLUS"⟩,
   ⟨0x29fc, "", "LEFT-POINTING CURVED ANGLE BRACKET;RIGHT-POINTING CURVED ANGLE BRACKET;TINY;MINY"⟩]

/-- The names in the block Supplemental Mathematical Operators. -/
def supplementalMathematicalOperators : List NameRun :=
  [⟨0x2a00, "N-ARY ",
     "CIRCLED DOT OPERATOR;CIRCLED PLUS OPERATOR;CIRCLED TIMES OPERATOR;UNION OPERATOR WITH DOT"⟩,
   ⟨0x2a04, "N-ARY ", "UNION OPERATOR WITH PLUS;SQUARE INTERSECTION OPERATOR"⟩,
   ⟨0x2a06, "", "N-ARY SQUARE UNION OPERATOR;TWO LOGICAL AND OPERATOR;TWO LOGICAL OR OPERATOR"⟩,
   ⟨0x2a09, "", "N-ARY TIMES OPERATOR;MODULO TWO SUM;SUMMATION WITH INTEGRAL"⟩,
   ⟨0x2a0c, "", "QUADRUPLE INTEGRAL OPERATOR;FINITE PART INTEGRAL;INTEGRAL WITH DOUBLE STROKE"⟩,
   ⟨0x2a0f, "", "INTEGRAL AVERAGE WITH SLASH;CIRCULATION FUNCTION;ANTICLOCKWISE INTEGRATION"⟩,
   ⟨0x2a12, "LINE INTEGRATION ",
     "WITH RECTANGULAR PATH AROUND POLE;WITH SEMICIRCULAR PATH AROUND POLE;NOT INCLUDING THE POLE"⟩,
   ⟨0x2a15, "", "INTEGRAL AROUND A POINT OPERATOR;QUATERNION INTEGRAL OPERATOR"⟩,
   ⟨0x2a17, "INTEGRAL WITH ", "LEFTWARDS ARROW WITH HOOK;TIMES SIGN;INTERSECTION;UNION"⟩,
   ⟨0x2a1b, "", "INTEGRAL WITH OVERBAR;INTEGRAL WITH UNDERBAR;JOIN;LARGE LEFT TRIANGLE OPERATOR"⟩,
   ⟨0x2a1f, "Z NOTATION SCHEMA ", "COMPOSITION;PIPING;PROJECTION"⟩,
   ⟨0x2a22, "PLUS SIGN WITH ", "SMALL CIRCLE ABOVE;CIRCUMFLEX ACCENT ABOVE"⟩,
   ⟨0x2a24, "PLUS SIGN WITH ", "TILDE ABOVE;DOT BELOW;TILDE BELOW;SUBSCRIPT TWO;BLACK TRIANGLE"⟩,
   ⟨0x2a29, "MINUS SIGN WITH ", "COMMA ABOVE;DOT BELOW;FALLING DOTS;RISING DOTS"⟩,
   ⟨0x2a2d, "PLUS SIGN IN ", "LEFT HALF CIRCLE;RIGHT HALF CIRCLE"⟩,
   ⟨0x2a2f, "", "VECTOR OR CROSS PRODUCT;MULTIPLICATION SIGN WITH DOT ABOVE"⟩,
   ⟨0x2a31, "", "MULTIPLICATION SIGN WITH UNDERBAR;SEMIDIRECT PRODUCT WITH BOTTOM CLOSED"⟩,
   ⟨0x2a33, "", "SMASH PRODUCT;MULTIPLICATION SIGN IN LEFT HALF CIRCLE"⟩,
   ⟨0x2a35, "",
     "MULTIPLICATION SIGN IN RIGHT HALF CIRCLE;CIRCLED MULTIPLICATION SIGN WITH CIRCUMFLEX ACCENT"⟩,
   ⟨0x2a37, "", "MULTIPLICATION SIGN IN DOUBLE CIRCLE;CIRCLED DIVISION SIGN"⟩,
   ⟨0x2a39, "", "PLUS SIGN IN TRIANGLE;MINUS SIGN IN TRIANGLE;MULTIPLICATION SIGN IN TRIANGLE"⟩,
   ⟨0x2a3c, "", "INTERIOR PRODUCT;RIGHTHAND INTERIOR PRODUCT;Z NOTATION RELATIONAL COMPOSITION"⟩,
   ⟨0x2a3f, "", "AMALGAMATION OR COPRODUCT;INTERSECTION WITH DOT"⟩,
   ⟨0x2a41, "", "UNION WITH MINUS SIGN;UNION WITH OVERBAR;INTERSECTION WITH OVERBAR"⟩,
   ⟨0x2a44, "", "INTERSECTION WITH LOGICAL AND;UNION WITH LOGICAL OR;UNION ABOVE INTERSECTION"⟩,
   ⟨0x2a47, "", "INTERSECTION ABOVE UNION;UNION ABOVE BAR ABOVE INTERSECTION"⟩,
   ⟨0x2a49, "", "INTERSECTION ABOVE BAR ABOVE UNION;UNION BESIDE AND JOINED WITH UNION"⟩,
   ⟨0x2a4b, "", "INTERSECTION BESIDE AND JOINED WITH INTERSECTION;CLOSED UNION WITH SERIFS"⟩,
   ⟨0x2a4d, "", "CLOSED INTERSECTION WITH SERIFS;DOUBLE SQUARE INTERSECTION"⟩,
   ⟨0x2a4f, "", "DOUBLE SQUARE UNION;CLOSED UNION WITH SERIFS AND SMASH PRODUCT"⟩,
   ⟨0x2a51, "", "LOGICAL AND WITH DOT ABOVE;LOGICAL OR WITH DOT ABOVE;DOUBLE LOGICAL AND"⟩,
   ⟨0x2a54, "", "DOUBLE LOGICAL OR;TWO INTERSECTING LOGICAL AND;TWO INTERSECTING LOGICAL OR"⟩,
   ⟨0x2a57, "", "SLOPING LARGE OR;SLOPING LARGE AND;LOGICAL OR OVERLAPPING LOGICAL AND"⟩,
   ⟨0x2a5a, "LOGICAL ", "AND WITH MIDDLE STEM;OR WITH MIDDLE STEM;AND WITH HORIZONTAL DASH"⟩,
   ⟨0x2a5d, "LOGICAL ", "OR WITH HORIZONTAL DASH;AND WITH DOUBLE OVERBAR;AND WITH UNDERBAR"⟩,
   ⟨0x2a60, "",
     "LOGICAL AND WITH DOUBLE UNDERBAR;SMALL VEE WITH UNDERBAR;LOGICAL OR WITH DOUBLE OVERBAR"⟩,
   ⟨0x2a63, "", "LOGICAL OR WITH DOUBLE UNDERBAR;Z NOTATION DOMAIN ANTIRESTRICTION"⟩,
   ⟨0x2a65, "", "Z NOTATION RANGE ANTIRESTRICTION;EQUALS SIGN WITH DOT BELOW"⟩,
   ⟨0x2a67, "", "IDENTICAL WITH DOT ABOVE;TRIPLE HORIZONTAL BAR WITH DOUBLE VERTICAL STROKE"⟩,
   ⟨0x2a69, "T", "RIPLE HORIZONTAL BAR WITH TRIPLE VERTICAL STROKE;ILDE OPERATOR WITH DOT ABOVE"⟩,
   ⟨0x2a6b, "", "TILDE OPERATOR WITH RISING DOTS;SIMILAR MINUS SIMILAR;CONGRUENT WITH DOT ABOVE"⟩,
   ⟨0x2a6e, "", "EQUALS WITH ASTERISK;ALMOST EQUAL TO WITH CIRCUMFLEX ACCENT"⟩,
   ⟨0x2a70, "", "APPROXIMATELY EQUAL OR EQUAL TO;EQUALS SIGN ABOVE PLUS SIGN"⟩,
   ⟨0x2a72, "", "PLUS SIGN ABOVE EQUALS SIGN;EQUALS SIGN ABOVE TILDE OPERATOR"⟩,
   ⟨0x2a74, "", "DOUBLE COLON EQUAL;TWO CONSECUTIVE EQUALS SIGNS;THREE CONSECUTIVE EQUALS SIGNS"⟩,
   ⟨0x2a77, "EQU", "ALS SIGN WITH TWO DOTS ABOVE AND TWO DOTS BELOW;IVALENT WITH FOUR DOTS ABOVE"⟩,
   ⟨0x2a79, "LESS-THAN WITH CIRCLE INSIDE", ""⟩,
   ⟨0x2a7a, "", "GREATER-THAN WITH CIRCLE INSIDE;LESS-THAN WITH QUESTION MARK ABOVE"⟩,
   ⟨0x2a7c, "", "GREATER-THAN WITH QUESTION MARK ABOVE;LESS-THAN OR SLANTED EQUAL TO"⟩,
   ⟨0x2a7e, "", "GREATER-THAN OR SLANTED EQUAL TO;LESS-THAN OR SLANTED EQUAL TO WITH DOT INSIDE"⟩,
   ⟨0x2a80, "GREATER-THAN OR SLANTED EQUAL TO WITH DOT INSIDE", ""⟩,
   ⟨0x2a81, "LESS-THAN OR SLANTED EQUAL TO WITH DOT ABOVE", ""⟩,
   ⟨0x2a82, "GREATER-THAN OR SLANTED EQUAL TO WITH DOT ABOVE", ""⟩,
   ⟨0x2a83, "LESS-THAN OR SLANTED EQUAL TO WITH DOT ABOVE RIGHT", ""⟩,
   ⟨0x2a84, "", "GREATER-THAN OR SLANTED EQUAL TO WITH DOT ABOVE LEFT;LESS-THAN OR APPROXIMATE"⟩,
   ⟨0x2a86, "", "GREATER-THAN OR APPROXIMATE;LESS-THAN AND SINGLE-LINE NOT EQUAL TO"⟩,
   ⟨0x2a88, "", "GREATER-THAN AND SINGLE-LINE NOT EQUAL TO;LESS-THAN AND NOT APPROXIMATE"⟩,
   ⟨0x2a8a, "",
     "GREATER-THAN AND NOT APPROXIMATE;LESS-THAN ABOVE DOUBLE-LINE EQUAL ABOVE GREATER-THAN"⟩,
   ⟨0x2a8c, "",
     "GREATER-THAN ABOVE DOUBLE-LINE EQUAL ABOVE LESS-THAN;LESS-THAN ABOVE SIMILAR OR EQUAL"⟩,
   ⟨0x2a8e, "", "GREATER-THAN ABOVE SIMILAR OR EQUAL;LESS-THAN ABOVE SIMILAR ABOVE GREATER-THAN"⟩,
   ⟨0x2a90, "GREATER-THAN ABOVE SIMILAR ABOVE LESS-THAN", ""⟩,
   ⟨0x2a91, "LESS-THAN ABOVE GREATER-THAN ABOVE DOUBLE-LINE EQUAL", ""⟩,
   ⟨0x2a92, "GREATER-THAN ABOVE LESS-THAN ABOVE DOUBLE-LINE EQUAL", ""⟩,
   ⟨0x2a93, "LESS-THAN ABOVE SLANTED EQUAL ABOVE GREATER-THAN ABOVE SLANTED EQUAL", ""⟩,
   ⟨0x2a94, "GREATER-THAN ABOVE SLANTED EQUAL ABOVE LESS-THAN ABOVE SLANTED EQUAL", ""⟩,
   ⟨0x2a95, "SLANTED EQUAL TO OR ",
     "LESS-THAN;GREATER-THAN;LESS-THAN WITH DOT INSIDE;GREATER-THAN WITH DOT INSIDE"⟩,
   ⟨0x2a99, "DOUBLE-LINE EQUAL TO OR ", "LESS-THAN;GREATER-THAN"⟩,
   ⟨0x2a9b, "DOUBLE-LINE SLANTED EQUAL TO OR ", "LESS-THAN;GREATER-THAN"⟩,
   ⟨0x2a9d, "SIMILAR ", "OR LESS-THAN;OR GREATER-THAN;ABOVE LESS-THAN ABOVE EQUALS SIGN"⟩,
   ⟨0x2aa0, "", "SIMILAR ABOVE GREATER-THAN ABOVE EQUALS SIGN;DOUBLE NESTED LESS-THAN"⟩,
   ⟨0x2aa2, "DOUBLE NESTED ", "GREATER-THAN;LESS-THAN WITH UNDERBAR"⟩,
   ⟨0x2aa4, "",
     "GREATER-THAN OVERLAPPING LESS-THAN;GREATER-THAN BESIDE LESS-THAN;LESS-THAN CLOSED BY CURVE"⟩,
   ⟨0x2aa7, "", "GREATER-THAN CLOSED BY CURVE;LESS-THAN CLOSED BY CURVE ABOVE SLANTED EQUAL"⟩,
   ⟨0x2aa9, "", "GREATER-THAN CLOSED BY CURVE ABOVE SLANTED EQUAL;SMALLER THAN;LARGER THAN"⟩,
   ⟨0x2aac, "", "SMALLER THAN OR EQUAL TO;LARGER THAN OR EQUAL TO;EQUALS SIGN WITH BUMPY ABOVE"⟩,
   ⟨0x2aaf, "", "PRECEDES ABOVE SINGLE-LINE EQUALS SIGN;SUCCEEDS ABOVE SINGLE-LINE EQUALS SIGN"⟩,
   ⟨0x2ab1, "", "PRECEDES ABOVE SINGLE-LINE NOT EQUAL TO;SUCCEEDS ABOVE SINGLE-LINE NOT EQUAL TO"⟩,
   ⟨0x2ab3, "", "PRECEDES ABOVE EQUALS SIGN;SUCCEEDS ABOVE EQUALS SIGN"⟩,
   ⟨0x2ab5, "", "PRECEDES ABOVE NOT EQUAL TO;SUCCEEDS ABOVE NOT EQUAL TO"⟩,
   ⟨0x2ab7, "", "PRECEDES ABOVE ALMOST EQUAL TO;SUCCEEDS ABOVE ALMOST EQUAL TO"⟩,
   ⟨0x2ab9, "", "PRECEDES ABOVE NOT ALMOST EQUAL TO;SUCCEEDS ABOVE NOT ALMOST EQUAL TO"⟩,
   ⟨0x2abb, "", "DOUBLE PRECEDES;DOUBLE SUCCEEDS;SUBSET WITH DOT"⟩,
   ⟨0x2abe, "SU", "PERSET WITH DOT;BSET WITH PLUS SIGN BELOW;PERSET WITH PLUS SIGN BELOW"⟩,
   ⟨0x2ac1, "SU", "BSET WITH MULTIPLICATION SIGN BELOW;PERSET WITH MULTIPLICATION SIGN BELOW"⟩,
   ⟨0x2ac3, "SU", "BSET OF OR EQUAL TO WITH DOT ABOVE;PERSET OF OR EQUAL TO WITH DOT ABOVE"⟩,
   ⟨0x2ac5, "SU", "BSET OF ABOVE EQUALS SIGN;PERSET OF ABOVE EQUALS SIGN"⟩,
   ⟨0x2ac7, "SU", "BSET OF ABOVE TILDE OPERATOR;PERSET OF ABOVE TILDE OPERATOR"⟩,
   ⟨0x2ac9, "SU", "BSET OF ABOVE ALMOST EQUAL TO;PERSET OF ABOVE ALMOST EQUAL TO"⟩,
   ⟨0x2acb, "SU", "BSET OF ABOVE NOT EQUAL TO;PERSET OF ABOVE NOT EQUAL TO"⟩,
   ⟨0x2acd, "", "SQUARE LEFT OPEN BOX OPERATOR;SQUARE RIGHT OPEN BOX OPERATOR;CLOSED SUBSET"⟩,
   ⟨0x2ad0, "CLOSED SU", "PERSET;BSET OR EQUAL TO"⟩,
   ⟨0x2ad2, "", "CLOSED SUPERSET OR EQUAL TO;SUBSET ABOVE SUPERSET;SUPERSET ABOVE SUBSET"⟩,
   ⟨0x2ad5, "SU", "BSET ABOVE SUBSET;PERSET ABOVE SUPERSET;PERSET BESIDE SUBSET"⟩,
   ⟨0x2ad8, "", "SUPERSET BESIDE AND JOINED BY DASH WITH SUBSET;ELEMENT OF OPENING DOWNWARDS"⟩,
   ⟨0x2ada, "", "PITCHFORK WITH TEE TOP;TRANSVERSAL INTERSECTION;FORKING"⟩,
   ⟨0x2add, "", "NONFORKING;SHORT LEFT TACK;SHORT DOWN TACK;SHORT UP TACK;PERPENDICULAR WITH S"⟩,
   ⟨0x2ae2, "", "VERTICAL BAR TRIPLE RIGHT TURNSTILE;DOUBLE VERTICAL BAR LEFT TURNSTILE"⟩,
   ⟨0x2ae4, "", "VERTICAL BAR DOUBLE LEFT TURNSTILE;DOUBLE VERTICAL BAR DOUBLE LEFT TURNSTILE"⟩,
   ⟨0x2ae6, "", "LONG DASH FROM LEFT MEMBER OF DOUBLE VERTICAL;SHORT DOWN TACK WITH OVERBAR"⟩,
   ⟨0x2ae8, "", "SHORT UP TACK WITH UNDERBAR;SHORT UP TACK ABOVE SHORT DOWN TACK;DOUBLE DOWN TACK"⟩,
   ⟨0x2aeb, "", "DOUBLE UP TACK;DOUBLE STROKE NOT SIGN;REVERSED DOUBLE STROKE NOT SIGN"⟩,
   ⟨0x2aee, "", "DOES NOT DIVIDE WITH REVERSED NEGATION SLASH;VERTICAL LINE WITH CIRCLE ABOVE"⟩,
   ⟨0x2af0, "", "VERTICAL LINE WITH CIRCLE BELOW;DOWN TACK WITH CIRCLE BELOW"⟩,
   ⟨0x2af2, "PARALLEL WITH ", "HORIZONTAL STROKE;TILDE OPERATOR"⟩,
   ⟨0x2af4, "TRIPLE VERTICAL BAR ", "BINARY RELATION;WITH HORIZONTAL STROKE"⟩,
   ⟨0x2af6, "TRIPLE ", "COLON OPERATOR;NESTED LESS-THAN;NESTED GREATER-THAN"⟩,
   ⟨0x2af9, "DOUBLE-LINE SLANTED ", "LESS-THAN OR EQUAL TO;GREATER-THAN OR EQUAL TO"⟩,
   ⟨0x2afb, "", "TRIPLE SOLIDUS BINARY RELATION;LARGE TRIPLE VERTICAL BAR OPERATOR"⟩,
   ⟨0x2afd, "", "DOUBLE SOLIDUS OPERATOR;WHITE VERTICAL BAR;N-ARY WHITE VERTICAL BAR"⟩]

/-- The names in the block Miscellaneous Symbols and Arrows. -/
def miscellaneousSymbolsAndArrows : List NameRun :=
  [⟨0x2b00, "", "NORTH EAST WHITE ARROW;NORTH WEST WHITE ARROW;SOUTH EAST WHITE ARROW"⟩,
   ⟨0x2b03, "", "SOUTH WEST WHITE ARROW;LEFT RIGHT WHITE ARROW;LEFTWARDS BLACK ARROW"⟩,
   ⟨0x2b06, "", "UPWARDS BLACK ARROW;DOWNWARDS BLACK ARROW;NORTH EAST BLACK ARROW"⟩,
   ⟨0x2b09, "", "NORTH WEST BLACK ARROW;SOUTH EAST BLACK ARROW;SOUTH WEST BLACK ARROW"⟩,
   ⟨0x2b0c, "", "LEFT RIGHT BLACK ARROW;UP DOWN BLACK ARROW;RIGHTWARDS ARROW WITH TIP DOWNWARDS"⟩,
   ⟨0x2b0f, "", "RIGHTWARDS ARROW WITH TIP UPWARDS;LEFTWARDS ARROW WITH TIP DOWNWARDS"⟩,
   ⟨0x2b11, "", "LEFTWARDS ARROW WITH TIP UPWARDS;SQUARE WITH TOP HALF BLACK"⟩,
   ⟨0x2b13, "SQUARE WITH ",
     "BOTTOM HALF BLACK;UPPER RIGHT DIAGONAL HALF BLACK;LOWER LEFT DIAGONAL HALF BLACK"⟩,
   ⟨0x2b16, "DIAMOND WITH ", "LEFT HALF BLACK;RIGHT HALF BLACK;TOP HALF BLACK;BOTTOM HALF BLACK"⟩,
   ⟨0x2b1a, "", "DOTTED SQUARE;BLACK LARGE SQUARE;WHITE LARGE SQUARE"⟩,
   ⟨0x2b1d, "", "BLACK VERY SMALL SQUARE;WHITE VERY SMALL SQUARE;BLACK PENTAGON;WHITE PENTAGON"⟩,
   ⟨0x2b21, "", "WHITE HEXAGON;BLACK HEXAGON;HORIZONTAL BLACK HEXAGON;BLACK LARGE CIRCLE"⟩,
   ⟨0x2b25, "", "BLACK MEDIUM DIAMOND;WHITE MEDIUM DIAMOND;BLACK MEDIUM LOZENGE"⟩,
   ⟨0x2b28, "", "WHITE MEDIUM LOZENGE;BLACK SMALL DIAMOND;BLACK SMALL LOZENGE;WHITE SMALL LOZENGE"⟩,
   ⟨0x2b2c, "", "BLACK HORIZONTAL ELLIPSE;WHITE HORIZONTAL ELLIPSE;BLACK VERTICAL ELLIPSE"⟩,
   ⟨0x2b2f, "", "WHITE VERTICAL ELLIPSE;LEFT ARROW WITH SMALL CIRCLE;THREE LEFTWARDS ARROWS"⟩,
   ⟨0x2b32, "L", "EFT ARROW WITH CIRCLED PLUS;ONG LEFTWARDS SQUIGGLE ARROW"⟩,
   ⟨0x2b34, "LEFTWARDS TWO-HEADED ARROW WITH ", "VERTICAL STROKE;DOUBLE VERTICAL STROKE"⟩,
   ⟨0x2b36, "LEFTWARDS TWO-HEADED ", "ARROW FROM BAR;TRIPLE DASH ARROW"⟩,
   ⟨0x2b38, "LEFTWARDS ARROW WITH ", "DOTTED STEM;TAIL WITH VERTICAL STROKE"⟩,
   ⟨0x2b3a, "LEFTWARDS ", "ARROW WITH TAIL WITH DOUBLE VERTICAL STROKE;TWO-HEADED ARROW WITH TAIL"⟩,
   ⟨0x2b3c, "LEFTWARDS TWO-HEADED ARROW WITH TAIL WITH ", "VERTICAL STROKE;DOUBLE VERTICAL STROKE"⟩,
   ⟨0x2b3e, "", "LEFTWARDS ARROW THROUGH X;WAVE ARROW POINTING DIRECTLY LEFT"⟩,
   ⟨0x2b40, "", "EQUALS SIGN ABOVE LEFTWARDS ARROW;REVERSE TILDE OPERATOR ABOVE LEFTWARDS ARROW"⟩,
   ⟨0x2b42, "",
     "LEFTWARDS ARROW ABOVE REVERSE ALMOST EQUAL TO;RIGHTWARDS ARROW THROUGH GREATER-THAN"⟩,
   ⟨0x2b44, "", "RIGHTWARDS ARROW THROUGH SUPERSET;LEFTWARDS QUADRUPLE ARROW"⟩,
   ⟨0x2b46, "R", "IGHTWARDS QUADRUPLE ARROW;EVERSE TILDE OPERATOR ABOVE RIGHTWARDS ARROW"⟩,
   ⟨0x2b48, "RIGHTWARDS ARROW ABOVE REVERSE ALMOST EQUAL TO", ""⟩,
   ⟨0x2b49, "", "TILDE OPERATOR ABOVE LEFTWARDS ARROW;LEFTWARDS ARROW ABOVE ALMOST EQUAL TO"⟩,
   ⟨0x2b4b, "",
     "LEFTWARDS ARROW ABOVE REVERSE TILDE OPERATOR;RIGHTWARDS ARROW ABOVE REVERSE TILDE OPERATOR"⟩,
   ⟨0x2b4d, "", "DOWNWARDS TRIANGLE-HEADED ZIGZAG ARROW;SHORT SLANTED NORTH ARROW"⟩,
   ⟨0x2b4f, "", "SHORT BACKSLANTED SOUTH ARROW;WHITE MEDIUM STAR;BLACK SMALL STAR"⟩,
   ⟨0x2b52, "", "WHITE SMALL STAR;BLACK RIGHT-POINTING PENTAGON;WHITE RIGHT-POINTING PENTAGON"⟩,
   ⟨0x2b55, "HEAVY ", "LARGE CIRCLE;OVAL WITH OVAL INSIDE;CIRCLE WITH CIRCLE INSIDE"⟩,
   ⟨0x2b58, "", "HEAVY CIRCLE;HEAVY CIRCLED SALTIRE;SLANTED NORTH ARROW WITH HOOKED HEAD"⟩,
   ⟨0x2b5b, "",
     "BACKSLANTED SOUTH ARROW WITH HOOKED TAIL;SLANTED NORTH ARROW WITH HORIZONTAL TAIL"⟩,
   ⟨0x2b5d, "B",
     "ACKSLANTED SOUTH ARROW WITH HORIZONTAL TAIL;ENT ARROW POINTING DOWNWARDS THEN NORTH EAST"⟩,
   ⟨0x2b5f, "SHORT BENT ARROW POINTING DOWNWARDS THEN NORTH EAST", ""⟩,
   ⟨0x2b60, "", "LEFTWARDS TRIANGLE-HEADED ARROW;UPWARDS TRIANGLE-HEADED ARROW"⟩,
   ⟨0x2b62, "", "RIGHTWARDS TRIANGLE-HEADED ARROW;DOWNWARDS TRIANGLE-HEADED ARROW"⟩,
   ⟨0x2b64, "", "LEFT RIGHT TRIANGLE-HEADED ARROW;UP DOWN TRIANGLE-HEADED ARROW"⟩,
   ⟨0x2b66, "NORTH ", "WEST TRIANGLE-HEADED ARROW;EAST TRIANGLE-HEADED ARROW"⟩,
   ⟨0x2b68, "SOUTH ", "EAST TRIANGLE-HEADED ARROW;WEST TRIANGLE-HEADED ARROW"⟩,
   ⟨0x2b6a, "", "LEFTWARDS TRIANGLE-HEADED DASHED ARROW;UPWARDS TRIANGLE-HEADED DASHED ARROW"⟩,
   ⟨0x2b6c, "", "RIGHTWARDS TRIANGLE-HEADED DASHED ARROW;DOWNWARDS TRIANGLE-HEADED DASHED ARROW"⟩,
   ⟨0x2b6e, "",
     "CLOCKWISE TRIANGLE-HEADED OPEN CIRCLE ARROW;ANTICLOCKWISE TRIANGLE-HEADED OPEN CIRCLE ARROW"⟩,
   ⟨0x2b70, "", "LEFTWARDS TRIANGLE-HEADED ARROW TO BAR;UPWARDS TRIANGLE-HEADED ARROW TO BAR"⟩,
   ⟨0x2b72, "", "RIGHTWARDS TRIANGLE-HEADED ARROW TO BAR;DOWNWARDS TRIANGLE-HEADED ARROW TO BAR"⟩,
   ⟨0x2b76, "NORTH ", "WEST TRIANGLE-HEADED ARROW TO BAR;EAST TRIANGLE-HEADED ARROW TO BAR"⟩,
   ⟨0x2b78, "SOUTH ", "EAST TRIANGLE-HEADED ARROW TO BAR;WEST TRIANGLE-HEADED ARROW TO BAR"⟩,
   ⟨0x2b7a, "LEFTWARDS TRIANGLE-HEADED ARROW WITH DOUBLE HORIZONTAL STROKE", ""⟩,
   ⟨0x2b7b, "UPWARDS TRIANGLE-HEADED ARROW WITH DOUBLE HORIZONTAL STROKE", ""⟩,
   ⟨0x2b7c, "RIGHTWARDS TRIANGLE-HEADED ARROW WITH DOUBLE HORIZONTAL STROKE", ""⟩,
   ⟨0x2b7d, "", "DOWNWARDS TRIANGLE-HEADED ARROW WITH DOUBLE HORIZONTAL STROKE;HORIZONTAL TAB KEY"⟩,
   ⟨0x2b7f, "",
     "VERTICAL TAB KEY;LEFTWARDS TRIANGLE-HEADED ARROW OVER RIGHTWARDS TRIANGLE-HEADED ARROW"⟩,
   ⟨0x2b81, "UPWARDS TRIANGLE-HEADED ARROW LEFTWARDS OF DOWNWARDS TRIANGLE-HEADED ARROW", ""⟩,
   ⟨0x2b82, "RIGHTWARDS TRIANGLE-HEADED ARROW OVER LEFTWARDS TRIANGLE-HEADED ARROW", ""⟩,
   ⟨0x2b83, "DOWNWARDS TRIANGLE-HEADED ARROW LEFTWARDS OF UPWARDS TRIANGLE-HEADED ARROW", ""⟩,
   ⟨0x2b84, "", "LEFTWARDS TRIANGLE-HEADED PAIRED ARROWS;UPWARDS TRIANGLE-HEADED PAIRED ARROWS"⟩,
   ⟨0x2b86, "", "RIGHTWARDS TRIANGLE-HEADED PAIRED ARROWS;DOWNWARDS TRIANGLE-HEADED PAIRED ARROWS"⟩,
   ⟨0x2b88, "", "LEFTWARDS BLACK CIRCLED WHITE ARROW;UPWARDS BLACK CIRCLED WHITE ARROW"⟩,
   ⟨0x2b8a, "", "RIGHTWARDS BLACK CIRCLED WHITE ARROW;DOWNWARDS BLACK CIRCLED WHITE ARROW"⟩,
   ⟨0x2b8c, "ANTICLOCKWISE TRIANGLE-HEADED ",
     "RIGHT U-SHAPED ARROW;BOTTOM U-SHAPED ARROW;LEFT U-SHAPED ARROW;TOP U-SHAPED ARROW"⟩,
   ⟨0x2b90, "", "RETURN LEFT;RETURN RIGHT;NEWLINE LEFT"⟩,
   ⟨0x2b93, "", "NEWLINE RIGHT;FOUR CORNER ARROWS CIRCLING ANTICLOCKWISE;RIGHTWARDS BLACK ARROW"⟩,
   ⟨0x2b97, "SYMBOL FOR TYPE A ELECTRONICS", ""⟩,
   ⟨0x2b98, "THREE-D ",
     "TOP-LIGHTED LEFTWARDS EQUILATERAL ARROWHEAD;RIGHT-LIGHTED UPWARDS EQUILATERAL ARROWHEAD"⟩,
   ⟨0x2b9a, "THREE-D ",
     "TOP-LIGHTED RIGHTWARDS EQUILATERAL ARROWHEAD;LEFT-LIGHTED DOWNWARDS EQUILATERAL ARROWHEAD"⟩,
   ⟨0x2b9c, "BLACK ", "LEFTWARDS EQUILATERAL ARROWHEAD;UPWARDS EQUILATERAL ARROWHEAD"⟩,
   ⟨0x2b9e, "BLACK ", "RIGHTWARDS EQUILATERAL ARROWHEAD;DOWNWARDS EQUILATERAL ARROWHEAD"⟩,
   ⟨0x2ba0, "DOWNWARDS TRIANGLE-HEADED ARROW WITH LONG TIP ", "LEFTWARDS;RIGHTWARDS"⟩,
   ⟨0x2ba2, "UPWARDS TRIANGLE-HEADED ARROW WITH LONG TIP ", "LEFTWARDS;RIGHTWARDS"⟩,
   ⟨0x2ba4, "LEFTWARDS TRIANGLE-HEADED ARROW WITH LONG TIP UPWARDS", ""⟩,
   ⟨0x2ba5, "RIGHTWARDS TRIANGLE-HEADED ARROW WITH LONG TIP UPWARDS", ""⟩,
   ⟨0x2ba6, "LEFTWARDS TRIANGLE-HEADED ARROW WITH LONG TIP DOWNWARDS", ""⟩,
   ⟨0x2ba7, "RIGHTWARDS TRIANGLE-HEADED ARROW WITH LONG TIP DOWNWARDS", ""⟩,
   ⟨0x2ba8, "BLACK CURVED ",
     "DOWNWARDS AND LEFTWARDS ARROW;DOWNWARDS AND RIGHTWARDS ARROW;UPWARDS AND LEFTWARDS ARROW"⟩,
   ⟨0x2bab, "BLACK CURVED ", "UPWARDS AND RIGHTWARDS ARROW;LEFTWARDS AND UPWARDS ARROW"⟩,
   ⟨0x2bad, "BLACK CURVED ", "RIGHTWARDS AND UPWARDS ARROW;LEFTWARDS AND DOWNWARDS ARROW"⟩,
   ⟨0x2baf, "", "BLACK CURVED RIGHTWARDS AND DOWNWARDS ARROW;RIBBON ARROW DOWN LEFT"⟩,
   ⟨0x2bb1, "RIBBON ARROW ", "DOWN RIGHT;UP LEFT;UP RIGHT;LEFT UP;RIGHT UP;LEFT DOWN;RIGHT DOWN"⟩,
   ⟨0x2bb8, "UP", "WARDS WHITE ARROW FROM BAR WITH HORIZONTAL BAR; ARROWHEAD IN A RECTANGLE BOX"⟩,
   ⟨0x2bba, "OVERLAPPING ", "WHITE SQUARES;WHITE AND BLACK SQUARES;BLACK SQUARES"⟩,
   ⟨0x2bbd, "", "BALLOT BOX WITH LIGHT X;CIRCLED X"⟩,
   ⟨0x2bbf, "", "CIRCLED BOLD X;BLACK SQUARE CENTRED;BLACK DIAMOND CENTRED;TURNED BLACK PENTAGON"⟩,
   ⟨0x2bc3, "", "HORIZONTAL BLACK OCTAGON;BLACK OCTAGON;BLACK MEDIUM UP-POINTING TRIANGLE CENTRED"⟩,
   ⟨0x2bc6, "BLACK MEDIUM ", "DOWN-POINTING TRIANGLE CENTRED;LEFT-POINTING TRIANGLE CENTRED"⟩,
   ⟨0x2bc8, "", "BLACK MEDIUM RIGHT-POINTING TRIANGLE CENTRED;NEPTUNE FORM TWO"⟩,
   ⟨0x2bca, "", "TOP HALF BLACK CIRCLE;BOTTOM HALF BLACK CIRCLE;LIGHT FOUR POINTED BLACK CUSP"⟩,
   ⟨0x2bcd, "", "ROTATED LIGHT FOUR POINTED BLACK CUSP;WHITE FOUR POINTED CUSP"⟩,
   ⟨0x2bcf, "", "ROTATED WHITE FOUR POINTED CUSP;SQUARE POSITION INDICATOR;UNCERTAINTY SIGN"⟩,
   ⟨0x2bd2, "", "GROUP MARK;PLUTO FORM TWO;PLUTO FORM THREE;PLUTO FORM FOUR;PLUTO FORM FIVE"⟩,
   ⟨0x2bd7, "",
     "TRANSPLUTO;PROSERPINA;ASTRAEA;HYGIEA;PHOLUS;NESSUS;WHITE MOON SELENA;BLACK DIAMOND ON CROSS"⟩,
   ⟨0x2bdf, "", "TRUE LIGHT MOON ARTA;CUPIDO;HADES;ZEUS;KRONOS;APOLLON;ADMETOS;VULCANUS"⟩,
   ⟨0x2be7, "", "POSEIDON;LEFT HALF BLACK STAR;RIGHT HALF BLACK STAR;STAR WITH LEFT HALF BLACK"⟩,
   ⟨0x2beb, "", "STAR WITH RIGHT HALF BLACK;LEFTWARDS TWO-HEADED ARROW WITH TRIANGLE ARROWHEADS"⟩,
   ⟨0x2bed, "UPWARDS TWO-HEADED ARROW WITH TRIANGLE ARROWHEADS", ""⟩,
   ⟨0x2bee, "RIGHTWARDS TWO-HEADED ARROW WITH TRIANGLE ARROWHEADS", ""⟩,
   ⟨0x2bef, "", "DOWNWARDS TWO-HEADED ARROW WITH TRIANGLE ARROWHEADS;ERIS FORM ONE"⟩,
   ⟨0x2bf1, "", "ERIS FORM TWO;SEDNA;RUSSIAN ASTROLOGICAL SYMBOL VIGINTILE"⟩,
   ⟨0x2bf4, "RUSSIAN ASTROLOGICAL SYMBOL ", "NOVILE;QUINTILE;BINOVILE;SENTAGON;TREDECILE"⟩,
   ⟨0x2bf9, "", "EQUALS SIGN WITH INFINITY BELOW;UNITED SYMBOL;SEPARATED SYMBOL"⟩,
   ⟨0x2bfc, "", "DOUBLED SYMBOL;PASSED SYMBOL;REVERSED RIGHT ANGLE;HELLSCHREIBER PAUSE SYMBOL"⟩]

/-- All names of this module. -/
def symbols : List NameRun :=
  List.flatten
    [controlPictures, opticalCharacterRecognition, enclosedAlphanumerics, boxDrawing, blockElements,
     geometricShapes, miscellaneousSymbols, dingbats, miscellaneousMathematicalSymbolsA,
     supplementalArrowsA, braillePatterns, supplementalArrowsB, miscellaneousMathematicalSymbolsB,
     supplementalMathematicalOperators, miscellaneousSymbolsAndArrows]

end Names
end Unicode
end LiquidMarkdown
