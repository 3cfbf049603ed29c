import LiquidMarkdown.Unicode.NameRun

/-!
# Names of characters: presentation forms

* `presentationForms` — the names of ligatures, Arabic letters in their positions, and wide and
  narrow forms.
-/

namespace LiquidMarkdown
namespace Unicode
namespace Names

/-- The names in the block Alphabetic Presentation Forms. -/
def alphabeticPresentationForms : List NameRun :=
  [⟨0xfb00, "LATIN SMALL LIGATURE ", "FF;FI;FL;FFI;FFL;LONG S T;ST"⟩,
   ⟨0xfb13, "ARMENIAN SMALL LIGATURE ", "MEN NOW;MEN ECH;MEN INI;VEW NOW;MEN XEH"⟩,
   ⟨0xfb1d, "HEBREW ",
     "LETTER YOD WITH HIRIQ;POINT JUDEO-SPANISH VARIKA;LIGATURE YIDDISH YOD YOD PATAH"⟩,
   ⟨0xfb20, "HEBREW LETTER ", "ALTERNATIVE AYIN;WIDE ALEF;WIDE DALET;WIDE HE;WIDE KAF"⟩,
   ⟨0xfb25, "HEBREW LETTER ", "WIDE LAMED;WIDE FINAL MEM;WIDE RESH;WIDE TAV;ALTERNATIVE PLUS SIGN"⟩,
   ⟨0xfb2a, "HEBREW LETTER SHIN WITH ", "SHIN DOT;SIN DOT;DAGESH AND SHIN DOT;DAGESH AND SIN DOT"⟩,
   ⟨0xfb2e, "HEBREW LETTER ", "ALEF WITH PATAH;ALEF WITH QAMATS;ALEF WITH MAPIQ;BET WITH DAGESH"⟩,
   ⟨0xfb32, "HEBREW LETTER ",
     "GIMEL WITH DAGESH;DALET WITH DAGESH;HE WITH MAPIQ;VAV WITH DAGESH;ZAYIN WITH DAGESH"⟩,
   ⟨0xfb38, "HEBREW LETTER ",
     "TET WITH DAGESH;YOD WITH DAGESH;FINAL KAF WITH DAGESH;KAF WITH DAGESH;LAMED WITH DAGESH"⟩,
   ⟨0xfb3e, "HEBREW LETTER MEM WITH DAGESH", ""⟩,
   ⟨0xfb40, "HEBREW LETTER ", "NUN WITH DAGESH;SAMEKH WITH DAGESH"⟩,
   ⟨0xfb43, "HEBREW LETTER ", "FINAL PE WITH DAGESH;PE WITH DAGESH"⟩,
   ⟨0xfb46, "HEBREW LETTER ", "TSADI WITH DAGESH;QOF WITH DAGESH;RESH WITH DAGESH"⟩,
   ⟨0xfb49, "HEBREW LETTER ", "SHIN WITH DAGESH;TAV WITH DAGESH;VAV WITH HOLAM;BET WITH RAFE"⟩,
   ⟨0xfb4d, "HEBREW L", "ETTER KAF WITH RAFE;ETTER PE WITH RAFE;IGATURE ALEF LAMED"⟩]

/-- The names in the block Arabic Presentation Forms-A. -/
def arabicPresentationFormsA : List NameRun :=
  [⟨0xfb50, "ARABIC LETTER ", "ALEF WASLA ISOLATED FORM;ALEF WASLA FINAL FORM;BEEH ISOLATED FORM"⟩,
   ⟨0xfb53, "ARABIC LETTER BEEH ", "FINAL FORM;INITIAL FORM;MEDIAL FORM"⟩,
   ⟨0xfb56, "ARABIC LETTER PEH ", "ISOLATED FORM;FINAL FORM;INITIAL FORM;MEDIAL FORM"⟩,
   ⟨0xfb5a, "ARABIC LETTER BEHEH ", "ISOLATED FORM;FINAL FORM;INITIAL FORM;MEDIAL FORM"⟩,
   ⟨0xfb5e, "ARABIC LETTER TTEHEH ", "ISOLATED FORM;FINAL FORM;INITIAL FORM;MEDIAL FORM"⟩,
   ⟨0xfb62, "ARABIC LETTER TEHEH ", "ISOLATED FORM;FINAL FORM;INITIAL FORM;MEDIAL FORM"⟩,
   ⟨0xfb66, "ARABIC LETTER TTEH ", "ISOLATED FORM;FINAL FORM;INITIAL FORM;MEDIAL FORM"⟩,
   ⟨0xfb6a, "ARABIC LETTER VEH ", "ISOLATED FORM;FINAL FORM;INITIAL FORM;MEDIAL FORM"⟩,
   ⟨0xfb6e, "ARABIC LETTER PEHEH ", "ISOLATED FORM;FINAL FORM;INITIAL FORM;MEDIAL FORM"⟩,
   ⟨0xfb72, "ARABIC LETTER DYEH ", "ISOLATED FORM;FINAL FORM;INITIAL FORM;MEDIAL FORM"⟩,
   ⟨0xfb76, "ARABIC LETTER NYEH ", "ISOLATED FORM;FINAL FORM;INITIAL FORM;MEDIAL FORM"⟩,
   ⟨0xfb7a, "ARABIC LETTER TCHEH ", "ISOLATED FORM;FINAL FORM;INITIAL FORM;MEDIAL FORM"⟩,
   ⟨0xfb7e, "ARABIC LETTER TCHEHEH ", "ISOLATED FORM;FINAL FORM;INITIAL FORM;MEDIAL FORM"⟩,
   ⟨0xfb82, "ARABIC LETTER D", "DAHAL ISOLATED FORM;DAHAL FINAL FORM;AHAL ISOLATED FORM"⟩,
   ⟨0xfb85, "ARABIC LETTER D", "AHAL FINAL FORM;UL ISOLATED FORM;UL FINAL FORM;DAL ISOLATED FORM"⟩,
   ⟨0xfb89, "ARABIC LETTER ",
     "DDAL FINAL FORM;JEH ISOLATED FORM;JEH FINAL FORM;RREH ISOLATED FORM;RREH FINAL FORM"⟩,
   ⟨0xfb8e, "ARABIC LETTER KEHEH ", "ISOLATED FORM;FINAL FORM;INITIAL FORM;MEDIAL FORM"⟩,
   ⟨0xfb92, "ARABIC LETTER GAF ", "ISOLATED FORM;FINAL FORM;INITIAL FORM;MEDIAL FORM"⟩,
   ⟨0xfb96, "ARABIC LETTER GUEH ", "ISOLATED FORM;FINAL FORM;INITIAL FORM;MEDIAL FORM"⟩,
   ⟨0xfb9a, "ARABIC LETTER NGOEH ", "ISOLATED FORM;FINAL FORM;INITIAL FORM"⟩,
   ⟨0xfb9d, "ARABIC LETTER N", "GOEH MEDIAL FORM;OON GHUNNA ISOLATED FORM;OON GHUNNA FINAL FORM"⟩,
   ⟨0xfba0, "ARABIC LETTER RNOON ", "ISOLATED FORM;FINAL FORM;INITIAL FORM;MEDIAL FORM"⟩,
   ⟨0xfba4, "ARABIC LETTER HEH WITH YEH ABOVE ", "ISOLATED FORM;FINAL FORM"⟩,
   ⟨0xfba6, "ARABIC LETTER HEH GOAL ", "ISOLATED FORM;FINAL FORM;INITIAL FORM;MEDIAL FORM"⟩,
   ⟨0xfbaa, "ARABIC LETTER HEH DOACHASHMEE ", "ISOLATED FORM;FINAL FORM;INITIAL FORM;MEDIAL FORM"⟩,
   ⟨0xfbae, "ARABIC LETTER YEH BARREE ",
     "ISOLATED FORM;FINAL FORM;WITH HAMZA ABOVE ISOLATED FORM;WITH HAMZA ABOVE FINAL FORM"⟩,
   ⟨0xfbb2, "ARABIC SYMBOL ", "DOT ABOVE;DOT BELOW;TWO DOTS ABOVE;TWO DOTS BELOW;THREE DOTS ABOVE"⟩,
   ⟨0xfbb7, "ARABIC SYMBOL THREE DOTS ", "BELOW;POINTING DOWNWARDS ABOVE;POINTING DOWNWARDS BELOW"⟩,
   ⟨0xfbba, "ARABIC SYMBOL ", "FOUR DOTS ABOVE;FOUR DOTS BELOW;DOUBLE VERTICAL BAR BELOW"⟩,
   ⟨0xfbbd, "ARABIC SYMBOL ", "TWO DOTS VERTICALLY ABOVE;TWO DOTS VERTICALLY BELOW;RING"⟩,
   ⟨0xfbc0, "ARABIC SYMBOL ", "SMALL TAH ABOVE;SMALL TAH BELOW;WASLA ABOVE"⟩,
   ⟨0xfbd3, "ARABIC LETTER NG ", "ISOLATED FORM;FINAL FORM;INITIAL FORM;MEDIAL FORM"⟩,
   ⟨0xfbd7, "ARABIC LETTER ", "U ISOLATED FORM;U FINAL FORM;OE ISOLATED FORM;OE FINAL FORM"⟩,
   ⟨0xfbdb, "ARABIC LETTER ", "YU ISOLATED FORM;YU FINAL FORM;U WITH HAMZA ABOVE ISOLATED FORM"⟩,
   ⟨0xfbde, "ARABIC LETTER ", "VE ISOLATED FORM;VE FINAL FORM;KIRGHIZ OE ISOLATED FORM"⟩,
   ⟨0xfbe1, "ARABIC LETTER KIRGHIZ ", "OE FINAL FORM;YU ISOLATED FORM;YU FINAL FORM"⟩,
   ⟨0xfbe4, "ARABIC LETTER E ", "ISOLATED FORM;FINAL FORM;INITIAL FORM;MEDIAL FORM"⟩,
   ⟨0xfbe8, "ARABIC LETTER UIGHUR KAZAKH KIRGHIZ ALEF MAKSURA ", "INITIAL FORM;MEDIAL FORM"⟩,
   ⟨0xfbea, "ARABIC LIGATURE YEH WITH HAMZA ABOVE WITH ",
     "ALEF ISOLATED FORM;ALEF FINAL FORM;AE ISOLATED FORM;AE FINAL FORM;WAW ISOLATED FORM"⟩,
   ⟨0xfbef, "ARABIC LIGATURE YEH WITH HAMZA ABOVE WITH ",
     "WAW FINAL FORM;U ISOLATED FORM;U FINAL FORM;OE ISOLATED FORM"⟩,
   ⟨0xfbf3, "ARABIC LIGATURE YEH WITH HAMZA ABOVE WITH ",
     "OE FINAL FORM;YU ISOLATED FORM;YU FINAL FORM;E ISOLATED FORM;E FINAL FORM;E INITIAL FORM"⟩,
   ⟨0xfbf9, "ARABIC LIGATURE UIGHUR KIRGHIZ YEH WITH HAMZA ABOVE WITH ALEF MAKSURA ",
     "ISOLATED FORM;FINAL FORM;INITIAL FORM"⟩,
   ⟨0xfbfc, "ARABIC LETTER FARSI YEH ", "ISOLATED FORM;FINAL FORM;INITIAL FORM;MEDIAL FORM"⟩,
   ⟨0xfc00, "ARABIC LIGATURE YEH WITH HAMZA ABOVE WITH ", "JEEM ISOLATED FORM;HAH ISOLATED FORM"⟩,
   ⟨0xfc02, "ARABIC LIGATURE YEH WITH HAMZA ABOVE WITH ",
     "MEEM ISOLATED FORM;ALEF MAKSURA ISOLATED FORM;YEH ISOLATED FORM"⟩,
   ⟨0xfc05, "ARABIC LIGATURE BEH WITH ", "JEEM ISOLATED FORM;HAH ISOLATED FORM;KHAH ISOLATED FORM"⟩,
   ⟨0xfc08, "ARABIC LIGATURE BEH WITH ", "MEEM ISOLATED FORM;ALEF MAKSURA ISOLATED FORM"⟩,
   ⟨0xfc0a, "ARABIC LIGATURE ", "BEH WITH YEH ISOLATED FORM;TEH WITH JEEM ISOLATED FORM"⟩,
   ⟨0xfc0c, "ARABIC LIGATURE TEH WITH ", "HAH ISOLATED FORM;KHAH ISOLATED FORM;MEEM ISOLATED FORM"⟩,
   ⟨0xfc0f, "ARABIC LIGATURE TEH WITH ", "ALEF MAKSURA ISOLATED FORM;YEH ISOLATED FORM"⟩,
   ⟨0xfc11, "ARABIC LIGATURE THEH WITH ",
     "JEEM ISOLATED FORM;MEEM ISOLATED FORM;ALEF MAKSURA ISOLATED FORM;YEH ISOLATED FORM"⟩,
   ⟨0xfc15, "ARABIC LIGATURE JEEM WITH ", "HAH ISOLATED FORM;MEEM ISOLATED FORM"⟩,
   ⟨0xfc17, "ARABIC LIGATURE HAH WITH ", "JEEM ISOLATED FORM;MEEM ISOLATED FORM"⟩,
   ⟨0xfc19, "ARABIC LIGATURE KHAH WITH ", "JEEM ISOLATED FORM;HAH ISOLATED FORM"⟩,
   ⟨0xfc1b, "ARABIC LIGATURE ", "KHAH WITH MEEM ISOLATED FORM;SEEN WITH JEEM ISOLATED FORM"⟩,
   ⟨0xfc1d, "ARABIC LIGATURE SEEN WITH ", "HAH ISOLATED FORM;KHAH ISOLATED FORM"⟩,
   ⟨0xfc1f, "ARABIC LIGATURE S", "EEN WITH MEEM ISOLATED FORM;AD WITH HAH ISOLATED FORM"⟩,
   ⟨0xfc21, "ARABIC LIGATURE ", "SAD WITH MEEM ISOLATED FORM;DAD WITH JEEM ISOLATED FORM"⟩,
   ⟨0xfc23, "ARABIC LIGATURE DAD WITH ", "HAH ISOLATED FORM;KHAH ISOLATED FORM;MEEM ISOLATED FORM"⟩,
   ⟨0xfc26, "ARABIC LIGATURE TAH WITH ", "HAH ISOLATED FORM;MEEM ISOLATED FORM"⟩,
   ⟨0xfc28, "ARABIC LIGATURE ", "ZAH WITH MEEM ISOLATED FORM;AIN WITH JEEM ISOLATED FORM"⟩,
   ⟨0xfc2a, "ARABIC LIGATURE ", "AIN WITH MEEM ISOLATED FORM;GHAIN WITH JEEM ISOLATED FORM"⟩,
   ⟨0xfc2c, "ARABIC LIGATURE ", "GHAIN WITH MEEM ISOLATED FORM;FEH WITH JEEM ISOLATED FORM"⟩,
   ⟨0xfc2e, "ARABIC LIGATURE FEH WITH ", "HAH ISOLATED FORM;KHAH ISOLATED FORM;MEEM ISOLATED FORM"⟩,
   ⟨0xfc31, "ARABIC LIGATURE FEH WITH ", "ALEF MAKSURA ISOLATED FORM;YEH ISOLATED FORM"⟩,
   ⟨0xfc33, "ARABIC LIGATURE QAF WITH ",
     "HAH ISOLATED FORM;MEEM ISOLATED FORM;ALEF MAKSURA ISOLATED FORM;YEH ISOLATED FORM"⟩,
   ⟨0xfc37, "ARABIC LIGATURE KAF WITH ", "ALEF ISOLATED FORM;JEEM ISOLATED FORM;HAH ISOLATED FORM"⟩,
   ⟨0xfc3a, "ARABIC LIGATURE KAF WITH ", "KHAH ISOLATED FORM;LAM ISOLATED FORM;MEEM ISOLATED FORM"⟩,
   ⟨0xfc3d, "ARABIC LIGATURE KAF WITH ", "ALEF MAKSURA ISOLATED FORM;YEH ISOLATED FORM"⟩,
   ⟨0xfc3f, "ARABIC LIGATURE LAM WITH ", "JEEM ISOLATED FORM;HAH ISOLATED FORM;KHAH ISOLATED FORM"⟩,
   ⟨0xfc42, "ARABIC LIGATURE LAM WITH ", "MEEM ISOLATED FORM;ALEF MAKSURA ISOLATED FORM"⟩,
   ⟨0xfc44, "ARABIC LIGATURE ", "LAM WITH YEH ISOLATED FORM;MEEM WITH JEEM ISOLATED FORM"⟩,
   ⟨0xfc46, "ARABIC LIGATURE MEEM WITH ",
     "HAH ISOLATED FORM;KHAH ISOLATED FORM;MEEM ISOLATED FORM;ALEF MAKSURA ISOLATED FORM"⟩,
   ⟨0xfc4a, "ARABIC LIGATURE ", "MEEM WITH YEH ISOLATED FORM;NOON WITH JEEM ISOLATED FORM"⟩,
   ⟨0xfc4c, "ARABIC LIGATURE NOON WITH ",
     "HAH ISOLATED FORM;KHAH ISOLATED FORM;MEEM ISOLATED FORM;ALEF MAKSURA ISOLATED FORM"⟩,
   ⟨0xfc50, "ARABIC LIGATURE ", "NOON WITH YEH ISOLATED FORM;HEH WITH JEEM ISOLATED FORM"⟩,
   ⟨0xfc52, "ARABIC LIGATURE HEH WITH ", "MEEM ISOLATED FORM;ALEF MAKSURA ISOLATED FORM"⟩,
   ⟨0xfc54, "ARABIC LIGATURE ", "HEH WITH YEH ISOLATED FORM;YEH WITH JEEM ISOLATED FORM"⟩,
   ⟨0xfc56, "ARABIC LIGATURE YEH WITH ", "HAH ISOLATED FORM;KHAH ISOLATED FORM;MEEM ISOLATED FORM"⟩,
   ⟨0xfc59, "ARABIC LIGATURE YEH WITH ", "ALEF MAKSURA ISOLATED FORM;YEH ISOLATED FORM"⟩,
   ⟨0xfc5b, "ARABIC LIGATURE THAL WITH SUPERSCRIPT ALEF ISOLATED FORM", ""⟩,
   ⟨0xfc5c, "ARABIC LIGATURE ",
     "REH WITH SUPERSCRIPT ALEF ISOLATED FORM;ALEF MAKSURA WITH SUPERSCRIPT ALEF ISOLATED FORM"⟩,
   ⟨0xfc5e, "ARABIC LIGATURE SHADDA WITH ", "DAMMATAN ISOLATED FORM;KASRATAN ISOLATED FORM"⟩,
   ⟨0xfc60, "ARABIC LIGATURE SHADDA WITH ",
     "FATHA ISOLATED FORM;DAMMA ISOLATED FORM;KASRA ISOLATED FORM;SUPERSCRIPT ALEF ISOLATED FORM"⟩,
   ⟨0xfc64, "ARABIC LIGATURE YEH WITH HAMZA ABOVE WITH ",
     "REH FINAL FORM;ZAIN FINAL FORM;MEEM FINAL FORM;NOON FINAL FORM;ALEF MAKSURA FINAL FORM"⟩,
   ⟨0xfc69, "ARABIC LIGATURE ", "YEH WITH HAMZA ABOVE WITH YEH FINAL FORM;BEH WITH REH FINAL FORM"⟩,
   ⟨0xfc6b, "ARABIC LIGATURE BEH WITH ",
     "ZAIN FINAL FORM;MEEM FINAL FORM;NOON FINAL FORM;ALEF MAKSURA FINAL FORM;YEH FINAL FORM"⟩,
   ⟨0xfc70, "ARABIC LIGATURE TEH WITH ", "REH FINAL FORM;ZAIN FINAL FORM;MEEM FINAL FORM"⟩,
   ⟨0xfc73, "ARABIC LIGATURE TEH WITH ", "NOON FINAL FORM;ALEF MAKSURA FINAL FORM;YEH FINAL FORM"⟩,
   ⟨0xfc76, "ARABIC LIGATURE THEH WITH ", "REH FINAL FORM;ZAIN FINAL FORM;MEEM FINAL FORM"⟩,
   ⟨0xfc79, "ARABIC LIGATURE THEH WITH ", "NOON FINAL FORM;ALEF MAKSURA FINAL FORM;YEH FINAL FORM"⟩,
   ⟨0xfc7c, "ARABIC LIGATURE FEH WITH ", "ALEF MAKSURA FINAL FORM;YEH FINAL FORM"⟩,
   ⟨0xfc7e, "ARABIC LIGATURE QAF WITH ", "ALEF MAKSURA FINAL FORM;YEH FINAL FORM"⟩,
   ⟨0xfc80, "ARABIC LIGATURE KAF WITH ",
     "ALEF FINAL FORM;LAM FINAL FORM;MEEM FINAL FORM;ALEF MAKSURA FINAL FORM;YEH FINAL FORM"⟩,
   ⟨0xfc85, "ARABIC LIGATURE LAM WITH ", "MEEM FINAL FORM;ALEF MAKSURA FINAL FORM;YEH FINAL FORM"⟩,
   ⟨0xfc88, "ARABIC LIGATURE MEEM WITH ", "ALEF FINAL FORM;MEEM FINAL FORM"⟩,
   ⟨0xfc8a, "ARABIC LIGATURE NOON WITH ", "REH FINAL FORM;ZAIN FINAL FORM;MEEM FINAL FORM"⟩,
   ⟨0xfc8d, "ARABIC LIGATURE NOON WITH ", "NOON FINAL FORM;ALEF MAKSURA FINAL FORM;YEH FINAL FORM"⟩,
   ⟨0xfc90, "ARABIC LIGATURE ALEF MAKSURA WITH SUPERSCRIPT ALEF FINAL FORM", ""⟩,
   ⟨0xfc91, "ARABIC LIGATURE YEH WITH ", "REH FINAL FORM;ZAIN FINAL FORM;MEEM FINAL FORM"⟩,
   ⟨0xfc94, "ARABIC LIGATURE YEH WITH ", "NOON FINAL FORM;ALEF MAKSURA FINAL FORM;YEH FINAL FORM"⟩,
   ⟨0xfc97, "ARABIC LIGATURE YEH WITH HAMZA ABOVE WITH ",
     "JEEM INITIAL FORM;HAH INITIAL FORM;KHAH INITIAL FORM;MEEM INITIAL FORM;HEH INITIAL FORM"⟩,
   ⟨0xfc9c, "ARABIC LIGATURE BEH WITH ",
     "JEEM INITIAL FORM;HAH INITIAL FORM;KHAH INITIAL FORM;MEEM INITIAL FORM;HEH INITIAL FORM"⟩,
   ⟨0xfca1, "ARABIC LIGATURE TEH WITH ",
     "JEEM INITIAL FORM;HAH INITIAL FORM;KHAH INITIAL FORM;MEEM INITIAL FORM;HEH INITIAL FORM"⟩,
   ⟨0xfca6, "ARABIC LIGATURE ", "THEH WITH MEEM INITIAL FORM;JEEM WITH HAH INITIAL FORM"⟩,
   ⟨0xfca8, "ARABIC LIGATURE ", "JEEM WITH MEEM INITIAL FORM;HAH WITH JEEM INITIAL FORM"⟩,
   ⟨0xfcaa, "ARABIC LIGATURE ", "HAH WITH MEEM INITIAL FORM;KHAH WITH JEEM INITIAL FORM"⟩,
   ⟨0xfcac, "ARABIC LIGATURE ", "KHAH WITH MEEM INITIAL FORM;SEEN WITH JEEM INITIAL FORM"⟩,
   ⟨0xfcae, "ARABIC LIGATURE SEEN WITH ", "HAH INITIAL FORM;KHAH INITIAL FORM;MEEM INITIAL FORM"⟩,
   ⟨0xfcb1, "ARABIC LIGATURE SAD WITH ", "HAH INITIAL FORM;KHAH INITIAL FORM;MEEM INITIAL FORM"⟩,
   ⟨0xfcb4, "ARABIC LIGATURE DAD WITH ", "JEEM INITIAL FORM;HAH INITIAL FORM;KHAH INITIAL FORM"⟩,
   ⟨0xfcb7, "ARABIC LIGATURE ", "DAD WITH MEEM INITIAL FORM;TAH WITH HAH INITIAL FORM"⟩,
   ⟨0xfcb9, "ARABIC LIGATURE ", "ZAH WITH MEEM INITIAL FORM;AIN WITH JEEM INITIAL FORM"⟩,
   ⟨0xfcbb, "ARABIC LIGATURE ", "AIN WITH MEEM INITIAL FORM;GHAIN WITH JEEM INITIAL FORM"⟩,
   ⟨0xfcbd, "ARABIC LIGATURE ", "GHAIN WITH MEEM INITIAL FORM;FEH WITH JEEM INITIAL FORM"⟩,
   ⟨0xfcbf, "ARABIC LIGATURE FEH WITH ", "HAH INITIAL FORM;KHAH INITIAL FORM;MEEM INITIAL FORM"⟩,
   ⟨0xfcc2, "ARABIC LIGATURE QAF WITH ", "HAH INITIAL FORM;MEEM INITIAL FORM"⟩,
   ⟨0xfcc4, "ARABIC LIGATURE KAF WITH ",
     "JEEM INITIAL FORM;HAH INITIAL FORM;KHAH INITIAL FORM;LAM INITIAL FORM;MEEM INITIAL FORM"⟩,
   ⟨0xfcc9, "ARABIC LIGATURE LAM WITH ",
     "JEEM INITIAL FORM;HAH INITIAL FORM;KHAH INITIAL FORM;MEEM INITIAL FORM;HEH INITIAL FORM"⟩,
   ⟨0xfcce, "ARABIC LIGATURE MEEM WITH ", "JEEM INITIAL FORM;HAH INITIAL FORM;KHAH INITIAL FORM"⟩,
   ⟨0xfcd1, "ARABIC LIGATURE ", "MEEM WITH MEEM INITIAL FORM;NOON WITH JEEM INITIAL FORM"⟩,
   ⟨0xfcd3, "ARABIC LIGATURE NOON WITH ", "HAH INITIAL FORM;KHAH INITIAL FORM;MEEM INITIAL FORM"⟩,
   ⟨0xfcd6, "ARABIC LIGATURE ", "NOON WITH HEH INITIAL FORM;HEH WITH JEEM INITIAL FORM"⟩,
   ⟨0xfcd8, "ARABIC LIGATURE HEH WITH ", "MEEM INITIAL FORM;SUPERSCRIPT ALEF INITIAL FORM"⟩,
   ⟨0xfcda, "ARABIC LIGATURE YEH WITH ",
     "JEEM INITIAL FORM;HAH INITIAL FORM;KHAH INITIAL FORM;MEEM INITIAL FORM;HEH INITIAL FORM"⟩,
   ⟨0xfcdf, "ARABIC LIGATURE YEH WITH HAMZA ABOVE WITH ", "MEEM MEDIAL FORM;HEH MEDIAL FORM"⟩,
   ⟨0xfce1, "ARABIC LIGATURE BEH WITH ", "MEEM MEDIAL FORM;HEH MEDIAL FORM"⟩,
   ⟨0xfce3, "ARABIC LIGATURE TEH WITH ", "MEEM MEDIAL FORM;HEH MEDIAL FORM"⟩,
   ⟨0xfce5, "ARABIC LIGATURE THEH WITH ", "MEEM MEDIAL FORM;HEH MEDIAL FORM"⟩,
   ⟨0xfce7, "ARABIC LIGATURE SEEN WITH ", "MEEM MEDIAL FORM;HEH MEDIAL FORM"⟩,
   ⟨0xfce9, "ARABIC LIGATURE SHEEN WITH ", "MEEM MEDIAL FORM;HEH MEDIAL FORM"⟩,
   ⟨0xfceb, "ARABIC LIGATURE KAF WITH ", "LAM MEDIAL FORM;MEEM MEDIAL FORM"⟩,
   ⟨0xfced, "ARABIC LIGATURE ", "LAM WITH MEEM MEDIAL FORM;NOON WITH MEEM MEDIAL FORM"⟩,
   ⟨0xfcef, "ARABIC LIGATURE ", "NOON WITH HEH MEDIAL FORM;YEH WITH MEEM MEDIAL FORM"⟩,
   ⟨0xfcf1, "ARABIC LIGATURE ", "YEH WITH HEH MEDIAL FORM;SHADDA WITH FATHA MEDIAL FORM"⟩,
   ⟨0xfcf3, "ARABIC LIGATURE SHADDA WITH ", "DAMMA MEDIAL FORM;KASRA MEDIAL FORM"⟩,
   ⟨0xfcf5, "ARABIC LIGATURE TAH WITH ", "ALEF MAKSURA ISOLATED FORM;YEH ISOLATED FORM"⟩,
   ⟨0xfcf7, "ARABIC LIGATURE AIN WITH ", "ALEF MAKSURA ISOLATED FORM;YEH ISOLATED FORM"⟩,
   ⟨0xfcf9, "ARABIC LIGATURE GHAIN WITH ", "ALEF MAKSURA ISOLATED FORM;YEH ISOLATED FORM"⟩,
   ⟨0xfcfb, "ARABIC LIGATURE SEEN WITH ALEF MAKSURA ISOLATED FORM", ""⟩,
   ⟨0xfcfc, "ARABIC LIGATURE S", "EEN WITH YEH ISOLATED FORM;HEEN WITH ALEF MAKSURA ISOLATED FORM"⟩,
   ⟨0xfcfe, "ARABIC LIGATURE ", "SHEEN WITH YEH ISOLATED FORM;HAH WITH ALEF MAKSURA ISOLATED FORM"⟩,
   ⟨0xfd00, "ARABIC LIGATURE ", "HAH WITH YEH ISOLATED FORM;JEEM WITH ALEF MAKSURA ISOLATED FORM"⟩,
   ⟨0xfd02, "ARABIC LIGATURE ", "JEEM WITH YEH ISOLATED FORM;KHAH WITH ALEF MAKSURA ISOLATED FORM"⟩,
   ⟨0xfd04, "ARABIC LIGATURE ", "KHAH WITH YEH ISOLATED FORM;SAD WITH ALEF MAKSURA ISOLATED FORM"⟩,
   ⟨0xfd06, "ARABIC LIGATURE ", "SAD WITH YEH ISOLATED FORM;DAD WITH ALEF MAKSURA ISOLATED FORM"⟩,
   ⟨0xfd08, "ARABIC LIGATURE ", "DAD WITH YEH ISOLATED FORM;SHEEN WITH JEEM ISOLATED FORM"⟩,
   ⟨0xfd0a, "ARABIC LIGATURE SHEEN WITH ",
     "HAH ISOLATED FORM;KHAH ISOLATED FORM;MEEM ISOLATED FORM;REH ISOLATED FORM"⟩,
   ⟨0xfd0e, "ARABIC LIGATURE S", "EEN WITH REH ISOLATED FORM;AD WITH REH ISOLATED FORM"⟩,
   ⟨0xfd10, "ARABIC LIGATURE ", "DAD WITH REH ISOLATED FORM;TAH WITH ALEF MAKSURA FINAL FORM"⟩,
   ⟨0xfd12, "ARABIC LIGATURE ", "TAH WITH YEH FINAL FORM;AIN WITH ALEF MAKSURA FINAL FORM"⟩,
   ⟨0xfd14, "ARABIC LIGATURE ", "AIN WITH YEH FINAL FORM;GHAIN WITH ALEF MAKSURA FINAL FORM"⟩,
   ⟨0xfd16, "ARABIC LIGATURE ", "GHAIN WITH YEH FINAL FORM;SEEN WITH ALEF MAKSURA FINAL FORM"⟩,
   ⟨0xfd18, "ARABIC LIGATURE S", "EEN WITH YEH FINAL FORM;HEEN WITH ALEF MAKSURA FINAL FORM"⟩,
   ⟨0xfd1a, "ARABIC LIGATURE ", "SHEEN WITH YEH FINAL FORM;HAH WITH ALEF MAKSURA FINAL FORM"⟩,
   ⟨0xfd1c, "ARABIC LIGATURE ", "HAH WITH YEH FINAL FORM;JEEM WITH ALEF MAKSURA FINAL FORM"⟩,
   ⟨0xfd1e, "ARABIC LIGATURE ", "JEEM WITH YEH FINAL FORM;KHAH WITH ALEF MAKSURA FINAL FORM"⟩,
   ⟨0xfd20, "ARABIC LIGATURE ", "KHAH WITH YEH FINAL FORM;SAD WITH ALEF MAKSURA FINAL FORM"⟩,
   ⟨0xfd22, "ARABIC LIGATURE ", "SAD WITH YEH FINAL FORM;DAD WITH ALEF MAKSURA FINAL FORM"⟩,
   ⟨0xfd24, "ARABIC LIGATURE ", "DAD WITH YEH FINAL FORM;SHEEN WITH JEEM FINAL FORM"⟩,
   ⟨0xfd26, "ARABIC LIGATURE SHEEN WITH ", "HAH FINAL FORM;KHAH FINAL FORM;MEEM FINAL FORM"⟩,
   ⟨0xfd29, "ARABIC LIGATURE S", "HEEN WITH REH FINAL FORM;EEN WITH REH FINAL FORM"⟩,
   ⟨0xfd2b, "ARABIC LIGATURE ", "SAD WITH REH FINAL FORM;DAD WITH REH FINAL FORM"⟩,
   ⟨0xfd2d, "ARABIC LIGATURE SHEEN WITH ", "JEEM INITIAL FORM;HAH INITIAL FORM;KHAH INITIAL FORM"⟩,
   ⟨0xfd30, "ARABIC LIGATURE S", "HEEN WITH MEEM INITIAL FORM;EEN WITH HEH INITIAL FORM"⟩,
   ⟨0xfd32, "ARABIC LIGATURE ", "SHEEN WITH HEH INITIAL FORM;TAH WITH MEEM INITIAL FORM"⟩,
   ⟨0xfd34, "ARABIC LIGATURE SEEN WITH ", "JEEM MEDIAL FORM;HAH MEDIAL FORM;KHAH MEDIAL FORM"⟩,
   ⟨0xfd37, "ARABIC LIGATURE SHEEN WITH ", "JEEM MEDIAL FORM;HAH MEDIAL FORM;KHAH MEDIAL FORM"⟩,
   ⟨0xfd3a, "ARABIC LIGATURE ", "TAH WITH MEEM MEDIAL FORM;ZAH WITH MEEM MEDIAL FORM"⟩,
   ⟨0xfd3c, "ARABIC LIGATURE ALEF WITH FATHATAN ", "FINAL FORM;ISOLATED FORM"⟩,
   ⟨0xfd3e, "", "ORNATE LEFT PARENTHESIS;ORNATE RIGHT PARENTHESIS;ARABIC LIGATURE RAHIMAHU ALLAAH"⟩,
   ⟨0xfd41, "ARABIC LIGATURE RADI ALLAAHU ANH", ";AA;UM;UMAA;UNNA"⟩,
   ⟨0xfd46, "ARABIC LIGATURE ", "SALLALLAAHU ALAYHI WA-AALIH;ALAYHI AS-SALAAM;ALAYHIM AS-SALAAM"⟩,
   ⟨0xfd49, "ARABIC LIGATURE ", "ALAYHIMAA AS-SALAAM;ALAYHI AS-SALAATU WAS-SALAAM;QUDDISA SIRRAH"⟩,
   ⟨0xfd4c, "ARABIC LIGATURE ", "SALLALLAHU ALAYHI WAAALIHEE WA-SALLAM;ALAYHAA AS-SALAAM"⟩,
   ⟨0xfd4e, "ARABIC LIGATURE ", "TABAARAKA WA-TAAALAA;RAHIMAHUM ALLAAH"⟩,
   ⟨0xfd50, "ARABIC LIGATURE TEH WITH ", "JEEM WITH MEEM INITIAL FORM;HAH WITH JEEM FINAL FORM"⟩,
   ⟨0xfd52, "ARABIC LIGATURE TEH WITH HAH WITH ", "JEEM INITIAL FORM;MEEM INITIAL FORM"⟩,
   ⟨0xfd54, "ARABIC LIGATURE TEH WITH ", "KHAH WITH MEEM INITIAL FORM;MEEM WITH JEEM INITIAL FORM"⟩,
   ⟨0xfd56, "ARABIC LIGATURE TEH WITH MEEM WITH ", "HAH INITIAL FORM;KHAH INITIAL FORM"⟩,
   ⟨0xfd58, "ARABIC LIGATURE JEEM WITH MEEM WITH HAH ", "FINAL FORM;INITIAL FORM"⟩,
   ⟨0xfd5a, "ARABIC LIGATURE HAH WITH MEEM WITH ", "YEH FINAL FORM;ALEF MAKSURA FINAL FORM"⟩,
   ⟨0xfd5c, "ARABIC LIGATURE SEEN WITH ",
     "HAH WITH JEEM INITIAL FORM;JEEM WITH HAH INITIAL FORM;JEEM WITH ALEF MAKSURA FINAL FORM"⟩,
   ⟨0xfd5f, "ARABIC LIGATURE SEEN WITH MEEM WITH ",
     "HAH FINAL FORM;HAH INITIAL FORM;JEEM INITIAL FORM;MEEM FINAL FORM;MEEM INITIAL FORM"⟩,
   ⟨0xfd64, "ARABIC LIGATURE SAD WITH ",
     "HAH WITH HAH FINAL FORM;HAH WITH HAH INITIAL FORM;MEEM WITH MEEM FINAL FORM"⟩,
   ⟨0xfd67, "ARABIC LIGATURE SHEEN WITH ",
     "HAH WITH MEEM FINAL FORM;HAH WITH MEEM INITIAL FORM;JEEM WITH YEH FINAL FORM"⟩,
   ⟨0xfd6a, "ARABIC LIGATURE SHEEN WITH MEEM WITH ",
     "KHAH FINAL FORM;KHAH INITIAL FORM;MEEM FINAL FORM;MEEM INITIAL FORM"⟩,
   ⟨0xfd6e, "ARABIC LIGATURE DAD WITH ",
     "HAH WITH ALEF MAKSURA FINAL FORM;KHAH WITH MEEM FINAL FORM;KHAH WITH MEEM INITIAL FORM"⟩,
   ⟨0xfd71, "ARABIC LIGATURE TAH WITH MEEM WITH ",
     "HAH FINAL FORM;HAH INITIAL FORM;MEEM INITIAL FORM;YEH FINAL FORM"⟩,
   ⟨0xfd75, "ARABIC LIGATURE AIN WITH ", "JEEM WITH MEEM FINAL FORM;MEEM WITH MEEM FINAL FORM"⟩,
   ⟨0xfd77, "ARABIC LIGATURE AIN WITH MEEM WITH ", "MEEM INITIAL FORM;ALEF MAKSURA FINAL FORM"⟩,
   ⟨0xfd79, "ARABIC LIGATURE GHAIN WITH MEEM WITH ",
     "MEEM FINAL FORM;YEH FINAL FORM;ALEF MAKSURA FINAL FORM"⟩,
   ⟨0xfd7c, "ARABIC LIGATURE FEH WITH KHAH WITH MEEM ", "FINAL FORM;INITIAL FORM"⟩,
   ⟨0xfd7e, "ARABIC LIGATURE QAF WITH MEEM WITH ", "HAH FINAL FORM;MEEM FINAL FORM"⟩,
   ⟨0xfd80, "ARABIC LIGATURE LAM WITH HAH WITH ", "MEEM FINAL FORM;YEH FINAL FORM"⟩,
   ⟨0xfd82, "ARABIC LIGATURE LAM WITH ",
     "HAH WITH ALEF MAKSURA FINAL FORM;JEEM WITH JEEM INITIAL FORM;JEEM WITH JEEM FINAL FORM"⟩,
   ⟨0xfd85, "ARABIC LIGATURE LAM WITH KHAH WITH MEEM ", "FINAL FORM;INITIAL FORM"⟩,
   ⟨0xfd87, "ARABIC LIGATURE LAM WITH MEEM WITH HAH ", "FINAL FORM;INITIAL FORM"⟩,
   ⟨0xfd89, "ARABIC LIGATURE MEEM WITH HAH WITH ", "JEEM INITIAL FORM;MEEM INITIAL FORM"⟩,
   ⟨0xfd8b, "ARABIC LIGATURE MEEM WITH ", "HAH WITH YEH FINAL FORM;JEEM WITH HAH INITIAL FORM"⟩,
   ⟨0xfd8d, "ARABIC LIGATURE MEEM WITH ",
     "JEEM WITH MEEM INITIAL FORM;KHAH WITH JEEM INITIAL FORM;KHAH WITH MEEM INITIAL FORM"⟩,
   ⟨0xfd92, "ARABIC LIGATURE MEEM WITH JEEM WITH KHAH INITIAL FORM", ""⟩,
   ⟨0xfd93, "ARABIC LIGATURE HEH WITH MEEM WITH ", "JEEM INITIAL FORM;MEEM INITIAL FORM"⟩,
   ⟨0xfd95, "ARABIC LIGATURE NOON WITH ",
     "HAH WITH MEEM INITIAL FORM;HAH WITH ALEF MAKSURA FINAL FORM;JEEM WITH MEEM FINAL FORM"⟩,
   ⟨0xfd98, "ARABIC LIGATURE NOON WITH JEEM WITH ", "MEEM INITIAL FORM;ALEF MAKSURA FINAL FORM"⟩,
   ⟨0xfd9a, "ARABIC LIGATURE NOON WITH MEEM WITH ", "YEH FINAL FORM;ALEF MAKSURA FINAL FORM"⟩,
   ⟨0xfd9c, "ARABIC LIGATURE YEH WITH MEEM WITH MEEM ", "FINAL FORM;INITIAL FORM"⟩,
   ⟨0xfd9e, "ARABIC LIGATURE BEH WITH KHAH WITH YEH FINAL FORM", ""⟩,
   ⟨0xfd9f, "ARABIC LIGATURE TEH WITH JEEM WITH ", "YEH FINAL FORM;ALEF MAKSURA FINAL FORM"⟩,
   ⟨0xfda1, "ARABIC LIGATURE TEH WITH KHAH WITH ", "YEH FINAL FORM;ALEF MAKSURA FINAL FORM"⟩,
   ⟨0xfda3, "ARABIC LIGATURE TEH WITH MEEM WITH ", "YEH FINAL FORM;ALEF MAKSURA FINAL FORM"⟩,
   ⟨0xfda5, "ARABIC LIGATURE JEEM WITH ",
     "MEEM WITH YEH FINAL FORM;HAH WITH ALEF MAKSURA FINAL FORM;MEEM WITH ALEF MAKSURA FINAL FORM"⟩,
   ⟨0xfda8, "ARABIC LIGATURE S",
     "EEN WITH KHAH WITH ALEF MAKSURA FINAL FORM;AD WITH HAH WITH YEH FINAL FORM"⟩,
   ⟨0xfdaa, "ARABIC LIGATURE ",
     "SHEEN WITH HAH WITH YEH FINAL FORM;DAD WITH HAH WITH YEH FINAL FORM"⟩,
   ⟨0xfdac, "ARABIC LIGATURE LAM WITH ", "JEEM WITH YEH FINAL FORM;MEEM WITH YEH FINAL FORM"⟩,
   ⟨0xfdae, "ARABIC LIGATURE YEH WITH ", "HAH WITH YEH FINAL FORM;JEEM WITH YEH FINAL FORM"⟩,
   ⟨0xfdb0, "ARABIC LIGATURE ",
     "YEH WITH MEEM WITH YEH FINAL FORM;MEEM WITH MEEM WITH YEH FINAL FORM"⟩,
   ⟨0xfdb2, "ARABIC LIGATURE ",
     "QAF WITH MEEM WITH YEH FINAL FORM;NOON WITH HAH WITH YEH FINAL FORM"⟩,
   ⟨0xfdb4, "ARABIC LIGATURE ",
     "QAF WITH MEEM WITH HAH INITIAL FORM;LAM WITH HAH WITH MEEM INITIAL FORM"⟩,
   ⟨0xfdb6, "ARABIC LIGATURE ",
     "AIN WITH MEEM WITH YEH FINAL FORM;KAF WITH MEEM WITH YEH FINAL FORM"⟩,
   ⟨0xfdb8, "ARABIC LIGATURE ",
     "NOON WITH JEEM WITH HAH INITIAL FORM;MEEM WITH KHAH WITH YEH FINAL FORM"⟩,
   ⟨0xfdba, "ARABIC LIGATURE ",
     "LAM WITH JEEM WITH MEEM INITIAL FORM;KAF WITH MEEM WITH MEEM FINAL FORM"⟩,
   ⟨0xfdbc, "ARABIC LIGATURE ",
     "LAM WITH JEEM WITH MEEM FINAL FORM;NOON WITH JEEM WITH HAH FINAL FORM"⟩,
   ⟨0xfdbe, "ARABIC LIGATURE ",
     "JEEM WITH HAH WITH YEH FINAL FORM;HAH WITH JEEM WITH YEH FINAL FORM"⟩,
   ⟨0xfdc0, "ARABIC LIGATURE ",
     "MEEM WITH JEEM WITH YEH FINAL FORM;FEH WITH MEEM WITH YEH FINAL FORM"⟩,
   ⟨0xfdc2, "ARABIC LIGATURE ",
     "BEH WITH HAH WITH YEH FINAL FORM;KAF WITH MEEM WITH MEEM INITIAL FORM"⟩,
   ⟨0xfdc4, "ARABIC LIGATURE ",
     "AIN WITH JEEM WITH MEEM INITIAL FORM;SAD WITH MEEM WITH MEEM INITIAL FORM"⟩,
   ⟨0xfdc6, "ARABIC LIGATURE ",
     "SEEN WITH KHAH WITH YEH FINAL FORM;NOON WITH JEEM WITH YEH FINAL FORM"⟩,
   ⟨0xfdcf, "ARABIC LIGATURE SALAAMUHU ALAYNAA", ""⟩,
   ⟨0xfdf0, "ARABIC LIGATURE SALLA USED AS KORANIC STOP SIGN ISOLATED FORM", ""⟩,
   ⟨0xfdf1, "ARABIC LIGATURE ", "QALA USED AS KORANIC STOP SIGN ISOLATED FORM;ALLAH ISOLATED FORM"⟩,
   ⟨0xfdf3, "ARABIC LIGATURE ", "AKBAR ISOLATED FORM;MOHAMMAD ISOLATED FORM;SALAM ISOLATED FORM"⟩,
   ⟨0xfdf6, "ARABIC LIGATURE ", "RASOUL ISOLATED FORM;ALAYHE ISOLATED FORM;WASALLAM ISOLATED FORM"⟩,
   ⟨0xfdf9, "ARABIC LIGATURE ", "SALLA ISOLATED FORM;SALLALLAHOU ALAYHE WASALLAM;JALLAJALALOUHOU"⟩,
   ⟨0xfdfc, "", "RIAL SIGN;ARABIC LIGATURE BISMILLAH AR-RAHMAN AR-RAHEEM"⟩,
   ⟨0xfdfe, "ARABIC LIGATURE ", "SUBHAANAHU WA TAAALAA;AZZA WA JALL"⟩]

/-- The names in the block Variation Selectors. -/
def variationSelectors : List NameRun :=
  [⟨0xfe00, "VARIATION SELECTOR-", "1;2;3;4;5;6;7;8;9;10;11;12;13;14;15;16"⟩]

/-- The names in the block Vertical Forms. -/
def verticalForms : List NameRun :=
  [⟨0xfe10, "PRESENTATION FORM FOR VERTICAL ", "COMMA;IDEOGRAPHIC COMMA;IDEOGRAPHIC FULL STOP"⟩,
   ⟨0xfe13, "PRESENTATION FORM FOR VERTICAL ", "COLON;SEMICOLON;EXCLAMATION MARK;QUESTION MARK"⟩,
   ⟨0xfe17, "PRESENTATION FORM FOR VERTICAL ",
     "LEFT WHITE LENTICULAR BRACKET;RIGHT WHITE LENTICULAR BRAKCET;HORIZONTAL ELLIPSIS"⟩]

/-- The names in the block Combining Half Marks. -/
def combiningHalfMarks : List NameRun :=
  [⟨0xfe20, "COMBINING ", "LIGATURE LEFT HALF;LIGATURE RIGHT HALF;DOUBLE TILDE LEFT HALF"⟩,
   ⟨0xfe23, "COMBINING ", "DOUBLE TILDE RIGHT HALF;MACRON LEFT HALF"⟩,
   ⟨0xfe25, "COMBINING ", "MACRON RIGHT HALF;CONJOINING MACRON;LIGATURE LEFT HALF BELOW"⟩,
   ⟨0xfe28, "COMBINING ", "LIGATURE RIGHT HALF BELOW;TILDE LEFT HALF BELOW;TILDE RIGHT HALF BELOW"⟩,
   ⟨0xfe2b, "COMBINING ", "MACRON LEFT HALF BELOW;MACRON RIGHT HALF BELOW;CONJOINING MACRON BELOW"⟩,
   ⟨0xfe2e, "COMBINING CYRILLIC TITLO ", "LEFT HALF;RIGHT HALF"⟩]

/-- The names in the block CJK Compatibility Forms. -/
def cjkCompatibilityForms : List NameRun :=
  [⟨0xfe30, "PRESENTATION FORM FOR VERTICAL ",
     "TWO DOT LEADER;EM DASH;EN DASH;LOW LINE;WAVY LOW LINE;LEFT PARENTHESIS"⟩,
   ⟨0xfe36, "PRESENTATION FORM FOR VERTICAL ",
     "RIGHT PARENTHESIS;LEFT CURLY BRACKET;RIGHT CURLY BRACKET;LEFT TORTOISE SHELL BRACKET"⟩,
   ⟨0xfe3a, "PRESENTATION FORM FOR VERTICAL ",
     "RIGHT TORTOISE SHELL BRACKET;LEFT BLACK LENTICULAR BRACKET;RIGHT BLACK LENTICULAR BRACKET"⟩,
   ⟨0xfe3d, "PRESENTATION FORM FOR VERTICAL ",
     "LEFT DOUBLE ANGLE BRACKET;RIGHT DOUBLE ANGLE BRACKET;LEFT ANGLE BRACKET"⟩,
   ⟨0xfe40, "PRESENTATION FORM FOR VERTICAL ",
     "RIGHT ANGLE BRACKET;LEFT CORNER BRACKET;RIGHT CORNER BRACKET;LEFT WHITE CORNER BRACKET"⟩,
   ⟨0xfe44, "", "PRESENTATION FORM FOR VERTICAL RIGHT WHITE CORNER BRACKET;SESAME DOT"⟩,
   ⟨0xfe46, "", "WHITE SESAME DOT;PRESENTATION FORM FOR VERTICAL LEFT SQUARE BRACKET"⟩,
   ⟨0xfe48, "", "PRESENTATION FORM FOR VERTICAL RIGHT SQUARE BRACKET;DASHED OVERLINE"⟩,
   ⟨0xfe4a, "", "CENTRELINE OVERLINE;WAVY OVERLINE"⟩,
   ⟨0xfe4c, "", "DOUBLE WAVY OVERLINE;DASHED LOW LINE;CENTRELINE LOW LINE;WAVY LOW LINE"⟩]

/-- The names in the block Small Form Variants. -/
def smallFormVariants : List NameRun :=
  [⟨0xfe50, "SMALL ", "COMMA;IDEOGRAPHIC COMMA;FULL STOP"⟩,
   ⟨0xfe54, "SMALL ", "SEMICOLON;COLON;QUESTION MARK;EXCLAMATION MARK;EM DASH"⟩,
   ⟨0xfe59, "SMALL ", "LEFT PARENTHESIS;RIGHT PARENTHESIS;LEFT CURLY BRACKET;RIGHT CURLY BRACKET"⟩,
   ⟨0xfe5d, "SMALL ", "LEFT TORTOISE SHELL BRACKET;RIGHT TORTOISE SHELL BRACKET;NUMBER SIGN"⟩,
   ⟨0xfe60, "SMALL ",
     "AMPERSAND;ASTERISK;PLUS SIGN;HYPHEN-MINUS;LESS-THAN SIGN;GREATER-THAN SIGN;EQUALS SIGN"⟩,
   ⟨0xfe68, "SMALL ", "REVERSE SOLIDUS;DOLLAR SIGN;PERCENT SIGN;COMMERCIAL AT"⟩]

/-- The names in the block Arabic Presentation Forms-B. -/
def arabicPresentationFormsB : List NameRun :=
  [⟨0xfe70, "ARABIC ", "FATHATAN ISOLATED FORM;TATWEEL WITH FATHATAN ABOVE"⟩,
   ⟨0xfe72, "ARABIC ", "DAMMATAN ISOLATED FORM;TAIL FRAGMENT;KASRATAN ISOLATED FORM"⟩,
   ⟨0xfe76, "ARABIC ", "FATHA ISOLATED FORM;FATHA MEDIAL FORM;DAMMA ISOLATED FORM"⟩,
   ⟨0xfe79, "ARABIC ", "DAMMA MEDIAL FORM;KASRA ISOLATED FORM"⟩,
   ⟨0xfe7b, "ARABIC ", "KASRA MEDIAL FORM;SHADDA ISOLATED FORM;SHADDA MEDIAL FORM"⟩,
   ⟨0xfe7e, "ARABIC ", "SUKUN ISOLATED FORM;SUKUN MEDIAL FORM;LETTER HAMZA ISOLATED FORM"⟩,
   ⟨0xfe81, "ARABIC LETTER ALEF WITH MADDA ABOVE ", "ISOLATED FORM;FINAL FORM"⟩,
   ⟨0xfe83, "ARABIC LETTER ALEF WITH HAMZA ABOVE ", "ISOLATED FORM;FINAL FORM"⟩,
   ⟨0xfe85, "ARABIC LETTER WAW WITH HAMZA ABOVE ", "ISOLATED FORM;FINAL FORM"⟩,
   ⟨0xfe87, "ARABIC LETTER ALEF WITH HAMZA BELOW ", "ISOLATED FORM;FINAL FORM"⟩,
   ⟨0xfe89, "ARABIC LETTER YEH WITH HAMZA ABOVE ", "ISOLATED FORM;FINAL FORM;INITIAL FORM"⟩,
   ⟨0xfe8c, "ARABIC LETTER ", "YEH WITH HAMZA ABOVE MEDIAL FORM;ALEF ISOLATED FORM"⟩,
   ⟨0xfe8e, "ARABIC LETTER ", "ALEF FINAL FORM;BEH ISOLATED FORM;BEH FINAL FORM;BEH INITIAL FORM"⟩,
   ⟨0xfe92, "ARABIC LETTER ", "BEH MEDIAL FORM;TEH MARBUTA ISOLATED FORM;TEH MARBUTA FINAL FORM"⟩,
   ⟨0xfe95, "ARABIC LETTER TEH ", "ISOLATED FORM;FINAL FORM;INITIAL FORM;MEDIAL FORM"⟩,
   ⟨0xfe99, "ARABIC LETTER THEH ", "ISOLATED FORM;FINAL FORM;INITIAL FORM;MEDIAL FORM"⟩,
   ⟨0xfe9d, "ARABIC LETTER JEEM ", "ISOLATED FORM;FINAL FORM;INITIAL FORM;MEDIAL FORM"⟩,
   ⟨0xfea1, "ARABIC LETTER HAH ", "ISOLATED FORM;FINAL FORM;INITIAL FORM;MEDIAL FORM"⟩,
   ⟨0xfea5, "ARABIC LETTER KHAH ", "ISOLATED FORM;FINAL FORM;INITIAL FORM;MEDIAL FORM"⟩,
   ⟨0xfea9, "ARABIC LETTER ", "DAL ISOLATED FORM;DAL FINAL FORM;THAL ISOLATED FORM"⟩,
   ⟨0xfeac, "ARABIC LETTER ",
     "THAL FINAL FORM;REH ISOLATED FORM;REH FINAL FORM;ZAIN ISOLATED FORM;ZAIN FINAL FORM"⟩,
   ⟨0xfeb1, "ARABIC LETTER SEEN ", "ISOLATED FORM;FINAL FORM;INITIAL FORM;MEDIAL FORM"⟩,
   ⟨0xfeb5, "ARABIC LETTER SHEEN ", "ISOLATED FORM;FINAL FORM;INITIAL FORM;MEDIAL FORM"⟩,
   ⟨0xfeb9, "ARABIC LETTER SAD ", "ISOLATED FORM;FINAL FORM;INITIAL FORM;MEDIAL FORM"⟩,
   ⟨0xfebd, "ARABIC LETTER DAD ", "ISOLATED FORM;FINAL FORM;INITIAL FORM;MEDIAL FORM"⟩,
   ⟨0xfec1, "ARABIC LETTER TAH ", "ISOLATED FORM;FINAL FORM;INITIAL FORM;MEDIAL FORM"⟩,
   ⟨0xfec5, "ARABIC LETTER ZAH ", "ISOLATED FORM;FINAL FORM;INITIAL FORM;MEDIAL FORM"⟩,
   ⟨0xfec9, "ARABIC LETTER AIN ", "ISOLATED FORM;FINAL FORM;INITIAL FORM;MEDIAL FORM"⟩,
   ⟨0xfecd, "ARABIC LETTER GHAIN ", "ISOLATED FORM;FINAL FORM;INITIAL FORM;MEDIAL FORM"⟩,
   ⟨0xfed1, "ARABIC LETTER FEH ", "ISOLATED FORM;FINAL FORM;INITIAL FORM;MEDIAL FORM"⟩,
   ⟨0xfed5, "ARABIC LETTER QAF ", "ISOLATED FORM;FINAL FORM;INITIAL FORM;MEDIAL FORM"⟩,
   ⟨0xfed9, "ARABIC LETTER KAF ", "ISOLATED FORM;FINAL FORM;INITIAL FORM;MEDIAL FORM"⟩,
   ⟨0xfedd, "ARABIC LETTER LAM ", "ISOLATED FORM;FINAL FORM;INITIAL FORM;MEDIAL FORM"⟩,
   ⟨0xfee1, "ARABIC LETTER MEEM ", "ISOLATED FORM;FINAL FORM;INITIAL FORM;MEDIAL FORM"⟩,
   ⟨0xfee5, "ARABIC LETTER ",
     "NOON ISOLATED FORM;NOON FINAL FORM;NOON INITIAL FORM;NOON MEDIAL FORM;HEH ISOLATED FORM"⟩,
   ⟨0xfeea, "ARABIC LETTER ", "HEH FINAL FORM;HEH INITIAL FORM;HEH MEDIAL FORM;WAW ISOLATED FORM"⟩,
   ⟨0xfeee, "ARABIC LETTER ", "WAW FINAL FORM;ALEF MAKSURA ISOLATED FORM;ALEF MAKSURA FINAL FORM"⟩,
   ⟨0xfef1, "ARABIC LETTER YEH ", "ISOLATED FORM;FINAL FORM;INITIAL FORM;MEDIAL FORM"⟩,
   ⟨0xfef5, "ARABIC LIGATURE LAM WITH ALEF WITH MADDA ABOVE ", "ISOLATED FORM;FINAL FORM"⟩,
   ⟨0xfef7, "ARABIC LIGATURE LAM WITH ALEF WITH HAMZA ",
     "ABOVE ISOLATED FORM;ABOVE FINAL FORM;BELOW ISOLATED FORM;BELOW FINAL FORM"⟩,
   ⟨0xfefb, "ARABIC LIGATURE LAM WITH ALEF ", "ISOLATED FORM;FINAL FORM"⟩,
   ⟨0xfeff, "ZERO WIDTH NO-BREAK SPACE", ""⟩]

/-- The names in the block Halfwidth and Fullwidth Forms. -/
def halfwidthAndFullwidthForms : List NameRun :=
  [⟨0xff01, "FULLWIDTH ", "EXCLAMATION MARK;QUOTATION MARK;NUMBER SIGN;DOLLAR SIGN"⟩,
   ⟨0xff05, "FULLWIDTH ", "PERCENT SIGN;AMPERSAND;APOSTROPHE;LEFT PARENTHESIS;RIGHT PARENTHESIS"⟩,
   ⟨0xff0a, "FULLWIDTH ", "ASTERISK;PLUS SIGN;COMMA;HYPHEN-MINUS;FULL STOP;SOLIDUS"⟩,
   ⟨0xff10, "FULLWIDTH DIGIT ", "ZERO;ONE;TWO;THREE;FOUR;FIVE;SIX;SEVEN;EIGHT;NINE"⟩,
   ⟨0xff1a, "FULLWIDTH ",
     "COLON;SEMICOLON;LESS-THAN SIGN;EQUALS SIGN;GREATER-THAN SIGN;QUESTION MARK;COMMERCIAL AT"⟩,
   ⟨0xff21, "FULLWIDTH LATIN CAPITAL LETTER ", "A;B;C;D;E;F;G;H;I;J;K;L;M;N;O;P;Q;R;S;T;U;V;W;X;Y"⟩,
   ⟨0xff3a, "FULLWIDTH ", "LATIN CAPITAL LETTER Z;LEFT SQUARE BRACKET;REVERSE SOLIDUS"⟩,
   ⟨0xff3d, "FULLWIDTH ", "RIGHT SQUARE BRACKET;CIRCUMFLEX ACCENT;LOW LINE;GRAVE ACCENT"⟩,
   ⟨0xff41, "FULLWIDTH LATIN SMALL LETTER ", "A;B;C;D;E;F;G;H;I;J;K;L;M;N;O;P;Q;R;S;T;U;V;W;X;Y;Z"⟩,
   ⟨0xff5b, "FULLWIDTH ", "LEFT CURLY BRACKET;VERTICAL LINE;RIGHT CURLY BRACKET"⟩,
   ⟨0xff5e, "FULLWIDTH ", "TILDE;LEFT WHITE PARENTHESIS;RIGHT WHITE PARENTHESIS"⟩,
   ⟨0xff61, "HALFWIDTH ", "IDEOGRAPHIC FULL STOP;LEFT CORNER BRACKET;RIGHT CORNER BRACKET"⟩,
   ⟨0xff64, "HALFWIDTH ", "IDEOGRAPHIC COMMA;KATAKANA MIDDLE DOT;KATAKANA LETTER WO"⟩,
   ⟨0xff67, "HALFWIDTH KATAKANA LETTER SMALL ", "A;I;U;E;O;YA;YU;YO;TU"⟩,
   ⟨0xff70, "HALFWIDTH KATAKANA", "-HIRAGANA PROLONGED SOUND MARK; LETTER A; LETTER I; LETTER U"⟩,
   ⟨0xff74, "HALFWIDTH KATAKANA LETTER ", "E;O;KA;KI;KU;KE;KO;SA;SI;SU;SE;SO;TA;TI;TU;TE;TO;NA;NI"⟩,
   ⟨0xff87, "HALFWIDTH KATAKANA LETTER ", "NU;NE;NO;HA;HI;HU;HE;HO;MA;MI;MU;ME;MO;YA;YU;YO;RA;RI"⟩,
   ⟨0xff99, "HALFWIDTH KATAKANA ",
     "LETTER RU;LETTER RE;LETTER RO;LETTER WA;LETTER N;VOICED SOUND MARK;SEMI-VOICED SOUND MARK"⟩,
   ⟨0xffa0, "HALFWIDTH HANGUL ", "FILLER;LETTER KIYEOK;LETTER SSANGKIYEOK;LETTER KIYEOK-SIOS"⟩,
   ⟨0xffa4, "HALFWIDTH HANGUL LETTER ", "NIEUN;NIEUN-CIEUC;NIEUN-HIEUH;TIKEUT;SSANGTIKEUT;RIEUL"⟩,
   ⟨0xffaa, "HALFWIDTH HANGUL LETTER RIEUL-", "KIYEOK;MIEUM;PIEUP;SIOS;THIEUTH;PHIEUPH;HIEUH"⟩,
   ⟨0xffb1, "HALFWIDTH HANGUL LETTER ", "MIEUM;PIEUP;SSANGPIEUP;PIEUP-SIOS;SIOS;SSANGSIOS;IEUNG"⟩,
   ⟨0xffb8, "HALFWIDTH HANGUL LETTER ", "CIEUC;SSANGCIEUC;CHIEUCH;KHIEUKH;THIEUTH;PHIEUPH;HIEUH"⟩,
   ⟨0xffc2, "HALFWIDTH HANGUL LETTER ", "A;AE;YA;YAE;EO;E"⟩,
   ⟨0xffca, "HALFWIDTH HANGUL LETTER ", "YEO;YE;O;WA;WAE;OE"⟩,
   ⟨0xffd2, "HALFWIDTH HANGUL LETTER ", "YO;U;WEO;WE;WI;YU"⟩,
   ⟨0xffda, "HALFWIDTH HANGUL LETTER ", "EU;YI;I"⟩,
   ⟨0xffe0, "FULLWIDTH ", "CENT SIGN;POUND SIGN;NOT SIGN;MACRON;BROKEN BAR;YEN SIGN;WON SIGN"⟩,
   ⟨0xffe8, "HALFWIDTH ", "FORMS LIGHT VERTICAL;LEFTWARDS ARROW;UPWARDS ARROW"⟩,
   ⟨0xffeb, "HALFWIDTH ", "RIGHTWARDS ARROW;DOWNWARDS ARROW;BLACK SQUARE;WHITE CIRCLE"⟩]

/-- The names in the block Specials. -/
def specials : List NameRun :=
  [⟨0xfff9, "INTERLINEAR ANNOTATION ", "ANCHOR;SEPARATOR;TERMINATOR"⟩,
   ⟨0xfffc, "", "OBJECT REPLACEMENT CHARACTER;REPLACEMENT CHARACTER"⟩]

/-- All names of this module. -/
def presentationForms : List NameRun :=
  List.flatten
    [alphabeticPresentationForms, arabicPresentationFormsA, variationSelectors, verticalForms,
     combiningHalfMarks, cjkCompatibilityForms, smallFormVariants, arabicPresentationFormsB,
     halfwidthAndFullwidthForms, specials]

end Names
end Unicode
end LiquidMarkdown
