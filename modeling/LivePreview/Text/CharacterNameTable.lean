/-!
# Names of characters

The names by which an escape can call a character, for Latin, Greek, Cyrillic and Hebrew letters,
punctuation, marks, arrows, signs, shapes and pictures, with the alternative names of the control
characters.
-/

namespace LivePreview.Text

/-- Runs of names: the first code point, and the names from there on. -/
def characterNameRuns : List String := [
  "20=SPACE;EXCLAMATION MARK;QUOTATION MARK;NUMBER SIGN;DOLLAR SIGN;PERCENT SIGN;AMPERSAND",
  "27=APOSTROPHE;LEFT PARENTHESIS;RIGHT PARENTHESIS;ASTERISK;PLUS SIGN;COMMA;HYPHEN-MINUS",
  "2e=FULL STOP;SOLIDUS;DIGIT ZERO;DIGIT ONE;DIGIT TWO;DIGIT THREE;DIGIT FOUR;DIGIT FIVE",
  "36=DIGIT SIX;DIGIT SEVEN;DIGIT EIGHT;DIGIT NINE;COLON;SEMICOLON;LESS-THAN SIGN;EQUALS SIGN",
  "3e=GREATER-THAN SIGN;QUESTION MARK;COMMERCIAL AT;LATIN CAPITAL LETTER A",
  "42=LATIN CAPITAL LETTER B;LATIN CAPITAL LETTER C;LATIN CAPITAL LETTER D",
  "45=LATIN CAPITAL LETTER E;LATIN CAPITAL LETTER F;LATIN CAPITAL LETTER G",
  "48=LATIN CAPITAL LETTER H;LATIN CAPITAL LETTER I;LATIN CAPITAL LETTER J",
  "4b=LATIN CAPITAL LETTER K;LATIN CAPITAL LETTER L;LATIN CAPITAL LETTER M",
  "4e=LATIN CAPITAL LETTER N;LATIN CAPITAL LETTER O;LATIN CAPITAL LETTER P",
  "51=LATIN CAPITAL LETTER Q;LATIN CAPITAL LETTER R;LATIN CAPITAL LETTER S",
  "54=LATIN CAPITAL LETTER T;LATIN CAPITAL LETTER U;LATIN CAPITAL LETTER V",
  "57=LATIN CAPITAL LETTER W;LATIN CAPITAL LETTER X;LATIN CAPITAL LETTER Y",
  "5a=LATIN CAPITAL LETTER Z;LEFT SQUARE BRACKET;REVERSE SOLIDUS;RIGHT SQUARE BRACKET",
  "5e=CIRCUMFLEX ACCENT;LOW LINE;GRAVE ACCENT;LATIN SMALL LETTER A;LATIN SMALL LETTER B",
  "63=LATIN SMALL LETTER C;LATIN SMALL LETTER D;LATIN SMALL LETTER E;LATIN SMALL LETTER F",
  "67=LATIN SMALL LETTER G;LATIN SMALL LETTER H;LATIN SMALL LETTER I;LATIN SMALL LETTER J",
  "6b=LATIN SMALL LETTER K;LATIN SMALL LETTER L;LATIN SMALL LETTER M;LATIN SMALL LETTER N",
  "6f=LATIN SMALL LETTER O;LATIN SMALL LETTER P;LATIN SMALL LETTER Q;LATIN SMALL LETTER R",
  "73=LATIN SMALL LETTER S;LATIN SMALL LETTER T;LATIN SMALL LETTER U;LATIN SMALL LETTER V",
  "77=LATIN SMALL LETTER W;LATIN SMALL LETTER X;LATIN SMALL LETTER Y;LATIN SMALL LETTER Z",
  "7b=LEFT CURLY BRACKET;VERTICAL LINE;RIGHT CURLY BRACKET;TILDE",
  "a0=NO-BREAK SPACE;INVERTED EXCLAMATION MARK;CENT SIGN;POUND SIGN;CURRENCY SIGN;YEN SIGN",
  "a6=BROKEN BAR;SECTION SIGN;DIAERESIS;COPYRIGHT SIGN;FEMININE ORDINAL INDICATOR",
  "ab=LEFT-POINTING DOUBLE ANGLE QUOTATION MARK;NOT SIGN;SOFT HYPHEN;REGISTERED SIGN;MACRON",
  "b0=DEGREE SIGN;PLUS-MINUS SIGN;SUPERSCRIPT TWO;SUPERSCRIPT THREE;ACUTE ACCENT;MICRO SIGN",
  "b6=PILCROW SIGN;MIDDLE DOT;CEDILLA;SUPERSCRIPT ONE;MASCULINE ORDINAL INDICATOR",
  "bb=RIGHT-POINTING DOUBLE ANGLE QUOTATION MARK;VULGAR FRACTION ONE QUARTER",
  "bd=VULGAR FRACTION ONE HALF;VULGAR FRACTION THREE QUARTERS;INVERTED QUESTION MARK",
  "c0=LATIN CAPITAL LETTER A WITH GRAVE;LATIN CAPITAL LETTER A WITH ACUTE",
  "c2=LATIN CAPITAL LETTER A WITH CIRCUMFLEX;LATIN CAPITAL LETTER A WITH TILDE",
  "c4=LATIN CAPITAL LETTER A WITH DIAERESIS;LATIN CAPITAL LETTER A WITH RING ABOVE",
  "c6=LATIN CAPITAL LETTER AE;LATIN CAPITAL LETTER C WITH CEDILLA",
  "c8=LATIN CAPITAL LETTER E WITH GRAVE;LATIN CAPITAL LETTER E WITH ACUTE",
  "ca=LATIN CAPITAL LETTER E WITH CIRCUMFLEX;LATIN CAPITAL LETTER E WITH DIAERESIS",
  "cc=LATIN CAPITAL LETTER I WITH GRAVE;LATIN CAPITAL LETTER I WITH ACUTE",
  "ce=LATIN CAPITAL LETTER I WITH CIRCUMFLEX;LATIN CAPITAL LETTER I WITH DIAERESIS",
  "d0=LATIN CAPITAL LETTER ETH;LATIN CAPITAL LETTER N WITH TILDE",
  "d2=LATIN CAPITAL LETTER O WITH GRAVE;LATIN CAPITAL LETTER O WITH ACUTE",
  "d4=LATIN CAPITAL LETTER O WITH CIRCUMFLEX;LATIN CAPITAL LETTER O WITH TILDE",
  "d6=LATIN CAPITAL LETTER O WITH DIAERESIS;MULTIPLICATION SIGN",
  "d8=LATIN CAPITAL LETTER O WITH STROKE;LATIN CAPITAL LETTER U WITH GRAVE",
  "da=LATIN CAPITAL LETTER U WITH ACUTE;LATIN CAPITAL LETTER U WITH CIRCUMFLEX",
  "dc=LATIN CAPITAL LETTER U WITH DIAERESIS;LATIN CAPITAL LETTER Y WITH ACUTE",
  "de=LATIN CAPITAL LETTER THORN;LATIN SMALL LETTER SHARP S;LATIN SMALL LETTER A WITH GRAVE",
  "e1=LATIN SMALL LETTER A WITH ACUTE;LATIN SMALL LETTER A WITH CIRCUMFLEX",
  "e3=LATIN SMALL LETTER A WITH TILDE;LATIN SMALL LETTER A WITH DIAERESIS",
  "e5=LATIN SMALL LETTER A WITH RING ABOVE;LATIN SMALL LETTER AE",
  "e7=LATIN SMALL LETTER C WITH CEDILLA;LATIN SMALL LETTER E WITH GRAVE",
  "e9=LATIN SMALL LETTER E WITH ACUTE;LATIN SMALL LETTER E WITH CIRCUMFLEX",
  "eb=LATIN SMALL LETTER E WITH DIAERESIS;LATIN SMALL LETTER I WITH GRAVE",
  "ed=LATIN SMALL LETTER I WITH ACUTE;LATIN SMALL LETTER I WITH CIRCUMFLEX",
  "ef=LATIN SMALL LETTER I WITH DIAERESIS;LATIN SMALL LETTER ETH",
  "f1=LATIN SMALL LETTER N WITH TILDE;LATIN SMALL LETTER O WITH GRAVE",
  "f3=LATIN SMALL LETTER O WITH ACUTE;LATIN SMALL LETTER O WITH CIRCUMFLEX",
  "f5=LATIN SMALL LETTER O WITH TILDE;LATIN SMALL LETTER O WITH DIAERESIS;DIVISION SIGN",
  "f8=LATIN SMALL LETTER O WITH STROKE;LATIN SMALL LETTER U WITH GRAVE",
  "fa=LATIN SMALL LETTER U WITH ACUTE;LATIN SMALL LETTER U WITH CIRCUMFLEX",
  "fc=LATIN SMALL LETTER U WITH DIAERESIS;LATIN SMALL LETTER Y WITH ACUTE",
  "fe=LATIN SMALL LETTER THORN;LATIN SMALL LETTER Y WITH DIAERESIS",
  "100=LATIN CAPITAL LETTER A WITH MACRON;LATIN SMALL LETTER A WITH MACRON",
  "102=LATIN CAPITAL LETTER A WITH BREVE;LATIN SMALL LETTER A WITH BREVE",
  "104=LATIN CAPITAL LETTER A WITH OGONEK;LATIN SMALL LETTER A WITH OGONEK",
  "106=LATIN CAPITAL LETTER C WITH ACUTE;LATIN SMALL LETTER C WITH ACUTE",
  "108=LATIN CAPITAL LETTER C WITH CIRCUMFLEX;LATIN SMALL LETTER C WITH CIRCUMFLEX",
  "10a=LATIN CAPITAL LETTER C WITH DOT ABOVE;LATIN SMALL LETTER C WITH DOT ABOVE",
  "10c=LATIN CAPITAL LETTER C WITH CARON;LATIN SMALL LETTER C WITH CARON",
  "10e=LATIN CAPITAL LETTER D WITH CARON;LATIN SMALL LETTER D WITH CARON",
  "110=LATIN CAPITAL LETTER D WITH STROKE;LATIN SMALL LETTER D WITH STROKE",
  "112=LATIN CAPITAL LETTER E WITH MACRON;LATIN SMALL LETTER E WITH MACRON",
  "114=LATIN CAPITAL LETTER E WITH BREVE;LATIN SMALL LETTER E WITH BREVE",
  "116=LATIN CAPITAL LETTER E WITH DOT ABOVE;LATIN SMALL LETTER E WITH DOT ABOVE",
  "118=LATIN CAPITAL LETTER E WITH OGONEK;LATIN SMALL LETTER E WITH OGONEK",
  "11a=LATIN CAPITAL LETTER E WITH CARON;LATIN SMALL LETTER E WITH CARON",
  "11c=LATIN CAPITAL LETTER G WITH CIRCUMFLEX;LATIN SMALL LETTER G WITH CIRCUMFLEX",
  "11e=LATIN CAPITAL LETTER G WITH BREVE;LATIN SMALL LETTER G WITH BREVE",
  "120=LATIN CAPITAL LETTER G WITH DOT ABOVE;LATIN SMALL LETTER G WITH DOT ABOVE",
  "122=LATIN CAPITAL LETTER G WITH CEDILLA;LATIN SMALL LETTER G WITH CEDILLA",
  "124=LATIN CAPITAL LETTER H WITH CIRCUMFLEX;LATIN SMALL LETTER H WITH CIRCUMFLEX",
  "126=LATIN CAPITAL LETTER H WITH STROKE;LATIN SMALL LETTER H WITH STROKE",
  "128=LATIN CAPITAL LETTER I WITH TILDE;LATIN SMALL LETTER I WITH TILDE",
  "12a=LATIN CAPITAL LETTER I WITH MACRON;LATIN SMALL LETTER I WITH MACRON",
  "12c=LATIN CAPITAL LETTER I WITH BREVE;LATIN SMALL LETTER I WITH BREVE",
  "12e=LATIN CAPITAL LETTER I WITH OGONEK;LATIN SMALL LETTER I WITH OGONEK",
  "130=LATIN CAPITAL LETTER I WITH DOT ABOVE;LATIN SMALL LETTER DOTLESS I",
  "132=LATIN CAPITAL LIGATURE IJ;LATIN SMALL LIGATURE IJ;LATIN CAPITAL LETTER J WITH CIRCUMFLEX",
  "135=LATIN SMALL LETTER J WITH CIRCUMFLEX;LATIN CAPITAL LETTER K WITH CEDILLA",
  "137=LATIN SMALL LETTER K WITH CEDILLA;LATIN SMALL LETTER KRA",
  "139=LATIN CAPITAL LETTER L WITH ACUTE;LATIN SMALL LETTER L WITH ACUTE",
  "13b=LATIN CAPITAL LETTER L WITH CEDILLA;LATIN SMALL LETTER L WITH CEDILLA",
  "13d=LATIN CAPITAL LETTER L WITH CARON;LATIN SMALL LETTER L WITH CARON",
  "13f=LATIN CAPITAL LETTER L WITH MIDDLE DOT;LATIN SMALL LETTER L WITH MIDDLE DOT",
  "141=LATIN CAPITAL LETTER L WITH STROKE;LATIN SMALL LETTER L WITH STROKE",
  "143=LATIN CAPITAL LETTER N WITH ACUTE;LATIN SMALL LETTER N WITH ACUTE",
  "145=LATIN CAPITAL LETTER N WITH CEDILLA;LATIN SMALL LETTER N WITH CEDILLA",
  "147=LATIN CAPITAL LETTER N WITH CARON;LATIN SMALL LETTER N WITH CARON",
  "149=LATIN SMALL LETTER N PRECEDED BY APOSTROPHE;LATIN CAPITAL LETTER ENG",
  "14b=LATIN SMALL LETTER ENG;LATIN CAPITAL LETTER O WITH MACRON",
  "14d=LATIN SMALL LETTER O WITH MACRON;LATIN CAPITAL LETTER O WITH BREVE",
  "14f=LATIN SMALL LETTER O WITH BREVE;LATIN CAPITAL LETTER O WITH DOUBLE ACUTE",
  "151=LATIN SMALL LETTER O WITH DOUBLE ACUTE;LATIN CAPITAL LIGATURE OE;LATIN SMALL LIGATURE OE",
  "154=LATIN CAPITAL LETTER R WITH ACUTE;LATIN SMALL LETTER R WITH ACUTE",
  "156=LATIN CAPITAL LETTER R WITH CEDILLA;LATIN SMALL LETTER R WITH CEDILLA",
  "158=LATIN CAPITAL LETTER R WITH CARON;LATIN SMALL LETTER R WITH CARON",
  "15a=LATIN CAPITAL LETTER S WITH ACUTE;LATIN SMALL LETTER S WITH ACUTE",
  "15c=LATIN CAPITAL LETTER S WITH CIRCUMFLEX;LATIN SMALL LETTER S WITH CIRCUMFLEX",
  "15e=LATIN CAPITAL LETTER S WITH CEDILLA;LATIN SMALL LETTER S WITH CEDILLA",
  "160=LATIN CAPITAL LETTER S WITH CARON;LATIN SMALL LETTER S WITH CARON",
  "162=LATIN CAPITAL LETTER T WITH CEDILLA;LATIN SMALL LETTER T WITH CEDILLA",
  "164=LATIN CAPITAL LETTER T WITH CARON;LATIN SMALL LETTER T WITH CARON",
  "166=LATIN CAPITAL LETTER T WITH STROKE;LATIN SMALL LETTER T WITH STROKE",
  "168=LATIN CAPITAL LETTER U WITH TILDE;LATIN SMALL LETTER U WITH TILDE",
  "16a=LATIN CAPITAL LETTER U WITH MACRON;LATIN SMALL LETTER U WITH MACRON",
  "16c=LATIN CAPITAL LETTER U WITH BREVE;LATIN SMALL LETTER U WITH BREVE",
  "16e=LATIN CAPITAL LETTER U WITH RING ABOVE;LATIN SMALL LETTER U WITH RING ABOVE",
  "170=LATIN CAPITAL LETTER U WITH DOUBLE ACUTE;LATIN SMALL LETTER U WITH DOUBLE ACUTE",
  "172=LATIN CAPITAL LETTER U WITH OGONEK;LATIN SMALL LETTER U WITH OGONEK",
  "174=LATIN CAPITAL LETTER W WITH CIRCUMFLEX;LATIN SMALL LETTER W WITH CIRCUMFLEX",
  "176=LATIN CAPITAL LETTER Y WITH CIRCUMFLEX;LATIN SMALL LETTER Y WITH CIRCUMFLEX",
  "178=LATIN CAPITAL LETTER Y WITH DIAERESIS;LATIN CAPITAL LETTER Z WITH ACUTE",
  "17a=LATIN SMALL LETTER Z WITH ACUTE;LATIN CAPITAL LETTER Z WITH DOT ABOVE",
  "17c=LATIN SMALL LETTER Z WITH DOT ABOVE;LATIN CAPITAL LETTER Z WITH CARON",
  "17e=LATIN SMALL LETTER Z WITH CARON;LATIN SMALL LETTER LONG S",
  "180=LATIN SMALL LETTER B WITH STROKE;LATIN CAPITAL LETTER B WITH HOOK",
  "182=LATIN CAPITAL LETTER B WITH TOPBAR;LATIN SMALL LETTER B WITH TOPBAR",
  "184=LATIN CAPITAL LETTER TONE SIX;LATIN SMALL LETTER TONE SIX;LATIN CAPITAL LETTER OPEN O",
  "187=LATIN CAPITAL LETTER C WITH HOOK;LATIN SMALL LETTER C WITH HOOK",
  "189=LATIN CAPITAL LETTER AFRICAN D;LATIN CAPITAL LETTER D WITH HOOK",
  "18b=LATIN CAPITAL LETTER D WITH TOPBAR;LATIN SMALL LETTER D WITH TOPBAR",
  "18d=LATIN SMALL LETTER TURNED DELTA;LATIN CAPITAL LETTER REVERSED E",
  "18f=LATIN CAPITAL LETTER SCHWA;LATIN CAPITAL LETTER OPEN E;LATIN CAPITAL LETTER F WITH HOOK",
  "192=LATIN SMALL LETTER F WITH HOOK;LATIN CAPITAL LETTER G WITH HOOK",
  "194=LATIN CAPITAL LETTER GAMMA;LATIN SMALL LETTER HV;LATIN CAPITAL LETTER IOTA",
  "197=LATIN CAPITAL LETTER I WITH STROKE;LATIN CAPITAL LETTER K WITH HOOK",
  "199=LATIN SMALL LETTER K WITH HOOK;LATIN SMALL LETTER L WITH BAR",
  "19b=LATIN SMALL LETTER LAMBDA WITH STROKE;LATIN CAPITAL LETTER TURNED M",
  "19d=LATIN CAPITAL LETTER N WITH LEFT HOOK;LATIN SMALL LETTER N WITH LONG RIGHT LEG",
  "19f=LATIN CAPITAL LETTER O WITH MIDDLE TILDE;LATIN CAPITAL LETTER O WITH HORN",
  "1a1=LATIN SMALL LETTER O WITH HORN;LATIN CAPITAL LETTER OI;LATIN SMALL LETTER OI",
  "1a4=LATIN CAPITAL LETTER P WITH HOOK;LATIN SMALL LETTER P WITH HOOK;LATIN LETTER YR",
  "1a7=LATIN CAPITAL LETTER TONE TWO;LATIN SMALL LETTER TONE TWO;LATIN CAPITAL LETTER ESH",
  "1aa=LATIN LETTER REVERSED ESH LOOP;LATIN SMALL LETTER T WITH PALATAL HOOK",
  "1ac=LATIN CAPITAL LETTER T WITH HOOK;LATIN SMALL LETTER T WITH HOOK",
  "1ae=LATIN CAPITAL LETTER T WITH RETROFLEX HOOK;LATIN CAPITAL LETTER U WITH HORN",
  "1b0=LATIN SMALL LETTER U WITH HORN;LATIN CAPITAL LETTER UPSILON",
  "1b2=LATIN CAPITAL LETTER V WITH HOOK;LATIN CAPITAL LETTER Y WITH HOOK",
  "1b4=LATIN SMALL LETTER Y WITH HOOK;LATIN CAPITAL LETTER Z WITH STROKE",
  "1b6=LATIN SMALL LETTER Z WITH STROKE;LATIN CAPITAL LETTER EZH",
  "1b8=LATIN CAPITAL LETTER EZH REVERSED;LATIN SMALL LETTER EZH REVERSED",
  "1ba=LATIN SMALL LETTER EZH WITH TAIL;LATIN LETTER TWO WITH STROKE",
  "1bc=LATIN CAPITAL LETTER TONE FIVE;LATIN SMALL LETTER TONE FIVE",
  "1be=LATIN LETTER INVERTED GLOTTAL STOP WITH STROKE;LATIN LETTER WYNN",
  "1c0=LATIN LETTER DENTAL CLICK;LATIN LETTER LATERAL CLICK;LATIN LETTER ALVEOLAR CLICK",
  "1c3=LATIN LETTER RETROFLEX CLICK;LATIN CAPITAL LETTER DZ WITH CARON",
  "1c5=LATIN CAPITAL LETTER D WITH SMALL LETTER Z WITH CARON;LATIN SMALL LETTER DZ WITH CARON",
  "1c7=LATIN CAPITAL LETTER LJ;LATIN CAPITAL LETTER L WITH SMALL LETTER J;LATIN SMALL LETTER LJ",
  "1ca=LATIN CAPITAL LETTER NJ;LATIN CAPITAL LETTER N WITH SMALL LETTER J;LATIN SMALL LETTER NJ",
  "1cd=LATIN CAPITAL LETTER A WITH CARON;LATIN SMALL LETTER A WITH CARON",
  "1cf=LATIN CAPITAL LETTER I WITH CARON;LATIN SMALL LETTER I WITH CARON",
  "1d1=LATIN CAPITAL LETTER O WITH CARON;LATIN SMALL LETTER O WITH CARON",
  "1d3=LATIN CAPITAL LETTER U WITH CARON;LATIN SMALL LETTER U WITH CARON",
  "1d5=LATIN CAPITAL LETTER U WITH DIAERESIS AND MACRON",
  "1d6=LATIN SMALL LETTER U WITH DIAERESIS AND MACRON",
  "1d7=LATIN CAPITAL LETTER U WITH DIAERESIS AND ACUTE",
  "1d8=LATIN SMALL LETTER U WITH DIAERESIS AND ACUTE",
  "1d9=LATIN CAPITAL LETTER U WITH DIAERESIS AND CARON",
  "1da=LATIN SMALL LETTER U WITH DIAERESIS AND CARON",
  "1db=LATIN CAPITAL LETTER U WITH DIAERESIS AND GRAVE",
  "1dc=LATIN SMALL LETTER U WITH DIAERESIS AND GRAVE;LATIN SMALL LETTER TURNED E",
  "1de=LATIN CAPITAL LETTER A WITH DIAERESIS AND MACRON",
  "1df=LATIN SMALL LETTER A WITH DIAERESIS AND MACRON",
  "1e0=LATIN CAPITAL LETTER A WITH DOT ABOVE AND MACRON",
  "1e1=LATIN SMALL LETTER A WITH DOT ABOVE AND MACRON;LATIN CAPITAL LETTER AE WITH MACRON",
  "1e3=LATIN SMALL LETTER AE WITH MACRON;LATIN CAPITAL LETTER G WITH STROKE",
  "1e5=LATIN SMALL LETTER G WITH STROKE;LATIN CAPITAL LETTER G WITH CARON",
  "1e7=LATIN SMALL LETTER G WITH CARON;LATIN CAPITAL LETTER K WITH CARON",
  "1e9=LATIN SMALL LETTER K WITH CARON;LATIN CAPITAL LETTER O WITH OGONEK",
  "1eb=LATIN SMALL LETTER O WITH OGONEK;LATIN CAPITAL LETTER O WITH OGONEK AND MACRON",
  "1ed=LATIN SMALL LETTER O WITH OGONEK AND MACRON;LATIN CAPITAL LETTER EZH WITH CARON",
  "1ef=LATIN SMALL LETTER EZH WITH CARON;LATIN SMALL LETTER J WITH CARON",
  "1f1=LATIN CAPITAL LETTER DZ;LATIN CAPITAL LETTER D WITH SMALL LETTER Z;LATIN SMALL LETTER DZ",
  "1f4=LATIN CAPITAL LETTER G WITH ACUTE;LATIN SMALL LETTER G WITH ACUTE",
  "1f6=LATIN CAPITAL LETTER HWAIR;LATIN CAPITAL LETTER WYNN;LATIN CAPITAL LETTER N WITH GRAVE",
  "1f9=LATIN SMALL LETTER N WITH GRAVE;LATIN CAPITAL LETTER A WITH RING ABOVE AND ACUTE",
  "1fb=LATIN SMALL LETTER A WITH RING ABOVE AND ACUTE;LATIN CAPITAL LETTER AE WITH ACUTE",
  "1fd=LATIN SMALL LETTER AE WITH ACUTE;LATIN CAPITAL LETTER O WITH STROKE AND ACUTE",
  "1ff=LATIN SMALL LETTER O WITH STROKE AND ACUTE;LATIN CAPITAL LETTER A WITH DOUBLE GRAVE",
  "201=LATIN SMALL LETTER A WITH DOUBLE GRAVE;LATIN CAPITAL LETTER A WITH INVERTED BREVE",
  "203=LATIN SMALL LETTER A WITH INVERTED BREVE;LATIN CAPITAL LETTER E WITH DOUBLE GRAVE",
  "205=LATIN SMALL LETTER E WITH DOUBLE GRAVE;LATIN CAPITAL LETTER E WITH INVERTED BREVE",
  "207=LATIN SMALL LETTER E WITH INVERTED BREVE;LATIN CAPITAL LETTER I WITH DOUBLE GRAVE",
  "209=LATIN SMALL LETTER I WITH DOUBLE GRAVE;LATIN CAPITAL LETTER I WITH INVERTED BREVE",
  "20b=LATIN SMALL LETTER I WITH INVERTED BREVE;LATIN CAPITAL LETTER O WITH DOUBLE GRAVE",
  "20d=LATIN SMALL LETTER O WITH DOUBLE GRAVE;LATIN CAPITAL LETTER O WITH INVERTED BREVE",
  "20f=LATIN SMALL LETTER O WITH INVERTED BREVE;LATIN CAPITAL LETTER R WITH DOUBLE GRAVE",
  "211=LATIN SMALL LETTER R WITH DOUBLE GRAVE;LATIN CAPITAL LETTER R WITH INVERTED BREVE",
  "213=LATIN SMALL LETTER R WITH INVERTED BREVE;LATIN CAPITAL LETTER U WITH DOUBLE GRAVE",
  "215=LATIN SMALL LETTER U WITH DOUBLE GRAVE;LATIN CAPITAL LETTER U WITH INVERTED BREVE",
  "217=LATIN SMALL LETTER U WITH INVERTED BREVE;LATIN CAPITAL LETTER S WITH COMMA BELOW",
  "219=LATIN SMALL LETTER S WITH COMMA BELOW;LATIN CAPITAL LETTER T WITH COMMA BELOW",
  "21b=LATIN SMALL LETTER T WITH COMMA BELOW;LATIN CAPITAL LETTER YOGH;LATIN SMALL LETTER YOGH",
  "21e=LATIN CAPITAL LETTER H WITH CARON;LATIN SMALL LETTER H WITH CARON",
  "220=LATIN CAPITAL LETTER N WITH LONG RIGHT LEG;LATIN SMALL LETTER D WITH CURL",
  "222=LATIN CAPITAL LETTER OU;LATIN SMALL LETTER OU;LATIN CAPITAL LETTER Z WITH HOOK",
  "225=LATIN SMALL LETTER Z WITH HOOK;LATIN CAPITAL LETTER A WITH DOT ABOVE",
  "227=LATIN SMALL LETTER A WITH DOT ABOVE;LATIN CAPITAL LETTER E WITH CEDILLA",
  "229=LATIN SMALL LETTER E WITH CEDILLA;LATIN CAPITAL LETTER O WITH DIAERESIS AND MACRON",
  "22b=LATIN SMALL LETTER O WITH DIAERESIS AND MACRON",
  "22c=LATIN CAPITAL LETTER O WITH TILDE AND MACRON;LATIN SMALL LETTER O WITH TILDE AND MACRON",
  "22e=LATIN CAPITAL LETTER O WITH DOT ABOVE;LATIN SMALL LETTER O WITH DOT ABOVE",
  "230=LATIN CAPITAL LETTER O WITH DOT ABOVE AND MACRON",
  "231=LATIN SMALL LETTER O WITH DOT ABOVE AND MACRON;LATIN CAPITAL LETTER Y WITH MACRON",
  "233=LATIN SMALL LETTER Y WITH MACRON;LATIN SMALL LETTER L WITH CURL",
  "235=LATIN SMALL LETTER N WITH CURL;LATIN SMALL LETTER T WITH CURL",
  "237=LATIN SMALL LETTER DOTLESS J;LATIN SMALL LETTER DB DIGRAPH;LATIN SMALL LETTER QP DIGRAPH",
  "23a=LATIN CAPITAL LETTER A WITH STROKE;LATIN CAPITAL LETTER C WITH STROKE",
  "23c=LATIN SMALL LETTER C WITH STROKE;LATIN CAPITAL LETTER L WITH BAR",
  "23e=LATIN CAPITAL LETTER T WITH DIAGONAL STROKE;LATIN SMALL LETTER S WITH SWASH TAIL",
  "240=LATIN SMALL LETTER Z WITH SWASH TAIL;LATIN CAPITAL LETTER GLOTTAL STOP",
  "242=LATIN SMALL LETTER GLOTTAL STOP;LATIN CAPITAL LETTER B WITH STROKE",
  "244=LATIN CAPITAL LETTER U BAR;LATIN CAPITAL LETTER TURNED V",
  "246=LATIN CAPITAL LETTER E WITH STROKE;LATIN SMALL LETTER E WITH STROKE",
  "248=LATIN CAPITAL LETTER J WITH STROKE;LATIN SMALL LETTER J WITH STROKE",
  "24a=LATIN CAPITAL LETTER SMALL Q WITH HOOK TAIL;LATIN SMALL LETTER Q WITH HOOK TAIL",
  "24c=LATIN CAPITAL LETTER R WITH STROKE;LATIN SMALL LETTER R WITH STROKE",
  "24e=LATIN CAPITAL LETTER Y WITH STROKE;LATIN SMALL LETTER Y WITH STROKE",
  "2b0=MODIFIER LETTER SMALL H;MODIFIER LETTER SMALL H WITH HOOK;MODIFIER LETTER SMALL J",
  "2b3=MODIFIER LETTER SMALL R;MODIFIER LETTER SMALL TURNED R",
  "2b5=MODIFIER LETTER SMALL TURNED R WITH HOOK;MODIFIER LETTER SMALL CAPITAL INVERTED R",
  "2b7=MODIFIER LETTER SMALL W;MODIFIER LETTER SMALL Y;MODIFIER LETTER PRIME",
  "2ba=MODIFIER LETTER DOUBLE PRIME;MODIFIER LETTER TURNED COMMA;MODIFIER LETTER APOSTROPHE",
  "2bd=MODIFIER LETTER REVERSED COMMA;MODIFIER LETTER RIGHT HALF RING",
  "2bf=MODIFIER LETTER LEFT HALF RING;MODIFIER LETTER GLOTTAL STOP",
  "2c1=MODIFIER LETTER REVERSED GLOTTAL STOP;MODIFIER LETTER LEFT ARROWHEAD",
  "2c3=MODIFIER LETTER RIGHT ARROWHEAD;MODIFIER LETTER UP ARROWHEAD",
  "2c5=MODIFIER LETTER DOWN ARROWHEAD;MODIFIER LETTER CIRCUMFLEX ACCENT;CARON",
  "2c8=MODIFIER LETTER VERTICAL LINE;MODIFIER LETTER MACRON;MODIFIER LETTER ACUTE ACCENT",
  "2cb=MODIFIER LETTER GRAVE ACCENT;MODIFIER LETTER LOW VERTICAL LINE",
  "2cd=MODIFIER LETTER LOW MACRON;MODIFIER LETTER LOW GRAVE ACCENT",
  "2cf=MODIFIER LETTER LOW ACUTE ACCENT;MODIFIER LETTER TRIANGULAR COLON",
  "2d1=MODIFIER LETTER HALF TRIANGULAR COLON;MODIFIER LETTER CENTRED RIGHT HALF RING",
  "2d3=MODIFIER LETTER CENTRED LEFT HALF RING;MODIFIER LETTER UP TACK;MODIFIER LETTER DOWN TACK",
  "2d6=MODIFIER LETTER PLUS SIGN;MODIFIER LETTER MINUS SIGN;BREVE;DOT ABOVE;RING ABOVE;OGONEK",
  "2dc=SMALL TILDE;DOUBLE ACUTE ACCENT;MODIFIER LETTER RHOTIC HOOK;MODIFIER LETTER CROSS ACCENT",
  "2e0=MODIFIER LETTER SMALL GAMMA;MODIFIER LETTER SMALL L;MODIFIER LETTER SMALL S",
  "2e3=MODIFIER LETTER SMALL X;MODIFIER LETTER SMALL REVERSED GLOTTAL STOP",
  "2e5=MODIFIER LETTER EXTRA-HIGH TONE BAR;MODIFIER LETTER HIGH TONE BAR",
  "2e7=MODIFIER LETTER MID TONE BAR;MODIFIER LETTER LOW TONE BAR",
  "2e9=MODIFIER LETTER EXTRA-LOW TONE BAR;MODIFIER LETTER YIN DEPARTING TONE MARK",
  "2eb=MODIFIER LETTER YANG DEPARTING TONE MARK;MODIFIER LETTER VOICING",
  "2ed=MODIFIER LETTER UNASPIRATED;MODIFIER LETTER DOUBLE APOSTROPHE",
  "2ef=MODIFIER LETTER LOW DOWN ARROWHEAD;MODIFIER LETTER LOW UP ARROWHEAD",
  "2f1=MODIFIER LETTER LOW LEFT ARROWHEAD;MODIFIER LETTER LOW RIGHT ARROWHEAD",
  "2f3=MODIFIER LETTER LOW RING;MODIFIER LETTER MIDDLE GRAVE ACCENT",
  "2f5=MODIFIER LETTER MIDDLE DOUBLE GRAVE ACCENT;MODIFIER LETTER MIDDLE DOUBLE ACUTE ACCENT",
  "2f7=MODIFIER LETTER LOW TILDE;MODIFIER LETTER RAISED COLON;MODIFIER LETTER BEGIN HIGH TONE",
  "2fa=MODIFIER LETTER END HIGH TONE;MODIFIER LETTER BEGIN LOW TONE",
  "2fc=MODIFIER LETTER END LOW TONE;MODIFIER LETTER SHELF;MODIFIER LETTER OPEN SHELF",
  "2ff=MODIFIER LETTER LOW LEFT ARROW;COMBINING GRAVE ACCENT;COMBINING ACUTE ACCENT",
  "302=COMBINING CIRCUMFLEX ACCENT;COMBINING TILDE;COMBINING MACRON;COMBINING OVERLINE",
  "306=COMBINING BREVE;COMBINING DOT ABOVE;COMBINING DIAERESIS;COMBINING HOOK ABOVE",
  "30a=COMBINING RING ABOVE;COMBINING DOUBLE ACUTE ACCENT;COMBINING CARON",
  "30d=COMBINING VERTICAL LINE ABOVE;COMBINING DOUBLE VERTICAL LINE ABOVE",
  "30f=COMBINING DOUBLE GRAVE ACCENT;COMBINING CANDRABINDU;COMBINING INVERTED BREVE",
  "312=COMBINING TURNED COMMA ABOVE;COMBINING COMMA ABOVE;COMBINING REVERSED COMMA ABOVE",
  "315=COMBINING COMMA ABOVE RIGHT;COMBINING GRAVE ACCENT BELOW;COMBINING ACUTE ACCENT BELOW",
  "318=COMBINING LEFT TACK BELOW;COMBINING RIGHT TACK BELOW;COMBINING LEFT ANGLE ABOVE",
  "31b=COMBINING HORN;COMBINING LEFT HALF RING BELOW;COMBINING UP TACK BELOW",
  "31e=COMBINING DOWN TACK BELOW;COMBINING PLUS SIGN BELOW;COMBINING MINUS SIGN BELOW",
  "321=COMBINING PALATALIZED HOOK BELOW;COMBINING RETROFLEX HOOK BELOW;COMBINING DOT BELOW",
  "324=COMBINING DIAERESIS BELOW;COMBINING RING BELOW;COMBINING COMMA BELOW;COMBINING CEDILLA",
  "328=COMBINING OGONEK;COMBINING VERTICAL LINE BELOW;COMBINING BRIDGE BELOW",
  "32b=COMBINING INVERTED DOUBLE ARCH BELOW;COMBINING CARON BELOW",
  "32d=COMBINING CIRCUMFLEX ACCENT BELOW;COMBINING BREVE BELOW;COMBINING INVERTED BREVE BELOW",
  "330=COMBINING TILDE BELOW;COMBINING MACRON BELOW;COMBINING LOW LINE",
  "333=COMBINING DOUBLE LOW LINE;COMBINING TILDE OVERLAY;COMBINING SHORT STROKE OVERLAY",
  "336=COMBINING LONG STROKE OVERLAY;COMBINING SHORT SOLIDUS OVERLAY",
  "338=COMBINING LONG SOLIDUS OVERLAY;COMBINING RIGHT HALF RING BELOW",
  "33a=COMBINING INVERTED BRIDGE BELOW;COMBINING SQUARE BELOW;COMBINING SEAGULL BELOW",
  "33d=COMBINING X ABOVE;COMBINING VERTICAL TILDE;COMBINING DOUBLE OVERLINE",
  "340=COMBINING GRAVE TONE MARK;COMBINING ACUTE TONE MARK;COMBINING GREEK PERISPOMENI",
  "343=COMBINING GREEK KORONIS;COMBINING GREEK DIALYTIKA TONOS;COMBINING GREEK YPOGEGRAMMENI",
  "346=COMBINING BRIDGE ABOVE;COMBINING EQUALS SIGN BELOW;COMBINING DOUBLE VERTICAL LINE BELOW",
  "349=COMBINING LEFT ANGLE BELOW;COMBINING NOT TILDE ABOVE;COMBINING HOMOTHETIC ABOVE",
  "34c=COMBINING ALMOST EQUAL TO ABOVE;COMBINING LEFT RIGHT ARROW BELOW",
  "34e=COMBINING UPWARDS ARROW BELOW;COMBINING GRAPHEME JOINER;COMBINING RIGHT ARROWHEAD ABOVE",
  "351=COMBINING LEFT HALF RING ABOVE;COMBINING FERMATA;COMBINING X BELOW",
  "354=COMBINING LEFT ARROWHEAD BELOW;COMBINING RIGHT ARROWHEAD BELOW",
  "356=COMBINING RIGHT ARROWHEAD AND UP ARROWHEAD BELOW;COMBINING RIGHT HALF RING ABOVE",
  "358=COMBINING DOT ABOVE RIGHT;COMBINING ASTERISK BELOW;COMBINING DOUBLE RING BELOW",
  "35b=COMBINING ZIGZAG ABOVE;COMBINING DOUBLE BREVE BELOW;COMBINING DOUBLE BREVE",
  "35e=COMBINING DOUBLE MACRON;COMBINING DOUBLE MACRON BELOW;COMBINING DOUBLE TILDE",
  "361=COMBINING DOUBLE INVERTED BREVE;COMBINING DOUBLE RIGHTWARDS ARROW BELOW",
  "363=COMBINING LATIN SMALL LETTER A;COMBINING LATIN SMALL LETTER E",
  "365=COMBINING LATIN SMALL LETTER I;COMBINING LATIN SMALL LETTER O",
  "367=COMBINING LATIN SMALL LETTER U;COMBINING LATIN SMALL LETTER C",
  "369=COMBINING LATIN SMALL LETTER D;COMBINING LATIN SMALL LETTER H",
  "36b=COMBINING LATIN SMALL LETTER M;COMBINING LATIN SMALL LETTER R",
  "36d=COMBINING LATIN SMALL LETTER T;COMBINING LATIN SMALL LETTER V",
  "36f=COMBINING LATIN SMALL LETTER X",
  "370=GREEK CAPITAL LETTER HETA;GREEK SMALL LETTER HETA;GREEK CAPITAL LETTER ARCHAIC SAMPI",
  "373=GREEK SMALL LETTER ARCHAIC SAMPI;GREEK NUMERAL SIGN;GREEK LOWER NUMERAL SIGN",
  "376=GREEK CAPITAL LETTER PAMPHYLIAN DIGAMMA;GREEK SMALL LETTER PAMPHYLIAN DIGAMMA",
  "37a=GREEK YPOGEGRAMMENI;GREEK SMALL REVERSED LUNATE SIGMA SYMBOL",
  "37c=GREEK SMALL DOTTED LUNATE SIGMA SYMBOL;GREEK SMALL REVERSED DOTTED LUNATE SIGMA SYMBOL",
  "37e=GREEK QUESTION MARK;GREEK CAPITAL LETTER YOT",
  "384=GREEK TONOS;GREEK DIALYTIKA TONOS;GREEK CAPITAL LETTER ALPHA WITH TONOS;GREEK ANO TELEIA",
  "388=GREEK CAPITAL LETTER EPSILON WITH TONOS;GREEK CAPITAL LETTER ETA WITH TONOS",
  "38a=GREEK CAPITAL LETTER IOTA WITH TONOS",
  "38c=GREEK CAPITAL LETTER OMICRON WITH TONOS",
  "38e=GREEK CAPITAL LETTER UPSILON WITH TONOS;GREEK CAPITAL LETTER OMEGA WITH TONOS",
  "390=GREEK SMALL LETTER IOTA WITH DIALYTIKA AND TONOS;GREEK CAPITAL LETTER ALPHA",
  "392=GREEK CAPITAL LETTER BETA;GREEK CAPITAL LETTER GAMMA;GREEK CAPITAL LETTER DELTA",
  "395=GREEK CAPITAL LETTER EPSILON;GREEK CAPITAL LETTER ZETA;GREEK CAPITAL LETTER ETA",
  "398=GREEK CAPITAL LETTER THETA;GREEK CAPITAL LETTER IOTA;GREEK CAPITAL LETTER KAPPA",
  "39b=GREEK CAPITAL LETTER LAMDA;GREEK CAPITAL LETTER MU;GREEK CAPITAL LETTER NU",
  "39e=GREEK CAPITAL LETTER XI;GREEK CAPITAL LETTER OMICRON;GREEK CAPITAL LETTER PI",
  "3a1=GREEK CAPITAL LETTER RHO",
  "3a3=GREEK CAPITAL LETTER SIGMA;GREEK CAPITAL LETTER TAU;GREEK CAPITAL LETTER UPSILON",
  "3a6=GREEK CAPITAL LETTER PHI;GREEK CAPITAL LETTER CHI;GREEK CAPITAL LETTER PSI",
  "3a9=GREEK CAPITAL LETTER OMEGA;GREEK CAPITAL LETTER IOTA WITH DIALYTIKA",
  "3ab=GREEK CAPITAL LETTER UPSILON WITH DIALYTIKA;GREEK SMALL LETTER ALPHA WITH TONOS",
  "3ad=GREEK SMALL LETTER EPSILON WITH TONOS;GREEK SMALL LETTER ETA WITH TONOS",
  "3af=GREEK SMALL LETTER IOTA WITH TONOS;GREEK SMALL LETTER UPSILON WITH DIALYTIKA AND TONOS",
  "3b1=GREEK SMALL LETTER ALPHA;GREEK SMALL LETTER BETA;GREEK SMALL LETTER GAMMA",
  "3b4=GREEK SMALL LETTER DELTA;GREEK SMALL LETTER EPSILON;GREEK SMALL LETTER ZETA",
  "3b7=GREEK SMALL LETTER ETA;GREEK SMALL LETTER THETA;GREEK SMALL LETTER IOTA",
  "3ba=GREEK SMALL LETTER KAPPA;GREEK SMALL LETTER LAMDA;GREEK SMALL LETTER MU",
  "3bd=GREEK SMALL LETTER NU;GREEK SMALL LETTER XI;GREEK SMALL LETTER OMICRON",
  "3c0=GREEK SMALL LETTER PI;GREEK SMALL LETTER RHO;GREEK SMALL LETTER FINAL SIGMA",
  "3c3=GREEK SMALL LETTER SIGMA;GREEK SMALL LETTER TAU;GREEK SMALL LETTER UPSILON",
  "3c6=GREEK SMALL LETTER PHI;GREEK SMALL LETTER CHI;GREEK SMALL LETTER PSI",
  "3c9=GREEK SMALL LETTER OMEGA;GREEK SMALL LETTER IOTA WITH DIALYTIKA",
  "3cb=GREEK SMALL LETTER UPSILON WITH DIALYTIKA;GREEK SMALL LETTER OMICRON WITH TONOS",
  "3cd=GREEK SMALL LETTER UPSILON WITH TONOS;GREEK SMALL LETTER OMEGA WITH TONOS",
  "3cf=GREEK CAPITAL KAI SYMBOL;GREEK BETA SYMBOL;GREEK THETA SYMBOL",
  "3d2=GREEK UPSILON WITH HOOK SYMBOL;GREEK UPSILON WITH ACUTE AND HOOK SYMBOL",
  "3d4=GREEK UPSILON WITH DIAERESIS AND HOOK SYMBOL;GREEK PHI SYMBOL;GREEK PI SYMBOL",
  "3d7=GREEK KAI SYMBOL;GREEK LETTER ARCHAIC KOPPA;GREEK SMALL LETTER ARCHAIC KOPPA",
  "3da=GREEK LETTER STIGMA;GREEK SMALL LETTER STIGMA;GREEK LETTER DIGAMMA",
  "3dd=GREEK SMALL LETTER DIGAMMA;GREEK LETTER KOPPA;GREEK SMALL LETTER KOPPA",
  "3e0=GREEK LETTER SAMPI;GREEK SMALL LETTER SAMPI;COPTIC CAPITAL LETTER SHEI",
  "3e3=COPTIC SMALL LETTER SHEI;COPTIC CAPITAL LETTER FEI;COPTIC SMALL LETTER FEI",
  "3e6=COPTIC CAPITAL LETTER KHEI;COPTIC SMALL LETTER KHEI;COPTIC CAPITAL LETTER HORI",
  "3e9=COPTIC SMALL LETTER HORI;COPTIC CAPITAL LETTER GANGIA;COPTIC SMALL LETTER GANGIA",
  "3ec=COPTIC CAPITAL LETTER SHIMA;COPTIC SMALL LETTER SHIMA;COPTIC CAPITAL LETTER DEI",
  "3ef=COPTIC SMALL LETTER DEI;GREEK KAPPA SYMBOL;GREEK RHO SYMBOL;GREEK LUNATE SIGMA SYMBOL",
  "3f3=GREEK LETTER YOT;GREEK CAPITAL THETA SYMBOL;GREEK LUNATE EPSILON SYMBOL",
  "3f6=GREEK REVERSED LUNATE EPSILON SYMBOL;GREEK CAPITAL LETTER SHO;GREEK SMALL LETTER SHO",
  "3f9=GREEK CAPITAL LUNATE SIGMA SYMBOL;GREEK CAPITAL LETTER SAN;GREEK SMALL LETTER SAN",
  "3fc=GREEK RHO WITH STROKE SYMBOL;GREEK CAPITAL REVERSED LUNATE SIGMA SYMBOL",
  "3fe=GREEK CAPITAL DOTTED LUNATE SIGMA SYMBOL",
  "3ff=GREEK CAPITAL REVERSED DOTTED LUNATE SIGMA SYMBOL;CYRILLIC CAPITAL LETTER IE WITH GRAVE",
  "401=CYRILLIC CAPITAL LETTER IO;CYRILLIC CAPITAL LETTER DJE;CYRILLIC CAPITAL LETTER GJE",
  "404=CYRILLIC CAPITAL LETTER UKRAINIAN IE;CYRILLIC CAPITAL LETTER DZE",
  "406=CYRILLIC CAPITAL LETTER BYELORUSSIAN-UKRAINIAN I;CYRILLIC CAPITAL LETTER YI",
  "408=CYRILLIC CAPITAL LETTER JE;CYRILLIC CAPITAL LETTER LJE;CYRILLIC CAPITAL LETTER NJE",
  "40b=CYRILLIC CAPITAL LETTER TSHE;CYRILLIC CAPITAL LETTER KJE",
  "40d=CYRILLIC CAPITAL LETTER I WITH GRAVE;CYRILLIC CAPITAL LETTER SHORT U",
  "40f=CYRILLIC CAPITAL LETTER DZHE;CYRILLIC CAPITAL LETTER A;CYRILLIC CAPITAL LETTER BE",
  "412=CYRILLIC CAPITAL LETTER VE;CYRILLIC CAPITAL LETTER GHE;CYRILLIC CAPITAL LETTER DE",
  "415=CYRILLIC CAPITAL LETTER IE;CYRILLIC CAPITAL LETTER ZHE;CYRILLIC CAPITAL LETTER ZE",
  "418=CYRILLIC CAPITAL LETTER I;CYRILLIC CAPITAL LETTER SHORT I;CYRILLIC CAPITAL LETTER KA",
  "41b=CYRILLIC CAPITAL LETTER EL;CYRILLIC CAPITAL LETTER EM;CYRILLIC CAPITAL LETTER EN",
  "41e=CYRILLIC CAPITAL LETTER O;CYRILLIC CAPITAL LETTER PE;CYRILLIC CAPITAL LETTER ER",
  "421=CYRILLIC CAPITAL LETTER ES;CYRILLIC CAPITAL LETTER TE;CYRILLIC CAPITAL LETTER U",
  "424=CYRILLIC CAPITAL LETTER EF;CYRILLIC CAPITAL LETTER HA;CYRILLIC CAPITAL LETTER TSE",
  "427=CYRILLIC CAPITAL LETTER CHE;CYRILLIC CAPITAL LETTER SHA;CYRILLIC CAPITAL LETTER SHCHA",
  "42a=CYRILLIC CAPITAL LETTER HARD SIGN;CYRILLIC CAPITAL LETTER YERU",
  "42c=CYRILLIC CAPITAL LETTER SOFT SIGN;CYRILLIC CAPITAL LETTER E;CYRILLIC CAPITAL LETTER YU",
  "42f=CYRILLIC CAPITAL LETTER YA;CYRILLIC SMALL LETTER A;CYRILLIC SMALL LETTER BE",
  "432=CYRILLIC SMALL LETTER VE;CYRILLIC SMALL LETTER GHE;CYRILLIC SMALL LETTER DE",
  "435=CYRILLIC SMALL LETTER IE;CYRILLIC SMALL LETTER ZHE;CYRILLIC SMALL LETTER ZE",
  "438=CYRILLIC SMALL LETTER I;CYRILLIC SMALL LETTER SHORT I;CYRILLIC SMALL LETTER KA",
  "43b=CYRILLIC SMALL LETTER EL;CYRILLIC SMALL LETTER EM;CYRILLIC SMALL LETTER EN",
  "43e=CYRILLIC SMALL LETTER O;CYRILLIC SMALL LETTER PE;CYRILLIC SMALL LETTER ER",
  "441=CYRILLIC SMALL LETTER ES;CYRILLIC SMALL LETTER TE;CYRILLIC SMALL LETTER U",
  "444=CYRILLIC SMALL LETTER EF;CYRILLIC SMALL LETTER HA;CYRILLIC SMALL LETTER TSE",
  "447=CYRILLIC SMALL LETTER CHE;CYRILLIC SMALL LETTER SHA;CYRILLIC SMALL LETTER SHCHA",
  "44a=CYRILLIC SMALL LETTER HARD SIGN;CYRILLIC SMALL LETTER YERU",
  "44c=CYRILLIC SMALL LETTER SOFT SIGN;CYRILLIC SMALL LETTER E;CYRILLIC SMALL LETTER YU",
  "44f=CYRILLIC SMALL LETTER YA;CYRILLIC SMALL LETTER IE WITH GRAVE;CYRILLIC SMALL LETTER IO",
  "452=CYRILLIC SMALL LETTER DJE;CYRILLIC SMALL LETTER GJE;CYRILLIC SMALL LETTER UKRAINIAN IE",
  "455=CYRILLIC SMALL LETTER DZE;CYRILLIC SMALL LETTER BYELORUSSIAN-UKRAINIAN I",
  "457=CYRILLIC SMALL LETTER YI;CYRILLIC SMALL LETTER JE;CYRILLIC SMALL LETTER LJE",
  "45a=CYRILLIC SMALL LETTER NJE;CYRILLIC SMALL LETTER TSHE;CYRILLIC SMALL LETTER KJE",
  "45d=CYRILLIC SMALL LETTER I WITH GRAVE;CYRILLIC SMALL LETTER SHORT U",
  "45f=CYRILLIC SMALL LETTER DZHE",
  "5d0=HEBREW LETTER ALEF;HEBREW LETTER BET;HEBREW LETTER GIMEL;HEBREW LETTER DALET",
  "5d4=HEBREW LETTER HE;HEBREW LETTER VAV;HEBREW LETTER ZAYIN;HEBREW LETTER HET",
  "5d8=HEBREW LETTER TET;HEBREW LETTER YOD;HEBREW LETTER FINAL KAF;HEBREW LETTER KAF",
  "5dc=HEBREW LETTER LAMED;HEBREW LETTER FINAL MEM;HEBREW LETTER MEM;HEBREW LETTER FINAL NUN",
  "5e0=HEBREW LETTER NUN;HEBREW LETTER SAMEKH;HEBREW LETTER AYIN;HEBREW LETTER FINAL PE",
  "5e4=HEBREW LETTER PE;HEBREW LETTER FINAL TSADI;HEBREW LETTER TSADI;HEBREW LETTER QOF",
  "5e8=HEBREW LETTER RESH;HEBREW LETTER SHIN;HEBREW LETTER TAV",
  "1e00=LATIN CAPITAL LETTER A WITH RING BELOW;LATIN SMALL LETTER A WITH RING BELOW",
  "1e02=LATIN CAPITAL LETTER B WITH DOT ABOVE;LATIN SMALL LETTER B WITH DOT ABOVE",
  "1e04=LATIN CAPITAL LETTER B WITH DOT BELOW;LATIN SMALL LETTER B WITH DOT BELOW",
  "1e06=LATIN CAPITAL LETTER B WITH LINE BELOW;LATIN SMALL LETTER B WITH LINE BELOW",
  "1e08=LATIN CAPITAL LETTER C WITH CEDILLA AND ACUTE",
  "1e09=LATIN SMALL LETTER C WITH CEDILLA AND ACUTE;LATIN CAPITAL LETTER D WITH DOT ABOVE",
  "1e0b=LATIN SMALL LETTER D WITH DOT ABOVE;LATIN CAPITAL LETTER D WITH DOT BELOW",
  "1e0d=LATIN SMALL LETTER D WITH DOT BELOW;LATIN CAPITAL LETTER D WITH LINE BELOW",
  "1e0f=LATIN SMALL LETTER D WITH LINE BELOW;LATIN CAPITAL LETTER D WITH CEDILLA",
  "1e11=LATIN SMALL LETTER D WITH CEDILLA;LATIN CAPITAL LETTER D WITH CIRCUMFLEX BELOW",
  "1e13=LATIN SMALL LETTER D WITH CIRCUMFLEX BELOW;LATIN CAPITAL LETTER E WITH MACRON AND GRAVE",
  "1e15=LATIN SMALL LETTER E WITH MACRON AND GRAVE;LATIN CAPITAL LETTER E WITH MACRON AND ACUTE",
  "1e17=LATIN SMALL LETTER E WITH MACRON AND ACUTE;LATIN CAPITAL LETTER E WITH CIRCUMFLEX BELOW",
  "1e19=LATIN SMALL LETTER E WITH CIRCUMFLEX BELOW;LATIN CAPITAL LETTER E WITH TILDE BELOW",
  "1e1b=LATIN SMALL LETTER E WITH TILDE BELOW;LATIN CAPITAL LETTER E WITH CEDILLA AND BREVE",
  "1e1d=LATIN SMALL LETTER E WITH CEDILLA AND BREVE;LATIN CAPITAL LETTER F WITH DOT ABOVE",
  "1e1f=LATIN SMALL LETTER F WITH DOT ABOVE;LATIN CAPITAL LETTER G WITH MACRON",
  "1e21=LATIN SMALL LETTER G WITH MACRON;LATIN CAPITAL LETTER H WITH DOT ABOVE",
  "1e23=LATIN SMALL LETTER H WITH DOT ABOVE;LATIN CAPITAL LETTER H WITH DOT BELOW",
  "1e25=LATIN SMALL LETTER H WITH DOT BELOW;LATIN CAPITAL LETTER H WITH DIAERESIS",
  "1e27=LATIN SMALL LETTER H WITH DIAERESIS;LATIN CAPITAL LETTER H WITH CEDILLA",
  "1e29=LATIN SMALL LETTER H WITH CEDILLA;LATIN CAPITAL LETTER H WITH BREVE BELOW",
  "1e2b=LATIN SMALL LETTER H WITH BREVE BELOW;LATIN CAPITAL LETTER I WITH TILDE BELOW",
  "1e2d=LATIN SMALL LETTER I WITH TILDE BELOW;LATIN CAPITAL LETTER I WITH DIAERESIS AND ACUTE",
  "1e2f=LATIN SMALL LETTER I WITH DIAERESIS AND ACUTE;LATIN CAPITAL LETTER K WITH ACUTE",
  "1e31=LATIN SMALL LETTER K WITH ACUTE;LATIN CAPITAL LETTER K WITH DOT BELOW",
  "1e33=LATIN SMALL LETTER K WITH DOT BELOW;LATIN CAPITAL LETTER K WITH LINE BELOW",
  "1e35=LATIN SMALL LETTER K WITH LINE BELOW;LATIN CAPITAL LETTER L WITH DOT BELOW",
  "1e37=LATIN SMALL LETTER L WITH DOT BELOW;LATIN CAPITAL LETTER L WITH DOT BELOW AND MACRON",
  "1e39=LATIN SMALL LETTER L WITH DOT BELOW AND MACRON;LATIN CAPITAL LETTER L WITH LINE BELOW",
  "1e3b=LATIN SMALL LETTER L WITH LINE BELOW;LATIN CAPITAL LETTER L WITH CIRCUMFLEX BELOW",
  "1e3d=LATIN SMALL LETTER L WITH CIRCUMFLEX BELOW;LATIN CAPITAL LETTER M WITH ACUTE",
  "1e3f=LATIN SMALL LETTER M WITH ACUTE;LATIN CAPITAL LETTER M WITH DOT ABOVE",
  "1e41=LATIN SMALL LETTER M WITH DOT ABOVE;LATIN CAPITAL LETTER M WITH DOT BELOW",
  "1e43=LATIN SMALL LETTER M WITH DOT BELOW;LATIN CAPITAL LETTER N WITH DOT ABOVE",
  "1e45=LATIN SMALL LETTER N WITH DOT ABOVE;LATIN CAPITAL LETTER N WITH DOT BELOW",
  "1e47=LATIN SMALL LETTER N WITH DOT BELOW;LATIN CAPITAL LETTER N WITH LINE BELOW",
  "1e49=LATIN SMALL LETTER N WITH LINE BELOW;LATIN CAPITAL LETTER N WITH CIRCUMFLEX BELOW",
  "1e4b=LATIN SMALL LETTER N WITH CIRCUMFLEX BELOW;LATIN CAPITAL LETTER O WITH TILDE AND ACUTE",
  "1e4d=LATIN SMALL LETTER O WITH TILDE AND ACUTE",
  "1e4e=LATIN CAPITAL LETTER O WITH TILDE AND DIAERESIS",
  "1e4f=LATIN SMALL LETTER O WITH TILDE AND DIAERESIS",
  "1e50=LATIN CAPITAL LETTER O WITH MACRON AND GRAVE;LATIN SMALL LETTER O WITH MACRON AND GRAVE",
  "1e52=LATIN CAPITAL LETTER O WITH MACRON AND ACUTE;LATIN SMALL LETTER O WITH MACRON AND ACUTE",
  "1e54=LATIN CAPITAL LETTER P WITH ACUTE;LATIN SMALL LETTER P WITH ACUTE",
  "1e56=LATIN CAPITAL LETTER P WITH DOT ABOVE;LATIN SMALL LETTER P WITH DOT ABOVE",
  "1e58=LATIN CAPITAL LETTER R WITH DOT ABOVE;LATIN SMALL LETTER R WITH DOT ABOVE",
  "1e5a=LATIN CAPITAL LETTER R WITH DOT BELOW;LATIN SMALL LETTER R WITH DOT BELOW",
  "1e5c=LATIN CAPITAL LETTER R WITH DOT BELOW AND MACRON",
  "1e5d=LATIN SMALL LETTER R WITH DOT BELOW AND MACRON;LATIN CAPITAL LETTER R WITH LINE BELOW",
  "1e5f=LATIN SMALL LETTER R WITH LINE BELOW;LATIN CAPITAL LETTER S WITH DOT ABOVE",
  "1e61=LATIN SMALL LETTER S WITH DOT ABOVE;LATIN CAPITAL LETTER S WITH DOT BELOW",
  "1e63=LATIN SMALL LETTER S WITH DOT BELOW;LATIN CAPITAL LETTER S WITH ACUTE AND DOT ABOVE",
  "1e65=LATIN SMALL LETTER S WITH ACUTE AND DOT ABOVE",
  "1e66=LATIN CAPITAL LETTER S WITH CARON AND DOT ABOVE",
  "1e67=LATIN SMALL LETTER S WITH CARON AND DOT ABOVE",
  "1e68=LATIN CAPITAL LETTER S WITH DOT BELOW AND DOT ABOVE",
  "1e69=LATIN SMALL LETTER S WITH DOT BELOW AND DOT ABOVE;LATIN CAPITAL LETTER T WITH DOT ABOVE",
  "1e6b=LATIN SMALL LETTER T WITH DOT ABOVE;LATIN CAPITAL LETTER T WITH DOT BELOW",
  "1e6d=LATIN SMALL LETTER T WITH DOT BELOW;LATIN CAPITAL LETTER T WITH LINE BELOW",
  "1e6f=LATIN SMALL LETTER T WITH LINE BELOW;LATIN CAPITAL LETTER T WITH CIRCUMFLEX BELOW",
  "1e71=LATIN SMALL LETTER T WITH CIRCUMFLEX BELOW;LATIN CAPITAL LETTER U WITH DIAERESIS BELOW",
  "1e73=LATIN SMALL LETTER U WITH DIAERESIS BELOW;LATIN CAPITAL LETTER U WITH TILDE BELOW",
  "1e75=LATIN SMALL LETTER U WITH TILDE BELOW;LATIN CAPITAL LETTER U WITH CIRCUMFLEX BELOW",
  "1e77=LATIN SMALL LETTER U WITH CIRCUMFLEX BELOW;LATIN CAPITAL LETTER U WITH TILDE AND ACUTE",
  "1e79=LATIN SMALL LETTER U WITH TILDE AND ACUTE",
  "1e7a=LATIN CAPITAL LETTER U WITH MACRON AND DIAERESIS",
  "1e7b=LATIN SMALL LETTER U WITH MACRON AND DIAERESIS;LATIN CAPITAL LETTER V WITH TILDE",
  "1e7d=LATIN SMALL LETTER V WITH TILDE;LATIN CAPITAL LETTER V WITH DOT BELOW",
  "1e7f=LATIN SMALL LETTER V WITH DOT BELOW;LATIN CAPITAL LETTER W WITH GRAVE",
  "1e81=LATIN SMALL LETTER W WITH GRAVE;LATIN CAPITAL LETTER W WITH ACUTE",
  "1e83=LATIN SMALL LETTER W WITH ACUTE;LATIN CAPITAL LETTER W WITH DIAERESIS",
  "1e85=LATIN SMALL LETTER W WITH DIAERESIS;LATIN CAPITAL LETTER W WITH DOT ABOVE",
  "1e87=LATIN SMALL LETTER W WITH DOT ABOVE;LATIN CAPITAL LETTER W WITH DOT BELOW",
  "1e89=LATIN SMALL LETTER W WITH DOT BELOW;LATIN CAPITAL LETTER X WITH DOT ABOVE",
  "1e8b=LATIN SMALL LETTER X WITH DOT ABOVE;LATIN CAPITAL LETTER X WITH DIAERESIS",
  "1e8d=LATIN SMALL LETTER X WITH DIAERESIS;LATIN CAPITAL LETTER Y WITH DOT ABOVE",
  "1e8f=LATIN SMALL LETTER Y WITH DOT ABOVE;LATIN CAPITAL LETTER Z WITH CIRCUMFLEX",
  "1e91=LATIN SMALL LETTER Z WITH CIRCUMFLEX;LATIN CAPITAL LETTER Z WITH DOT BELOW",
  "1e93=LATIN SMALL LETTER Z WITH DOT BELOW;LATIN CAPITAL LETTER Z WITH LINE BELOW",
  "1e95=LATIN SMALL LETTER Z WITH LINE BELOW;LATIN SMALL LETTER H WITH LINE BELOW",
  "1e97=LATIN SMALL LETTER T WITH DIAERESIS;LATIN SMALL LETTER W WITH RING ABOVE",
  "1e99=LATIN SMALL LETTER Y WITH RING ABOVE;LATIN SMALL LETTER A WITH RIGHT HALF RING",
  "1e9b=LATIN SMALL LETTER LONG S WITH DOT ABOVE;LATIN SMALL LETTER LONG S WITH DIAGONAL STROKE",
  "1e9d=LATIN SMALL LETTER LONG S WITH HIGH STROKE;LATIN CAPITAL LETTER SHARP S",
  "1e9f=LATIN SMALL LETTER DELTA;LATIN CAPITAL LETTER A WITH DOT BELOW",
  "1ea1=LATIN SMALL LETTER A WITH DOT BELOW;LATIN CAPITAL LETTER A WITH HOOK ABOVE",
  "1ea3=LATIN SMALL LETTER A WITH HOOK ABOVE;LATIN CAPITAL LETTER A WITH CIRCUMFLEX AND ACUTE",
  "1ea5=LATIN SMALL LETTER A WITH CIRCUMFLEX AND ACUTE",
  "1ea6=LATIN CAPITAL LETTER A WITH CIRCUMFLEX AND GRAVE",
  "1ea7=LATIN SMALL LETTER A WITH CIRCUMFLEX AND GRAVE",
  "1ea8=LATIN CAPITAL LETTER A WITH CIRCUMFLEX AND HOOK ABOVE",
  "1ea9=LATIN SMALL LETTER A WITH CIRCUMFLEX AND HOOK ABOVE",
  "1eaa=LATIN CAPITAL LETTER A WITH CIRCUMFLEX AND TILDE",
  "1eab=LATIN SMALL LETTER A WITH CIRCUMFLEX AND TILDE",
  "1eac=LATIN CAPITAL LETTER A WITH CIRCUMFLEX AND DOT BELOW",
  "1ead=LATIN SMALL LETTER A WITH CIRCUMFLEX AND DOT BELOW",
  "1eae=LATIN CAPITAL LETTER A WITH BREVE AND ACUTE;LATIN SMALL LETTER A WITH BREVE AND ACUTE",
  "1eb0=LATIN CAPITAL LETTER A WITH BREVE AND GRAVE;LATIN SMALL LETTER A WITH BREVE AND GRAVE",
  "1eb2=LATIN CAPITAL LETTER A WITH BREVE AND HOOK ABOVE",
  "1eb3=LATIN SMALL LETTER A WITH BREVE AND HOOK ABOVE",
  "1eb4=LATIN CAPITAL LETTER A WITH BREVE AND TILDE;LATIN SMALL LETTER A WITH BREVE AND TILDE",
  "1eb6=LATIN CAPITAL LETTER A WITH BREVE AND DOT BELOW",
  "1eb7=LATIN SMALL LETTER A WITH BREVE AND DOT BELOW;LATIN CAPITAL LETTER E WITH DOT BELOW",
  "1eb9=LATIN SMALL LETTER E WITH DOT BELOW;LATIN CAPITAL LETTER E WITH HOOK ABOVE",
  "1ebb=LATIN SMALL LETTER E WITH HOOK ABOVE;LATIN CAPITAL LETTER E WITH TILDE",
  "1ebd=LATIN SMALL LETTER E WITH TILDE;LATIN CAPITAL LETTER E WITH CIRCUMFLEX AND ACUTE",
  "1ebf=LATIN SMALL LETTER E WITH CIRCUMFLEX AND ACUTE",
  "1ec0=LATIN CAPITAL LETTER E WITH CIRCUMFLEX AND GRAVE",
  "1ec1=LATIN SMALL LETTER E WITH CIRCUMFLEX AND GRAVE",
  "1ec2=LATIN CAPITAL LETTER E WITH CIRCUMFLEX AND HOOK ABOVE",
  "1ec3=LATIN SMALL LETTER E WITH CIRCUMFLEX AND HOOK ABOVE",
  "1ec4=LATIN CAPITAL LETTER E WITH CIRCUMFLEX AND TILDE",
  "1ec5=LATIN SMALL LETTER E WITH CIRCUMFLEX AND TILDE",
  "1ec6=LATIN CAPITAL LETTER E WITH CIRCUMFLEX AND DOT BELOW",
  "1ec7=LATIN SMALL LETTER E WITH CIRCUMFLEX AND DOT BELOW",
  "1ec8=LATIN CAPITAL LETTER I WITH HOOK ABOVE;LATIN SMALL LETTER I WITH HOOK ABOVE",
  "1eca=LATIN CAPITAL LETTER I WITH DOT BELOW;LATIN SMALL LETTER I WITH DOT BELOW",
  "1ecc=LATIN CAPITAL LETTER O WITH DOT BELOW;LATIN SMALL LETTER O WITH DOT BELOW",
  "1ece=LATIN CAPITAL LETTER O WITH HOOK ABOVE;LATIN SMALL LETTER O WITH HOOK ABOVE",
  "1ed0=LATIN CAPITAL LETTER O WITH CIRCUMFLEX AND ACUTE",
  "1ed1=LATIN SMALL LETTER O WITH CIRCUMFLEX AND ACUTE",
  "1ed2=LATIN CAPITAL LETTER O WITH CIRCUMFLEX AND GRAVE",
  "1ed3=LATIN SMALL LETTER O WITH CIRCUMFLEX AND GRAVE",
  "1ed4=LATIN CAPITAL LETTER O WITH CIRCUMFLEX AND HOOK ABOVE",
  "1ed5=LATIN SMALL LETTER O WITH CIRCUMFLEX AND HOOK ABOVE",
  "1ed6=LATIN CAPITAL LETTER O WITH CIRCUMFLEX AND TILDE",
  "1ed7=LATIN SMALL LETTER O WITH CIRCUMFLEX AND TILDE",
  "1ed8=LATIN CAPITAL LETTER O WITH CIRCUMFLEX AND DOT BELOW",
  "1ed9=LATIN SMALL LETTER O WITH CIRCUMFLEX AND DOT BELOW",
  "1eda=LATIN CAPITAL LETTER O WITH HORN AND ACUTE;LATIN SMALL LETTER O WITH HORN AND ACUTE",
  "1edc=LATIN CAPITAL LETTER O WITH HORN AND GRAVE;LATIN SMALL LETTER O WITH HORN AND GRAVE",
  "1ede=LATIN CAPITAL LETTER O WITH HORN AND HOOK ABOVE",
  "1edf=LATIN SMALL LETTER O WITH HORN AND HOOK ABOVE",
  "1ee0=LATIN CAPITAL LETTER O WITH HORN AND TILDE;LATIN SMALL LETTER O WITH HORN AND TILDE",
  "1ee2=LATIN CAPITAL LETTER O WITH HORN AND DOT BELOW",
  "1ee3=LATIN SMALL LETTER O WITH HORN AND DOT BELOW;LATIN CAPITAL LETTER U WITH DOT BELOW",
  "1ee5=LATIN SMALL LETTER U WITH DOT BELOW;LATIN CAPITAL LETTER U WITH HOOK ABOVE",
  "1ee7=LATIN SMALL LETTER U WITH HOOK ABOVE;LATIN CAPITAL LETTER U WITH HORN AND ACUTE",
  "1ee9=LATIN SMALL LETTER U WITH HORN AND ACUTE;LATIN CAPITAL LETTER U WITH HORN AND GRAVE",
  "1eeb=LATIN SMALL LETTER U WITH HORN AND GRAVE",
  "1eec=LATIN CAPITAL LETTER U WITH HORN AND HOOK ABOVE",
  "1eed=LATIN SMALL LETTER U WITH HORN AND HOOK ABOVE",
  "1eee=LATIN CAPITAL LETTER U WITH HORN AND TILDE;LATIN SMALL LETTER U WITH HORN AND TILDE",
  "1ef0=LATIN CAPITAL LETTER U WITH HORN AND DOT BELOW",
  "1ef1=LATIN SMALL LETTER U WITH HORN AND DOT BELOW;LATIN CAPITAL LETTER Y WITH GRAVE",
  "1ef3=LATIN SMALL LETTER Y WITH GRAVE;LATIN CAPITAL LETTER Y WITH DOT BELOW",
  "1ef5=LATIN SMALL LETTER Y WITH DOT BELOW;LATIN CAPITAL LETTER Y WITH HOOK ABOVE",
  "1ef7=LATIN SMALL LETTER Y WITH HOOK ABOVE;LATIN CAPITAL LETTER Y WITH TILDE",
  "1ef9=LATIN SMALL LETTER Y WITH TILDE;LATIN CAPITAL LETTER MIDDLE-WELSH LL",
  "1efb=LATIN SMALL LETTER MIDDLE-WELSH LL;LATIN CAPITAL LETTER MIDDLE-WELSH V",
  "1efd=LATIN SMALL LETTER MIDDLE-WELSH V;LATIN CAPITAL LETTER Y WITH LOOP",
  "1eff=LATIN SMALL LETTER Y WITH LOOP",
  "2000=EN QUAD;EM QUAD;EN SPACE;EM SPACE;THREE-PER-EM SPACE;FOUR-PER-EM SPACE;SIX-PER-EM SPACE",
  "2007=FIGURE SPACE;PUNCTUATION SPACE;THIN SPACE;HAIR SPACE;ZERO WIDTH SPACE",
  "200c=ZERO WIDTH NON-JOINER;ZERO WIDTH JOINER;LEFT-TO-RIGHT MARK;RIGHT-TO-LEFT MARK;HYPHEN",
  "2011=NON-BREAKING HYPHEN;FIGURE DASH;EN DASH;EM DASH;HORIZONTAL BAR;DOUBLE VERTICAL LINE",
  "2017=DOUBLE LOW LINE;LEFT SINGLE QUOTATION MARK;RIGHT SINGLE QUOTATION MARK",
  "201a=SINGLE LOW-9 QUOTATION MARK;SINGLE HIGH-REVERSED-9 QUOTATION MARK",
  "201c=LEFT DOUBLE QUOTATION MARK;RIGHT DOUBLE QUOTATION MARK;DOUBLE LOW-9 QUOTATION MARK",
  "201f=DOUBLE HIGH-REVERSED-9 QUOTATION MARK;DAGGER;DOUBLE DAGGER;BULLET;TRIANGULAR BULLET",
  "2024=ONE DOT LEADER;TWO DOT LEADER;HORIZONTAL ELLIPSIS;HYPHENATION POINT;LINE SEPARATOR",
  "2029=PARAGRAPH SEPARATOR;LEFT-TO-RIGHT EMBEDDING;RIGHT-TO-LEFT EMBEDDING",
  "202c=POP DIRECTIONAL FORMATTING;LEFT-TO-RIGHT OVERRIDE;RIGHT-TO-LEFT OVERRIDE",
  "202f=NARROW NO-BREAK SPACE;PER MILLE SIGN;PER TEN THOUSAND SIGN;PRIME;DOUBLE PRIME",
  "2034=TRIPLE PRIME;REVERSED PRIME;REVERSED DOUBLE PRIME;REVERSED TRIPLE PRIME;CARET",
  "2039=SINGLE LEFT-POINTING ANGLE QUOTATION MARK;SINGLE RIGHT-POINTING ANGLE QUOTATION MARK",
  "203b=REFERENCE MARK;DOUBLE EXCLAMATION MARK;INTERROBANG;OVERLINE;UNDERTIE;CHARACTER TIE",
  "2041=CARET INSERTION POINT;ASTERISM;HYPHEN BULLET;FRACTION SLASH",
  "2045=LEFT SQUARE BRACKET WITH QUILL;RIGHT SQUARE BRACKET WITH QUILL;DOUBLE QUESTION MARK",
  "2048=QUESTION EXCLAMATION MARK;EXCLAMATION QUESTION MARK;TIRONIAN SIGN ET",
  "204b=REVERSED PILCROW SIGN;BLACK LEFTWARDS BULLET;BLACK RIGHTWARDS BULLET;LOW ASTERISK",
  "204f=REVERSED SEMICOLON;CLOSE UP;TWO ASTERISKS ALIGNED VERTICALLY;COMMERCIAL MINUS SIGN",
  "2053=SWUNG DASH;INVERTED UNDERTIE;FLOWER PUNCTUATION MARK;THREE DOT PUNCTUATION",
  "2057=QUADRUPLE PRIME;FOUR DOT PUNCTUATION;FIVE DOT PUNCTUATION;TWO DOT PUNCTUATION",
  "205b=FOUR DOT MARK;DOTTED CROSS;TRICOLON;VERTICAL FOUR DOTS;MEDIUM MATHEMATICAL SPACE",
  "2060=WORD JOINER;FUNCTION APPLICATION;INVISIBLE TIMES;INVISIBLE SEPARATOR;INVISIBLE PLUS",
  "2066=LEFT-TO-RIGHT ISOLATE;RIGHT-TO-LEFT ISOLATE;FIRST STRONG ISOLATE",
  "2069=POP DIRECTIONAL ISOLATE;INHIBIT SYMMETRIC SWAPPING;ACTIVATE SYMMETRIC SWAPPING",
  "206c=INHIBIT ARABIC FORM SHAPING;ACTIVATE ARABIC FORM SHAPING;NATIONAL DIGIT SHAPES",
  "206f=NOMINAL DIGIT SHAPES;SUPERSCRIPT ZERO;SUPERSCRIPT LATIN SMALL LETTER I",
  "2074=SUPERSCRIPT FOUR;SUPERSCRIPT FIVE;SUPERSCRIPT SIX;SUPERSCRIPT SEVEN;SUPERSCRIPT EIGHT",
  "2079=SUPERSCRIPT NINE;SUPERSCRIPT PLUS SIGN;SUPERSCRIPT MINUS;SUPERSCRIPT EQUALS SIGN",
  "207d=SUPERSCRIPT LEFT PARENTHESIS;SUPERSCRIPT RIGHT PARENTHESIS",
  "207f=SUPERSCRIPT LATIN SMALL LETTER N;SUBSCRIPT ZERO;SUBSCRIPT ONE;SUBSCRIPT TWO",
  "2083=SUBSCRIPT THREE;SUBSCRIPT FOUR;SUBSCRIPT FIVE;SUBSCRIPT SIX;SUBSCRIPT SEVEN",
  "2088=SUBSCRIPT EIGHT;SUBSCRIPT NINE;SUBSCRIPT PLUS SIGN;SUBSCRIPT MINUS",
  "208c=SUBSCRIPT EQUALS SIGN;SUBSCRIPT LEFT PARENTHESIS;SUBSCRIPT RIGHT PARENTHESIS",
  "2090=LATIN SUBSCRIPT SMALL LETTER A;LATIN SUBSCRIPT SMALL LETTER E",
  "2092=LATIN SUBSCRIPT SMALL LETTER O;LATIN SUBSCRIPT SMALL LETTER X",
  "2094=LATIN SUBSCRIPT SMALL LETTER SCHWA;LATIN SUBSCRIPT SMALL LETTER H",
  "2096=LATIN SUBSCRIPT SMALL LETTER K;LATIN SUBSCRIPT SMALL LETTER L",
  "2098=LATIN SUBSCRIPT SMALL LETTER M;LATIN SUBSCRIPT SMALL LETTER N",
  "209a=LATIN SUBSCRIPT SMALL LETTER P;LATIN SUBSCRIPT SMALL LETTER S",
  "209c=LATIN SUBSCRIPT SMALL LETTER T",
  "20a0=EURO-CURRENCY SIGN;COLON SIGN;CRUZEIRO SIGN;FRENCH FRANC SIGN;LIRA SIGN;MILL SIGN",
  "20a6=NAIRA SIGN;PESETA SIGN;RUPEE SIGN;WON SIGN;NEW SHEQEL SIGN;DONG SIGN;EURO SIGN;KIP SIGN",
  "20ae=TUGRIK SIGN;DRACHMA SIGN;GERMAN PENNY SIGN;PESO SIGN;GUARANI SIGN;AUSTRAL SIGN",
  "20b4=HRYVNIA SIGN;CEDI SIGN;LIVRE TOURNOIS SIGN;SPESMILO SIGN;TENGE SIGN;INDIAN RUPEE SIGN",
  "20ba=TURKISH LIRA SIGN;NORDIC MARK SIGN;MANAT SIGN;RUBLE SIGN;LARI SIGN;BITCOIN SIGN",
  "20c0=SOM SIGN",
  "20d0=COMBINING LEFT HARPOON ABOVE;COMBINING RIGHT HARPOON ABOVE",
  "20d2=COMBINING LONG VERTICAL LINE OVERLAY;COMBINING SHORT VERTICAL LINE OVERLAY",
  "20d4=COMBINING ANTICLOCKWISE ARROW ABOVE;COMBINING CLOCKWISE ARROW ABOVE",
  "20d6=COMBINING LEFT ARROW ABOVE;COMBINING RIGHT ARROW ABOVE;COMBINING RING OVERLAY",
  "20d9=COMBINING CLOCKWISE RING OVERLAY;COMBINING ANTICLOCKWISE RING OVERLAY",
  "20db=COMBINING THREE DOTS ABOVE;COMBINING FOUR DOTS ABOVE;COMBINING ENCLOSING CIRCLE",
  "20de=COMBINING ENCLOSING SQUARE;COMBINING ENCLOSING DIAMOND",
  "20e0=COMBINING ENCLOSING CIRCLE BACKSLASH;COMBINING LEFT RIGHT ARROW ABOVE",
  "20e2=COMBINING ENCLOSING SCREEN;COMBINING ENCLOSING KEYCAP",
  "20e4=COMBINING ENCLOSING UPWARD POINTING TRIANGLE;COMBINING REVERSE SOLIDUS OVERLAY",
  "20e6=COMBINING DOUBLE VERTICAL STROKE OVERLAY;COMBINING ANNUITY SYMBOL",
  "20e8=COMBINING TRIPLE UNDERDOT;COMBINING WIDE BRIDGE ABOVE;COMBINING LEFTWARDS ARROW OVERLAY",
  "20eb=COMBINING LONG DOUBLE SOLIDUS OVERLAY;COMBINING RIGHTWARDS HARPOON WITH BARB DOWNWARDS",
  "20ed=COMBINING LEFTWARDS HARPOON WITH BARB DOWNWARDS;COMBINING LEFT ARROW BELOW",
  "20ef=COMBINING RIGHT ARROW BELOW;COMBINING ASTERISK ABOVE",
  "2100=ACCOUNT OF;ADDRESSED TO THE SUBJECT;DOUBLE-STRUCK CAPITAL C;DEGREE CELSIUS",
  "2104=CENTRE LINE SYMBOL;CARE OF;CADA UNA;EULER CONSTANT;SCRUPLE;DEGREE FAHRENHEIT",
  "210a=SCRIPT SMALL G;SCRIPT CAPITAL H;BLACK-LETTER CAPITAL H;DOUBLE-STRUCK CAPITAL H",
  "210e=PLANCK CONSTANT;PLANCK CONSTANT OVER TWO PI;SCRIPT CAPITAL I;BLACK-LETTER CAPITAL I",
  "2112=SCRIPT CAPITAL L;SCRIPT SMALL L;L B BAR SYMBOL;DOUBLE-STRUCK CAPITAL N;NUMERO SIGN",
  "2117=SOUND RECORDING COPYRIGHT;SCRIPT CAPITAL P;DOUBLE-STRUCK CAPITAL P",
  "211a=DOUBLE-STRUCK CAPITAL Q;SCRIPT CAPITAL R;BLACK-LETTER CAPITAL R;DOUBLE-STRUCK CAPITAL R",
  "211e=PRESCRIPTION TAKE;RESPONSE;SERVICE MARK;TELEPHONE SIGN;TRADE MARK SIGN;VERSICLE",
  "2124=DOUBLE-STRUCK CAPITAL Z;OUNCE SIGN;OHM SIGN;INVERTED OHM SIGN;BLACK-LETTER CAPITAL Z",
  "2129=TURNED GREEK SMALL LETTER IOTA;KELVIN SIGN;ANGSTROM SIGN;SCRIPT CAPITAL B",
  "212d=BLACK-LETTER CAPITAL C;ESTIMATED SYMBOL;SCRIPT SMALL E;SCRIPT CAPITAL E",
  "2131=SCRIPT CAPITAL F;TURNED CAPITAL F;SCRIPT CAPITAL M;SCRIPT SMALL O;ALEF SYMBOL",
  "2136=BET SYMBOL;GIMEL SYMBOL;DALET SYMBOL;INFORMATION SOURCE;ROTATED CAPITAL Q",
  "213b=FACSIMILE SIGN;DOUBLE-STRUCK SMALL PI;DOUBLE-STRUCK SMALL GAMMA",
  "213e=DOUBLE-STRUCK CAPITAL GAMMA;DOUBLE-STRUCK CAPITAL PI;DOUBLE-STRUCK N-ARY SUMMATION",
  "2141=TURNED SANS-SERIF CAPITAL G;TURNED SANS-SERIF CAPITAL L;REVERSED SANS-SERIF CAPITAL L",
  "2144=TURNED SANS-SERIF CAPITAL Y;DOUBLE-STRUCK ITALIC CAPITAL D;DOUBLE-STRUCK ITALIC SMALL D",
  "2147=DOUBLE-STRUCK ITALIC SMALL E;DOUBLE-STRUCK ITALIC SMALL I;DOUBLE-STRUCK ITALIC SMALL J",
  "214a=PROPERTY LINE;TURNED AMPERSAND;PER SIGN;AKTIESELSKAB;TURNED SMALL F",
  "214f=SYMBOL FOR SAMARITAN SOURCE;VULGAR FRACTION ONE SEVENTH;VULGAR FRACTION ONE NINTH",
  "2152=VULGAR FRACTION ONE TENTH;VULGAR FRACTION ONE THIRD;VULGAR FRACTION TWO THIRDS",
  "2155=VULGAR FRACTION ONE FIFTH;VULGAR FRACTION TWO FIFTHS;VULGAR FRACTION THREE FIFTHS",
  "2158=VULGAR FRACTION FOUR FIFTHS;VULGAR FRACTION ONE SIXTH;VULGAR FRACTION FIVE SIXTHS",
  "215b=VULGAR FRACTION ONE EIGHTH;VULGAR FRACTION THREE EIGHTHS;VULGAR FRACTION FIVE EIGHTHS",
  "215e=VULGAR FRACTION SEVEN EIGHTHS;FRACTION NUMERATOR ONE;ROMAN NUMERAL ONE",
  "2161=ROMAN NUMERAL TWO;ROMAN NUMERAL THREE;ROMAN NUMERAL FOUR;ROMAN NUMERAL FIVE",
  "2165=ROMAN NUMERAL SIX;ROMAN NUMERAL SEVEN;ROMAN NUMERAL EIGHT;ROMAN NUMERAL NINE",
  "2169=ROMAN NUMERAL TEN;ROMAN NUMERAL ELEVEN;ROMAN NUMERAL TWELVE;ROMAN NUMERAL FIFTY",
  "216d=ROMAN NUMERAL ONE HUNDRED;ROMAN NUMERAL FIVE HUNDRED;ROMAN NUMERAL ONE THOUSAND",
  "2170=SMALL ROMAN NUMERAL ONE;SMALL ROMAN NUMERAL TWO;SMALL ROMAN NUMERAL THREE",
  "2173=SMALL ROMAN NUMERAL FOUR;SMALL ROMAN NUMERAL FIVE;SMALL ROMAN NUMERAL SIX",
  "2176=SMALL ROMAN NUMERAL SEVEN;SMALL ROMAN NUMERAL EIGHT;SMALL ROMAN NUMERAL NINE",
  "2179=SMALL ROMAN NUMERAL TEN;SMALL ROMAN NUMERAL ELEVEN;SMALL ROMAN NUMERAL TWELVE",
  "217c=SMALL ROMAN NUMERAL FIFTY;SMALL ROMAN NUMERAL ONE HUNDRED",
  "217e=SMALL ROMAN NUMERAL FIVE HUNDRED;SMALL ROMAN NUMERAL ONE THOUSAND",
  "2180=ROMAN NUMERAL ONE THOUSAND C D;ROMAN NUMERAL FIVE THOUSAND;ROMAN NUMERAL TEN THOUSAND",
  "2183=ROMAN NUMERAL REVERSED ONE HUNDRED;LATIN SMALL LETTER REVERSED C",
  "2185=ROMAN NUMERAL SIX LATE FORM;ROMAN NUMERAL FIFTY EARLY FORM;ROMAN NUMERAL FIFTY THOUSAND",
  "2188=ROMAN NUMERAL ONE HUNDRED THOUSAND;VULGAR FRACTION ZERO THIRDS;TURNED DIGIT TWO",
  "218b=TURNED DIGIT THREE",
  "2190=LEFTWARDS ARROW;UPWARDS ARROW;RIGHTWARDS ARROW;DOWNWARDS ARROW;LEFT RIGHT ARROW",
  "2195=UP DOWN ARROW;NORTH WEST ARROW;NORTH EAST ARROW;SOUTH EAST ARROW;SOUTH WEST ARROW",
  "219a=LEFTWARDS ARROW WITH STROKE;RIGHTWARDS ARROW WITH STROKE;LEFTWARDS WAVE ARROW",
  "219d=RIGHTWARDS WAVE ARROW;LEFTWARDS TWO HEADED ARROW;UPWARDS TWO HEADED ARROW",
  "21a0=RIGHTWARDS TWO HEADED ARROW;DOWNWARDS TWO HEADED ARROW;LEFTWARDS ARROW WITH TAIL",
  "21a3=RIGHTWARDS ARROW WITH TAIL;LEFTWARDS ARROW FROM BAR;UPWARDS ARROW FROM BAR",
  "21a6=RIGHTWARDS ARROW FROM BAR;DOWNWARDS ARROW FROM BAR;UP DOWN ARROW WITH BASE",
  "21a9=LEFTWARDS ARROW WITH HOOK;RIGHTWARDS ARROW WITH HOOK;LEFTWARDS ARROW WITH LOOP",
  "21ac=RIGHTWARDS ARROW WITH LOOP;LEFT RIGHT WAVE ARROW;LEFT RIGHT ARROW WITH STROKE",
  "21af=DOWNWARDS ZIGZAG ARROW;UPWARDS ARROW WITH TIP LEFTWARDS",
  "21b1=UPWARDS ARROW WITH TIP RIGHTWARDS;DOWNWARDS ARROW WITH TIP LEFTWARDS",
  "21b3=DOWNWARDS ARROW WITH TIP RIGHTWARDS;RIGHTWARDS ARROW WITH CORNER DOWNWARDS",
  "21b5=DOWNWARDS ARROW WITH CORNER LEFTWARDS;ANTICLOCKWISE TOP SEMICIRCLE ARROW",
  "21b7=CLOCKWISE TOP SEMICIRCLE ARROW;NORTH WEST ARROW TO LONG BAR",
  "21b9=LEFTWARDS ARROW TO BAR OVER RIGHTWARDS ARROW TO BAR;ANTICLOCKWISE OPEN CIRCLE ARROW",
  "21bb=CLOCKWISE OPEN CIRCLE ARROW;LEFTWARDS HARPOON WITH BARB UPWARDS",
  "21bd=LEFTWARDS HARPOON WITH BARB DOWNWARDS;UPWARDS HARPOON WITH BARB RIGHTWARDS",
  "21bf=UPWARDS HARPOON WITH BARB LEFTWARDS;RIGHTWARDS HARPOON WITH BARB UPWARDS",
  "21c1=RIGHTWARDS HARPOON WITH BARB DOWNWARDS;DOWNWARDS HARPOON WITH BARB RIGHTWARDS",
  "21c3=DOWNWARDS HARPOON WITH BARB LEFTWARDS;RIGHTWARDS ARROW OVER LEFTWARDS ARROW",
  "21c5=UPWARDS ARROW LEFTWARDS OF DOWNWARDS ARROW;LEFTWARDS ARROW OVER RIGHTWARDS ARROW",
  "21c7=LEFTWARDS PAIRED ARROWS;UPWARDS PAIRED ARROWS;RIGHTWARDS PAIRED ARROWS",
  "21ca=DOWNWARDS PAIRED ARROWS;LEFTWARDS HARPOON OVER RIGHTWARDS HARPOON",
  "21cc=RIGHTWARDS HARPOON OVER LEFTWARDS HARPOON;LEFTWARDS DOUBLE ARROW WITH STROKE",
  "21ce=LEFT RIGHT DOUBLE ARROW WITH STROKE;RIGHTWARDS DOUBLE ARROW WITH STROKE",
  "21d0=LEFTWARDS DOUBLE ARROW;UPWARDS DOUBLE ARROW;RIGHTWARDS DOUBLE ARROW",
  "21d3=DOWNWARDS DOUBLE ARROW;LEFT RIGHT DOUBLE ARROW;UP DOWN DOUBLE ARROW",
  "21d6=NORTH WEST DOUBLE ARROW;NORTH EAST DOUBLE ARROW;SOUTH EAST DOUBLE ARROW",
  "21d9=SOUTH WEST DOUBLE ARROW;LEFTWARDS TRIPLE ARROW;RIGHTWARDS TRIPLE ARROW",
  "21dc=LEFTWARDS SQUIGGLE ARROW;RIGHTWARDS SQUIGGLE ARROW;UPWARDS ARROW WITH DOUBLE STROKE",
  "21df=DOWNWARDS ARROW WITH DOUBLE STROKE;LEFTWARDS DASHED ARROW;UPWARDS DASHED ARROW",
  "21e2=RIGHTWARDS DASHED ARROW;DOWNWARDS DASHED ARROW;LEFTWARDS ARROW TO BAR",
  "21e5=RIGHTWARDS ARROW TO BAR;LEFTWARDS WHITE ARROW;UPWARDS WHITE ARROW",
  "21e8=RIGHTWARDS WHITE ARROW;DOWNWARDS WHITE ARROW;UPWARDS WHITE ARROW FROM BAR",
  "21eb=UPWARDS WHITE ARROW ON PEDESTAL;UPWARDS WHITE ARROW ON PEDESTAL WITH HORIZONTAL BAR",
  "21ed=UPWARDS WHITE ARROW ON PEDESTAL WITH VERTICAL BAR;UPWARDS WHITE DOUBLE ARROW",
  "21ef=UPWARDS WHITE DOUBLE ARROW ON PEDESTAL;RIGHTWARDS WHITE ARROW FROM WALL",
  "21f1=NORTH WEST ARROW TO CORNER;SOUTH EAST ARROW TO CORNER;UP DOWN WHITE ARROW",
  "21f4=RIGHT ARROW WITH SMALL CIRCLE;DOWNWARDS ARROW LEFTWARDS OF UPWARDS ARROW",
  "21f6=THREE RIGHTWARDS ARROWS;LEFTWARDS ARROW WITH VERTICAL STROKE",
  "21f8=RIGHTWARDS ARROW WITH VERTICAL STROKE;LEFT RIGHT ARROW WITH VERTICAL STROKE",
  "21fa=LEFTWARDS ARROW WITH DOUBLE VERTICAL STROKE",
  "21fb=RIGHTWARDS ARROW WITH DOUBLE VERTICAL STROKE",
  "21fc=LEFT RIGHT ARROW WITH DOUBLE VERTICAL STROKE;LEFTWARDS OPEN-HEADED ARROW",
  "21fe=RIGHTWARDS OPEN-HEADED ARROW;LEFT RIGHT OPEN-HEADED ARROW;FOR ALL;COMPLEMENT",
  "2202=PARTIAL DIFFERENTIAL;THERE EXISTS;THERE DOES NOT EXIST;EMPTY SET;INCREMENT;NABLA",
  "2208=ELEMENT OF;NOT AN ELEMENT OF;SMALL ELEMENT OF;CONTAINS AS MEMBER",
  "220c=DOES NOT CONTAIN AS MEMBER;SMALL CONTAINS AS MEMBER;END OF PROOF;N-ARY PRODUCT",
  "2210=N-ARY COPRODUCT;N-ARY SUMMATION;MINUS SIGN;MINUS-OR-PLUS SIGN;DOT PLUS;DIVISION SLASH",
  "2216=SET MINUS;ASTERISK OPERATOR;RING OPERATOR;BULLET OPERATOR;SQUARE ROOT;CUBE ROOT",
  "221c=FOURTH ROOT;PROPORTIONAL TO;INFINITY;RIGHT ANGLE;ANGLE;MEASURED ANGLE;SPHERICAL ANGLE",
  "2223=DIVIDES;DOES NOT DIVIDE;PARALLEL TO;NOT PARALLEL TO;LOGICAL AND;LOGICAL OR;INTERSECTION",
  "222a=UNION;INTEGRAL;DOUBLE INTEGRAL;TRIPLE INTEGRAL;CONTOUR INTEGRAL;SURFACE INTEGRAL",
  "2230=VOLUME INTEGRAL;CLOCKWISE INTEGRAL;CLOCKWISE CONTOUR INTEGRAL",
  "2233=ANTICLOCKWISE CONTOUR INTEGRAL;THEREFORE;BECAUSE;RATIO;PROPORTION;DOT MINUS;EXCESS",
  "223a=GEOMETRIC PROPORTION;HOMOTHETIC;TILDE OPERATOR;REVERSED TILDE;INVERTED LAZY S;SINE WAVE",
  "2240=WREATH PRODUCT;NOT TILDE;MINUS TILDE;ASYMPTOTICALLY EQUAL TO",
  "2244=NOT ASYMPTOTICALLY EQUAL TO;APPROXIMATELY EQUAL TO",
  "2246=APPROXIMATELY BUT NOT ACTUALLY EQUAL TO;NEITHER APPROXIMATELY NOR ACTUALLY EQUAL TO",
  "2248=ALMOST EQUAL TO;NOT ALMOST EQUAL TO;ALMOST EQUAL OR EQUAL TO;TRIPLE TILDE;ALL EQUAL TO",
  "224d=EQUIVALENT TO;GEOMETRICALLY EQUIVALENT TO;DIFFERENCE BETWEEN;APPROACHES THE LIMIT",
  "2251=GEOMETRICALLY EQUAL TO;APPROXIMATELY EQUAL TO OR THE IMAGE OF",
  "2253=IMAGE OF OR APPROXIMATELY EQUAL TO;COLON EQUALS;EQUALS COLON;RING IN EQUAL TO",
  "2257=RING EQUAL TO;CORRESPONDS TO;ESTIMATES;EQUIANGULAR TO;STAR EQUALS;DELTA EQUAL TO",
  "225d=EQUAL TO BY DEFINITION;MEASURED BY;QUESTIONED EQUAL TO;NOT EQUAL TO;IDENTICAL TO",
  "2262=NOT IDENTICAL TO;STRICTLY EQUIVALENT TO;LESS-THAN OR EQUAL TO;GREATER-THAN OR EQUAL TO",
  "2266=LESS-THAN OVER EQUAL TO;GREATER-THAN OVER EQUAL TO;LESS-THAN BUT NOT EQUAL TO",
  "2269=GREATER-THAN BUT NOT EQUAL TO;MUCH LESS-THAN;MUCH GREATER-THAN;BETWEEN",
  "226d=NOT EQUIVALENT TO;NOT LESS-THAN;NOT GREATER-THAN;NEITHER LESS-THAN NOR EQUAL TO",
  "2271=NEITHER GREATER-THAN NOR EQUAL TO;LESS-THAN OR EQUIVALENT TO",
  "2273=GREATER-THAN OR EQUIVALENT TO;NEITHER LESS-THAN NOR EQUIVALENT TO",
  "2275=NEITHER GREATER-THAN NOR EQUIVALENT TO;LESS-THAN OR GREATER-THAN",
  "2277=GREATER-THAN OR LESS-THAN;NEITHER LESS-THAN NOR GREATER-THAN",
  "2279=NEITHER GREATER-THAN NOR LESS-THAN;PRECEDES;SUCCEEDS;PRECEDES OR EQUAL TO",
  "227d=SUCCEEDS OR EQUAL TO;PRECEDES OR EQUIVALENT TO;SUCCEEDS OR EQUIVALENT TO",
  "2280=DOES NOT PRECEDE;DOES NOT SUCCEED;SUBSET OF;SUPERSET OF;NOT A SUBSET OF",
  "2285=NOT A SUPERSET OF;SUBSET OF OR EQUAL TO;SUPERSET OF OR EQUAL TO",
  "2288=NEITHER A SUBSET OF NOR EQUAL TO;NEITHER A SUPERSET OF NOR EQUAL TO",
  "228a=SUBSET OF WITH NOT EQUAL TO;SUPERSET OF WITH NOT EQUAL TO;MULTISET",
  "228d=MULTISET MULTIPLICATION;MULTISET UNION;SQUARE IMAGE OF;SQUARE ORIGINAL OF",
  "2291=SQUARE IMAGE OF OR EQUAL TO;SQUARE ORIGINAL OF OR EQUAL TO;SQUARE CAP;SQUARE CUP",
  "2295=CIRCLED PLUS;CIRCLED MINUS;CIRCLED TIMES;CIRCLED DIVISION SLASH;CIRCLED DOT OPERATOR",
  "229a=CIRCLED RING OPERATOR;CIRCLED ASTERISK OPERATOR;CIRCLED EQUALS;CIRCLED DASH",
  "229e=SQUARED PLUS;SQUARED MINUS;SQUARED TIMES;SQUARED DOT OPERATOR;RIGHT TACK;LEFT TACK",
  "22a4=DOWN TACK;UP TACK;ASSERTION;MODELS;TRUE;FORCES;TRIPLE VERTICAL BAR RIGHT TURNSTILE",
  "22ab=DOUBLE VERTICAL BAR DOUBLE RIGHT TURNSTILE;DOES NOT PROVE;NOT TRUE;DOES NOT FORCE",
  "22af=NEGATED DOUBLE VERTICAL BAR DOUBLE RIGHT TURNSTILE;PRECEDES UNDER RELATION",
  "22b1=SUCCEEDS UNDER RELATION;NORMAL SUBGROUP OF;CONTAINS AS NORMAL SUBGROUP",
  "22b4=NORMAL SUBGROUP OF OR EQUAL TO;CONTAINS AS NORMAL SUBGROUP OR EQUAL TO;ORIGINAL OF",
  "22b7=IMAGE OF;MULTIMAP;HERMITIAN CONJUGATE MATRIX;INTERCALATE;XOR;NAND;NOR",
  "22be=RIGHT ANGLE WITH ARC;RIGHT TRIANGLE;N-ARY LOGICAL AND;N-ARY LOGICAL OR",
  "22c2=N-ARY INTERSECTION;N-ARY UNION;DIAMOND OPERATOR;DOT OPERATOR;STAR OPERATOR",
  "22c7=DIVISION TIMES;BOWTIE;LEFT NORMAL FACTOR SEMIDIRECT PRODUCT",
  "22ca=RIGHT NORMAL FACTOR SEMIDIRECT PRODUCT;LEFT SEMIDIRECT PRODUCT;RIGHT SEMIDIRECT PRODUCT",
  "22cd=REVERSED TILDE EQUALS;CURLY LOGICAL OR;CURLY LOGICAL AND;DOUBLE SUBSET;DOUBLE SUPERSET",
  "22d2=DOUBLE INTERSECTION;DOUBLE UNION;PITCHFORK;EQUAL AND PARALLEL TO;LESS-THAN WITH DOT",
  "22d7=GREATER-THAN WITH DOT;VERY MUCH LESS-THAN;VERY MUCH GREATER-THAN",
  "22da=LESS-THAN EQUAL TO OR GREATER-THAN;GREATER-THAN EQUAL TO OR LESS-THAN",
  "22dc=EQUAL TO OR LESS-THAN;EQUAL TO OR GREATER-THAN;EQUAL TO OR PRECEDES",
  "22df=EQUAL TO OR SUCCEEDS;DOES NOT PRECEDE OR EQUAL;DOES NOT SUCCEED OR EQUAL",
  "22e2=NOT SQUARE IMAGE OF OR EQUAL TO;NOT SQUARE ORIGINAL OF OR EQUAL TO",
  "22e4=SQUARE IMAGE OF OR NOT EQUAL TO;SQUARE ORIGINAL OF OR NOT EQUAL TO",
  "22e6=LESS-THAN BUT NOT EQUIVALENT TO;GREATER-THAN BUT NOT EQUIVALENT TO",
  "22e8=PRECEDES BUT NOT EQUIVALENT TO;SUCCEEDS BUT NOT EQUIVALENT TO;NOT NORMAL SUBGROUP OF",
  "22eb=DOES NOT CONTAIN AS NORMAL SUBGROUP;NOT NORMAL SUBGROUP OF OR EQUAL TO",
  "22ed=DOES NOT CONTAIN AS NORMAL SUBGROUP OR EQUAL;VERTICAL ELLIPSIS",
  "22ef=MIDLINE HORIZONTAL ELLIPSIS;UP RIGHT DIAGONAL ELLIPSIS;DOWN RIGHT DIAGONAL ELLIPSIS",
  "22f2=ELEMENT OF WITH LONG HORIZONTAL STROKE",
  "22f3=ELEMENT OF WITH VERTICAL BAR AT END OF HORIZONTAL STROKE",
  "22f4=SMALL ELEMENT OF WITH VERTICAL BAR AT END OF HORIZONTAL STROKE",
  "22f5=ELEMENT OF WITH DOT ABOVE;ELEMENT OF WITH OVERBAR;SMALL ELEMENT OF WITH OVERBAR",
  "22f8=ELEMENT OF WITH UNDERBAR;ELEMENT OF WITH TWO HORIZONTAL STROKES",
  "22fa=CONTAINS WITH LONG HORIZONTAL STROKE",
  "22fb=CONTAINS WITH VERTICAL BAR AT END OF HORIZONTAL STROKE",
  "22fc=SMALL CONTAINS WITH VERTICAL BAR AT END OF HORIZONTAL STROKE;CONTAINS WITH OVERBAR",
  "22fe=SMALL CONTAINS WITH OVERBAR;Z NOTATION BAG MEMBERSHIP;DIAMETER SIGN;ELECTRIC ARROW",
  "2302=HOUSE;UP ARROWHEAD;DOWN ARROWHEAD;PROJECTIVE;PERSPECTIVE;WAVY LINE;LEFT CEILING",
  "2309=RIGHT CEILING;LEFT FLOOR;RIGHT FLOOR;BOTTOM RIGHT CROP;BOTTOM LEFT CROP;TOP RIGHT CROP",
  "230f=TOP LEFT CROP;REVERSED NOT SIGN;SQUARE LOZENGE;ARC;SEGMENT;SECTOR;TELEPHONE RECORDER",
  "2316=POSITION INDICATOR;VIEWDATA SQUARE;PLACE OF INTEREST SIGN;TURNED NOT SIGN;WATCH",
  "231b=HOURGLASS;TOP LEFT CORNER;TOP RIGHT CORNER;BOTTOM LEFT CORNER;BOTTOM RIGHT CORNER",
  "2320=TOP HALF INTEGRAL;BOTTOM HALF INTEGRAL;FROWN;SMILE",
  "2324=UP ARROWHEAD BETWEEN TWO HORIZONTAL BARS;OPTION KEY;ERASE TO THE RIGHT",
  "2327=X IN A RECTANGLE BOX;KEYBOARD;LEFT-POINTING ANGLE BRACKET;RIGHT-POINTING ANGLE BRACKET",
  "232b=ERASE TO THE LEFT;BENZENE RING;CYLINDRICITY;ALL AROUND-PROFILE;SYMMETRY;TOTAL RUNOUT",
  "2331=DIMENSION ORIGIN;CONICAL TAPER;SLOPE;COUNTERBORE;COUNTERSINK",
  "2336=APL FUNCTIONAL SYMBOL I-BEAM;APL FUNCTIONAL SYMBOL SQUISH QUAD",
  "2338=APL FUNCTIONAL SYMBOL QUAD EQUAL;APL FUNCTIONAL SYMBOL QUAD DIVIDE",
  "233a=APL FUNCTIONAL SYMBOL QUAD DIAMOND;APL FUNCTIONAL SYMBOL QUAD JOT",
  "233c=APL FUNCTIONAL SYMBOL QUAD CIRCLE;APL FUNCTIONAL SYMBOL CIRCLE STILE",
  "233e=APL FUNCTIONAL SYMBOL CIRCLE JOT;APL FUNCTIONAL SYMBOL SLASH BAR",
  "2340=APL FUNCTIONAL SYMBOL BACKSLASH BAR;APL FUNCTIONAL SYMBOL QUAD SLASH",
  "2342=APL FUNCTIONAL SYMBOL QUAD BACKSLASH;APL FUNCTIONAL SYMBOL QUAD LESS-THAN",
  "2344=APL FUNCTIONAL SYMBOL QUAD GREATER-THAN;APL FUNCTIONAL SYMBOL LEFTWARDS VANE",
  "2346=APL FUNCTIONAL SYMBOL RIGHTWARDS VANE;APL FUNCTIONAL SYMBOL QUAD LEFTWARDS ARROW",
  "2348=APL FUNCTIONAL SYMBOL QUAD RIGHTWARDS ARROW;APL FUNCTIONAL SYMBOL CIRCLE BACKSLASH",
  "234a=APL FUNCTIONAL SYMBOL DOWN TACK UNDERBAR;APL FUNCTIONAL SYMBOL DELTA STILE",
  "234c=APL FUNCTIONAL SYMBOL QUAD DOWN CARET;APL FUNCTIONAL SYMBOL QUAD DELTA",
  "234e=APL FUNCTIONAL SYMBOL DOWN TACK JOT;APL FUNCTIONAL SYMBOL UPWARDS VANE",
  "2350=APL FUNCTIONAL SYMBOL QUAD UPWARDS ARROW;APL FUNCTIONAL SYMBOL UP TACK OVERBAR",
  "2352=APL FUNCTIONAL SYMBOL DEL STILE;APL FUNCTIONAL SYMBOL QUAD UP CARET",
  "2354=APL FUNCTIONAL SYMBOL QUAD DEL;APL FUNCTIONAL SYMBOL UP TACK JOT",
  "2356=APL FUNCTIONAL SYMBOL DOWNWARDS VANE;APL FUNCTIONAL SYMBOL QUAD DOWNWARDS ARROW",
  "2358=APL FUNCTIONAL SYMBOL QUOTE UNDERBAR;APL FUNCTIONAL SYMBOL DELTA UNDERBAR",
  "235a=APL FUNCTIONAL SYMBOL DIAMOND UNDERBAR;APL FUNCTIONAL SYMBOL JOT UNDERBAR",
  "235c=APL FUNCTIONAL SYMBOL CIRCLE UNDERBAR;APL FUNCTIONAL SYMBOL UP SHOE JOT",
  "235e=APL FUNCTIONAL SYMBOL QUOTE QUAD;APL FUNCTIONAL SYMBOL CIRCLE STAR",
  "2360=APL FUNCTIONAL SYMBOL QUAD COLON;APL FUNCTIONAL SYMBOL UP TACK DIAERESIS",
  "2362=APL FUNCTIONAL SYMBOL DEL DIAERESIS;APL FUNCTIONAL SYMBOL STAR DIAERESIS",
  "2364=APL FUNCTIONAL SYMBOL JOT DIAERESIS;APL FUNCTIONAL SYMBOL CIRCLE DIAERESIS",
  "2366=APL FUNCTIONAL SYMBOL DOWN SHOE STILE;APL FUNCTIONAL SYMBOL LEFT SHOE STILE",
  "2368=APL FUNCTIONAL SYMBOL TILDE DIAERESIS;APL FUNCTIONAL SYMBOL GREATER-THAN DIAERESIS",
  "236a=APL FUNCTIONAL SYMBOL COMMA BAR;APL FUNCTIONAL SYMBOL DEL TILDE",
  "236c=APL FUNCTIONAL SYMBOL ZILDE;APL FUNCTIONAL SYMBOL STILE TILDE",
  "236e=APL FUNCTIONAL SYMBOL SEMICOLON UNDERBAR;APL FUNCTIONAL SYMBOL QUAD NOT EQUAL",
  "2370=APL FUNCTIONAL SYMBOL QUAD QUESTION;APL FUNCTIONAL SYMBOL DOWN CARET TILDE",
  "2372=APL FUNCTIONAL SYMBOL UP CARET TILDE;APL FUNCTIONAL SYMBOL IOTA",
  "2374=APL FUNCTIONAL SYMBOL RHO;APL FUNCTIONAL SYMBOL OMEGA",
  "2376=APL FUNCTIONAL SYMBOL ALPHA UNDERBAR;APL FUNCTIONAL SYMBOL EPSILON UNDERBAR",
  "2378=APL FUNCTIONAL SYMBOL IOTA UNDERBAR;APL FUNCTIONAL SYMBOL OMEGA UNDERBAR",
  "237a=APL FUNCTIONAL SYMBOL ALPHA;NOT CHECK MARK;RIGHT ANGLE WITH DOWNWARDS ZIGZAG ARROW",
  "237d=SHOULDERED OPEN BOX;BELL SYMBOL;VERTICAL LINE WITH MIDDLE DOT;INSERTION SYMBOL",
  "2381=CONTINUOUS UNDERLINE SYMBOL;DISCONTINUOUS UNDERLINE SYMBOL;EMPHASIS SYMBOL",
  "2384=COMPOSITION SYMBOL;WHITE SQUARE WITH CENTRE VERTICAL LINE;ENTER SYMBOL",
  "2387=ALTERNATIVE KEY SYMBOL;HELM SYMBOL;CIRCLED HORIZONTAL BAR WITH NOTCH",
  "238a=CIRCLED TRIANGLE DOWN;BROKEN CIRCLE WITH NORTHWEST ARROW;UNDO SYMBOL;MONOSTABLE SYMBOL",
  "238e=HYSTERESIS SYMBOL;OPEN-CIRCUIT-OUTPUT H-TYPE SYMBOL;OPEN-CIRCUIT-OUTPUT L-TYPE SYMBOL",
  "2391=PASSIVE-PULL-DOWN-OUTPUT SYMBOL;PASSIVE-PULL-UP-OUTPUT SYMBOL",
  "2393=DIRECT CURRENT SYMBOL FORM TWO;SOFTWARE-FUNCTION SYMBOL;APL FUNCTIONAL SYMBOL QUAD",
  "2396=DECIMAL SEPARATOR KEY SYMBOL;PREVIOUS PAGE;NEXT PAGE;PRINT SCREEN SYMBOL",
  "239a=CLEAR SCREEN SYMBOL;LEFT PARENTHESIS UPPER HOOK;LEFT PARENTHESIS EXTENSION",
  "239d=LEFT PARENTHESIS LOWER HOOK;RIGHT PARENTHESIS UPPER HOOK;RIGHT PARENTHESIS EXTENSION",
  "23a0=RIGHT PARENTHESIS LOWER HOOK;LEFT SQUARE BRACKET UPPER CORNER",
  "23a2=LEFT SQUARE BRACKET EXTENSION;LEFT SQUARE BRACKET LOWER CORNER",
  "23a4=RIGHT SQUARE BRACKET UPPER CORNER;RIGHT SQUARE BRACKET EXTENSION",
  "23a6=RIGHT SQUARE BRACKET LOWER CORNER;LEFT CURLY BRACKET UPPER HOOK",
  "23a8=LEFT CURLY BRACKET MIDDLE PIECE;LEFT CURLY BRACKET LOWER HOOK;CURLY BRACKET EXTENSION",
  "23ab=RIGHT CURLY BRACKET UPPER HOOK;RIGHT CURLY BRACKET MIDDLE PIECE",
  "23ad=RIGHT CURLY BRACKET LOWER HOOK;INTEGRAL EXTENSION;HORIZONTAL LINE EXTENSION",
  "23b0=UPPER LEFT OR LOWER RIGHT CURLY BRACKET SECTION",
  "23b1=UPPER RIGHT OR LOWER LEFT CURLY BRACKET SECTION;SUMMATION TOP;SUMMATION BOTTOM",
  "23b4=TOP SQUARE BRACKET;BOTTOM SQUARE BRACKET;BOTTOM SQUARE BRACKET OVER TOP SQUARE BRACKET",
  "23b7=RADICAL SYMBOL BOTTOM;LEFT VERTICAL BOX LINE;RIGHT VERTICAL BOX LINE",
  "23ba=HORIZONTAL SCAN LINE-1;HORIZONTAL SCAN LINE-3;HORIZONTAL SCAN LINE-7",
  "23bd=HORIZONTAL SCAN LINE-9;DENTISTRY SYMBOL LIGHT VERTICAL AND TOP RIGHT",
  "23bf=DENTISTRY SYMBOL LIGHT VERTICAL AND BOTTOM RIGHT",
  "23c0=DENTISTRY SYMBOL LIGHT VERTICAL WITH CIRCLE",
  "23c1=DENTISTRY SYMBOL LIGHT DOWN AND HORIZONTAL WITH CIRCLE",
  "23c2=DENTISTRY SYMBOL LIGHT UP AND HORIZONTAL WITH CIRCLE",
  "23c3=DENTISTRY SYMBOL LIGHT VERTICAL WITH TRIANGLE",
  "23c4=DENTISTRY SYMBOL LIGHT DOWN AND HORIZONTAL WITH TRIANGLE",
  "23c5=DENTISTRY SYMBOL LIGHT UP AND HORIZONTAL WITH TRIANGLE",
  "23c6=DENTISTRY SYMBOL LIGHT VERTICAL AND WAVE",
  "23c7=DENTISTRY SYMBOL LIGHT DOWN AND HORIZONTAL WITH WAVE",
  "23c8=DENTISTRY SYMBOL LIGHT UP AND HORIZONTAL WITH WAVE",
  "23c9=DENTISTRY SYMBOL LIGHT DOWN AND HORIZONTAL;DENTISTRY SYMBOL LIGHT UP AND HORIZONTAL",
  "23cb=DENTISTRY SYMBOL LIGHT VERTICAL AND TOP LEFT",
  "23cc=DENTISTRY SYMBOL LIGHT VERTICAL AND BOTTOM LEFT;SQUARE FOOT;RETURN SYMBOL;EJECT SYMBOL",
  "23d0=VERTICAL LINE EXTENSION;METRICAL BREVE;METRICAL LONG OVER SHORT",
  "23d3=METRICAL SHORT OVER LONG;METRICAL LONG OVER TWO SHORTS;METRICAL TWO SHORTS OVER LONG",
  "23d6=METRICAL TWO SHORTS JOINED;METRICAL TRISEME;METRICAL TETRASEME;METRICAL PENTASEME",
  "23da=EARTH GROUND;FUSE;TOP PARENTHESIS;BOTTOM PARENTHESIS;TOP CURLY BRACKET",
  "23df=BOTTOM CURLY BRACKET;TOP TORTOISE SHELL BRACKET;BOTTOM TORTOISE SHELL BRACKET",
  "23e2=WHITE TRAPEZIUM;BENZENE RING WITH CIRCLE;STRAIGHTNESS;FLATNESS;AC CURRENT",
  "23e7=ELECTRICAL INTERSECTION;DECIMAL EXPONENT SYMBOL;BLACK RIGHT-POINTING DOUBLE TRIANGLE",
  "23ea=BLACK LEFT-POINTING DOUBLE TRIANGLE;BLACK UP-POINTING DOUBLE TRIANGLE",
  "23ec=BLACK DOWN-POINTING DOUBLE TRIANGLE",
  "23ed=BLACK RIGHT-POINTING DOUBLE TRIANGLE WITH VERTICAL BAR",
  "23ee=BLACK LEFT-POINTING DOUBLE TRIANGLE WITH VERTICAL BAR",
  "23ef=BLACK RIGHT-POINTING TRIANGLE WITH DOUBLE VERTICAL BAR;ALARM CLOCK;STOPWATCH",
  "23f2=TIMER CLOCK;HOURGLASS WITH FLOWING SAND;BLACK MEDIUM LEFT-POINTING TRIANGLE",
  "23f5=BLACK MEDIUM RIGHT-POINTING TRIANGLE;BLACK MEDIUM UP-POINTING TRIANGLE",
  "23f7=BLACK MEDIUM DOWN-POINTING TRIANGLE;DOUBLE VERTICAL BAR;BLACK SQUARE FOR STOP",
  "23fa=BLACK CIRCLE FOR RECORD;POWER SYMBOL;POWER ON-OFF SYMBOL;POWER ON SYMBOL",
  "23fe=POWER SLEEP SYMBOL;OBSERVER EYE SYMBOL;SYMBOL FOR NULL;SYMBOL FOR START OF HEADING",
  "2402=SYMBOL FOR START OF TEXT;SYMBOL FOR END OF TEXT;SYMBOL FOR END OF TRANSMISSION",
  "2405=SYMBOL FOR ENQUIRY;SYMBOL FOR ACKNOWLEDGE;SYMBOL FOR BELL;SYMBOL FOR BACKSPACE",
  "2409=SYMBOL FOR HORIZONTAL TABULATION;SYMBOL FOR LINE FEED;SYMBOL FOR VERTICAL TABULATION",
  "240c=SYMBOL FOR FORM FEED;SYMBOL FOR CARRIAGE RETURN;SYMBOL FOR SHIFT OUT",
  "240f=SYMBOL FOR SHIFT IN;SYMBOL FOR DATA LINK ESCAPE;SYMBOL FOR DEVICE CONTROL ONE",
  "2412=SYMBOL FOR DEVICE CONTROL TWO;SYMBOL FOR DEVICE CONTROL THREE",
  "2414=SYMBOL FOR DEVICE CONTROL FOUR;SYMBOL FOR NEGATIVE ACKNOWLEDGE",
  "2416=SYMBOL FOR SYNCHRONOUS IDLE;SYMBOL FOR END OF TRANSMISSION BLOCK;SYMBOL FOR CANCEL",
  "2419=SYMBOL FOR END OF MEDIUM;SYMBOL FOR SUBSTITUTE;SYMBOL FOR ESCAPE",
  "241c=SYMBOL FOR FILE SEPARATOR;SYMBOL FOR GROUP SEPARATOR;SYMBOL FOR RECORD SEPARATOR",
  "241f=SYMBOL FOR UNIT SEPARATOR;SYMBOL FOR SPACE;SYMBOL FOR DELETE;BLANK SYMBOL;OPEN BOX",
  "2424=SYMBOL FOR NEWLINE;SYMBOL FOR DELETE FORM TWO;SYMBOL FOR SUBSTITUTE FORM TWO",
  "2440=OCR HOOK;OCR CHAIR;OCR FORK;OCR INVERTED FORK;OCR BELT BUCKLE;OCR BOW TIE",
  "2446=OCR BRANCH BANK IDENTIFICATION;OCR AMOUNT OF CHECK;OCR DASH;OCR CUSTOMER ACCOUNT NUMBER",
  "244a=OCR DOUBLE BACKSLASH",
  "2460=CIRCLED DIGIT ONE;CIRCLED DIGIT TWO;CIRCLED DIGIT THREE;CIRCLED DIGIT FOUR",
  "2464=CIRCLED DIGIT FIVE;CIRCLED DIGIT SIX;CIRCLED DIGIT SEVEN;CIRCLED DIGIT EIGHT",
  "2468=CIRCLED DIGIT NINE;CIRCLED NUMBER TEN;CIRCLED NUMBER ELEVEN;CIRCLED NUMBER TWELVE",
  "246c=CIRCLED NUMBER THIRTEEN;CIRCLED NUMBER FOURTEEN;CIRCLED NUMBER FIFTEEN",
  "246f=CIRCLED NUMBER SIXTEEN;CIRCLED NUMBER SEVENTEEN;CIRCLED NUMBER EIGHTEEN",
  "2472=CIRCLED NUMBER NINETEEN;CIRCLED NUMBER TWENTY;PARENTHESIZED DIGIT ONE",
  "2475=PARENTHESIZED DIGIT TWO;PARENTHESIZED DIGIT THREE;PARENTHESIZED DIGIT FOUR",
  "2478=PARENTHESIZED DIGIT FIVE;PARENTHESIZED DIGIT SIX;PARENTHESIZED DIGIT SEVEN",
  "247b=PARENTHESIZED DIGIT EIGHT;PARENTHESIZED DIGIT NINE;PARENTHESIZED NUMBER TEN",
  "247e=PARENTHESIZED NUMBER ELEVEN;PARENTHESIZED NUMBER TWELVE;PARENTHESIZED NUMBER THIRTEEN",
  "2481=PARENTHESIZED NUMBER FOURTEEN;PARENTHESIZED NUMBER FIFTEEN;PARENTHESIZED NUMBER SIXTEEN",
  "2484=PARENTHESIZED NUMBER SEVENTEEN;PARENTHESIZED NUMBER EIGHTEEN",
  "2486=PARENTHESIZED NUMBER NINETEEN;PARENTHESIZED NUMBER TWENTY;DIGIT ONE FULL STOP",
  "2489=DIGIT TWO FULL STOP;DIGIT THREE FULL STOP;DIGIT FOUR FULL STOP;DIGIT FIVE FULL STOP",
  "248d=DIGIT SIX FULL STOP;DIGIT SEVEN FULL STOP;DIGIT EIGHT FULL STOP;DIGIT NINE FULL STOP",
  "2491=NUMBER TEN FULL STOP;NUMBER ELEVEN FULL STOP;NUMBER TWELVE FULL STOP",
  "2494=NUMBER THIRTEEN FULL STOP;NUMBER FOURTEEN FULL STOP;NUMBER FIFTEEN FULL STOP",
  "2497=NUMBER SIXTEEN FULL STOP;NUMBER SEVENTEEN FULL STOP;NUMBER EIGHTEEN FULL STOP",
  "249a=NUMBER NINETEEN FULL STOP;NUMBER TWENTY FULL STOP;PARENTHESIZED LATIN SMALL LETTER A",
  "249d=PARENTHESIZED LATIN SMALL LETTER B;PARENTHESIZED LATIN SMALL LETTER C",
  "249f=PARENTHESIZED LATIN SMALL LETTER D;PARENTHESIZED LATIN SMALL LETTER E",
  "24a1=PARENTHESIZED LATIN SMALL LETTER F;PARENTHESIZED LATIN SMALL LETTER G",
  "24a3=PARENTHESIZED LATIN SMALL LETTER H;PARENTHESIZED LATIN SMALL LETTER I",
  "24a5=PARENTHESIZED LATIN SMALL LETTER J;PARENTHESIZED LATIN SMALL LETTER K",
  "24a7=PARENTHESIZED LATIN SMALL LETTER L;PARENTHESIZED LATIN SMALL LETTER M",
  "24a9=PARENTHESIZED LATIN SMALL LETTER N;PARENTHESIZED LATIN SMALL LETTER O",
  "24ab=PARENTHESIZED LATIN SMALL LETTER P;PARENTHESIZED LATIN SMALL LETTER Q",
  "24ad=PARENTHESIZED LATIN SMALL LETTER R;PARENTHESIZED LATIN SMALL LETTER S",
  "24af=PARENTHESIZED LATIN SMALL LETTER T;PARENTHESIZED LATIN SMALL LETTER U",
  "24b1=PARENTHESIZED LATIN SMALL LETTER V;PARENTHESIZED LATIN SMALL LETTER W",
  "24b3=PARENTHESIZED LATIN SMALL LETTER X;PARENTHESIZED LATIN SMALL LETTER Y",
  "24b5=PARENTHESIZED LATIN SMALL LETTER Z;CIRCLED LATIN CAPITAL LETTER A",
  "24b7=CIRCLED LATIN CAPITAL LETTER B;CIRCLED LATIN CAPITAL LETTER C",
  "24b9=CIRCLED LATIN CAPITAL LETTER D;CIRCLED LATIN CAPITAL LETTER E",
  "24bb=CIRCLED LATIN CAPITAL LETTER F;CIRCLED LATIN CAPITAL LETTER G",
  "24bd=CIRCLED LATIN CAPITAL LETTER H;CIRCLED LATIN CAPITAL LETTER I",
  "24bf=CIRCLED LATIN CAPITAL LETTER J;CIRCLED LATIN CAPITAL LETTER K",
  "24c1=CIRCLED LATIN CAPITAL LETTER L;CIRCLED LATIN CAPITAL LETTER M",
  "24c3=CIRCLED LATIN CAPITAL LETTER N;CIRCLED LATIN CAPITAL LETTER O",
  "24c5=CIRCLED LATIN CAPITAL LETTER P;CIRCLED LATIN CAPITAL LETTER Q",
  "24c7=CIRCLED LATIN CAPITAL LETTER R;CIRCLED LATIN CAPITAL LETTER S",
  "24c9=CIRCLED LATIN CAPITAL LETTER T;CIRCLED LATIN CAPITAL LETTER U",
  "24cb=CIRCLED LATIN CAPITAL LETTER V;CIRCLED LATIN CAPITAL LETTER W",
  "24cd=CIRCLED LATIN CAPITAL LETTER X;CIRCLED LATIN CAPITAL LETTER Y",
  "24cf=CIRCLED LATIN CAPITAL LETTER Z;CIRCLED LATIN SMALL LETTER A",
  "24d1=CIRCLED LATIN SMALL LETTER B;CIRCLED LATIN SMALL LETTER C;CIRCLED LATIN SMALL LETTER D",
  "24d4=CIRCLED LATIN SMALL LETTER E;CIRCLED LATIN SMALL LETTER F;CIRCLED LATIN SMALL LETTER G",
  "24d7=CIRCLED LATIN SMALL LETTER H;CIRCLED LATIN SMALL LETTER I;CIRCLED LATIN SMALL LETTER J",
  "24da=CIRCLED LATIN SMALL LETTER K;CIRCLED LATIN SMALL LETTER L;CIRCLED LATIN SMALL LETTER M",
  "24dd=CIRCLED LATIN SMALL LETTER N;CIRCLED LATIN SMALL LETTER O;CIRCLED LATIN SMALL LETTER P",
  "24e0=CIRCLED LATIN SMALL LETTER Q;CIRCLED LATIN SMALL LETTER R;CIRCLED LATIN SMALL LETTER S",
  "24e3=CIRCLED LATIN SMALL LETTER T;CIRCLED LATIN SMALL LETTER U;CIRCLED LATIN SMALL LETTER V",
  "24e6=CIRCLED LATIN SMALL LETTER W;CIRCLED LATIN SMALL LETTER X;CIRCLED LATIN SMALL LETTER Y",
  "24e9=CIRCLED LATIN SMALL LETTER Z;CIRCLED DIGIT ZERO;NEGATIVE CIRCLED NUMBER ELEVEN",
  "24ec=NEGATIVE CIRCLED NUMBER TWELVE;NEGATIVE CIRCLED NUMBER THIRTEEN",
  "24ee=NEGATIVE CIRCLED NUMBER FOURTEEN;NEGATIVE CIRCLED NUMBER FIFTEEN",
  "24f0=NEGATIVE CIRCLED NUMBER SIXTEEN;NEGATIVE CIRCLED NUMBER SEVENTEEN",
  "24f2=NEGATIVE CIRCLED NUMBER EIGHTEEN;NEGATIVE CIRCLED NUMBER NINETEEN",
  "24f4=NEGATIVE CIRCLED NUMBER TWENTY;DOUBLE CIRCLED DIGIT ONE;DOUBLE CIRCLED DIGIT TWO",
  "24f7=DOUBLE CIRCLED DIGIT THREE;DOUBLE CIRCLED DIGIT FOUR;DOUBLE CIRCLED DIGIT FIVE",
  "24fa=DOUBLE CIRCLED DIGIT SIX;DOUBLE CIRCLED DIGIT SEVEN;DOUBLE CIRCLED DIGIT EIGHT",
  "24fd=DOUBLE CIRCLED DIGIT NINE;DOUBLE CIRCLED NUMBER TEN;NEGATIVE CIRCLED DIGIT ZERO",
  "2500=BOX DRAWINGS LIGHT HORIZONTAL;BOX DRAWINGS HEAVY HORIZONTAL;BOX DRAWINGS LIGHT VERTICAL",
  "2503=BOX DRAWINGS HEAVY VERTICAL;BOX DRAWINGS LIGHT TRIPLE DASH HORIZONTAL",
  "2505=BOX DRAWINGS HEAVY TRIPLE DASH HORIZONTAL;BOX DRAWINGS LIGHT TRIPLE DASH VERTICAL",
  "2507=BOX DRAWINGS HEAVY TRIPLE DASH VERTICAL;BOX DRAWINGS LIGHT QUADRUPLE DASH HORIZONTAL",
  "2509=BOX DRAWINGS HEAVY QUADRUPLE DASH HORIZONTAL;BOX DRAWINGS LIGHT QUADRUPLE DASH VERTICAL",
  "250b=BOX DRAWINGS HEAVY QUADRUPLE DASH VERTICAL;BOX DRAWINGS LIGHT DOWN AND RIGHT",
  "250d=BOX DRAWINGS DOWN LIGHT AND RIGHT HEAVY;BOX DRAWINGS DOWN HEAVY AND RIGHT LIGHT",
  "250f=BOX DRAWINGS HEAVY DOWN AND RIGHT;BOX DRAWINGS LIGHT DOWN AND LEFT",
  "2511=BOX DRAWINGS DOWN LIGHT AND LEFT HEAVY;BOX DRAWINGS DOWN HEAVY AND LEFT LIGHT",
  "2513=BOX DRAWINGS HEAVY DOWN AND LEFT;BOX DRAWINGS LIGHT UP AND RIGHT",
  "2515=BOX DRAWINGS UP LIGHT AND RIGHT HEAVY;BOX DRAWINGS UP HEAVY AND RIGHT LIGHT",
  "2517=BOX DRAWINGS HEAVY UP AND RIGHT;BOX DRAWINGS LIGHT UP AND LEFT",
  "2519=BOX DRAWINGS UP LIGHT AND LEFT HEAVY;BOX DRAWINGS UP HEAVY AND LEFT LIGHT",
  "251b=BOX DRAWINGS HEAVY UP AND LEFT;BOX DRAWINGS LIGHT VERTICAL AND RIGHT",
  "251d=BOX DRAWINGS VERTICAL LIGHT AND RIGHT HEAVY;BOX DRAWINGS UP HEAVY AND RIGHT DOWN LIGHT",
  "251f=BOX DRAWINGS DOWN HEAVY AND RIGHT UP LIGHT;BOX DRAWINGS VERTICAL HEAVY AND RIGHT LIGHT",
  "2521=BOX DRAWINGS DOWN LIGHT AND RIGHT UP HEAVY;BOX DRAWINGS UP LIGHT AND RIGHT DOWN HEAVY",
  "2523=BOX DRAWINGS HEAVY VERTICAL AND RIGHT;BOX DRAWINGS LIGHT VERTICAL AND LEFT",
  "2525=BOX DRAWINGS VERTICAL LIGHT AND LEFT HEAVY;BOX DRAWINGS UP HEAVY AND LEFT DOWN LIGHT",
  "2527=BOX DRAWINGS DOWN HEAVY AND LEFT UP LIGHT;BOX DRAWINGS VERTICAL HEAVY AND LEFT LIGHT",
  "2529=BOX DRAWINGS DOWN LIGHT AND LEFT UP HEAVY;BOX DRAWINGS UP LIGHT AND LEFT DOWN HEAVY",
  "252b=BOX DRAWINGS HEAVY VERTICAL AND LEFT;BOX DRAWINGS LIGHT DOWN AND HORIZONTAL",
  "252d=BOX DRAWINGS LEFT HEAVY AND RIGHT DOWN LIGHT",
  "252e=BOX DRAWINGS RIGHT HEAVY AND LEFT DOWN LIGHT",
  "252f=BOX DRAWINGS DOWN LIGHT AND HORIZONTAL HEAVY",
  "2530=BOX DRAWINGS DOWN HEAVY AND HORIZONTAL LIGHT",
  "2531=BOX DRAWINGS RIGHT LIGHT AND LEFT DOWN HEAVY",
  "2532=BOX DRAWINGS LEFT LIGHT AND RIGHT DOWN HEAVY;BOX DRAWINGS HEAVY DOWN AND HORIZONTAL",
  "2534=BOX DRAWINGS LIGHT UP AND HORIZONTAL;BOX DRAWINGS LEFT HEAVY AND RIGHT UP LIGHT",
  "2536=BOX DRAWINGS RIGHT HEAVY AND LEFT UP LIGHT;BOX DRAWINGS UP LIGHT AND HORIZONTAL HEAVY",
  "2538=BOX DRAWINGS UP HEAVY AND HORIZONTAL LIGHT;BOX DRAWINGS RIGHT LIGHT AND LEFT UP HEAVY",
  "253a=BOX DRAWINGS LEFT LIGHT AND RIGHT UP HEAVY;BOX DRAWINGS HEAVY UP AND HORIZONTAL",
  "253c=BOX DRAWINGS LIGHT VERTICAL AND HORIZONTAL",
  "253d=BOX DRAWINGS LEFT HEAVY AND RIGHT VERTICAL LIGHT",
  "253e=BOX DRAWINGS RIGHT HEAVY AND LEFT VERTICAL LIGHT",
  "253f=BOX DRAWINGS VERTICAL LIGHT AND HORIZONTAL HEAVY",
  "2540=BOX DRAWINGS UP HEAVY AND DOWN HORIZONTAL LIGHT",
  "2541=BOX DRAWINGS DOWN HEAVY AND UP HORIZONTAL LIGHT",
  "2542=BOX DRAWINGS VERTICAL HEAVY AND HORIZONTAL LIGHT",
  "2543=BOX DRAWINGS LEFT UP HEAVY AND RIGHT DOWN LIGHT",
  "2544=BOX DRAWINGS RIGHT UP HEAVY AND LEFT DOWN LIGHT",
  "2545=BOX DRAWINGS LEFT DOWN HEAVY AND RIGHT UP LIGHT",
  "2546=BOX DRAWINGS RIGHT DOWN HEAVY AND LEFT UP LIGHT",
  "2547=BOX DRAWINGS DOWN LIGHT AND UP HORIZONTAL HEAVY",
  "2548=BOX DRAWINGS UP LIGHT AND DOWN HORIZONTAL HEAVY",
  "2549=BOX DRAWINGS RIGHT LIGHT AND LEFT VERTICAL HEAVY",
  "254a=BOX DRAWINGS LEFT LIGHT AND RIGHT VERTICAL HEAVY",
  "254b=BOX DRAWINGS HEAVY VERTICAL AND HORIZONTAL;BOX DRAWINGS LIGHT DOUBLE DASH HORIZONTAL",
  "254d=BOX DRAWINGS HEAVY DOUBLE DASH HORIZONTAL;BOX DRAWINGS LIGHT DOUBLE DASH VERTICAL",
  "254f=BOX DRAWINGS HEAVY DOUBLE DASH VERTICAL;BOX DRAWINGS DOUBLE HORIZONTAL",
  "2551=BOX DRAWINGS DOUBLE VERTICAL;BOX DRAWINGS DOWN SINGLE AND RIGHT DOUBLE",
  "2553=BOX DRAWINGS DOWN DOUBLE AND RIGHT SINGLE;BOX DRAWINGS DOUBLE DOWN AND RIGHT",
  "2555=BOX DRAWINGS DOWN SINGLE AND LEFT DOUBLE;BOX DRAWINGS DOWN DOUBLE AND LEFT SINGLE",
  "2557=BOX DRAWINGS DOUBLE DOWN AND LEFT;BOX DRAWINGS UP SINGLE AND RIGHT DOUBLE",
  "2559=BOX DRAWINGS UP DOUBLE AND RIGHT SINGLE;BOX DRAWINGS DOUBLE UP AND RIGHT",
  "255b=BOX DRAWINGS UP SINGLE AND LEFT DOUBLE;BOX DRAWINGS UP DOUBLE AND LEFT SINGLE",
  "255d=BOX DRAWINGS DOUBLE UP AND LEFT;BOX DRAWINGS VERTICAL SINGLE AND RIGHT DOUBLE",
  "255f=BOX DRAWINGS VERTICAL DOUBLE AND RIGHT SINGLE;BOX DRAWINGS DOUBLE VERTICAL AND RIGHT",
  "2561=BOX DRAWINGS VERTICAL SINGLE AND LEFT DOUBLE",
  "2562=BOX DRAWINGS VERTICAL DOUBLE AND LEFT SINGLE;BOX DRAWINGS DOUBLE VERTICAL AND LEFT",
  "2564=BOX DRAWINGS DOWN SINGLE AND HORIZONTAL DOUBLE",
  "2565=BOX DRAWINGS DOWN DOUBLE AND HORIZONTAL SINGLE;BOX DRAWINGS DOUBLE DOWN AND HORIZONTAL",
  "2567=BOX DRAWINGS UP SINGLE AND HORIZONTAL DOUBLE",
  "2568=BOX DRAWINGS UP DOUBLE AND HORIZONTAL SINGLE;BOX DRAWINGS DOUBLE UP AND HORIZONTAL",
  "256a=BOX DRAWINGS VERTICAL SINGLE AND HORIZONTAL DOUBLE",
  "256b=BOX DRAWINGS VERTICAL DOUBLE AND HORIZONTAL SINGLE",
  "256c=BOX DRAWINGS DOUBLE VERTICAL AND HORIZONTAL;BOX DRAWINGS LIGHT ARC DOWN AND RIGHT",
  "256e=BOX DRAWINGS LIGHT ARC DOWN AND LEFT;BOX DRAWINGS LIGHT ARC UP AND LEFT",
  "2570=BOX DRAWINGS LIGHT ARC UP AND RIGHT",
  "2571=BOX DRAWINGS LIGHT DIAGONAL UPPER RIGHT TO LOWER LEFT",
  "2572=BOX DRAWINGS LIGHT DIAGONAL UPPER LEFT TO LOWER RIGHT;BOX DRAWINGS LIGHT DIAGONAL CROSS",
  "2574=BOX DRAWINGS LIGHT LEFT;BOX DRAWINGS LIGHT UP;BOX DRAWINGS LIGHT RIGHT",
  "2577=BOX DRAWINGS LIGHT DOWN;BOX DRAWINGS HEAVY LEFT;BOX DRAWINGS HEAVY UP",
  "257a=BOX DRAWINGS HEAVY RIGHT;BOX DRAWINGS HEAVY DOWN",
  "257c=BOX DRAWINGS LIGHT LEFT AND HEAVY RIGHT;BOX DRAWINGS LIGHT UP AND HEAVY DOWN",
  "257e=BOX DRAWINGS HEAVY LEFT AND LIGHT RIGHT;BOX DRAWINGS HEAVY UP AND LIGHT DOWN",
  "2580=UPPER HALF BLOCK;LOWER ONE EIGHTH BLOCK;LOWER ONE QUARTER BLOCK",
  "2583=LOWER THREE EIGHTHS BLOCK;LOWER HALF BLOCK;LOWER FIVE EIGHTHS BLOCK",
  "2586=LOWER THREE QUARTERS BLOCK;LOWER SEVEN EIGHTHS BLOCK;FULL BLOCK",
  "2589=LEFT SEVEN EIGHTHS BLOCK;LEFT THREE QUARTERS BLOCK;LEFT FIVE EIGHTHS BLOCK",
  "258c=LEFT HALF BLOCK;LEFT THREE EIGHTHS BLOCK;LEFT ONE QUARTER BLOCK;LEFT ONE EIGHTH BLOCK",
  "2590=RIGHT HALF BLOCK;LIGHT SHADE;MEDIUM SHADE;DARK SHADE;UPPER ONE EIGHTH BLOCK",
  "2595=RIGHT ONE EIGHTH BLOCK;QUADRANT LOWER LEFT;QUADRANT LOWER RIGHT;QUADRANT UPPER LEFT",
  "2599=QUADRANT UPPER LEFT AND LOWER LEFT AND LOWER RIGHT;QUADRANT UPPER LEFT AND LOWER RIGHT",
  "259b=QUADRANT UPPER LEFT AND UPPER RIGHT AND LOWER LEFT",
  "259c=QUADRANT UPPER LEFT AND UPPER RIGHT AND LOWER RIGHT;QUADRANT UPPER RIGHT",
  "259e=QUADRANT UPPER RIGHT AND LOWER LEFT;QUADRANT UPPER RIGHT AND LOWER LEFT AND LOWER RIGHT",
  "25a0=BLACK SQUARE;WHITE SQUARE;WHITE SQUARE WITH ROUNDED CORNERS",
  "25a3=WHITE SQUARE CONTAINING BLACK SMALL SQUARE;SQUARE WITH HORIZONTAL FILL",
  "25a5=SQUARE WITH VERTICAL FILL;SQUARE WITH ORTHOGONAL CROSSHATCH FILL",
  "25a7=SQUARE WITH UPPER LEFT TO LOWER RIGHT FILL;SQUARE WITH UPPER RIGHT TO LOWER LEFT FILL",
  "25a9=SQUARE WITH DIAGONAL CROSSHATCH FILL;BLACK SMALL SQUARE;WHITE SMALL SQUARE",
  "25ac=BLACK RECTANGLE;WHITE RECTANGLE;BLACK VERTICAL RECTANGLE;WHITE VERTICAL RECTANGLE",
  "25b0=BLACK PARALLELOGRAM;WHITE PARALLELOGRAM;BLACK UP-POINTING TRIANGLE",
  "25b3=WHITE UP-POINTING TRIANGLE;BLACK UP-POINTING SMALL TRIANGLE",
  "25b5=WHITE UP-POINTING SMALL TRIANGLE;BLACK RIGHT-POINTING TRIANGLE",
  "25b7=WHITE RIGHT-POINTING TRIANGLE;BLACK RIGHT-POINTING SMALL TRIANGLE",
  "25b9=WHITE RIGHT-POINTING SMALL TRIANGLE;BLACK RIGHT-POINTING POINTER",
  "25bb=WHITE RIGHT-POINTING POINTER;BLACK DOWN-POINTING TRIANGLE;WHITE DOWN-POINTING TRIANGLE",
  "25be=BLACK DOWN-POINTING SMALL TRIANGLE;WHITE DOWN-POINTING SMALL TRIANGLE",
  "25c0=BLACK LEFT-POINTING TRIANGLE;WHITE LEFT-POINTING TRIANGLE",
  "25c2=BLACK LEFT-POINTING SMALL TRIANGLE;WHITE LEFT-POINTING SMALL TRIANGLE",
  "25c4=BLACK LEFT-POINTING POINTER;WHITE LEFT-POINTING POINTER;BLACK DIAMOND;WHITE DIAMOND",
  "25c8=WHITE DIAMOND CONTAINING BLACK SMALL DIAMOND;FISHEYE;LOZENGE;WHITE CIRCLE;DOTTED CIRCLE",
  "25cd=CIRCLE WITH VERTICAL FILL;BULLSEYE;BLACK CIRCLE;CIRCLE WITH LEFT HALF BLACK",
  "25d1=CIRCLE WITH RIGHT HALF BLACK;CIRCLE WITH LOWER HALF BLACK;CIRCLE WITH UPPER HALF BLACK",
  "25d4=CIRCLE WITH UPPER RIGHT QUADRANT BLACK;CIRCLE WITH ALL BUT UPPER LEFT QUADRANT BLACK",
  "25d6=LEFT HALF BLACK CIRCLE;RIGHT HALF BLACK CIRCLE;INVERSE BULLET;INVERSE WHITE CIRCLE",
  "25da=UPPER HALF INVERSE WHITE CIRCLE;LOWER HALF INVERSE WHITE CIRCLE",
  "25dc=UPPER LEFT QUADRANT CIRCULAR ARC;UPPER RIGHT QUADRANT CIRCULAR ARC",
  "25de=LOWER RIGHT QUADRANT CIRCULAR ARC;LOWER LEFT QUADRANT CIRCULAR ARC;UPPER HALF CIRCLE",
  "25e1=LOWER HALF CIRCLE;BLACK LOWER RIGHT TRIANGLE;BLACK LOWER LEFT TRIANGLE",
  "25e4=BLACK UPPER LEFT TRIANGLE;BLACK UPPER RIGHT TRIANGLE;WHITE BULLET",
  "25e7=SQUARE WITH LEFT HALF BLACK;SQUARE WITH RIGHT HALF BLACK",
  "25e9=SQUARE WITH UPPER LEFT DIAGONAL HALF BLACK;SQUARE WITH LOWER RIGHT DIAGONAL HALF BLACK",
  "25eb=WHITE SQUARE WITH VERTICAL BISECTING LINE;WHITE UP-POINTING TRIANGLE WITH DOT",
  "25ed=UP-POINTING TRIANGLE WITH LEFT HALF BLACK;UP-POINTING TRIANGLE WITH RIGHT HALF BLACK",
  "25ef=LARGE CIRCLE;WHITE SQUARE WITH UPPER LEFT QUADRANT",
  "25f1=WHITE SQUARE WITH LOWER LEFT QUADRANT;WHITE SQUARE WITH LOWER RIGHT QUADRANT",
  "25f3=WHITE SQUARE WITH UPPER RIGHT QUADRANT;WHITE CIRCLE WITH UPPER LEFT QUADRANT",
  "25f5=WHITE CIRCLE WITH LOWER LEFT QUADRANT;WHITE CIRCLE WITH LOWER RIGHT QUADRANT",
  "25f7=WHITE CIRCLE WITH UPPER RIGHT QUADRANT;UPPER LEFT TRIANGLE;UPPER RIGHT TRIANGLE",
  "25fa=LOWER LEFT TRIANGLE;WHITE MEDIUM SQUARE;BLACK MEDIUM SQUARE;WHITE MEDIUM SMALL SQUARE",
  "25fe=BLACK MEDIUM SMALL SQUARE;LOWER RIGHT TRIANGLE;BLACK SUN WITH RAYS;CLOUD;UMBRELLA",
  "2603=SNOWMAN;COMET;BLACK STAR;WHITE STAR;LIGHTNING;THUNDERSTORM;SUN;ASCENDING NODE",
  "260b=DESCENDING NODE;CONJUNCTION;OPPOSITION;BLACK TELEPHONE;WHITE TELEPHONE;BALLOT BOX",
  "2611=BALLOT BOX WITH CHECK;BALLOT BOX WITH X;SALTIRE;UMBRELLA WITH RAIN DROPS;HOT BEVERAGE",
  "2616=WHITE SHOGI PIECE;BLACK SHOGI PIECE;SHAMROCK;REVERSED ROTATED FLORAL HEART BULLET",
  "261a=BLACK LEFT POINTING INDEX;BLACK RIGHT POINTING INDEX;WHITE LEFT POINTING INDEX",
  "261d=WHITE UP POINTING INDEX;WHITE RIGHT POINTING INDEX;WHITE DOWN POINTING INDEX",
  "2620=SKULL AND CROSSBONES;CAUTION SIGN;RADIOACTIVE SIGN;BIOHAZARD SIGN;CADUCEUS;ANKH",
  "2626=ORTHODOX CROSS;CHI RHO;CROSS OF LORRAINE;CROSS OF JERUSALEM;STAR AND CRESCENT",
  "262b=FARSI SYMBOL;ADI SHAKTI;HAMMER AND SICKLE;PEACE SYMBOL;YIN YANG;TRIGRAM FOR HEAVEN",
  "2631=TRIGRAM FOR LAKE;TRIGRAM FOR FIRE;TRIGRAM FOR THUNDER;TRIGRAM FOR WIND",
  "2635=TRIGRAM FOR WATER;TRIGRAM FOR MOUNTAIN;TRIGRAM FOR EARTH;WHEEL OF DHARMA",
  "2639=WHITE FROWNING FACE;WHITE SMILING FACE;BLACK SMILING FACE;WHITE SUN WITH RAYS",
  "263d=FIRST QUARTER MOON;LAST QUARTER MOON;MERCURY;FEMALE SIGN;EARTH;MALE SIGN;JUPITER;SATURN",
  "2645=URANUS;NEPTUNE;PLUTO;ARIES;TAURUS;GEMINI;CANCER;LEO;VIRGO;LIBRA;SCORPIUS;SAGITTARIUS",
  "2651=CAPRICORN;AQUARIUS;PISCES;WHITE CHESS KING;WHITE CHESS QUEEN;WHITE CHESS ROOK",
  "2657=WHITE CHESS BISHOP;WHITE CHESS KNIGHT;WHITE CHESS PAWN;BLACK CHESS KING",
  "265b=BLACK CHESS QUEEN;BLACK CHESS ROOK;BLACK CHESS BISHOP;BLACK CHESS KNIGHT",
  "265f=BLACK CHESS PAWN;BLACK SPADE SUIT;WHITE HEART SUIT;WHITE DIAMOND SUIT;BLACK CLUB SUIT",
  "2664=WHITE SPADE SUIT;BLACK HEART SUIT;BLACK DIAMOND SUIT;WHITE CLUB SUIT;HOT SPRINGS",
  "2669=QUARTER NOTE;EIGHTH NOTE;BEAMED EIGHTH NOTES;BEAMED SIXTEENTH NOTES;MUSIC FLAT SIGN",
  "266e=MUSIC NATURAL SIGN;MUSIC SHARP SIGN;WEST SYRIAC CROSS;EAST SYRIAC CROSS",
  "2672=UNIVERSAL RECYCLING SYMBOL;RECYCLING SYMBOL FOR TYPE-1 PLASTICS",
  "2674=RECYCLING SYMBOL FOR TYPE-2 PLASTICS;RECYCLING SYMBOL FOR TYPE-3 PLASTICS",
  "2676=RECYCLING SYMBOL FOR TYPE-4 PLASTICS;RECYCLING SYMBOL FOR TYPE-5 PLASTICS",
  "2678=RECYCLING SYMBOL FOR TYPE-6 PLASTICS;RECYCLING SYMBOL FOR TYPE-7 PLASTICS",
  "267a=RECYCLING SYMBOL FOR GENERIC MATERIALS;BLACK UNIVERSAL RECYCLING SYMBOL",
  "267c=RECYCLED PAPER SYMBOL;PARTIALLY-RECYCLED PAPER SYMBOL;PERMANENT PAPER SIGN",
  "267f=WHEELCHAIR SYMBOL;DIE FACE-1;DIE FACE-2;DIE FACE-3;DIE FACE-4;DIE FACE-5;DIE FACE-6",
  "2686=WHITE CIRCLE WITH DOT RIGHT;WHITE CIRCLE WITH TWO DOTS",
  "2688=BLACK CIRCLE WITH WHITE DOT RIGHT;BLACK CIRCLE WITH TWO WHITE DOTS;MONOGRAM FOR YANG",
  "268b=MONOGRAM FOR YIN;DIGRAM FOR GREATER YANG;DIGRAM FOR LESSER YIN;DIGRAM FOR LESSER YANG",
  "268f=DIGRAM FOR GREATER YIN;WHITE FLAG;BLACK FLAG;HAMMER AND PICK;ANCHOR;CROSSED SWORDS",
  "2695=STAFF OF AESCULAPIUS;SCALES;ALEMBIC;FLOWER;GEAR;STAFF OF HERMES;ATOM SYMBOL",
  "269c=FLEUR-DE-LIS;OUTLINED WHITE STAR;THREE LINES CONVERGING RIGHT",
  "269f=THREE LINES CONVERGING LEFT;WARNING SIGN;HIGH VOLTAGE SIGN;DOUBLED FEMALE SIGN",
  "26a3=DOUBLED MALE SIGN;INTERLOCKED FEMALE AND MALE SIGN;MALE AND FEMALE SIGN",
  "26a6=MALE WITH STROKE SIGN;MALE WITH STROKE AND MALE AND FEMALE SIGN",
  "26a8=VERTICAL MALE WITH STROKE SIGN;HORIZONTAL MALE WITH STROKE SIGN;MEDIUM WHITE CIRCLE",
  "26ab=MEDIUM BLACK CIRCLE;MEDIUM SMALL WHITE CIRCLE;MARRIAGE SYMBOL;DIVORCE SYMBOL",
  "26af=UNMARRIED PARTNERSHIP SYMBOL;COFFIN;FUNERAL URN;NEUTER;CERES;PALLAS;JUNO;VESTA;CHIRON",
  "26b8=BLACK MOON LILITH;SEXTILE;SEMISEXTILE;QUINCUNX;SESQUIQUADRATE;SOCCER BALL;BASEBALL",
  "26bf=SQUARED KEY;WHITE DRAUGHTS MAN;WHITE DRAUGHTS KING;BLACK DRAUGHTS MAN",
  "26c3=BLACK DRAUGHTS KING;SNOWMAN WITHOUT SNOW;SUN BEHIND CLOUD;RAIN;BLACK SNOWMAN",
  "26c8=THUNDER CLOUD AND RAIN;TURNED WHITE SHOGI PIECE;TURNED BLACK SHOGI PIECE",
  "26cb=WHITE DIAMOND IN SQUARE;CROSSING LANES;DISABLED CAR;OPHIUCHUS;PICK;CAR SLIDING",
  "26d1=HELMET WITH WHITE CROSS;CIRCLED CROSSING LANES;CHAINS;NO ENTRY",
  "26d5=ALTERNATE ONE-WAY LEFT WAY TRAFFIC;BLACK TWO-WAY LEFT WAY TRAFFIC",
  "26d7=WHITE TWO-WAY LEFT WAY TRAFFIC;BLACK LEFT LANE MERGE;WHITE LEFT LANE MERGE",
  "26da=DRIVE SLOW SIGN;HEAVY WHITE DOWN-POINTING TRIANGLE;LEFT CLOSED ENTRY;SQUARED SALTIRE",
  "26de=FALLING DIAGONAL IN WHITE CIRCLE IN BLACK SQUARE;BLACK TRUCK;RESTRICTED LEFT ENTRY-1",
  "26e1=RESTRICTED LEFT ENTRY-2;ASTRONOMICAL SYMBOL FOR URANUS",
  "26e3=HEAVY CIRCLE WITH STROKE AND TWO DOTS ABOVE;PENTAGRAM;RIGHT-HANDED INTERLACED PENTAGRAM",
  "26e6=LEFT-HANDED INTERLACED PENTAGRAM;INVERTED PENTAGRAM;BLACK CROSS ON SHIELD;SHINTO SHRINE",
  "26ea=CHURCH;CASTLE;HISTORIC SITE;GEAR WITHOUT HUB;GEAR WITH HANDLES",
  "26ef=MAP SYMBOL FOR LIGHTHOUSE;MOUNTAIN;UMBRELLA ON GROUND;FOUNTAIN;FLAG IN HOLE;FERRY",
  "26f5=SAILBOAT;SQUARE FOUR CORNERS;SKIER;ICE SKATE;PERSON WITH BALL;TENT;JAPANESE BANK SYMBOL",
  "26fc=HEADSTONE GRAVEYARD SYMBOL;FUEL PUMP;CUP ON BLACK SQUARE",
  "26ff=WHITE FLAG WITH HORIZONTAL MIDDLE BLACK STRIPE;BLACK SAFETY SCISSORS",
  "2701=UPPER BLADE SCISSORS;BLACK SCISSORS;LOWER BLADE SCISSORS;WHITE SCISSORS",
  "2705=WHITE HEAVY CHECK MARK;TELEPHONE LOCATION SIGN;TAPE DRIVE;AIRPLANE;ENVELOPE;RAISED FIST",
  "270b=RAISED HAND;VICTORY HAND;WRITING HAND;LOWER RIGHT PENCIL;PENCIL;UPPER RIGHT PENCIL",
  "2711=WHITE NIB;BLACK NIB;CHECK MARK;HEAVY CHECK MARK;MULTIPLICATION X;HEAVY MULTIPLICATION X",
  "2717=BALLOT X;HEAVY BALLOT X;OUTLINED GREEK CROSS;HEAVY GREEK CROSS;OPEN CENTRE CROSS",
  "271c=HEAVY OPEN CENTRE CROSS;LATIN CROSS;SHADOWED WHITE LATIN CROSS;OUTLINED LATIN CROSS",
  "2720=MALTESE CROSS;STAR OF DAVID;FOUR TEARDROP-SPOKED ASTERISK;FOUR BALLOON-SPOKED ASTERISK",
  "2724=HEAVY FOUR BALLOON-SPOKED ASTERISK;FOUR CLUB-SPOKED ASTERISK;BLACK FOUR POINTED STAR",
  "2727=WHITE FOUR POINTED STAR;SPARKLES;STRESS OUTLINED WHITE STAR;CIRCLED WHITE STAR",
  "272b=OPEN CENTRE BLACK STAR;BLACK CENTRE WHITE STAR;OUTLINED BLACK STAR",
  "272e=HEAVY OUTLINED BLACK STAR;PINWHEEL STAR;SHADOWED WHITE STAR;HEAVY ASTERISK",
  "2732=OPEN CENTRE ASTERISK;EIGHT SPOKED ASTERISK;EIGHT POINTED BLACK STAR",
  "2735=EIGHT POINTED PINWHEEL STAR;SIX POINTED BLACK STAR;EIGHT POINTED RECTILINEAR BLACK STAR",
  "2738=HEAVY EIGHT POINTED RECTILINEAR BLACK STAR;TWELVE POINTED BLACK STAR",
  "273a=SIXTEEN POINTED ASTERISK;TEARDROP-SPOKED ASTERISK;OPEN CENTRE TEARDROP-SPOKED ASTERISK",
  "273d=HEAVY TEARDROP-SPOKED ASTERISK;SIX PETALLED BLACK AND WHITE FLORETTE;BLACK FLORETTE",
  "2740=WHITE FLORETTE;EIGHT PETALLED OUTLINED BLACK FLORETTE",
  "2742=CIRCLED OPEN CENTRE EIGHT POINTED STAR;HEAVY TEARDROP-SPOKED PINWHEEL ASTERISK",
  "2744=SNOWFLAKE;TIGHT TRIFOLIATE SNOWFLAKE;HEAVY CHEVRON SNOWFLAKE;SPARKLE;HEAVY SPARKLE",
  "2749=BALLOON-SPOKED ASTERISK;EIGHT TEARDROP-SPOKED PROPELLER ASTERISK",
  "274b=HEAVY EIGHT TEARDROP-SPOKED PROPELLER ASTERISK;CROSS MARK;SHADOWED WHITE CIRCLE",
  "274e=NEGATIVE SQUARED CROSS MARK;LOWER RIGHT DROP-SHADOWED WHITE SQUARE",
  "2750=UPPER RIGHT DROP-SHADOWED WHITE SQUARE;LOWER RIGHT SHADOWED WHITE SQUARE",
  "2752=UPPER RIGHT SHADOWED WHITE SQUARE;BLACK QUESTION MARK ORNAMENT",
  "2754=WHITE QUESTION MARK ORNAMENT;WHITE EXCLAMATION MARK ORNAMENT",
  "2756=BLACK DIAMOND MINUS WHITE X;HEAVY EXCLAMATION MARK SYMBOL;LIGHT VERTICAL BAR",
  "2759=MEDIUM VERTICAL BAR;HEAVY VERTICAL BAR",
  "275b=HEAVY SINGLE TURNED COMMA QUOTATION MARK ORNAMENT",
  "275c=HEAVY SINGLE COMMA QUOTATION MARK ORNAMENT",
  "275d=HEAVY DOUBLE TURNED COMMA QUOTATION MARK ORNAMENT",
  "275e=HEAVY DOUBLE COMMA QUOTATION MARK ORNAMENT",
  "275f=HEAVY LOW SINGLE COMMA QUOTATION MARK ORNAMENT",
  "2760=HEAVY LOW DOUBLE COMMA QUOTATION MARK ORNAMENT;CURVED STEM PARAGRAPH SIGN ORNAMENT",
  "2762=HEAVY EXCLAMATION MARK ORNAMENT;HEAVY HEART EXCLAMATION MARK ORNAMENT;HEAVY BLACK HEART",
  "2765=ROTATED HEAVY BLACK HEART BULLET;FLORAL HEART;ROTATED FLORAL HEART BULLET",
  "2768=MEDIUM LEFT PARENTHESIS ORNAMENT;MEDIUM RIGHT PARENTHESIS ORNAMENT",
  "276a=MEDIUM FLATTENED LEFT PARENTHESIS ORNAMENT;MEDIUM FLATTENED RIGHT PARENTHESIS ORNAMENT",
  "276c=MEDIUM LEFT-POINTING ANGLE BRACKET ORNAMENT",
  "276d=MEDIUM RIGHT-POINTING ANGLE BRACKET ORNAMENT",
  "276e=HEAVY LEFT-POINTING ANGLE QUOTATION MARK ORNAMENT",
  "276f=HEAVY RIGHT-POINTING ANGLE QUOTATION MARK ORNAMENT",
  "2770=HEAVY LEFT-POINTING ANGLE BRACKET ORNAMENT;HEAVY RIGHT-POINTING ANGLE BRACKET ORNAMENT",
  "2772=LIGHT LEFT TORTOISE SHELL BRACKET ORNAMENT;LIGHT RIGHT TORTOISE SHELL BRACKET ORNAMENT",
  "2774=MEDIUM LEFT CURLY BRACKET ORNAMENT;MEDIUM RIGHT CURLY BRACKET ORNAMENT",
  "2776=DINGBAT NEGATIVE CIRCLED DIGIT ONE;DINGBAT NEGATIVE CIRCLED DIGIT TWO",
  "2778=DINGBAT NEGATIVE CIRCLED DIGIT THREE;DINGBAT NEGATIVE CIRCLED DIGIT FOUR",
  "277a=DINGBAT NEGATIVE CIRCLED DIGIT FIVE;DINGBAT NEGATIVE CIRCLED DIGIT SIX",
  "277c=DINGBAT NEGATIVE CIRCLED DIGIT SEVEN;DINGBAT NEGATIVE CIRCLED DIGIT EIGHT",
  "277e=DINGBAT NEGATIVE CIRCLED DIGIT NINE;DINGBAT NEGATIVE CIRCLED NUMBER TEN",
  "2780=DINGBAT CIRCLED SANS-SERIF DIGIT ONE;DINGBAT CIRCLED SANS-SERIF DIGIT TWO",
  "2782=DINGBAT CIRCLED SANS-SERIF DIGIT THREE;DINGBAT CIRCLED SANS-SERIF DIGIT FOUR",
  "2784=DINGBAT CIRCLED SANS-SERIF DIGIT FIVE;DINGBAT CIRCLED SANS-SERIF DIGIT SIX",
  "2786=DINGBAT CIRCLED SANS-SERIF DIGIT SEVEN;DINGBAT CIRCLED SANS-SERIF DIGIT EIGHT",
  "2788=DINGBAT CIRCLED SANS-SERIF DIGIT NINE;DINGBAT CIRCLED SANS-SERIF NUMBER TEN",
  "278a=DINGBAT NEGATIVE CIRCLED SANS-SERIF DIGIT ONE",
  "278b=DINGBAT NEGATIVE CIRCLED SANS-SERIF DIGIT TWO",
  "278c=DINGBAT NEGATIVE CIRCLED SANS-SERIF DIGIT THREE",
  "278d=DINGBAT NEGATIVE CIRCLED SANS-SERIF DIGIT FOUR",
  "278e=DINGBAT NEGATIVE CIRCLED SANS-SERIF DIGIT FIVE",
  "278f=DINGBAT NEGATIVE CIRCLED SANS-SERIF DIGIT SIX",
  "2790=DINGBAT NEGATIVE CIRCLED SANS-SERIF DIGIT SEVEN",
  "2791=DINGBAT NEGATIVE CIRCLED SANS-SERIF DIGIT EIGHT",
  "2792=DINGBAT NEGATIVE CIRCLED SANS-SERIF DIGIT NINE",
  "2793=DINGBAT NEGATIVE CIRCLED SANS-SERIF NUMBER TEN;HEAVY WIDE-HEADED RIGHTWARDS ARROW",
  "2795=HEAVY PLUS SIGN;HEAVY MINUS SIGN;HEAVY DIVISION SIGN;HEAVY SOUTH EAST ARROW",
  "2799=HEAVY RIGHTWARDS ARROW;HEAVY NORTH EAST ARROW;DRAFTING POINT RIGHTWARDS ARROW",
  "279c=HEAVY ROUND-TIPPED RIGHTWARDS ARROW;TRIANGLE-HEADED RIGHTWARDS ARROW",
  "279e=HEAVY TRIANGLE-HEADED RIGHTWARDS ARROW;DASHED TRIANGLE-HEADED RIGHTWARDS ARROW",
  "27a0=HEAVY DASHED TRIANGLE-HEADED RIGHTWARDS ARROW;BLACK RIGHTWARDS ARROW",
  "27a2=THREE-D TOP-LIGHTED RIGHTWARDS ARROWHEAD;THREE-D BOTTOM-LIGHTED RIGHTWARDS ARROWHEAD",
  "27a4=BLACK RIGHTWARDS ARROWHEAD;HEAVY BLACK CURVED DOWNWARDS AND RIGHTWARDS ARROW",
  "27a6=HEAVY BLACK CURVED UPWARDS AND RIGHTWARDS ARROW;SQUAT BLACK RIGHTWARDS ARROW",
  "27a8=HEAVY CONCAVE-POINTED BLACK RIGHTWARDS ARROW;RIGHT-SHADED WHITE RIGHTWARDS ARROW",
  "27aa=LEFT-SHADED WHITE RIGHTWARDS ARROW;BACK-TILTED SHADOWED WHITE RIGHTWARDS ARROW",
  "27ac=FRONT-TILTED SHADOWED WHITE RIGHTWARDS ARROW",
  "27ad=HEAVY LOWER RIGHT-SHADOWED WHITE RIGHTWARDS ARROW",
  "27ae=HEAVY UPPER RIGHT-SHADOWED WHITE RIGHTWARDS ARROW",
  "27af=NOTCHED LOWER RIGHT-SHADOWED WHITE RIGHTWARDS ARROW;CURLY LOOP",
  "27b1=NOTCHED UPPER RIGHT-SHADOWED WHITE RIGHTWARDS ARROW",
  "27b2=CIRCLED HEAVY WHITE RIGHTWARDS ARROW;WHITE-FEATHERED RIGHTWARDS ARROW",
  "27b4=BLACK-FEATHERED SOUTH EAST ARROW;BLACK-FEATHERED RIGHTWARDS ARROW",
  "27b6=BLACK-FEATHERED NORTH EAST ARROW;HEAVY BLACK-FEATHERED SOUTH EAST ARROW",
  "27b8=HEAVY BLACK-FEATHERED RIGHTWARDS ARROW;HEAVY BLACK-FEATHERED NORTH EAST ARROW",
  "27ba=TEARDROP-BARBED RIGHTWARDS ARROW;HEAVY TEARDROP-SHANKED RIGHTWARDS ARROW",
  "27bc=WEDGE-TAILED RIGHTWARDS ARROW;HEAVY WEDGE-TAILED RIGHTWARDS ARROW",
  "27be=OPEN-OUTLINED RIGHTWARDS ARROW;DOUBLE CURLY LOOP;THREE DIMENSIONAL ANGLE",
  "27c1=WHITE TRIANGLE CONTAINING SMALL WHITE TRIANGLE;PERPENDICULAR;OPEN SUBSET;OPEN SUPERSET",
  "27c5=LEFT S-SHAPED BAG DELIMITER;RIGHT S-SHAPED BAG DELIMITER;OR WITH DOT INSIDE",
  "27c8=REVERSE SOLIDUS PRECEDING SUBSET;SUPERSET PRECEDING SOLIDUS",
  "27ca=VERTICAL BAR WITH HORIZONTAL STROKE;MATHEMATICAL RISING DIAGONAL;LONG DIVISION",
  "27cd=MATHEMATICAL FALLING DIAGONAL;SQUARED LOGICAL AND;SQUARED LOGICAL OR",
  "27d0=WHITE DIAMOND WITH CENTRED DOT;AND WITH DOT;ELEMENT OF OPENING UPWARDS",
  "27d3=LOWER RIGHT CORNER WITH DOT;UPPER LEFT CORNER WITH DOT;LEFT OUTER JOIN;RIGHT OUTER JOIN",
  "27d7=FULL OUTER JOIN;LARGE UP TACK;LARGE DOWN TACK;LEFT AND RIGHT DOUBLE TURNSTILE",
  "27db=LEFT AND RIGHT TACK;LEFT MULTIMAP;LONG RIGHT TACK;LONG LEFT TACK",
  "27df=UP TACK WITH CIRCLE ABOVE;LOZENGE DIVIDED BY HORIZONTAL RULE",
  "27e1=WHITE CONCAVE-SIDED DIAMOND;WHITE CONCAVE-SIDED DIAMOND WITH LEFTWARDS TICK",
  "27e3=WHITE CONCAVE-SIDED DIAMOND WITH RIGHTWARDS TICK;WHITE SQUARE WITH LEFTWARDS TICK",
  "27e5=WHITE SQUARE WITH RIGHTWARDS TICK;MATHEMATICAL LEFT WHITE SQUARE BRACKET",
  "27e7=MATHEMATICAL RIGHT WHITE SQUARE BRACKET;MATHEMATICAL LEFT ANGLE BRACKET",
  "27e9=MATHEMATICAL RIGHT ANGLE BRACKET;MATHEMATICAL LEFT DOUBLE ANGLE BRACKET",
  "27eb=MATHEMATICAL RIGHT DOUBLE ANGLE BRACKET;MATHEMATICAL LEFT WHITE TORTOISE SHELL BRACKET",
  "27ed=MATHEMATICAL RIGHT WHITE TORTOISE SHELL BRACKET;MATHEMATICAL LEFT FLATTENED PARENTHESIS",
  "27ef=MATHEMATICAL RIGHT FLATTENED PARENTHESIS;UPWARDS QUADRUPLE ARROW",
  "27f1=DOWNWARDS QUADRUPLE ARROW;ANTICLOCKWISE GAPPED CIRCLE ARROW",
  "27f3=CLOCKWISE GAPPED CIRCLE ARROW;RIGHT ARROW WITH CIRCLED PLUS;LONG LEFTWARDS ARROW",
  "27f6=LONG RIGHTWARDS ARROW;LONG LEFT RIGHT ARROW;LONG LEFTWARDS DOUBLE ARROW",
  "27f9=LONG RIGHTWARDS DOUBLE ARROW;LONG LEFT RIGHT DOUBLE ARROW;LONG LEFTWARDS ARROW FROM BAR",
  "27fc=LONG RIGHTWARDS ARROW FROM BAR;LONG LEFTWARDS DOUBLE ARROW FROM BAR",
  "27fe=LONG RIGHTWARDS DOUBLE ARROW FROM BAR;LONG RIGHTWARDS SQUIGGLE ARROW",
  "2800=BRAILLE PATTERN BLANK;BRAILLE PATTERN DOTS-1;BRAILLE PATTERN DOTS-2",
  "2803=BRAILLE PATTERN DOTS-12;BRAILLE PATTERN DOTS-3;BRAILLE PATTERN DOTS-13",
  "2806=BRAILLE PATTERN DOTS-23;BRAILLE PATTERN DOTS-123;BRAILLE PATTERN DOTS-4",
  "2809=BRAILLE PATTERN DOTS-14;BRAILLE PATTERN DOTS-24;BRAILLE PATTERN DOTS-124",
  "280c=BRAILLE PATTERN DOTS-34;BRAILLE PATTERN DOTS-134;BRAILLE PATTERN DOTS-234",
  "280f=BRAILLE PATTERN DOTS-1234;BRAILLE PATTERN DOTS-5;BRAILLE PATTERN DOTS-15",
  "2812=BRAILLE PATTERN DOTS-25;BRAILLE PATTERN DOTS-125;BRAILLE PATTERN DOTS-35",
  "2815=BRAILLE PATTERN DOTS-135;BRAILLE PATTERN DOTS-235;BRAILLE PATTERN DOTS-1235",
  "2818=BRAILLE PATTERN DOTS-45;BRAILLE PATTERN DOTS-145;BRAILLE PATTERN DOTS-245",
  "281b=BRAILLE PATTERN DOTS-1245;BRAILLE PATTERN DOTS-345;BRAILLE PATTERN DOTS-1345",
  "281e=BRAILLE PATTERN DOTS-2345;BRAILLE PATTERN DOTS-12345;BRAILLE PATTERN DOTS-6",
  "2821=BRAILLE PATTERN DOTS-16;BRAILLE PATTERN DOTS-26;BRAILLE PATTERN DOTS-126",
  "2824=BRAILLE PATTERN DOTS-36;BRAILLE PATTERN DOTS-136;BRAILLE PATTERN DOTS-236",
  "2827=BRAILLE PATTERN DOTS-1236;BRAILLE PATTERN DOTS-46;BRAILLE PATTERN DOTS-146",
  "282a=BRAILLE PATTERN DOTS-246;BRAILLE PATTERN DOTS-1246;BRAILLE PATTERN DOTS-346",
  "282d=BRAILLE PATTERN DOTS-1346;BRAILLE PATTERN DOTS-2346;BRAILLE PATTERN DOTS-12346",
  "2830=BRAILLE PATTERN DOTS-56;BRAILLE PATTERN DOTS-156;BRAILLE PATTERN DOTS-256",
  "2833=BRAILLE PATTERN DOTS-1256;BRAILLE PATTERN DOTS-356;BRAILLE PATTERN DOTS-1356",
  "2836=BRAILLE PATTERN DOTS-2356;BRAILLE PATTERN DOTS-12356;BRAILLE PATTERN DOTS-456",
  "2839=BRAILLE PATTERN DOTS-1456;BRAILLE PATTERN DOTS-2456;BRAILLE PATTERN DOTS-12456",
  "283c=BRAILLE PATTERN DOTS-3456;BRAILLE PATTERN DOTS-13456;BRAILLE PATTERN DOTS-23456",
  "283f=BRAILLE PATTERN DOTS-123456;BRAILLE PATTERN DOTS-7;BRAILLE PATTERN DOTS-17",
  "2842=BRAILLE PATTERN DOTS-27;BRAILLE PATTERN DOTS-127;BRAILLE PATTERN DOTS-37",
  "2845=BRAILLE PATTERN DOTS-137;BRAILLE PATTERN DOTS-237;BRAILLE PATTERN DOTS-1237",
  "2848=BRAILLE PATTERN DOTS-47;BRAILLE PATTERN DOTS-147;BRAILLE PATTERN DOTS-247",
  "284b=BRAILLE PATTERN DOTS-1247;BRAILLE PATTERN DOTS-347;BRAILLE PATTERN DOTS-1347",
  "284e=BRAILLE PATTERN DOTS-2347;BRAILLE PATTERN DOTS-12347;BRAILLE PATTERN DOTS-57",
  "2851=BRAILLE PATTERN DOTS-157;BRAILLE PATTERN DOTS-257;BRAILLE PATTERN DOTS-1257",
  "2854=BRAILLE PATTERN DOTS-357;BRAILLE PATTERN DOTS-1357;BRAILLE PATTERN DOTS-2357",
  "2857=BRAILLE PATTERN DOTS-12357;BRAILLE PATTERN DOTS-457;BRAILLE PATTERN DOTS-1457",
  "285a=BRAILLE PATTERN DOTS-2457;BRAILLE PATTERN DOTS-12457;BRAILLE PATTERN DOTS-3457",
  "285d=BRAILLE PATTERN DOTS-13457;BRAILLE PATTERN DOTS-23457;BRAILLE PATTERN DOTS-123457",
  "2860=BRAILLE PATTERN DOTS-67;BRAILLE PATTERN DOTS-167;BRAILLE PATTERN DOTS-267",
  "2863=BRAILLE PATTERN DOTS-1267;BRAILLE PATTERN DOTS-367;BRAILLE PATTERN DOTS-1367",
  "2866=BRAILLE PATTERN DOTS-2367;BRAILLE PATTERN DOTS-12367;BRAILLE PATTERN DOTS-467",
  "2869=BRAILLE PATTERN DOTS-1467;BRAILLE PATTERN DOTS-2467;BRAILLE PATTERN DOTS-12467",
  "286c=BRAILLE PATTERN DOTS-3467;BRAILLE PATTERN DOTS-13467;BRAILLE PATTERN DOTS-23467",
  "286f=BRAILLE PATTERN DOTS-123467;BRAILLE PATTERN DOTS-567;BRAILLE PATTERN DOTS-1567",
  "2872=BRAILLE PATTERN DOTS-2567;BRAILLE PATTERN DOTS-12567;BRAILLE PATTERN DOTS-3567",
  "2875=BRAILLE PATTERN DOTS-13567;BRAILLE PATTERN DOTS-23567;BRAILLE PATTERN DOTS-123567",
  "2878=BRAILLE PATTERN DOTS-4567;BRAILLE PATTERN DOTS-14567;BRAILLE PATTERN DOTS-24567",
  "287b=BRAILLE PATTERN DOTS-124567;BRAILLE PATTERN DOTS-34567;BRAILLE PATTERN DOTS-134567",
  "287e=BRAILLE PATTERN DOTS-234567;BRAILLE PATTERN DOTS-1234567;BRAILLE PATTERN DOTS-8",
  "2881=BRAILLE PATTERN DOTS-18;BRAILLE PATTERN DOTS-28;BRAILLE PATTERN DOTS-128",
  "2884=BRAILLE PATTERN DOTS-38;BRAILLE PATTERN DOTS-138;BRAILLE PATTERN DOTS-238",
  "2887=BRAILLE PATTERN DOTS-1238;BRAILLE PATTERN DOTS-48;BRAILLE PATTERN DOTS-148",
  "288a=BRAILLE PATTERN DOTS-248;BRAILLE PATTERN DOTS-1248;BRAILLE PATTERN DOTS-348",
  "288d=BRAILLE PATTERN DOTS-1348;BRAILLE PATTERN DOTS-2348;BRAILLE PATTERN DOTS-12348",
  "2890=BRAILLE PATTERN DOTS-58;BRAILLE PATTERN DOTS-158;BRAILLE PATTERN DOTS-258",
  "2893=BRAILLE PATTERN DOTS-1258;BRAILLE PATTERN DOTS-358;BRAILLE PATTERN DOTS-1358",
  "2896=BRAILLE PATTERN DOTS-2358;BRAILLE PATTERN DOTS-12358;BRAILLE PATTERN DOTS-458",
  "2899=BRAILLE PATTERN DOTS-1458;BRAILLE PATTERN DOTS-2458;BRAILLE PATTERN DOTS-12458",
  "289c=BRAILLE PATTERN DOTS-3458;BRAILLE PATTERN DOTS-13458;BRAILLE PATTERN DOTS-23458",
  "289f=BRAILLE PATTERN DOTS-123458;BRAILLE PATTERN DOTS-68;BRAILLE PATTERN DOTS-168",
  "28a2=BRAILLE PATTERN DOTS-268;BRAILLE PATTERN DOTS-1268;BRAILLE PATTERN DOTS-368",
  "28a5=BRAILLE PATTERN DOTS-1368;BRAILLE PATTERN DOTS-2368;BRAILLE PATTERN DOTS-12368",
  "28a8=BRAILLE PATTERN DOTS-468;BRAILLE PATTERN DOTS-1468;BRAILLE PATTERN DOTS-2468",
  "28ab=BRAILLE PATTERN DOTS-12468;BRAILLE PATTERN DOTS-3468;BRAILLE PATTERN DOTS-13468",
  "28ae=BRAILLE PATTERN DOTS-23468;BRAILLE PATTERN DOTS-123468;BRAILLE PATTERN DOTS-568",
  "28b1=BRAILLE PATTERN DOTS-1568;BRAILLE PATTERN DOTS-2568;BRAILLE PATTERN DOTS-12568",
  "28b4=BRAILLE PATTERN DOTS-3568;BRAILLE PATTERN DOTS-13568;BRAILLE PATTERN DOTS-23568",
  "28b7=BRAILLE PATTERN DOTS-123568;BRAILLE PATTERN DOTS-4568;BRAILLE PATTERN DOTS-14568",
  "28ba=BRAILLE PATTERN DOTS-24568;BRAILLE PATTERN DOTS-124568;BRAILLE PATTERN DOTS-34568",
  "28bd=BRAILLE PATTERN DOTS-134568;BRAILLE PATTERN DOTS-234568;BRAILLE PATTERN DOTS-1234568",
  "28c0=BRAILLE PATTERN DOTS-78;BRAILLE PATTERN DOTS-178;BRAILLE PATTERN DOTS-278",
  "28c3=BRAILLE PATTERN DOTS-1278;BRAILLE PATTERN DOTS-378;BRAILLE PATTERN DOTS-1378",
  "28c6=BRAILLE PATTERN DOTS-2378;BRAILLE PATTERN DOTS-12378;BRAILLE PATTERN DOTS-478",
  "28c9=BRAILLE PATTERN DOTS-1478;BRAILLE PATTERN DOTS-2478;BRAILLE PATTERN DOTS-12478",
  "28cc=BRAILLE PATTERN DOTS-3478;BRAILLE PATTERN DOTS-13478;BRAILLE PATTERN DOTS-23478",
  "28cf=BRAILLE PATTERN DOTS-123478;BRAILLE PATTERN DOTS-578;BRAILLE PATTERN DOTS-1578",
  "28d2=BRAILLE PATTERN DOTS-2578;BRAILLE PATTERN DOTS-12578;BRAILLE PATTERN DOTS-3578",
  "28d5=BRAILLE PATTERN DOTS-13578;BRAILLE PATTERN DOTS-23578;BRAILLE PATTERN DOTS-123578",
  "28d8=BRAILLE PATTERN DOTS-4578;BRAILLE PATTERN DOTS-14578;BRAILLE PATTERN DOTS-24578",
  "28db=BRAILLE PATTERN DOTS-124578;BRAILLE PATTERN DOTS-34578;BRAILLE PATTERN DOTS-134578",
  "28de=BRAILLE PATTERN DOTS-234578;BRAILLE PATTERN DOTS-1234578;BRAILLE PATTERN DOTS-678",
  "28e1=BRAILLE PATTERN DOTS-1678;BRAILLE PATTERN DOTS-2678;BRAILLE PATTERN DOTS-12678",
  "28e4=BRAILLE PATTERN DOTS-3678;BRAILLE PATTERN DOTS-13678;BRAILLE PATTERN DOTS-23678",
  "28e7=BRAILLE PATTERN DOTS-123678;BRAILLE PATTERN DOTS-4678;BRAILLE PATTERN DOTS-14678",
  "28ea=BRAILLE PATTERN DOTS-24678;BRAILLE PATTERN DOTS-124678;BRAILLE PATTERN DOTS-34678",
  "28ed=BRAILLE PATTERN DOTS-134678;BRAILLE PATTERN DOTS-234678;BRAILLE PATTERN DOTS-1234678",
  "28f0=BRAILLE PATTERN DOTS-5678;BRAILLE PATTERN DOTS-15678;BRAILLE PATTERN DOTS-25678",
  "28f3=BRAILLE PATTERN DOTS-125678;BRAILLE PATTERN DOTS-35678;BRAILLE PATTERN DOTS-135678",
  "28f6=BRAILLE PATTERN DOTS-235678;BRAILLE PATTERN DOTS-1235678;BRAILLE PATTERN DOTS-45678",
  "28f9=BRAILLE PATTERN DOTS-145678;BRAILLE PATTERN DOTS-245678;BRAILLE PATTERN DOTS-1245678",
  "28fc=BRAILLE PATTERN DOTS-345678;BRAILLE PATTERN DOTS-1345678;BRAILLE PATTERN DOTS-2345678",
  "28ff=BRAILLE PATTERN DOTS-12345678;RIGHTWARDS TWO-HEADED ARROW WITH VERTICAL STROKE",
  "2901=RIGHTWARDS TWO-HEADED ARROW WITH DOUBLE VERTICAL STROKE",
  "2902=LEFTWARDS DOUBLE ARROW WITH VERTICAL STROKE",
  "2903=RIGHTWARDS DOUBLE ARROW WITH VERTICAL STROKE",
  "2904=LEFT RIGHT DOUBLE ARROW WITH VERTICAL STROKE;RIGHTWARDS TWO-HEADED ARROW FROM BAR",
  "2906=LEFTWARDS DOUBLE ARROW FROM BAR;RIGHTWARDS DOUBLE ARROW FROM BAR",
  "2908=DOWNWARDS ARROW WITH HORIZONTAL STROKE;UPWARDS ARROW WITH HORIZONTAL STROKE",
  "290a=UPWARDS TRIPLE ARROW;DOWNWARDS TRIPLE ARROW;LEFTWARDS DOUBLE DASH ARROW",
  "290d=RIGHTWARDS DOUBLE DASH ARROW;LEFTWARDS TRIPLE DASH ARROW;RIGHTWARDS TRIPLE DASH ARROW",
  "2910=RIGHTWARDS TWO-HEADED TRIPLE DASH ARROW;RIGHTWARDS ARROW WITH DOTTED STEM",
  "2912=UPWARDS ARROW TO BAR;DOWNWARDS ARROW TO BAR",
  "2914=RIGHTWARDS ARROW WITH TAIL WITH VERTICAL STROKE",
  "2915=RIGHTWARDS ARROW WITH TAIL WITH DOUBLE VERTICAL STROKE",
  "2916=RIGHTWARDS TWO-HEADED ARROW WITH TAIL",
  "2917=RIGHTWARDS TWO-HEADED ARROW WITH TAIL WITH VERTICAL STROKE",
  "2918=RIGHTWARDS TWO-HEADED ARROW WITH TAIL WITH DOUBLE VERTICAL STROKE;LEFTWARDS ARROW-TAIL",
  "291a=RIGHTWARDS ARROW-TAIL;LEFTWARDS DOUBLE ARROW-TAIL;RIGHTWARDS DOUBLE ARROW-TAIL",
  "291d=LEFTWARDS ARROW TO BLACK DIAMOND;RIGHTWARDS ARROW TO BLACK DIAMOND",
  "291f=LEFTWARDS ARROW FROM BAR TO BLACK DIAMOND;RIGHTWARDS ARROW FROM BAR TO BLACK DIAMOND",
  "2921=NORTH WEST AND SOUTH EAST ARROW;NORTH EAST AND SOUTH WEST ARROW",
  "2923=NORTH WEST ARROW WITH HOOK;NORTH EAST ARROW WITH HOOK;SOUTH EAST ARROW WITH HOOK",
  "2926=SOUTH WEST ARROW WITH HOOK;NORTH WEST ARROW AND NORTH EAST ARROW",
  "2928=NORTH EAST ARROW AND SOUTH EAST ARROW;SOUTH EAST ARROW AND SOUTH WEST ARROW",
  "292a=SOUTH WEST ARROW AND NORTH WEST ARROW;RISING DIAGONAL CROSSING FALLING DIAGONAL",
  "292c=FALLING DIAGONAL CROSSING RISING DIAGONAL;SOUTH EAST ARROW CROSSING NORTH EAST ARROW",
  "292e=NORTH EAST ARROW CROSSING SOUTH EAST ARROW;FALLING DIAGONAL CROSSING NORTH EAST ARROW",
  "2930=RISING DIAGONAL CROSSING SOUTH EAST ARROW;NORTH EAST ARROW CROSSING NORTH WEST ARROW",
  "2932=NORTH WEST ARROW CROSSING NORTH EAST ARROW;WAVE ARROW POINTING DIRECTLY RIGHT",
  "2934=ARROW POINTING RIGHTWARDS THEN CURVING UPWARDS",
  "2935=ARROW POINTING RIGHTWARDS THEN CURVING DOWNWARDS",
  "2936=ARROW POINTING DOWNWARDS THEN CURVING LEFTWARDS",
  "2937=ARROW POINTING DOWNWARDS THEN CURVING RIGHTWARDS;RIGHT-SIDE ARC CLOCKWISE ARROW",
  "2939=LEFT-SIDE ARC ANTICLOCKWISE ARROW;TOP ARC ANTICLOCKWISE ARROW",
  "293b=BOTTOM ARC ANTICLOCKWISE ARROW;TOP ARC CLOCKWISE ARROW WITH MINUS",
  "293d=TOP ARC ANTICLOCKWISE ARROW WITH PLUS;LOWER RIGHT SEMICIRCULAR CLOCKWISE ARROW",
  "293f=LOWER LEFT SEMICIRCULAR ANTICLOCKWISE ARROW;ANTICLOCKWISE CLOSED CIRCLE ARROW",
  "2941=CLOCKWISE CLOSED CIRCLE ARROW;RIGHTWARDS ARROW ABOVE SHORT LEFTWARDS ARROW",
  "2943=LEFTWARDS ARROW ABOVE SHORT RIGHTWARDS ARROW",
  "2944=SHORT RIGHTWARDS ARROW ABOVE LEFTWARDS ARROW;RIGHTWARDS ARROW WITH PLUS BELOW",
  "2946=LEFTWARDS ARROW WITH PLUS BELOW;RIGHTWARDS ARROW THROUGH X",
  "2948=LEFT RIGHT ARROW THROUGH SMALL CIRCLE;UPWARDS TWO-HEADED ARROW FROM SMALL CIRCLE",
  "294a=LEFT BARB UP RIGHT BARB DOWN HARPOON;LEFT BARB DOWN RIGHT BARB UP HARPOON",
  "294c=UP BARB RIGHT DOWN BARB LEFT HARPOON;UP BARB LEFT DOWN BARB RIGHT HARPOON",
  "294e=LEFT BARB UP RIGHT BARB UP HARPOON;UP BARB RIGHT DOWN BARB RIGHT HARPOON",
  "2950=LEFT BARB DOWN RIGHT BARB DOWN HARPOON;UP BARB LEFT DOWN BARB LEFT HARPOON",
  "2952=LEFTWARDS HARPOON WITH BARB UP TO BAR;RIGHTWARDS HARPOON WITH BARB UP TO BAR",
  "2954=UPWARDS HARPOON WITH BARB RIGHT TO BAR;DOWNWARDS HARPOON WITH BARB RIGHT TO BAR",
  "2956=LEFTWARDS HARPOON WITH BARB DOWN TO BAR;RIGHTWARDS HARPOON WITH BARB DOWN TO BAR",
  "2958=UPWARDS HARPOON WITH BARB LEFT TO BAR;DOWNWARDS HARPOON WITH BARB LEFT TO BAR",
  "295a=LEFTWARDS HARPOON WITH BARB UP FROM BAR;RIGHTWARDS HARPOON WITH BARB UP FROM BAR",
  "295c=UPWARDS HARPOON WITH BARB RIGHT FROM BAR;DOWNWARDS HARPOON WITH BARB RIGHT FROM BAR",
  "295e=LEFTWARDS HARPOON WITH BARB DOWN FROM BAR;RIGHTWARDS HARPOON WITH BARB DOWN FROM BAR",
  "2960=UPWARDS HARPOON WITH BARB LEFT FROM BAR;DOWNWARDS HARPOON WITH BARB LEFT FROM BAR",
  "2962=LEFTWARDS HARPOON WITH BARB UP ABOVE LEFTWARDS HARPOON WITH BARB DOWN",
  "2963=UPWARDS HARPOON WITH BARB LEFT BESIDE UPWARDS HARPOON WITH BARB RIGHT",
  "2964=RIGHTWARDS HARPOON WITH BARB UP ABOVE RIGHTWARDS HARPOON WITH BARB DOWN",
  "2965=DOWNWARDS HARPOON WITH BARB LEFT BESIDE DOWNWARDS HARPOON WITH BARB RIGHT",
  "2966=LEFTWARDS HARPOON WITH BARB UP ABOVE RIGHTWARDS HARPOON WITH BARB UP",
  "2967=LEFTWARDS HARPOON WITH BARB DOWN ABOVE RIGHTWARDS HARPOON WITH BARB DOWN",
  "2968=RIGHTWARDS HARPOON WITH BARB UP ABOVE LEFTWARDS HARPOON WITH BARB UP",
  "2969=RIGHTWARDS HARPOON WITH BARB DOWN ABOVE LEFTWARDS HARPOON WITH BARB DOWN",
  "296a=LEFTWARDS HARPOON WITH BARB UP ABOVE LONG DASH",
  "296b=LEFTWARDS HARPOON WITH BARB DOWN BELOW LONG DASH",
  "296c=RIGHTWARDS HARPOON WITH BARB UP ABOVE LONG DASH",
  "296d=RIGHTWARDS HARPOON WITH BARB DOWN BELOW LONG DASH",
  "296e=UPWARDS HARPOON WITH BARB LEFT BESIDE DOWNWARDS HARPOON WITH BARB RIGHT",
  "296f=DOWNWARDS HARPOON WITH BARB LEFT BESIDE UPWARDS HARPOON WITH BARB RIGHT",
  "2970=RIGHT DOUBLE ARROW WITH ROUNDED HEAD;EQUALS SIGN ABOVE RIGHTWARDS ARROW",
  "2972=TILDE OPERATOR ABOVE RIGHTWARDS ARROW;LEFTWARDS ARROW ABOVE TILDE OPERATOR",
  "2974=RIGHTWARDS ARROW ABOVE TILDE OPERATOR;RIGHTWARDS ARROW ABOVE ALMOST EQUAL TO",
  "2976=LESS-THAN ABOVE LEFTWARDS ARROW;LEFTWARDS ARROW THROUGH LESS-THAN",
  "2978=GREATER-THAN ABOVE RIGHTWARDS ARROW;SUBSET ABOVE RIGHTWARDS ARROW",
  "297a=LEFTWARDS ARROW THROUGH SUBSET;SUPERSET ABOVE LEFTWARDS ARROW;LEFT FISH TAIL",
  "297d=RIGHT FISH TAIL;UP FISH TAIL;DOWN FISH TAIL;TRIPLE VERTICAL BAR DELIMITER",
  "2981=Z NOTATION SPOT;Z NOTATION TYPE COLON;LEFT WHITE CURLY BRACKET",
  "2984=RIGHT WHITE CURLY BRACKET;LEFT WHITE PARENTHESIS;RIGHT WHITE PARENTHESIS",
  "2987=Z NOTATION LEFT IMAGE BRACKET;Z NOTATION RIGHT IMAGE BRACKET",
  "2989=Z NOTATION LEFT BINDING BRACKET;Z NOTATION RIGHT BINDING BRACKET",
  "298b=LEFT SQUARE BRACKET WITH UNDERBAR;RIGHT SQUARE BRACKET WITH UNDERBAR",
  "298d=LEFT SQUARE BRACKET WITH TICK IN TOP CORNER",
  "298e=RIGHT SQUARE BRACKET WITH TICK IN BOTTOM CORNER",
  "298f=LEFT SQUARE BRACKET WITH TICK IN BOTTOM CORNER",
  "2990=RIGHT SQUARE BRACKET WITH TICK IN TOP CORNER;LEFT ANGLE BRACKET WITH DOT",
  "2992=RIGHT ANGLE BRACKET WITH DOT;LEFT ARC LESS-THAN BRACKET;RIGHT ARC GREATER-THAN BRACKET",
  "2995=DOUBLE LEFT ARC GREATER-THAN BRACKET;DOUBLE RIGHT ARC LESS-THAN BRACKET",
  "2997=LEFT BLACK TORTOISE SHELL BRACKET;RIGHT BLACK TORTOISE SHELL BRACKET;DOTTED FENCE",
  "299a=VERTICAL ZIGZAG LINE;MEASURED ANGLE OPENING LEFT;RIGHT ANGLE VARIANT WITH SQUARE",
  "299d=MEASURED RIGHT ANGLE WITH DOT;ANGLE WITH S INSIDE;ACUTE ANGLE",
  "29a0=SPHERICAL ANGLE OPENING LEFT;SPHERICAL ANGLE OPENING UP;TURNED ANGLE;REVERSED ANGLE",
  "29a4=ANGLE WITH UNDERBAR;REVERSED ANGLE WITH UNDERBAR;OBLIQUE ANGLE OPENING UP",
  "29a7=OBLIQUE ANGLE OPENING DOWN",
  "29a8=MEASURED ANGLE WITH OPEN ARM ENDING IN ARROW POINTING UP AND RIGHT",
  "29a9=MEASURED ANGLE WITH OPEN ARM ENDING IN ARROW POINTING UP AND LEFT",
  "29aa=MEASURED ANGLE WITH OPEN ARM ENDING IN ARROW POINTING DOWN AND RIGHT",
  "29ab=MEASURED ANGLE WITH OPEN ARM ENDING IN ARROW POINTING DOWN AND LEFT",
  "29ac=MEASURED ANGLE WITH OPEN ARM ENDING IN ARROW POINTING RIGHT AND UP",
  "29ad=MEASURED ANGLE WITH OPEN ARM ENDING IN ARROW POINTING LEFT AND UP",
  "29ae=MEASURED ANGLE WITH OPEN ARM ENDING IN ARROW POINTING RIGHT AND DOWN",
  "29af=MEASURED ANGLE WITH OPEN ARM ENDING IN ARROW POINTING LEFT AND DOWN;REVERSED EMPTY SET",
  "29b1=EMPTY SET WITH OVERBAR;EMPTY SET WITH SMALL CIRCLE ABOVE",
  "29b3=EMPTY SET WITH RIGHT ARROW ABOVE;EMPTY SET WITH LEFT ARROW ABOVE",
  "29b5=CIRCLE WITH HORIZONTAL BAR;CIRCLED VERTICAL BAR;CIRCLED PARALLEL",
  "29b8=CIRCLED REVERSE SOLIDUS;CIRCLED PERPENDICULAR",
  "29ba=CIRCLE DIVIDED BY HORIZONTAL BAR AND TOP HALF DIVIDED BY VERTICAL BAR",
  "29bb=CIRCLE WITH SUPERIMPOSED X;CIRCLED ANTICLOCKWISE-ROTATED DIVISION SIGN",
  "29bd=UP ARROW THROUGH CIRCLE;CIRCLED WHITE BULLET;CIRCLED BULLET;CIRCLED LESS-THAN",
  "29c1=CIRCLED GREATER-THAN;CIRCLE WITH SMALL CIRCLE TO THE RIGHT",
  "29c3=CIRCLE WITH TWO HORIZONTAL STROKES TO THE RIGHT;SQUARED RISING DIAGONAL SLASH",
  "29c5=SQUARED FALLING DIAGONAL SLASH;SQUARED ASTERISK;SQUARED SMALL CIRCLE;SQUARED SQUARE",
  "29c9=TWO JOINED SQUARES;TRIANGLE WITH DOT ABOVE;TRIANGLE WITH UNDERBAR;S IN TRIANGLE",
  "29cd=TRIANGLE WITH SERIFS AT BOTTOM;RIGHT TRIANGLE ABOVE LEFT TRIANGLE",
  "29cf=LEFT TRIANGLE BESIDE VERTICAL BAR;VERTICAL BAR BESIDE RIGHT TRIANGLE",
  "29d1=BOWTIE WITH LEFT HALF BLACK;BOWTIE WITH RIGHT HALF BLACK;BLACK BOWTIE",
  "29d4=TIMES WITH LEFT HALF BLACK;TIMES WITH RIGHT HALF BLACK;WHITE HOURGLASS;BLACK HOURGLASS",
  "29d8=LEFT WIGGLY FENCE;RIGHT WIGGLY FENCE;LEFT DOUBLE WIGGLY FENCE;RIGHT DOUBLE WIGGLY FENCE",
  "29dc=INCOMPLETE INFINITY;TIE OVER INFINITY;INFINITY NEGATED WITH VERTICAL BAR",
  "29df=DOUBLE-ENDED MULTIMAP;SQUARE WITH CONTOURED OUTLINE;INCREASES AS;SHUFFLE PRODUCT",
  "29e3=EQUALS SIGN AND SLANTED PARALLEL;EQUALS SIGN AND SLANTED PARALLEL WITH TILDE ABOVE",
  "29e5=IDENTICAL TO AND SLANTED PARALLEL;GLEICH STARK;THERMODYNAMIC",
  "29e8=DOWN-POINTING TRIANGLE WITH LEFT HALF BLACK",
  "29e9=DOWN-POINTING TRIANGLE WITH RIGHT HALF BLACK;BLACK DIAMOND WITH DOWN ARROW",
  "29eb=BLACK LOZENGE;WHITE CIRCLE WITH DOWN ARROW;BLACK CIRCLE WITH DOWN ARROW",
  "29ee=ERROR-BARRED WHITE SQUARE;ERROR-BARRED BLACK SQUARE;ERROR-BARRED WHITE DIAMOND",
  "29f1=ERROR-BARRED BLACK DIAMOND;ERROR-BARRED WHITE CIRCLE;ERROR-BARRED BLACK CIRCLE",
  "29f4=RULE-DELAYED;REVERSE SOLIDUS OPERATOR;SOLIDUS WITH OVERBAR",
  "29f7=REVERSE SOLIDUS WITH HORIZONTAL STROKE;BIG SOLIDUS;BIG REVERSE SOLIDUS;DOUBLE PLUS",
  "29fb=TRIPLE PLUS;LEFT-POINTING CURVED ANGLE BRACKET;RIGHT-POINTING CURVED ANGLE BRACKET;TINY",
  "29ff=MINY;N-ARY CIRCLED DOT OPERATOR;N-ARY CIRCLED PLUS OPERATOR",
  "2a02=N-ARY CIRCLED TIMES OPERATOR;N-ARY UNION OPERATOR WITH DOT",
  "2a04=N-ARY UNION OPERATOR WITH PLUS;N-ARY SQUARE INTERSECTION OPERATOR",
  "2a06=N-ARY SQUARE UNION OPERATOR;TWO LOGICAL AND OPERATOR;TWO LOGICAL OR OPERATOR",
  "2a09=N-ARY TIMES OPERATOR;MODULO TWO SUM;SUMMATION WITH INTEGRAL;QUADRUPLE INTEGRAL OPERATOR",
  "2a0d=FINITE PART INTEGRAL;INTEGRAL WITH DOUBLE STROKE;INTEGRAL AVERAGE WITH SLASH",
  "2a10=CIRCULATION FUNCTION;ANTICLOCKWISE INTEGRATION",
  "2a12=LINE INTEGRATION WITH RECTANGULAR PATH AROUND POLE",
  "2a13=LINE INTEGRATION WITH SEMICIRCULAR PATH AROUND POLE",
  "2a14=LINE INTEGRATION NOT INCLUDING THE POLE;INTEGRAL AROUND A POINT OPERATOR",
  "2a16=QUATERNION INTEGRAL OPERATOR;INTEGRAL WITH LEFTWARDS ARROW WITH HOOK",
  "2a18=INTEGRAL WITH TIMES SIGN;INTEGRAL WITH INTERSECTION;INTEGRAL WITH UNION",
  "2a1b=INTEGRAL WITH OVERBAR;INTEGRAL WITH UNDERBAR;JOIN;LARGE LEFT TRIANGLE OPERATOR",
  "2a1f=Z NOTATION SCHEMA COMPOSITION;Z NOTATION SCHEMA PIPING;Z NOTATION SCHEMA PROJECTION",
  "2a22=PLUS SIGN WITH SMALL CIRCLE ABOVE;PLUS SIGN WITH CIRCUMFLEX ACCENT ABOVE",
  "2a24=PLUS SIGN WITH TILDE ABOVE;PLUS SIGN WITH DOT BELOW;PLUS SIGN WITH TILDE BELOW",
  "2a27=PLUS SIGN WITH SUBSCRIPT TWO;PLUS SIGN WITH BLACK TRIANGLE;MINUS SIGN WITH COMMA ABOVE",
  "2a2a=MINUS SIGN WITH DOT BELOW;MINUS SIGN WITH FALLING DOTS;MINUS SIGN WITH RISING DOTS",
  "2a2d=PLUS SIGN IN LEFT HALF CIRCLE;PLUS SIGN IN RIGHT HALF CIRCLE;VECTOR OR CROSS PRODUCT",
  "2a30=MULTIPLICATION SIGN WITH DOT ABOVE;MULTIPLICATION SIGN WITH UNDERBAR",
  "2a32=SEMIDIRECT PRODUCT WITH BOTTOM CLOSED;SMASH PRODUCT",
  "2a34=MULTIPLICATION SIGN IN LEFT HALF CIRCLE;MULTIPLICATION SIGN IN RIGHT HALF CIRCLE",
  "2a36=CIRCLED MULTIPLICATION SIGN WITH CIRCUMFLEX ACCENT;MULTIPLICATION SIGN IN DOUBLE CIRCLE",
  "2a38=CIRCLED DIVISION SIGN;PLUS SIGN IN TRIANGLE;MINUS SIGN IN TRIANGLE",
  "2a3b=MULTIPLICATION SIGN IN TRIANGLE;INTERIOR PRODUCT;RIGHTHAND INTERIOR PRODUCT",
  "2a3e=Z NOTATION RELATIONAL COMPOSITION;AMALGAMATION OR COPRODUCT;INTERSECTION WITH DOT",
  "2a41=UNION WITH MINUS SIGN;UNION WITH OVERBAR;INTERSECTION WITH OVERBAR",
  "2a44=INTERSECTION WITH LOGICAL AND;UNION WITH LOGICAL OR;UNION ABOVE INTERSECTION",
  "2a47=INTERSECTION ABOVE UNION;UNION ABOVE BAR ABOVE INTERSECTION",
  "2a49=INTERSECTION ABOVE BAR ABOVE UNION;UNION BESIDE AND JOINED WITH UNION",
  "2a4b=INTERSECTION BESIDE AND JOINED WITH INTERSECTION;CLOSED UNION WITH SERIFS",
  "2a4d=CLOSED INTERSECTION WITH SERIFS;DOUBLE SQUARE INTERSECTION;DOUBLE SQUARE UNION",
  "2a50=CLOSED UNION WITH SERIFS AND SMASH PRODUCT;LOGICAL AND WITH DOT ABOVE",
  "2a52=LOGICAL OR WITH DOT ABOVE;DOUBLE LOGICAL AND;DOUBLE LOGICAL OR",
  "2a55=TWO INTERSECTING LOGICAL AND;TWO INTERSECTING LOGICAL OR;SLOPING LARGE OR",
  "2a58=SLOPING LARGE AND;LOGICAL OR OVERLAPPING LOGICAL AND;LOGICAL AND WITH MIDDLE STEM",
  "2a5b=LOGICAL OR WITH MIDDLE STEM;LOGICAL AND WITH HORIZONTAL DASH",
  "2a5d=LOGICAL OR WITH HORIZONTAL DASH;LOGICAL AND WITH DOUBLE OVERBAR",
  "2a5f=LOGICAL AND WITH UNDERBAR;LOGICAL AND WITH DOUBLE UNDERBAR;SMALL VEE WITH UNDERBAR",
  "2a62=LOGICAL OR WITH DOUBLE OVERBAR;LOGICAL OR WITH DOUBLE UNDERBAR",
  "2a64=Z NOTATION DOMAIN ANTIRESTRICTION;Z NOTATION RANGE ANTIRESTRICTION",
  "2a66=EQUALS SIGN WITH DOT BELOW;IDENTICAL WITH DOT ABOVE",
  "2a68=TRIPLE HORIZONTAL BAR WITH DOUBLE VERTICAL STROKE",
  "2a69=TRIPLE HORIZONTAL BAR WITH TRIPLE VERTICAL STROKE;TILDE OPERATOR WITH DOT ABOVE",
  "2a6b=TILDE OPERATOR WITH RISING DOTS;SIMILAR MINUS SIMILAR;CONGRUENT WITH DOT ABOVE",
  "2a6e=EQUALS WITH ASTERISK;ALMOST EQUAL TO WITH CIRCUMFLEX ACCENT",
  "2a70=APPROXIMATELY EQUAL OR EQUAL TO;EQUALS SIGN ABOVE PLUS SIGN;PLUS SIGN ABOVE EQUALS SIGN",
  "2a73=EQUALS SIGN ABOVE TILDE OPERATOR;DOUBLE COLON EQUAL;TWO CONSECUTIVE EQUALS SIGNS",
  "2a76=THREE CONSECUTIVE EQUALS SIGNS;EQUALS SIGN WITH TWO DOTS ABOVE AND TWO DOTS BELOW",
  "2a78=EQUIVALENT WITH FOUR DOTS ABOVE;LESS-THAN WITH CIRCLE INSIDE",
  "2a7a=GREATER-THAN WITH CIRCLE INSIDE;LESS-THAN WITH QUESTION MARK ABOVE",
  "2a7c=GREATER-THAN WITH QUESTION MARK ABOVE;LESS-THAN OR SLANTED EQUAL TO",
  "2a7e=GREATER-THAN OR SLANTED EQUAL TO;LESS-THAN OR SLANTED EQUAL TO WITH DOT INSIDE",
  "2a80=GREATER-THAN OR SLANTED EQUAL TO WITH DOT INSIDE",
  "2a81=LESS-THAN OR SLANTED EQUAL TO WITH DOT ABOVE",
  "2a82=GREATER-THAN OR SLANTED EQUAL TO WITH DOT ABOVE",
  "2a83=LESS-THAN OR SLANTED EQUAL TO WITH DOT ABOVE RIGHT",
  "2a84=GREATER-THAN OR SLANTED EQUAL TO WITH DOT ABOVE LEFT;LESS-THAN OR APPROXIMATE",
  "2a86=GREATER-THAN OR APPROXIMATE;LESS-THAN AND SINGLE-LINE NOT EQUAL TO",
  "2a88=GREATER-THAN AND SINGLE-LINE NOT EQUAL TO;LESS-THAN AND NOT APPROXIMATE",
  "2a8a=GREATER-THAN AND NOT APPROXIMATE;LESS-THAN ABOVE DOUBLE-LINE EQUAL ABOVE GREATER-THAN",
  "2a8c=GREATER-THAN ABOVE DOUBLE-LINE EQUAL ABOVE LESS-THAN;LESS-THAN ABOVE SIMILAR OR EQUAL",
  "2a8e=GREATER-THAN ABOVE SIMILAR OR EQUAL;LESS-THAN ABOVE SIMILAR ABOVE GREATER-THAN",
  "2a90=GREATER-THAN ABOVE SIMILAR ABOVE LESS-THAN",
  "2a91=LESS-THAN ABOVE GREATER-THAN ABOVE DOUBLE-LINE EQUAL",
  "2a92=GREATER-THAN ABOVE LESS-THAN ABOVE DOUBLE-LINE EQUAL",
  "2a93=LESS-THAN ABOVE SLANTED EQUAL ABOVE GREATER-THAN ABOVE SLANTED EQUAL",
  "2a94=GREATER-THAN ABOVE SLANTED EQUAL ABOVE LESS-THAN ABOVE SLANTED EQUAL",
  "2a95=SLANTED EQUAL TO OR LESS-THAN;SLANTED EQUAL TO OR GREATER-THAN",
  "2a97=SLANTED EQUAL TO OR LESS-THAN WITH DOT INSIDE",
  "2a98=SLANTED EQUAL TO OR GREATER-THAN WITH DOT INSIDE;DOUBLE-LINE EQUAL TO OR LESS-THAN",
  "2a9a=DOUBLE-LINE EQUAL TO OR GREATER-THAN;DOUBLE-LINE SLANTED EQUAL TO OR LESS-THAN",
  "2a9c=DOUBLE-LINE SLANTED EQUAL TO OR GREATER-THAN;SIMILAR OR LESS-THAN",
  "2a9e=SIMILAR OR GREATER-THAN;SIMILAR ABOVE LESS-THAN ABOVE EQUALS SIGN",
  "2aa0=SIMILAR ABOVE GREATER-THAN ABOVE EQUALS SIGN;DOUBLE NESTED LESS-THAN",
  "2aa2=DOUBLE NESTED GREATER-THAN;DOUBLE NESTED LESS-THAN WITH UNDERBAR",
  "2aa4=GREATER-THAN OVERLAPPING LESS-THAN;GREATER-THAN BESIDE LESS-THAN",
  "2aa6=LESS-THAN CLOSED BY CURVE;GREATER-THAN CLOSED BY CURVE",
  "2aa8=LESS-THAN CLOSED BY CURVE ABOVE SLANTED EQUAL",
  "2aa9=GREATER-THAN CLOSED BY CURVE ABOVE SLANTED EQUAL;SMALLER THAN;LARGER THAN",
  "2aac=SMALLER THAN OR EQUAL TO;LARGER THAN OR EQUAL TO;EQUALS SIGN WITH BUMPY ABOVE",
  "2aaf=PRECEDES ABOVE SINGLE-LINE EQUALS SIGN;SUCCEEDS ABOVE SINGLE-LINE EQUALS SIGN",
  "2ab1=PRECEDES ABOVE SINGLE-LINE NOT EQUAL TO;SUCCEEDS ABOVE SINGLE-LINE NOT EQUAL TO",
  "2ab3=PRECEDES ABOVE EQUALS SIGN;SUCCEEDS ABOVE EQUALS SIGN;PRECEDES ABOVE NOT EQUAL TO",
  "2ab6=SUCCEEDS ABOVE NOT EQUAL TO;PRECEDES ABOVE ALMOST EQUAL TO",
  "2ab8=SUCCEEDS ABOVE ALMOST EQUAL TO;PRECEDES ABOVE NOT ALMOST EQUAL TO",
  "2aba=SUCCEEDS ABOVE NOT ALMOST EQUAL TO;DOUBLE PRECEDES;DOUBLE SUCCEEDS;SUBSET WITH DOT",
  "2abe=SUPERSET WITH DOT;SUBSET WITH PLUS SIGN BELOW;SUPERSET WITH PLUS SIGN BELOW",
  "2ac1=SUBSET WITH MULTIPLICATION SIGN BELOW;SUPERSET WITH MULTIPLICATION SIGN BELOW",
  "2ac3=SUBSET OF OR EQUAL TO WITH DOT ABOVE;SUPERSET OF OR EQUAL TO WITH DOT ABOVE",
  "2ac5=SUBSET OF ABOVE EQUALS SIGN;SUPERSET OF ABOVE EQUALS SIGN",
  "2ac7=SUBSET OF ABOVE TILDE OPERATOR;SUPERSET OF ABOVE TILDE OPERATOR",
  "2ac9=SUBSET OF ABOVE ALMOST EQUAL TO;SUPERSET OF ABOVE ALMOST EQUAL TO",
  "2acb=SUBSET OF ABOVE NOT EQUAL TO;SUPERSET OF ABOVE NOT EQUAL TO",
  "2acd=SQUARE LEFT OPEN BOX OPERATOR;SQUARE RIGHT OPEN BOX OPERATOR;CLOSED SUBSET",
  "2ad0=CLOSED SUPERSET;CLOSED SUBSET OR EQUAL TO;CLOSED SUPERSET OR EQUAL TO",
  "2ad3=SUBSET ABOVE SUPERSET;SUPERSET ABOVE SUBSET;SUBSET ABOVE SUBSET;SUPERSET ABOVE SUPERSET",
  "2ad7=SUPERSET BESIDE SUBSET;SUPERSET BESIDE AND JOINED BY DASH WITH SUBSET",
  "2ad9=ELEMENT OF OPENING DOWNWARDS;PITCHFORK WITH TEE TOP;TRANSVERSAL INTERSECTION;FORKING",
  "2add=NONFORKING;SHORT LEFT TACK;SHORT DOWN TACK;SHORT UP TACK;PERPENDICULAR WITH S",
  "2ae2=VERTICAL BAR TRIPLE RIGHT TURNSTILE;DOUBLE VERTICAL BAR LEFT TURNSTILE",
  "2ae4=VERTICAL BAR DOUBLE LEFT TURNSTILE;DOUBLE VERTICAL BAR DOUBLE LEFT TURNSTILE",
  "2ae6=LONG DASH FROM LEFT MEMBER OF DOUBLE VERTICAL;SHORT DOWN TACK WITH OVERBAR",
  "2ae8=SHORT UP TACK WITH UNDERBAR;SHORT UP TACK ABOVE SHORT DOWN TACK;DOUBLE DOWN TACK",
  "2aeb=DOUBLE UP TACK;DOUBLE STROKE NOT SIGN;REVERSED DOUBLE STROKE NOT SIGN",
  "2aee=DOES NOT DIVIDE WITH REVERSED NEGATION SLASH;VERTICAL LINE WITH CIRCLE ABOVE",
  "2af0=VERTICAL LINE WITH CIRCLE BELOW;DOWN TACK WITH CIRCLE BELOW",
  "2af2=PARALLEL WITH HORIZONTAL STROKE;PARALLEL WITH TILDE OPERATOR",
  "2af4=TRIPLE VERTICAL BAR BINARY RELATION;TRIPLE VERTICAL BAR WITH HORIZONTAL STROKE",
  "2af6=TRIPLE COLON OPERATOR;TRIPLE NESTED LESS-THAN;TRIPLE NESTED GREATER-THAN",
  "2af9=DOUBLE-LINE SLANTED LESS-THAN OR EQUAL TO;DOUBLE-LINE SLANTED GREATER-THAN OR EQUAL TO",
  "2afb=TRIPLE SOLIDUS BINARY RELATION;LARGE TRIPLE VERTICAL BAR OPERATOR",
  "2afd=DOUBLE SOLIDUS OPERATOR;WHITE VERTICAL BAR;N-ARY WHITE VERTICAL BAR",
  "2b00=NORTH EAST WHITE ARROW;NORTH WEST WHITE ARROW;SOUTH EAST WHITE ARROW",
  "2b03=SOUTH WEST WHITE ARROW;LEFT RIGHT WHITE ARROW;LEFTWARDS BLACK ARROW;UPWARDS BLACK ARROW",
  "2b07=DOWNWARDS BLACK ARROW;NORTH EAST BLACK ARROW;NORTH WEST BLACK ARROW",
  "2b0a=SOUTH EAST BLACK ARROW;SOUTH WEST BLACK ARROW;LEFT RIGHT BLACK ARROW",
  "2b0d=UP DOWN BLACK ARROW;RIGHTWARDS ARROW WITH TIP DOWNWARDS",
  "2b0f=RIGHTWARDS ARROW WITH TIP UPWARDS;LEFTWARDS ARROW WITH TIP DOWNWARDS",
  "2b11=LEFTWARDS ARROW WITH TIP UPWARDS;SQUARE WITH TOP HALF BLACK",
  "2b13=SQUARE WITH BOTTOM HALF BLACK;SQUARE WITH UPPER RIGHT DIAGONAL HALF BLACK",
  "2b15=SQUARE WITH LOWER LEFT DIAGONAL HALF BLACK;DIAMOND WITH LEFT HALF BLACK",
  "2b17=DIAMOND WITH RIGHT HALF BLACK;DIAMOND WITH TOP HALF BLACK",
  "2b19=DIAMOND WITH BOTTOM HALF BLACK;DOTTED SQUARE;BLACK LARGE SQUARE;WHITE LARGE SQUARE",
  "2b1d=BLACK VERY SMALL SQUARE;WHITE VERY SMALL SQUARE;BLACK PENTAGON;WHITE PENTAGON",
  "2b21=WHITE HEXAGON;BLACK HEXAGON;HORIZONTAL BLACK HEXAGON;BLACK LARGE CIRCLE",
  "2b25=BLACK MEDIUM DIAMOND;WHITE MEDIUM DIAMOND;BLACK MEDIUM LOZENGE;WHITE MEDIUM LOZENGE",
  "2b29=BLACK SMALL DIAMOND;BLACK SMALL LOZENGE;WHITE SMALL LOZENGE;BLACK HORIZONTAL ELLIPSE",
  "2b2d=WHITE HORIZONTAL ELLIPSE;BLACK VERTICAL ELLIPSE;WHITE VERTICAL ELLIPSE",
  "2b30=LEFT ARROW WITH SMALL CIRCLE;THREE LEFTWARDS ARROWS;LEFT ARROW WITH CIRCLED PLUS",
  "2b33=LONG LEFTWARDS SQUIGGLE ARROW;LEFTWARDS TWO-HEADED ARROW WITH VERTICAL STROKE",
  "2b35=LEFTWARDS TWO-HEADED ARROW WITH DOUBLE VERTICAL STROKE",
  "2b36=LEFTWARDS TWO-HEADED ARROW FROM BAR;LEFTWARDS TWO-HEADED TRIPLE DASH ARROW",
  "2b38=LEFTWARDS ARROW WITH DOTTED STEM;LEFTWARDS ARROW WITH TAIL WITH VERTICAL STROKE",
  "2b3a=LEFTWARDS ARROW WITH TAIL WITH DOUBLE VERTICAL STROKE",
  "2b3b=LEFTWARDS TWO-HEADED ARROW WITH TAIL",
  "2b3c=LEFTWARDS TWO-HEADED ARROW WITH TAIL WITH VERTICAL STROKE",
  "2b3d=LEFTWARDS TWO-HEADED ARROW WITH TAIL WITH DOUBLE VERTICAL STROKE",
  "2b3e=LEFTWARDS ARROW THROUGH X;WAVE ARROW POINTING DIRECTLY LEFT",
  "2b40=EQUALS SIGN ABOVE LEFTWARDS ARROW;REVERSE TILDE OPERATOR ABOVE LEFTWARDS ARROW",
  "2b42=LEFTWARDS ARROW ABOVE REVERSE ALMOST EQUAL TO;RIGHTWARDS ARROW THROUGH GREATER-THAN",
  "2b44=RIGHTWARDS ARROW THROUGH SUPERSET;LEFTWARDS QUADRUPLE ARROW;RIGHTWARDS QUADRUPLE ARROW",
  "2b47=REVERSE TILDE OPERATOR ABOVE RIGHTWARDS ARROW",
  "2b48=RIGHTWARDS ARROW ABOVE REVERSE ALMOST EQUAL TO;TILDE OPERATOR ABOVE LEFTWARDS ARROW",
  "2b4a=LEFTWARDS ARROW ABOVE ALMOST EQUAL TO;LEFTWARDS ARROW ABOVE REVERSE TILDE OPERATOR",
  "2b4c=RIGHTWARDS ARROW ABOVE REVERSE TILDE OPERATOR;DOWNWARDS TRIANGLE-HEADED ZIGZAG ARROW",
  "2b4e=SHORT SLANTED NORTH ARROW;SHORT BACKSLANTED SOUTH ARROW;WHITE MEDIUM STAR",
  "2b51=BLACK SMALL STAR;WHITE SMALL STAR;BLACK RIGHT-POINTING PENTAGON",
  "2b54=WHITE RIGHT-POINTING PENTAGON;HEAVY LARGE CIRCLE;HEAVY OVAL WITH OVAL INSIDE",
  "2b57=HEAVY CIRCLE WITH CIRCLE INSIDE;HEAVY CIRCLE;HEAVY CIRCLED SALTIRE",
  "2b5a=SLANTED NORTH ARROW WITH HOOKED HEAD;BACKSLANTED SOUTH ARROW WITH HOOKED TAIL",
  "2b5c=SLANTED NORTH ARROW WITH HORIZONTAL TAIL;BACKSLANTED SOUTH ARROW WITH HORIZONTAL TAIL",
  "2b5e=BENT ARROW POINTING DOWNWARDS THEN NORTH EAST",
  "2b5f=SHORT BENT ARROW POINTING DOWNWARDS THEN NORTH EAST;LEFTWARDS TRIANGLE-HEADED ARROW",
  "2b61=UPWARDS TRIANGLE-HEADED ARROW;RIGHTWARDS TRIANGLE-HEADED ARROW",
  "2b63=DOWNWARDS TRIANGLE-HEADED ARROW;LEFT RIGHT TRIANGLE-HEADED ARROW",
  "2b65=UP DOWN TRIANGLE-HEADED ARROW;NORTH WEST TRIANGLE-HEADED ARROW",
  "2b67=NORTH EAST TRIANGLE-HEADED ARROW;SOUTH EAST TRIANGLE-HEADED ARROW",
  "2b69=SOUTH WEST TRIANGLE-HEADED ARROW;LEFTWARDS TRIANGLE-HEADED DASHED ARROW",
  "2b6b=UPWARDS TRIANGLE-HEADED DASHED ARROW;RIGHTWARDS TRIANGLE-HEADED DASHED ARROW",
  "2b6d=DOWNWARDS TRIANGLE-HEADED DASHED ARROW;CLOCKWISE TRIANGLE-HEADED OPEN CIRCLE ARROW",
  "2b6f=ANTICLOCKWISE TRIANGLE-HEADED OPEN CIRCLE ARROW;LEFTWARDS TRIANGLE-HEADED ARROW TO BAR",
  "2b71=UPWARDS TRIANGLE-HEADED ARROW TO BAR;RIGHTWARDS TRIANGLE-HEADED ARROW TO BAR",
  "2b73=DOWNWARDS TRIANGLE-HEADED ARROW TO BAR",
  "2b76=NORTH WEST TRIANGLE-HEADED ARROW TO BAR;NORTH EAST TRIANGLE-HEADED ARROW TO BAR",
  "2b78=SOUTH EAST TRIANGLE-HEADED ARROW TO BAR;SOUTH WEST TRIANGLE-HEADED ARROW TO BAR",
  "2b7a=LEFTWARDS TRIANGLE-HEADED ARROW WITH DOUBLE HORIZONTAL STROKE",
  "2b7b=UPWARDS TRIANGLE-HEADED ARROW WITH DOUBLE HORIZONTAL STROKE",
  "2b7c=RIGHTWARDS TRIANGLE-HEADED ARROW WITH DOUBLE HORIZONTAL STROKE",
  "2b7d=DOWNWARDS TRIANGLE-HEADED ARROW WITH DOUBLE HORIZONTAL STROKE;HORIZONTAL TAB KEY",
  "2b7f=VERTICAL TAB KEY;LEFTWARDS TRIANGLE-HEADED ARROW OVER RIGHTWARDS TRIANGLE-HEADED ARROW",
  "2b81=UPWARDS TRIANGLE-HEADED ARROW LEFTWARDS OF DOWNWARDS TRIANGLE-HEADED ARROW",
  "2b82=RIGHTWARDS TRIANGLE-HEADED ARROW OVER LEFTWARDS TRIANGLE-HEADED ARROW",
  "2b83=DOWNWARDS TRIANGLE-HEADED ARROW LEFTWARDS OF UPWARDS TRIANGLE-HEADED ARROW",
  "2b84=LEFTWARDS TRIANGLE-HEADED PAIRED ARROWS;UPWARDS TRIANGLE-HEADED PAIRED ARROWS",
  "2b86=RIGHTWARDS TRIANGLE-HEADED PAIRED ARROWS;DOWNWARDS TRIANGLE-HEADED PAIRED ARROWS",
  "2b88=LEFTWARDS BLACK CIRCLED WHITE ARROW;UPWARDS BLACK CIRCLED WHITE ARROW",
  "2b8a=RIGHTWARDS BLACK CIRCLED WHITE ARROW;DOWNWARDS BLACK CIRCLED WHITE ARROW",
  "2b8c=ANTICLOCKWISE TRIANGLE-HEADED RIGHT U-SHAPED ARROW",
  "2b8d=ANTICLOCKWISE TRIANGLE-HEADED BOTTOM U-SHAPED ARROW",
  "2b8e=ANTICLOCKWISE TRIANGLE-HEADED LEFT U-SHAPED ARROW",
  "2b8f=ANTICLOCKWISE TRIANGLE-HEADED TOP U-SHAPED ARROW;RETURN LEFT;RETURN RIGHT;NEWLINE LEFT",
  "2b93=NEWLINE RIGHT;FOUR CORNER ARROWS CIRCLING ANTICLOCKWISE;RIGHTWARDS BLACK ARROW",
  "2b97=SYMBOL FOR TYPE A ELECTRONICS;THREE-D TOP-LIGHTED LEFTWARDS EQUILATERAL ARROWHEAD",
  "2b99=THREE-D RIGHT-LIGHTED UPWARDS EQUILATERAL ARROWHEAD",
  "2b9a=THREE-D TOP-LIGHTED RIGHTWARDS EQUILATERAL ARROWHEAD",
  "2b9b=THREE-D LEFT-LIGHTED DOWNWARDS EQUILATERAL ARROWHEAD",
  "2b9c=BLACK LEFTWARDS EQUILATERAL ARROWHEAD;BLACK UPWARDS EQUILATERAL ARROWHEAD",
  "2b9e=BLACK RIGHTWARDS EQUILATERAL ARROWHEAD;BLACK DOWNWARDS EQUILATERAL ARROWHEAD",
  "2ba0=DOWNWARDS TRIANGLE-HEADED ARROW WITH LONG TIP LEFTWARDS",
  "2ba1=DOWNWARDS TRIANGLE-HEADED ARROW WITH LONG TIP RIGHTWARDS",
  "2ba2=UPWARDS TRIANGLE-HEADED ARROW WITH LONG TIP LEFTWARDS",
  "2ba3=UPWARDS TRIANGLE-HEADED ARROW WITH LONG TIP RIGHTWARDS",
  "2ba4=LEFTWARDS TRIANGLE-HEADED ARROW WITH LONG TIP UPWARDS",
  "2ba5=RIGHTWARDS TRIANGLE-HEADED ARROW WITH LONG TIP UPWARDS",
  "2ba6=LEFTWARDS TRIANGLE-HEADED ARROW WITH LONG TIP DOWNWARDS",
  "2ba7=RIGHTWARDS TRIANGLE-HEADED ARROW WITH LONG TIP DOWNWARDS",
  "2ba8=BLACK CURVED DOWNWARDS AND LEFTWARDS ARROW;BLACK CURVED DOWNWARDS AND RIGHTWARDS ARROW",
  "2baa=BLACK CURVED UPWARDS AND LEFTWARDS ARROW;BLACK CURVED UPWARDS AND RIGHTWARDS ARROW",
  "2bac=BLACK CURVED LEFTWARDS AND UPWARDS ARROW;BLACK CURVED RIGHTWARDS AND UPWARDS ARROW",
  "2bae=BLACK CURVED LEFTWARDS AND DOWNWARDS ARROW;BLACK CURVED RIGHTWARDS AND DOWNWARDS ARROW",
  "2bb0=RIBBON ARROW DOWN LEFT;RIBBON ARROW DOWN RIGHT;RIBBON ARROW UP LEFT",
  "2bb3=RIBBON ARROW UP RIGHT;RIBBON ARROW LEFT UP;RIBBON ARROW RIGHT UP;RIBBON ARROW LEFT DOWN",
  "2bb7=RIBBON ARROW RIGHT DOWN;UPWARDS WHITE ARROW FROM BAR WITH HORIZONTAL BAR",
  "2bb9=UP ARROWHEAD IN A RECTANGLE BOX;OVERLAPPING WHITE SQUARES",
  "2bbb=OVERLAPPING WHITE AND BLACK SQUARES;OVERLAPPING BLACK SQUARES;BALLOT BOX WITH LIGHT X",
  "2bbe=CIRCLED X;CIRCLED BOLD X;BLACK SQUARE CENTRED;BLACK DIAMOND CENTRED",
  "2bc2=TURNED BLACK PENTAGON;HORIZONTAL BLACK OCTAGON;BLACK OCTAGON",
  "2bc5=BLACK MEDIUM UP-POINTING TRIANGLE CENTRED;BLACK MEDIUM DOWN-POINTING TRIANGLE CENTRED",
  "2bc7=BLACK MEDIUM LEFT-POINTING TRIANGLE CENTRED",
  "2bc8=BLACK MEDIUM RIGHT-POINTING TRIANGLE CENTRED;NEPTUNE FORM TWO;TOP HALF BLACK CIRCLE",
  "2bcb=BOTTOM HALF BLACK CIRCLE;LIGHT FOUR POINTED BLACK CUSP",
  "2bcd=ROTATED LIGHT FOUR POINTED BLACK CUSP;WHITE FOUR POINTED CUSP",
  "2bcf=ROTATED WHITE FOUR POINTED CUSP;SQUARE POSITION INDICATOR;UNCERTAINTY SIGN;GROUP MARK",
  "2bd3=PLUTO FORM TWO;PLUTO FORM THREE;PLUTO FORM FOUR;PLUTO FORM FIVE;TRANSPLUTO;PROSERPINA",
  "2bd9=ASTRAEA;HYGIEA;PHOLUS;NESSUS;WHITE MOON SELENA;BLACK DIAMOND ON CROSS",
  "2bdf=TRUE LIGHT MOON ARTA;CUPIDO;HADES;ZEUS;KRONOS;APOLLON;ADMETOS;VULCANUS;POSEIDON",
  "2be8=LEFT HALF BLACK STAR;RIGHT HALF BLACK STAR;STAR WITH LEFT HALF BLACK",
  "2beb=STAR WITH RIGHT HALF BLACK;LEFTWARDS TWO-HEADED ARROW WITH TRIANGLE ARROWHEADS",
  "2bed=UPWARDS TWO-HEADED ARROW WITH TRIANGLE ARROWHEADS",
  "2bee=RIGHTWARDS TWO-HEADED ARROW WITH TRIANGLE ARROWHEADS",
  "2bef=DOWNWARDS TWO-HEADED ARROW WITH TRIANGLE ARROWHEADS;ERIS FORM ONE;ERIS FORM TWO;SEDNA",
  "2bf3=RUSSIAN ASTROLOGICAL SYMBOL VIGINTILE;RUSSIAN ASTROLOGICAL SYMBOL NOVILE",
  "2bf5=RUSSIAN ASTROLOGICAL SYMBOL QUINTILE;RUSSIAN ASTROLOGICAL SYMBOL BINOVILE",
  "2bf7=RUSSIAN ASTROLOGICAL SYMBOL SENTAGON;RUSSIAN ASTROLOGICAL SYMBOL TREDECILE",
  "2bf9=EQUALS SIGN WITH INFINITY BELOW;UNITED SYMBOL;SEPARATED SYMBOL;DOUBLED SYMBOL",
  "2bfd=PASSED SYMBOL;REVERSED RIGHT ANGLE;HELLSCHREIBER PAUSE SYMBOL",
  "3000=IDEOGRAPHIC SPACE;IDEOGRAPHIC COMMA;IDEOGRAPHIC FULL STOP;DITTO MARK",
  "3004=JAPANESE INDUSTRIAL STANDARD SYMBOL;IDEOGRAPHIC ITERATION MARK;IDEOGRAPHIC CLOSING MARK",
  "3007=IDEOGRAPHIC NUMBER ZERO;LEFT ANGLE BRACKET;RIGHT ANGLE BRACKET",
  "300a=LEFT DOUBLE ANGLE BRACKET;RIGHT DOUBLE ANGLE BRACKET;LEFT CORNER BRACKET",
  "300d=RIGHT CORNER BRACKET;LEFT WHITE CORNER BRACKET;RIGHT WHITE CORNER BRACKET",
  "3010=LEFT BLACK LENTICULAR BRACKET;RIGHT BLACK LENTICULAR BRACKET;POSTAL MARK;GETA MARK",
  "3014=LEFT TORTOISE SHELL BRACKET;RIGHT TORTOISE SHELL BRACKET;LEFT WHITE LENTICULAR BRACKET",
  "3017=RIGHT WHITE LENTICULAR BRACKET;LEFT WHITE TORTOISE SHELL BRACKET",
  "3019=RIGHT WHITE TORTOISE SHELL BRACKET;LEFT WHITE SQUARE BRACKET;RIGHT WHITE SQUARE BRACKET",
  "301c=WAVE DASH;REVERSED DOUBLE PRIME QUOTATION MARK;DOUBLE PRIME QUOTATION MARK",
  "301f=LOW DOUBLE PRIME QUOTATION MARK;POSTAL MARK FACE;HANGZHOU NUMERAL ONE",
  "3022=HANGZHOU NUMERAL TWO;HANGZHOU NUMERAL THREE;HANGZHOU NUMERAL FOUR;HANGZHOU NUMERAL FIVE",
  "3026=HANGZHOU NUMERAL SIX;HANGZHOU NUMERAL SEVEN;HANGZHOU NUMERAL EIGHT",
  "3029=HANGZHOU NUMERAL NINE;IDEOGRAPHIC LEVEL TONE MARK;IDEOGRAPHIC RISING TONE MARK",
  "302c=IDEOGRAPHIC DEPARTING TONE MARK;IDEOGRAPHIC ENTERING TONE MARK",
  "302e=HANGUL SINGLE DOT TONE MARK;HANGUL DOUBLE DOT TONE MARK;WAVY DASH",
  "3031=VERTICAL KANA REPEAT MARK;VERTICAL KANA REPEAT WITH VOICED SOUND MARK",
  "3033=VERTICAL KANA REPEAT MARK UPPER HALF",
  "3034=VERTICAL KANA REPEAT WITH VOICED SOUND MARK UPPER HALF",
  "3035=VERTICAL KANA REPEAT MARK LOWER HALF;CIRCLED POSTAL MARK",
  "3037=IDEOGRAPHIC TELEGRAPH LINE FEED SEPARATOR SYMBOL;HANGZHOU NUMERAL TEN",
  "3039=HANGZHOU NUMERAL TWENTY;HANGZHOU NUMERAL THIRTY;VERTICAL IDEOGRAPHIC ITERATION MARK",
  "303c=MASU MARK;PART ALTERNATION MARK;IDEOGRAPHIC VARIATION INDICATOR",
  "303f=IDEOGRAPHIC HALF FILL SPACE",
  "fb00=LATIN SMALL LIGATURE FF;LATIN SMALL LIGATURE FI;LATIN SMALL LIGATURE FL",
  "fb03=LATIN SMALL LIGATURE FFI;LATIN SMALL LIGATURE FFL;LATIN SMALL LIGATURE LONG S T",
  "fb06=LATIN SMALL LIGATURE ST",
  "fe00=VARIATION SELECTOR-1;VARIATION SELECTOR-2;VARIATION SELECTOR-3;VARIATION SELECTOR-4",
  "fe04=VARIATION SELECTOR-5;VARIATION SELECTOR-6;VARIATION SELECTOR-7;VARIATION SELECTOR-8",
  "fe08=VARIATION SELECTOR-9;VARIATION SELECTOR-10;VARIATION SELECTOR-11;VARIATION SELECTOR-12",
  "fe0c=VARIATION SELECTOR-13;VARIATION SELECTOR-14;VARIATION SELECTOR-15;VARIATION SELECTOR-16",
  "fe10=PRESENTATION FORM FOR VERTICAL COMMA;PRESENTATION FORM FOR VERTICAL IDEOGRAPHIC COMMA",
  "fe12=PRESENTATION FORM FOR VERTICAL IDEOGRAPHIC FULL STOP",
  "fe13=PRESENTATION FORM FOR VERTICAL COLON;PRESENTATION FORM FOR VERTICAL SEMICOLON",
  "fe15=PRESENTATION FORM FOR VERTICAL EXCLAMATION MARK",
  "fe16=PRESENTATION FORM FOR VERTICAL QUESTION MARK",
  "fe17=PRESENTATION FORM FOR VERTICAL LEFT WHITE LENTICULAR BRACKET",
  "fe18=PRESENTATION FORM FOR VERTICAL RIGHT WHITE LENTICULAR BRAKCET",
  "fe19=PRESENTATION FORM FOR VERTICAL HORIZONTAL ELLIPSIS",
  "feff=ZERO WIDTH NO-BREAK SPACE",
  "ff01=FULLWIDTH EXCLAMATION MARK;FULLWIDTH QUOTATION MARK;FULLWIDTH NUMBER SIGN",
  "ff04=FULLWIDTH DOLLAR SIGN;FULLWIDTH PERCENT SIGN;FULLWIDTH AMPERSAND;FULLWIDTH APOSTROPHE",
  "ff08=FULLWIDTH LEFT PARENTHESIS;FULLWIDTH RIGHT PARENTHESIS;FULLWIDTH ASTERISK",
  "ff0b=FULLWIDTH PLUS SIGN;FULLWIDTH COMMA;FULLWIDTH HYPHEN-MINUS;FULLWIDTH FULL STOP",
  "ff0f=FULLWIDTH SOLIDUS;FULLWIDTH DIGIT ZERO;FULLWIDTH DIGIT ONE;FULLWIDTH DIGIT TWO",
  "ff13=FULLWIDTH DIGIT THREE;FULLWIDTH DIGIT FOUR;FULLWIDTH DIGIT FIVE;FULLWIDTH DIGIT SIX",
  "ff17=FULLWIDTH DIGIT SEVEN;FULLWIDTH DIGIT EIGHT;FULLWIDTH DIGIT NINE;FULLWIDTH COLON",
  "ff1b=FULLWIDTH SEMICOLON;FULLWIDTH LESS-THAN SIGN;FULLWIDTH EQUALS SIGN",
  "ff1e=FULLWIDTH GREATER-THAN SIGN;FULLWIDTH QUESTION MARK;FULLWIDTH COMMERCIAL AT",
  "ff21=FULLWIDTH LATIN CAPITAL LETTER A;FULLWIDTH LATIN CAPITAL LETTER B",
  "ff23=FULLWIDTH LATIN CAPITAL LETTER C;FULLWIDTH LATIN CAPITAL LETTER D",
  "ff25=FULLWIDTH LATIN CAPITAL LETTER E;FULLWIDTH LATIN CAPITAL LETTER F",
  "ff27=FULLWIDTH LATIN CAPITAL LETTER G;FULLWIDTH LATIN CAPITAL LETTER H",
  "ff29=FULLWIDTH LATIN CAPITAL LETTER I;FULLWIDTH LATIN CAPITAL LETTER J",
  "ff2b=FULLWIDTH LATIN CAPITAL LETTER K;FULLWIDTH LATIN CAPITAL LETTER L",
  "ff2d=FULLWIDTH LATIN CAPITAL LETTER M;FULLWIDTH LATIN CAPITAL LETTER N",
  "ff2f=FULLWIDTH LATIN CAPITAL LETTER O;FULLWIDTH LATIN CAPITAL LETTER P",
  "ff31=FULLWIDTH LATIN CAPITAL LETTER Q;FULLWIDTH LATIN CAPITAL LETTER R",
  "ff33=FULLWIDTH LATIN CAPITAL LETTER S;FULLWIDTH LATIN CAPITAL LETTER T",
  "ff35=FULLWIDTH LATIN CAPITAL LETTER U;FULLWIDTH LATIN CAPITAL LETTER V",
  "ff37=FULLWIDTH LATIN CAPITAL LETTER W;FULLWIDTH LATIN CAPITAL LETTER X",
  "ff39=FULLWIDTH LATIN CAPITAL LETTER Y;FULLWIDTH LATIN CAPITAL LETTER Z",
  "ff3b=FULLWIDTH LEFT SQUARE BRACKET;FULLWIDTH REVERSE SOLIDUS;FULLWIDTH RIGHT SQUARE BRACKET",
  "ff3e=FULLWIDTH CIRCUMFLEX ACCENT;FULLWIDTH LOW LINE;FULLWIDTH GRAVE ACCENT",
  "ff41=FULLWIDTH LATIN SMALL LETTER A;FULLWIDTH LATIN SMALL LETTER B",
  "ff43=FULLWIDTH LATIN SMALL LETTER C;FULLWIDTH LATIN SMALL LETTER D",
  "ff45=FULLWIDTH LATIN SMALL LETTER E;FULLWIDTH LATIN SMALL LETTER F",
  "ff47=FULLWIDTH LATIN SMALL LETTER G;FULLWIDTH LATIN SMALL LETTER H",
  "ff49=FULLWIDTH LATIN SMALL LETTER I;FULLWIDTH LATIN SMALL LETTER J",
  "ff4b=FULLWIDTH LATIN SMALL LETTER K;FULLWIDTH LATIN SMALL LETTER L",
  "ff4d=FULLWIDTH LATIN SMALL LETTER M;FULLWIDTH LATIN SMALL LETTER N",
  "ff4f=FULLWIDTH LATIN SMALL LETTER O;FULLWIDTH LATIN SMALL LETTER P",
  "ff51=FULLWIDTH LATIN SMALL LETTER Q;FULLWIDTH LATIN SMALL LETTER R",
  "ff53=FULLWIDTH LATIN SMALL LETTER S;FULLWIDTH LATIN SMALL LETTER T",
  "ff55=FULLWIDTH LATIN SMALL LETTER U;FULLWIDTH LATIN SMALL LETTER V",
  "ff57=FULLWIDTH LATIN SMALL LETTER W;FULLWIDTH LATIN SMALL LETTER X",
  "ff59=FULLWIDTH LATIN SMALL LETTER Y;FULLWIDTH LATIN SMALL LETTER Z",
  "ff5b=FULLWIDTH LEFT CURLY BRACKET;FULLWIDTH VERTICAL LINE;FULLWIDTH RIGHT CURLY BRACKET",
  "ff5e=FULLWIDTH TILDE;FULLWIDTH LEFT WHITE PARENTHESIS;FULLWIDTH RIGHT WHITE PARENTHESIS",
  "fff9=INTERLINEAR ANNOTATION ANCHOR;INTERLINEAR ANNOTATION SEPARATOR",
  "fffb=INTERLINEAR ANNOTATION TERMINATOR;OBJECT REPLACEMENT CHARACTER;REPLACEMENT CHARACTER",
  "1f300=CYCLONE;FOGGY;CLOSED UMBRELLA;NIGHT WITH STARS;SUNRISE OVER MOUNTAINS;SUNRISE",
  "1f306=CITYSCAPE AT DUSK;SUNSET OVER BUILDINGS;RAINBOW;BRIDGE AT NIGHT;WATER WAVE;VOLCANO",
  "1f30c=MILKY WAY;EARTH GLOBE EUROPE-AFRICA;EARTH GLOBE AMERICAS;EARTH GLOBE ASIA-AUSTRALIA",
  "1f310=GLOBE WITH MERIDIANS;NEW MOON SYMBOL;WAXING CRESCENT MOON SYMBOL",
  "1f313=FIRST QUARTER MOON SYMBOL;WAXING GIBBOUS MOON SYMBOL;FULL MOON SYMBOL",
  "1f316=WANING GIBBOUS MOON SYMBOL;LAST QUARTER MOON SYMBOL;WANING CRESCENT MOON SYMBOL",
  "1f319=CRESCENT MOON;NEW MOON WITH FACE;FIRST QUARTER MOON WITH FACE",
  "1f31c=LAST QUARTER MOON WITH FACE;FULL MOON WITH FACE;SUN WITH FACE;GLOWING STAR",
  "1f320=SHOOTING STAR;THERMOMETER;BLACK DROPLET;WHITE SUN;WHITE SUN WITH SMALL CLOUD",
  "1f325=WHITE SUN BEHIND CLOUD;WHITE SUN BEHIND CLOUD WITH RAIN;CLOUD WITH RAIN",
  "1f328=CLOUD WITH SNOW;CLOUD WITH LIGHTNING;CLOUD WITH TORNADO;FOG;WIND BLOWING FACE;HOT DOG",
  "1f32e=TACO;BURRITO;CHESTNUT;SEEDLING;EVERGREEN TREE;DECIDUOUS TREE;PALM TREE;CACTUS",
  "1f336=HOT PEPPER;TULIP;CHERRY BLOSSOM;ROSE;HIBISCUS;SUNFLOWER;BLOSSOM;EAR OF MAIZE",
  "1f33e=EAR OF RICE;HERB;FOUR LEAF CLOVER;MAPLE LEAF;FALLEN LEAF;LEAF FLUTTERING IN WIND",
  "1f344=MUSHROOM;TOMATO;AUBERGINE;GRAPES;MELON;WATERMELON;TANGERINE;LEMON;BANANA;PINEAPPLE",
  "1f34e=RED APPLE;GREEN APPLE;PEAR;PEACH;CHERRIES;STRAWBERRY;HAMBURGER;SLICE OF PIZZA",
  "1f356=MEAT ON BONE;POULTRY LEG;RICE CRACKER;RICE BALL;COOKED RICE;CURRY AND RICE",
  "1f35c=STEAMING BOWL;SPAGHETTI;BREAD;FRENCH FRIES;ROASTED SWEET POTATO;DANGO;ODEN;SUSHI",
  "1f364=FRIED SHRIMP;FISH CAKE WITH SWIRL DESIGN;SOFT ICE CREAM;SHAVED ICE;ICE CREAM;DOUGHNUT",
  "1f36a=COOKIE;CHOCOLATE BAR;CANDY;LOLLIPOP;CUSTARD;HONEY POT;SHORTCAKE;BENTO BOX;POT OF FOOD",
  "1f373=COOKING;FORK AND KNIFE;TEACUP WITHOUT HANDLE;SAKE BOTTLE AND CUP;WINE GLASS",
  "1f378=COCKTAIL GLASS;TROPICAL DRINK;BEER MUG;CLINKING BEER MUGS;BABY BOTTLE",
  "1f37d=FORK AND KNIFE WITH PLATE;BOTTLE WITH POPPING CORK;POPCORN;RIBBON;WRAPPED PRESENT",
  "1f382=BIRTHDAY CAKE;JACK-O-LANTERN;CHRISTMAS TREE;FATHER CHRISTMAS;FIREWORKS",
  "1f387=FIREWORK SPARKLER;BALLOON;PARTY POPPER;CONFETTI BALL;TANABATA TREE;CROSSED FLAGS",
  "1f38d=PINE DECORATION;JAPANESE DOLLS;CARP STREAMER;WIND CHIME;MOON VIEWING CEREMONY",
  "1f392=SCHOOL SATCHEL;GRADUATION CAP;HEART WITH TIP ON THE LEFT;BOUQUET OF FLOWERS",
  "1f396=MILITARY MEDAL;REMINDER RIBBON;MUSICAL KEYBOARD WITH JACKS;STUDIO MICROPHONE",
  "1f39a=LEVEL SLIDER;CONTROL KNOBS;BEAMED ASCENDING MUSICAL NOTES",
  "1f39d=BEAMED DESCENDING MUSICAL NOTES;FILM FRAMES;ADMISSION TICKETS;CAROUSEL HORSE",
  "1f3a1=FERRIS WHEEL;ROLLER COASTER;FISHING POLE AND FISH;MICROPHONE;MOVIE CAMERA;CINEMA",
  "1f3a7=HEADPHONE;ARTIST PALETTE;TOP HAT;CIRCUS TENT;TICKET;CLAPPER BOARD;PERFORMING ARTS",
  "1f3ae=VIDEO GAME;DIRECT HIT;SLOT MACHINE;BILLIARDS;GAME DIE;BOWLING;FLOWER PLAYING CARDS",
  "1f3b5=MUSICAL NOTE;MULTIPLE MUSICAL NOTES;SAXOPHONE;GUITAR;MUSICAL KEYBOARD;TRUMPET;VIOLIN",
  "1f3bc=MUSICAL SCORE;RUNNING SHIRT WITH SASH;TENNIS RACQUET AND BALL;SKI AND SKI BOOT",
  "1f3c0=BASKETBALL AND HOOP;CHEQUERED FLAG;SNOWBOARDER;RUNNER;SURFER;SPORTS MEDAL;TROPHY",
  "1f3c7=HORSE RACING;AMERICAN FOOTBALL;RUGBY FOOTBALL;SWIMMER;WEIGHT LIFTER;GOLFER",
  "1f3cd=RACING MOTORCYCLE;RACING CAR;CRICKET BAT AND BALL;VOLLEYBALL",
  "1f3d1=FIELD HOCKEY STICK AND BALL;ICE HOCKEY STICK AND PUCK;TABLE TENNIS PADDLE AND BALL",
  "1f3d4=SNOW CAPPED MOUNTAIN;CAMPING;BEACH WITH UMBRELLA;BUILDING CONSTRUCTION;HOUSE BUILDINGS",
  "1f3d9=CITYSCAPE;DERELICT HOUSE BUILDING;CLASSICAL BUILDING;DESERT;DESERT ISLAND",
  "1f3de=NATIONAL PARK;STADIUM;HOUSE BUILDING;HOUSE WITH GARDEN;OFFICE BUILDING",
  "1f3e3=JAPANESE POST OFFICE;EUROPEAN POST OFFICE;HOSPITAL;BANK;AUTOMATED TELLER MACHINE;HOTEL",
  "1f3e9=LOVE HOTEL;CONVENIENCE STORE;SCHOOL;DEPARTMENT STORE;FACTORY;IZAKAYA LANTERN",
  "1f3ef=JAPANESE CASTLE;EUROPEAN CASTLE;WHITE PENNANT;BLACK PENNANT;WAVING WHITE FLAG",
  "1f3f4=WAVING BLACK FLAG;ROSETTE;BLACK ROSETTE;LABEL;BADMINTON RACQUET AND SHUTTLECOCK",
  "1f3f9=BOW AND ARROW;AMPHORA;EMOJI MODIFIER FITZPATRICK TYPE-1-2",
  "1f3fc=EMOJI MODIFIER FITZPATRICK TYPE-3;EMOJI MODIFIER FITZPATRICK TYPE-4",
  "1f3fe=EMOJI MODIFIER FITZPATRICK TYPE-5;EMOJI MODIFIER FITZPATRICK TYPE-6;RAT;MOUSE;OX",
  "1f403=WATER BUFFALO;COW;TIGER;LEOPARD;RABBIT;CAT;DRAGON;CROCODILE;WHALE;SNAIL;SNAKE;HORSE",
  "1f40f=RAM;GOAT;SHEEP;MONKEY;ROOSTER;CHICKEN;DOG;PIG;BOAR;ELEPHANT;OCTOPUS;SPIRAL SHELL;BUG",
  "1f41c=ANT;HONEYBEE;LADY BEETLE;FISH;TROPICAL FISH;BLOWFISH;TURTLE;HATCHING CHICK;BABY CHICK",
  "1f425=FRONT-FACING BABY CHICK;BIRD;PENGUIN;KOALA;POODLE;DROMEDARY CAMEL;BACTRIAN CAMEL",
  "1f42c=DOLPHIN;MOUSE FACE;COW FACE;TIGER FACE;RABBIT FACE;CAT FACE;DRAGON FACE;SPOUTING WHALE",
  "1f434=HORSE FACE;MONKEY FACE;DOG FACE;PIG FACE;FROG FACE;HAMSTER FACE;WOLF FACE;BEAR FACE",
  "1f43c=PANDA FACE;PIG NOSE;PAW PRINTS;CHIPMUNK;EYES;EYE;EAR;NOSE;MOUTH;TONGUE",
  "1f446=WHITE UP POINTING BACKHAND INDEX;WHITE DOWN POINTING BACKHAND INDEX",
  "1f448=WHITE LEFT POINTING BACKHAND INDEX;WHITE RIGHT POINTING BACKHAND INDEX",
  "1f44a=FISTED HAND SIGN;WAVING HAND SIGN;OK HAND SIGN;THUMBS UP SIGN;THUMBS DOWN SIGN",
  "1f44f=CLAPPING HANDS SIGN;OPEN HANDS SIGN;CROWN;WOMANS HAT;EYEGLASSES;NECKTIE;T-SHIRT;JEANS",
  "1f457=DRESS;KIMONO;BIKINI;WOMANS CLOTHES;PURSE;HANDBAG;POUCH;MANS SHOE;ATHLETIC SHOE",
  "1f460=HIGH-HEELED SHOE;WOMANS SANDAL;WOMANS BOOTS;FOOTPRINTS;BUST IN SILHOUETTE",
  "1f465=BUSTS IN SILHOUETTE;BOY;GIRL;MAN;WOMAN;FAMILY;MAN AND WOMAN HOLDING HANDS",
  "1f46c=TWO MEN HOLDING HANDS;TWO WOMEN HOLDING HANDS;POLICE OFFICER;WOMAN WITH BUNNY EARS",
  "1f470=BRIDE WITH VEIL;PERSON WITH BLOND HAIR;MAN WITH GUA PI MAO;MAN WITH TURBAN;OLDER MAN",
  "1f475=OLDER WOMAN;BABY;CONSTRUCTION WORKER;PRINCESS;JAPANESE OGRE;JAPANESE GOBLIN;GHOST",
  "1f47c=BABY ANGEL;EXTRATERRESTRIAL ALIEN;ALIEN MONSTER;IMP;SKULL;INFORMATION DESK PERSON",
  "1f482=GUARDSMAN;DANCER;LIPSTICK;NAIL POLISH;FACE MASSAGE;HAIRCUT;BARBER POLE;SYRINGE;PILL",
  "1f48b=KISS MARK;LOVE LETTER;RING;GEM STONE;KISS;BOUQUET;COUPLE WITH HEART;WEDDING",
  "1f493=BEATING HEART;BROKEN HEART;TWO HEARTS;SPARKLING HEART;GROWING HEART;HEART WITH ARROW",
  "1f499=BLUE HEART;GREEN HEART;YELLOW HEART;PURPLE HEART;HEART WITH RIBBON;REVOLVING HEARTS",
  "1f49f=HEART DECORATION;DIAMOND SHAPE WITH A DOT INSIDE;ELECTRIC LIGHT BULB;ANGER SYMBOL;BOMB",
  "1f4a4=SLEEPING SYMBOL;COLLISION SYMBOL;SPLASHING SWEAT SYMBOL;DROPLET;DASH SYMBOL",
  "1f4a9=PILE OF POO;FLEXED BICEPS;DIZZY SYMBOL;SPEECH BALLOON;THOUGHT BALLOON;WHITE FLOWER",
  "1f4af=HUNDRED POINTS SYMBOL;MONEY BAG;CURRENCY EXCHANGE;HEAVY DOLLAR SIGN;CREDIT CARD",
  "1f4b4=BANKNOTE WITH YEN SIGN;BANKNOTE WITH DOLLAR SIGN;BANKNOTE WITH EURO SIGN",
  "1f4b7=BANKNOTE WITH POUND SIGN;MONEY WITH WINGS;CHART WITH UPWARDS TREND AND YEN SIGN;SEAT",
  "1f4bb=PERSONAL COMPUTER;BRIEFCASE;MINIDISC;FLOPPY DISK;OPTICAL DISC;DVD;FILE FOLDER",
  "1f4c2=OPEN FILE FOLDER;PAGE WITH CURL;PAGE FACING UP;CALENDAR;TEAR-OFF CALENDAR;CARD INDEX",
  "1f4c8=CHART WITH UPWARDS TREND;CHART WITH DOWNWARDS TREND;BAR CHART;CLIPBOARD;PUSHPIN",
  "1f4cd=ROUND PUSHPIN;PAPERCLIP;STRAIGHT RULER;TRIANGULAR RULER;BOOKMARK TABS;LEDGER;NOTEBOOK",
  "1f4d4=NOTEBOOK WITH DECORATIVE COVER;CLOSED BOOK;OPEN BOOK;GREEN BOOK;BLUE BOOK;ORANGE BOOK",
  "1f4da=BOOKS;NAME BADGE;SCROLL;MEMO;TELEPHONE RECEIVER;PAGER;FAX MACHINE;SATELLITE ANTENNA",
  "1f4e2=PUBLIC ADDRESS LOUDSPEAKER;CHEERING MEGAPHONE;OUTBOX TRAY;INBOX TRAY;PACKAGE",
  "1f4e7=E-MAIL SYMBOL;INCOMING ENVELOPE;ENVELOPE WITH DOWNWARDS ARROW ABOVE",
  "1f4ea=CLOSED MAILBOX WITH LOWERED FLAG;CLOSED MAILBOX WITH RAISED FLAG",
  "1f4ec=OPEN MAILBOX WITH RAISED FLAG;OPEN MAILBOX WITH LOWERED FLAG;POSTBOX;POSTAL HORN",
  "1f4f0=NEWSPAPER;MOBILE PHONE;MOBILE PHONE WITH RIGHTWARDS ARROW AT LEFT;VIBRATION MODE",
  "1f4f4=MOBILE PHONE OFF;NO MOBILE PHONES;ANTENNA WITH BARS;CAMERA;CAMERA WITH FLASH",
  "1f4f9=VIDEO CAMERA;TELEVISION;RADIO;VIDEOCASSETTE;FILM PROJECTOR;PORTABLE STEREO",
  "1f4ff=PRAYER BEADS;TWISTED RIGHTWARDS ARROWS",
  "1f501=CLOCKWISE RIGHTWARDS AND LEFTWARDS OPEN CIRCLE ARROWS",
  "1f502=CLOCKWISE RIGHTWARDS AND LEFTWARDS OPEN CIRCLE ARROWS WITH CIRCLED ONE OVERLAY",
  "1f503=CLOCKWISE DOWNWARDS AND UPWARDS OPEN CIRCLE ARROWS",
  "1f504=ANTICLOCKWISE DOWNWARDS AND UPWARDS OPEN CIRCLE ARROWS;LOW BRIGHTNESS SYMBOL",
  "1f506=HIGH BRIGHTNESS SYMBOL;SPEAKER WITH CANCELLATION STROKE;SPEAKER",
  "1f509=SPEAKER WITH ONE SOUND WAVE;SPEAKER WITH THREE SOUND WAVES;BATTERY;ELECTRIC PLUG",
  "1f50d=LEFT-POINTING MAGNIFYING GLASS;RIGHT-POINTING MAGNIFYING GLASS;LOCK WITH INK PEN",
  "1f510=CLOSED LOCK WITH KEY;KEY;LOCK;OPEN LOCK;BELL;BELL WITH CANCELLATION STROKE;BOOKMARK",
  "1f517=LINK SYMBOL;RADIO BUTTON;BACK WITH LEFTWARDS ARROW ABOVE",
  "1f51a=END WITH LEFTWARDS ARROW ABOVE;ON WITH EXCLAMATION MARK WITH LEFT RIGHT ARROW ABOVE",
  "1f51c=SOON WITH RIGHTWARDS ARROW ABOVE;TOP WITH UPWARDS ARROW ABOVE",
  "1f51e=NO ONE UNDER EIGHTEEN SYMBOL;KEYCAP TEN;INPUT SYMBOL FOR LATIN CAPITAL LETTERS",
  "1f521=INPUT SYMBOL FOR LATIN SMALL LETTERS;INPUT SYMBOL FOR NUMBERS;INPUT SYMBOL FOR SYMBOLS",
  "1f524=INPUT SYMBOL FOR LATIN LETTERS;FIRE;ELECTRIC TORCH;WRENCH;HAMMER;NUT AND BOLT;HOCHO",
  "1f52b=PISTOL;MICROSCOPE;TELESCOPE;CRYSTAL BALL;SIX POINTED STAR WITH MIDDLE DOT",
  "1f530=JAPANESE SYMBOL FOR BEGINNER;TRIDENT EMBLEM;BLACK SQUARE BUTTON;WHITE SQUARE BUTTON",
  "1f534=LARGE RED CIRCLE;LARGE BLUE CIRCLE;LARGE ORANGE DIAMOND;LARGE BLUE DIAMOND",
  "1f538=SMALL ORANGE DIAMOND;SMALL BLUE DIAMOND;UP-POINTING RED TRIANGLE",
  "1f53b=DOWN-POINTING RED TRIANGLE;UP-POINTING SMALL RED TRIANGLE",
  "1f53d=DOWN-POINTING SMALL RED TRIANGLE;LOWER RIGHT SHADOWED WHITE CIRCLE",
  "1f53f=UPPER RIGHT SHADOWED WHITE CIRCLE;CIRCLED CROSS POMMEE",
  "1f541=CROSS POMMEE WITH HALF-CIRCLE BELOW;CROSS POMMEE",
  "1f543=NOTCHED LEFT SEMICIRCLE WITH THREE DOTS;NOTCHED RIGHT SEMICIRCLE WITH THREE DOTS",
  "1f545=SYMBOL FOR MARKS CHAPTER;WHITE LATIN CROSS;HEAVY LATIN CROSS;CELTIC CROSS;OM SYMBOL",
  "1f54a=DOVE OF PEACE;KAABA;MOSQUE;SYNAGOGUE;MENORAH WITH NINE BRANCHES;BOWL OF HYGIEIA",
  "1f550=CLOCK FACE ONE OCLOCK;CLOCK FACE TWO OCLOCK;CLOCK FACE THREE OCLOCK",
  "1f553=CLOCK FACE FOUR OCLOCK;CLOCK FACE FIVE OCLOCK;CLOCK FACE SIX OCLOCK",
  "1f556=CLOCK FACE SEVEN OCLOCK;CLOCK FACE EIGHT OCLOCK;CLOCK FACE NINE OCLOCK",
  "1f559=CLOCK FACE TEN OCLOCK;CLOCK FACE ELEVEN OCLOCK;CLOCK FACE TWELVE OCLOCK",
  "1f55c=CLOCK FACE ONE-THIRTY;CLOCK FACE TWO-THIRTY;CLOCK FACE THREE-THIRTY",
  "1f55f=CLOCK FACE FOUR-THIRTY;CLOCK FACE FIVE-THIRTY;CLOCK FACE SIX-THIRTY",
  "1f562=CLOCK FACE SEVEN-THIRTY;CLOCK FACE EIGHT-THIRTY;CLOCK FACE NINE-THIRTY",
  "1f565=CLOCK FACE TEN-THIRTY;CLOCK FACE ELEVEN-THIRTY;CLOCK FACE TWELVE-THIRTY;RIGHT SPEAKER",
  "1f569=RIGHT SPEAKER WITH ONE SOUND WAVE;RIGHT SPEAKER WITH THREE SOUND WAVES;BULLHORN",
  "1f56c=BULLHORN WITH SOUND WAVES;RINGING BELL;BOOK;CANDLE;MANTELPIECE CLOCK",
  "1f571=BLACK SKULL AND CROSSBONES;NO PIRACY;HOLE;MAN IN BUSINESS SUIT LEVITATING",
  "1f575=SLEUTH OR SPY;DARK SUNGLASSES;SPIDER;SPIDER WEB;JOYSTICK;MAN DANCING",
  "1f57b=LEFT HAND TELEPHONE RECEIVER;TELEPHONE RECEIVER WITH PAGE",
  "1f57d=RIGHT HAND TELEPHONE RECEIVER;WHITE TOUCHTONE TELEPHONE;BLACK TOUCHTONE TELEPHONE",
  "1f580=TELEPHONE ON TOP OF MODEM;CLAMSHELL MOBILE PHONE;BACK OF ENVELOPE;STAMPED ENVELOPE",
  "1f584=ENVELOPE WITH LIGHTNING;FLYING ENVELOPE;PEN OVER STAMPED ENVELOPE;LINKED PAPERCLIPS",
  "1f588=BLACK PUSHPIN;LOWER LEFT PENCIL;LOWER LEFT BALLPOINT PEN;LOWER LEFT FOUNTAIN PEN",
  "1f58c=LOWER LEFT PAINTBRUSH;LOWER LEFT CRAYON;LEFT WRITING HAND;TURNED OK HAND SIGN",
  "1f590=RAISED HAND WITH FINGERS SPLAYED;REVERSED RAISED HAND WITH FINGERS SPLAYED",
  "1f592=REVERSED THUMBS UP SIGN;REVERSED THUMBS DOWN SIGN;REVERSED VICTORY HAND",
  "1f595=REVERSED HAND WITH MIDDLE FINGER EXTENDED",
  "1f596=RAISED HAND WITH PART BETWEEN MIDDLE AND RING FINGERS",
  "1f597=WHITE DOWN POINTING LEFT HAND INDEX;SIDEWAYS WHITE LEFT POINTING INDEX",
  "1f599=SIDEWAYS WHITE RIGHT POINTING INDEX;SIDEWAYS BLACK LEFT POINTING INDEX",
  "1f59b=SIDEWAYS BLACK RIGHT POINTING INDEX;BLACK LEFT POINTING BACKHAND INDEX",
  "1f59d=BLACK RIGHT POINTING BACKHAND INDEX;SIDEWAYS WHITE UP POINTING INDEX",
  "1f59f=SIDEWAYS WHITE DOWN POINTING INDEX;SIDEWAYS BLACK UP POINTING INDEX",
  "1f5a1=SIDEWAYS BLACK DOWN POINTING INDEX;BLACK UP POINTING BACKHAND INDEX",
  "1f5a3=BLACK DOWN POINTING BACKHAND INDEX;BLACK HEART;DESKTOP COMPUTER;KEYBOARD AND MOUSE",
  "1f5a7=THREE NETWORKED COMPUTERS;PRINTER;POCKET CALCULATOR;BLACK HARD SHELL FLOPPY DISK",
  "1f5ab=WHITE HARD SHELL FLOPPY DISK;SOFT SHELL FLOPPY DISK;TAPE CARTRIDGE;WIRED KEYBOARD",
  "1f5af=ONE BUTTON MOUSE;TWO BUTTON MOUSE;THREE BUTTON MOUSE;TRACKBALL;OLD PERSONAL COMPUTER",
  "1f5b4=HARD DISK;SCREEN;PRINTER ICON;FAX ICON;OPTICAL DISC ICON;DOCUMENT WITH TEXT",
  "1f5ba=DOCUMENT WITH TEXT AND PICTURE;DOCUMENT WITH PICTURE;FRAME WITH PICTURE",
  "1f5bd=FRAME WITH TILES;FRAME WITH AN X;BLACK FOLDER;FOLDER;OPEN FOLDER;CARD INDEX DIVIDERS",
  "1f5c3=CARD FILE BOX;FILE CABINET;EMPTY NOTE;EMPTY NOTE PAGE;EMPTY NOTE PAD;NOTE;NOTE PAGE",
  "1f5ca=NOTE PAD;EMPTY DOCUMENT;EMPTY PAGE;EMPTY PAGES;DOCUMENT;PAGE;PAGES;WASTEBASKET",
  "1f5d2=SPIRAL NOTE PAD;SPIRAL CALENDAR PAD;DESKTOP WINDOW;MINIMIZE;MAXIMIZE;OVERLAP",
  "1f5d8=CLOCKWISE RIGHT AND LEFT SEMICIRCLE ARROWS;CANCELLATION X;INCREASE FONT SIZE SYMBOL",
  "1f5db=DECREASE FONT SIZE SYMBOL;COMPRESSION;OLD KEY;ROLLED-UP NEWSPAPER",
  "1f5df=PAGE WITH CIRCLED TEXT;STOCK CHART;DAGGER KNIFE;LIPS;SPEAKING HEAD IN SILHOUETTE",
  "1f5e4=THREE RAYS ABOVE;THREE RAYS BELOW;THREE RAYS LEFT;THREE RAYS RIGHT;LEFT SPEECH BUBBLE",
  "1f5e9=RIGHT SPEECH BUBBLE;TWO SPEECH BUBBLES;THREE SPEECH BUBBLES;LEFT THOUGHT BUBBLE",
  "1f5ed=RIGHT THOUGHT BUBBLE;LEFT ANGER BUBBLE;RIGHT ANGER BUBBLE;MOOD BUBBLE",
  "1f5f1=LIGHTNING MOOD BUBBLE;LIGHTNING MOOD;BALLOT BOX WITH BALLOT;BALLOT SCRIPT X",
  "1f5f5=BALLOT BOX WITH SCRIPT X;BALLOT BOLD SCRIPT X;BALLOT BOX WITH BOLD SCRIPT X",
  "1f5f8=LIGHT CHECK MARK;BALLOT BOX WITH BOLD CHECK;WORLD MAP;MOUNT FUJI;TOKYO TOWER",
  "1f5fd=STATUE OF LIBERTY;SILHOUETTE OF JAPAN;MOYAI;GRINNING FACE",
  "1f601=GRINNING FACE WITH SMILING EYES;FACE WITH TEARS OF JOY;SMILING FACE WITH OPEN MOUTH",
  "1f604=SMILING FACE WITH OPEN MOUTH AND SMILING EYES",
  "1f605=SMILING FACE WITH OPEN MOUTH AND COLD SWEAT",
  "1f606=SMILING FACE WITH OPEN MOUTH AND TIGHTLY-CLOSED EYES;SMILING FACE WITH HALO",
  "1f608=SMILING FACE WITH HORNS;WINKING FACE;SMILING FACE WITH SMILING EYES",
  "1f60b=FACE SAVOURING DELICIOUS FOOD;RELIEVED FACE;SMILING FACE WITH HEART-SHAPED EYES",
  "1f60e=SMILING FACE WITH SUNGLASSES;SMIRKING FACE;NEUTRAL FACE;EXPRESSIONLESS FACE",
  "1f612=UNAMUSED FACE;FACE WITH COLD SWEAT;PENSIVE FACE;CONFUSED FACE;CONFOUNDED FACE",
  "1f617=KISSING FACE;FACE THROWING A KISS;KISSING FACE WITH SMILING EYES",
  "1f61a=KISSING FACE WITH CLOSED EYES;FACE WITH STUCK-OUT TONGUE",
  "1f61c=FACE WITH STUCK-OUT TONGUE AND WINKING EYE",
  "1f61d=FACE WITH STUCK-OUT TONGUE AND TIGHTLY-CLOSED EYES;DISAPPOINTED FACE;WORRIED FACE",
  "1f620=ANGRY FACE;POUTING FACE;CRYING FACE;PERSEVERING FACE;FACE WITH LOOK OF TRIUMPH",
  "1f625=DISAPPOINTED BUT RELIEVED FACE;FROWNING FACE WITH OPEN MOUTH;ANGUISHED FACE",
  "1f628=FEARFUL FACE;WEARY FACE;SLEEPY FACE;TIRED FACE;GRIMACING FACE;LOUDLY CRYING FACE",
  "1f62e=FACE WITH OPEN MOUTH;HUSHED FACE;FACE WITH OPEN MOUTH AND COLD SWEAT",
  "1f631=FACE SCREAMING IN FEAR;ASTONISHED FACE;FLUSHED FACE;SLEEPING FACE;DIZZY FACE",
  "1f636=FACE WITHOUT MOUTH;FACE WITH MEDICAL MASK;GRINNING CAT FACE WITH SMILING EYES",
  "1f639=CAT FACE WITH TEARS OF JOY;SMILING CAT FACE WITH OPEN MOUTH",
  "1f63b=SMILING CAT FACE WITH HEART-SHAPED EYES;CAT FACE WITH WRY SMILE",
  "1f63d=KISSING CAT FACE WITH CLOSED EYES;POUTING CAT FACE;CRYING CAT FACE;WEARY CAT FACE",
  "1f641=SLIGHTLY FROWNING FACE;SLIGHTLY SMILING FACE;UPSIDE-DOWN FACE;FACE WITH ROLLING EYES",
  "1f645=FACE WITH NO GOOD GESTURE;FACE WITH OK GESTURE;PERSON BOWING DEEPLY;SEE-NO-EVIL MONKEY",
  "1f649=HEAR-NO-EVIL MONKEY;SPEAK-NO-EVIL MONKEY;HAPPY PERSON RAISING ONE HAND",
  "1f64c=PERSON RAISING BOTH HANDS IN CELEBRATION;PERSON FROWNING;PERSON WITH POUTING FACE",
  "1f64f=PERSON WITH FOLDED HANDS",
  "0=NULL",
  "0=NUL",
  "1=START OF HEADING",
  "1=SOH",
  "2=START OF TEXT",
  "2=STX",
  "3=END OF TEXT",
  "3=ETX",
  "4=END OF TRANSMISSION",
  "4=EOT",
  "5=ENQUIRY",
  "5=ENQ",
  "6=ACKNOWLEDGE",
  "6=ACK",
  "7=ALERT",
  "7=BEL",
  "8=BACKSPACE",
  "8=BS",
  "9=CHARACTER TABULATION",
  "9=HORIZONTAL TABULATION",
  "9=HT",
  "9=TAB",
  "a=LINE FEED",
  "a=NEW LINE",
  "a=END OF LINE",
  "a=LF",
  "a=NL",
  "a=EOL",
  "b=LINE TABULATION",
  "b=VERTICAL TABULATION",
  "b=VT",
  "c=FORM FEED",
  "c=FF",
  "d=CARRIAGE RETURN",
  "d=CR",
  "e=SHIFT OUT",
  "e=LOCKING-SHIFT ONE",
  "e=SO",
  "f=SHIFT IN",
  "f=LOCKING-SHIFT ZERO",
  "f=SI",
  "10=DATA LINK ESCAPE",
  "10=DLE",
  "11=DEVICE CONTROL ONE",
  "11=DC1",
  "12=DEVICE CONTROL TWO",
  "12=DC2",
  "13=DEVICE CONTROL THREE",
  "13=DC3",
  "14=DEVICE CONTROL FOUR",
  "14=DC4",
  "15=NEGATIVE ACKNOWLEDGE",
  "15=NAK",
  "16=SYNCHRONOUS IDLE",
  "16=SYN",
  "17=END OF TRANSMISSION BLOCK",
  "17=ETB",
  "18=CANCEL",
  "18=CAN",
  "19=END OF MEDIUM",
  "19=EOM",
  "1a=SUBSTITUTE",
  "1a=SUB",
  "1b=ESCAPE",
  "1b=ESC",
  "1c=INFORMATION SEPARATOR FOUR",
  "1c=FILE SEPARATOR",
  "1c=FS",
  "1d=INFORMATION SEPARATOR THREE",
  "1d=GROUP SEPARATOR",
  "1d=GS",
  "1e=INFORMATION SEPARATOR TWO",
  "1e=RECORD SEPARATOR",
  "1e=RS",
  "1f=INFORMATION SEPARATOR ONE",
  "1f=UNIT SEPARATOR",
  "1f=US",
  "20=SP",
  "7f=DELETE",
  "7f=DEL",
  "80=PADDING CHARACTER",
  "80=PAD",
  "81=HIGH OCTET PRESET",
  "81=HOP",
  "82=BREAK PERMITTED HERE",
  "82=BPH",
  "83=NO BREAK HERE",
  "83=NBH",
  "84=INDEX",
  "84=IND",
  "85=NEXT LINE",
  "85=NEL",
  "86=START OF SELECTED AREA",
  "86=SSA",
  "87=END OF SELECTED AREA",
  "87=ESA",
  "a0=NBSP",
  "ad=SHY",
  "34f=CGJ",
  "200b=ZWSP",
  "200c=ZWNJ",
  "200d=ZWJ",
  "200e=LRM",
  "200f=RLM",
  "202a=LRE",
  "202b=RLE",
  "202c=PDF",
  "202d=LRO",
  "202e=RLO",
  "202f=NNBSP",
  "205f=MMSP",
  "2060=WJ",
  "2066=LRI",
  "2067=RLI",
  "2068=FSI",
  "2069=PDI",
  "feff=BOM",
  "feff=ZWNBSP",
  "feff=BYTE ORDER MARK",
  "9c=STRING TERMINATOR",
  "9c=ST",
  "9b=CONTROL SEQUENCE INTRODUCER",
  "9b=CSI",
  "9d=OPERATING SYSTEM COMMAND",
  "9d=OSC"]

end LivePreview.Text
