import WorkflowDocs.Text.CharacterName.Block

/-!
# Names of letters

The Latin, Greek and Cyrillic alphabets with their punctuation, and the marks that combine with
a letter.

## Main definitions

* `latinNames`: Latin letters, digits and punctuation
* `markNames`: combining marks
* `greekNames`: Greek letters
* `cyrillicNames`: Cyrillic letters
* `otherLetterNames`: letters of other scripts
-/

namespace WorkflowDocs.Text

/-- The names of Latin letters, digits and punctuation. -/
def latinNames : List NameBlock :=
  [⟨0x20, "SPACE, EXCLAMATION MARK, QUOTATION MARK, NUMBER SIGN, DOLLAR SIGN, PERCENT SIGN
AMPERSAND, APOSTROPHE, LEFT PARENTHESIS, RIGHT PARENTHESIS, ASTERISK, PLUS SIGN, COMMA
HYPHEN-MINUS, FULL STOP, SOLIDUS, DIGIT ZERO, DIGIT ONE, DIGIT TWO, DIGIT THREE, DIGIT FOUR
DIGIT FIVE, DIGIT SIX, DIGIT SEVEN, DIGIT EIGHT, DIGIT NINE, COLON, SEMICOLON, LESS-THAN SIGN
EQUALS SIGN, GREATER-THAN SIGN, QUESTION MARK, COMMERCIAL AT, LATIN CAPITAL LETTER A
LATIN CAPITAL LETTER B, LATIN CAPITAL LETTER C, LATIN CAPITAL LETTER D, LATIN CAPITAL LETTER E
LATIN CAPITAL LETTER F, LATIN CAPITAL LETTER G, LATIN CAPITAL LETTER H, LATIN CAPITAL LETTER I
LATIN CAPITAL LETTER J, LATIN CAPITAL LETTER K, LATIN CAPITAL LETTER L, LATIN CAPITAL LETTER M
LATIN CAPITAL LETTER N, LATIN CAPITAL LETTER O, LATIN CAPITAL LETTER P, LATIN CAPITAL LETTER Q
LATIN CAPITAL LETTER R, LATIN CAPITAL LETTER S, LATIN CAPITAL LETTER T, LATIN CAPITAL LETTER U
LATIN CAPITAL LETTER V, LATIN CAPITAL LETTER W, LATIN CAPITAL LETTER X, LATIN CAPITAL LETTER Y
LATIN CAPITAL LETTER Z, LEFT SQUARE BRACKET, REVERSE SOLIDUS, RIGHT SQUARE BRACKET
CIRCUMFLEX ACCENT, LOW LINE, GRAVE ACCENT, LATIN SMALL LETTER A, LATIN SMALL LETTER B
LATIN SMALL LETTER C, LATIN SMALL LETTER D, LATIN SMALL LETTER E, LATIN SMALL LETTER F
LATIN SMALL LETTER G, LATIN SMALL LETTER H, LATIN SMALL LETTER I, LATIN SMALL LETTER J
LATIN SMALL LETTER K, LATIN SMALL LETTER L, LATIN SMALL LETTER M, LATIN SMALL LETTER N
LATIN SMALL LETTER O, LATIN SMALL LETTER P, LATIN SMALL LETTER Q, LATIN SMALL LETTER R
LATIN SMALL LETTER S, LATIN SMALL LETTER T, LATIN SMALL LETTER U, LATIN SMALL LETTER V
LATIN SMALL LETTER W, LATIN SMALL LETTER X, LATIN SMALL LETTER Y, LATIN SMALL LETTER Z
LEFT CURLY BRACKET, VERTICAL LINE, RIGHT CURLY BRACKET, TILDE"⟩,
    ⟨0xA0, "NO-BREAK SPACE, INVERTED EXCLAMATION MARK, CENT SIGN, POUND SIGN, CURRENCY SIGN
YEN SIGN, BROKEN BAR, SECTION SIGN, DIAERESIS"⟩,
    ⟨0xAA, "FEMININE ORDINAL INDICATOR, LEFT-POINTING DOUBLE ANGLE QUOTATION MARK, NOT SIGN
SOFT HYPHEN, REGISTERED SIGN, MACRON, DEGREE SIGN, PLUS-MINUS SIGN, SUPERSCRIPT TWO
SUPERSCRIPT THREE, ACUTE ACCENT, MICRO SIGN, PILCROW SIGN, MIDDLE DOT, CEDILLA, SUPERSCRIPT ONE
MASCULINE ORDINAL INDICATOR, RIGHT-POINTING DOUBLE ANGLE QUOTATION MARK
VULGAR FRACTION ONE QUARTER, VULGAR FRACTION ONE HALF, VULGAR FRACTION THREE QUARTERS
INVERTED QUESTION MARK, LATIN CAPITAL LETTER A WITH GRAVE, LATIN CAPITAL LETTER A WITH ACUTE
LATIN CAPITAL LETTER A WITH CIRCUMFLEX, LATIN CAPITAL LETTER A WITH TILDE
LATIN CAPITAL LETTER A WITH DIAERESIS, LATIN CAPITAL LETTER A WITH RING ABOVE
LATIN CAPITAL LETTER AE, LATIN CAPITAL LETTER C WITH CEDILLA, LATIN CAPITAL LETTER E WITH GRAVE
LATIN CAPITAL LETTER E WITH ACUTE, LATIN CAPITAL LETTER E WITH CIRCUMFLEX
LATIN CAPITAL LETTER E WITH DIAERESIS, LATIN CAPITAL LETTER I WITH GRAVE
LATIN CAPITAL LETTER I WITH ACUTE, LATIN CAPITAL LETTER I WITH CIRCUMFLEX
LATIN CAPITAL LETTER I WITH DIAERESIS, LATIN CAPITAL LETTER ETH
LATIN CAPITAL LETTER N WITH TILDE, LATIN CAPITAL LETTER O WITH GRAVE
LATIN CAPITAL LETTER O WITH ACUTE, LATIN CAPITAL LETTER O WITH CIRCUMFLEX
LATIN CAPITAL LETTER O WITH TILDE, LATIN CAPITAL LETTER O WITH DIAERESIS, MULTIPLICATION SIGN
LATIN CAPITAL LETTER O WITH STROKE, LATIN CAPITAL LETTER U WITH GRAVE
LATIN CAPITAL LETTER U WITH ACUTE, LATIN CAPITAL LETTER U WITH CIRCUMFLEX
LATIN CAPITAL LETTER U WITH DIAERESIS, LATIN CAPITAL LETTER Y WITH ACUTE
LATIN CAPITAL LETTER THORN, LATIN SMALL LETTER SHARP S, LATIN SMALL LETTER A WITH GRAVE
LATIN SMALL LETTER A WITH ACUTE, LATIN SMALL LETTER A WITH CIRCUMFLEX
LATIN SMALL LETTER A WITH TILDE, LATIN SMALL LETTER A WITH DIAERESIS
LATIN SMALL LETTER A WITH RING ABOVE, LATIN SMALL LETTER AE, LATIN SMALL LETTER C WITH CEDILLA
LATIN SMALL LETTER E WITH GRAVE, LATIN SMALL LETTER E WITH ACUTE
LATIN SMALL LETTER E WITH CIRCUMFLEX, LATIN SMALL LETTER E WITH DIAERESIS
LATIN SMALL LETTER I WITH GRAVE, LATIN SMALL LETTER I WITH ACUTE
LATIN SMALL LETTER I WITH CIRCUMFLEX, LATIN SMALL LETTER I WITH DIAERESIS
LATIN SMALL LETTER ETH, LATIN SMALL LETTER N WITH TILDE, LATIN SMALL LETTER O WITH GRAVE
LATIN SMALL LETTER O WITH ACUTE, LATIN SMALL LETTER O WITH CIRCUMFLEX
LATIN SMALL LETTER O WITH TILDE, LATIN SMALL LETTER O WITH DIAERESIS, DIVISION SIGN
LATIN SMALL LETTER O WITH STROKE, LATIN SMALL LETTER U WITH GRAVE
LATIN SMALL LETTER U WITH ACUTE, LATIN SMALL LETTER U WITH CIRCUMFLEX
LATIN SMALL LETTER U WITH DIAERESIS, LATIN SMALL LETTER Y WITH ACUTE, LATIN SMALL LETTER THORN
LATIN SMALL LETTER Y WITH DIAERESIS, LATIN CAPITAL LETTER A WITH MACRON
LATIN SMALL LETTER A WITH MACRON, LATIN CAPITAL LETTER A WITH BREVE
LATIN SMALL LETTER A WITH BREVE, LATIN CAPITAL LETTER A WITH OGONEK
LATIN SMALL LETTER A WITH OGONEK, LATIN CAPITAL LETTER C WITH ACUTE
LATIN SMALL LETTER C WITH ACUTE, LATIN CAPITAL LETTER C WITH CIRCUMFLEX
LATIN SMALL LETTER C WITH CIRCUMFLEX, LATIN CAPITAL LETTER C WITH DOT ABOVE
LATIN SMALL LETTER C WITH DOT ABOVE, LATIN CAPITAL LETTER C WITH CARON
LATIN SMALL LETTER C WITH CARON, LATIN CAPITAL LETTER D WITH CARON
LATIN SMALL LETTER D WITH CARON, LATIN CAPITAL LETTER D WITH STROKE
LATIN SMALL LETTER D WITH STROKE, LATIN CAPITAL LETTER E WITH MACRON
LATIN SMALL LETTER E WITH MACRON, LATIN CAPITAL LETTER E WITH BREVE
LATIN SMALL LETTER E WITH BREVE, LATIN CAPITAL LETTER E WITH DOT ABOVE
LATIN SMALL LETTER E WITH DOT ABOVE, LATIN CAPITAL LETTER E WITH OGONEK
LATIN SMALL LETTER E WITH OGONEK, LATIN CAPITAL LETTER E WITH CARON
LATIN SMALL LETTER E WITH CARON, LATIN CAPITAL LETTER G WITH CIRCUMFLEX
LATIN SMALL LETTER G WITH CIRCUMFLEX, LATIN CAPITAL LETTER G WITH BREVE
LATIN SMALL LETTER G WITH BREVE, LATIN CAPITAL LETTER G WITH DOT ABOVE
LATIN SMALL LETTER G WITH DOT ABOVE, LATIN CAPITAL LETTER G WITH CEDILLA
LATIN SMALL LETTER G WITH CEDILLA, LATIN CAPITAL LETTER H WITH CIRCUMFLEX
LATIN SMALL LETTER H WITH CIRCUMFLEX, LATIN CAPITAL LETTER H WITH STROKE
LATIN SMALL LETTER H WITH STROKE, LATIN CAPITAL LETTER I WITH TILDE
LATIN SMALL LETTER I WITH TILDE, LATIN CAPITAL LETTER I WITH MACRON
LATIN SMALL LETTER I WITH MACRON, LATIN CAPITAL LETTER I WITH BREVE
LATIN SMALL LETTER I WITH BREVE, LATIN CAPITAL LETTER I WITH OGONEK
LATIN SMALL LETTER I WITH OGONEK, LATIN CAPITAL LETTER I WITH DOT ABOVE
LATIN SMALL LETTER DOTLESS I, LATIN CAPITAL LIGATURE IJ, LATIN SMALL LIGATURE IJ
LATIN CAPITAL LETTER J WITH CIRCUMFLEX, LATIN SMALL LETTER J WITH CIRCUMFLEX
LATIN CAPITAL LETTER K WITH CEDILLA, LATIN SMALL LETTER K WITH CEDILLA, LATIN SMALL LETTER KRA
LATIN CAPITAL LETTER L WITH ACUTE, LATIN SMALL LETTER L WITH ACUTE
LATIN CAPITAL LETTER L WITH CEDILLA, LATIN SMALL LETTER L WITH CEDILLA
LATIN CAPITAL LETTER L WITH CARON, LATIN SMALL LETTER L WITH CARON
LATIN CAPITAL LETTER L WITH MIDDLE DOT, LATIN SMALL LETTER L WITH MIDDLE DOT
LATIN CAPITAL LETTER L WITH STROKE, LATIN SMALL LETTER L WITH STROKE
LATIN CAPITAL LETTER N WITH ACUTE, LATIN SMALL LETTER N WITH ACUTE
LATIN CAPITAL LETTER N WITH CEDILLA, LATIN SMALL LETTER N WITH CEDILLA
LATIN CAPITAL LETTER N WITH CARON, LATIN SMALL LETTER N WITH CARON
LATIN SMALL LETTER N PRECEDED BY APOSTROPHE, LATIN CAPITAL LETTER ENG, LATIN SMALL LETTER ENG
LATIN CAPITAL LETTER O WITH MACRON, LATIN SMALL LETTER O WITH MACRON
LATIN CAPITAL LETTER O WITH BREVE, LATIN SMALL LETTER O WITH BREVE
LATIN CAPITAL LETTER O WITH DOUBLE ACUTE, LATIN SMALL LETTER O WITH DOUBLE ACUTE
LATIN CAPITAL LIGATURE OE, LATIN SMALL LIGATURE OE, LATIN CAPITAL LETTER R WITH ACUTE
LATIN SMALL LETTER R WITH ACUTE, LATIN CAPITAL LETTER R WITH CEDILLA
LATIN SMALL LETTER R WITH CEDILLA, LATIN CAPITAL LETTER R WITH CARON
LATIN SMALL LETTER R WITH CARON, LATIN CAPITAL LETTER S WITH ACUTE
LATIN SMALL LETTER S WITH ACUTE, LATIN CAPITAL LETTER S WITH CIRCUMFLEX
LATIN SMALL LETTER S WITH CIRCUMFLEX, LATIN CAPITAL LETTER S WITH CEDILLA
LATIN SMALL LETTER S WITH CEDILLA, LATIN CAPITAL LETTER S WITH CARON
LATIN SMALL LETTER S WITH CARON, LATIN CAPITAL LETTER T WITH CEDILLA
LATIN SMALL LETTER T WITH CEDILLA, LATIN CAPITAL LETTER T WITH CARON
LATIN SMALL LETTER T WITH CARON, LATIN CAPITAL LETTER T WITH STROKE
LATIN SMALL LETTER T WITH STROKE, LATIN CAPITAL LETTER U WITH TILDE
LATIN SMALL LETTER U WITH TILDE, LATIN CAPITAL LETTER U WITH MACRON
LATIN SMALL LETTER U WITH MACRON, LATIN CAPITAL LETTER U WITH BREVE
LATIN SMALL LETTER U WITH BREVE, LATIN CAPITAL LETTER U WITH RING ABOVE
LATIN SMALL LETTER U WITH RING ABOVE, LATIN CAPITAL LETTER U WITH DOUBLE ACUTE
LATIN SMALL LETTER U WITH DOUBLE ACUTE, LATIN CAPITAL LETTER U WITH OGONEK
LATIN SMALL LETTER U WITH OGONEK, LATIN CAPITAL LETTER W WITH CIRCUMFLEX
LATIN SMALL LETTER W WITH CIRCUMFLEX, LATIN CAPITAL LETTER Y WITH CIRCUMFLEX
LATIN SMALL LETTER Y WITH CIRCUMFLEX, LATIN CAPITAL LETTER Y WITH DIAERESIS
LATIN CAPITAL LETTER Z WITH ACUTE, LATIN SMALL LETTER Z WITH ACUTE
LATIN CAPITAL LETTER Z WITH DOT ABOVE, LATIN SMALL LETTER Z WITH DOT ABOVE
LATIN CAPITAL LETTER Z WITH CARON, LATIN SMALL LETTER Z WITH CARON, LATIN SMALL LETTER LONG S
LATIN SMALL LETTER B WITH STROKE, LATIN CAPITAL LETTER B WITH HOOK
LATIN CAPITAL LETTER B WITH TOPBAR, LATIN SMALL LETTER B WITH TOPBAR
LATIN CAPITAL LETTER TONE SIX, LATIN SMALL LETTER TONE SIX, LATIN CAPITAL LETTER OPEN O
LATIN CAPITAL LETTER C WITH HOOK, LATIN SMALL LETTER C WITH HOOK
LATIN CAPITAL LETTER AFRICAN D, LATIN CAPITAL LETTER D WITH HOOK
LATIN CAPITAL LETTER D WITH TOPBAR, LATIN SMALL LETTER D WITH TOPBAR
LATIN SMALL LETTER TURNED DELTA, LATIN CAPITAL LETTER REVERSED E, LATIN CAPITAL LETTER SCHWA
LATIN CAPITAL LETTER OPEN E, LATIN CAPITAL LETTER F WITH HOOK, LATIN SMALL LETTER F WITH HOOK
LATIN CAPITAL LETTER G WITH HOOK, LATIN CAPITAL LETTER GAMMA, LATIN SMALL LETTER HV
LATIN CAPITAL LETTER IOTA, LATIN CAPITAL LETTER I WITH STROKE, LATIN CAPITAL LETTER K WITH HOOK
LATIN SMALL LETTER K WITH HOOK, LATIN SMALL LETTER L WITH BAR
LATIN SMALL LETTER LAMBDA WITH STROKE, LATIN CAPITAL LETTER TURNED M
LATIN CAPITAL LETTER N WITH LEFT HOOK, LATIN SMALL LETTER N WITH LONG RIGHT LEG
LATIN CAPITAL LETTER O WITH MIDDLE TILDE, LATIN CAPITAL LETTER O WITH HORN
LATIN SMALL LETTER O WITH HORN, LATIN CAPITAL LETTER OI, LATIN SMALL LETTER OI
LATIN CAPITAL LETTER P WITH HOOK, LATIN SMALL LETTER P WITH HOOK, LATIN LETTER YR
LATIN CAPITAL LETTER TONE TWO, LATIN SMALL LETTER TONE TWO, LATIN CAPITAL LETTER ESH
LATIN LETTER REVERSED ESH LOOP, LATIN SMALL LETTER T WITH PALATAL HOOK
LATIN CAPITAL LETTER T WITH HOOK, LATIN SMALL LETTER T WITH HOOK
LATIN CAPITAL LETTER T WITH RETROFLEX HOOK, LATIN CAPITAL LETTER U WITH HORN
LATIN SMALL LETTER U WITH HORN, LATIN CAPITAL LETTER UPSILON, LATIN CAPITAL LETTER V WITH HOOK
LATIN CAPITAL LETTER Y WITH HOOK, LATIN SMALL LETTER Y WITH HOOK
LATIN CAPITAL LETTER Z WITH STROKE, LATIN SMALL LETTER Z WITH STROKE, LATIN CAPITAL LETTER EZH
LATIN CAPITAL LETTER EZH REVERSED, LATIN SMALL LETTER EZH REVERSED
LATIN SMALL LETTER EZH WITH TAIL, LATIN LETTER TWO WITH STROKE, LATIN CAPITAL LETTER TONE FIVE
LATIN SMALL LETTER TONE FIVE, LATIN LETTER INVERTED GLOTTAL STOP WITH STROKE, LATIN LETTER WYNN
LATIN LETTER DENTAL CLICK, LATIN LETTER LATERAL CLICK, LATIN LETTER ALVEOLAR CLICK
LATIN LETTER RETROFLEX CLICK, LATIN CAPITAL LETTER DZ WITH CARON
LATIN CAPITAL LETTER D WITH SMALL LETTER Z WITH CARON, LATIN SMALL LETTER DZ WITH CARON
LATIN CAPITAL LETTER LJ, LATIN CAPITAL LETTER L WITH SMALL LETTER J, LATIN SMALL LETTER LJ
LATIN CAPITAL LETTER NJ, LATIN CAPITAL LETTER N WITH SMALL LETTER J, LATIN SMALL LETTER NJ
LATIN CAPITAL LETTER A WITH CARON, LATIN SMALL LETTER A WITH CARON
LATIN CAPITAL LETTER I WITH CARON, LATIN SMALL LETTER I WITH CARON
LATIN CAPITAL LETTER O WITH CARON, LATIN SMALL LETTER O WITH CARON
LATIN CAPITAL LETTER U WITH CARON, LATIN SMALL LETTER U WITH CARON
LATIN CAPITAL LETTER U WITH DIAERESIS AND MACRON
LATIN SMALL LETTER U WITH DIAERESIS AND MACRON, LATIN CAPITAL LETTER U WITH DIAERESIS AND ACUTE
LATIN SMALL LETTER U WITH DIAERESIS AND ACUTE, LATIN CAPITAL LETTER U WITH DIAERESIS AND CARON
LATIN SMALL LETTER U WITH DIAERESIS AND CARON, LATIN CAPITAL LETTER U WITH DIAERESIS AND GRAVE
LATIN SMALL LETTER U WITH DIAERESIS AND GRAVE, LATIN SMALL LETTER TURNED E
LATIN CAPITAL LETTER A WITH DIAERESIS AND MACRON
LATIN SMALL LETTER A WITH DIAERESIS AND MACRON
LATIN CAPITAL LETTER A WITH DOT ABOVE AND MACRON
LATIN SMALL LETTER A WITH DOT ABOVE AND MACRON, LATIN CAPITAL LETTER AE WITH MACRON
LATIN SMALL LETTER AE WITH MACRON, LATIN CAPITAL LETTER G WITH STROKE
LATIN SMALL LETTER G WITH STROKE, LATIN CAPITAL LETTER G WITH CARON
LATIN SMALL LETTER G WITH CARON, LATIN CAPITAL LETTER K WITH CARON
LATIN SMALL LETTER K WITH CARON, LATIN CAPITAL LETTER O WITH OGONEK
LATIN SMALL LETTER O WITH OGONEK, LATIN CAPITAL LETTER O WITH OGONEK AND MACRON
LATIN SMALL LETTER O WITH OGONEK AND MACRON, LATIN CAPITAL LETTER EZH WITH CARON
LATIN SMALL LETTER EZH WITH CARON, LATIN SMALL LETTER J WITH CARON, LATIN CAPITAL LETTER DZ
LATIN CAPITAL LETTER D WITH SMALL LETTER Z, LATIN SMALL LETTER DZ
LATIN CAPITAL LETTER G WITH ACUTE, LATIN SMALL LETTER G WITH ACUTE, LATIN CAPITAL LETTER HWAIR
LATIN CAPITAL LETTER WYNN, LATIN CAPITAL LETTER N WITH GRAVE, LATIN SMALL LETTER N WITH GRAVE
LATIN CAPITAL LETTER A WITH RING ABOVE AND ACUTE
LATIN SMALL LETTER A WITH RING ABOVE AND ACUTE, LATIN CAPITAL LETTER AE WITH ACUTE
LATIN SMALL LETTER AE WITH ACUTE, LATIN CAPITAL LETTER O WITH STROKE AND ACUTE
LATIN SMALL LETTER O WITH STROKE AND ACUTE, LATIN CAPITAL LETTER A WITH DOUBLE GRAVE
LATIN SMALL LETTER A WITH DOUBLE GRAVE, LATIN CAPITAL LETTER A WITH INVERTED BREVE
LATIN SMALL LETTER A WITH INVERTED BREVE, LATIN CAPITAL LETTER E WITH DOUBLE GRAVE
LATIN SMALL LETTER E WITH DOUBLE GRAVE, LATIN CAPITAL LETTER E WITH INVERTED BREVE
LATIN SMALL LETTER E WITH INVERTED BREVE, LATIN CAPITAL LETTER I WITH DOUBLE GRAVE
LATIN SMALL LETTER I WITH DOUBLE GRAVE, LATIN CAPITAL LETTER I WITH INVERTED BREVE
LATIN SMALL LETTER I WITH INVERTED BREVE, LATIN CAPITAL LETTER O WITH DOUBLE GRAVE
LATIN SMALL LETTER O WITH DOUBLE GRAVE, LATIN CAPITAL LETTER O WITH INVERTED BREVE
LATIN SMALL LETTER O WITH INVERTED BREVE, LATIN CAPITAL LETTER R WITH DOUBLE GRAVE
LATIN SMALL LETTER R WITH DOUBLE GRAVE, LATIN CAPITAL LETTER R WITH INVERTED BREVE
LATIN SMALL LETTER R WITH INVERTED BREVE, LATIN CAPITAL LETTER U WITH DOUBLE GRAVE
LATIN SMALL LETTER U WITH DOUBLE GRAVE, LATIN CAPITAL LETTER U WITH INVERTED BREVE
LATIN SMALL LETTER U WITH INVERTED BREVE, LATIN CAPITAL LETTER S WITH COMMA BELOW
LATIN SMALL LETTER S WITH COMMA BELOW, LATIN CAPITAL LETTER T WITH COMMA BELOW
LATIN SMALL LETTER T WITH COMMA BELOW, LATIN CAPITAL LETTER YOGH, LATIN SMALL LETTER YOGH
LATIN CAPITAL LETTER H WITH CARON, LATIN SMALL LETTER H WITH CARON
LATIN CAPITAL LETTER N WITH LONG RIGHT LEG, LATIN SMALL LETTER D WITH CURL
LATIN CAPITAL LETTER OU, LATIN SMALL LETTER OU, LATIN CAPITAL LETTER Z WITH HOOK
LATIN SMALL LETTER Z WITH HOOK, LATIN CAPITAL LETTER A WITH DOT ABOVE
LATIN SMALL LETTER A WITH DOT ABOVE, LATIN CAPITAL LETTER E WITH CEDILLA
LATIN SMALL LETTER E WITH CEDILLA, LATIN CAPITAL LETTER O WITH DIAERESIS AND MACRON
LATIN SMALL LETTER O WITH DIAERESIS AND MACRON, LATIN CAPITAL LETTER O WITH TILDE AND MACRON
LATIN SMALL LETTER O WITH TILDE AND MACRON, LATIN CAPITAL LETTER O WITH DOT ABOVE
LATIN SMALL LETTER O WITH DOT ABOVE, LATIN CAPITAL LETTER O WITH DOT ABOVE AND MACRON
LATIN SMALL LETTER O WITH DOT ABOVE AND MACRON, LATIN CAPITAL LETTER Y WITH MACRON
LATIN SMALL LETTER Y WITH MACRON, LATIN SMALL LETTER L WITH CURL
LATIN SMALL LETTER N WITH CURL, LATIN SMALL LETTER T WITH CURL, LATIN SMALL LETTER DOTLESS J
LATIN SMALL LETTER DB DIGRAPH, LATIN SMALL LETTER QP DIGRAPH
LATIN CAPITAL LETTER A WITH STROKE, LATIN CAPITAL LETTER C WITH STROKE
LATIN SMALL LETTER C WITH STROKE, LATIN CAPITAL LETTER L WITH BAR
LATIN CAPITAL LETTER T WITH DIAGONAL STROKE, LATIN SMALL LETTER S WITH SWASH TAIL
LATIN SMALL LETTER Z WITH SWASH TAIL, LATIN CAPITAL LETTER GLOTTAL STOP
LATIN SMALL LETTER GLOTTAL STOP, LATIN CAPITAL LETTER B WITH STROKE, LATIN CAPITAL LETTER U BAR
LATIN CAPITAL LETTER TURNED V, LATIN CAPITAL LETTER E WITH STROKE
LATIN SMALL LETTER E WITH STROKE, LATIN CAPITAL LETTER J WITH STROKE
LATIN SMALL LETTER J WITH STROKE, LATIN CAPITAL LETTER SMALL Q WITH HOOK TAIL
LATIN SMALL LETTER Q WITH HOOK TAIL, LATIN CAPITAL LETTER R WITH STROKE
LATIN SMALL LETTER R WITH STROKE, LATIN CAPITAL LETTER Y WITH STROKE
LATIN SMALL LETTER Y WITH STROKE"⟩]

/-- The names of the marks that combine with a letter. -/
def markNames : List NameBlock :=
  [⟨0x2B0, "MODIFIER LETTER SMALL H, MODIFIER LETTER SMALL H WITH HOOK
MODIFIER LETTER SMALL J, MODIFIER LETTER SMALL R, MODIFIER LETTER SMALL TURNED R
MODIFIER LETTER SMALL TURNED R WITH HOOK, MODIFIER LETTER SMALL CAPITAL INVERTED R
MODIFIER LETTER SMALL W, MODIFIER LETTER SMALL Y, MODIFIER LETTER PRIME
MODIFIER LETTER DOUBLE PRIME, MODIFIER LETTER TURNED COMMA, MODIFIER LETTER APOSTROPHE
MODIFIER LETTER REVERSED COMMA, MODIFIER LETTER RIGHT HALF RING, MODIFIER LETTER LEFT HALF RING
MODIFIER LETTER GLOTTAL STOP, MODIFIER LETTER REVERSED GLOTTAL STOP
MODIFIER LETTER LEFT ARROWHEAD, MODIFIER LETTER RIGHT ARROWHEAD, MODIFIER LETTER UP ARROWHEAD
MODIFIER LETTER DOWN ARROWHEAD, MODIFIER LETTER CIRCUMFLEX ACCENT, CARON
MODIFIER LETTER VERTICAL LINE, MODIFIER LETTER MACRON, MODIFIER LETTER ACUTE ACCENT
MODIFIER LETTER GRAVE ACCENT, MODIFIER LETTER LOW VERTICAL LINE, MODIFIER LETTER LOW MACRON
MODIFIER LETTER LOW GRAVE ACCENT, MODIFIER LETTER LOW ACUTE ACCENT
MODIFIER LETTER TRIANGULAR COLON, MODIFIER LETTER HALF TRIANGULAR COLON
MODIFIER LETTER CENTRED RIGHT HALF RING, MODIFIER LETTER CENTRED LEFT HALF RING
MODIFIER LETTER UP TACK, MODIFIER LETTER DOWN TACK, MODIFIER LETTER PLUS SIGN
MODIFIER LETTER MINUS SIGN, BREVE, DOT ABOVE, RING ABOVE, OGONEK, SMALL TILDE
DOUBLE ACUTE ACCENT, MODIFIER LETTER RHOTIC HOOK, MODIFIER LETTER CROSS ACCENT
MODIFIER LETTER SMALL GAMMA, MODIFIER LETTER SMALL L, MODIFIER LETTER SMALL S
MODIFIER LETTER SMALL X, MODIFIER LETTER SMALL REVERSED GLOTTAL STOP
MODIFIER LETTER EXTRA-HIGH TONE BAR, MODIFIER LETTER HIGH TONE BAR
MODIFIER LETTER MID TONE BAR, MODIFIER LETTER LOW TONE BAR, MODIFIER LETTER EXTRA-LOW TONE BAR
MODIFIER LETTER YIN DEPARTING TONE MARK, MODIFIER LETTER YANG DEPARTING TONE MARK
MODIFIER LETTER VOICING, MODIFIER LETTER UNASPIRATED, MODIFIER LETTER DOUBLE APOSTROPHE
MODIFIER LETTER LOW DOWN ARROWHEAD, MODIFIER LETTER LOW UP ARROWHEAD
MODIFIER LETTER LOW LEFT ARROWHEAD, MODIFIER LETTER LOW RIGHT ARROWHEAD
MODIFIER LETTER LOW RING, MODIFIER LETTER MIDDLE GRAVE ACCENT
MODIFIER LETTER MIDDLE DOUBLE GRAVE ACCENT, MODIFIER LETTER MIDDLE DOUBLE ACUTE ACCENT
MODIFIER LETTER LOW TILDE, MODIFIER LETTER RAISED COLON, MODIFIER LETTER BEGIN HIGH TONE
MODIFIER LETTER END HIGH TONE, MODIFIER LETTER BEGIN LOW TONE, MODIFIER LETTER END LOW TONE
MODIFIER LETTER SHELF, MODIFIER LETTER OPEN SHELF, MODIFIER LETTER LOW LEFT ARROW
COMBINING GRAVE ACCENT, COMBINING ACUTE ACCENT, COMBINING CIRCUMFLEX ACCENT, COMBINING TILDE
COMBINING MACRON, COMBINING OVERLINE, COMBINING BREVE, COMBINING DOT ABOVE, COMBINING DIAERESIS
COMBINING HOOK ABOVE, COMBINING RING ABOVE, COMBINING DOUBLE ACUTE ACCENT, COMBINING CARON
COMBINING VERTICAL LINE ABOVE, COMBINING DOUBLE VERTICAL LINE ABOVE
COMBINING DOUBLE GRAVE ACCENT, COMBINING CANDRABINDU, COMBINING INVERTED BREVE
COMBINING TURNED COMMA ABOVE, COMBINING COMMA ABOVE, COMBINING REVERSED COMMA ABOVE
COMBINING COMMA ABOVE RIGHT, COMBINING GRAVE ACCENT BELOW, COMBINING ACUTE ACCENT BELOW
COMBINING LEFT TACK BELOW, COMBINING RIGHT TACK BELOW, COMBINING LEFT ANGLE ABOVE
COMBINING HORN, COMBINING LEFT HALF RING BELOW, COMBINING UP TACK BELOW
COMBINING DOWN TACK BELOW, COMBINING PLUS SIGN BELOW, COMBINING MINUS SIGN BELOW
COMBINING PALATALIZED HOOK BELOW, COMBINING RETROFLEX HOOK BELOW, COMBINING DOT BELOW
COMBINING DIAERESIS BELOW, COMBINING RING BELOW, COMBINING COMMA BELOW, COMBINING CEDILLA
COMBINING OGONEK, COMBINING VERTICAL LINE BELOW, COMBINING BRIDGE BELOW
COMBINING INVERTED DOUBLE ARCH BELOW, COMBINING CARON BELOW, COMBINING CIRCUMFLEX ACCENT BELOW
COMBINING BREVE BELOW, COMBINING INVERTED BREVE BELOW, COMBINING TILDE BELOW
COMBINING MACRON BELOW, COMBINING LOW LINE, COMBINING DOUBLE LOW LINE, COMBINING TILDE OVERLAY
COMBINING SHORT STROKE OVERLAY, COMBINING LONG STROKE OVERLAY, COMBINING SHORT SOLIDUS OVERLAY
COMBINING LONG SOLIDUS OVERLAY, COMBINING RIGHT HALF RING BELOW
COMBINING INVERTED BRIDGE BELOW, COMBINING SQUARE BELOW, COMBINING SEAGULL BELOW
COMBINING X ABOVE, COMBINING VERTICAL TILDE, COMBINING DOUBLE OVERLINE
COMBINING GRAVE TONE MARK, COMBINING ACUTE TONE MARK, COMBINING GREEK PERISPOMENI
COMBINING GREEK KORONIS, COMBINING GREEK DIALYTIKA TONOS, COMBINING GREEK YPOGEGRAMMENI
COMBINING BRIDGE ABOVE, COMBINING EQUALS SIGN BELOW, COMBINING DOUBLE VERTICAL LINE BELOW
COMBINING LEFT ANGLE BELOW, COMBINING NOT TILDE ABOVE, COMBINING HOMOTHETIC ABOVE
COMBINING ALMOST EQUAL TO ABOVE, COMBINING LEFT RIGHT ARROW BELOW
COMBINING UPWARDS ARROW BELOW, COMBINING GRAPHEME JOINER, COMBINING RIGHT ARROWHEAD ABOVE
COMBINING LEFT HALF RING ABOVE, COMBINING FERMATA, COMBINING X BELOW
COMBINING LEFT ARROWHEAD BELOW, COMBINING RIGHT ARROWHEAD BELOW
COMBINING RIGHT ARROWHEAD AND UP ARROWHEAD BELOW, COMBINING RIGHT HALF RING ABOVE
COMBINING DOT ABOVE RIGHT, COMBINING ASTERISK BELOW, COMBINING DOUBLE RING BELOW
COMBINING ZIGZAG ABOVE, COMBINING DOUBLE BREVE BELOW, COMBINING DOUBLE BREVE
COMBINING DOUBLE MACRON, COMBINING DOUBLE MACRON BELOW, COMBINING DOUBLE TILDE
COMBINING DOUBLE INVERTED BREVE, COMBINING DOUBLE RIGHTWARDS ARROW BELOW
COMBINING LATIN SMALL LETTER A, COMBINING LATIN SMALL LETTER E, COMBINING LATIN SMALL LETTER I
COMBINING LATIN SMALL LETTER O, COMBINING LATIN SMALL LETTER U, COMBINING LATIN SMALL LETTER C
COMBINING LATIN SMALL LETTER D, COMBINING LATIN SMALL LETTER H, COMBINING LATIN SMALL LETTER M
COMBINING LATIN SMALL LETTER R, COMBINING LATIN SMALL LETTER T, COMBINING LATIN SMALL LETTER V
COMBINING LATIN SMALL LETTER X"⟩]

/-- The names of Greek letters. -/
def greekNames : List NameBlock :=
  [⟨0x370, "GREEK CAPITAL LETTER HETA, GREEK SMALL LETTER HETA
GREEK CAPITAL LETTER ARCHAIC SAMPI, GREEK SMALL LETTER ARCHAIC SAMPI, GREEK NUMERAL SIGN
GREEK LOWER NUMERAL SIGN, GREEK CAPITAL LETTER PAMPHYLIAN DIGAMMA
GREEK SMALL LETTER PAMPHYLIAN DIGAMMA"⟩,
    ⟨0x37A, "GREEK YPOGEGRAMMENI, GREEK SMALL REVERSED LUNATE SIGMA SYMBOL
GREEK SMALL DOTTED LUNATE SIGMA SYMBOL, GREEK SMALL REVERSED DOTTED LUNATE SIGMA SYMBOL
GREEK QUESTION MARK, GREEK CAPITAL LETTER YOT"⟩,
    ⟨0x384, "GREEK TONOS, GREEK DIALYTIKA TONOS, GREEK CAPITAL LETTER ALPHA WITH TONOS
GREEK ANO TELEIA, GREEK CAPITAL LETTER EPSILON WITH TONOS, GREEK CAPITAL LETTER ETA WITH TONOS
GREEK CAPITAL LETTER IOTA WITH TONOS"⟩,
    ⟨0x38C, "GREEK CAPITAL LETTER OMICRON WITH TONOS"⟩,
    ⟨0x38E, "GREEK CAPITAL LETTER UPSILON WITH TONOS, GREEK CAPITAL LETTER OMEGA WITH TONOS
GREEK SMALL LETTER IOTA WITH DIALYTIKA AND TONOS, GREEK CAPITAL LETTER ALPHA
GREEK CAPITAL LETTER BETA, GREEK CAPITAL LETTER GAMMA, GREEK CAPITAL LETTER DELTA
GREEK CAPITAL LETTER EPSILON, GREEK CAPITAL LETTER ZETA, GREEK CAPITAL LETTER ETA
GREEK CAPITAL LETTER THETA, GREEK CAPITAL LETTER IOTA, GREEK CAPITAL LETTER KAPPA
GREEK CAPITAL LETTER LAMDA, GREEK CAPITAL LETTER MU, GREEK CAPITAL LETTER NU
GREEK CAPITAL LETTER XI, GREEK CAPITAL LETTER OMICRON, GREEK CAPITAL LETTER PI
GREEK CAPITAL LETTER RHO"⟩,
    ⟨0x3A3, "GREEK CAPITAL LETTER SIGMA, GREEK CAPITAL LETTER TAU, GREEK CAPITAL LETTER UPSILON
GREEK CAPITAL LETTER PHI, GREEK CAPITAL LETTER CHI, GREEK CAPITAL LETTER PSI
GREEK CAPITAL LETTER OMEGA, GREEK CAPITAL LETTER IOTA WITH DIALYTIKA
GREEK CAPITAL LETTER UPSILON WITH DIALYTIKA, GREEK SMALL LETTER ALPHA WITH TONOS
GREEK SMALL LETTER EPSILON WITH TONOS, GREEK SMALL LETTER ETA WITH TONOS
GREEK SMALL LETTER IOTA WITH TONOS, GREEK SMALL LETTER UPSILON WITH DIALYTIKA AND TONOS
GREEK SMALL LETTER ALPHA, GREEK SMALL LETTER BETA, GREEK SMALL LETTER GAMMA
GREEK SMALL LETTER DELTA, GREEK SMALL LETTER EPSILON, GREEK SMALL LETTER ZETA
GREEK SMALL LETTER ETA, GREEK SMALL LETTER THETA, GREEK SMALL LETTER IOTA
GREEK SMALL LETTER KAPPA, GREEK SMALL LETTER LAMDA, GREEK SMALL LETTER MU
GREEK SMALL LETTER NU, GREEK SMALL LETTER XI, GREEK SMALL LETTER OMICRON, GREEK SMALL LETTER PI
GREEK SMALL LETTER RHO, GREEK SMALL LETTER FINAL SIGMA, GREEK SMALL LETTER SIGMA
GREEK SMALL LETTER TAU, GREEK SMALL LETTER UPSILON, GREEK SMALL LETTER PHI
GREEK SMALL LETTER CHI, GREEK SMALL LETTER PSI, GREEK SMALL LETTER OMEGA
GREEK SMALL LETTER IOTA WITH DIALYTIKA, GREEK SMALL LETTER UPSILON WITH DIALYTIKA
GREEK SMALL LETTER OMICRON WITH TONOS, GREEK SMALL LETTER UPSILON WITH TONOS
GREEK SMALL LETTER OMEGA WITH TONOS, GREEK CAPITAL KAI SYMBOL, GREEK BETA SYMBOL
GREEK THETA SYMBOL, GREEK UPSILON WITH HOOK SYMBOL, GREEK UPSILON WITH ACUTE AND HOOK SYMBOL
GREEK UPSILON WITH DIAERESIS AND HOOK SYMBOL, GREEK PHI SYMBOL, GREEK PI SYMBOL
GREEK KAI SYMBOL, GREEK LETTER ARCHAIC KOPPA, GREEK SMALL LETTER ARCHAIC KOPPA
GREEK LETTER STIGMA, GREEK SMALL LETTER STIGMA, GREEK LETTER DIGAMMA
GREEK SMALL LETTER DIGAMMA, GREEK LETTER KOPPA, GREEK SMALL LETTER KOPPA, GREEK LETTER SAMPI
GREEK SMALL LETTER SAMPI, COPTIC CAPITAL LETTER SHEI, COPTIC SMALL LETTER SHEI
COPTIC CAPITAL LETTER FEI, COPTIC SMALL LETTER FEI, COPTIC CAPITAL LETTER KHEI
COPTIC SMALL LETTER KHEI, COPTIC CAPITAL LETTER HORI, COPTIC SMALL LETTER HORI
COPTIC CAPITAL LETTER GANGIA, COPTIC SMALL LETTER GANGIA, COPTIC CAPITAL LETTER SHIMA
COPTIC SMALL LETTER SHIMA, COPTIC CAPITAL LETTER DEI, COPTIC SMALL LETTER DEI
GREEK KAPPA SYMBOL, GREEK RHO SYMBOL, GREEK LUNATE SIGMA SYMBOL, GREEK LETTER YOT
GREEK CAPITAL THETA SYMBOL, GREEK LUNATE EPSILON SYMBOL, GREEK REVERSED LUNATE EPSILON SYMBOL
GREEK CAPITAL LETTER SHO, GREEK SMALL LETTER SHO, GREEK CAPITAL LUNATE SIGMA SYMBOL
GREEK CAPITAL LETTER SAN, GREEK SMALL LETTER SAN, GREEK RHO WITH STROKE SYMBOL
GREEK CAPITAL REVERSED LUNATE SIGMA SYMBOL, GREEK CAPITAL DOTTED LUNATE SIGMA SYMBOL
GREEK CAPITAL REVERSED DOTTED LUNATE SIGMA SYMBOL"⟩]

/-- The names of Cyrillic letters. -/
def cyrillicNames : List NameBlock :=
  [⟨0x400, "CYRILLIC CAPITAL LETTER IE WITH GRAVE, CYRILLIC CAPITAL LETTER IO
CYRILLIC CAPITAL LETTER DJE, CYRILLIC CAPITAL LETTER GJE, CYRILLIC CAPITAL LETTER UKRAINIAN IE
CYRILLIC CAPITAL LETTER DZE, CYRILLIC CAPITAL LETTER BYELORUSSIAN-UKRAINIAN I
CYRILLIC CAPITAL LETTER YI, CYRILLIC CAPITAL LETTER JE, CYRILLIC CAPITAL LETTER LJE
CYRILLIC CAPITAL LETTER NJE, CYRILLIC CAPITAL LETTER TSHE, CYRILLIC CAPITAL LETTER KJE
CYRILLIC CAPITAL LETTER I WITH GRAVE, CYRILLIC CAPITAL LETTER SHORT U
CYRILLIC CAPITAL LETTER DZHE, CYRILLIC CAPITAL LETTER A, CYRILLIC CAPITAL LETTER BE
CYRILLIC CAPITAL LETTER VE, CYRILLIC CAPITAL LETTER GHE, CYRILLIC CAPITAL LETTER DE
CYRILLIC CAPITAL LETTER IE, CYRILLIC CAPITAL LETTER ZHE, CYRILLIC CAPITAL LETTER ZE
CYRILLIC CAPITAL LETTER I, CYRILLIC CAPITAL LETTER SHORT I, CYRILLIC CAPITAL LETTER KA
CYRILLIC CAPITAL LETTER EL, CYRILLIC CAPITAL LETTER EM, CYRILLIC CAPITAL LETTER EN
CYRILLIC CAPITAL LETTER O, CYRILLIC CAPITAL LETTER PE, CYRILLIC CAPITAL LETTER ER
CYRILLIC CAPITAL LETTER ES, CYRILLIC CAPITAL LETTER TE, CYRILLIC CAPITAL LETTER U
CYRILLIC CAPITAL LETTER EF, CYRILLIC CAPITAL LETTER HA, CYRILLIC CAPITAL LETTER TSE
CYRILLIC CAPITAL LETTER CHE, CYRILLIC CAPITAL LETTER SHA, CYRILLIC CAPITAL LETTER SHCHA
CYRILLIC CAPITAL LETTER HARD SIGN, CYRILLIC CAPITAL LETTER YERU
CYRILLIC CAPITAL LETTER SOFT SIGN, CYRILLIC CAPITAL LETTER E, CYRILLIC CAPITAL LETTER YU
CYRILLIC CAPITAL LETTER YA, CYRILLIC SMALL LETTER A, CYRILLIC SMALL LETTER BE
CYRILLIC SMALL LETTER VE, CYRILLIC SMALL LETTER GHE, CYRILLIC SMALL LETTER DE
CYRILLIC SMALL LETTER IE, CYRILLIC SMALL LETTER ZHE, CYRILLIC SMALL LETTER ZE
CYRILLIC SMALL LETTER I, CYRILLIC SMALL LETTER SHORT I, CYRILLIC SMALL LETTER KA
CYRILLIC SMALL LETTER EL, CYRILLIC SMALL LETTER EM, CYRILLIC SMALL LETTER EN
CYRILLIC SMALL LETTER O, CYRILLIC SMALL LETTER PE, CYRILLIC SMALL LETTER ER
CYRILLIC SMALL LETTER ES, CYRILLIC SMALL LETTER TE, CYRILLIC SMALL LETTER U
CYRILLIC SMALL LETTER EF, CYRILLIC SMALL LETTER HA, CYRILLIC SMALL LETTER TSE
CYRILLIC SMALL LETTER CHE, CYRILLIC SMALL LETTER SHA, CYRILLIC SMALL LETTER SHCHA
CYRILLIC SMALL LETTER HARD SIGN, CYRILLIC SMALL LETTER YERU, CYRILLIC SMALL LETTER SOFT SIGN
CYRILLIC SMALL LETTER E, CYRILLIC SMALL LETTER YU, CYRILLIC SMALL LETTER YA
CYRILLIC SMALL LETTER IE WITH GRAVE, CYRILLIC SMALL LETTER IO, CYRILLIC SMALL LETTER DJE
CYRILLIC SMALL LETTER GJE, CYRILLIC SMALL LETTER UKRAINIAN IE, CYRILLIC SMALL LETTER DZE
CYRILLIC SMALL LETTER BYELORUSSIAN-UKRAINIAN I, CYRILLIC SMALL LETTER YI
CYRILLIC SMALL LETTER JE, CYRILLIC SMALL LETTER LJE, CYRILLIC SMALL LETTER NJE
CYRILLIC SMALL LETTER TSHE, CYRILLIC SMALL LETTER KJE, CYRILLIC SMALL LETTER I WITH GRAVE
CYRILLIC SMALL LETTER SHORT U, CYRILLIC SMALL LETTER DZHE"⟩]

/-- The names of Hebrew and Arabic letters and digits, and of the two syllabaries of Japanese. -/
def otherLetterNames : List NameBlock :=
  [⟨0x5D0, "HEBREW LETTER ALEF, HEBREW LETTER BET, HEBREW LETTER GIMEL, HEBREW LETTER DALET
HEBREW LETTER HE, HEBREW LETTER VAV, HEBREW LETTER ZAYIN, HEBREW LETTER HET, HEBREW LETTER TET
HEBREW LETTER YOD, HEBREW LETTER FINAL KAF, HEBREW LETTER KAF, HEBREW LETTER LAMED
HEBREW LETTER FINAL MEM, HEBREW LETTER MEM, HEBREW LETTER FINAL NUN, HEBREW LETTER NUN
HEBREW LETTER SAMEKH, HEBREW LETTER AYIN, HEBREW LETTER FINAL PE, HEBREW LETTER PE
HEBREW LETTER FINAL TSADI, HEBREW LETTER TSADI, HEBREW LETTER QOF, HEBREW LETTER RESH
HEBREW LETTER SHIN, HEBREW LETTER TAV"⟩,
    ⟨0x621, "ARABIC LETTER HAMZA, ARABIC LETTER ALEF WITH MADDA ABOVE
ARABIC LETTER ALEF WITH HAMZA ABOVE, ARABIC LETTER WAW WITH HAMZA ABOVE
ARABIC LETTER ALEF WITH HAMZA BELOW, ARABIC LETTER YEH WITH HAMZA ABOVE, ARABIC LETTER ALEF
ARABIC LETTER BEH, ARABIC LETTER TEH MARBUTA, ARABIC LETTER TEH, ARABIC LETTER THEH
ARABIC LETTER JEEM, ARABIC LETTER HAH, ARABIC LETTER KHAH, ARABIC LETTER DAL
ARABIC LETTER THAL, ARABIC LETTER REH, ARABIC LETTER ZAIN, ARABIC LETTER SEEN
ARABIC LETTER SHEEN, ARABIC LETTER SAD, ARABIC LETTER DAD, ARABIC LETTER TAH, ARABIC LETTER ZAH
ARABIC LETTER AIN, ARABIC LETTER GHAIN, ARABIC LETTER KEHEH WITH TWO DOTS ABOVE
ARABIC LETTER KEHEH WITH THREE DOTS BELOW, ARABIC LETTER FARSI YEH WITH INVERTED V
ARABIC LETTER FARSI YEH WITH TWO DOTS ABOVE, ARABIC LETTER FARSI YEH WITH THREE DOTS ABOVE
ARABIC TATWEEL, ARABIC LETTER FEH, ARABIC LETTER QAF, ARABIC LETTER KAF, ARABIC LETTER LAM
ARABIC LETTER MEEM, ARABIC LETTER NOON, ARABIC LETTER HEH, ARABIC LETTER WAW
ARABIC LETTER ALEF MAKSURA, ARABIC LETTER YEH"⟩,
    ⟨0x660, "ARABIC-INDIC DIGIT ZERO, ARABIC-INDIC DIGIT ONE, ARABIC-INDIC DIGIT TWO
ARABIC-INDIC DIGIT THREE, ARABIC-INDIC DIGIT FOUR, ARABIC-INDIC DIGIT FIVE
ARABIC-INDIC DIGIT SIX, ARABIC-INDIC DIGIT SEVEN, ARABIC-INDIC DIGIT EIGHT
ARABIC-INDIC DIGIT NINE"⟩,
    ⟨0x3000, "IDEOGRAPHIC SPACE, IDEOGRAPHIC COMMA, IDEOGRAPHIC FULL STOP, DITTO MARK
JAPANESE INDUSTRIAL STANDARD SYMBOL, IDEOGRAPHIC ITERATION MARK, IDEOGRAPHIC CLOSING MARK
IDEOGRAPHIC NUMBER ZERO, LEFT ANGLE BRACKET, RIGHT ANGLE BRACKET, LEFT DOUBLE ANGLE BRACKET
RIGHT DOUBLE ANGLE BRACKET, LEFT CORNER BRACKET, RIGHT CORNER BRACKET
LEFT WHITE CORNER BRACKET, RIGHT WHITE CORNER BRACKET, LEFT BLACK LENTICULAR BRACKET
RIGHT BLACK LENTICULAR BRACKET, POSTAL MARK, GETA MARK, LEFT TORTOISE SHELL BRACKET
RIGHT TORTOISE SHELL BRACKET, LEFT WHITE LENTICULAR BRACKET, RIGHT WHITE LENTICULAR BRACKET
LEFT WHITE TORTOISE SHELL BRACKET, RIGHT WHITE TORTOISE SHELL BRACKET
LEFT WHITE SQUARE BRACKET, RIGHT WHITE SQUARE BRACKET, WAVE DASH
REVERSED DOUBLE PRIME QUOTATION MARK, DOUBLE PRIME QUOTATION MARK
LOW DOUBLE PRIME QUOTATION MARK, POSTAL MARK FACE"⟩,
    ⟨0x3041, "HIRAGANA LETTER SMALL A, HIRAGANA LETTER A, HIRAGANA LETTER SMALL I
HIRAGANA LETTER I, HIRAGANA LETTER SMALL U, HIRAGANA LETTER U, HIRAGANA LETTER SMALL E
HIRAGANA LETTER E, HIRAGANA LETTER SMALL O, HIRAGANA LETTER O, HIRAGANA LETTER KA
HIRAGANA LETTER GA, HIRAGANA LETTER KI, HIRAGANA LETTER GI, HIRAGANA LETTER KU
HIRAGANA LETTER GU, HIRAGANA LETTER KE, HIRAGANA LETTER GE, HIRAGANA LETTER KO
HIRAGANA LETTER GO, HIRAGANA LETTER SA, HIRAGANA LETTER ZA, HIRAGANA LETTER SI
HIRAGANA LETTER ZI, HIRAGANA LETTER SU, HIRAGANA LETTER ZU, HIRAGANA LETTER SE
HIRAGANA LETTER ZE, HIRAGANA LETTER SO, HIRAGANA LETTER ZO, HIRAGANA LETTER TA
HIRAGANA LETTER DA, HIRAGANA LETTER TI, HIRAGANA LETTER DI, HIRAGANA LETTER SMALL TU
HIRAGANA LETTER TU, HIRAGANA LETTER DU, HIRAGANA LETTER TE, HIRAGANA LETTER DE
HIRAGANA LETTER TO, HIRAGANA LETTER DO, HIRAGANA LETTER NA, HIRAGANA LETTER NI
HIRAGANA LETTER NU, HIRAGANA LETTER NE, HIRAGANA LETTER NO, HIRAGANA LETTER HA
HIRAGANA LETTER BA, HIRAGANA LETTER PA, HIRAGANA LETTER HI, HIRAGANA LETTER BI
HIRAGANA LETTER PI, HIRAGANA LETTER HU, HIRAGANA LETTER BU, HIRAGANA LETTER PU
HIRAGANA LETTER HE, HIRAGANA LETTER BE, HIRAGANA LETTER PE, HIRAGANA LETTER HO
HIRAGANA LETTER BO, HIRAGANA LETTER PO, HIRAGANA LETTER MA, HIRAGANA LETTER MI
HIRAGANA LETTER MU, HIRAGANA LETTER ME, HIRAGANA LETTER MO, HIRAGANA LETTER SMALL YA
HIRAGANA LETTER YA, HIRAGANA LETTER SMALL YU, HIRAGANA LETTER YU, HIRAGANA LETTER SMALL YO
HIRAGANA LETTER YO, HIRAGANA LETTER RA, HIRAGANA LETTER RI, HIRAGANA LETTER RU
HIRAGANA LETTER RE, HIRAGANA LETTER RO, HIRAGANA LETTER SMALL WA, HIRAGANA LETTER WA
HIRAGANA LETTER WI, HIRAGANA LETTER WE, HIRAGANA LETTER WO, HIRAGANA LETTER N
HIRAGANA LETTER VU, HIRAGANA LETTER SMALL KA, HIRAGANA LETTER SMALL KE"⟩,
    ⟨0x3099, "COMBINING KATAKANA-HIRAGANA VOICED SOUND MARK
COMBINING KATAKANA-HIRAGANA SEMI-VOICED SOUND MARK, KATAKANA-HIRAGANA VOICED SOUND MARK
KATAKANA-HIRAGANA SEMI-VOICED SOUND MARK, HIRAGANA ITERATION MARK
HIRAGANA VOICED ITERATION MARK, HIRAGANA DIGRAPH YORI, KATAKANA-HIRAGANA DOUBLE HYPHEN
KATAKANA LETTER SMALL A, KATAKANA LETTER A, KATAKANA LETTER SMALL I, KATAKANA LETTER I
KATAKANA LETTER SMALL U, KATAKANA LETTER U, KATAKANA LETTER SMALL E, KATAKANA LETTER E
KATAKANA LETTER SMALL O, KATAKANA LETTER O, KATAKANA LETTER KA, KATAKANA LETTER GA
KATAKANA LETTER KI, KATAKANA LETTER GI, KATAKANA LETTER KU, KATAKANA LETTER GU
KATAKANA LETTER KE, KATAKANA LETTER GE, KATAKANA LETTER KO, KATAKANA LETTER GO
KATAKANA LETTER SA, KATAKANA LETTER ZA, KATAKANA LETTER SI, KATAKANA LETTER ZI
KATAKANA LETTER SU, KATAKANA LETTER ZU, KATAKANA LETTER SE, KATAKANA LETTER ZE
KATAKANA LETTER SO, KATAKANA LETTER ZO, KATAKANA LETTER TA, KATAKANA LETTER DA
KATAKANA LETTER TI, KATAKANA LETTER DI, KATAKANA LETTER SMALL TU, KATAKANA LETTER TU
KATAKANA LETTER DU, KATAKANA LETTER TE, KATAKANA LETTER DE, KATAKANA LETTER TO
KATAKANA LETTER DO, KATAKANA LETTER NA, KATAKANA LETTER NI, KATAKANA LETTER NU
KATAKANA LETTER NE, KATAKANA LETTER NO, KATAKANA LETTER HA, KATAKANA LETTER BA
KATAKANA LETTER PA, KATAKANA LETTER HI, KATAKANA LETTER BI, KATAKANA LETTER PI
KATAKANA LETTER HU, KATAKANA LETTER BU, KATAKANA LETTER PU, KATAKANA LETTER HE
KATAKANA LETTER BE, KATAKANA LETTER PE, KATAKANA LETTER HO, KATAKANA LETTER BO
KATAKANA LETTER PO, KATAKANA LETTER MA, KATAKANA LETTER MI, KATAKANA LETTER MU
KATAKANA LETTER ME, KATAKANA LETTER MO, KATAKANA LETTER SMALL YA, KATAKANA LETTER YA
KATAKANA LETTER SMALL YU, KATAKANA LETTER YU, KATAKANA LETTER SMALL YO, KATAKANA LETTER YO
KATAKANA LETTER RA, KATAKANA LETTER RI, KATAKANA LETTER RU, KATAKANA LETTER RE
KATAKANA LETTER RO, KATAKANA LETTER SMALL WA, KATAKANA LETTER WA, KATAKANA LETTER WI
KATAKANA LETTER WE, KATAKANA LETTER WO, KATAKANA LETTER N, KATAKANA LETTER VU
KATAKANA LETTER SMALL KA, KATAKANA LETTER SMALL KE, KATAKANA LETTER VA, KATAKANA LETTER VI
KATAKANA LETTER VE, KATAKANA LETTER VO, KATAKANA MIDDLE DOT
KATAKANA-HIRAGANA PROLONGED SOUND MARK, KATAKANA ITERATION MARK, KATAKANA VOICED ITERATION MARK
KATAKANA DIGRAPH KOTO"⟩]

end WorkflowDocs.Text
