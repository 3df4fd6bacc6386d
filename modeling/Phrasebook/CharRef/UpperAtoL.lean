/-!
# Named character references, A to L

The names of the character references of markup that start with a letter from A to L, each with the characters it
stands for. Names that may stand without their semicolon are listed in both forms.
-/

namespace Phrasebook.CharRef

def namesUpperAtoL1 : List (String × List Nat) := [
  ("AElig", [0xc6]), ("AElig;", [0xc6]), ("AMP", [0x26]), ("AMP;", [0x26]), ("Aacute", [0xc1]),
  ("Aacute;", [0xc1]), ("Abreve;", [0x102]), ("Acirc", [0xc2]), ("Acirc;", [0xc2]), ("Acy;", [0x410]),
  ("Afr;", [0x1d504]), ("Agrave", [0xc0]), ("Agrave;", [0xc0]), ("Alpha;", [0x391]), ("Amacr;", [0x100]),
  ("And;", [0x2a53]), ("Aogon;", [0x104]), ("Aopf;", [0x1d538]), ("ApplyFunction;", [0x2061]),
  ("Aring", [0xc5]), ("Aring;", [0xc5]), ("Ascr;", [0x1d49c]), ("Assign;", [0x2254]), ("Atilde", [0xc3]),
  ("Atilde;", [0xc3]), ("Auml", [0xc4]), ("Auml;", [0xc4]), ("Backslash;", [0x2216]), ("Barv;", [0x2ae7]),
  ("Barwed;", [0x2306]), ("Bcy;", [0x411]), ("Because;", [0x2235]), ("Bernoullis;", [0x212c]),
  ("Beta;", [0x392]), ("Bfr;", [0x1d505]), ("Bopf;", [0x1d539]), ("Breve;", [0x2d8]), ("Bscr;", [0x212c]),
  ("Bumpeq;", [0x224e]), ("CHcy;", [0x427]), ("COPY", [0xa9]), ("COPY;", [0xa9]), ("Cacute;", [0x106]),
  ("Cap;", [0x22d2]), ("CapitalDifferentialD;", [0x2145]), ("Cayleys;", [0x212d]), ("Ccaron;", [0x10c]),
  ("Ccedil", [0xc7]), ("Ccedil;", [0xc7]), ("Ccirc;", [0x108]), ("Cconint;", [0x2230]), ("Cdot;", [0x10a]),
  ("Cedilla;", [0xb8]), ("CenterDot;", [0xb7]), ("Cfr;", [0x212d]), ("Chi;", [0x3a7]),
  ("CircleDot;", [0x2299]), ("CircleMinus;", [0x2296]), ("CirclePlus;", [0x2295]), ("CircleTimes;", [0x2297]),
  ("ClockwiseContourIntegral;", [0x2232]), ("CloseCurlyDoubleQuote;", [0x201d]),
  ("CloseCurlyQuote;", [0x2019]), ("Colon;", [0x2237]), ("Colone;", [0x2a74]), ("Congruent;", [0x2261]),
  ("Conint;", [0x222f]), ("ContourIntegral;", [0x222e]), ("Copf;", [0x2102]), ("Coproduct;", [0x2210]),
  ("CounterClockwiseContourIntegral;", [0x2233]), ("Cross;", [0x2a2f]), ("Cscr;", [0x1d49e]),
  ("Cup;", [0x22d3]), ("CupCap;", [0x224d]), ("DD;", [0x2145]), ("DDotrahd;", [0x2911]), ("DJcy;", [0x402]),
  ("DScy;", [0x405]), ("DZcy;", [0x40f]), ("Dagger;", [0x2021]), ("Darr;", [0x21a1]), ("Dashv;", [0x2ae4]),
  ("Dcaron;", [0x10e]), ("Dcy;", [0x414]), ("Del;", [0x2207]), ("Delta;", [0x394]), ("Dfr;", [0x1d507]),
  ("DiacriticalAcute;", [0xb4]), ("DiacriticalDot;", [0x2d9]), ("DiacriticalDoubleAcute;", [0x2dd]),
  ("DiacriticalGrave;", [0x60]), ("DiacriticalTilde;", [0x2dc]), ("Diamond;", [0x22c4]),
  ("DifferentialD;", [0x2146]), ("Dopf;", [0x1d53b]), ("Dot;", [0xa8]), ("DotDot;", [0x20dc]),
  ("DotEqual;", [0x2250]), ("DoubleContourIntegral;", [0x222f])]

def namesUpperAtoL2 : List (String × List Nat) := [
  ("DoubleDot;", [0xa8]), ("DoubleDownArrow;", [0x21d3]), ("DoubleLeftArrow;", [0x21d0]),
  ("DoubleLeftRightArrow;", [0x21d4]), ("DoubleLeftTee;", [0x2ae4]), ("DoubleLongLeftArrow;", [0x27f8]),
  ("DoubleLongLeftRightArrow;", [0x27fa]), ("DoubleLongRightArrow;", [0x27f9]),
  ("DoubleRightArrow;", [0x21d2]), ("DoubleRightTee;", [0x22a8]), ("DoubleUpArrow;", [0x21d1]),
  ("DoubleUpDownArrow;", [0x21d5]), ("DoubleVerticalBar;", [0x2225]), ("DownArrow;", [0x2193]),
  ("DownArrowBar;", [0x2913]), ("DownArrowUpArrow;", [0x21f5]), ("DownBreve;", [0x311]),
  ("DownLeftRightVector;", [0x2950]), ("DownLeftTeeVector;", [0x295e]), ("DownLeftVector;", [0x21bd]),
  ("DownLeftVectorBar;", [0x2956]), ("DownRightTeeVector;", [0x295f]), ("DownRightVector;", [0x21c1]),
  ("DownRightVectorBar;", [0x2957]), ("DownTee;", [0x22a4]), ("DownTeeArrow;", [0x21a7]),
  ("Downarrow;", [0x21d3]), ("Dscr;", [0x1d49f]), ("Dstrok;", [0x110]), ("ENG;", [0x14a]), ("ETH", [0xd0]),
  ("ETH;", [0xd0]), ("Eacute", [0xc9]), ("Eacute;", [0xc9]), ("Ecaron;", [0x11a]), ("Ecirc", [0xca]),
  ("Ecirc;", [0xca]), ("Ecy;", [0x42d]), ("Edot;", [0x116]), ("Efr;", [0x1d508]), ("Egrave", [0xc8]),
  ("Egrave;", [0xc8]), ("Element;", [0x2208]), ("Emacr;", [0x112]), ("EmptySmallSquare;", [0x25fb]),
  ("EmptyVerySmallSquare;", [0x25ab]), ("Eogon;", [0x118]), ("Eopf;", [0x1d53c]), ("Epsilon;", [0x395]),
  ("Equal;", [0x2a75]), ("EqualTilde;", [0x2242]), ("Equilibrium;", [0x21cc]), ("Escr;", [0x2130]),
  ("Esim;", [0x2a73]), ("Eta;", [0x397]), ("Euml", [0xcb]), ("Euml;", [0xcb]), ("Exists;", [0x2203]),
  ("ExponentialE;", [0x2147]), ("Fcy;", [0x424]), ("Ffr;", [0x1d509]), ("FilledSmallSquare;", [0x25fc]),
  ("FilledVerySmallSquare;", [0x25aa]), ("Fopf;", [0x1d53d]), ("ForAll;", [0x2200]),
  ("Fouriertrf;", [0x2131]), ("Fscr;", [0x2131]), ("GJcy;", [0x403]), ("GT", [0x3e]), ("GT;", [0x3e]),
  ("Gamma;", [0x393]), ("Gammad;", [0x3dc]), ("Gbreve;", [0x11e]), ("Gcedil;", [0x122]), ("Gcirc;", [0x11c]),
  ("Gcy;", [0x413]), ("Gdot;", [0x120]), ("Gfr;", [0x1d50a]), ("Gg;", [0x22d9]), ("Gopf;", [0x1d53e]),
  ("GreaterEqual;", [0x2265]), ("GreaterEqualLess;", [0x22db]), ("GreaterFullEqual;", [0x2267]),
  ("GreaterGreater;", [0x2aa2]), ("GreaterLess;", [0x2277]), ("GreaterSlantEqual;", [0x2a7e]),
  ("GreaterTilde;", [0x2273]), ("Gscr;", [0x1d4a2]), ("Gt;", [0x226b]), ("HARDcy;", [0x42a]),
  ("Hacek;", [0x2c7]), ("Hat;", [0x5e]), ("Hcirc;", [0x124]), ("Hfr;", [0x210c]), ("HilbertSpace;", [0x210b]),
  ("Hopf;", [0x210d]), ("HorizontalLine;", [0x2500]), ("Hscr;", [0x210b]), ("Hstrok;", [0x126]),
  ("HumpDownHump;", [0x224e])]

def namesUpperAtoL3 : List (String × List Nat) := [
  ("HumpEqual;", [0x224f]), ("IEcy;", [0x415]), ("IJlig;", [0x132]), ("IOcy;", [0x401]), ("Iacute", [0xcd]),
  ("Iacute;", [0xcd]), ("Icirc", [0xce]), ("Icirc;", [0xce]), ("Icy;", [0x418]), ("Idot;", [0x130]),
  ("Ifr;", [0x2111]), ("Igrave", [0xcc]), ("Igrave;", [0xcc]), ("Im;", [0x2111]), ("Imacr;", [0x12a]),
  ("ImaginaryI;", [0x2148]), ("Implies;", [0x21d2]), ("Int;", [0x222c]), ("Integral;", [0x222b]),
  ("Intersection;", [0x22c2]), ("InvisibleComma;", [0x2063]), ("InvisibleTimes;", [0x2062]),
  ("Iogon;", [0x12e]), ("Iopf;", [0x1d540]), ("Iota;", [0x399]), ("Iscr;", [0x2110]), ("Itilde;", [0x128]),
  ("Iukcy;", [0x406]), ("Iuml", [0xcf]), ("Iuml;", [0xcf]), ("Jcirc;", [0x134]), ("Jcy;", [0x419]),
  ("Jfr;", [0x1d50d]), ("Jopf;", [0x1d541]), ("Jscr;", [0x1d4a5]), ("Jsercy;", [0x408]), ("Jukcy;", [0x404]),
  ("KHcy;", [0x425]), ("KJcy;", [0x40c]), ("Kappa;", [0x39a]), ("Kcedil;", [0x136]), ("Kcy;", [0x41a]),
  ("Kfr;", [0x1d50e]), ("Kopf;", [0x1d542]), ("Kscr;", [0x1d4a6]), ("LJcy;", [0x409]), ("LT", [0x3c]),
  ("LT;", [0x3c]), ("Lacute;", [0x139]), ("Lambda;", [0x39b]), ("Lang;", [0x27ea]), ("Laplacetrf;", [0x2112]),
  ("Larr;", [0x219e]), ("Lcaron;", [0x13d]), ("Lcedil;", [0x13b]), ("Lcy;", [0x41b]),
  ("LeftAngleBracket;", [0x27e8]), ("LeftArrow;", [0x2190]), ("LeftArrowBar;", [0x21e4]),
  ("LeftArrowRightArrow;", [0x21c6]), ("LeftCeiling;", [0x2308]), ("LeftDoubleBracket;", [0x27e6]),
  ("LeftDownTeeVector;", [0x2961]), ("LeftDownVector;", [0x21c3]), ("LeftDownVectorBar;", [0x2959]),
  ("LeftFloor;", [0x230a]), ("LeftRightArrow;", [0x2194]), ("LeftRightVector;", [0x294e]),
  ("LeftTee;", [0x22a3]), ("LeftTeeArrow;", [0x21a4]), ("LeftTeeVector;", [0x295a]),
  ("LeftTriangle;", [0x22b2]), ("LeftTriangleBar;", [0x29cf]), ("LeftTriangleEqual;", [0x22b4]),
  ("LeftUpDownVector;", [0x2951]), ("LeftUpTeeVector;", [0x2960]), ("LeftUpVector;", [0x21bf]),
  ("LeftUpVectorBar;", [0x2958]), ("LeftVector;", [0x21bc]), ("LeftVectorBar;", [0x2952]),
  ("Leftarrow;", [0x21d0]), ("Leftrightarrow;", [0x21d4]), ("LessEqualGreater;", [0x22da]),
  ("LessFullEqual;", [0x2266]), ("LessGreater;", [0x2276]), ("LessLess;", [0x2aa1]),
  ("LessSlantEqual;", [0x2a7d]), ("LessTilde;", [0x2272]), ("Lfr;", [0x1d50f]), ("Ll;", [0x22d8]),
  ("Lleftarrow;", [0x21da]), ("Lmidot;", [0x13f]), ("LongLeftArrow;", [0x27f5]),
  ("LongLeftRightArrow;", [0x27f7]), ("LongRightArrow;", [0x27f6]), ("Longleftarrow;", [0x27f8]),
  ("Longleftrightarrow;", [0x27fa]), ("Longrightarrow;", [0x27f9]), ("Lopf;", [0x1d543]),
  ("LowerLeftArrow;", [0x2199])]

def namesUpperAtoL4 : List (String × List Nat) := [
  ("LowerRightArrow;", [0x2198]), ("Lscr;", [0x2112]), ("Lsh;", [0x21b0]), ("Lstrok;", [0x141]),
  ("Lt;", [0x226a])]

def namesUpperAtoL : List (String × List Nat) :=
  namesUpperAtoL1 ++ namesUpperAtoL2 ++ namesUpperAtoL3 ++ namesUpperAtoL4

end Phrasebook.CharRef
