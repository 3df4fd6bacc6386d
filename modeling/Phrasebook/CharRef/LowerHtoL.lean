/-!
# Named character references, h to l

The names of the character references of markup that start with a letter from h to l, each with the characters it
stands for. Names that may stand without their semicolon are listed in both forms.
-/

namespace Phrasebook.CharRef

def namesLowerHtoL1 : List (String × List Nat) := [
  ("hArr;", [0x21d4]), ("hairsp;", [0x200a]), ("half;", [0xbd]), ("hamilt;", [0x210b]), ("hardcy;", [0x44a]),
  ("harr;", [0x2194]), ("harrcir;", [0x2948]), ("harrw;", [0x21ad]), ("hbar;", [0x210f]), ("hcirc;", [0x125]),
  ("hearts;", [0x2665]), ("heartsuit;", [0x2665]), ("hellip;", [0x2026]), ("hercon;", [0x22b9]),
  ("hfr;", [0x1d525]), ("hksearow;", [0x2925]), ("hkswarow;", [0x2926]), ("hoarr;", [0x21ff]),
  ("homtht;", [0x223b]), ("hookleftarrow;", [0x21a9]), ("hookrightarrow;", [0x21aa]), ("hopf;", [0x1d559]),
  ("horbar;", [0x2015]), ("hscr;", [0x1d4bd]), ("hslash;", [0x210f]), ("hstrok;", [0x127]),
  ("hybull;", [0x2043]), ("hyphen;", [0x2010]), ("iacute", [0xed]), ("iacute;", [0xed]), ("ic;", [0x2063]),
  ("icirc", [0xee]), ("icirc;", [0xee]), ("icy;", [0x438]), ("iecy;", [0x435]), ("iexcl", [0xa1]),
  ("iexcl;", [0xa1]), ("iff;", [0x21d4]), ("ifr;", [0x1d526]), ("igrave", [0xec]), ("igrave;", [0xec]),
  ("ii;", [0x2148]), ("iiiint;", [0x2a0c]), ("iiint;", [0x222d]), ("iinfin;", [0x29dc]), ("iiota;", [0x2129]),
  ("ijlig;", [0x133]), ("imacr;", [0x12b]), ("image;", [0x2111]), ("imagline;", [0x2110]),
  ("imagpart;", [0x2111]), ("imath;", [0x131]), ("imof;", [0x22b7]), ("imped;", [0x1b5]), ("in;", [0x2208]),
  ("incare;", [0x2105]), ("infin;", [0x221e]), ("infintie;", [0x29dd]), ("inodot;", [0x131]),
  ("int;", [0x222b]), ("intcal;", [0x22ba]), ("integers;", [0x2124]), ("intercal;", [0x22ba]),
  ("intlarhk;", [0x2a17]), ("intprod;", [0x2a3c]), ("iocy;", [0x451]), ("iogon;", [0x12f]),
  ("iopf;", [0x1d55a]), ("iota;", [0x3b9]), ("iprod;", [0x2a3c]), ("iquest", [0xbf]), ("iquest;", [0xbf]),
  ("iscr;", [0x1d4be]), ("isin;", [0x2208]), ("isinE;", [0x22f9]), ("isindot;", [0x22f5]),
  ("isins;", [0x22f4]), ("isinsv;", [0x22f3]), ("isinv;", [0x2208]), ("it;", [0x2062]), ("itilde;", [0x129]),
  ("iukcy;", [0x456]), ("iuml", [0xef]), ("iuml;", [0xef]), ("jcirc;", [0x135]), ("jcy;", [0x439]),
  ("jfr;", [0x1d527]), ("jmath;", [0x237]), ("jopf;", [0x1d55b]), ("jscr;", [0x1d4bf]), ("jsercy;", [0x458]),
  ("jukcy;", [0x454]), ("kappa;", [0x3ba]), ("kappav;", [0x3f0]), ("kcedil;", [0x137]), ("kcy;", [0x43a]),
  ("kfr;", [0x1d528]), ("kgreen;", [0x138]), ("khcy;", [0x445]), ("kjcy;", [0x45c])]

def namesLowerHtoL2 : List (String × List Nat) := [
  ("kopf;", [0x1d55c]), ("kscr;", [0x1d4c0]), ("lAarr;", [0x21da]), ("lArr;", [0x21d0]),
  ("lAtail;", [0x291b]), ("lBarr;", [0x290e]), ("lE;", [0x2266]), ("lEg;", [0x2a8b]), ("lHar;", [0x2962]),
  ("lacute;", [0x13a]), ("laemptyv;", [0x29b4]), ("lagran;", [0x2112]), ("lambda;", [0x3bb]),
  ("lang;", [0x27e8]), ("langd;", [0x2991]), ("langle;", [0x27e8]), ("lap;", [0x2a85]), ("laquo", [0xab]),
  ("laquo;", [0xab]), ("larr;", [0x2190]), ("larrb;", [0x21e4]), ("larrbfs;", [0x291f]),
  ("larrfs;", [0x291d]), ("larrhk;", [0x21a9]), ("larrlp;", [0x21ab]), ("larrpl;", [0x2939]),
  ("larrsim;", [0x2973]), ("larrtl;", [0x21a2]), ("lat;", [0x2aab]), ("latail;", [0x2919]),
  ("late;", [0x2aad]), ("lates;", [0x2aad, 0xfe00]), ("lbarr;", [0x290c]), ("lbbrk;", [0x2772]),
  ("lbrace;", [0x7b]), ("lbrack;", [0x5b]), ("lbrke;", [0x298b]), ("lbrksld;", [0x298f]),
  ("lbrkslu;", [0x298d]), ("lcaron;", [0x13e]), ("lcedil;", [0x13c]), ("lceil;", [0x2308]), ("lcub;", [0x7b]),
  ("lcy;", [0x43b]), ("ldca;", [0x2936]), ("ldquo;", [0x201c]), ("ldquor;", [0x201e]), ("ldrdhar;", [0x2967]),
  ("ldrushar;", [0x294b]), ("ldsh;", [0x21b2]), ("le;", [0x2264]), ("leftarrow;", [0x2190]),
  ("leftarrowtail;", [0x21a2]), ("leftharpoondown;", [0x21bd]), ("leftharpoonup;", [0x21bc]),
  ("leftleftarrows;", [0x21c7]), ("leftrightarrow;", [0x2194]), ("leftrightarrows;", [0x21c6]),
  ("leftrightharpoons;", [0x21cb]), ("leftrightsquigarrow;", [0x21ad]), ("leftthreetimes;", [0x22cb]),
  ("leg;", [0x22da]), ("leq;", [0x2264]), ("leqq;", [0x2266]), ("leqslant;", [0x2a7d]), ("les;", [0x2a7d]),
  ("lescc;", [0x2aa8]), ("lesdot;", [0x2a7f]), ("lesdoto;", [0x2a81]), ("lesdotor;", [0x2a83]),
  ("lesg;", [0x22da, 0xfe00]), ("lesges;", [0x2a93]), ("lessapprox;", [0x2a85]), ("lessdot;", [0x22d6]),
  ("lesseqgtr;", [0x22da]), ("lesseqqgtr;", [0x2a8b]), ("lessgtr;", [0x2276]), ("lesssim;", [0x2272]),
  ("lfisht;", [0x297c]), ("lfloor;", [0x230a]), ("lfr;", [0x1d529]), ("lg;", [0x2276]), ("lgE;", [0x2a91]),
  ("lhard;", [0x21bd]), ("lharu;", [0x21bc]), ("lharul;", [0x296a]), ("lhblk;", [0x2584]), ("ljcy;", [0x459]),
  ("ll;", [0x226a]), ("llarr;", [0x21c7]), ("llcorner;", [0x231e]), ("llhard;", [0x296b]),
  ("lltri;", [0x25fa]), ("lmidot;", [0x140]), ("lmoust;", [0x23b0]), ("lmoustache;", [0x23b0]),
  ("lnE;", [0x2268]), ("lnap;", [0x2a89]), ("lnapprox;", [0x2a89]), ("lne;", [0x2a87])]

def namesLowerHtoL3 : List (String × List Nat) := [
  ("lneq;", [0x2a87]), ("lneqq;", [0x2268]), ("lnsim;", [0x22e6]), ("loang;", [0x27ec]), ("loarr;", [0x21fd]),
  ("lobrk;", [0x27e6]), ("longleftarrow;", [0x27f5]), ("longleftrightarrow;", [0x27f7]),
  ("longmapsto;", [0x27fc]), ("longrightarrow;", [0x27f6]), ("looparrowleft;", [0x21ab]),
  ("looparrowright;", [0x21ac]), ("lopar;", [0x2985]), ("lopf;", [0x1d55d]), ("loplus;", [0x2a2d]),
  ("lotimes;", [0x2a34]), ("lowast;", [0x2217]), ("lowbar;", [0x5f]), ("loz;", [0x25ca]),
  ("lozenge;", [0x25ca]), ("lozf;", [0x29eb]), ("lpar;", [0x28]), ("lparlt;", [0x2993]), ("lrarr;", [0x21c6]),
  ("lrcorner;", [0x231f]), ("lrhar;", [0x21cb]), ("lrhard;", [0x296d]), ("lrm;", [0x200e]),
  ("lrtri;", [0x22bf]), ("lsaquo;", [0x2039]), ("lscr;", [0x1d4c1]), ("lsh;", [0x21b0]), ("lsim;", [0x2272]),
  ("lsime;", [0x2a8d]), ("lsimg;", [0x2a8f]), ("lsqb;", [0x5b]), ("lsquo;", [0x2018]), ("lsquor;", [0x201a]),
  ("lstrok;", [0x142]), ("lt", [0x3c]), ("lt;", [0x3c]), ("ltcc;", [0x2aa6]), ("ltcir;", [0x2a79]),
  ("ltdot;", [0x22d6]), ("lthree;", [0x22cb]), ("ltimes;", [0x22c9]), ("ltlarr;", [0x2976]),
  ("ltquest;", [0x2a7b]), ("ltrPar;", [0x2996]), ("ltri;", [0x25c3]), ("ltrie;", [0x22b4]),
  ("ltrif;", [0x25c2]), ("lurdshar;", [0x294a]), ("luruhar;", [0x2966]), ("lvertneqq;", [0x2268, 0xfe00]),
  ("lvnE;", [0x2268, 0xfe00])]

def namesLowerHtoL : List (String × List Nat) :=
  namesLowerHtoL1 ++ namesLowerHtoL2 ++ namesLowerHtoL3

end Phrasebook.CharRef
