/-!
# Named character references, t to z

The names of the character references of markup that start with a letter from t to z, each with the characters it
stands for. Names that may stand without their semicolon are listed in both forms.
-/

namespace Phrasebook.CharRef

def namesLowerTtoZ1 : List (String × List Nat) := [
  ("target;", [0x2316]), ("tau;", [0x3c4]), ("tbrk;", [0x23b4]), ("tcaron;", [0x165]), ("tcedil;", [0x163]),
  ("tcy;", [0x442]), ("tdot;", [0x20db]), ("telrec;", [0x2315]), ("tfr;", [0x1d531]), ("there4;", [0x2234]),
  ("therefore;", [0x2234]), ("theta;", [0x3b8]), ("thetasym;", [0x3d1]), ("thetav;", [0x3d1]),
  ("thickapprox;", [0x2248]), ("thicksim;", [0x223c]), ("thinsp;", [0x2009]), ("thkap;", [0x2248]),
  ("thksim;", [0x223c]), ("thorn", [0xfe]), ("thorn;", [0xfe]), ("tilde;", [0x2dc]), ("times", [0xd7]),
  ("times;", [0xd7]), ("timesb;", [0x22a0]), ("timesbar;", [0x2a31]), ("timesd;", [0x2a30]),
  ("tint;", [0x222d]), ("toea;", [0x2928]), ("top;", [0x22a4]), ("topbot;", [0x2336]), ("topcir;", [0x2af1]),
  ("topf;", [0x1d565]), ("topfork;", [0x2ada]), ("tosa;", [0x2929]), ("tprime;", [0x2034]),
  ("trade;", [0x2122]), ("triangle;", [0x25b5]), ("triangledown;", [0x25bf]), ("triangleleft;", [0x25c3]),
  ("trianglelefteq;", [0x22b4]), ("triangleq;", [0x225c]), ("triangleright;", [0x25b9]),
  ("trianglerighteq;", [0x22b5]), ("tridot;", [0x25ec]), ("trie;", [0x225c]), ("triminus;", [0x2a3a]),
  ("triplus;", [0x2a39]), ("trisb;", [0x29cd]), ("tritime;", [0x2a3b]), ("trpezium;", [0x23e2]),
  ("tscr;", [0x1d4c9]), ("tscy;", [0x446]), ("tshcy;", [0x45b]), ("tstrok;", [0x167]), ("twixt;", [0x226c]),
  ("twoheadleftarrow;", [0x219e]), ("twoheadrightarrow;", [0x21a0]), ("uArr;", [0x21d1]), ("uHar;", [0x2963]),
  ("uacute", [0xfa]), ("uacute;", [0xfa]), ("uarr;", [0x2191]), ("ubrcy;", [0x45e]), ("ubreve;", [0x16d]),
  ("ucirc", [0xfb]), ("ucirc;", [0xfb]), ("ucy;", [0x443]), ("udarr;", [0x21c5]), ("udblac;", [0x171]),
  ("udhar;", [0x296e]), ("ufisht;", [0x297e]), ("ufr;", [0x1d532]), ("ugrave", [0xf9]), ("ugrave;", [0xf9]),
  ("uharl;", [0x21bf]), ("uharr;", [0x21be]), ("uhblk;", [0x2580]), ("ulcorn;", [0x231c]),
  ("ulcorner;", [0x231c]), ("ulcrop;", [0x230f]), ("ultri;", [0x25f8]), ("umacr;", [0x16b]), ("uml", [0xa8]),
  ("uml;", [0xa8]), ("uogon;", [0x173]), ("uopf;", [0x1d566]), ("uparrow;", [0x2191]),
  ("updownarrow;", [0x2195]), ("upharpoonleft;", [0x21bf]), ("upharpoonright;", [0x21be]),
  ("uplus;", [0x228e]), ("upsi;", [0x3c5]), ("upsih;", [0x3d2]), ("upsilon;", [0x3c5]),
  ("upuparrows;", [0x21c8]), ("urcorn;", [0x231d]), ("urcorner;", [0x231d]), ("urcrop;", [0x230e]),
  ("uring;", [0x16f])]

def namesLowerTtoZ2 : List (String × List Nat) := [
  ("urtri;", [0x25f9]), ("uscr;", [0x1d4ca]), ("utdot;", [0x22f0]), ("utilde;", [0x169]), ("utri;", [0x25b5]),
  ("utrif;", [0x25b4]), ("uuarr;", [0x21c8]), ("uuml", [0xfc]), ("uuml;", [0xfc]), ("uwangle;", [0x29a7]),
  ("vArr;", [0x21d5]), ("vBar;", [0x2ae8]), ("vBarv;", [0x2ae9]), ("vDash;", [0x22a8]), ("vangrt;", [0x299c]),
  ("varepsilon;", [0x3f5]), ("varkappa;", [0x3f0]), ("varnothing;", [0x2205]), ("varphi;", [0x3d5]),
  ("varpi;", [0x3d6]), ("varpropto;", [0x221d]), ("varr;", [0x2195]), ("varrho;", [0x3f1]),
  ("varsigma;", [0x3c2]), ("varsubsetneq;", [0x228a, 0xfe00]), ("varsubsetneqq;", [0x2acb, 0xfe00]),
  ("varsupsetneq;", [0x228b, 0xfe00]), ("varsupsetneqq;", [0x2acc, 0xfe00]), ("vartheta;", [0x3d1]),
  ("vartriangleleft;", [0x22b2]), ("vartriangleright;", [0x22b3]), ("vcy;", [0x432]), ("vdash;", [0x22a2]),
  ("vee;", [0x2228]), ("veebar;", [0x22bb]), ("veeeq;", [0x225a]), ("vellip;", [0x22ee]), ("verbar;", [0x7c]),
  ("vert;", [0x7c]), ("vfr;", [0x1d533]), ("vltri;", [0x22b2]), ("vnsub;", [0x2282, 0x20d2]),
  ("vnsup;", [0x2283, 0x20d2]), ("vopf;", [0x1d567]), ("vprop;", [0x221d]), ("vrtri;", [0x22b3]),
  ("vscr;", [0x1d4cb]), ("vsubnE;", [0x2acb, 0xfe00]), ("vsubne;", [0x228a, 0xfe00]),
  ("vsupnE;", [0x2acc, 0xfe00]), ("vsupne;", [0x228b, 0xfe00]), ("vzigzag;", [0x299a]), ("wcirc;", [0x175]),
  ("wedbar;", [0x2a5f]), ("wedge;", [0x2227]), ("wedgeq;", [0x2259]), ("weierp;", [0x2118]),
  ("wfr;", [0x1d534]), ("wopf;", [0x1d568]), ("wp;", [0x2118]), ("wr;", [0x2240]), ("wreath;", [0x2240]),
  ("wscr;", [0x1d4cc]), ("xcap;", [0x22c2]), ("xcirc;", [0x25ef]), ("xcup;", [0x22c3]), ("xdtri;", [0x25bd]),
  ("xfr;", [0x1d535]), ("xhArr;", [0x27fa]), ("xharr;", [0x27f7]), ("xi;", [0x3be]), ("xlArr;", [0x27f8]),
  ("xlarr;", [0x27f5]), ("xmap;", [0x27fc]), ("xnis;", [0x22fb]), ("xodot;", [0x2a00]), ("xopf;", [0x1d569]),
  ("xoplus;", [0x2a01]), ("xotime;", [0x2a02]), ("xrArr;", [0x27f9]), ("xrarr;", [0x27f6]),
  ("xscr;", [0x1d4cd]), ("xsqcup;", [0x2a06]), ("xuplus;", [0x2a04]), ("xutri;", [0x25b3]),
  ("xvee;", [0x22c1]), ("xwedge;", [0x22c0]), ("yacute", [0xfd]), ("yacute;", [0xfd]), ("yacy;", [0x44f]),
  ("ycirc;", [0x177]), ("ycy;", [0x44b]), ("yen", [0xa5]), ("yen;", [0xa5]), ("yfr;", [0x1d536]),
  ("yicy;", [0x457]), ("yopf;", [0x1d56a]), ("yscr;", [0x1d4ce]), ("yucy;", [0x44e]), ("yuml", [0xff])]

def namesLowerTtoZ3 : List (String × List Nat) := [
  ("yuml;", [0xff]), ("zacute;", [0x17a]), ("zcaron;", [0x17e]), ("zcy;", [0x437]), ("zdot;", [0x17c]),
  ("zeetrf;", [0x2128]), ("zeta;", [0x3b6]), ("zfr;", [0x1d537]), ("zhcy;", [0x436]), ("zigrarr;", [0x21dd]),
  ("zopf;", [0x1d56b]), ("zscr;", [0x1d4cf]), ("zwj;", [0x200d]), ("zwnj;", [0x200c])]

def namesLowerTtoZ : List (String × List Nat) :=
  namesLowerTtoZ1 ++ namesLowerTtoZ2 ++ namesLowerTtoZ3

end Phrasebook.CharRef
