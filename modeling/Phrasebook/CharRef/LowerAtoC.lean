/-!
# Named character references, a to c

The names of the character references of markup that start with a letter from a to c, each with the characters it
stands for. Names that may stand without their semicolon are listed in both forms.
-/

namespace Phrasebook.CharRef

def namesLowerAtoC1 : List (String × List Nat) := [
  ("aacute", [0xe1]), ("aacute;", [0xe1]), ("abreve;", [0x103]), ("ac;", [0x223e]), ("acE;", [0x223e, 0x333]),
  ("acd;", [0x223f]), ("acirc", [0xe2]), ("acirc;", [0xe2]), ("acute", [0xb4]), ("acute;", [0xb4]),
  ("acy;", [0x430]), ("aelig", [0xe6]), ("aelig;", [0xe6]), ("af;", [0x2061]), ("afr;", [0x1d51e]),
  ("agrave", [0xe0]), ("agrave;", [0xe0]), ("alefsym;", [0x2135]), ("aleph;", [0x2135]), ("alpha;", [0x3b1]),
  ("amacr;", [0x101]), ("amalg;", [0x2a3f]), ("amp", [0x26]), ("amp;", [0x26]), ("and;", [0x2227]),
  ("andand;", [0x2a55]), ("andd;", [0x2a5c]), ("andslope;", [0x2a58]), ("andv;", [0x2a5a]),
  ("ang;", [0x2220]), ("ange;", [0x29a4]), ("angle;", [0x2220]), ("angmsd;", [0x2221]),
  ("angmsdaa;", [0x29a8]), ("angmsdab;", [0x29a9]), ("angmsdac;", [0x29aa]), ("angmsdad;", [0x29ab]),
  ("angmsdae;", [0x29ac]), ("angmsdaf;", [0x29ad]), ("angmsdag;", [0x29ae]), ("angmsdah;", [0x29af]),
  ("angrt;", [0x221f]), ("angrtvb;", [0x22be]), ("angrtvbd;", [0x299d]), ("angsph;", [0x2222]),
  ("angst;", [0xc5]), ("angzarr;", [0x237c]), ("aogon;", [0x105]), ("aopf;", [0x1d552]), ("ap;", [0x2248]),
  ("apE;", [0x2a70]), ("apacir;", [0x2a6f]), ("ape;", [0x224a]), ("apid;", [0x224b]), ("apos;", [0x27]),
  ("approx;", [0x2248]), ("approxeq;", [0x224a]), ("aring", [0xe5]), ("aring;", [0xe5]), ("ascr;", [0x1d4b6]),
  ("ast;", [0x2a]), ("asymp;", [0x2248]), ("asympeq;", [0x224d]), ("atilde", [0xe3]), ("atilde;", [0xe3]),
  ("auml", [0xe4]), ("auml;", [0xe4]), ("awconint;", [0x2233]), ("awint;", [0x2a11]), ("bNot;", [0x2aed]),
  ("backcong;", [0x224c]), ("backepsilon;", [0x3f6]), ("backprime;", [0x2035]), ("backsim;", [0x223d]),
  ("backsimeq;", [0x22cd]), ("barvee;", [0x22bd]), ("barwed;", [0x2305]), ("barwedge;", [0x2305]),
  ("bbrk;", [0x23b5]), ("bbrktbrk;", [0x23b6]), ("bcong;", [0x224c]), ("bcy;", [0x431]), ("bdquo;", [0x201e]),
  ("becaus;", [0x2235]), ("because;", [0x2235]), ("bemptyv;", [0x29b0]), ("bepsi;", [0x3f6]),
  ("bernou;", [0x212c]), ("beta;", [0x3b2]), ("beth;", [0x2136]), ("between;", [0x226c]), ("bfr;", [0x1d51f]),
  ("bigcap;", [0x22c2]), ("bigcirc;", [0x25ef]), ("bigcup;", [0x22c3]), ("bigodot;", [0x2a00]),
  ("bigoplus;", [0x2a01]), ("bigotimes;", [0x2a02]), ("bigsqcup;", [0x2a06]), ("bigstar;", [0x2605])]

def namesLowerAtoC2 : List (String × List Nat) := [
  ("bigtriangledown;", [0x25bd]), ("bigtriangleup;", [0x25b3]), ("biguplus;", [0x2a04]),
  ("bigvee;", [0x22c1]), ("bigwedge;", [0x22c0]), ("bkarow;", [0x290d]), ("blacklozenge;", [0x29eb]),
  ("blacksquare;", [0x25aa]), ("blacktriangle;", [0x25b4]), ("blacktriangledown;", [0x25be]),
  ("blacktriangleleft;", [0x25c2]), ("blacktriangleright;", [0x25b8]), ("blank;", [0x2423]),
  ("blk12;", [0x2592]), ("blk14;", [0x2591]), ("blk34;", [0x2593]), ("block;", [0x2588]),
  ("bne;", [0x3d, 0x20e5]), ("bnequiv;", [0x2261, 0x20e5]), ("bnot;", [0x2310]), ("bopf;", [0x1d553]),
  ("bot;", [0x22a5]), ("bottom;", [0x22a5]), ("bowtie;", [0x22c8]), ("boxDL;", [0x2557]),
  ("boxDR;", [0x2554]), ("boxDl;", [0x2556]), ("boxDr;", [0x2553]), ("boxH;", [0x2550]), ("boxHD;", [0x2566]),
  ("boxHU;", [0x2569]), ("boxHd;", [0x2564]), ("boxHu;", [0x2567]), ("boxUL;", [0x255d]),
  ("boxUR;", [0x255a]), ("boxUl;", [0x255c]), ("boxUr;", [0x2559]), ("boxV;", [0x2551]), ("boxVH;", [0x256c]),
  ("boxVL;", [0x2563]), ("boxVR;", [0x2560]), ("boxVh;", [0x256b]), ("boxVl;", [0x2562]),
  ("boxVr;", [0x255f]), ("boxbox;", [0x29c9]), ("boxdL;", [0x2555]), ("boxdR;", [0x2552]),
  ("boxdl;", [0x2510]), ("boxdr;", [0x250c]), ("boxh;", [0x2500]), ("boxhD;", [0x2565]), ("boxhU;", [0x2568]),
  ("boxhd;", [0x252c]), ("boxhu;", [0x2534]), ("boxminus;", [0x229f]), ("boxplus;", [0x229e]),
  ("boxtimes;", [0x22a0]), ("boxuL;", [0x255b]), ("boxuR;", [0x2558]), ("boxul;", [0x2518]),
  ("boxur;", [0x2514]), ("boxv;", [0x2502]), ("boxvH;", [0x256a]), ("boxvL;", [0x2561]), ("boxvR;", [0x255e]),
  ("boxvh;", [0x253c]), ("boxvl;", [0x2524]), ("boxvr;", [0x251c]), ("bprime;", [0x2035]),
  ("breve;", [0x2d8]), ("brvbar", [0xa6]), ("brvbar;", [0xa6]), ("bscr;", [0x1d4b7]), ("bsemi;", [0x204f]),
  ("bsim;", [0x223d]), ("bsime;", [0x22cd]), ("bsol;", [0x5c]), ("bsolb;", [0x29c5]), ("bsolhsub;", [0x27c8]),
  ("bull;", [0x2022]), ("bullet;", [0x2022]), ("bump;", [0x224e]), ("bumpE;", [0x2aae]), ("bumpe;", [0x224f]),
  ("bumpeq;", [0x224f]), ("cacute;", [0x107]), ("cap;", [0x2229]), ("capand;", [0x2a44]),
  ("capbrcup;", [0x2a49]), ("capcap;", [0x2a4b]), ("capcup;", [0x2a47]), ("capdot;", [0x2a40]),
  ("caps;", [0x2229, 0xfe00]), ("caret;", [0x2041]), ("caron;", [0x2c7]), ("ccaps;", [0x2a4d]),
  ("ccaron;", [0x10d]), ("ccedil", [0xe7]), ("ccedil;", [0xe7]), ("ccirc;", [0x109])]

def namesLowerAtoC3 : List (String × List Nat) := [
  ("ccups;", [0x2a4c]), ("ccupssm;", [0x2a50]), ("cdot;", [0x10b]), ("cedil", [0xb8]), ("cedil;", [0xb8]),
  ("cemptyv;", [0x29b2]), ("cent", [0xa2]), ("cent;", [0xa2]), ("centerdot;", [0xb7]), ("cfr;", [0x1d520]),
  ("chcy;", [0x447]), ("check;", [0x2713]), ("checkmark;", [0x2713]), ("chi;", [0x3c7]), ("cir;", [0x25cb]),
  ("cirE;", [0x29c3]), ("circ;", [0x2c6]), ("circeq;", [0x2257]), ("circlearrowleft;", [0x21ba]),
  ("circlearrowright;", [0x21bb]), ("circledR;", [0xae]), ("circledS;", [0x24c8]), ("circledast;", [0x229b]),
  ("circledcirc;", [0x229a]), ("circleddash;", [0x229d]), ("cire;", [0x2257]), ("cirfnint;", [0x2a10]),
  ("cirmid;", [0x2aef]), ("cirscir;", [0x29c2]), ("clubs;", [0x2663]), ("clubsuit;", [0x2663]),
  ("colon;", [0x3a]), ("colone;", [0x2254]), ("coloneq;", [0x2254]), ("comma;", [0x2c]), ("commat;", [0x40]),
  ("comp;", [0x2201]), ("compfn;", [0x2218]), ("complement;", [0x2201]), ("complexes;", [0x2102]),
  ("cong;", [0x2245]), ("congdot;", [0x2a6d]), ("conint;", [0x222e]), ("copf;", [0x1d554]),
  ("coprod;", [0x2210]), ("copy", [0xa9]), ("copy;", [0xa9]), ("copysr;", [0x2117]), ("crarr;", [0x21b5]),
  ("cross;", [0x2717]), ("cscr;", [0x1d4b8]), ("csub;", [0x2acf]), ("csube;", [0x2ad1]), ("csup;", [0x2ad0]),
  ("csupe;", [0x2ad2]), ("ctdot;", [0x22ef]), ("cudarrl;", [0x2938]), ("cudarrr;", [0x2935]),
  ("cuepr;", [0x22de]), ("cuesc;", [0x22df]), ("cularr;", [0x21b6]), ("cularrp;", [0x293d]),
  ("cup;", [0x222a]), ("cupbrcap;", [0x2a48]), ("cupcap;", [0x2a46]), ("cupcup;", [0x2a4a]),
  ("cupdot;", [0x228d]), ("cupor;", [0x2a45]), ("cups;", [0x222a, 0xfe00]), ("curarr;", [0x21b7]),
  ("curarrm;", [0x293c]), ("curlyeqprec;", [0x22de]), ("curlyeqsucc;", [0x22df]), ("curlyvee;", [0x22ce]),
  ("curlywedge;", [0x22cf]), ("curren", [0xa4]), ("curren;", [0xa4]), ("curvearrowleft;", [0x21b6]),
  ("curvearrowright;", [0x21b7]), ("cuvee;", [0x22ce]), ("cuwed;", [0x22cf]), ("cwconint;", [0x2232]),
  ("cwint;", [0x2231]), ("cylcty;", [0x232d])]

def namesLowerAtoC : List (String × List Nat) :=
  namesLowerAtoC1 ++ namesLowerAtoC2 ++ namesLowerAtoC3

end Phrasebook.CharRef
