/-!
# Named character references, d to g

The names of the character references of markup that start with a letter from d to g, each with the characters it
stands for. Names that may stand without their semicolon are listed in both forms.
-/

namespace Phrasebook.CharRef

def namesLowerDtoG1 : List (String × List Nat) := [
  ("dArr;", [0x21d3]), ("dHar;", [0x2965]), ("dagger;", [0x2020]), ("daleth;", [0x2138]), ("darr;", [0x2193]),
  ("dash;", [0x2010]), ("dashv;", [0x22a3]), ("dbkarow;", [0x290f]), ("dblac;", [0x2dd]),
  ("dcaron;", [0x10f]), ("dcy;", [0x434]), ("dd;", [0x2146]), ("ddagger;", [0x2021]), ("ddarr;", [0x21ca]),
  ("ddotseq;", [0x2a77]), ("deg", [0xb0]), ("deg;", [0xb0]), ("delta;", [0x3b4]), ("demptyv;", [0x29b1]),
  ("dfisht;", [0x297f]), ("dfr;", [0x1d521]), ("dharl;", [0x21c3]), ("dharr;", [0x21c2]), ("diam;", [0x22c4]),
  ("diamond;", [0x22c4]), ("diamondsuit;", [0x2666]), ("diams;", [0x2666]), ("die;", [0xa8]),
  ("digamma;", [0x3dd]), ("disin;", [0x22f2]), ("div;", [0xf7]), ("divide", [0xf7]), ("divide;", [0xf7]),
  ("divideontimes;", [0x22c7]), ("divonx;", [0x22c7]), ("djcy;", [0x452]), ("dlcorn;", [0x231e]),
  ("dlcrop;", [0x230d]), ("dollar;", [0x24]), ("dopf;", [0x1d555]), ("dot;", [0x2d9]), ("doteq;", [0x2250]),
  ("doteqdot;", [0x2251]), ("dotminus;", [0x2238]), ("dotplus;", [0x2214]), ("dotsquare;", [0x22a1]),
  ("doublebarwedge;", [0x2306]), ("downarrow;", [0x2193]), ("downdownarrows;", [0x21ca]),
  ("downharpoonleft;", [0x21c3]), ("downharpoonright;", [0x21c2]), ("drbkarow;", [0x2910]),
  ("drcorn;", [0x231f]), ("drcrop;", [0x230c]), ("dscr;", [0x1d4b9]), ("dscy;", [0x455]), ("dsol;", [0x29f6]),
  ("dstrok;", [0x111]), ("dtdot;", [0x22f1]), ("dtri;", [0x25bf]), ("dtrif;", [0x25be]), ("duarr;", [0x21f5]),
  ("duhar;", [0x296f]), ("dwangle;", [0x29a6]), ("dzcy;", [0x45f]), ("dzigrarr;", [0x27ff]),
  ("eDDot;", [0x2a77]), ("eDot;", [0x2251]), ("eacute", [0xe9]), ("eacute;", [0xe9]), ("easter;", [0x2a6e]),
  ("ecaron;", [0x11b]), ("ecir;", [0x2256]), ("ecirc", [0xea]), ("ecirc;", [0xea]), ("ecolon;", [0x2255]),
  ("ecy;", [0x44d]), ("edot;", [0x117]), ("ee;", [0x2147]), ("efDot;", [0x2252]), ("efr;", [0x1d522]),
  ("eg;", [0x2a9a]), ("egrave", [0xe8]), ("egrave;", [0xe8]), ("egs;", [0x2a96]), ("egsdot;", [0x2a98]),
  ("el;", [0x2a99]), ("elinters;", [0x23e7]), ("ell;", [0x2113]), ("els;", [0x2a95]), ("elsdot;", [0x2a97]),
  ("emacr;", [0x113]), ("empty;", [0x2205]), ("emptyset;", [0x2205]), ("emptyv;", [0x2205]),
  ("emsp13;", [0x2004]), ("emsp14;", [0x2005]), ("emsp;", [0x2003]), ("eng;", [0x14b]), ("ensp;", [0x2002])]

def namesLowerDtoG2 : List (String × List Nat) := [
  ("eogon;", [0x119]), ("eopf;", [0x1d556]), ("epar;", [0x22d5]), ("eparsl;", [0x29e3]), ("eplus;", [0x2a71]),
  ("epsi;", [0x3b5]), ("epsilon;", [0x3b5]), ("epsiv;", [0x3f5]), ("eqcirc;", [0x2256]),
  ("eqcolon;", [0x2255]), ("eqsim;", [0x2242]), ("eqslantgtr;", [0x2a96]), ("eqslantless;", [0x2a95]),
  ("equals;", [0x3d]), ("equest;", [0x225f]), ("equiv;", [0x2261]), ("equivDD;", [0x2a78]),
  ("eqvparsl;", [0x29e5]), ("erDot;", [0x2253]), ("erarr;", [0x2971]), ("escr;", [0x212f]),
  ("esdot;", [0x2250]), ("esim;", [0x2242]), ("eta;", [0x3b7]), ("eth", [0xf0]), ("eth;", [0xf0]),
  ("euml", [0xeb]), ("euml;", [0xeb]), ("euro;", [0x20ac]), ("excl;", [0x21]), ("exist;", [0x2203]),
  ("expectation;", [0x2130]), ("exponentiale;", [0x2147]), ("fallingdotseq;", [0x2252]), ("fcy;", [0x444]),
  ("female;", [0x2640]), ("ffilig;", [0xfb03]), ("fflig;", [0xfb00]), ("ffllig;", [0xfb04]),
  ("ffr;", [0x1d523]), ("filig;", [0xfb01]), ("fjlig;", [0x66, 0x6a]), ("flat;", [0x266d]),
  ("fllig;", [0xfb02]), ("fltns;", [0x25b1]), ("fnof;", [0x192]), ("fopf;", [0x1d557]), ("forall;", [0x2200]),
  ("fork;", [0x22d4]), ("forkv;", [0x2ad9]), ("fpartint;", [0x2a0d]), ("frac12", [0xbd]), ("frac12;", [0xbd]),
  ("frac13;", [0x2153]), ("frac14", [0xbc]), ("frac14;", [0xbc]), ("frac15;", [0x2155]),
  ("frac16;", [0x2159]), ("frac18;", [0x215b]), ("frac23;", [0x2154]), ("frac25;", [0x2156]),
  ("frac34", [0xbe]), ("frac34;", [0xbe]), ("frac35;", [0x2157]), ("frac38;", [0x215c]),
  ("frac45;", [0x2158]), ("frac56;", [0x215a]), ("frac58;", [0x215d]), ("frac78;", [0x215e]),
  ("frasl;", [0x2044]), ("frown;", [0x2322]), ("fscr;", [0x1d4bb]), ("gE;", [0x2267]), ("gEl;", [0x2a8c]),
  ("gacute;", [0x1f5]), ("gamma;", [0x3b3]), ("gammad;", [0x3dd]), ("gap;", [0x2a86]), ("gbreve;", [0x11f]),
  ("gcirc;", [0x11d]), ("gcy;", [0x433]), ("gdot;", [0x121]), ("ge;", [0x2265]), ("gel;", [0x22db]),
  ("geq;", [0x2265]), ("geqq;", [0x2267]), ("geqslant;", [0x2a7e]), ("ges;", [0x2a7e]), ("gescc;", [0x2aa9]),
  ("gesdot;", [0x2a80]), ("gesdoto;", [0x2a82]), ("gesdotol;", [0x2a84]), ("gesl;", [0x22db, 0xfe00]),
  ("gesles;", [0x2a94]), ("gfr;", [0x1d524]), ("gg;", [0x226b]), ("ggg;", [0x22d9]), ("gimel;", [0x2137]),
  ("gjcy;", [0x453]), ("gl;", [0x2277])]

def namesLowerDtoG3 : List (String × List Nat) := [
  ("glE;", [0x2a92]), ("gla;", [0x2aa5]), ("glj;", [0x2aa4]), ("gnE;", [0x2269]), ("gnap;", [0x2a8a]),
  ("gnapprox;", [0x2a8a]), ("gne;", [0x2a88]), ("gneq;", [0x2a88]), ("gneqq;", [0x2269]),
  ("gnsim;", [0x22e7]), ("gopf;", [0x1d558]), ("grave;", [0x60]), ("gscr;", [0x210a]), ("gsim;", [0x2273]),
  ("gsime;", [0x2a8e]), ("gsiml;", [0x2a90]), ("gt", [0x3e]), ("gt;", [0x3e]), ("gtcc;", [0x2aa7]),
  ("gtcir;", [0x2a7a]), ("gtdot;", [0x22d7]), ("gtlPar;", [0x2995]), ("gtquest;", [0x2a7c]),
  ("gtrapprox;", [0x2a86]), ("gtrarr;", [0x2978]), ("gtrdot;", [0x22d7]), ("gtreqless;", [0x22db]),
  ("gtreqqless;", [0x2a8c]), ("gtrless;", [0x2277]), ("gtrsim;", [0x2273]), ("gvertneqq;", [0x2269, 0xfe00]),
  ("gvnE;", [0x2269, 0xfe00])]

def namesLowerDtoG : List (String × List Nat) :=
  namesLowerDtoG1 ++ namesLowerDtoG2 ++ namesLowerDtoG3

end Phrasebook.CharRef
