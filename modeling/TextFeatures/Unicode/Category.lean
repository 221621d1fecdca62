import TextFeatures.Unicode.Table

namespace TextFeatures.Unicode

-- The general categories of characters; surrogates are none.
inductive GeneralCategory where
  | Lu | Ll | Lt | Lm | Lo
  | Mn | Mc | Me
  | Nd | Nl | No
  | Pc | Pd | Ps | Pe | Pi | Pf | Po
  | Sm | Sc | Sk | So
  | Zs | Zl | Zp
  | Cc | Cf | Co | Cn
deriving DecidableEq, Repr

namespace GeneralCategory

def ofAbbreviation : List Char → GeneralCategory
  | ['L', 'u'] => Lu | ['L', 'l'] => Ll | ['L', 't'] => Lt | ['L', 'm'] => Lm | ['L', 'o'] => Lo
  | ['M', 'n'] => Mn | ['M', 'c'] => Mc | ['M', 'e'] => Me
  | ['N', 'd'] => Nd | ['N', 'l'] => Nl | ['N', 'o'] => No
  | ['P', 'c'] => Pc | ['P', 'd'] => Pd | ['P', 's'] => Ps | ['P', 'e'] => Pe
  | ['P', 'i'] => Pi | ['P', 'f'] => Pf | ['P', 'o'] => Po
  | ['S', 'm'] => Sm | ['S', 'c'] => Sc | ['S', 'k'] => Sk | ['S', 'o'] => So
  | ['Z', 's'] => Zs | ['Z', 'l'] => Zl | ['Z', 'p'] => Zp
  | ['C', 'c'] => Cc | ['C', 'f'] => Cf | ['C', 'o'] => Co
  | _ => Cn

def letters : List GeneralCategory := [Lu, Ll, Lt, Lm, Lo]
def marks : List GeneralCategory := [Mn, Mc, Me]
def numbers : List GeneralCategory := [Nd, Nl, No]
def punctuation : List GeneralCategory := [Pc, Pd, Ps, Pe, Pi, Pf, Po]
def symbols : List GeneralCategory := [Sm, Sc, Sk, So]
def separators : List GeneralCategory := [Zs, Zl, Zp]
def others : List GeneralCategory := [Cc, Cf, Co, Cn]

-- Names are compared in lower case and without spaces, hyphens and underscores.
def ofName? : String → Option (List GeneralCategory)
  | "lu" | "uppercaseletter" => some [Lu]
  | "ll" | "lowercaseletter" => some [Ll]
  | "lt" | "titlecaseletter" => some [Lt]
  | "lc" | "casedletter" => some [Lu, Ll, Lt]
  | "lm" | "modifierletter" => some [Lm]
  | "lo" | "otherletter" => some [Lo]
  | "l" | "letter" => some letters
  | "mn" | "nonspacingmark" => some [Mn]
  | "mc" | "spacingmark" => some [Mc]
  | "me" | "enclosingmark" => some [Me]
  | "m" | "mark" | "combiningmark" => some marks
  | "nd" | "decimalnumber" | "digit" => some [Nd]
  | "nl" | "letternumber" => some [Nl]
  | "no" | "othernumber" => some [No]
  | "n" | "number" => some numbers
  | "pc" | "connectorpunctuation" => some [Pc]
  | "pd" | "dashpunctuation" => some [Pd]
  | "ps" | "openpunctuation" => some [Ps]
  | "pe" | "closepunctuation" => some [Pe]
  | "pi" | "initialpunctuation" => some [Pi]
  | "pf" | "finalpunctuation" => some [Pf]
  | "po" | "otherpunctuation" => some [Po]
  | "p" | "punctuation" | "punct" => some punctuation
  | "sm" | "mathsymbol" => some [Sm]
  | "sc" | "currencysymbol" => some [Sc]
  | "sk" | "modifiersymbol" => some [Sk]
  | "so" | "othersymbol" => some [So]
  | "s" | "symbol" => some symbols
  | "zs" | "spaceseparator" => some [Zs]
  | "zl" | "lineseparator" => some [Zl]
  | "zp" | "paragraphseparator" => some [Zp]
  | "z" | "separator" => some separators
  | "cc" | "control" | "cntrl" => some [Cc]
  | "cf" | "format" => some [Cf]
  | "co" | "privateuse" => some [Co]
  | "cn" | "unassigned" => some [Cn]
  | "c" | "other" => some others
  | _ => none

end GeneralCategory

def categoryRow : Nat → Nat → String → Row GeneralCategory := row GeneralCategory.ofAbbreviation

end TextFeatures.Unicode
