import TextFeatures.Unicode.Additions
import TextFeatures.Unicode.Category.Table
import TextFeatures.Unicode.Contributory

namespace TextFeatures.Unicode
open GeneralCategory

-- A version of the standard. Patterns go by version 16; texts are processed by version 17.
inductive Version where
  | v16
  | v17
deriving DecidableEq, Repr

def generalCategory (version : Version) (c : Char) : GeneralCategory :=
  let earlier := (categoryTable.find? c.toNat).getD Cn
  match version with
  | .v16 => earlier
  | .v17 => (laterCategories.find? c.toNat).getD earlier

def hasCategory (version : Version) (categories : List GeneralCategory) (c : Char) : Bool :=
  categories.contains (generalCategory version c)

-- The code points with the property White_Space, line and paragraph separators among them.
def isBlank (c : Char) : Bool :=
  let code := c.toNat
  (0x9 ≤ code && code ≤ 0xd) || code = 0x20 || code = 0x85 || code = 0xa0 || code = 0x1680 ||
    (0x2000 ≤ code && code ≤ 0x200a) || code = 0x2028 || code = 0x2029 || code = 0x202f ||
    code = 0x205f || code = 0x3000

def isAscii (c : Char) : Bool := c.toNat < 0x80

def isAsciiDigit (c : Char) : Bool := '0' ≤ c && c ≤ '9'
def isAsciiUpper (c : Char) : Bool := 'A' ≤ c && c ≤ 'Z'
def isAsciiLower (c : Char) : Bool := 'a' ≤ c && c ≤ 'z'
def isAsciiLetter (c : Char) : Bool := isAsciiUpper c || isAsciiLower c
def isAsciiWord (c : Char) : Bool := isAsciiLetter c || isAsciiDigit c || c = '_'

def inSet (version : Version) (set later : CodeSet) (c : Char) : Bool :=
  set.contains c || (version = .v17 && later.contains c)

-- Accents are stripped by data that already has the marks of the draft after version 17.
def isMark (c : Char) : Bool := hasCategory .v17 marks c || draftMarks.contains c

def isDecimal (c : Char) : Bool := if isAscii c then isAsciiDigit c else hasCategory .v16 [Nd] c

def isAlphabetic (version : Version) (c : Char) : Bool :=
  if isAscii c then isAsciiLetter c
  else hasCategory version (Nl :: letters) c || inSet version otherAlphabetic laterAlphabetic c

def isAlphanumeric (version : Version) (c : Char) : Bool :=
  if isAscii c then isAsciiLetter c || isAsciiDigit c
  else isAlphabetic version c || hasCategory version numbers c

def isJoinControl (c : Char) : Bool := c.toNat = 0x200c || c.toNat = 0x200d

-- Word characters: letters, marks, decimal digits, connectors such as the underscore, and the
-- two joiners.
def isWord (c : Char) : Bool :=
  if isAscii c then isAsciiWord c
  else hasCategory .v16 (Nl :: letters ++ marks ++ [Nd, Pc]) c || otherAlphabetic.contains c ||
    isJoinControl c

def isLowercase (version : Version) (c : Char) : Bool :=
  if isAscii c then isAsciiLower c
  else hasCategory version [Ll] c || inSet version otherLowercase laterLowercase c

def isUppercase (version : Version) (c : Char) : Bool :=
  if isAscii c then isAsciiUpper c
  else hasCategory version [Lu] c || otherUppercase.contains c

def isCased (version : Version) (c : Char) : Bool :=
  if isAscii c then isAsciiLetter c
  else hasCategory version [Lt] c || isLowercase version c || isUppercase version c

def isCaseIgnorable (version : Version) (c : Char) : Bool :=
  hasCategory version [Mn, Me, Cf, Lm, Sk] c || otherCaseIgnorable.contains c

def isGraphemeExtend (version : Version) (c : Char) : Bool :=
  if isAscii c then false
  else hasCategory version [Mn, Me] c || otherGraphemeExtend.contains c

-- What is shown as a part of the character before it. The two halfwidth sound marks extend the character
-- before them too, but take a place of their own.
def isAttached (c : Char) : Bool :=
  isGraphemeExtend .v17 c && c.toNat ≠ 0xff9e && c.toNat ≠ 0xff9f

def isIgnorable (c : Char) : Bool := defaultIgnorable.contains c

def isPrintable (c : Char) : Bool :=
  if isAscii c then 0x20 ≤ c.toNat && c.toNat < 0x7f
  else !hasCategory .v17 (others ++ separators) c

end TextFeatures.Unicode
