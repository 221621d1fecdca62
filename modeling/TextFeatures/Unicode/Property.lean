import TextFeatures.Unicode.Ages
import TextFeatures.Unicode.BinaryProperties
import TextFeatures.Unicode.Breaks.Grapheme
import TextFeatures.Unicode.Breaks.Sentence
import TextFeatures.Unicode.Breaks.Word
import TextFeatures.Unicode.Classes
import TextFeatures.Unicode.ScriptExtensions
import TextFeatures.Unicode.Scripts

namespace TextFeatures.Unicode
open GeneralCategory

-- Sets that bear names, in lower case and without separators.
abbrev NamedSets := List (List String × CodeSet)

def NamedSets.find? (sets : NamedSets) (name : String) : Option CodeSet :=
  (List.find? (fun set : List String × CodeSet => set.1.contains name) sets).map Prod.snd

def contributorySets : NamedSets := [
  (["di", "defaultignorablecodepoint"], defaultIgnorable),
  (["oalpha", "otheralphabetic"], otherAlphabetic),
  (["ogrext", "othergraphemeextend"], otherGraphemeExtend),
  (["olower", "otherlowercase"], otherLowercase),
  (["oupper", "otheruppercase"], otherUppercase)]

inductive PropertyFamily where
  | binary
  | script
  | graphemeBreak
  | wordBreak
  | sentenceBreak
deriving DecidableEq, Repr

def PropertyFamily.sets : PropertyFamily → NamedSets
  | binary => contributorySets ++ BinaryProperty.named
  | script => Script.named
  | graphemeBreak => GraphemeBreak.named
  | wordBreak => WordBreak.named
  | sentenceBreak => SentenceBreak.named

inductive Property where
  | any
  | assigned
  | ascii
  | categories (members : List GeneralCategory)
  | alphabetic
  | lowercase
  | uppercase
  | cased
  | caseIgnorable
  | graphemeExtend
  | blank
  | word
  | decimal
  | member (family : PropertyFamily) (name : String)
  | scriptExtension (name : String)
  | age (name : String)
deriving DecidableEq, Repr

namespace Property

def addedUpTo (name : String) : NamedSets → List CodeSet
  | [] => []
  | (names, set) :: later => if names.contains name then [set] else set :: addedUpTo name later

def namesOf (name : String) (sets : NamedSets) : List String :=
  ((List.find? (fun set : List String × CodeSet => set.1.contains name) sets).map Prod.fst).getD []

def memberSet (family : PropertyFamily) (name : String) : CodeSet := (family.sets.find? name).getD []

-- A code point that several scripts share is in each of them, and in no other.
def inScriptExtension (name : String) (c : Char) : Bool :=
  match Script.scriptExtensions.find? c.toNat with
  | some scripts => scripts.any (namesOf name Script.named).contains
  | none => (memberSet .script name).contains c

def holds : Property → Char → Bool
  | any, _ => true
  | assigned, c => !hasCategory .v16 [Cn] c
  | ascii, c => isAscii c
  | categories members, c => hasCategory .v16 members c
  | alphabetic, c => isAlphabetic .v16 c
  | lowercase, c => isLowercase .v16 c
  | uppercase, c => isUppercase .v16 c
  | cased, c => isCased .v16 c
  | caseIgnorable, c => isCaseIgnorable .v16 c
  | graphemeExtend, c => isGraphemeExtend .v16 c
  | blank, c => isBlank c
  | word, c => isWord c
  | decimal, c => isDecimal c
  | member family name, c => (memberSet family name).contains c
  | scriptExtension name, c => inScriptExtension name c
  | age name, c => (addedUpTo name Age.versions).any fun set => set.contains c

def categorySpans (members : List GeneralCategory) : Spans :=
  let assigned := categoryTable.spansWhere members.contains
  if members.contains Cn then
    assigned.union (categoryTable.spansWhere fun _ => true).complement.characters
  else assigned

def blankSpans : Spans :=
  [(0x9, 0xd), (0x20, 0x20), (0x85, 0x85), (0xa0, 0xa0), (0x1680, 0x1680), (0x2000, 0x200a),
    (0x2028, 0x2029), (0x202f, 0x202f), (0x205f, 0x205f), (0x3000, 0x3000)]

def alphabeticSpans : Spans := (categorySpans (Nl :: letters)).union otherAlphabetic.spans
def lowercaseSpans : Spans := (categorySpans [Ll]).union otherLowercase.spans
def uppercaseSpans : Spans := (categorySpans [Lu]).union otherUppercase.spans

def wordSpans : Spans :=
  alphabeticSpans.union ((categorySpans (marks ++ [Nd, Pc])).union [(0x200c, 0x200d)])

def scriptExtensionSpans (name : String) : Spans :=
  let shared := Script.scriptExtensions.spansWhere fun scripts =>
    scripts.any (namesOf name Script.named).contains
  let own := (memberSet .script name).spans.difference
    (Script.scriptExtensions.spansWhere fun _ => true)
  own.union shared

-- The same characters as `holds` says.
def spans : Property → Spans
  | any => [(0, Spans.lastCode)]
  | assigned => (categorySpans [Cn]).complement
  | ascii => [(0, 0x7f)]
  | categories members => categorySpans members
  | alphabetic => alphabeticSpans
  | lowercase => lowercaseSpans
  | uppercase => uppercaseSpans
  | cased => (categorySpans [Lt]).union (lowercaseSpans.union uppercaseSpans)
  | caseIgnorable => (categorySpans [Mn, Me, Cf, Lm, Sk]).union otherCaseIgnorable.spans
  | graphemeExtend => (categorySpans [Mn, Me]).union otherGraphemeExtend.spans
  | blank => blankSpans
  | word => wordSpans
  | decimal => categorySpans [Nd]
  | member family name => (memberSet family name).spans
  | scriptExtension name => scriptExtensionSpans name
  | age name => Spans.ofPairs ((addedUpTo name Age.versions).flatMap CodeSet.spans)

-- Names are loosely matched: case, spaces, hyphens, underscores and a leading "is" do not count.
-- The one name that the leading "is" would spoil keeps it.
def looseName (name : List Char) : List Char :=
  let (body, marked) := match name with
    | 'i' :: 's' :: rest | 'I' :: 'S' :: rest | 'i' :: 'S' :: rest | 'I' :: 's' :: rest =>
      (rest, true)
    | _ => (name, false)
  let kept := (body.filter fun c => c ≠ ' ' && c ≠ '_' && c ≠ '-' && isAscii c).map Char.toLower
  if marked && kept = ['c'] then ['i', 's', 'c'] else kept

def ofMemberName? (family : PropertyFamily) (name : String) : Option Property :=
  (family.sets.find? name).map fun _ => member family name

def ofBinaryName? (name : String) : Option Property :=
  match name with
  | "alphabetic" | "alpha" => some alphabetic
  | "lowercase" | "lower" => some lowercase
  | "uppercase" | "upper" => some uppercase
  | "cased" => some cased
  | "caseignorable" | "ci" => some caseIgnorable
  | "graphemeextend" | "grext" => some graphemeExtend
  | "whitespace" | "wspace" | "space" => some blank
  | _ => ofMemberName? .binary name

def ofCategoryName? (name : String) : Option Property :=
  match name with
  | "any" => some any
  | "assigned" => some assigned
  | "ascii" => some ascii
  | _ => (GeneralCategory.ofName? name).map categories

-- The property that a bare name stands for. A yes-or-no property goes before a category and a
-- category before a script; three short names are categories although properties bear them too.
def ofName? (name : List Char) : Option Property :=
  let loose := String.ofList (looseName name)
  if ["cf", "sc", "lc"].contains loose then ofCategoryName? loose
  else match ofBinaryName? loose with
    | some property => some property
    | none => match ofCategoryName? loose with
      | some property => some property
      | none => ofMemberName? .script loose

def ofNameAndValue? (name value : List Char) : Option Property :=
  let loose := String.ofList (looseName value)
  match String.ofList (looseName name) with
  | "gc" | "generalcategory" => ofCategoryName? loose
  | "sc" | "script" => ofMemberName? .script loose
  | "scx" | "scriptextensions" =>
    (Script.named.find? fun set => set.1.contains loose).map fun _ => scriptExtension loose
  | "gcb" | "graphemeclusterbreak" => ofMemberName? .graphemeBreak loose
  | "wb" | "wordbreak" => ofMemberName? .wordBreak loose
  | "sb" | "sentencebreak" => ofMemberName? .sentenceBreak loose
  | "age" => (Age.versions.find? fun set => set.1.contains loose).map fun _ => age loose
  | _ => none

end Property

end TextFeatures.Unicode
