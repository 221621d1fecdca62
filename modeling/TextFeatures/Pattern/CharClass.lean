import TextFeatures.Unicode.Fold
import TextFeatures.Unicode.Property

namespace TextFeatures.Pattern
open Unicode

inductive CharClass where
  | empty
  | range (first last : Char)
  | property (property : Property)
  | union (left right : CharClass)
  | intersection (left right : CharClass)
  | difference (left right : CharClass)
  | exclusion (left right : CharClass)
  | complement (body : CharClass)
  | anyCase (body : CharClass)
  | anyAsciiCase (body : CharClass)
deriving DecidableEq, Repr

namespace CharClass

def contains : CharClass → Char → Bool
  | empty, _ => false
  | range first last, c => first ≤ c && c ≤ last
  | property p, c => p.holds c
  | union left right, c => left.contains c || right.contains c
  | intersection left right, c => left.contains c && right.contains c
  | difference left right, c => left.contains c && !right.contains c
  | exclusion left right, c => left.contains c != right.contains c
  | complement body, c => !body.contains c
  | anyCase body, c => (caseVariants c).any body.contains
  | anyAsciiCase body, c => (asciiCaseVariants c).any body.contains

-- The same characters as `contains` says.
def spans : CharClass → Spans
  | empty => []
  | range first last => [(first.toNat, last.toNat)]
  | property p => p.spans
  | union left right => left.spans.union right.spans
  | intersection left right => left.spans.intersection right.spans
  | difference left right => left.spans.difference right.spans
  | exclusion left right => left.spans.exclusion right.spans
  | complement body => body.spans.complement
  | anyCase body => caseClosure body.spans
  | anyAsciiCase body => asciiCaseClosure body.spans

def single (c : Char) : CharClass := range c c

def ofList (classes : List CharClass) : CharClass := classes.foldr union empty

def ranges (pairs : List (Char × Char)) : CharClass :=
  ofList (pairs.map fun pair => range pair.1 pair.2)

def asciiDigit : CharClass := range '0' '9'
def asciiBlank : CharClass := ranges [('\t', '\r'), (' ', ' ')]
def asciiWord : CharClass := ranges [('0', '9'), ('A', 'Z'), ('_', '_'), ('a', 'z')]

def named? : String → Option CharClass
  | "alnum" => some (ranges [('0', '9'), ('A', 'Z'), ('a', 'z')])
  | "alpha" => some (ranges [('A', 'Z'), ('a', 'z')])
  | "ascii" => some (range '\x00' '\x7f')
  | "blank" => some (ranges [('\t', '\t'), (' ', ' ')])
  | "cntrl" => some (ranges [('\x00', '\x1f'), ('\x7f', '\x7f')])
  | "digit" => some asciiDigit
  | "graph" => some (range '!' '~')
  | "lower" => some (range 'a' 'z')
  | "print" => some (range ' ' '~')
  | "punct" => some (ranges [('!', '/'), (':', '@'), ('[', '\x60'), ('\x7b', '~')])
  | "space" => some asciiBlank
  | "upper" => some (range 'A' 'Z')
  | "word" => some asciiWord
  | "xdigit" => some (ranges [('0', '9'), ('A', 'F'), ('a', 'f')])
  | _ => none

end CharClass

end TextFeatures.Pattern
