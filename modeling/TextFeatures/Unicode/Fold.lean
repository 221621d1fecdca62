import TextFeatures.Unicode.Classes
import TextFeatures.Unicode.Fold.Table

namespace TextFeatures.Unicode

def foldChar (c : Char) : Char :=
  match foldTable.find? c.toNat with
  | some [folded] => folded
  | _ => c

def foldedFrom (folded : Char) : List Char :=
  folded :: foldTable.flatMap fun row =>
    (row.entries.filter fun entry => entry.value = [folded]).map fun entry => Char.ofNat entry.first

def caseVariants (c : Char) : List Char := foldedFrom (foldChar c)

def foldings : List (Nat × Nat) :=
  foldTable.flatMap fun row => row.entries.filterMap fun entry =>
    entry.value.head?.map fun folded => (entry.first, folded.toNat)

def caseClosure (spans : Spans) : Spans :=
  match spans with
  | [(first, last)] =>
    if first = last then
      Spans.ofPairs ((caseVariants (Char.ofNat first)).map fun c => (c.toNat, c.toNat))
    else closure
  | _ => closure
where
  closure : Spans :=
    let met := foldings.filterMap fun (c, folded) =>
      if spans.contains c || spans.contains folded then some folded else none
    let added := foldings.flatMap fun (c, folded) =>
      if met.contains folded then [(c, c), (folded, folded)] else []
    spans.union (Spans.ofPairs added)

def asciiCaseClosure (spans : Spans) : Spans :=
  let upper := spans.intersection [('A'.toNat, 'Z'.toNat)]
  let lower := spans.intersection [('a'.toNat, 'z'.toNat)]
  spans.union (Spans.ofPairs (upper.map (fun span => (span.1 + 0x20, span.2 + 0x20)) ++
    lower.map fun span => (span.1 - 0x20, span.2 - 0x20)))

def asciiCaseVariants (c : Char) : List Char :=
  if isAsciiUpper c then [c, c.toLower] else if isAsciiLower c then [c, c.toUpper] else [c]

end TextFeatures.Unicode
