import TextFeatures.Config
import TextFeatures.Dictionary
import TextFeatures.Json.Decode

namespace TextFeatures

structure VocabularyBounds where
  least : DocumentFrequency
  most : DocumentFrequency
  limit : Option Nat

namespace VocabularyBounds

def default : VocabularyBounds := ⟨.count 1, .share 1, none⟩

def ofConfig (config : Config) : VocabularyBounds :=
  ⟨config.leastFrequency, config.mostFrequency, config.featureLimit⟩

end VocabularyBounds

structure Vocabulary where
  indices : Dictionary String Nat
deriving DecidableEq

def insertBy (before : α → α → Bool) (x : α) : List α → List α
  | [] => [x]
  | y :: rest => if before x y then x :: y :: rest else y :: insertBy before x rest

def sortBy (before : α → α → Bool) (xs : List α) : List α := xs.foldr (insertBy before) []

namespace Vocabulary

def empty : Vocabulary := ⟨∅⟩

def documentFrequencies (documents : List (List String)) : Dictionary String Nat :=
  Dictionary.tally (documents.flatMap sortedDistinct)

def termFrequencies (documents : List (List String)) : Dictionary String Nat :=
  Dictionary.tally documents.flatten

def ranksBefore (a b : String × Nat) : Bool := b.2 < a.2 || (a.2 = b.2 && a.1 ≤ b.1)

def keepMostFrequent (limit : Option Nat) (terms : List (String × Nat)) : List (String × Nat) :=
  match limit with
  | none => terms
  | some n => if n < terms.length then (sortBy ranksBefore terms).take n else terms

-- Terms in increasing order get the columns from zero on.
def ofTerms (terms : List String) : Vocabulary :=
  ⟨Dictionary.ofList (sortedDistinct terms).zipIdx⟩

def build (documents : List (List String)) (bounds : VocabularyBounds) :
    Except VocabularyError Vocabulary :=
  let frequencies := documentFrequencies documents
  let least := bounds.least.resolve documents.length
  let most := bounds.most.resolve documents.length
  if frequencies.size = 0 then .error .empty
  else if most < least then .error (.inconsistent least most)
  else
    let totals := termFrequencies documents
    let inBounds := frequencies.entries.filter fun entry =>
      least ≤ Float.ofNat entry.2 && Float.ofNat entry.2 ≤ most
    let counted := inBounds.map fun entry => (entry.1, (totals.get? entry.1).getD 0)
    let kept := keepMostFrequent bounds.limit counted
    if kept.isEmpty then .error .pruned else .ok (ofTerms (kept.map Prod.fst))

def index? (vocabulary : Vocabulary) (term : String) : Option Nat := vocabulary.indices.get? term

def contains (vocabulary : Vocabulary) (term : String) : Bool := vocabulary.indices.contains term

def size (vocabulary : Vocabulary) : Nat := vocabulary.indices.size

def terms (vocabulary : Vocabulary) : List String :=
  (sortBy (fun a b => a.2 ≤ b.2) vocabulary.indices.entries).map Prod.fst

def member? (member : Option String × Json) : Option (String × Nat) := do
  let term ← member.1
  let index ← member.2.natural?
  return (term, index)

def ofJson? (value : Json) : Option Vocabulary :=
  match value.fields? ["terms"] with
  | some [some (.object members)] =>
    (members.mapM member?).map fun entries => ⟨Dictionary.ofList entries⟩
  | _ => none

end Vocabulary

end TextFeatures
