import TextFeatures.Tagging.Bilou

namespace TextFeatures

abbrev TagIds := Dictionary String Nat

namespace TagIds
open Bilou

-- The tag of unaligned tokens counts as a label here, like any other tag without a position.
def labels (data : TrainingData) : List String :=
  let tags := (data.examples.filterMap fun message => message.tags? Field.entityTags).flatten
  sortedDistinct ((tags.map labelOf).filter (· ≠ outsideTag))

def tagsOfLabel (rank : Nat) (label : String) : List (String × Nat) :=
  Position.all.zipIdx.map fun position =>
    (position.1.tag label, Position.all.length * rank + position.2 + 1)

def ofLabels (labels : List String) : TagIds :=
  Dictionary.insert outsideTag 0
    (Dictionary.ofList (labels.zipIdx.flatMap fun label => tagsOfLabel label.2 label.1))

def ofData (data : TrainingData) : TagIds := ofLabels (labels data)

def outside (ids : TagIds) : Nat := (ids.get? outsideTag).getD 0

-- A tag without a number counts as outside, and so does each token of a message without tags.
def ofMessage (ids : TagIds) (message : Message) : List Nat :=
  match message.tags? Field.entityTags with
  | some (tag :: more) => (tag :: more).map fun tag => (ids.get? tag).getD ids.outside
  | _ => List.replicate ((message.tokens? Field.tokens).elim 0 List.length) ids.outside

end TagIds

end TextFeatures
