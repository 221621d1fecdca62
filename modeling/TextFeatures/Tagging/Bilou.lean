import TextFeatures.Message

namespace TextFeatures.Bilou

-- Where a token stands in an entity: first of several, between, alone, or last.
inductive Position where
  | begin
  | inside
  | unit
  | last
deriving DecidableEq, Repr

namespace Position

def all : List Position := [begin, inside, unit, last]

def letter : Position → Char
  | begin => 'B'
  | inside => 'I'
  | unit => 'U'
  | last => 'L'

def ofLetter? : Char → Option Position
  | 'B' => some begin
  | 'I' => some inside
  | 'U' => some unit
  | 'L' => some last
  | _ => none

def mark (position : Position) : String := String.ofList [position.letter, '-']

def tag (position : Position) (label : String) : String := position.mark ++ label

end Position

def position? (tag : String) : Option Position :=
  match tag.toList with
  | letter :: '-' :: _ => Position.ofLetter? letter
  | _ => none

-- All of a tag that names no position.
def labelOf (tag : String) : String :=
  match position? tag with
  | none => tag
  | some _ => String.ofList (tag.toList.drop 2)

def outsideTag : String := "O"

-- The tag of a token that meets an entity without being part of one.
def unalignedTag : String := "-"

inductive Mark where
  | outside
  | unaligned
  | placed (position : Position) (label : String)
deriving DecidableEq, Repr

def Mark.tag (missing : String) : Mark → String
  | outside => missing
  | unaligned => unalignedTag
  | placed position label => position.tag label

def lastIndex? (accepts : α → Bool) (xs : List α) : Option Nat :=
  ((xs.zipIdx.filter fun x => accepts x.1).getLast?).map Prod.snd

-- Offsets are compared exactly: an entity that starts or stops inside a token has no span of tokens.
def span? (tokens : List Token) (entity : Entity) : Option (Nat × Nat) := do
  let first ← lastIndex? (fun token => token.start = entity.start) tokens
  let last ← lastIndex? (fun token => token.stop = entity.stop) tokens
  return (first, last)

def positionIn? (first last index : Nat) : Option Position :=
  if first = last then if index = first then some .unit else none
  else if index = first then some .begin
  else if index = last then some .last
  else if first < index ∧ index < last then some .inside
  else none

def place (tokens : List Token) (marks : List Mark) (entity : Entity) : List Mark :=
  match span? tokens entity with
  | none => marks
  | some (first, last) =>
    marks.mapIdx fun index mark =>
      match positionIn? first last index with
      | none => mark
      | some position => .placed position entity.label

def overlap (token : Token) (entity : Entity) : Bool :=
  max token.start entity.start < min token.stop entity.stop

def settle (entities : List Entity) (token : Token) (mark : Mark) : Mark :=
  if mark = .unaligned && !entities.any (overlap token) then .outside else mark

-- Where entities overlap, the later one counts.
def marks (tokens : List Token) (entities : List Entity) : List Mark :=
  List.zipWith (settle entities) tokens
    (entities.foldl (place tokens) (List.replicate tokens.length .unaligned))

def tagsWith (missing : String) (tokens : List Token) (entities : List Entity) : List String :=
  (marks tokens entities).map (Mark.tag missing)

def tags (tokens : List Token) (entities : List Entity) : List String :=
  tagsWith outsideTag tokens entities

def tagMessage (message : Message) : Message :=
  if message.entities.isEmpty then message
  else
    let tokens := (message.tokens? Field.tokens).getD []
    message.set Field.entityTags (.tags (tags tokens message.entities))

def tagExamples (data : TrainingData) : TrainingData := ⟨data.examples.map tagMessage⟩

end TextFeatures.Bilou
