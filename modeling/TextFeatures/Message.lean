import TextFeatures.Dictionary
import TextFeatures.Features
import TextFeatures.Tokens.Token

namespace TextFeatures

structure Entity where
  start : Nat
  stop : Nat
  label : String
  value : Option String
deriving DecidableEq, Repr

inductive Value where
  | text (text : String)
  | tokens (tokens : List Token)
  | entities (entities : List Entity)
  | features (features : Features Float)
  | tags (tags : List String)

-- Fields are named freely. These are the names that have a meaning here.
namespace Field

def tokens : String := "tokens"
def lemmaTokens : String := "lemma_tokens"
def intent : String := "intent"
def intentTokens : String := "intent_tokens"
def responseTokens : String := "response_tokens"
def entities : String := "entities"
def textFeatures : String := "text_features"
def intentFeatures : String := "intent_features"
def responseFeatures : String := "response_features"
def entityTags : String := "bilou_entities"

end Field

structure Message where
  text : String
  fields : Dictionary String Value

namespace Message

def ofText (text : String) : Message := ⟨text, ∅⟩

def set (name : String) (value : Value) (message : Message) : Message :=
  { message with fields := message.fields.insert name value }

def erase (name : String) (message : Message) : Message :=
  { message with fields := message.fields.erase name }

def get? (message : Message) (name : String) : Option Value := message.fields.get? name

def has (message : Message) (name : String) : Bool := message.fields.contains name

-- A field that holds something else than it is asked for counts as absent.

def text? (message : Message) (name : String) : Option String :=
  match message.get? name with
  | some (.text text) => some text
  | _ => none

def tokens? (message : Message) (name : String) : Option (List Token) :=
  match message.get? name with
  | some (.tokens tokens) => some tokens
  | _ => none

def features? (message : Message) (name : String) : Option (Features Float) :=
  match message.get? name with
  | some (.features features) => some features
  | _ => none

def tags? (message : Message) (name : String) : Option (List String) :=
  match message.get? name with
  | some (.tags tags) => some tags
  | _ => none

def entities (message : Message) : List Entity :=
  match message.get? Field.entities with
  | some (.entities entities) => entities
  | _ => []

def intent? (message : Message) : Option String := message.text? Field.intent

def hasIntent (message : Message) : Bool := message.intent?.isSome

def setFeatures (name : String) (features : Features Float) (message : Message) : Message :=
  message.set name (.features features)

end Message

structure TrainingData where
  examples : List Message

namespace TrainingData

def intentExamples (data : TrainingData) : List Message := data.examples.filter Message.hasIntent

def updateIntents (change : α → Message → Message) : List α → List Message → List Message
  | _, [] => []
  | [], messages => messages
  | item :: items, message :: rest =>
    if message.hasIntent then change item message :: updateIntents change items rest
    else message :: updateIntents change (item :: items) rest

def mapIntentExamples (change : α → Message → Message) (items : List α) (data : TrainingData) :
    TrainingData :=
  ⟨updateIntents change items data.examples⟩

end TrainingData

end TextFeatures
