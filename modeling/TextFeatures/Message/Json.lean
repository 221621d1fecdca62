import TextFeatures.Features.Json
import TextFeatures.Message

namespace TextFeatures

def Json.optionalText? : Option Json → Option (Option String) :=
  Json.withDefault? (Json.optional? Json.text?) none

def Token.toJson (token : Token) : Json := .record [
  ("text", .text token.text),
  ("start", .natural token.start),
  ("end", .natural token.stop),
  ("lemma", .optional Json.text token.baseForm)]

def Token.ofJson? (value : Json) : Option Token :=
  match value.fields? ["text", "start", "end", "lemma"] with
  | some [text, start, stop, baseForm] => do
    return {
      text := ← Json.required? Json.text? text
      start := ← Json.required? Json.natural? start
      stop := ← Json.required? Json.natural? stop
      baseForm := ← Json.optionalText? baseForm }
  | _ => none

def Entity.toJson (entity : Entity) : Json := .record [
  ("start", .natural entity.start),
  ("end", .natural entity.stop),
  ("entity", .text entity.label),
  ("value", .optional Json.text entity.value)]

def Entity.ofJson? (value : Json) : Option Entity :=
  match value.fields? ["start", "end", "entity", "value"] with
  | some [start, stop, label, value] => do
    return {
      start := ← Json.required? Json.natural? start
      stop := ← Json.required? Json.natural? stop
      label := ← Json.required? Json.text? label
      value := ← Json.optionalText? value }
  | _ => none

namespace Value

def toJson : Value → Json
  | text held => .record [("Text", .text held)]
  | tokens held => .record [("Tokens", .array (held.map Token.toJson))]
  | entities held => .record [("Entities", .array (held.map Entity.toJson))]
  | features held => .record [("Features", held.toJson)]
  | tags held => .record [("Tags", .array (held.map .text))]

def ofJson? (value : Json) : Option Value :=
  match value.tagged? with
  | some ("Text", contents) => contents.text?.map text
  | some ("Tokens", contents) => (contents.list? Token.ofJson?).map tokens
  | some ("Entities", contents) => (contents.list? Entity.ofJson?).map entities
  | some ("Features", contents) => (Features.ofJson? contents).map features
  | some ("Tags", contents) => (contents.list? Json.text?).map tags
  | _ => none

end Value

namespace Message

def toJson (message : Message) : Json := .record [
  ("text", .text message.text),
  ("fields", .record (message.fields.entries.map fun field => (field.1, field.2.toJson)))]

def field? (member : Option String × Json) : Option (String × Value) := do
  return (← member.1, ← Value.ofJson? member.2)

-- Of several fields of one name the last one stays.
def fieldsJson? : Json → Option (Dictionary String Value)
  | .object members => (members.mapM field?).map Dictionary.ofList
  | _ => none

def ofJson? (value : Json) : Option Message :=
  match value.fields? ["text", "fields"] with
  | some [text, fields] => do
    return ⟨← Json.required? Json.text? text, ← Json.required? fieldsJson? fields⟩
  | _ => none

end Message

namespace TrainingData

def toJson (data : TrainingData) : Json := .record [
  ("training_examples", .array (data.examples.map Message.toJson))]

def ofJson? (value : Json) : Option TrainingData :=
  match value.fields? ["training_examples"] with
  | some [examples] => (Json.required? (Json.list? Message.ofJson?) examples).map TrainingData.mk
  | _ => none

end TrainingData

end TextFeatures
