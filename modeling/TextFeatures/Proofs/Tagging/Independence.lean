import TextFeatures.Featurizer.Training
import TextFeatures.Proofs.Message.Updates
import TextFeatures.Proofs.Tagging.Numbering

namespace TextFeatures

namespace Bilou

variable {message : Message} {name : String} {value : Value} {data : TrainingData}

-- Tags are made from the tokens and the entities, and nothing else of a message is looked at.
theorem tagMessage_set (entities : name ≠ Field.entities) (tokens : name ≠ Field.tokens)
    (tags : name ≠ Field.entityTags) : tagMessage (message.set name value) = (tagMessage message).set name value := by
  have sameEntities : (message.set name value).entities = message.entities := by
    simp only [Message.entities, Message.get?_set, if_neg entities.symm]
  have sameTokens : (message.set name value).tokens? Field.tokens = message.tokens? Field.tokens := by
    simp only [Message.tokens?, Message.get?_set, if_neg tokens.symm]
  unfold tagMessage
  rw [sameEntities, sameTokens]
  split
  · rfl
  · exact Message.set_comm tags

theorem tagMessage_tagMessage : tagMessage (tagMessage message) = tagMessage message := by
  cases annotated : message.entities.isEmpty with
  | true =>
    have same : tagMessage message = message := if_pos annotated
    rw [same, same]
  | false =>
    have again : (tagMessage message).entities.isEmpty = false := by rw [entities_tagMessage, annotated]
    rw [tagMessage, again, tokens?_tagMessage, entities_tagMessage]
    simp only [tagMessage, annotated, Bool.false_eq_true, if_false, Message.set_set]

theorem tagExamples_tagExamples : tagExamples (tagExamples data) = tagExamples data := by
  simp only [tagExamples, List.map_map, Function.comp_def, tagMessage_tagMessage]

theorem text_tagMessage : (tagMessage message).text = message.text := by
  unfold tagMessage
  split <;> rfl

theorem messageText_tagMessage : (tagMessage message).messageText = message.messageText := by
  have tokens : Field.tokens ≠ Field.entityTags := by decide
  have lemmaTokens : Field.lemmaTokens ≠ Field.entityTags := by decide
  simp only [Message.messageText, Message.tokens?, get?_tagMessage tokens, get?_tagMessage lemmaTokens,
    text_tagMessage]

theorem intentText_tagMessage : (tagMessage message).intentText = message.intentText := by
  have intentTokens : Field.intentTokens ≠ Field.entityTags := by decide
  simp only [Message.intentText, Message.tokens?, get?_tagMessage intentTokens]

theorem responseText_tagMessage : (tagMessage message).responseText = message.responseText := by
  have responseTokens : Field.responseTokens ≠ Field.entityTags := by decide
  simp only [Message.responseText, Message.tokens?, get?_tagMessage responseTokens]

theorem hasIntent_tagMessage : (tagMessage message).hasIntent = message.hasIntent := by
  have intent : Field.intent ≠ Field.entityTags := by decide
  simp only [Message.hasIntent, Message.intent?, Message.text?, get?_tagMessage intent]

theorem textFeatures_tagMessage :
    (tagMessage message).features? Field.textFeatures = message.features? Field.textFeatures := by
  have textFeatures : Field.textFeatures ≠ Field.entityTags := by decide
  simp only [Message.features?, get?_tagMessage textFeatures]

theorem intentExamples_tagExamples : (tagExamples data).intentExamples = data.intentExamples.map tagMessage := by
  rw [tagExamples, TrainingData.intentExamples, TrainingData.intentExamples, List.filter_map]
  congr 2
  funext message
  exact hasIntent_tagMessage

end Bilou

namespace Featurizer
open Bilou

variable {config : Config} {normalizer : Normalizer} {message : Message} {features : ExampleFeatures}
  {examples : List Message} {computed : List ExampleFeatures} {data : TrainingData}

theorem tagMessage_setFeatures : tagMessage (setFeatures features message) = setFeatures features (tagMessage message) := by
  simp only [setFeatures, Message.setFeatures]
  rw [tagMessage_set (by decide) (by decide) (by decide), tagMessage_set (by decide) (by decide) (by decide),
    tagMessage_set (by decide) (by decide) (by decide)]

theorem ofExamples_tagged : Channels.ofExamples (examples.map tagMessage) = Channels.ofExamples examples := by
  simp only [Channels.ofExamples, List.map_map, Function.comp_def, messageText_tagMessage, intentText_tagMessage,
    responseText_tagMessage]

theorem mergeExample_tagged : mergeExample (tagMessage message, features) = mergeExample (message, features) := by
  have same : mergeText (tagMessage message) = mergeText message := by
    funext own
    cases own <;> simp only [mergeText, textFeatures_tagMessage]
  rw [mergeExample, mergeExample, same]

theorem merging_tagged :
    ((examples.map tagMessage).zip computed).mapM mergeExample = (examples.zip computed).mapM mergeExample := by
  rw [List.zip_map_left, List.mapM_map]
  congr 1
  funext pair
  exact mergeExample_tagged

theorem learn_tagged : learn config normalizer (examples.map tagMessage) = learn config normalizer examples := by
  simp only [learn, ofExamples_tagged, merging_tagged]

theorem mapIntentExamples_tagged : (tagExamples data).mapIntentExamples setFeatures computed =
    tagExamples (data.mapIntentExamples setFeatures computed) :=
  congrArg TrainingData.mk
    (TrainingData.updateIntents_map (fun _ => hasIntent_tagMessage) fun _ _ => tagMessage_setFeatures)

-- However training ends, it ends in the same way with tags and without, and the tags may be put on before or after.
theorem train_tagged (featurizer : Featurizer) (lemmatizer : Option Lemmatizer) (data : TrainingData) :
    featurizer.train lemmatizer (tagExamples data) =
      { featurizer.train lemmatizer data with data := tagExamples (featurizer.train lemmatizer data).data } ∧
    tagExamples (tagExamples data) = tagExamples data := by
  refine ⟨?_, tagExamples_tagExamples⟩
  simp only [train, intentExamples_tagExamples, ofExamples_tagged, learn_tagged]
  split
  · rfl
  · rfl
  · rw [mapIntentExamples_tagged]

end Featurizer

end TextFeatures
