import TextFeatures.Message

namespace TextFeatures

namespace Message

-- An empty list of tokens says nothing, so what comes next is asked.
def messageText (message : Message) : String :=
  match message.tokens? Field.lemmaTokens, message.tokens? Field.tokens with
  | some (token :: more), _ => joined ((token :: more).map Token.baseFormOrText)
  | _, some (token :: more) => joined (textsOf (token :: more))
  | _, _ => message.text

def intentText (message : Message) : String :=
  match message.tokens? Field.intentTokens with
  | none => ""
  | some tokens => joined (textsOf tokens)

-- A message without a response has a blank one.
def responseText (message : Message) : String :=
  match message.tokens? Field.responseTokens with
  | none => " "
  | some tokens => joined (textsOf tokens)

end Message

structure Channels where
  messages : List String
  intents : List String
  responses : List String

namespace Channels

def ofExamples (examples : List Message) : Channels where
  messages := examples.map Message.messageText
  intents := examples.map Message.intentText
  responses := examples.map Message.responseText

end Channels

end TextFeatures
