import Mathlib.Data.List.Forall2
import TextFeatures.Message
import TextFeatures.Proofs.Dictionary

namespace TextFeatures

namespace Message

variable {message : Message} {name other : String} {features : Features Float} {value another : Value}

@[simp] theorem get?_set :
    (message.set name value).get? other = if other = name then some value else message.get? other :=
  Dictionary.get?_insert

@[simp] theorem get?_setFeatures : (message.setFeatures name features).get? other =
    if other = name then some (.features features) else message.get? other :=
  Dictionary.get?_insert

theorem features?_eq_some_iff : message.features? name = some features ↔ message.get? name = some (.features features) := by
  unfold features?
  split
  · rename_i found here
    simp [here]
  · rename_i other
    constructor
    · intro impossible
      cases impossible
    · exact fun there => absurd there (other features)

theorem get?_erase : (message.erase name).get? other = if other = name then none else message.get? other :=
  Dictionary.get?_erase

theorem features?_erase : (message.erase name).features? name = none := by
  rw [features?, get?_erase, if_pos rfl]

theorem eq_of_get? {a b : Message} (sameText : a.text = b.text) (sameFields : ∀ name, a.get? name = b.get? name) :
    a = b := by
  obtain ⟨text, fields⟩ := a
  obtain ⟨_, others⟩ := b
  obtain rfl : text = _ := sameText
  exact congrArg (Message.mk text) (Dictionary.eq_of_get? sameFields)

theorem set_comm (different : name ≠ other) :
    (message.set name value).set other another = (message.set other another).set name value := by
  refine eq_of_get? rfl fun field => ?_
  simp only [get?_set]
  by_cases first : field = name
  · subst first
    rw [if_neg different, if_pos rfl, if_pos rfl]
  · rw [if_neg first, if_neg first]

theorem set_set : (message.set name value).set name another = message.set name another := by
  refine eq_of_get? rfl fun field => ?_
  simp only [get?_set]
  by_cases same : field = name
  · rw [if_pos same, if_pos same]
  · rw [if_neg same, if_neg same, if_neg same]

end Message

namespace TrainingData

-- The items of those who have an intent go to them in order, and the others are passed over.
inductive Updated {α : Type} (change : α → Message → Message) (fits : Message → α → Prop) :
    Message → Message → Prop
  | changed {message : Message} {item : α} : message.hasIntent = true → fits message item →
      Updated change fits message (change item message)
  | kept {message : Message} : message.hasIntent = false → Updated change fits message message

variable {α : Type} {change : α → Message → Message} {fits : Message → α → Prop} {items : List α}
  {messages : List Message}

theorem updateIntents_nil : updateIntents change [] messages = messages := by
  cases messages <;> rfl

theorem updateIntents_cons_of_not {message : Message} (intent : message.hasIntent = false) :
    updateIntents change items (message :: messages) = message :: updateIntents change items messages := by
  cases items with
  | nil => rw [updateIntents_nil, updateIntents_nil]
  | cons item items => simp [updateIntents, intent]

theorem updateIntents_map {each : Message → Message} (sameIntent : ∀ message, (each message).hasIntent = message.hasIntent)
    (commutes : ∀ item message, each (change item message) = change item (each message)) :
    updateIntents change items (messages.map each) = (updateIntents change items messages).map each := by
  induction messages generalizing items with
  | nil => cases items <;> rfl
  | cons message rest ih =>
    cases intent : message.hasIntent with
    | false =>
      rw [List.map_cons, updateIntents_cons_of_not ((sameIntent message).trans intent), updateIntents_cons_of_not intent,
        List.map_cons, ih]
    | true =>
      cases items with
      | nil => rw [updateIntents_nil, updateIntents_nil]
      | cons item items =>
        rw [List.map_cons, updateIntents, updateIntents, sameIntent, intent, if_pos rfl, if_pos rfl, List.map_cons,
          commutes, ih]

theorem forall₂_updateIntents (given : List.Forall₂ fits (messages.filter Message.hasIntent) items) :
    List.Forall₂ (Updated change fits) messages (updateIntents change items messages) := by
  induction messages generalizing items with
  | nil =>
    cases given
    exact .nil
  | cons message rest ih =>
    cases intent : message.hasIntent with
    | false =>
      rw [List.filter_cons_of_neg (by simp [intent])] at given
      rw [updateIntents_cons_of_not intent]
      exact .cons (.kept intent) (ih given)
    | true =>
      rw [List.filter_cons_of_pos intent] at given
      cases given with
      | cons fit later =>
        rw [updateIntents, intent]
        exact .cons (.changed intent fit) (ih later)

end TrainingData

end TextFeatures
