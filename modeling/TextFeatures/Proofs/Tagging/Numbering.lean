import TextFeatures.Proofs.Dictionary
import TextFeatures.Proofs.Tagging.Decoding
import TextFeatures.Tagging.TagIds

namespace TextFeatures

namespace Bilou

variable {position other : Position} {label another tag : String} {tokens : List Token} {entities : List Entity}
  {message : Message}

def Position.rank : Position → Nat
  | begin => 0
  | inside => 1
  | unit => 2
  | last => 3

theorem Position.rank_inj (same : position.rank = other.rank) : position = other := by
  cases position <;> cases other <;> first | rfl | cases same

theorem tag_inj (same : position.tag label = other.tag another) : position = other ∧ label = another := by
  have positions := congrArg position? same
  have labels := congrArg labelOf same
  rw [position?_tag, position?_tag] at positions
  rw [labelOf_tag, labelOf_tag] at labels
  exact ⟨Option.some.inj positions, labels⟩

theorem tag_ne_outsideTag : position.tag label ≠ outsideTag := by
  intro same
  have positions := congrArg position? same
  rw [position?_tag] at positions
  cases positions

theorem tag_ne_unalignedTag : position.tag label ≠ unalignedTag := by
  intro same
  have positions := congrArg position? same
  rw [position?_tag] at positions
  cases positions

theorem cases_of_mem_tags (member : tag ∈ tags tokens entities) :
    tag = outsideTag ∨ tag = unalignedTag ∨ ∃ (position : Position) (label : String), tag = position.tag label := by
  obtain ⟨mark, _, rfl⟩ := List.mem_map.mp member
  cases mark with
  | outside => exact .inl rfl
  | unaligned => exact .inr (.inl rfl)
  | placed position label => exact .inr (.inr ⟨position, label, rfl⟩)

@[simp] theorem tags?_set {tags : List String} :
    (message.set Field.entityTags (.tags tags)).tags? Field.entityTags = some tags := by
  simp [Message.tags?, Message.set, Message.get?]

theorem get?_tagMessage {name : String} (other : name ≠ Field.entityTags) :
    (tagMessage message).get? name = message.get? name := by
  unfold tagMessage
  split
  · rfl
  · exact Dictionary.get?_insert.trans (if_neg other)

theorem tokens?_tagMessage : (tagMessage message).tokens? Field.tokens = message.tokens? Field.tokens := by
  have other : Field.tokens ≠ Field.entityTags := by decide
  rw [Message.tokens?, Message.tokens?, get?_tagMessage other]

theorem entities_tagMessage : (tagMessage message).entities = message.entities := by
  have other : Field.entities ≠ Field.entityTags := by decide
  rw [Message.entities, Message.entities, get?_tagMessage other]

theorem tags?_tagMessage (annotated : message.entities ≠ []) :
    (tagMessage message).tags? Field.entityTags =
      some (tags ((message.tokens? Field.tokens).getD []) message.entities) := by
  have there : message.entities.isEmpty = false := by simpa using annotated
  simp only [tagMessage, there, Bool.false_eq_true, if_false, tags?_set]

end Bilou

namespace TagIds
open Bilou

variable {labels : List String} {label tag other : String} {rank id : Nat} {ids : TagIds} {data : TrainingData}
  {tagged message : Message}

def number (ids : TagIds) (tag : String) : Nat := (ids.get? tag).getD ids.outside

def tagOf? (ids : TagIds) (id : Nat) : Option String := (ids.entries.find? fun entry => entry.2 = id).map Prod.fst

theorem mem_tagsOfLabel : (tag, id) ∈ tagsOfLabel rank label ↔
    ∃ position : Position, tag = position.tag label ∧ id = 4 * rank + position.rank + 1 := by
  unfold tagsOfLabel
  constructor
  · intro member
    simp only [Position.all, List.zipIdx_cons, List.zipIdx_nil, List.map_cons, List.map_nil, List.mem_cons,
      Prod.mk.injEq, List.not_mem_nil, or_false] at member
    rcases member with ⟨rfl, rfl⟩ | ⟨rfl, rfl⟩ | ⟨rfl, rfl⟩ | ⟨rfl, rfl⟩
    · exact ⟨.begin, rfl, rfl⟩
    · exact ⟨.inside, rfl, rfl⟩
    · exact ⟨.unit, rfl, rfl⟩
    · exact ⟨.last, rfl, rfl⟩
  · rintro ⟨position, rfl, rfl⟩
    cases position <;> simp [Position.all, Position.rank]

-- A tag that has a number, in the row of its label, behind that of the tokens outside all entities.
inductive Ranked (labels : List String) : String → Nat → Prop
  | outside : Ranked labels outsideTag 0
  | placed {position : Position} {label : String} {rank : Nat} : labels[rank]? = some label →
      Ranked labels (position.tag label) (4 * rank + position.rank + 1)

theorem Ranked.eq_zero (ranked : Ranked labels outsideTag id) : id = 0 := by
  generalize spelled : outsideTag = tag at ranked
  cases ranked with
  | outside => rfl
  | placed => exact absurd spelled.symm tag_ne_outsideTag

theorem Ranked.mem {position : Position} (ranked : Ranked labels (position.tag label) id) : label ∈ labels := by
  generalize spelled : position.tag label = tag at ranked
  cases ranked with
  | outside => exact absurd spelled tag_ne_outsideTag
  | placed there =>
    obtain ⟨_, rfl⟩ := tag_inj spelled
    exact List.mem_of_getElem? there

theorem mem_tagsOfLabels : (tag, id) ∈ (labels.zipIdx.flatMap fun label => tagsOfLabel label.2 label.1) ↔
    ∃ (position : Position) (label : String) (rank : Nat), labels[rank]? = some label ∧ tag = position.tag label ∧
      id = 4 * rank + position.rank + 1 := by
  simp only [List.mem_flatMap, mem_tagsOfLabel]
  constructor
  · rintro ⟨⟨label, rank⟩, member, position, written, counted⟩
    exact ⟨position, label, rank, List.mem_zipIdx_iff_getElem?.mp member, written, counted⟩
  · rintro ⟨position, label, rank, there, written, counted⟩
    exact ⟨(label, rank), List.mem_zipIdx_iff_getElem?.mpr there, position, written, counted⟩

theorem tagsOfLabels_apart (distinct : labels.Nodup) :
    (labels.zipIdx.flatMap fun label => tagsOfLabel label.2 label.1).Pairwise fun a b => a.1 ≠ b.1 := by
  rw [List.pairwise_flatMap]
  constructor
  · rintro ⟨label, rank⟩ _
    have spelled (a b : Position) (different : a ≠ b) : a.tag label ≠ b.tag label :=
      fun same => different (tag_inj same).1
    simp [tagsOfLabel, Position.all, spelled]
  · have labelsApart : labels.zipIdx.Pairwise fun a b => a.1 ≠ b.1 := by
      have names : (labels.zipIdx.map Prod.fst).Pairwise (· ≠ ·) := by rwa [List.zipIdx_map_fst]
      exact List.pairwise_map.mp names
    refine labelsApart.imp ?_
    rintro ⟨label, rank⟩ ⟨another, later⟩ different ⟨tag, id⟩ member ⟨other, otherId⟩ otherMember same
    obtain ⟨position, written, _⟩ := mem_tagsOfLabel.mp member
    obtain ⟨otherPosition, otherWritten, _⟩ := mem_tagsOfLabel.mp otherMember
    rw [written, otherWritten] at same
    exact different (tag_inj same).2

-- The numbers are given out row by row and never twice.
theorem get?_ofLabels (distinct : labels.Nodup) : (ofLabels labels).get? tag = some id ↔ Ranked labels tag id := by
  rw [ofLabels, Dictionary.get?_insert]
  by_cases outside : tag = outsideTag
  · subst outside
    rw [if_pos rfl]
    constructor
    · rintro ⟨⟩
      exact .outside
    · exact fun ranked => congrArg some ranked.eq_zero.symm
  · rw [if_neg outside, Dictionary.get?_ofList (tagsOfLabels_apart distinct), mem_tagsOfLabels]
    constructor
    · rintro ⟨position, label, rank, there, rfl, rfl⟩
      exact .placed there
    · intro ranked
      cases ranked with
      | outside => exact absurd rfl outside
      | placed there => exact ⟨_, _, _, there, rfl, rfl⟩

theorem Ranked.unique (one : Ranked labels tag id) (two : Ranked labels other id) : tag = other := by
  cases one with
  | outside =>
    generalize zero : 0 = n at two
    cases two with
    | outside => rfl
    | placed => omega
  | @placed position label rank there =>
    generalize counted : 4 * rank + position.rank + 1 = n at two
    cases two with
    | outside => omega
    | @placed otherPosition another otherRank otherThere =>
      have small : position.rank < 4 := by cases position <;> decide
      have otherSmall : otherPosition.rank < 4 := by cases otherPosition <;> decide
      obtain rfl : rank = otherRank := by omega
      obtain rfl : position = otherPosition := Position.rank_inj (by omega)
      cases there.symm.trans otherThere
      rfl

theorem tagOf?_eq_some (distinct : labels.Nodup) (ranked : Ranked labels tag id) :
    (ofLabels labels).tagOf? id = some tag := by
  have member : (tag, id) ∈ (ofLabels labels).entries :=
    Dictionary.get?_eq_some_iff.mp ((get?_ofLabels distinct).mpr ranked)
  cases found : (ofLabels labels).entries.find? fun entry => entry.2 = id with
  | none =>
    have absent := List.find?_eq_none.mp found (tag, id) member
    simp at absent
  | some entry =>
    obtain ⟨first, held⟩ := entry
    have same : held = id := by simpa using List.find?_some found
    subst same
    have among := Dictionary.get?_eq_some_iff.mpr (List.mem_of_find?_eq_some found)
    have alike := ((get?_ofLabels distinct).mp among).unique ranked
    rw [tagOf?, found, Option.map_some, alike]

theorem outside_ofLabels (distinct : labels.Nodup) : (ofLabels labels).outside = 0 := by
  rw [outside, (get?_ofLabels distinct).mpr .outside]
  rfl

theorem number_of_ranked (distinct : labels.Nodup) (ranked : Ranked labels tag id) :
    (ofLabels labels).number tag = id := by
  rw [number, (get?_ofLabels distinct).mpr ranked, Option.getD_some]

theorem number_of_unranked (distinct : labels.Nodup) (unranked : ∀ id, ¬Ranked labels tag id) :
    (ofLabels labels).number tag = 0 := by
  have absent : (ofLabels labels).get? tag = none := by
    cases found : (ofLabels labels).get? tag with
    | none => rfl
    | some id => exact absurd ((get?_ofLabels distinct).mp found) (unranked id)
  rw [number, absent, Option.getD_none, outside_ofLabels distinct]

theorem labels_nodup : (TagIds.labels data).Nodup := by
  refine (sortedDistinct_ordered _).imp ?_
  rintro a _ before rfl
  exact String.lt_irrefl a before

theorem mem_labels : label ∈ TagIds.labels data ↔ label ≠ outsideTag ∧ ∃ message ∈ data.examples,
    ∃ tags, message.tags? Field.entityTags = some tags ∧ ∃ tag ∈ tags, labelOf tag = label := by
  simp only [TagIds.labels, mem_sortedDistinct, List.mem_filter, List.mem_map, List.mem_flatten, List.mem_filterMap,
    decide_eq_true_eq]
  constructor
  · rintro ⟨⟨tag, ⟨tags, ⟨message, member, told⟩, among⟩, named⟩, different⟩
    exact ⟨different, message, member, tags, told, tag, among, named⟩
  · rintro ⟨different, message, member, tags, told, tag, among, named⟩
    exact ⟨⟨tag, ⟨tags, ⟨message, member, told⟩, among⟩, named⟩, different⟩

-- A tag of the data has a number of its own, unless its label is spelled like the tag of tokens outside all entities.
theorem ranked_of_mem {position : Position} {tags : List String} (member : message ∈ data.examples)
    (told : message.tags? Field.entityTags = some tags) (among : position.tag label ∈ tags)
    (different : label ≠ outsideTag) : ∃ id, id ≠ 0 ∧ Ranked (TagIds.labels data) (position.tag label) id := by
  have listed : label ∈ TagIds.labels data :=
    mem_labels.mpr ⟨different, message, member, tags, told, _, among, labelOf_tag position label⟩
  obtain ⟨rank, there⟩ := List.getElem?_of_mem listed
  exact ⟨_, by omega, .placed there⟩

theorem not_ranked_outside {position : Position} : ¬Ranked (TagIds.labels data) (position.tag outsideTag) id :=
  fun ranked => (mem_labels.mp ranked.mem).1 rfl

theorem not_ranked_unaligned : ¬Ranked labels unalignedTag id := by
  intro ranked
  generalize spelled : unalignedTag = tag at ranked
  cases ranked with
  | outside => exact absurd spelled (by decide)
  | placed => exact tag_ne_unalignedTag spelled.symm

theorem ofMessage_eq {tags : List String} (told : message.tags? Field.entityTags = some tags)
    (each : tags.length = ((message.tokens? Field.tokens).getD []).length) :
    ids.ofMessage message = tags.map ids.number := by
  unfold ofMessage
  rw [told]
  cases tags with
  | cons tag more => rfl
  | nil =>
    have none : (message.tokens? Field.tokens).elim 0 List.length = 0 := by
      cases tokens : message.tokens? Field.tokens with
      | none => rfl
      | some held => simpa [tokens, eq_comm] using each
    simp [none]

structure Numbers (data : TrainingData) (tagged : Message) (index : Nat) (tag : String) (id : Nat) : Prop where
  member : tagged ∈ (tagExamples data).examples
  annotated : tagged.entities ≠ []
  tag : ∃ tags, tagged.tags? Field.entityTags = some tags ∧ tags[index]? = some tag
  id : ((ofData (tagExamples data)).ofMessage tagged)[index]? = some id

-- Only the tokens without an entity have the number zero, and entity tags have numbers of their own.
structure Faithful (data : TrainingData) : Prop where
  zero : ∀ tagged index tag id, Numbers data tagged index tag id → (id = 0 ↔ tag = "O" ∨ tag = "-")
  apart : ∀ tagged index tag id other otherIndex otherTag otherId, Numbers data tagged index tag id →
    Numbers data other otherIndex otherTag otherId → (position? tag).isSome = true →
    (position? otherTag).isSome = true → tag ≠ otherTag → id ≠ otherId

theorem tags?_of_tagged (member : tagged ∈ (tagExamples data).examples) (annotated : tagged.entities ≠ []) :
    tagged.tags? Field.entityTags = some (tags ((tagged.tokens? Field.tokens).getD []) tagged.entities) := by
  obtain ⟨message, _, rfl⟩ := List.mem_map.mp member
  rw [entities_tagMessage] at annotated ⊢
  rw [tokens?_tagMessage, tags?_tagMessage annotated]

theorem ofMessage_of_tagged (member : tagged ∈ (tagExamples data).examples) (annotated : tagged.entities ≠ []) :
    ids.ofMessage tagged = (tags ((tagged.tokens? Field.tokens).getD []) tagged.entities).map ids.number :=
  ofMessage_eq (tags?_of_tagged member annotated) length_tagsWith

-- What the number of a tag can be. An entity whose label is spelled like the tag of tokens outside all entities is
-- lost.
inductive Told (labels : List String) : String → Nat → Prop
  | outside : Told labels outsideTag 0
  | unaligned : Told labels unalignedTag 0
  | lost {position : Position} : Told labels (position.tag outsideTag) 0
  | ranked {position : Position} {label : String} {id : Nat} : label ≠ outsideTag → id ≠ 0 →
      Ranked labels (position.tag label) id → Told labels (position.tag label) id

theorem Numbers.told {index : Nat} (numbers : Numbers data tagged index tag id) :
    Told (TagIds.labels (tagExamples data)) tag id := by
  obtain ⟨member, annotated, ⟨held, told, there⟩, counted⟩ := numbers
  have written := tags?_of_tagged member annotated
  cases told.symm.trans written
  have among := List.mem_of_getElem? there
  rw [ofMessage_of_tagged member annotated, List.getElem?_map, there, Option.map_some] at counted
  obtain rfl := Option.some.inj counted
  rcases cases_of_mem_tags among with rfl | rfl | ⟨position, label, rfl⟩
  · rw [ofData, number_of_ranked labels_nodup .outside]
    exact .outside
  · rw [ofData, number_of_unranked labels_nodup fun _ => not_ranked_unaligned]
    exact .unaligned
  · by_cases same : label = outsideTag
    · subst same
      rw [ofData, number_of_unranked labels_nodup fun _ => not_ranked_outside]
      exact .lost
    · obtain ⟨id, positive, ranked⟩ := ranked_of_mem member told among same
      rw [ofData, number_of_ranked labels_nodup ranked]
      exact .ranked same positive ranked

theorem Told.eq_zero {position : Position} (told : Told labels (position.tag outsideTag) id) : id = 0 := by
  generalize spelled : position.tag outsideTag = tag at told
  cases told with
  | outside => rfl
  | unaligned => rfl
  | lost => rfl
  | ranked different => exact absurd (tag_inj spelled).2.symm different

theorem kept_iff : tag ∉ ["B-O", "I-O", "U-O", "L-O"] ↔ ∀ position : Position, tag ≠ position.tag outsideTag := by
  constructor
  · rintro unlisted position rfl
    cases position <;> exact unlisted (by decide)
  · intro unlike listed
    simp only [List.mem_cons, List.not_mem_nil, or_false] at listed
    rcases listed with rfl | rfl | rfl | rfl
    · exact unlike .begin (by decide)
    · exact unlike .inside (by decide)
    · exact unlike .unit (by decide)
    · exact unlike .last (by decide)

theorem faithful_of_kept (kept : ∀ tagged index tag id, Numbers data tagged index tag id →
    ∀ position : Position, tag ≠ position.tag outsideTag) : Faithful data where
  zero tagged index tag id numbers := by
    have unlike := kept tagged index tag id numbers
    cases numbers.told with
    | outside => simp [outsideTag]
    | unaligned => simp [unalignedTag]
    | lost => exact absurd rfl (unlike _)
    | ranked _ positive =>
      constructor
      · exact fun zero => absurd zero positive
      · rintro (outside | unaligned)
        · exact absurd outside tag_ne_outsideTag
        · exact absurd unaligned tag_ne_unalignedTag
  apart tagged index tag id other otherIndex otherTag otherId numbers otherNumbers placed otherPlaced different := by
    have unlike := kept tagged index tag id numbers
    have otherUnlike := kept other otherIndex otherTag otherId otherNumbers
    cases numbers.told with
    | outside => cases placed
    | unaligned => cases placed
    | lost => exact absurd rfl (unlike _)
    | ranked _ _ ranked =>
      cases otherNumbers.told with
      | outside => cases otherPlaced
      | unaligned => cases otherPlaced
      | lost => exact absurd rfl (otherUnlike _)
      | ranked _ _ otherRanked =>
        intro same
        subst same
        exact different (ranked.unique otherRanked)

-- Every token of an example with entities has a number, and a number that is not zero gives its tag back. Just one
-- spelling of a label stands in the way of telling all entity tags apart.
theorem faithful_iff_kept (data : TrainingData) :
    (∀ tagged ∈ (tagExamples data).examples, tagged.entities ≠ [] →
      ((ofData (tagExamples data)).ofMessage tagged).length = ((tagged.tokens? Field.tokens).getD []).length) ∧
    (∀ tagged index tag id, Numbers data tagged index tag id →
      id = 0 ∨ (ofData (tagExamples data)).tagOf? id = some tag) ∧
    (Faithful data ↔ ∀ tagged index tag id, Numbers data tagged index tag id →
      tag ∉ ["B-O", "I-O", "U-O", "L-O"]) := by
  refine ⟨?_, ?_, ?_⟩
  · intro tagged member annotated
    rw [ofMessage_of_tagged member annotated, List.length_map]
    exact length_tagsWith
  · intro tagged index tag id numbers
    cases numbers.told with
    | outside => exact .inl rfl
    | unaligned => exact .inl rfl
    | lost => exact .inl rfl
    | ranked _ _ ranked => exact .inr (tagOf?_eq_some labels_nodup ranked)
  · simp only [kept_iff]
    constructor
    · rintro faithful tagged index tag id numbers position rfl
      have zero := (faithful.zero tagged index _ id numbers).mp numbers.told.eq_zero
      rcases zero with outside | unaligned
      · exact tag_ne_outsideTag outside
      · exact tag_ne_unalignedTag unaligned
    · exact faithful_of_kept

-- A letter that is an entity, labelled as if it were none.
def oddlyLabelled : TrainingData :=
  ⟨[((Message.ofText "a").set Field.tokens (.tokens [.plain "a" 0 1])).set Field.entities
    (.entities [⟨0, 1, "O", none⟩])]⟩

theorem oddly_labelled_lost : ¬Faithful oddlyLabelled := by
  intro faithful
  have numbers : Numbers oddlyLabelled (tagMessage oddlyLabelled.examples[0]) 0 "U-O" 0 :=
    ⟨List.mem_singleton.mpr rfl, by decide +kernel, ⟨["U-O"], by decide +kernel, rfl⟩, by decide +kernel⟩
  have spared := (faithful.zero _ 0 "U-O" 0 numbers).mp rfl
  exact absurd spared (by decide)

end TagIds

end TextFeatures
