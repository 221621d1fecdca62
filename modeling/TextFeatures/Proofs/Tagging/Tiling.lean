import Mathlib.Data.Finset.Card
import TextFeatures.Proofs.Tagging.Numbering

namespace TextFeatures.TagIds
open Bilou

variable {labels : List String} {label tag : String} {rank id : Nat} {ids : TagIds} {data other : TrainingData}
  {message : Message}

-- The names of entities that the tags in the data tell. One name does not count: that which is spelled like the tag of
-- tokens outside all entities.
def labelSet (data : TrainingData) : Finset String :=
  let tags := data.examples.flatMap fun message => (message.tags? Field.entityTags).getD []
  (tags.map labelOf).toFinset.erase outsideTag

def rankIn (names : Finset String) (label : String) : Nat := (names.filter (· < label)).card

-- The numbering that a set of names calls for: four numbers in a row for each of them, row by row.
inductive Numbering (names : Finset String) : String → Nat → Prop
  | outside : Numbering names "O" 0
  | begin {label : String} : label ∈ names → Numbering names ("B-" ++ label) (4 * rankIn names label + 1)
  | inside {label : String} : label ∈ names → Numbering names ("I-" ++ label) (4 * rankIn names label + 2)
  | unit {label : String} : label ∈ names → Numbering names ("U-" ++ label) (4 * rankIn names label + 3)
  | last {label : String} : label ∈ names → Numbering names ("L-" ++ label) (4 * rankIn names label + 4)

theorem toFinset_labels : (TagIds.labels data).toFinset = labelSet data := by
  ext label
  rw [List.mem_toFinset, mem_labels, labelSet, Finset.mem_erase, List.mem_toFinset, List.mem_map]
  refine and_congr_right fun _ => ⟨?_, ?_⟩
  · rintro ⟨message, member, tags, told, tag, among, named⟩
    exact ⟨tag, List.mem_flatMap.mpr ⟨message, member, by rwa [told]⟩, named⟩
  · rintro ⟨tag, among, named⟩
    obtain ⟨message, member, inside⟩ := List.mem_flatMap.mp among
    cases told : message.tags? Field.entityTags with
    | none => simp [told] at inside
    | some tags => exact ⟨message, member, tags, told, tag, by simpa [told] using inside, named⟩

theorem labels_ordered : (TagIds.labels data).Pairwise (· < ·) := sortedDistinct_ordered _

theorem mem_labelSet : label ∈ labelSet data ↔ label ∈ TagIds.labels data := by
  rw [← toFinset_labels, List.mem_toFinset]

theorem card_labelSet : (labelSet data).card = (TagIds.labels data).length := by
  rw [← toFinset_labels, List.toFinset_card_of_nodup labels_nodup]

theorem rankIn_labelSet : rankIn (labelSet data) label = (TagIds.labels data).countP (· < label) := by
  rw [List.countP_eq_length_filter, ← List.toFinset_card_of_nodup (labels_nodup.filter _), List.toFinset_filter,
    toFinset_labels, rankIn]
  simp only [decide_eq_true_eq]

theorem getElem?_labels_iff : (TagIds.labels data)[rank]? = some label ↔
    label ∈ labelSet data ∧ rank = rankIn (labelSet data) label := by
  rw [mem_labelSet, rankIn_labelSet]
  constructor
  · exact fun there => ⟨List.mem_of_getElem? there, (countP_eq_of_increasing labels_ordered there).symm⟩
  · rintro ⟨member, rfl⟩
    obtain ⟨place, there⟩ := List.getElem?_of_mem member
    rwa [countP_eq_of_increasing labels_ordered there]

theorem ranked_iff : Ranked (TagIds.labels data) tag id ↔ Numbering (labelSet data) tag id := by
  constructor
  · intro ranked
    cases ranked with
    | outside => exact .outside
    | @placed position label rank there =>
      obtain ⟨member, rfl⟩ := getElem?_labels_iff.mp there
      cases position with
      | begin => exact .begin member
      | inside => exact .inside member
      | unit => exact .unit member
      | last => exact .last member
  · have placed (position : Position) {label : String} (member : label ∈ labelSet data) :
        Ranked (TagIds.labels data) (position.tag label) (4 * rankIn (labelSet data) label + position.rank + 1) :=
      .placed (getElem?_labels_iff.mpr ⟨member, rfl⟩)
    intro numbering
    cases numbering with
    | outside => exact .outside
    | begin member => exact placed .begin member
    | inside member => exact placed .inside member
    | unit member => exact placed .unit member
    | last member => exact placed .last member

-- The rows tile the numbers from one on: none is left out, and none lies behind the last row.

theorem Ranked.le (ranked : Ranked labels tag id) : id ≤ 4 * labels.length := by
  cases ranked with
  | outside => exact Nat.zero_le _
  | @placed position label rank there =>
    have bound := (List.getElem?_eq_some_iff.mp there).1
    have small : position.rank < 4 := by cases position <;> decide
    omega

theorem exists_rank (small : rank < 4) : ∃ position : Position, position.rank = rank := by
  match rank with
  | 0 => exact ⟨.begin, rfl⟩
  | 1 => exact ⟨.inside, rfl⟩
  | 2 => exact ⟨.unit, rfl⟩
  | 3 => exact ⟨.last, rfl⟩

theorem exists_ranked (bound : id ≤ 4 * labels.length) : ∃ tag, Ranked labels tag id := by
  cases id with
  | zero => exact ⟨_, .outside⟩
  | succ id =>
    obtain ⟨position, inRow⟩ := exists_rank (Nat.mod_lt id (Nat.zero_lt_succ 3))
    have there : labels[id / 4]? = some labels[id / 4] := List.getElem?_eq_getElem (by omega)
    have counted : 4 * (id / 4) + position.rank + 1 = id + 1 := by omega
    exact ⟨position.tag labels[id / 4], counted ▸ Ranked.placed there⟩

theorem get?_ofData : (ofData data).get? tag = some id ↔ Ranked (TagIds.labels data) tag id :=
  get?_ofLabels labels_nodup

-- Data that tell the same names have the same dictionary, in whatever order and however often they tell them.
theorem ofData_congr (same : labelSet other = labelSet data) : ofData other = ofData data := by
  have listed : TagIds.labels other = TagIds.labels data :=
    eq_of_increasing labels_ordered labels_ordered fun label => by rw [← mem_labelSet, same, mem_labelSet]
  rw [ofData, ofData, listed]

theorem number_le : (ofData data).number tag ≤ 4 * (TagIds.labels data).length := by
  cases found : (ofData data).get? tag with
  | none => rw [number, found, Option.getD_none, ofData, outside_ofLabels labels_nodup]; exact Nat.zero_le _
  | some id => rw [number, found, Option.getD_some]; exact (get?_ofData.mp found).le

theorem le_of_mem_ofMessage (member : id ∈ (ofData data).ofMessage message) :
    id ≤ 4 * (TagIds.labels data).length := by
  unfold ofMessage at member
  split at member
  · obtain ⟨tag, _, rfl⟩ := List.mem_map.mp member
    exact number_le
  · rw [List.eq_of_mem_replicate member, ofData, outside_ofLabels labels_nodup]
    exact Nat.zero_le _

-- Once its entities are tagged, a message has a number for each of its tokens, whether it has entities or not.
theorem length_ofMessage_tagMessage (untagged : message.tags? Field.entityTags = none) :
    (ids.ofMessage (tagMessage message)).length = ((message.tokens? Field.tokens).getD []).length := by
  by_cases annotated : message.entities = []
  · have same : tagMessage message = message := if_pos (List.isEmpty_iff.mpr annotated)
    rw [same, ofMessage, untagged, List.length_replicate]
    cases message.tokens? Field.tokens <;> rfl
  · have each : (tags ((message.tokens? Field.tokens).getD []) message.entities).length =
        (((tagMessage message).tokens? Field.tokens).getD []).length := by
      rw [tokens?_tagMessage]
      exact length_tagsWith
    rw [ofMessage_eq (tags?_tagMessage annotated) each, List.length_map]
    exact length_tagsWith

-- The dictionary is the numbering that the names in the data call for. It goes through all numbers up to four for each
-- name, and no number that is given for a tag is beyond them.
theorem dense_numbering (data : TrainingData) :
    (∀ tag id, (ofData data).get? tag = some id ↔ Numbering (labelSet data) tag id) ∧
    (∀ tag id, (ofData data).get? tag = some id → id ≤ 4 * (labelSet data).card) ∧
    (∀ id ≤ 4 * (labelSet data).card, ∃! tag, (ofData data).get? tag = some id) ∧
    (∀ other, labelSet other = labelSet data → ofData other = ofData data) ∧
    (∀ message, ∀ id ∈ (ofData data).ofMessage message, id ≤ 4 * (labelSet data).card) ∧
    ((∀ message ∈ data.examples, message.tags? Field.entityTags = none) →
      ∀ (ids : TagIds), ∀ tagged ∈ (tagExamples data).examples,
        (ids.ofMessage tagged).length = ((tagged.tokens? Field.tokens).getD []).length) := by
  rw [card_labelSet]
  refine ⟨?_, ?_, ?_, ?_, ?_, ?_⟩
  · exact fun tag id => get?_ofData.trans ranked_iff
  · exact fun tag id found => (get?_ofData.mp found).le
  · intro id bound
    obtain ⟨tag, ranked⟩ := exists_ranked bound
    exact ⟨tag, get?_ofData.mpr ranked, fun other found => (get?_ofData.mp found).unique ranked⟩
  · exact fun other same => ofData_congr same
  · exact fun message id member => le_of_mem_ofMessage member
  · intro untagged ids tagged member
    obtain ⟨message, among, rfl⟩ := List.mem_map.mp member
    rw [tokens?_tagMessage]
    exact length_ofMessage_tagMessage (untagged message among)

-- One entity is a token, and another one stops behind the text, so that the token that it meets has the tag for
-- unaligned tokens. The second message has no entities.
def halfAligned : TrainingData :=
  ⟨[((Message.ofText "a b").set Field.tokens (.tokens [.plain "a" 0 1, .plain "b" 2 3])).set Field.entities
      (.entities [⟨0, 1, "x", none⟩, ⟨2, 9, "y", none⟩]),
    (Message.ofText "c").set Field.tokens (.tokens [.plain "c" 0 1])]⟩

theorem halfAligned_numbering :
    (∀ message ∈ halfAligned.examples, message.tags? Field.entityTags = none) ∧
    labelSet (tagExamples halfAligned) = {"-", "x"} ∧
    labelSet ⟨(tagExamples halfAligned).examples.reverse ++ (tagExamples halfAligned).examples⟩ = {"-", "x"} ∧
    (ofData (tagExamples halfAligned)).get? "L--" = some 4 ∧ (ofData (tagExamples halfAligned)).get? "U-x" = some 7 ∧
    (∃! tag, (ofData (tagExamples halfAligned)).get? tag = some 8) ∧
    ofData ⟨(tagExamples halfAligned).examples.reverse ++ (tagExamples halfAligned).examples⟩ =
      ofData (tagExamples halfAligned) ∧
    (∀ message, ∀ id ∈ (ofData (tagExamples halfAligned)).ofMessage message, id ≤ 8) ∧
    ∀ tagged ∈ (tagExamples halfAligned).examples, ((ofData (tagExamples halfAligned)).ofMessage tagged).length =
      ((tagged.tokens? Field.tokens).getD []).length := by
  have untagged : ∀ message ∈ halfAligned.examples, message.tags? Field.entityTags = none := by
    intro message member
    simp only [halfAligned, List.mem_cons, List.not_mem_nil, or_false] at member
    rcases member with rfl | rfl <;> rfl
  have names : labelSet (tagExamples halfAligned) = {"-", "x"} := by decide +kernel
  have again : labelSet ⟨(tagExamples halfAligned).examples.reverse ++ (tagExamples halfAligned).examples⟩ =
      {"-", "x"} := by decide +kernel
  obtain ⟨numbered, _, tiled, congr, bounded, _⟩ := dense_numbering (tagExamples halfAligned)
  obtain ⟨_, _, _, _, _, each⟩ := dense_numbering halfAligned
  have card : (labelSet (tagExamples halfAligned)).card = 2 := by rw [names]; decide
  rw [card] at tiled bounded
  rw [names] at numbered
  refine ⟨untagged, names, again, (numbered "L--" 4).mpr ?_, (numbered "U-x" 7).mpr ?_, tiled 8 (by decide),
    congr _ (again.trans names.symm), bounded, each untagged _⟩
  · have row : Numbering {"-", "x"} ("L-" ++ "-") (4 * rankIn {"-", "x"} "-" + 4) := .last (by decide)
    have first : rankIn {"-", "x"} "-" = 0 := by decide
    rwa [first] at row
  · have row : Numbering {"-", "x"} ("U-" ++ "x") (4 * rankIn {"-", "x"} "x" + 3) := .unit (by decide)
    have second : rankIn {"-", "x"} "x" = 1 := by decide
    rwa [second] at row

end TextFeatures.TagIds
