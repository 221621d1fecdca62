import Mathlib.Data.List.Forall2
import TextFeatures.Message.Json
import TextFeatures.Proofs.Dictionary
import TextFeatures.Proofs.Features.Rendering

namespace TextFeatures

-- What is held can be told by numerals: offsets fit a word of the machine, and features are as `Features.Printable`
-- says. Texts are free.

structure Token.Printable (token : Token) : Prop where
  start : token.start < Numeral.wordLimit
  stop : token.stop < Numeral.wordLimit

structure Entity.Printable (entity : Entity) : Prop where
  start : entity.start < Numeral.wordLimit
  stop : entity.stop < Numeral.wordLimit

def Value.Printable : Value → Prop
  | .tokens held => ∀ token ∈ held, token.Printable
  | .entities held => ∀ entity ∈ held, entity.Printable
  | .features held => held.Printable
  | .text _ | .tags _ => True

def Message.Printable (message : Message) : Prop := ∀ field ∈ message.fields.entries, field.2.Printable

def TrainingData.Printable (data : TrainingData) : Prop := ∀ message ∈ data.examples, message.Printable

namespace Json

variable {given : Option String}

theorem optionalText?_optional : optionalText? (some (optional text given)) = some given :=
  optional?_optional fun _ _ => ⟨nofun, rfl⟩

theorem wellFormed_optionalText : (optional text given).WellFormed := wellFormed_optional fun _ => .string

end Json

namespace Token

variable {token : Token}

theorem ofJson?_toJson (printable : token.Printable) : ofJson? token.toJson = some token := by
  have distinct : ["text", "start", "end", "lemma"].Nodup := by decide
  have fields : token.toJson.fields? ["text", "start", "end", "lemma"] = some [
      some (.text token.text), some (.natural token.start), some (.natural token.stop),
      some (.optional Json.text token.baseForm)] := Json.fields?_record distinct
  simp only [ofJson?, fields, Json.required?, Json.text?_text, Json.natural?_natural printable.start,
    Json.natural?_natural printable.stop, Json.optionalText?_optional, Option.bind_eq_bind, Option.bind_some,
    Option.pure_def]

theorem wellFormed_toJson (token : Token) : token.toJson.WellFormed := by
  refine Json.wellFormed_record ?_
  simp only [List.forall_mem_cons, List.not_mem_nil, false_imp_iff, implies_true, and_true]
  exact ⟨.string, Json.wellFormed_natural _, Json.wellFormed_natural _, Json.wellFormed_optionalText⟩

end Token

namespace Entity

variable {entity : Entity}

theorem ofJson?_toJson (printable : entity.Printable) : ofJson? entity.toJson = some entity := by
  have distinct : ["start", "end", "entity", "value"].Nodup := by decide
  have fields : entity.toJson.fields? ["start", "end", "entity", "value"] = some [
      some (.natural entity.start), some (.natural entity.stop), some (.text entity.label),
      some (.optional Json.text entity.value)] := Json.fields?_record distinct
  simp only [ofJson?, fields, Json.required?, Json.text?_text, Json.natural?_natural printable.start,
    Json.natural?_natural printable.stop, Json.optionalText?_optional, Option.bind_eq_bind, Option.bind_some,
    Option.pure_def]

theorem wellFormed_toJson (entity : Entity) : entity.toJson.WellFormed := by
  refine Json.wellFormed_record ?_
  simp only [List.forall_mem_cons, List.not_mem_nil, false_imp_iff, implies_true, and_true]
  exact ⟨Json.wellFormed_natural _, Json.wellFormed_natural _, .string, Json.wellFormed_optionalText⟩

end Entity

namespace Value

variable {value : Value}

-- The kind of a value is told by the key that its contents stand under.
theorem ofJson?_toJson (printable : value.Printable) : ofJson? value.toJson = some value := by
  cases value with
  | text held => rfl
  | tokens held =>
    have listed := Json.list?_list fun token among => Token.ofJson?_toJson (printable token among)
    exact congrArg (Option.map tokens) listed
  | entities held =>
    have listed := Json.list?_list fun entity among => Entity.ofJson?_toJson (printable entity among)
    exact congrArg (Option.map entities) listed
  | features held => exact congrArg (Option.map features) (Features.ofJson?_toJson printable)
  | tags held =>
    have listed : (Json.array (held.map .text)).list? Json.text? = some held := Json.list?_texts
    exact congrArg (Option.map tags) listed

theorem wellFormed_toJson (value : Value) : value.toJson.WellFormed := by
  cases value with
  | text held => exact Json.wellFormed_record (List.forall_mem_singleton.mpr .string)
  | tokens held =>
    have listed := Json.wellFormed_list fun token (_ : token ∈ held) => token.wellFormed_toJson
    exact Json.wellFormed_record (List.forall_mem_singleton.mpr listed)
  | entities held =>
    have listed := Json.wellFormed_list fun entity (_ : entity ∈ held) => entity.wellFormed_toJson
    exact Json.wellFormed_record (List.forall_mem_singleton.mpr listed)
  | features held => exact Json.wellFormed_record (List.forall_mem_singleton.mpr held.wellFormed_toJson)
  | tags held => exact Json.wellFormed_record (List.forall_mem_singleton.mpr Json.wellFormed_texts)

end Value

namespace Message

variable {message : Message} {json : Json} {name : String} {value : Value}

theorem printable_ofText (text : String) : (ofText text).Printable := nofun

theorem printable_set (printable : message.Printable) (added : value.Printable) :
    (message.set name value).Printable := by
  rintro ⟨other, held⟩ among
  have found : (message.fields.insert name value).get? other = some held := Dictionary.get?_eq_some_iff.mpr among
  rw [Dictionary.get?_insert] at found
  split at found
  · exact Option.some.inj found ▸ added
  · exact printable _ (Dictionary.get?_eq_some_iff.mp found)

-- A message is written with its fields in any order.
def Written (message : Message) (json : Json) : Prop :=
  ∃ fields : List (String × Value), fields.Perm message.fields.entries ∧
    json = .record [
      ("text", .text message.text),
      ("fields", .record (fields.map fun field => (field.1, field.2.toJson)))]

theorem written_toJson (message : Message) : message.Written message.toJson := ⟨_, .refl _, rfl⟩

theorem fieldsJson?_record {fields : List (String × Value)} (printable : ∀ field ∈ fields, field.2.Printable) :
    fieldsJson? (.record (fields.map fun field => (field.1, field.2.toJson))) = some (Dictionary.ofList fields) := by
  have each : (fields.map fun field => (some field.1, field.2.toJson)).mapM field? = some fields := by
    rw [List.mapM_map]
    refine (Json.mapM_eq_some_of_each fun field among => ?_).trans (congrArg some (List.map_id fields))
    rw [Function.comp_apply, field?, Value.ofJson?_toJson (printable field among)]
    rfl
  rw [Json.record, List.map_map, fieldsJson?]
  exact congrArg (Option.map Dictionary.ofList) each

theorem ofJson?_of_written (written : message.Written json) (printable : message.Printable) :
    ofJson? json = some message := by
  obtain ⟨fields, shuffled, rfl⟩ := written
  have named : ["text", "fields"].Nodup := by decide
  have found : (Json.record [
      ("text", .text message.text),
      ("fields", .record (fields.map fun field => (field.1, field.2.toJson)))]).fields? ["text", "fields"] = some [
      some (.text message.text), some (.record (fields.map fun field => (field.1, field.2.toJson)))] :=
    Json.fields?_record named
  have read : fieldsJson? (.record (fields.map fun field => (field.1, field.2.toJson))) = some message.fields := by
    rw [fieldsJson?_record fun field among => printable field (shuffled.mem_iff.mp among),
      Dictionary.ofList_of_perm shuffled]
  simp only [ofJson?, found, Json.required?, Json.text?_text, read, Option.bind_eq_bind, Option.bind_some,
    Option.pure_def]

theorem wellFormed_of_written (written : message.Written json) : json.WellFormed := by
  obtain ⟨fields, _, rfl⟩ := written
  refine Json.wellFormed_record ?_
  simp only [List.forall_mem_cons, List.not_mem_nil, false_imp_iff, implies_true, and_true]
  refine ⟨.string, Json.wellFormed_record fun member among => ?_⟩
  obtain ⟨field, _, rfl⟩ := List.mem_map.mp among
  exact field.2.wellFormed_toJson

end Message

namespace TrainingData

variable {data : TrainingData} {json : Json}

def Written (data : TrainingData) (json : Json) : Prop :=
  ∃ examples : List Json, List.Forall₂ Message.Written data.examples examples ∧
    json = .record [("training_examples", .array examples)]

theorem written_toJson (data : TrainingData) : data.Written data.toJson :=
  ⟨_, List.forall₂_map_right_iff.mpr (List.forall₂_same.mpr fun message _ => message.written_toJson), rfl⟩

theorem examples_of_written {messages : List Message} {examples : List Json}
    (written : List.Forall₂ Message.Written messages examples) (printable : ∀ message ∈ messages, message.Printable) :
    (Json.array examples).list? Message.ofJson? = some messages := by
  rw [Json.list?]
  induction written with
  | nil => rfl
  | cons first _ ih =>
    obtain ⟨here, later⟩ := List.forall_mem_cons.mp printable
    rw [List.mapM_cons, Message.ofJson?_of_written first here, ih later]
    rfl

theorem ofJson?_of_written (written : data.Written json) (printable : data.Printable) : ofJson? json = some data := by
  obtain ⟨examples, each, rfl⟩ := written
  have named : ["training_examples"].Nodup := by decide
  have found : (Json.record [("training_examples", .array examples)]).fields? ["training_examples"] =
      some [some (.array examples)] := Json.fields?_record named
  simp only [ofJson?, found, Json.required?, Option.bind_some, examples_of_written each printable, Option.map_some]

theorem wellFormed_of_written (written : data.Written json) : json.WellFormed := by
  obtain ⟨examples, each, rfl⟩ := written
  refine Json.wellFormed_record (List.forall_mem_singleton.mpr (.array fun written there => ?_))
  obtain ⟨i, inside, rfl⟩ := List.getElem_of_mem there
  have short : i < data.examples.length := each.length_eq ▸ inside
  exact Message.wellFormed_of_written (each.get short inside)

-- The text of training data is read as the same training data, in whatever order the fields of a message are written.
theorem parsed_of_written (printable : data.Printable) :
    data.Written data.toJson ∧
      ∀ json, data.Written json → (Json.parse? json.render).bind ofJson? = some data := by
  refine ⟨data.written_toJson, fun json written => ?_⟩
  rw [Json.parse?_render (wellFormed_of_written written), Option.bind_some, ofJson?_of_written written printable]

-- Values of every kind: a lemma and none, a matrix without columns, doubles that come with an exponent or a sign, and a
-- name that is no name of a field.
def assorted : TrainingData := ⟨[
  Message.ofText "",
  (Message.ofText "\"a\"\n\x01é𝄞"
    |>.set "" (.text "null")
    |>.set "tokens" (.tokens [⟨"a", 0, 1, some ""⟩, .plain "\\" 3 2])
    |>.set "entities" (.entities [⟨0, 1, "city", none⟩, ⟨1, 0xffffffffffffffff, "", some "Köln"⟩])
    |>.set "dense" (.features (.dense [1, -0.0, 0.1, 1e300]))
    |>.set "rows" (.features (.sequence ⟨2, [[1, -1], [2.5, 0]]⟩))
    |>.set "no columns" (.features (.sequence ⟨0, [[], []]⟩))
    |>.set "sparse" (.features (.sparse ⟨3, [0, 1, 1], [2], [-1e-7]⟩))
    |>.set "tags" (.tags ["B-city", ""]))]⟩

theorem assorted_rendered : assorted.Printable ∧
    (Json.parse? assorted.toJson.render).bind ofJson? = some assorted := by
  have word : ∀ n ∈ [0, 1, 2, 3, 4, 0xffffffffffffffff], n < Numeral.wordLimit := by decide
  have place : ∀ n ∈ [0, 2], n < Json.placeLimit := by decide
  have ⟨denseBack, rowsBack, sparseBack⟩ : (∀ x ∈ [1, -0.0, 0.1, 1e300], Json.ReadsBack x) ∧
      (∀ row ∈ [[1, -1], [2.5, 0]], ∀ x ∈ row, Json.ReadsBack x) ∧ ∀ x ∈ [-1e-7], Json.ReadsBack x := by
    unfold Json.ReadsBack
    decide +kernel
  have tokens : Value.Printable (.tokens [⟨"a", 0, 1, some ""⟩, .plain "\\" 3 2]) := by
    simp only [Value.Printable, List.forall_mem_cons, List.not_mem_nil, false_imp_iff, implies_true, and_true]
    exact ⟨⟨word 0 (by simp), word 1 (by simp)⟩, ⟨word 3 (by simp), word 2 (by simp)⟩⟩
  have entities : Value.Printable
      (.entities [⟨0, 1, "city", none⟩, ⟨1, 0xffffffffffffffff, "", some "Köln"⟩]) := by
    simp only [Value.Printable, List.forall_mem_cons, List.not_mem_nil, false_imp_iff, implies_true, and_true]
    exact ⟨⟨word 0 (by simp), word 1 (by simp)⟩, ⟨word 1 (by simp), word _ (by simp)⟩⟩
  have dense : Value.Printable (.features (.dense [1, -0.0, 0.1, 1e300])) := ⟨word 4 (by simp), denseBack⟩
  have rows : Value.Printable (.features (.sequence ⟨2, [[1, -1], [2.5, 0]]⟩)) :=
    ⟨by simp, place 2 (by simp), place 2 (by simp), rowsBack⟩
  have noColumns : Value.Printable (.features (.sequence ⟨0, [[], []]⟩)) :=
    ⟨by simp, place 2 (by simp), place 0 (by simp), by simp⟩
  have sparse : Value.Printable (.features (.sparse ⟨3, [0, 1, 1], [2], [-1e-7]⟩)) :=
    ⟨word 3 (by simp), by decide, by decide, sparseBack⟩
  have printable : assorted.Printable := by
    simp only [TrainingData.Printable, assorted, List.forall_mem_cons, List.not_mem_nil, false_imp_iff, implies_true,
      and_true]
    refine ⟨Message.printable_ofText "", ?_⟩
    refine Message.printable_set ?_ trivial
    refine Message.printable_set ?_ sparse
    refine Message.printable_set ?_ noColumns
    refine Message.printable_set ?_ rows
    refine Message.printable_set ?_ dense
    refine Message.printable_set ?_ entities
    refine Message.printable_set ?_ tokens
    exact Message.printable_set (Message.printable_ofText _) trivial
  exact ⟨printable, (parsed_of_written printable).2 _ assorted.written_toJson⟩

end TrainingData

end TextFeatures
