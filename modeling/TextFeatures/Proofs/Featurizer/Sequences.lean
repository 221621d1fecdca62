import TextFeatures.Proofs.Featurizer.Lifetimes
import TextFeatures.Proofs.Featurizer.Repeating
import TextFeatures.Proofs.Tagging.Marks
import TextFeatures.Proofs.Tokens.Words

namespace TextFeatures

variable {config : Config} {normalizer : Normalizer} {vocabulary : Vocabulary} {vectorizer : Vectorizer} {width : Nat}
  {row : List (Nat × Nat)} {text : String} {texts : List String} {message : Message} {tokens : List Token}

def Features.rowCount {α : Type} : Features α → Nat
  | dense _ => 1
  | sequence rows => rows.rowCount
  | sparse rows => rows.rowCount

-- The tokens that a message is read by, and the text that each of them stands for: the base forms of those that have
-- one if there are any, and else the texts as they are.
inductive Message.ReadBy (message : Message) : List Token → List String → Prop
  | baseForms {tokens : List Token} : message.tokens? Field.lemmaTokens = some tokens → tokens ≠ [] →
      ReadBy message tokens (tokens.map Token.baseFormOrText)
  | texts {tokens : List Token} : (∀ others, message.tokens? Field.lemmaTokens = some others → others = []) →
      message.tokens? Field.tokens = some tokens → tokens ≠ [] → ReadBy message tokens (textsOf tokens)

theorem Message.ReadBy.messageText_eq (read : message.ReadBy tokens texts) : message.messageText = joined texts := by
  cases read with
  | baseForms given some =>
    obtain ⟨token, more, rfl⟩ := List.exists_cons_of_ne_nil some
    rw [messageText, given]
  | texts unread given some =>
    obtain ⟨token, more, rfl⟩ := List.exists_cons_of_ne_nil some
    unfold messageText
    rw [given]
    cases others : message.tokens? Field.lemmaTokens with
    | none => rfl
    | some found =>
      obtain rfl := unread found others
      rfl

theorem Message.ReadBy.length_eq (read : message.ReadBy tokens texts) : texts.length = tokens.length := by
  cases read with
  | baseForms => exact List.length_map _
  | texts => exact List.length_map _

namespace Featurizer

def asFloat (count : Nat) : Float := Float.ofInt (Int.ofNat count)

-- The row of a vectorizer for a text alone: its counts, and those of them that are stored.
def CountRow (vectorizer : Vectorizer) (text : String) (width : Nat) (counts : List Nat) (stored : List (Nat × Nat)) :
    Prop :=
  ∃ matrix, vectorizer.transform [text] = .ok matrix ∧ matrix.rows = .ok [stored] ∧
    matrix.toDense = .ok ⟨width, [counts]⟩

-- Features with one row for each text, in the form that is asked for.
inductive RowPerText (config : Config) (vectorizer : Vectorizer) (texts : List String) : Features Float → Prop
  | dense {rows : DenseMatrix Float} : config.sparse = false →
      List.Forall₂ (fun text row => ∃ counts stored, CountRow vectorizer text rows.columnCount counts stored ∧
        row = counts.map asFloat) texts rows.rows →
      RowPerText config vectorizer texts (.sequence rows)
  | sparse {matrix : SparseMatrix Float} {rows : List (List (Nat × Float))} : config.sparse = true →
      matrix.rows = .ok rows → matrix.rowCount = texts.length →
      List.Forall₂ (fun text row => ∃ counts stored, CountRow vectorizer text matrix.columnCount counts stored ∧
        row = stored.map (Prod.map id asFloat)) texts rows →
      RowPerText config vectorizer texts (.sparse matrix)

theorem RowPerText.rowCount_eq {features : Features Float} (rowPerText : RowPerText config vectorizer texts features) :
    features.rowCount = texts.length := by
  cases rowPerText with
  | dense _ each => exact each.length_eq.symm
  | sparse _ _ count => exact count

theorem countRow_of_storedRow (trained : vectorizer.Trained config normalizer vocabulary)
    (counted : vectorizer.storedRow vocabulary text = .ok row) :
    CountRow vectorizer text vocabulary.size (SparseMatrix.denseRow vocabulary.size row) row := by
  have alone : vectorizer.transform [text] = .ok (.ofStored vocabulary.size [row]) := by
    rw [trained.serves.transform_eq, List.mapM_cons, counted, List.mapM_nil]
    rfl
  exact ⟨_, alone, SparseMatrix.rows_ofStored, SparseMatrix.toDense_ofStored⟩

theorem rowPerText_ofRows {rows : List (List (Nat × Nat))} (trained : vectorizer.Trained config normalizer vocabulary)
    (counted : texts.mapM (vectorizer.storedRow vocabulary) = .ok rows) :
    RowPerText config vectorizer texts (toFloats (ofRows config vocabulary.size rows)) := by
  have each : List.Forall₂ (fun text row => vectorizer.storedRow vocabulary text = .ok row) texts rows :=
    mapM_eq_ok_iff.mp counted
  unfold toFloats ofRows
  cases sparse : config.sparse with
  | false =>
    simp only [Bool.false_eq_true, if_false, Features.map, DenseMatrix.map, List.map_map]
    refine .dense sparse (List.forall₂_map_right_iff.mpr (each.imp fun text row here => ?_))
    exact ⟨_, _, countRow_of_storedRow trained here, List.map_map⟩
  | true =>
    simp only [if_true, Features.map, SparseMatrix.map_ofStored, List.map_map]
    refine .sparse sparse SparseMatrix.rows_ofStored ?_ ?_
    · rw [SparseMatrix.rowCount_ofStored, List.length_map, each.length_eq]
    · refine List.forall₂_map_right_iff.mpr (each.imp fun text row here => ?_)
      exact ⟨_, _, countRow_of_storedRow trained here, List.map_map⟩

theorem mergeText_ofRows {rows : List (List (Nat × Nat))} :
    mergeText message (toFloats (ofRows config width rows)) = .ok (toFloats (ofRows config width rows)) := by
  unfold ofRows
  split <;> rfl

theorem countsAlone_joined {rows : List (List (Nat × Nat))} (sequence : config.sequence = true)
    (words : ∀ text ∈ texts, IsWord text) (counted : texts.mapM (vectorizer.storedRow vocabulary) = .ok rows) :
    countsAlone config vectorizer vocabulary (joined texts) = .ok (ofRows config vocabulary.size rows) := by
  rw [countsAlone, if_pos sequence, wordsOf, Words.textsOf_tokens_joined words, counted]
  rfl

variable {featurizer : Featurizer} {vectorizers : Vectorizers}

-- A featurizer that goes word by word gives a message one row for each of its tokens, as many as there are tags.
theorem rows_meet_tokens (path : Lived config featurizer) (sequence : config.sequence = true)
    (state : featurizer.state.vectorizers? = some vectorizers) (read : message.ReadBy tokens texts)
    (words : ∀ text ∈ texts, IsWord text) (testData : Option TrainingData) :
    let outcome := featurizer.process message testData
    (∃ seen, outcome.result = .ok seen) ∧ ∃ features,
      outcome.message.features? Field.textFeatures = some features ∧
      RowPerText config vectorizers.forText texts features ∧ features.rowCount = tokens.length ∧
      ∀ entities, (Bilou.tags tokens entities).length = features.rowCount := by
  intro outcome
  have sound := (lived_lasting path).toSound
  have featurizable := exists_featurizeTestData sound state
  obtain ⟨rfl, accepted, each⟩ := sound
  obtain ⟨vocabulary, trained⟩ := (each vectorizers state).forText
  obtain ⟨rows, counted, _⟩ := trained.exists_transform accepted texts
  let features := toFloats (ofRows featurizer.config vocabulary.size rows)
  have done : featurizer.processMessage vectorizers message =
      .ok (message.setFeatures Field.textFeatures features) := by
    rw [processMessage, messageFeatures_eq trained, read.messageText_eq, countsAlone_joined sequence words counted,
      ok_bind, mergeText_ofRows]
    rfl
  obtain ⟨succeeds, left⟩ := process_succeeds state done featurizable
  have rowPerText : RowPerText featurizer.config vectorizers.forText texts features := rowPerText_ofRows trained counted
  have count : features.rowCount = tokens.length := rowPerText.rowCount_eq.trans read.length_eq
  refine ⟨succeeds, features, ?_, rowPerText, count, fun entities => ?_⟩
  · rw [left]
    simp [Message.features?]
  · rw [count]
    exact Bilou.length_tagsWith

-- A message with tokens, and the same with base forms for its tokens.

def tokenized : Message := (Message.ofText "ab b").set Field.tokens (.tokens [.plain "ab" 0 2, .plain "b" 3 4])

def lemmatized : Message := tokenized.set Field.lemmaTokens (.tokens [⟨"ab", 0, 2, some "a"⟩, .plain "b" 3 4])

theorem tokenized_rows_meet_tokens :
    let learned := (unlettered.train none unequal).featurizer
    Lived wordwise learned ∧ wordwise.sequence = true ∧
    tokenized.ReadBy [.plain "ab" 0 2, .plain "b" 3 4] ["ab", "b"] ∧
    lemmatized.ReadBy [⟨"ab", 0, 2, some "a"⟩, .plain "b" 3 4] ["a", "b"] ∧
    ∃ vectorizers, learned.state.vectorizers? = some vectorizers ∧
      (∃ features, (learned.process tokenized (some unequal)).message.features? Field.textFeatures = some features ∧
        RowPerText wordwise vectorizers.forText ["ab", "b"] features ∧ features.rowCount = 2) ∧
      ∃ features, (learned.process lemmatized none).message.features? Field.textFeatures = some features ∧
        RowPerText wordwise vectorizers.forText ["a", "b"] features ∧ features.rowCount = 2 := by
  intro learned
  have path : Lived wordwise learned := .step (.made rfl) (.train none unequal)
  obtain ⟨vectorizers, state⟩ : ∃ vectorizers, learned.state.vectorizers? = some vectorizers := ⟨_, rfl⟩
  have read : tokenized.ReadBy [.plain "ab" 0 2, .plain "b" 3 4] ["ab", "b"] := by
    refine .texts ?_ rfl (List.cons_ne_nil _ _)
    rintro others ⟨⟩
  have readAgain : lemmatized.ReadBy [⟨"ab", 0, 2, some "a"⟩, .plain "b" 3 4] ["a", "b"] :=
    .baseForms rfl (List.cons_ne_nil _ _)
  obtain ⟨_, one, written, rowPerText, count, _⟩ :=
    rows_meet_tokens path rfl state read (by decide +kernel) (some unequal)
  obtain ⟨_, other, writtenAgain, rowPerTextAgain, countAgain, _⟩ :=
    rows_meet_tokens path rfl state readAgain (by decide +kernel) none
  exact ⟨path, rfl, read, readAgain, vectorizers, state, ⟨one, written, rowPerText, count⟩,
    other, writtenAgain, rowPerTextAgain, countAgain⟩

end Featurizer

end TextFeatures
