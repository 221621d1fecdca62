import TextFeatures.Proofs.Featurizer.Effects
import TextFeatures.Proofs.Featurizer.Sequences

namespace TextFeatures

namespace Featurizer

variable {config : Config} {featurizer : Featurizer} {vectorizers : Vectorizers} {message before after : Message}
  {existing : Option (List Float)} {block : List Float} {testData : Option TrainingData}

theorem SameBut.messageText_eq (same : SameBut [Field.textFeatures] before after) :
    after.messageText = before.messageText := by
  obtain ⟨text, fields⟩ := same
  have tokens := fields Field.tokens (by decide)
  have lemmaTokens := fields Field.lemmaTokens (by decide)
  simp only [Message.messageText, Message.tokens?, text, tokens, lemmaTokens]

theorem sameBut_erase (message : Message) :
    SameBut [Field.textFeatures] message (message.erase Field.textFeatures) := by
  refine ⟨rfl, fun name other => ?_⟩
  rw [Message.get?_erase, if_neg (by simpa using other)]

theorem Moves.vectorizers?_eq {old new : State} (moves : Moves old new) : new.vectorizers? = old.vectorizers? := by
  cases moves <;> rfl

def Block (featurizer : Featurizer) (message : Message) (block : List Float) : Prop :=
  ∃ vectorizers counts stored, featurizer.state.vectorizers? = some vectorizers ∧
    CountRow vectorizers.forText message.messageText vectorizers.forText.vocabularySize counts stored ∧
    block = counts.map asFloat

-- A featurizer that puts dense features behind dense ones.
structure Appends (config : Config) (featurizer : Featurizer) : Prop extends Sound config featurizer where
  bag : config.sequence = false
  full : config.sparse = false
  isTrained : featurizer.state.isTrained = true

theorem CountRow.unique {vectorizer : Vectorizer} {text : String} {width other : Nat} {counts others : List Nat}
    {stored storedToo : List (Nat × Nat)} (row : CountRow vectorizer text width counts stored)
    (rowToo : CountRow vectorizer text other others storedToo) : counts = others := by
  obtain ⟨matrix, transformed, _, dense⟩ := row
  obtain ⟨_, transformedToo, _, denseToo⟩ := rowToo
  obtain rfl := Except.ok.inj (transformed.symm.trans transformedToo)
  cases dense.symm.trans denseToo
  rfl

theorem Appends.exists_row (appends : Appends config featurizer) (message : Message) :
    ∃ vectorizers vocabulary row, featurizer.state.vectorizers? = some vectorizers ∧
      vectorizers.forText.Trained config featurizer.normalizer vocabulary ∧
      vectorizers.forText.storedRow vocabulary message.messageText = .ok row ∧
      Block featurizer message ((SparseMatrix.denseRow vocabulary.size row).map asFloat) := by
  obtain ⟨vectorizers, state⟩ := Option.isSome_iff_exists.mp appends.isTrained
  obtain ⟨vocabulary, trained⟩ := (appends.trained vectorizers state).forText
  obtain ⟨row, counted⟩ := trained.serves.exists_storedRow appends.accepted message.messageText
  have width : vectorizers.forText.vocabularySize = vocabulary.size := by
    rw [Vectorizer.vocabularySize, trained.fitted]
    rfl
  exact ⟨vectorizers, vocabulary, row, state, trained, counted, vectorizers, _, row, state,
    width ▸ countRow_of_storedRow trained counted, rfl⟩

theorem Appends.exists_block (appends : Appends config featurizer) (message : Message) :
    ∃ block, Block featurizer message block := by
  obtain ⟨_, _, _, _, _, _, counted⟩ := appends.exists_row message
  exact ⟨_, counted⟩

theorem Block.unique {other : List Float} (counted : Block featurizer message block)
    (countedToo : Block featurizer message other) : block = other := by
  obtain ⟨vectorizers, counts, _, state, row, rfl⟩ := counted
  obtain ⟨_, others, _, stateToo, rowToo, rfl⟩ := countedToo
  obtain rfl := Option.some.inj (state.symm.trans stateToo)
  rw [row.unique rowToo]

-- The block of a message is put behind the features that it has, and the featurizer goes on as before.
theorem process_appends (appends : Appends config featurizer) (testData : Option TrainingData)
    (given : message.features? Field.textFeatures = existing.map .dense) (counted : Block featurizer message block) :
    let outcome := featurizer.process message testData
    (∃ seen, outcome.result = .ok seen) ∧
      outcome.message = message.setFeatures Field.textFeatures (.dense (existing.getD [] ++ block)) ∧
      Appends config outcome.featurizer ∧ outcome.featurizer.state.vectorizers? = featurizer.state.vectorizers? := by
  intro outcome
  obtain ⟨vectorizers, vocabulary, row, state, trained, stored, own⟩ := appends.exists_row message
  obtain rfl := counted.unique own
  have alone : countsAlone config vectorizers.forText vocabulary message.messageText =
      .ok (.dense (SparseMatrix.denseRow vocabulary.size row)) := by
    simp [countsAlone, ofRow, appends.bag, appends.full, stored]
  have behind : mergeText message (.dense ((SparseMatrix.denseRow vocabulary.size row).map asFloat)) =
      .ok (.dense (existing.getD [] ++ (SparseMatrix.denseRow vocabulary.size row).map asFloat)) := by
    rw [mergeText, given]
    cases existing <;> rfl
  have floats : toFloats (.dense (SparseMatrix.denseRow vocabulary.size row)) =
      .dense ((SparseMatrix.denseRow vocabulary.size row).map asFloat) := congrArg Features.dense List.map_map
  have done : featurizer.processMessage vectorizers message =
      .ok (message.setFeatures Field.textFeatures
        (.dense (existing.getD [] ++ (SparseMatrix.denseRow vocabulary.size row).map asFloat))) := by
    rw [processMessage, appends.configured, messageFeatures_eq trained, alone, ok_bind, floats, behind]
    rfl
  obtain ⟨succeeds, left⟩ : (∃ seen, outcome.result = .ok seen) ∧ outcome.message = _ :=
    process_succeeds state done fun data => exists_featurizeTestData appends.toSound state data
  have kept : outcome.featurizer.state.vectorizers? = featurizer.state.vectorizers? := process_moves.vectorizers?_eq
  refine ⟨succeeds, left, ⟨process_preserves appends.toSound, appends.bag, appends.full, ?_⟩, kept⟩
  rw [State.isTrained, kept, state]
  rfl

theorem Block.congr {other : Featurizer} (counted : Block featurizer before block)
    (sameState : other.state.vectorizers? = featurizer.state.vectorizers?)
    (sameText : after.messageText = before.messageText) : Block other after block := by
  obtain ⟨vectorizers, counts, stored, state, row, own⟩ := counted
  exact ⟨vectorizers, counts, stored, sameState.trans state, sameText ▸ row, own⟩

def textColumns (featurizer : Featurizer) : Nat :=
  featurizer.state.vectorizers?.elim 0 fun vectorizers => vectorizers.forText.vocabularySize

theorem Block.length_eq (appends : Appends config featurizer) (counted : Block featurizer message block) :
    block.length = featurizer.textColumns := by
  obtain ⟨vectorizers, vocabulary, row, state, trained, _, own⟩ := appends.exists_row message
  rw [counted.unique own, textColumns, state, Option.elim_some, Vectorizer.vocabularySize, trained.fitted,
    Option.elim_some, List.length_map, SparseMatrix.denseRow, List.length_map, List.length_range]

-- What a featurizer puts on a message as if there were no text features.
def PutsAlone (featurizer : Featurizer) (message : Message) (block : List Float) : Prop :=
  let outcome := featurizer.process (message.erase Field.textFeatures) none
  (∃ seen, outcome.result = .ok seen) ∧ outcome.message.features? Field.textFeatures = some (.dense block)

theorem Block.putsAlone (appends : Appends config featurizer) (counted : Block featurizer message block) :
    PutsAlone featurizer message block := by
  have alone : Block featurizer (message.erase Field.textFeatures) block :=
    counted.congr rfl (sameBut_erase message).messageText_eq
  have bare : (message.erase Field.textFeatures).features? Field.textFeatures =
      (none : Option (List Float)).map .dense := Message.features?_erase
  obtain ⟨succeeds, left, _⟩ := process_appends appends none bare alone
  refine ⟨succeeds, ?_⟩
  rw [left]
  simp [Message.features?]

def textValues (message : Message) : List Float :=
  match message.features? Field.textFeatures with
  | some (.dense values) => values
  | _ => []

-- Featurizers that are called one after the other on the same message, each as often as it comes to be its turn,
-- and with test data of its own.
structure Pipeline (ι : Type) where
  featurizers : ι → Featurizer
  message : Message
  results : List (Except Error Bool)

namespace Pipeline

variable {ι : Type} [DecidableEq ι] {pipeline : Pipeline ι} {origin : Message} {configs : ι → Config}
  {blocks : ι → List Float}

def call (pipeline : Pipeline ι) (turn : ι × Option TrainingData) : Pipeline ι :=
  let outcome := (pipeline.featurizers turn.1).process pipeline.message turn.2
  { featurizers := Function.update pipeline.featurizers turn.1 outcome.featurizer
    message := outcome.message
    results := pipeline.results ++ [outcome.result] }

def run (pipeline : Pipeline ι) (turns : List (ι × Option TrainingData)) : Pipeline ι := turns.foldl call pipeline

-- All featurizers still append the blocks that they would have put on the message in the beginning.
structure Works (configs : ι → Config) (blocks : ι → List Float) (origin : Message) (existing : Option (List Float))
    (pipeline : Pipeline ι) : Prop where
  appends : ∀ i, Appends (configs i) (pipeline.featurizers i)
  counted : ∀ i, Block (pipeline.featurizers i) origin (blocks i)
  same : SameBut [Field.textFeatures] origin pipeline.message
  features : pipeline.message.features? Field.textFeatures = existing.map .dense

theorem call_works (works : Works configs blocks origin existing pipeline) (turn : ι × Option TrainingData) :
    Works configs blocks origin (some (existing.getD [] ++ blocks turn.1)) (pipeline.call turn) ∧
      ∃ seen, (pipeline.call turn).results = pipeline.results ++ [.ok seen] := by
  obtain ⟨appends, counted, same, features⟩ := works
  have here : Block (pipeline.featurizers turn.1) pipeline.message (blocks turn.1) :=
    (counted turn.1).congr rfl same.messageText_eq
  obtain ⟨⟨seen, result⟩, left, goesOn, kept⟩ := process_appends (appends turn.1) turn.2 features here
  refine ⟨⟨fun i => ?_, fun i => ?_, ?_, ?_⟩, seen, congrArg (pipeline.results ++ [·]) result⟩
  · by_cases own : i = turn.1
    · subst own
      simpa [call] using goesOn
    · simpa [call, own] using appends i
  · by_cases own : i = turn.1
    · subst own
      simpa [call] using (counted turn.1).congr kept rfl
    · simpa [call, own] using counted i
  · refine ⟨?_, fun name other => ?_⟩
    · rw [call, left]
      exact same.text
    · rw [call, left, Message.get?_setFeatures, if_neg (by simpa using other), same.fields name other]
  · rw [call, left]
    simp [Message.features?]

theorem run_works (works : Works configs blocks origin existing pipeline) (turns : List (ι × Option TrainingData)) :
    (∃ seen : List Bool, (pipeline.run turns).results = pipeline.results ++ seen.map .ok ∧
      seen.length = turns.length) ∧
    Works configs blocks origin (if turns = [] then existing else
      some (existing.getD [] ++ (turns.map fun turn => blocks turn.1).flatten)) (pipeline.run turns) := by
  induction turns generalizing pipeline existing with
  | nil => exact ⟨⟨[], by simp [run], rfl⟩, works⟩
  | cons turn rest ih =>
    obtain ⟨worksNext, seen, result⟩ := call_works works turn
    obtain ⟨⟨later, results, count⟩, worksLast⟩ := ih worksNext
    refine ⟨⟨seen :: later, ?_, by simp [count]⟩, ?_⟩
    · rw [run, List.foldl_cons, ← run, results, result]
      simp
    · rw [run, List.foldl_cons, ← run]
      cases rest with
      | nil => simpa using worksLast
      | cons next others => simpa [List.append_assoc] using worksLast

omit [DecidableEq ι] in
theorem Works.textValues_eq (works : Works configs blocks origin existing pipeline) :
    textValues pipeline.message = existing.getD [] := by
  rw [textValues, works.features]
  cases existing <;> rfl

theorem textValues_run (works : Works configs blocks origin existing pipeline)
    (turns : List (ι × Option TrainingData)) :
    textValues (pipeline.run turns).message = existing.getD [] ++ (turns.map fun turn => blocks turn.1).flatten := by
  rw [(run_works works turns).2.textValues_eq]
  split
  · rename_i none
    simp [none]
  · rfl

end Pipeline

open Pipeline

-- Whatever featurizers with dense features are called on a message, and in whatever order: each call succeeds and puts
-- its own block behind what is there, and what is there stays as it is.
theorem dense_features_accumulate {ι : Type} [DecidableEq ι] {featurizers : ι → Featurizer} {configs : ι → Config}
    (paths : ∀ i, Lived (configs i) (featurizers i)) (trained : ∀ i, (featurizers i).state.isTrained = true)
    (dense : ∀ i, (configs i).sequence = false ∧ (configs i).sparse = false)
    (given : message.features? Field.textFeatures = existing.map .dense) :
    ∃ blocks : ι → List Float,
      (∀ i, Block (featurizers i) message (blocks i) ∧ PutsAlone (featurizers i) message (blocks i)) ∧
      ∀ turns : List (ι × Option TrainingData),
        let after := (Pipeline.mk featurizers message []).run turns
        (∃ seen : List Bool, after.results = seen.map .ok ∧ seen.length = turns.length) ∧
        SameBut [Field.textFeatures] message after.message ∧
        (turns ≠ [] → after.message.features? Field.textFeatures = some (.dense (textValues after.message))) ∧
        textValues after.message = existing.getD [] ++ (turns.map fun turn => blocks turn.1).flatten ∧
        (textValues after.message).length =
          (existing.getD []).length + (turns.map fun turn => (featurizers turn.1).textColumns).sum ∧
        ∀ earlier, earlier <+: turns →
          textValues ((Pipeline.mk featurizers message []).run earlier).message <+: textValues after.message := by
  have appends (i : ι) : Appends (configs i) (featurizers i) :=
    ⟨(lived_lasting (paths i)).toSound, (dense i).1, (dense i).2, trained i⟩
  choose blocks counted using fun i => (appends i).exists_block message
  have works : Works configs blocks message existing ⟨featurizers, message, []⟩ :=
    ⟨appends, counted, ⟨rfl, fun _ _ => rfl⟩, given⟩
  refine ⟨blocks, fun i => ⟨counted i, (counted i).putsAlone (appends i)⟩, fun turns => ?_⟩
  obtain ⟨results, worksAfter⟩ := run_works works turns
  have values := textValues_run works turns
  refine ⟨results, worksAfter.same, fun called => ?_, values, ?_, ?_⟩
  · rw [values, worksAfter.features, if_neg called]
    rfl
  · have widths : turns.map (fun turn => (blocks turn.1).length) =
        turns.map fun turn => (featurizers turn.1).textColumns :=
      List.map_congr_left fun turn _ => (counted turn.1).length_eq (appends turn.1)
    rw [values, List.length_append, List.length_flatten, List.map_map, ← widths]
    rfl
  · rintro earlier ⟨later, rfl⟩
    rw [values, textValues_run works, List.map_append, List.flatten_append, ← List.append_assoc]
    exact List.prefix_append _ _

-- Letters, and pairs of them too. The message has features before both are called, one of them twice.

def pairConfig : Config := { letterConfig with mostNgram := 2 }

def pairsLearned : Featurizer :=
  ((⟨pairConfig, (Normalizer.ofConfig pairConfig).1, .untrained⟩ : Featurizer).train none letters).featurizer

def lettersAndPairs (letter : Bool) : Featurizer := if letter then lettersLearned else pairsLearned

def letterOrPairConfig (letter : Bool) : Config := if letter then letterConfig else pairConfig

theorem lettersAndPairs_accumulate :
    (∀ i, Lived (letterOrPairConfig i) (lettersAndPairs i)) ∧ (∀ i, (lettersAndPairs i).state.isTrained = true) ∧
    (∀ i, (letterOrPairConfig i).sequence = false ∧ (letterOrPairConfig i).sparse = false) ∧
    labelled.features? Field.textFeatures = (some [7]).map .dense ∧
    let after := (Pipeline.mk lettersAndPairs labelled []).run [(true, some letters), (false, none), (true, none)]
    ∃ ofLetters ofPairs, PutsAlone lettersLearned labelled ofLetters ∧ PutsAlone pairsLearned labelled ofPairs ∧
      after.message.features? Field.textFeatures = some (.dense ([7] ++ (ofLetters ++ (ofPairs ++ ofLetters)))) ∧
      (textValues after.message).length = 10 := by
  have paths : ∀ i, Lived (letterOrPairConfig i) (lettersAndPairs i) := by
    rintro (_ | _)
    · exact .step (.made rfl) (.train none letters)
    · exact .step (.step (.made rfl) (.train none _)) (.train none letters)
  have trained : ∀ i, (lettersAndPairs i).state.isTrained = true := by decide +kernel
  have dense : ∀ i, (letterOrPairConfig i).sequence = false ∧ (letterOrPairConfig i).sparse = false := by
    rintro (_ | _) <;> exact ⟨rfl, rfl⟩
  have given : labelled.features? Field.textFeatures = (some [7]).map .dense := rfl
  refine ⟨paths, trained, dense, given, ?_⟩
  obtain ⟨blocks, own, accumulate⟩ := dense_features_accumulate paths trained dense given
  obtain ⟨_, _, isDense, values, length, _⟩ := accumulate [(true, some letters), (false, none), (true, none)]
  have columns : (lettersAndPairs true).textColumns = 2 ∧ (lettersAndPairs false).textColumns = 5 := by decide +kernel
  refine ⟨blocks true, blocks false, (own true).2, (own false).2, ?_, ?_⟩
  · rw [isDense (List.cons_ne_nil _ _), values]
    simp
  · rw [length]
    simp [columns]

end Featurizer

end TextFeatures
