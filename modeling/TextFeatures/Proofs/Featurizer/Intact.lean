import Mathlib.Logic.Relation
import TextFeatures.Proofs.Checked.Calls
import TextFeatures.Proofs.Featurizer.Lifetimes
import TextFeatures.Proofs.Featurizer.Writing

namespace TextFeatures

variable {config : Config} {normalizer : Normalizer} {vocabulary : Vocabulary} {vectorizer : Vectorizer}

-- Each term has a column of its own, and no column is left without a term.
structure Vocabulary.OneToOne (vocabulary : Vocabulary) : Prop where
  inside : ∀ term column, vocabulary.index? term = some column → column < vocabulary.size
  onto : ∀ column < vocabulary.size, ∃! term, vocabulary.index? term = some column

theorem Vocabulary.oneToOne_iff_perm :
    vocabulary.OneToOne ↔ (vocabulary.indices.entries.map Prod.snd).Perm (List.range vocabulary.size) := by
  constructor
  · intro oneToOne
    have column (entry : String × Nat) (there : entry ∈ vocabulary.indices.entries) :
        vocabulary.index? entry.1 = some entry.2 := Dictionary.get?_eq_some_iff.mpr there
    have distinct : (vocabulary.indices.entries.map Prod.snd).Nodup := by
      refine List.Nodup.map_on ?_ (Dictionary.nodup_entries _)
      intro one oneThere other otherThere same
      have sameTerm : one.1 = other.1 := (oneToOne.onto one.2 (oneToOne.inside _ _ (column one oneThere))).unique
        (column one oneThere) (same ▸ column other otherThere)
      exact Prod.ext sameTerm same
    refine (List.perm_ext_iff_of_nodup distinct List.nodup_range).mpr fun number => ?_
    rw [List.mem_map, List.mem_range]
    constructor
    · rintro ⟨entry, there, rfl⟩
      exact oneToOne.inside _ _ (column entry there)
    · intro inside
      obtain ⟨term, found, _⟩ := oneToOne.onto number inside
      exact ⟨(term, number), Dictionary.get?_eq_some_iff.mp found, rfl⟩
  · intro shuffled
    have among {term : String} {number : Nat} (found : vocabulary.index? term = some number) :
        (term, number) ∈ vocabulary.indices.entries := Dictionary.get?_eq_some_iff.mp found
    refine ⟨fun term number found => ?_, fun number inside => ?_⟩
    · exact List.mem_range.mp (shuffled.mem_iff.mp (List.mem_map.mpr ⟨_, among found, rfl⟩))
    · obtain ⟨⟨term, _⟩, there, rfl⟩ := List.mem_map.mp (shuffled.mem_iff.mpr (List.mem_range.mpr inside))
      refine ⟨term, Dictionary.get?_eq_some_iff.mpr there, fun other found => ?_⟩
      have distinct := shuffled.nodup_iff.mpr List.nodup_range
      exact congrArg Prod.fst (List.inj_on_of_nodup_map distinct (among found) there rfl)

instance : DecidablePred Vocabulary.OneToOne := fun _ => decidable_of_iff _ Vocabulary.oneToOne_iff_perm.symm

theorem Vocabulary.Numbered.oneToOne (numbered : vocabulary.Numbered) : vocabulary.OneToOne :=
  ⟨numbered.alphabetical.inside, numbered.alphabetical.onto⟩

-- A vectorizer as its configuration makes it, but for a vocabulary that need not have been learned.
def Vectorizer.Intact (config : Config) (normalizer : Normalizer) (vectorizer : Vectorizer) : Prop :=
  ∃ vocabulary, vocabulary.OneToOne ∧ withVocabulary config normalizer vocabulary = .ok vectorizer

theorem Vectorizer.Intact.exists_serves (intact : vectorizer.Intact config normalizer) :
    ∃ vocabulary, vectorizer.Serves config normalizer vocabulary := by
  obtain ⟨vocabulary, oneToOne, made⟩ := intact
  exact ⟨vocabulary, oneToOne.inside, made⟩

theorem Vectorizer.Trained.intact (trained : vectorizer.Trained config normalizer vocabulary) :
    vectorizer.Intact config normalizer := ⟨vocabulary, trained.numbered.oneToOne, trained.configured⟩

namespace Featurizer

variable {featurizer next later : Featurizer} {message : Message} {vectorizers : Vectorizers}

-- All that processing relies on. Training leads here, and so can a file that no training has written.
structure Intact (featurizer : Featurizer) : Prop where
  accepted : featurizer.config.validate = .ok ()
  text : ∀ vectorizers, featurizer.state.vectorizers? = some vectorizers →
    vectorizers.forText.Intact featurizer.config featurizer.normalizer
  label : ∀ vectorizers, featurizer.state.vectorizers? = some vectorizers →
    vectorizers.forLabel.Intact featurizer.config featurizer.normalizer

theorem intact_of_none (accepted : featurizer.config.validate = .ok ()) (none : featurizer.state.vectorizers? = none) :
    Intact featurizer := ⟨accepted, by simp [none], by simp [none]⟩

theorem intact_of_trained (accepted : featurizer.config.validate = .ok ())
    (state : featurizer.state.vectorizers? = some vectorizers)
    (trained : vectorizers.Trained featurizer.config featurizer.normalizer) : Intact featurizer := by
  obtain ⟨_, ofText⟩ := trained.forText
  obtain ⟨_, ofLabel⟩ := trained.forLabel
  refine ⟨accepted, fun others found => ?_, fun others found => ?_⟩ <;> cases state.symm.trans found
  · exact ofText.intact
  · exact ofLabel.intact

theorem train_intact (intact : Intact featurizer) (lemmatizer : Option Lemmatizer) (data : TrainingData) :
    Intact (featurizer.train lemmatizer data).featurizer := by
  cases (train_ends : TrainEnd featurizer lemmatizer data _) with
  | unlearned _ _ state =>
    rw [state]
    exact intact_of_none intact.accepted rfl
  | refused _ _ _ unchanged => rwa [unchanged]
  | trained learned _ state =>
    rw [state]
    exact intact_of_trained intact.accepted rfl (learn_eq_ok intact.accepted learned).1.trained

theorem process_intact (intact : Intact featurizer) (message : Message) (testData : Option TrainingData) :
    Intact (featurizer.process message testData).featurizer := by
  cases (process_ends : ProcessEnd featurizer message testData _) with
  | untrained _ _ unchanged => rwa [unchanged]
  | alone _ _ _ unchanged => rwa [unchanged]
  | refused _ _ _ _ unchanged => rwa [unchanged]
  | first state _ _ _ seen =>
    have before : featurizer.state.vectorizers? = some _ := congrArg State.vectorizers? state
    rw [seen]
    refine ⟨intact.accepted, ?_, ?_⟩ <;> rintro _ ⟨⟩
    · exact intact.text _ before
    · exact intact.label _ before

theorem step_intact (intact : Intact featurizer) (step : Step featurizer next) : Intact next := by
  cases step with
  | train lemmatizer data => exact train_intact intact lemmatizer data
  | process message testData => exact process_intact intact message testData

theorem steps_intact (intact : Intact featurizer) (steps : Relation.ReflTransGen Step featurizer later) :
    Intact later := by
  induction steps with
  | refl => exact intact
  | tail _ step ih => exact step_intact ih step

-- A call comes to a result, and no access on the way to it is a breach.
def GoesThrough (featurizer : Featurizer) (message : Message) (testData : Option TrainingData) : Prop :=
  (∃ seen, (featurizer.process message testData).result = .ok seen) ∧
  ∀ vectorizers, featurizer.state.vectorizers? = some vectorizers →
    Checked.messageFeatures featurizer.config vectorizers message =
      Checked.told (messageFeatures featurizer.config vectorizers message) ∧
    ∀ data, testData = some data → Checked.featurizeTestData featurizer.config vectorizers data =
      Checked.told (featurizeTestData featurizer.config vectorizers data)

theorem exists_processMessage (intact : Intact featurizer) (state : featurizer.state.vectorizers? = some vectorizers)
    (unmarked : Unmarked message) : ∃ processed, featurizer.processMessage vectorizers message = .ok processed := by
  obtain ⟨vocabulary, serves⟩ := (intact.text vectorizers state).exists_serves
  obtain ⟨counts, counted⟩ := exists_countsAlone intact.accepted serves message.messageText
  refine ⟨message.setFeatures Field.textFeatures (toFloats counts), ?_⟩
  rw [processMessage, messageFeatures_of_serves serves, counted, ok_bind, mergeText_unmarked unmarked]
  rfl

theorem Intact.goesThrough (intact : Intact featurizer) (unmarked : Unmarked message) (testData : Option TrainingData) :
    GoesThrough featurizer message testData := by
  refine ⟨?_, fun vectorizers state => ?_⟩
  · cases state : featurizer.state.vectorizers? with
    | none =>
      cases (process_ends : ProcessEnd featurizer message testData _) with
      | untrained _ result => exact ⟨false, result⟩
      | alone trained => cases state.symm.trans trained
      | refused ready => cases state.symm.trans (congrArg State.vectorizers? ready)
      | first ready => cases state.symm.trans (congrArg State.vectorizers? ready)
    | some vectorizers =>
      obtain ⟨_, serves⟩ := (intact.label vectorizers state).exists_serves
      obtain ⟨processed, done⟩ := exists_processMessage intact state unmarked
      exact (process_succeeds state done fun data => featurizeTestData_of_serves intact.accepted serves data).1
  · obtain ⟨_, ofText⟩ := (intact.text vectorizers state).exists_serves
    obtain ⟨_, ofLabel⟩ := (intact.label vectorizers state).exists_serves
    exact ⟨Checked.messageFeatures_of_serves intact.accepted ofText message,
      fun data _ => Checked.featurizeTestData_of_serves intact.accepted ofLabel data⟩

-- What can be given any message without features, now and whatever is done with it until then.
structure Usable (featurizer : Featurizer) : Prop where
  accepted : featurizer.config.validate = .ok ()
  vocabularies : ∀ vectorizers, featurizer.state.vectorizers? = some vectorizers →
    ∀ vectorizer ∈ [vectorizers.forText, vectorizers.forLabel],
      ∃ vocabulary, vectorizer.vocabulary = some vocabulary ∧ vocabulary.OneToOne
  goesThrough : ∀ later, Relation.ReflTransGen Step featurizer later →
    ∀ message testData, Unmarked message → GoesThrough later message testData

theorem Intact.usable (intact : Intact featurizer) : Usable featurizer where
  accepted := intact.accepted
  vocabularies vectorizers state := by
    have fitted {vectorizer : Vectorizer} (whole : vectorizer.Intact featurizer.config featurizer.normalizer) :
        ∃ vocabulary, vectorizer.vocabulary = some vocabulary ∧ vocabulary.OneToOne := by
      obtain ⟨vocabulary, oneToOne, made⟩ := whole
      obtain ⟨_, _, rfl⟩ := Vectorizer.withVocabulary_eq_ok_iff.mp made
      exact ⟨vocabulary, rfl, oneToOne⟩
    simp only [List.forall_mem_cons]
    exact ⟨fitted (intact.text vectorizers state), fitted (intact.label vectorizers state), List.forall_mem_nil _⟩
  goesThrough later steps message testData unmarked := (steps_intact intact steps).goesThrough unmarked testData

end Featurizer

end TextFeatures
