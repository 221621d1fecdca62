import TextFeatures.Proofs.Featurizer.Failures
import TextFeatures.Proofs.Featurizer.Runs
import TextFeatures.Proofs.Normalizer
import TextFeatures.Proofs.Vectorizer.Marking

namespace TextFeatures.Featurizer

def Turn.lemmatizer? (turn : Turn) : Option Lemmatizer :=
  match turn.action with
  | .train lemmatizer _ => lemmatizer
  | .process _ _ => none

-- The lemmatizers of those trainings of a run that come to vocabularies.
def lemmatizersTaken (turns : List Turn) : List Lemmatizer :=
  (turns.filter Turn.learns).filterMap Turn.lemmatizer?

-- Two featurizers have the same vocabularies, and normalize alike.
structure LearnedAlike (one other : Featurizer) : Prop where
  normalizer : one.normalizer = other.normalizer
  vocabularies : one.state.vectorizers?.map Vocabularies.ofVectorizers =
    other.state.vectorizers?.map Vocabularies.ofVectorizers

variable {config : Config} {featurizer fresh one other : Featurizer} {notices : List Notice} {actions : List Action}
  {lemmatizer : Option Lemmatizer} {data : TrainingData} {vectorizers : Vectorizers}

theorem trainingNormalizer_eq :
    featurizer.trainingNormalizer lemmatizer = featurizer.normalizer.lemmatizedBy lemmatizer.toList := by
  cases lemmatizer <;> rfl

-- Each training that comes to vocabularies lemmatizes what the one before it has left.
theorem turn_normalizer (turn : Turn) :
    turn.after.normalizer = turn.featurizer.normalizer.lemmatizedBy (lemmatizersTaken [turn]) := by
  cases turn_ends turn with
  | unchanged unlearned _ same => simp [lemmatizersTaken, unlearned, same, Normalizer.lemmatizedBy]
  | failed unlearned _ state => simp [lemmatizersTaken, unlearned, state, Normalizer.lemmatizedBy]
  | seen unlearned _ state => simp [lemmatizersTaken, unlearned, state, Normalizer.lemmatizedBy]
  | @trained lemmatizer _ _ action learned _ state =>
    rw [state]
    refine trainingNormalizer_eq.trans ?_
    cases lemmatizer <;> simp [lemmatizersTaken, learned, Turn.lemmatizer?, action]

theorem lemmatizersTaken_cons {turn : Turn} {later : List Turn} :
    lemmatizersTaken (turn :: later) = lemmatizersTaken [turn] ++ lemmatizersTaken later := by
  unfold lemmatizersTaken
  rw [← List.filterMap_append, ← List.filter_append, List.singleton_append]

theorem run_normalizer : (featurizer.run actions).normalizer =
    featurizer.normalizer.lemmatizedBy (lemmatizersTaken (featurizer.turns actions)) := by
  induction actions generalizing featurizer with
  | nil => rfl
  | cons action later ih =>
    have first := turn_normalizer ⟨featurizer, action⟩
    rw [turns, lemmatizersTaken_cons, Normalizer.lemmatizedBy_append, ← first]
    exact ih

theorem train_learns_iff (sound : Sound config featurizer) :
    ((featurizer.train lemmatizer data).result = .ok () ∧
      ∃ vectorizers, (featurizer.train lemmatizer data).featurizer.state = .ready vectorizers) ↔
      (∀ corpus ∈ corpora config (Channels.ofExamples data.intentExamples),
        Vectorizer.Learnable config (featurizer.trainingNormalizer lemmatizer) corpus) ∧
      ∀ message ∈ data.intentExamples, ¬Clashes config message := by
  have accepted := sound.accepted
  obtain rfl := sound.configured
  constructor
  · rintro ⟨succeeded, vectorizers, ready⟩
    cases (train_ends : TrainEnd featurizer lemmatizer data _) with
    | unlearned _ _ state => cases ready.symm.trans (congrArg Featurizer.state state)
    | refused _ _ result => cases succeeded.symm.trans result
    | trained learned =>
      have learnable := exists_learned_iff.mp ⟨_, (learn_eq_ok accepted learned).1⟩
      refine ⟨learnable, fun message member clashes => ?_⟩
      obtain ⟨e, failed⟩ := (train_fails_iff sound).mpr ⟨learnable, message, member, clashes⟩
      cases succeeded.symm.trans failed
  · rintro ⟨learnable, clean⟩
    cases (train_ends : TrainEnd featurizer lemmatizer data (featurizer.train lemmatizer data)) with
    | unlearned learned =>
      obtain ⟨corpus, member, missing⟩ := (learn_vocabulary_error_iff accepted).mp ⟨_, learned⟩
      exact absurd (learnable corpus member) missing
    | refused _ _ result =>
      obtain ⟨_, message, member, clashes⟩ := (train_fails_iff sound).mp ⟨_, result⟩
      exact absurd clashes (clean message member)
    | trained _ result state => exact ⟨result, _, congrArg Featurizer.state state⟩

theorem trained_of_untrained (untrained : featurizer.state = .untrained)
    (trained : (featurizer.train lemmatizer data).featurizer.state.vectorizers? = some vectorizers) :
    (featurizer.train lemmatizer data).result = .ok () ∧
      (featurizer.train lemmatizer data).featurizer = { featurizer with
        normalizer := featurizer.trainingNormalizer lemmatizer, state := .ready vectorizers } := by
  cases (train_ends : TrainEnd featurizer lemmatizer data (featurizer.train lemmatizer data)) with
  | unlearned _ _ state =>
    rw [state] at trained
    cases trained
  | refused _ _ _ same =>
    rw [same, untrained] at trained
    cases trained
  | trained _ result state =>
    rw [state] at trained
    cases trained
    exact ⟨result, state⟩

-- What is learned hangs on the configuration and on the normalizer that is trained with.
theorem train_alike (configured : one.config = other.config)
    (normalized : one.trainingNormalizer lemmatizer = other.trainingNormalizer lemmatizer)
    (succeeded : (one.train lemmatizer data).result = .ok ())
    (ready : (one.train lemmatizer data).featurizer.state = .ready vectorizers) :
    (one.train lemmatizer data).featurizer = (other.train lemmatizer data).featurizer := by
  have sameLearned : one.learnedFrom lemmatizer data = other.learnedFrom lemmatizer data := by
    rw [learnedFrom, learnedFrom, configured, normalized]
  cases (train_ends : TrainEnd one lemmatizer data (one.train lemmatizer data)) with
  | unlearned _ _ state => cases ready.symm.trans (congrArg Featurizer.state state)
  | refused _ _ result => cases succeeded.symm.trans result
  | trained learned _ state =>
    rw [sameLearned] at learned
    cases (train_ends : TrainEnd other lemmatizer data (other.train lemmatizer data)) with
    | unlearned unlearned => cases learned.symm.trans unlearned
    | refused refused => cases learned.symm.trans refused
    | trained again _ sameState =>
      cases learned.symm.trans again
      rw [state, sameState, configured, normalized]

theorem retraining_normalizer : (featurizer.run actions).trainingNormalizer lemmatizer =
    featurizer.normalizer.lemmatizedBy (lemmatizersTaken (featurizer.turns actions) ++ lemmatizer.toList) := by
  rw [trainingNormalizer_eq, run_normalizer, Normalizer.lemmatizedBy_append]

theorem normalized_of_alike (made : ofConfig config = (.ok fresh, notices))
    (ended : ((fresh.run actions).train lemmatizer data).featurizer.state = .ready vectorizers)
    (alike : LearnedAlike ((fresh.run actions).train lemmatizer data).featurizer (fresh.train lemmatizer data).featurizer) :
    ((fresh.run actions).train lemmatizer data).result = .ok () ∧
      (fresh.run actions).trainingNormalizer lemmatizer = fresh.trainingNormalizer lemmatizer := by
  have sound : Sound config (fresh.run actions) := reached_sound (reached_run (.made made))
  obtain ⟨others, trained⟩ : ∃ others, (fresh.train lemmatizer data).featurizer.state.vectorizers? = some others := by
    have vocabularies := alike.vocabularies
    rw [ended] at vocabularies
    obtain ⟨others, trained, _⟩ := Option.map_eq_some_iff.mp vocabularies.symm
    exact ⟨others, trained⟩
  obtain ⟨succeeded, state⟩ := trained_of_untrained (state_ofConfig made) trained
  obtain ⟨_, clean⟩ := (train_learns_iff (sound_ofConfig made)).mp ⟨succeeded, others, congrArg Featurizer.state state⟩
  cases (train_ends : TrainEnd (fresh.run actions) lemmatizer data _) with
  | unlearned _ _ failed => cases ended.symm.trans (congrArg Featurizer.state failed)
  | refused _ _ result =>
    obtain ⟨_, message, member, clashes⟩ := (train_fails_iff sound).mp ⟨_, result⟩
    exact absurd clashes (clean message member)
  | trained _ result left =>
    have normalized := alike.normalizer
    rw [left, state] at normalized
    exact ⟨result, normalized⟩

-- A later training learns what it would have learned by itself, if it lemmatizes the words out of the vocabulary to the
-- same. Words that were lemmatized before, and their lemmas now, may come to something else.
theorem retrained_alike_iff (made : ofConfig config = (.ok fresh, notices)) (actions : List Action)
    (ended : ((fresh.run actions).train lemmatizer data).featurizer.state = .ready vectorizers) :
    let outcome := (fresh.run actions).train lemmatizer data
    let alone := fresh.train lemmatizer data
    let taken := lemmatizersTaken (fresh.turns actions)
    (LearnedAlike outcome.featurizer alone.featurizer ↔ outcome.result = .ok () ∧
      fresh.normalizer.lemmatizedBy (taken ++ lemmatizer.toList) =
        fresh.normalizer.lemmatizedBy lemmatizer.toList) ∧
    (LearnedAlike outcome.featurizer alone.featurizer → outcome.featurizer = alone.featurizer) ∧
    (outcome.result = .ok () → (taken = [] ∨ fresh.normalizer.oovWords = [] ∨
      ∃ lemmas, lemmatizer = some lemmas ∧ (∀ each ∈ taken, each = lemmas) ∧
        (fresh.normalizer.lemmatized lemmas).lemmatized lemmas = fresh.normalizer.lemmatized lemmas) →
      outcome.featurizer = alone.featurizer) := by
  intro outcome alone taken
  have same (succeeded : outcome.result = .ok ())
      (normalized : fresh.normalizer.lemmatizedBy (taken ++ lemmatizer.toList) =
        fresh.normalizer.lemmatizedBy lemmatizer.toList) : outcome.featurizer = alone.featurizer := by
    have configured : (fresh.run actions).config = fresh.config :=
      (reached_sound (reached_run (.made made))).configured.trans (sound_ofConfig made).configured.symm
    refine train_alike configured ?_ succeeded ended
    rw [retraining_normalizer, normalized, trainingNormalizer_eq]
  have needed (alike : LearnedAlike outcome.featurizer alone.featurizer) : outcome.result = .ok () ∧
      fresh.normalizer.lemmatizedBy (taken ++ lemmatizer.toList) =
        fresh.normalizer.lemmatizedBy lemmatizer.toList := by
    obtain ⟨succeeded, normalized⟩ := normalized_of_alike made ended alike
    rw [retraining_normalizer, trainingNormalizer_eq] at normalized
    exact ⟨succeeded, normalized⟩
  refine ⟨⟨needed, ?_⟩, ?_, ?_⟩
  · rintro ⟨succeeded, normalized⟩
    rw [same succeeded normalized]
    exact ⟨rfl, rfl⟩
  · intro alike
    obtain ⟨succeeded, normalized⟩ := needed alike
    exact same succeeded normalized
  · intro succeeded reason
    apply same succeeded
    rcases reason with untaken | wordless | ⟨lemmas, rfl, each, idempotent⟩
    · rw [untaken, List.nil_append]
    · rw [Normalizer.lemmatizedBy_of_nil wordless, Normalizer.lemmatizedBy_of_nil wordless]
    · exact Normalizer.lemmatizedBy_of_idempotent each idempotent

def nextLetter : Lemmatizer
  | "f" => ["g"]
  | "g" => ["h"]
  | other => [other]

def lastLetter : Lemmatizer := fun _ => ["h"]

def unlemmatized : Featurizer :=
  ⟨Vectorizer.ofLetters 1 1, (Normalizer.ofConfig (Vectorizer.ofLetters 1 1)).1, .untrained⟩

def threeLetters : TrainingData :=
  ⟨[((Message.ofText "f g h").set Field.intent (.text "x")).set Field.intentTokens (.tokens [.plain "x" 0 1])]⟩

theorem unlemmatized_retrained :
    (∃ notices, ofConfig (Vectorizer.ofLetters 1 1) = (.ok unlemmatized, notices)) ∧
    (∃ vectorizers, ((unlemmatized.run [.train (some lastLetter) threeLetters]).train (some lastLetter)
      threeLetters).featurizer.state = .ready vectorizers) ∧
    ((unlemmatized.run [.train (some lastLetter) threeLetters]).train (some lastLetter) threeLetters).featurizer =
      (unlemmatized.train (some lastLetter) threeLetters).featurizer := by
  obtain ⟨notices, made⟩ : ∃ notices, ofConfig (Vectorizer.ofLetters 1 1) = (.ok unlemmatized, notices) := ⟨_, rfl⟩
  obtain ⟨vectorizers, ended⟩ : ∃ vectorizers, ((unlemmatized.run [.train (some lastLetter) threeLetters]).train
      (some lastLetter) threeLetters).featurizer.state = .ready vectorizers := ⟨_, rfl⟩
  have taken : lemmatizersTaken (unlemmatized.turns [.train (some lastLetter) threeLetters]) = [lastLetter] := rfl
  have idempotent : (unlemmatized.normalizer.lemmatized lastLetter).lemmatized lastLetter =
      unlemmatized.normalizer.lemmatized lastLetter := by decide +kernel
  obtain ⟨_, _, alike⟩ := retrained_alike_iff made [.train (some lastLetter) threeLetters] ended
  refine ⟨⟨notices, made⟩, ⟨vectorizers, ended⟩, alike rfl (.inr (.inr ⟨lastLetter, rfl, ?_, idempotent⟩))⟩
  rw [taken]
  exact List.forall_mem_singleton.mpr rfl

def letteredOnce : Featurizer := (unlemmatized.train (some nextLetter) threeLetters).featurizer

def letteredTwice : Featurizer := (letteredOnce.train (some nextLetter) threeLetters).featurizer

-- The second training lemmatizes the lemma of the first, and learns the letter that the first takes for unknown.
theorem lemmatized_again :
    ((ofConfig (Vectorizer.ofLetters 1 1)).1 = .ok unlemmatized ∧
      letteredOnce = unlemmatized.run [.train (some nextLetter) threeLetters]) ∧
    (∃ vectorizers, letteredOnce.state = .ready vectorizers ∧
      (vectorizers.forText.vocabulary.map (·.contains "g")) = some false) ∧
    (∃ vectorizers, letteredTwice.state = .ready vectorizers ∧
      (vectorizers.forText.vocabulary.map (·.contains "g")) = some true) ∧
    letteredOnce.normalizer.oovWords = ["g"] ∧ letteredTwice.normalizer.oovWords = ["h"] ∧
    ¬LearnedAlike letteredTwice letteredOnce := by
  have once : letteredOnce.normalizer.oovWords = ["g"] := by decide +kernel
  have twice : letteredTwice.normalizer.oovWords = ["h"] := by decide +kernel
  refine ⟨⟨rfl, rfl⟩, ⟨_, rfl, by decide +kernel⟩, ⟨_, rfl, by decide +kernel⟩, once, twice, ?_⟩
  intro alike
  have same := congrArg Normalizer.oovWords alike.normalizer
  rw [once, twice] at same
  exact absurd same (by decide)

end TextFeatures.Featurizer
