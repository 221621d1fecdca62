import TextFeatures.Proofs.Featurizer.Training

namespace TextFeatures

-- How many more test data a featurizer gives back, if it is not trained again.
def State.unused : State → Nat
  | .ready _ => 1
  | _ => 0

theorem State.unused_le_one {state : State} : state.unused ≤ 1 := by
  cases state <;> simp [unused]

namespace Featurizer

inductive Action where
  | train (lemmatizer : Option Lemmatizer) (data : TrainingData)
  | process (message : Message) (testData : Option TrainingData)

def after (featurizer : Featurizer) : Action → Featurizer
  | .train lemmatizer data => (featurizer.train lemmatizer data).featurizer
  | .process message testData => (featurizer.process message testData).featurizer

def run (featurizer : Featurizer) (actions : List Action) : Featurizer := actions.foldl after featurizer

structure Turn where
  featurizer : Featurizer
  action : Action

namespace Turn

def after (turn : Turn) : Featurizer := turn.featurizer.after turn.action

def learns (turn : Turn) : Bool :=
  match turn.action with
  | .train lemmatizer data =>
    let outcome := turn.featurizer.train lemmatizer data
    outcome.result.isOk && outcome.featurizer.state.isTrained
  | .process _ _ => false

def returnsTestData (turn : Turn) : Bool :=
  match turn.action with
  | .train _ _ => false
  | .process message testData => (turn.featurizer.process message testData).result.toOption.getD false

end Turn

def turns (featurizer : Featurizer) : List Action → List Turn
  | [] => []
  | action :: later => ⟨featurizer, action⟩ :: (featurizer.after action).turns later

variable {config : Config} {featurizer fresh : Featurizer} {notices : List Notice} {actions : List Action} {turn : Turn}

theorem step_after (action : Action) : Step featurizer (featurizer.after action) := by
  cases action with
  | train lemmatizer data => exact .train lemmatizer data
  | process message testData => exact .process message testData

theorem reached_run (path : Reached config featurizer) : Reached config (featurizer.run actions) := by
  induction actions generalizing featurizer with
  | nil => exact path
  | cons action rest ih => exact ih (.step path (step_after action))

theorem state_ofConfig (made : ofConfig config = (.ok fresh, notices)) : fresh.state = .untrained := by
  obtain ⟨_, rfl⟩ := ofConfig_eq_ok made
  rfl

-- How a turn can end, as far as the life of the featurizer goes. When test data are seen, they are only given back
-- if the message behind them goes well.
inductive TurnEnd (turn : Turn) : Prop
  | unchanged (unlearned : turn.learns = false) (withheld : turn.returnsTestData = false)
      (same : turn.after = turn.featurizer)
  | failed (unlearned : turn.learns = false) (withheld : turn.returnsTestData = false)
      (state : turn.after = { turn.featurizer with state := .failed })
  | trained {lemmatizer : Option Lemmatizer} {data : TrainingData} {vectorizers : Vectorizers}
      (action : turn.action = .train lemmatizer data) (learned : turn.learns = true)
      (withheld : turn.returnsTestData = false) (state : turn.after = { turn.featurizer with
        normalizer := turn.featurizer.trainingNormalizer lemmatizer, state := .ready vectorizers })
  | seen {vectorizers : Vectorizers} (unlearned : turn.learns = false)
      (ready : turn.featurizer.state = .ready vectorizers)
      (state : turn.after = { turn.featurizer with state := .testDataFeaturized vectorizers })

theorem withheld_of_alone {result : Except Error Bool} {left : Message} {processed : Except Error Message}
    (told : (result, left) = afterMessage false message processed) : result.toOption.getD false = false := by
  cases processed <;> cases told <;> rfl

theorem turn_ends (turn : Turn) : TurnEnd turn := by
  obtain ⟨featurizer, action⟩ := turn
  cases action with
  | train lemmatizer data =>
    have learns : Turn.learns ⟨featurizer, .train lemmatizer data⟩ =
        ((featurizer.train lemmatizer data).result.isOk &&
          (featurizer.train lemmatizer data).featurizer.state.isTrained) := rfl
    cases (train_ends : TrainEnd featurizer lemmatizer data _) with
    | unlearned _ _ state => exact .failed (by rw [learns, state]; simp [State.isTrained, State.vectorizers?]) rfl state
    | refused _ _ result same => exact .unchanged (by rw [learns, result]; rfl) rfl same
    | trained _ result state => exact .trained rfl (by rw [learns, result, state]; rfl) rfl state
  | process message testData =>
    have returns : Turn.returnsTestData ⟨featurizer, .process message testData⟩ =
        (featurizer.process message testData).result.toOption.getD false := rfl
    cases (process_ends : ProcessEnd featurizer message testData _) with
    | untrained _ result same => exact .unchanged rfl (by rw [returns, result]; rfl) same
    | alone _ _ told same => exact .unchanged rfl (returns.trans (withheld_of_alone told)) same
    | refused _ _ _ result same => exact .unchanged rfl (by rw [returns, result]; rfl) same
    | first ready _ _ _ state => exact .seen rfl ready state

-- Only training allows for test data to be given back once more, and each time that they are uses this up.
theorem turn_spends (turn : Turn) : (if turn.returnsTestData then 1 else 0) + turn.after.state.unused ≤
    turn.featurizer.state.unused + if turn.learns then 1 else 0 := by
  cases turn_ends turn with
  | unchanged _ withheld same => simp [withheld, same]
  | failed _ withheld state => simp [withheld, state, State.unused]
  | trained _ learned withheld state => simp [learned, withheld, state, State.unused]
  | seen _ ready state =>
    simp only [ready, state, State.unused]
    split <;> omega

theorem turn_stays_failed_iff (failed : turn.featurizer.state = .failed) :
    turn.after.state = .failed ↔ turn.learns = false := by
  cases turn_ends turn with
  | unchanged unlearned _ same => simp [unlearned, same, failed]
  | failed unlearned _ state => simp [unlearned, state]
  | trained _ learned _ state => simp [learned, state]
  | seen _ ready => cases failed.symm.trans ready

theorem run_spends (featurizer : Featurizer) (actions : List Action) :
    (featurizer.turns actions).countP Turn.returnsTestData + (featurizer.run actions).state.unused ≤
      featurizer.state.unused + (featurizer.turns actions).countP Turn.learns := by
  induction actions generalizing featurizer with
  | nil => simp [turns, run]
  | cons action later ih =>
    have first := turn_spends ⟨featurizer, action⟩
    have rest := ih (featurizer.after action)
    simp only [turns, List.countP_cons, run, List.foldl_cons] at rest ⊢
    simp only [Turn.after] at first
    omega

theorem run_stays_failed_iff (failed : featurizer.state = .failed) :
    (∀ turn ∈ featurizer.turns actions, turn.after.state = .failed) ↔
      ∀ turn ∈ featurizer.turns actions, turn.learns = false := by
  induction actions generalizing featurizer with
  | nil => simp [turns]
  | cons action later ih =>
    rw [turns, List.forall_mem_cons, List.forall_mem_cons, ← turn_stays_failed_iff failed]
    exact and_congr_right fun stays => ih stays

-- Between two trainings that come to vocabularies, test data are given back once at most. A featurizer that has failed
-- is brought back by such a training and by nothing else.
theorem test_data_returned_once_a_training (made : ofConfig config = (.ok fresh, notices))
    (actions later : List Action) :
    let reached := fresh.run actions
    (fresh.turns actions).countP Turn.returnsTestData ≤ (fresh.turns actions).countP Turn.learns ∧
    (reached.turns later).countP Turn.returnsTestData ≤ 1 + (reached.turns later).countP Turn.learns ∧
    (reached.state = .failed → ((∀ turn ∈ reached.turns later, turn.after.state = .failed) ↔
      ∀ turn ∈ reached.turns later, turn.learns = false)) := by
  intro reached
  refine ⟨?_, ?_, run_stays_failed_iff⟩
  · have spent := run_spends fresh actions
    have none : fresh.state.unused = 0 := by rw [state_ofConfig made]; rfl
    omega
  · have spent := run_spends reached later
    have once : reached.state.unused ≤ 1 := State.unused_le_one
    omega

def lettersActions : List Action := [.train none letters, .process (.ofText "ab") (some letters)]

-- Calls without anything to learn from.
def vainActions : List Action := [.train none ⟨[.ofText "c"]⟩, .process (.ofText "ab") (some letters)]

theorem lettersActions_return_once :
    (∃ notices, ofConfig letterConfig = (.ok untrained, notices)) ∧
    (untrained.turns (lettersActions ++ vainActions)).countP Turn.returnsTestData ≤ 1 ∧
    (untrained.run vainActions).state = .failed ∧
    ∀ turn ∈ (untrained.run vainActions).turns vainActions, turn.after.state = .failed := by
  obtain ⟨notices, made⟩ : ∃ notices, ofConfig letterConfig = (.ok untrained, notices) := ⟨_, rfl⟩
  obtain ⟨once, _⟩ := test_data_returned_once_a_training made (lettersActions ++ vainActions) []
  obtain ⟨_, _, fails⟩ := test_data_returned_once_a_training made vainActions vainActions
  have learned : (untrained.turns (lettersActions ++ vainActions)).countP Turn.learns = 1 := by decide +kernel
  have failed : (untrained.run vainActions).state = .failed := rfl
  have unlearned : ∀ turn ∈ (untrained.run vainActions).turns vainActions, turn.learns = false :=
    List.forall_mem_cons.mpr ⟨by decide +kernel, List.forall_mem_cons.mpr ⟨rfl, List.forall_mem_nil _⟩⟩
  exact ⟨⟨notices, made⟩, learned ▸ once, failed, (fails failed).mpr unlearned⟩

-- Trained again, a featurizer that has given test data back gives them back again, and one that has failed is ready.
theorem trained_again :
    (ofConfig letterConfig).1 = .ok untrained ∧
    (untrained.turns (lettersActions ++ lettersActions)).countP Turn.returnsTestData = 2 ∧
    exhausted = untrained.run [.train none ⟨[.ofText "c"]⟩] ∧ exhausted.state = .failed ∧
    (exhausted.run lettersActions).state.isFailed = false := by
  refine ⟨rfl, ?_, rfl, rfl, ?_⟩ <;> decide +kernel

end Featurizer

end TextFeatures
