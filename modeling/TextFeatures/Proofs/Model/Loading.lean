import TextFeatures.Proofs.Featurizer.Intact

namespace TextFeatures

variable {config : Config} {normalizer : Normalizer} {vocabulary : Vocabulary} {vocabularies : Vocabularies}
  {vectorizers : Vectorizers} {stored : StoredState} {state : State} {analysis : Analysis} {cause : AnalysisError}

namespace Vectorizer

theorem withVocabulary_of_analysis (made : Analysis.ofConfig config = .ok analysis) :
    withVocabulary config normalizer vocabulary = .ok ⟨normalizer, analysis, .ofConfig config, some vocabulary⟩ := by
  rw [withVocabulary, ofConfig, made]
  rfl

theorem withVocabulary_refused (refused : Analysis.ofConfig config = .error cause) :
    withVocabulary config normalizer vocabulary = .error (.analysis cause) := by
  rw [withVocabulary, ofConfig, refused]
  rfl

theorem fitted_withVocabulary {vectorizer : Vectorizer}
    (made : withVocabulary config normalizer vocabulary = .ok vectorizer) :
    vectorizer.vocabulary = some vocabulary := by
  obtain ⟨_, _, rfl⟩ := withVocabulary_eq_ok_iff.mp made
  rfl

end Vectorizer

namespace Vocabularies

def forText : Vocabularies → Vocabulary
  | shared vocabulary => vocabulary
  | separate text _ => text

def forLabel : Vocabularies → Vocabulary
  | shared vocabulary => vocabulary
  | separate _ label => label

theorem mem_toList : vocabulary ∈ vocabularies.toList ↔
    vocabulary = vocabularies.forText ∨ vocabulary = vocabularies.forLabel := by
  cases vocabularies <;> simp [toList, forText, forLabel]

theorem toVectorizers_eq_ok (made : vocabularies.toVectorizers config normalizer = .ok vectorizers) :
    Vectorizer.withVocabulary config normalizer vocabularies.forText = .ok vectorizers.forText ∧
      Vectorizer.withVocabulary config normalizer vocabularies.forLabel = .ok vectorizers.forLabel := by
  cases vocabularies with
  | shared vocabulary =>
    obtain ⟨vectorizer, both, done⟩ := bind_eq_ok_iff.mp made
    cases done
    exact ⟨both, both⟩
  | separate text label =>
    obtain ⟨ofText, text, rest⟩ := bind_eq_ok_iff.mp made
    obtain ⟨ofLabel, label, done⟩ := bind_eq_ok_iff.mp rest
    cases done
    exact ⟨text, label⟩

theorem toList_ne_nil (vocabularies : Vocabularies) : vocabularies.toList ≠ [] := by
  cases vocabularies <;> simp [toList]

theorem exists_toVectorizers (made : Analysis.ofConfig config = .ok analysis) :
    ∃ vectorizers, vocabularies.toVectorizers config normalizer = .ok vectorizers := by
  cases vocabularies <;> simp [toVectorizers, Vectorizer.withVocabulary_of_analysis made]

theorem toVectorizers_refused (refused : Analysis.ofConfig config = .error cause) :
    vocabularies.toVectorizers config normalizer = .error (.analysis cause) := by
  cases vocabularies <;> simp [toVectorizers, Vectorizer.withVocabulary_refused refused]

end Vocabularies

namespace StoredState

-- How a stored state comes back: what had no vocabularies as it was, and all others with vectorizers made for them,
-- where the configuration allows any.
inductive Remade (config : Config) (normalizer : Normalizer) (stored : StoredState) : Except Error State → Prop
  | bare {state : State} : stored.vocabularies = [] → state.vectorizers? = none →
      Remade config normalizer stored (.ok state)
  | refused {vocabularies : Vocabularies} {cause : AnalysisError} : stored.vocabularies = vocabularies.toList →
      Analysis.ofConfig config = .error cause → Remade config normalizer stored (.error (.analysis cause))
  | fitted {vocabularies : Vocabularies} {vectorizers : Vectorizers} {state : State} :
      stored.vocabularies = vocabularies.toList → vocabularies.toVectorizers config normalizer = .ok vectorizers →
      state.vectorizers? = some vectorizers → Remade config normalizer stored (.ok state)

theorem toState_remade (config : Config) (normalizer : Normalizer) (stored : StoredState) :
    Remade config normalizer stored (stored.toState config normalizer) := by
  have trained (wrap : Vectorizers → State) (held : ∀ vectorizers, (wrap vectorizers).vectorizers? = some vectorizers)
      (vocabularies : Vocabularies) (kept : stored.vocabularies = vocabularies.toList) :
      Remade config normalizer stored ((vocabularies.toVectorizers config normalizer).map wrap) := by
    cases configured : Analysis.ofConfig config with
    | error cause =>
      rw [Vocabularies.toVectorizers_refused configured, error_map]
      exact .refused kept configured
    | ok analysis =>
      obtain ⟨vectorizers, made⟩ : ∃ vectorizers, vocabularies.toVectorizers config normalizer = .ok vectorizers :=
        Vocabularies.exists_toVectorizers configured
      rw [made, ok_map]
      exact .fitted kept made (held vectorizers)
  cases stored with
  | untrained => exact .bare rfl rfl
  | failed => exact .bare rfl rfl
  | ready vocabularies => exact trained .ready (fun _ => rfl) vocabularies rfl
  | testDataFeaturized vocabularies => exact trained .testDataFeaturized (fun _ => rfl) vocabularies rfl

end StoredState

@[simp] theorem Traced.fst_tell (notice : Notice) : (Traced.tell notice).1 = .ok () := rfl

def ModelStore.kept? (store : ModelStore) (reference : Option ModelReference) : Option Bytes :=
  reference.bind fun kept => store.get? kept.file

namespace Featurizer
open Bytes ModelStore

variable {featurizer : Featurizer} {reference : Option ModelReference} {store : ModelStore} {bytes : Bytes}

-- Nothing can be made of these bytes: they do not spell a featurizer, or they spell vocabularies together with a
-- configuration by which no terms can be found.
inductive Refused (bytes : Bytes) : Prop
  | unread : contents bytes = .error .unreadable → Refused bytes
  | unfindable {config : Config} {normalizer : Normalizer} {stored : StoredState} {cause : AnalysisError} :
      contents bytes = .ok (config, normalizer, stored) → stored.vocabularies ≠ [] →
      Analysis.ofConfig config = .error cause → Refused bytes

-- These bytes spell an accepted configuration, and in each vocabulary there is a column for each term.
inductive Valid (bytes : Bytes) : Prop
  | spelled {config : Config} {normalizer : Normalizer} {stored : StoredState} :
      contents bytes = .ok (config, normalizer, stored) → config.validate = .ok () →
      (∀ vocabulary ∈ stored.vocabularies, vocabulary.OneToOne) → Valid bytes

inductive ReadEnd (bytes : Bytes) : Except Damage Featurizer → Prop
  | damaged {damage : Damage} : contents bytes = .error damage → ReadEnd bytes (.error damage)
  | refused {config : Config} {normalizer : Normalizer} {stored : StoredState} {e : Error} :
      contents bytes = .ok (config, normalizer, stored) → stored.Remade config normalizer (.error e) →
      ReadEnd bytes (.error .unreadable)
  | read {config : Config} {normalizer : Normalizer} {stored : StoredState} {state : State} :
      contents bytes = .ok (config, normalizer, stored) → stored.Remade config normalizer (.ok state) →
      ReadEnd bytes (.ok ⟨config, normalizer, state⟩)

theorem ofBytes_ends (bytes : Bytes) : ReadEnd bytes (ofBytes bytes) := by
  rw [ofBytes_eq]
  cases spelled : contents bytes with
  | error damage => exact .damaged spelled
  | ok read =>
    obtain ⟨config, normalizer, stored⟩ := read
    have remade := stored.toState_remade config normalizer
    simp only [ok_bind]
    generalize stored.toState config normalizer = result at remade
    cases result with
    | error e => exact .refused spelled remade
    | ok state => exact .read spelled remade

theorem ofBytes_refused_iff : ofBytes bytes = .error .unreadable ↔ Refused bytes := by
  have ends := ofBytes_ends bytes
  constructor
  · intro refused
    rw [refused] at ends
    cases ends with
    | damaged unread => exact .unread unread
    | refused spelled remade =>
      cases remade with
      | refused held unanalyzed => exact .unfindable spelled (held ▸ Vocabularies.toList_ne_nil _) unanalyzed
  · intro refused
    generalize ofBytes bytes = result at ends
    cases refused with
    | unread damaged =>
      cases ends with
      | damaged too =>
        cases damaged.symm.trans too
        rfl
      | refused => rfl
      | read spelled => cases damaged.symm.trans spelled
    | unfindable spelled some unanalyzed =>
      cases ends with
      | damaged damaged => cases spelled.symm.trans damaged
      | refused => rfl
      | read too remade =>
        cases spelled.symm.trans too
        cases remade with
        | bare none => exact absurd none some
        | fitted _ made => cases made.symm.trans (Vocabularies.toVectorizers_refused unanalyzed)

-- What is in order in the bytes is in order in the featurizer that is made of them.
theorem exists_intact (valid : Valid bytes) : ∃ featurizer, ofBytes bytes = .ok featurizer ∧ featurizer.Intact := by
  obtain ⟨spelled, accepted, oneToOne⟩ := valid
  have ends := ofBytes_ends bytes
  generalize ofBytes bytes = result at ends
  cases ends with
  | damaged damaged => cases spelled.symm.trans damaged
  | refused too remade =>
    cases spelled.symm.trans too
    obtain ⟨_, analyzed⟩ := Analysis.exists_ofConfig accepted
    cases remade with
    | refused _ unanalyzed => cases analyzed.symm.trans unanalyzed
  | read too remade =>
    cases spelled.symm.trans too
    cases remade with
    | bare _ none => exact ⟨_, rfl, intact_of_none accepted none⟩
    | fitted held made state =>
      obtain ⟨ofText, ofLabel⟩ := Vocabularies.toVectorizers_eq_ok made
      refine ⟨_, rfl, accepted, fun others found => ?_, fun others found => ?_⟩ <;> cases state.symm.trans found
      · exact ⟨_, oneToOne _ (held ▸ Vocabularies.mem_toList.mpr (.inl rfl)), ofText⟩
      · exact ⟨_, oneToOne _ (held ▸ Vocabularies.mem_toList.mpr (.inr rfl)), ofLabel⟩

theorem Usable.valid (usable : featurizer.Usable) (read : ofBytes bytes = .ok featurizer) : Valid bytes := by
  have ends := ofBytes_ends bytes
  rw [read] at ends
  obtain - | - | ⟨spelled, remade⟩ := ends
  refine .spelled spelled usable.accepted fun vocabulary among => ?_
  cases remade with
  | bare none => simp [none] at among
  | fitted held made state =>
    obtain ⟨ofText, ofLabel⟩ := Vocabularies.toVectorizers_eq_ok made
    have fitted := usable.vocabularies _ state
    simp only [List.forall_mem_cons, Vectorizer.fitted_withVocabulary ofText,
      Vectorizer.fitted_withVocabulary ofLabel, Option.some.injEq, exists_eq_left'] at fitted
    rcases Vocabularies.mem_toList.mp (held ▸ among) with rfl | rfl
    · exact fitted.1
    · exact fitted.2.1

theorem load_of_read (kept : store.kept? reference = some bytes) (read : ofBytes bytes = .ok featurizer) :
    (load config reference store).1 = .ok featurizer := by
  obtain ⟨held, rfl, there⟩ := Option.bind_eq_some_iff.mp kept
  simp only [load, there, Option.map_some, Option.getD_some, read]
  rfl

theorem load_of_endless (kept : store.kept? reference = some bytes) (endless : ofBytes bytes = .error .endlessText) :
    (load config reference store).1 = .error (.fault .endlessText) := by
  obtain ⟨held, rfl, there⟩ := Option.bind_eq_some_iff.mp kept
  simp only [load, there, Option.map_some, Option.getD_some, endless]
  rfl

def fresh (config : Config) : Featurizer := ⟨config, (Normalizer.ofConfig config).1, .untrained⟩

theorem fst_ofConfig (accepted : config.validate = .ok ()) : (ofConfig config).1 = .ok (fresh config) := by
  simp only [ofConfig, accepted]
  rfl

theorem load_fresh (accepted : config.validate = .ok ())
    (refused : ∀ bytes, store.kept? reference = some bytes → Refused bytes) :
    (load config reference store).1 = .ok (fresh config) := by
  cases reference with
  | none => simp only [load, Traced.fst_bind, Traced.fst_tell, ok_bind, fst_ofConfig accepted]
  | some held =>
    have unread : ((store.get? held.file).map ofBytes).getD (.error .unreadable) = .error .unreadable := by
      cases there : store.get? held.file with
      | none => rfl
      | some bytes => exact ofBytes_refused_iff.mpr (refused bytes there)
    simp only [load, unread, Traced.fst_bind, Traced.fst_tell, ok_bind, fst_ofConfig accepted]

-- Loading leads to a featurizer that can be relied on exactly if the file is either refused or in order. What is
-- refused is the same as no file at all.
theorem load_usable_iff (accepted : config.validate = .ok ()) (reference : Option ModelReference) (store : ModelStore) :
    ((∃ loaded, (load config reference store).1 = .ok loaded ∧ loaded.Usable) ↔
      ∀ bytes, store.kept? reference = some bytes → Refused bytes ∨ Valid bytes) ∧
    ((∀ bytes, store.kept? reference = some bytes → Refused bytes) →
      (load config reference store).1 = .ok (fresh config)) := by
  refine ⟨⟨?_, ?_⟩, load_fresh accepted⟩
  · rintro ⟨loaded, result, usable⟩ bytes kept
    cases read : ofBytes bytes with
    | ok featurizer =>
      cases result.symm.trans (load_of_read kept read)
      exact .inr (usable.valid read)
    | error damage =>
      cases damage with
      | unreadable => exact .inl (ofBytes_refused_iff.mp read)
      | endlessText => cases result.symm.trans (load_of_endless kept read)
  · intro harmless
    by_cases valid : ∃ bytes, store.kept? reference = some bytes ∧ Valid bytes
    · obtain ⟨bytes, kept, valid⟩ := valid
      obtain ⟨featurizer, read, intact⟩ := exists_intact valid
      exact ⟨featurizer, load_of_read kept read, intact.usable⟩
    · have refused (bytes : Bytes) (kept : store.kept? reference = some bytes) : Refused bytes :=
        (harmless bytes kept).resolve_right fun inOrder => valid ⟨bytes, kept, inOrder⟩
      have intact : (fresh config).Intact := intact_of_none accepted rfl
      exact ⟨_, load_fresh accepted refused, intact.usable⟩

-- A file that no training has written: the columns of the letters do not follow their order.

def swapped : StoredState :=
  .ready (.separate ⟨⟨[("a", 1), ("b", 0)], by decide⟩⟩ ⟨⟨[("x", 0)], by decide⟩⟩)

def fileOf (config : Config) (stored : StoredState) : Bytes := config.write ++ leftAlone.write ++ stored.write

def storeOf (bytes : Bytes) : ModelStore := ⟨Dictionary.empty.insert "m.bin" bytes⟩

theorem kept?_storeOf (bytes : Bytes) : (storeOf bytes).kept? (some ⟨fileName "m"⟩) = some bytes :=
  get?_of_put? (put?_letters .empty bytes)

theorem contents_fileOf (fits : config.Fits) (fit : ∀ vocabulary ∈ stored.vocabularies, vocabulary.Fits) :
    contents (fileOf config stored) = .ok (config, leftAlone, stored) := by
  have read := contents_written fits leftAlone_fits .nil fit stored.writtenAs_write []
  rwa [List.append_nil] at read

theorem swapped_fit : ∀ vocabulary ∈ swapped.vocabularies, vocabulary.Fits := by
  simp only [swapped, StoredState.vocabularies, Vocabularies.toList, List.forall_mem_cons]
  exact ⟨⟨by decide, by decide⟩, ⟨by decide, by decide⟩, List.forall_mem_nil _⟩

theorem load_swapped :
    letterConfig.validate = .ok () ∧ Valid (fileOf letterConfig swapped) ∧
    ∃ loaded, (load letterConfig (some ⟨fileName "m"⟩) (storeOf (fileOf letterConfig swapped))).1 = .ok loaded ∧
      loaded.Usable := by
  have accepted : letterConfig.validate = .ok () := rfl
  have valid : Valid (fileOf letterConfig swapped) :=
    .spelled (contents_fileOf letterConfig_fits swapped_fit) accepted (by decide)
  obtain ⟨usable, _⟩ := load_usable_iff accepted (some ⟨fileName "m"⟩) (storeOf (fileOf letterConfig swapped))
  refine ⟨accepted, valid, usable.mpr fun bytes kept => ?_⟩
  cases (kept?_storeOf _).symm.trans kept
  exact .inr valid

-- Windows on the letters that may have no letter in them, which no featurizer is made with.
def emptyWindows : Config :=
  { letterConfig with analyzer := .word, tokenPattern := "[a-z]", leastNgram := 0, mostNgram := 2 }

theorem load_emptyWindows :
    letterConfig.validate = .ok () ∧
    ∃ loaded, (load letterConfig (some ⟨fileName "m"⟩) (storeOf (fileOf emptyWindows swapped))).1 = .ok loaded ∧
      loaded.config.validate = .error .zeroNgram ∧ Unmarked (.ofText "a") ∧
      (loaded.process (.ofText "a") none).result = .error (.fault .emptyWindow) := by
  have fits : emptyWindows.Fits :=
    { letterConfig_fits with tokenPattern := by decide, leastNgram := by decide, mostNgram := by decide }
  obtain ⟨loaded, read, config, faulty⟩ : ∃ loaded, ofBytes (fileOf emptyWindows swapped) = .ok loaded ∧
      loaded.config = emptyWindows ∧ (loaded.process (.ofText "a") none).result = .error (.fault .emptyWindow) := by
    rw [ofBytes_eq, contents_fileOf fits swapped_fit]
    exact ⟨_, rfl, rfl, rfl⟩
  exact ⟨rfl, loaded, load_of_read (kept?_storeOf _) read, config ▸ rfl, rfl, faulty⟩

end Featurizer

end TextFeatures
