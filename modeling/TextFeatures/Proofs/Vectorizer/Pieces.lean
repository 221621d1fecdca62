import TextFeatures.Proofs.Featurizer.Counts
import TextFeatures.Proofs.Text.Numbers
import TextFeatures.Proofs.Unicode.Lowercase
import TextFeatures.Proofs.Vectorizer.Counting

namespace TextFeatures

variable {config : Config} {normalizer : Normalizer} {vocabulary : Vocabulary} {stopWords : Option StopWords}
  {tokens : List Token} {least most column : Nat} {text : String} {texts : List String} {f : String → List String}
  {vectorizer : Vectorizer}

open Words Featurizer

theorem wordsOf_eq : wordsOf text = (Text.runs isUnbroken text.toList).map String.ofList := by
  rw [wordsOf, textsOf, tokens, Words.runs, runsFrom_eq, Text.runs, List.map_map, List.map_map]
  rfl

-- Where accents stay, a text is brought into its form word by word.
theorem Normalizer.runs_preprocess (unstripped : normalizer.stripAccents = none) :
    Text.runs isUnbroken (normalizer.preprocess text).toList =
      (wordsOf text).map fun word => (normalizer.preprocess word).toList := by
  rw [wordsOf_eq, List.map_map]
  unfold preprocess foldCase
  rw [unstripped]
  cases normalizer.lowercase with
  | true =>
    simp only [Unicode.lowercase, if_true, String.toList_ofList, Unicode.runs_lowercaseAfter, Function.comp_def]
  | false => simp [Function.comp_def]

-- What is found in a text is what is found in its words.
def Piecewise (f : String → List String) : Prop := ∀ text, f text = (wordsOf text).flatMap f

theorem wordsOf_word {word : String} (member : word ∈ wordsOf text) : wordsOf word = [word] := by
  rw [wordsOf_eq] at member
  obtain ⟨run, among, rfl⟩ := List.mem_map.mp member
  rw [wordsOf_eq, String.toList_ofList, Text.runs_run among]
  rfl

theorem piecewise_of_runs {h : List Char → List String} (unstripped : normalizer.stripAccents = none)
    (each : ∀ text, f text = (Text.runs isUnbroken (normalizer.preprocess text).toList).flatMap h) : Piecewise f := by
  have ofWords (text : String) :
      f text = (wordsOf text).flatMap fun word => h (normalizer.preprocess word).toList := by
    rw [each, Normalizer.runs_preprocess unstripped, List.flatMap_map]
  intro text
  rw [ofWords text]
  refine List.flatMap_congr fun word member => ?_
  rw [ofWords word, wordsOf_word member, List.flatMap_singleton]

namespace Analysis

-- What single words are left of a word, by its text alone.
def kept? (normalizer : Normalizer) (vocabulary : Vocabulary) : Option StopWords → String → Option String
  | none, word => some (renamed normalizer vocabulary word)
  | some stopWords, word => left? normalizer vocabulary stopWords word

theorem wordsLeft_eq_filterMap : wordsLeft normalizer stopWords (some vocabulary) tokens =
    (textsOf tokens).filterMap (kept? normalizer vocabulary stopWords) := by
  cases stopWords with
  | none =>
    rw [wordsLeft_of_unstopped]
    exact congrFun List.filterMap_eq_map.symm (textsOf tokens)
  | some stopWords => exact wordsLeft_eq

def plainWords (text : List Char) : List String :=
  (((Text.runs Unicode.isWord text).map Pattern.collapsed).filter Pattern.isLong).map String.ofList

theorem textsOf_wordTokens : textsOf (wordTokens normalizer Pattern.defaultPattern text) =
    plainWords (normalizer.preprocess text).toList := by
  rw [wordTokens, Pattern.textsOf_tokens_default, Pattern.runs_collapseNumbers, plainWords]

theorem plainWords_eq {chars : List Char} : plainWords chars = (Text.runs isUnbroken chars).flatMap plainWords := by
  unfold plainWords
  rw [Text.runs_narrower fun _ => Unicode.isUnbroken_of_isWord, List.map_flatMap, List.filter_flatMap, List.map_flatMap]

theorem piecewise_wordsLeft (unstripped : normalizer.stripAccents = none) : Piecewise fun text =>
    wordsLeft normalizer stopWords (some vocabulary) (wordTokens normalizer Pattern.defaultPattern text) := by
  refine piecewise_of_runs (h := fun word => (plainWords word).filterMap (kept? normalizer vocabulary stopWords))
    unstripped fun text => ?_
  rw [wordsLeft_eq_filterMap, textsOf_wordTokens, plainWords_eq, List.filterMap_flatMap]

theorem textsOf_ofRun {run : Nat × List Char} :
    textsOf (Grams.ofRun least most run) = textsOf (Grams.ofRun least most (0, run.2)) := by
  simp [Grams.ofRun, textsOf, List.map_flatMap, Function.comp_def, Token.plain]

theorem piecewise_insideWords (unstripped : normalizer.stripAccents = none) : Piecewise fun text =>
    textsOf (Grams.insideWords least most (normalizer.preprocess text).toList) := by
  refine piecewise_of_runs (h := fun word => textsOf (Grams.ofRun least most (0, word))) unstripped fun text => ?_
  rw [Grams.insideWords, textsOf, List.map_flatMap, Words.runs, runsFrom_eq, Text.runs, List.flatMap_map]
  exact List.flatMap_congr fun run _ => textsOf_ofRun

end Analysis

namespace Vectorizer

-- Single words of the default pattern and grams inside words are found piece by piece.
theorem Serves.exists_piecewise (serves : Serves config normalizer vocabulary vectorizer)
    (unstripped : normalizer.stripAccents = none)
    (wordwise : (config.analyzer = .word ∧ config.tokenPattern = Pattern.defaultSource ∧ config.leastNgram = 1 ∧
      config.mostNgram = 1) ∨ config.analyzer = .charInWord) :
    ∃ analyzed, (∀ document, vectorizer.terms (some vocabulary) document = .ok (analyzed document)) ∧
      Piecewise analyzed := by
  rcases wordwise with ⟨words, plain, least, most⟩ | inside
  · obtain ⟨pattern, compiled, analysis⟩ := exists_compiled words serves.analysis
    rw [plain, Pattern.compile_defaultSource] at compiled
    obtain rfl := Except.ok.inj compiled
    have found (document : String) : vectorizer.terms (some vocabulary) document =
        .ok (Analysis.wordsLeft normalizer config.stopWords (some vocabulary)
          (Analysis.wordTokens normalizer Pattern.defaultPattern document)) := by
      rw [terms, analysis, least, most, serves.normalizer_eq]
      rfl
    exact ⟨_, found, Analysis.piecewise_wordsLeft unstripped⟩
  · have kind := (Analysis.analyzer_ofConfig serves.analysis).trans inside
    cases analysis : vectorizer.analysis with
    | words pattern stopWords least most => simp [analysis, Analysis.analyzer] at kind
    | grams sizes =>
      have bounded : sizes.insideWords = true := by
        simpa [analysis, Analysis.analyzer] using kind
      have found (document : String) : vectorizer.terms (some vocabulary) document =
          .ok (textsOf (Grams.insideWords sizes.least sizes.most (normalizer.preprocess document).toList)) := by
        rw [terms, analysis, Analysis.terms, serves.normalizer_eq, GramSizes.tokens, bounded, if_pos rfl]
        rfl
      exact ⟨_, found, Analysis.piecewise_insideWords unstripped⟩

theorem valueAt_rowOf {terms : List String} :
    SparseMatrix.valueAt (rowOf vocabulary terms) column = (terms.filterMap vocabulary.index?).count column := by
  rw [rowOf, SparseMatrix.valueAt_storedEntries, countRow, Dictionary.getD_tally]

theorem valueAt_of_piecewise (piecewise : Piecewise f) : SparseMatrix.valueAt (rowOf vocabulary (f text)) column =
    ((wordsOf text).map fun word => SparseMatrix.valueAt (rowOf vocabulary (f word)) column).sum := by
  simp only [valueAt_rowOf]
  rw [piecewise text, List.filterMap_flatMap, List.count_flatMap]
  rfl

-- Where what is found is found word by word, the row of a text among any other texts is the sum of the rows of its
-- words.
theorem sum_of_word_rows (serves : Serves config normalizer vocabulary vectorizer)
    (unstripped : normalizer.stripAccents = none)
    (wordwise : (config.analyzer = .word ∧ config.tokenPattern = Pattern.defaultSource ∧ config.leastNgram = 1 ∧
      config.mostNgram = 1) ∨ config.analyzer = .charInWord) (text : String) :
    ∃ parts, countWords vectorizer text = .ok parts ∧ parts.rowCount = (wordsOf text).length ∧
      parts.columnCount = vocabulary.size ∧
      ∀ texts, ∃ whole, vectorizer.transform texts = .ok whole ∧ whole.rowCount = texts.length ∧
        whole.columnCount = vocabulary.size ∧
        ∀ d : Nat, texts[d]? = some text → ∀ column, ∃ counts,
          parts.column column = .ok counts ∧ whole.get d column = .ok counts.sum := by
  obtain ⟨analyzed, given, piecewise⟩ := serves.exists_piecewise unstripped wordwise
  have counted := serves.transform_of_analyzed given
  refine ⟨_, counted (wordsOf text), ?_, rfl, fun texts => ⟨_, counted texts, ?_, rfl, fun d there column => ?_⟩⟩
  · rw [SparseMatrix.rowCount_ofStored, List.length_map]
  · rw [SparseMatrix.rowCount_ofStored, List.length_map]
  · refine ⟨_, SparseMatrix.column_ofStored, ?_⟩
    rw [SparseMatrix.get_of_row (row_of_document there), valueAt_of_piecewise piecewise, List.map_map]
    rfl

def stoppedGreetings : Config :=
  { Config.default with oovMarker := some "oov", oovWords := ["rare"], stopWords := some (.custom ["the"]) }

theorem sum_of_stoppedGreetings :
    (stoppedGreetings.analyzer = .word ∧ stoppedGreetings.tokenPattern = Pattern.defaultSource ∧
      stoppedGreetings.leastNgram = 1 ∧ stoppedGreetings.mostNgram = 1 ∧
      (Normalizer.ofConfig stoppedGreetings).1.stripAccents = none) ∧
    ∃ vectorizer vocabulary parts whole,
      Learns stoppedGreetings (Normalizer.ofConfig stoppedGreetings).1 ["The good rare 12"] vectorizer ∧
      vectorizer.vocabulary = some vocabulary ∧ vocabulary.index? "oov" = some 2 ∧
      countWords vectorizer "THE good day, 34 Good-day" = .ok parts ∧ parts.rowCount = 5 ∧ parts.columnCount = 3 ∧
      vectorizer.transform ["good", "THE good day, 34 Good-day"] = .ok whole ∧
      parts.column 2 = .ok [1, 0, 1, 0, 1] ∧ whole.get 1 2 = .ok 3 := by
  obtain ⟨vectorizer, vocabulary, learns, fitted, oov, size, evaluated⟩ : ∃ vectorizer vocabulary,
      Learns stoppedGreetings (Normalizer.ofConfig stoppedGreetings).1 ["The good rare 12"] vectorizer ∧
      vectorizer.vocabulary = some vocabulary ∧ vocabulary.index? "oov" = some 2 ∧ vocabulary.size = 3 ∧
      ((countWords vectorizer "THE good day, 34 Good-day").toOption.bind fun parts => (parts.column 2).toOption) =
        some [1, 0, 1, 0, 1] :=
    ⟨_, _, ⟨_, _, rfl, rfl, rfl⟩, rfl, by decide +kernel, by decide +kernel, by decide +kernel⟩
  obtain ⟨_, trained, _⟩ := learns.trained
  cases fitted.symm.trans trained.fitted
  obtain ⟨parts, counted, rows, columns, sums⟩ :=
    sum_of_word_rows trained.serves rfl (.inl ⟨rfl, rfl, rfl, rfl⟩) "THE good day, 34 Good-day"
  obtain ⟨whole, transformed, _, _, each⟩ := sums ["good", "THE good day, 34 Good-day"]
  obtain ⟨counts, column, sum⟩ := each 1 rfl 2
  rw [counted, Except.toOption, Option.bind_some, column, Except.toOption, Option.some.injEq] at evaluated
  subst evaluated
  have five : (wordsOf "THE good day, 34 Good-day").length = 5 := by decide +kernel
  exact ⟨⟨rfl, rfl, rfl, rfl, rfl⟩, vectorizer, vocabulary, parts, whole, learns, fitted, oov, counted,
    rows.trans five, columns.trans size, transformed, column, sum⟩

end Vectorizer

end TextFeatures
