import TextFeatures.Config.Json
import TextFeatures.Matrix.Sparse
import TextFeatures.Vectorizer.Analysis

namespace TextFeatures

structure Vectorizer where
  normalizer : Normalizer
  analysis : Analysis
  bounds : VocabularyBounds
  vocabulary : Option Vocabulary

namespace Vectorizer

def ofConfig (config : Config) (normalizer : Normalizer) : Except Error Vectorizer :=
  match Analysis.ofConfig config with
  | .error cause => .error (.analysis cause)
  | .ok analysis => .ok ⟨normalizer, analysis, .ofConfig config, none⟩

def withVocabulary (config : Config) (normalizer : Normalizer) (vocabulary : Vocabulary) :
    Except Error Vectorizer :=
  (ofConfig config normalizer).map fun vectorizer =>
    { vectorizer with vocabulary := some vocabulary }

def name (vectorizer : Vectorizer) : String := vectorizer.analysis.analyzer.name

def vocabularySize (vectorizer : Vectorizer) : Nat := vectorizer.vocabulary.elim 0 Vocabulary.size

def terms (vectorizer : Vectorizer) (vocabulary : Option Vocabulary) (document : String) :
    Except Error (List String) :=
  (vectorizer.analysis.terms vectorizer.normalizer vocabulary document).mapError .fault

def learn (vectorizer : Vectorizer) (corpus : List String) : Except Error Vocabulary := do
  let documents ← corpus.mapM (vectorizer.terms none)
  (Vocabulary.build documents vectorizer.bounds).mapError .vocabulary

def fit (vectorizer : Vectorizer) (corpus : List String) : Traced Vectorizer :=
  match vectorizer.learn corpus with
  | .error e => .fail e
  | .ok vocabulary =>
    (.ok { vectorizer with vocabulary := some vocabulary },
      [.fitted vectorizer.name vocabulary.size])

-- Terms that have no column are passed over.
def countRow (vocabulary : Vocabulary) (terms : List String) : Dictionary Nat Nat :=
  Dictionary.tally (terms.filterMap vocabulary.index?)

def transform (vectorizer : Vectorizer) (corpus : List String) :
    Except Error (SparseMatrix Nat) :=
  match vectorizer.vocabulary with
  | none => .error (.features .unfitted)
  | some vocabulary => do
    let documents ← corpus.mapM (vectorizer.terms (some vocabulary))
    (SparseMatrix.ofRows vocabulary.size (documents.map (countRow vocabulary))).mapError .features

end Vectorizer

end TextFeatures
