import TextFeatures.Featurizer
import TextFeatures.Features
import TextFeatures.Tokens.Words

namespace TextFeatures.Featurizer

-- What stands in the rows that fill a matrix up.
def padding : Int := -1

-- One row of counts for each word of a text, as if the word were a document.
def countWords (vectorizer : Vectorizer) (text : String) : Except Error (SparseMatrix Nat) :=
  vectorizer.transform (textsOf (Words.tokens text))

def padAll (matrices : List (DenseMatrix Int)) : List (DenseMatrix Int) :=
  let height := (matrices.map DenseMatrix.rowCount).foldl max 0
  matrices.map (DenseMatrix.pad padding height)

def sequenceCounts (config : Config) (vectorizer : Vectorizer) (texts : List String) :
    Except Error (Batch Int) := do
  let counts ← texts.mapM (countWords vectorizer)
  if config.sparse then
    return .sparseSequence (counts.map (SparseMatrix.map Int.ofNat))
  else
    let matrices ← (counts.mapM SparseMatrix.toDense).mapError .fault
    return .denseSequence (padAll (matrices.map (DenseMatrix.map Int.ofNat)))

def bagCounts (config : Config) (vectorizer : Vectorizer) (texts : List String) :
    Except Error (Batch Int) := do
  let counts ← vectorizer.transform texts
  if config.sparse then
    return .sparse (counts.map Int.ofNat)
  else
    let rows ← counts.toDense.mapError .fault
    return .dense (rows.map Int.ofNat)

def counts (config : Config) (vectorizer : Vectorizer) (texts : List String) :
    Except Error (Batch Int) :=
  if config.sequence then sequenceCounts config vectorizer texts
  else bagCounts config vectorizer texts

def features (config : Config) (vectorizer : Vectorizer) (texts : List String) :
    Except Error (List (Features Float)) := do
  let batch ← counts config vectorizer texts
  let examples ← batch.examples.mapError .fault
  return examples.map (Features.map Float.ofInt)

end TextFeatures.Featurizer
