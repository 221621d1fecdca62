import TextFeatures.Config
import TextFeatures.Config.Json
import TextFeatures.Decimal.Shortest
import TextFeatures.Dictionary
import TextFeatures.Error
import TextFeatures.Features
import TextFeatures.Features.Json
import TextFeatures.Featurizer
import TextFeatures.Featurizer.Counts
import TextFeatures.Featurizer.Processing
import TextFeatures.Featurizer.Training
import TextFeatures.Json.Basic
import TextFeatures.Json.Decode
import TextFeatures.Json.Number
import TextFeatures.Json.Reader
import TextFeatures.Json.Writer
import TextFeatures.Matrix.Dense
import TextFeatures.Matrix.Sparse
import TextFeatures.Message
import TextFeatures.Message.Channels
import TextFeatures.Message.Json
import TextFeatures.Model.Bytes
import TextFeatures.Model.Format
import TextFeatures.Model.Store
import TextFeatures.Normalizer
import TextFeatures.Notice
import TextFeatures.NumberSet
import TextFeatures.Pattern
import TextFeatures.Pattern.CharClass
import TextFeatures.Pattern.Expr
import TextFeatures.Pattern.Footprint
import TextFeatures.Pattern.Program
import TextFeatures.Pattern.Reader
import TextFeatures.Pattern.Search
import TextFeatures.Pattern.Simplified
import TextFeatures.Pattern.Texts
import TextFeatures.Tagging.Bilou
import TextFeatures.Tagging.TagIds
import TextFeatures.Text.Accents
import TextFeatures.Text.Numbers
import TextFeatures.Text.Quoted
import TextFeatures.Tokens.Grams
import TextFeatures.Tokens.Json
import TextFeatures.Tokens.PatternTokens
import TextFeatures.Tokens.StopWords
import TextFeatures.Tokens.Token
import TextFeatures.Tokens.WordGrams
import TextFeatures.Tokens.Words
import TextFeatures.Unicode.Additions
import TextFeatures.Unicode.Ages
import TextFeatures.Unicode.BinaryProperties
import TextFeatures.Unicode.Breaks.Grapheme
import TextFeatures.Unicode.Breaks.Sentence
import TextFeatures.Unicode.Breaks.Word
import TextFeatures.Unicode.Category
import TextFeatures.Unicode.Category.Table
import TextFeatures.Unicode.Classes
import TextFeatures.Unicode.Contributory
import TextFeatures.Unicode.Decomposition
import TextFeatures.Unicode.Decomposition.CombiningClass
import TextFeatures.Unicode.Decomposition.Table
import TextFeatures.Unicode.Encoding
import TextFeatures.Unicode.Fold
import TextFeatures.Unicode.Fold.Table
import TextFeatures.Unicode.Lowercase
import TextFeatures.Unicode.Lowercase.Table
import TextFeatures.Unicode.Property
import TextFeatures.Unicode.ScriptExtensions
import TextFeatures.Unicode.Scripts
import TextFeatures.Unicode.Spans
import TextFeatures.Unicode.Table
import TextFeatures.Vectorizer
import TextFeatures.Vectorizer.Analysis
import TextFeatures.Vocabulary
import TextFeatures.Proofs.Tagging.Marks
import TextFeatures.Proofs.Tagging.Order
import TextFeatures.Proofs.Tagging.Decoding
import TextFeatures.Proofs.Dictionary
import TextFeatures.Proofs.Matrix.Rows
import TextFeatures.Proofs.Results
import TextFeatures.Proofs.Vocabulary
import TextFeatures.Proofs.Vectorizer
import TextFeatures.Proofs.Featurizer.Counts
import TextFeatures.Proofs.Featurizer.Learning
import TextFeatures.Proofs.Message.Updates
import TextFeatures.Proofs.Featurizer.Histories
import TextFeatures.Proofs.Featurizer.Training
import TextFeatures.Proofs.Featurizer.Processing
import TextFeatures.Proofs.Model.Bytes
import TextFeatures.Proofs.Model.Format
import TextFeatures.Proofs.Model.Reloading
import TextFeatures.Proofs.Featurizer.Lifetimes
import TextFeatures.Proofs.Featurizer.Repeating
import TextFeatures.Proofs.Matrix.Filling
import TextFeatures.Proofs.Featurizer.Agreement
import TextFeatures.Proofs.Tokens.Blanks
import TextFeatures.Proofs.Checked.Access
import TextFeatures.Proofs.Checked.Terms
import TextFeatures.Proofs.Checked.Matrices
import TextFeatures.Proofs.Checked.Counts
import TextFeatures.Proofs.Checked.Calls
import TextFeatures.Proofs.Featurizer.Failures
import TextFeatures.Proofs.Featurizer.Reordering
import TextFeatures.Proofs.Featurizer.Separation
import TextFeatures.Proofs.Tokens.WordGrams
import TextFeatures.Proofs.Vectorizer.Marking
import TextFeatures.Proofs.Normalizer
import TextFeatures.Proofs.Vectorizer.Recounting
import TextFeatures.Proofs.Vectorizer.StopWords
import TextFeatures.Proofs.Featurizer.Runs
import TextFeatures.Proofs.Featurizer.Retraining
import TextFeatures.Proofs.Featurizer.Effects
import TextFeatures.Proofs.Tagging.Numbering
import TextFeatures.Proofs.Tokens.Words
import TextFeatures.Proofs.Featurizer.Sequences
import TextFeatures.Proofs.Featurizer.Accumulating
import TextFeatures.Proofs.Json.Numerals
import TextFeatures.Proofs.Json.Numbers
import TextFeatures.Proofs.Json.Reading
import TextFeatures.Proofs.Json.Decoding
import TextFeatures.Proofs.Config.Shares
import TextFeatures.Proofs.Config.Rendering
import TextFeatures.Proofs.Features.Rendering
import TextFeatures.Proofs.Message.Rendering
import TextFeatures.Proofs.Doubles
import TextFeatures.Proofs.Vocabulary.Selection
import TextFeatures.Proofs.Featurizer.Intact
import TextFeatures.Proofs.Model.Loading
import TextFeatures.Proofs.Tagging.Containment
import TextFeatures.Proofs.Tagging.Exchange
import TextFeatures.Proofs.Vectorizer.Counting
import TextFeatures.Proofs.Pattern.Search
import TextFeatures.Proofs.Text.Runs
import TextFeatures.Proofs.Pattern.Words
import TextFeatures.Proofs.Text.Numbers
import TextFeatures.Proofs.Unicode.Lowercase
import TextFeatures.Proofs.Vectorizer.Pieces
import TextFeatures.Proofs.Tagging.Tiling
import TextFeatures.Proofs.Text.Occurrences
import TextFeatures.Proofs.Vectorizer.Forcing
import TextFeatures.Proofs.Vectorizer.Alarms
import TextFeatures.Proofs.Text.Cuts
import TextFeatures.Proofs.Text.Collapsing
import TextFeatures.Proofs.Vectorizer.Digits
import TextFeatures.Proofs.Checked.Offsets
import TextFeatures.Proofs.Tokens.LongWords
import TextFeatures.Proofs.Tokens.Collapsing
import TextFeatures.Proofs.Tokens.Scans
import TextFeatures.Proofs.Checked.GramLoops
import TextFeatures.Proofs.Tokens.InsideWords
import TextFeatures.Proofs.Tokens.Gaps
import TextFeatures.Proofs.Tokens.WholeText
import TextFeatures.Proofs.Matrix.Building
import TextFeatures.Proofs.Matrix.Orderly
import TextFeatures.Proofs.Matrix.Entries
import TextFeatures.Proofs.Tagging.Independence
import TextFeatures.Proofs.Tokens.WordWindows
import TextFeatures.Proofs.Unicode.Rows
import TextFeatures.Proofs.Unicode.Tables
import TextFeatures.Proofs.Unicode.Forms
import TextFeatures.Proofs.Unicode.Categories
import TextFeatures.Proofs.Text.Accents
import TextFeatures.Proofs.Normalizer.NormalForm
