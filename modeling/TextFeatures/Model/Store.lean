import TextFeatures.Json.Decode
import TextFeatures.Model.Format

namespace TextFeatures

structure ModelReference where
  file : String
deriving DecidableEq, Repr

namespace ModelReference

def toJson (reference : ModelReference) : Json := .record [("file", .text reference.file)]

def ofJson? (value : Json) : Option ModelReference :=
  match value.fields? ["file"] with
  | some [file] => (Json.required? Json.text? file).map ModelReference.mk
  | _ => none

end ModelReference

-- The files of one directory, and of those above it.
structure ModelStore where
  files : Dictionary String Bytes

namespace ModelStore

def empty : ModelStore := ⟨∅⟩

-- The longest name, in bytes.
def nameLimit : Nat := 255

-- The longest path, in bytes.
def pathLimit : Nat := 4095

def isName (step : String) : Bool :=
  step ≠ ".." && step.utf8ByteSize ≤ nameLimit && step.toList.all (· ≠ '\x00')

-- The shortest path to the same file. There are no directories inside the directory, so a path climbs
-- first, if at all, and then names a file and ends.
def shortPath? (path : String) : Option String :=
  let steps := path.splitOn "/"
  let moves := steps.filter fun step => step ≠ "" && step ≠ "."
  match moves.dropWhile (· = "..") with
  | [name] =>
    if isName name && steps.getLast? = some name && !path.startsWith "/" &&
        path.utf8ByteSize ≤ pathLimit then
      some ("/".intercalate moves)
    else none
  | _ => none

def put? (path : String) (bytes : Bytes) (store : ModelStore) : Option ModelStore :=
  (shortPath? path).map fun name => ⟨store.files.insert name bytes⟩

def get? (store : ModelStore) (path : String) : Option Bytes :=
  (shortPath? path).bind store.files.get?

def fileName (name : String) : String := name ++ ".bin"

def persist (featurizer : Featurizer) (name : String) (store : ModelStore) :
    Except Error (ModelReference × ModelStore) :=
  match store.put? (fileName name) featurizer.write with
  | some store => .ok (⟨fileName name⟩, store)
  | none => .error .file

-- A featurizer as it was kept. Where none can be read, a new one takes its place.
def load (config : Config) (reference : Option ModelReference) (store : ModelStore) :
    Traced Featurizer :=
  match reference with
  | none => do
    Traced.tell .modelUnnamed
    Featurizer.ofConfig config
  | some reference =>
    match ((store.get? reference.file).map Featurizer.ofBytes).getD (.error .unreadable) with
    | .ok featurizer => .succeed featurizer
    | .error .endlessText => .fail (.fault .endlessText)
    | .error .unreadable => do
      Traced.tell (.modelUnreadable reference.file)
      Featurizer.ofConfig config

end ModelStore

end TextFeatures
