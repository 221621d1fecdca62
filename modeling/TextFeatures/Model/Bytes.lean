namespace TextFeatures

abbrev Bytes := List UInt8

-- Why bytes are not read: they do not spell a value, or they announce a text that is longer than any
-- memory.
inductive Damage where
  | unreadable
  | endlessText
deriving DecidableEq, Repr

abbrev ByteReader (α : Type) := Bytes → Except Damage (α × Bytes)

namespace Bytes

def ofNat : Nat → Nat → Bytes
  | 0, _ => []
  | count + 1, n => UInt8.ofNat n :: ofNat count (n / 256)

def toNat : Bytes → Nat
  | [] => 0
  | byte :: rest => byte.toNat + 256 * toNat rest

def wordSize : Nat := 8

def tagSize : Nat := 4

def writeNatural (n : Nat) : Bytes := ofNat wordSize n

def writeTag (n : Nat) : Bytes := ofNat tagSize n

def writeBool (value : Bool) : Bytes := [if value then 1 else 0]

def writeText (text : String) : Bytes :=
  writeNatural text.utf8ByteSize ++ text.toUTF8.data.toList

def writeOptional (write : α → Bytes) : Option α → Bytes
  | none => writeBool false
  | some value => writeBool true ++ write value

def writeList (write : α → Bytes) (values : List α) : Bytes :=
  writeNatural values.length ++ values.flatMap write

end Bytes

namespace ByteReader
open Bytes

def take (count : Nat) : ByteReader Bytes := fun bytes =>
  if (bytes.take count).length = count then .ok (bytes.take count, bytes.drop count)
  else .error .unreadable

def number (size : Nat) : ByteReader Nat := fun bytes =>
  (take size bytes).map fun read => (toNat read.1, read.2)

def natural : ByteReader Nat := number wordSize

def tag : ByteReader Nat := number tagSize

-- Only zero and one stand for a truth value.
def bool : ByteReader Bool
  | 0 :: rest => .ok (false, rest)
  | 1 :: rest => .ok (true, rest)
  | _ => .error .unreadable

-- Room for a text is made before it is read, and no memory has this many bytes.
def textLimit : Nat := 0x8000000000000000

def text : ByteReader String := fun bytes => do
  let (size, bytes) ← natural bytes
  if textLimit ≤ size then .error .endlessText
  else
    let (encoded, bytes) ← take size bytes
    match String.fromUTF8? encoded.toByteArray with
    | some text => return (text, bytes)
    | none => .error .unreadable

def optional (read : ByteReader α) : ByteReader (Option α) := fun bytes => do
  match ← bool bytes with
  | (false, bytes) => return (none, bytes)
  | (true, bytes) => (read bytes).map fun read => (some read.1, read.2)

def times (read : ByteReader α) : Nat → ByteReader (List α)
  | 0, bytes => .ok ([], bytes)
  | count + 1, bytes => do
    let (value, bytes) ← read bytes
    let (values, bytes) ← times read count bytes
    return (value :: values, bytes)

def list (read : ByteReader α) : ByteReader (List α) := fun bytes => do
  let (length, bytes) ← natural bytes
  times read length bytes

def pair (first : ByteReader α) (second : ByteReader β) : ByteReader (α × β) := fun bytes => do
  let (a, bytes) ← first bytes
  let (b, bytes) ← second bytes
  return ((a, b), bytes)

end ByteReader

end TextFeatures
