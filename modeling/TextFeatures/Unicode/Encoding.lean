namespace TextFeatures.Unicode

-- For each byte of an encoding the range in which it lies, first byte first. Every choice of bytes
-- from these ranges encodes a character.
abbrev Encoding := List (Nat × Nat)

def encode (code : Nat) : List Nat :=
  if code < 0x80 then [code]
  else if code < 0x800 then [0xc0 + code / 0x40, 0x80 + code % 0x40]
  else if code < 0x10000 then
    [0xe0 + code / 0x1000, 0x80 + code / 0x40 % 0x40, 0x80 + code % 0x40]
  else
    [0xf0 + code / 0x40000, 0x80 + code / 0x1000 % 0x40, 0x80 + code / 0x40 % 0x40,
      0x80 + code % 0x40]

-- Where a span is cut last before its encodings form one sequence of byte ranges: behind its first
-- part that ends a block, or in front of its last part that starts one.
def cutAt (first last block : Nat) : Option Nat :=
  if first / block = last / block then none
  else if first % block ≠ 0 then some ((first / block + 1) * block)
  else if last % block ≠ block - 1 then some (last / block * block)
  else none

-- The least code point of a longer encoding than that of `first`, or past the surrogates, if `last`
-- is not below it.
def lengthCut (first last : Nat) : Option Nat :=
  [0x80, 0x800, 0x10000].find? fun bound => first < bound && bound ≤ last

def cut (first last : Nat) : Option Nat :=
  (lengthCut first last).or
    (if last < 0x80 then none
    else ((cutAt first last 0x40).or (cutAt first last 0x1000)).or (cutAt first last 0x40000))

-- A cut moves one end of the span to the end of a block, so a few cuts are enough for each of the
-- four lengths.
def encodingsWithin : Nat → Nat → Nat → List Encoding
  | 0, _, _ => []
  | fuel + 1, first, last =>
    match cut first last with
    | some middle => encodingsWithin fuel first (middle - 1) ++ encodingsWithin fuel middle last
    | none => [(encode first).zip (encode last)]

def encodings (span : Nat × Nat) : List Encoding := encodingsWithin 24 span.1 span.2

end TextFeatures.Unicode
