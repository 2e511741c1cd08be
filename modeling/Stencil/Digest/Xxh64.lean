import Stencil.Digest.Basic

/-!
# The hash XXH64

The 64-bit member of the xxHash family, with seed zero, over the UTF-8 bytes of a text.

Stripes of 32 bytes feed four lanes of eight bytes each, and the lanes are merged into one word;
a text shorter than a stripe starts from a constant instead.  The length and the bytes that are
left over (in steps of eight, then of four, then of one) are folded into the word, and a last
step spreads every bit over the whole of it.
-/

namespace Stencil.Xxh64

/-- The first of the five primes of the algorithm. -/
def prime1 : UInt64 := 0x9e3779b185ebca87

/-- The second of the five primes. -/
def prime2 : UInt64 := 0xc2b2ae3d27d4eb4f

/-- The third of the five primes. -/
def prime3 : UInt64 := 0x165667b19e3779f9

/-- The fourth of the five primes. -/
def prime4 : UInt64 := 0x85ebca77c2b2ae63

/-- The fifth of the five primes. -/
def prime5 : UInt64 := 0x27d4eb2f165667c5

/-- Rotates a word to the left, for an amount between 1 and 63. -/
def rotateLeft (word amount : UInt64) : UInt64 := (word <<< amount) ||| (word >>> (64 - amount))

/-- The word that bytes spell, the lowest byte first. -/
def littleEndian : List UInt8 → UInt64
  | [] => 0
  | byte :: rest => byte.toUInt64 + littleEndian rest <<< 8

/-- One step of a lane. -/
def round (lane input : UInt64) : UInt64 := rotateLeft (lane + input * prime2) 31 * prime1

/-- The four lanes between two stripes. -/
structure Lanes where
  lane1 : UInt64
  lane2 : UInt64
  lane3 : UInt64
  lane4 : UInt64

namespace Lanes

/-- The lanes before the first stripe. -/
def start : Lanes := ⟨prime1 + prime2, prime2, 0, 0 - prime1⟩

/-- Feeds a stripe of 32 bytes. -/
def feed (lanes : Lanes) (stripe : List UInt8) : Lanes where
  lane1 := round lanes.lane1 (littleEndian (stripe.take 8))
  lane2 := round lanes.lane2 (littleEndian ((stripe.drop 8).take 8))
  lane3 := round lanes.lane3 (littleEndian ((stripe.drop 16).take 8))
  lane4 := round lanes.lane4 (littleEndian ((stripe.drop 24).take 8))

/-- Folds one lane into the merged word. -/
def absorb (word lane : UInt64) : UInt64 := (word ^^^ round 0 lane) * prime1 + prime4

/-- Merges the lanes into one word. -/
def merge (lanes : Lanes) : UInt64 :=
  let sum := rotateLeft lanes.lane1 1 + rotateLeft lanes.lane2 7 + rotateLeft lanes.lane3 12 +
    rotateLeft lanes.lane4 18
  [lanes.lane1, lanes.lane2, lanes.lane3, lanes.lane4].foldl absorb sum

end Lanes

/-- Feeds all whole stripes of the bytes; gives the lanes and the bytes left over. -/
def feedStripes (lanes : Lanes) (bytes : List UInt8) : Lanes × List UInt8 :=
  if 32 ≤ bytes.length then feedStripes (lanes.feed (bytes.take 32)) (bytes.drop 32)
  else (lanes, bytes)
termination_by bytes.length
decreasing_by simp only [List.length_drop]; omega

/-- Folds the bytes left over into the word, eight at a time, then four, then one by one. -/
def feedRest (word : UInt64) : List UInt8 → UInt64
  | [] => word
  | byte :: rest =>
    if 7 ≤ rest.length then
      let input := littleEndian (byte :: rest.take 7)
      feedRest (rotateLeft (word ^^^ round 0 input) 27 * prime1 + prime4) (rest.drop 7)
    else if 3 ≤ rest.length then
      let input := littleEndian (byte :: rest.take 3)
      feedRest (rotateLeft (word ^^^ input * prime1) 23 * prime2 + prime3) (rest.drop 3)
    else feedRest (rotateLeft (word ^^^ byte.toUInt64 * prime5) 11 * prime1) rest
termination_by bytes => bytes.length
decreasing_by all_goals simp only [List.length_drop, List.length_cons]; omega

/-- Spreads every bit of a word over the whole of it. -/
def avalanche (word : UInt64) : UInt64 :=
  let word := (word ^^^ word >>> 33) * prime2
  let word := (word ^^^ word >>> 29) * prime3
  word ^^^ word >>> 32

/-- The hash of a sequence of bytes. -/
def hashBytes (bytes : List UInt8) : UInt64 :=
  let (lanes, rest) := feedStripes Lanes.start bytes
  let word := if 32 ≤ bytes.length then lanes.merge else prime5
  avalanche (feedRest (word + UInt64.ofNat bytes.length) rest)

/-- XXH64 of the UTF-8 bytes of a text is the hash that digests are made with. -/
instance : TextHash := ⟨fun text => hashBytes text.toUTF8.data.toList⟩

end Stencil.Xxh64
