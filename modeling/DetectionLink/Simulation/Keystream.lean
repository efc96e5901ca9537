import DetectionLink.Simulation.Draw

/-!
# A keystream of random words

Simulated detections have to be the same in every run, so their words come from a stream cipher:
the ChaCha block function with twelve rounds, a 64-bit block counter that starts at zero and a
nonce of zero. The key is expanded from a 64-bit seed.

* `Keystream.ofSeed`: the stream of a seed;
* `Keystream.words`: the stream as a source of words.
-/

namespace DetectionLink

/-- The words of one block, and the state it is made from. -/
abbrev WordBlock := Vector UInt32 16

namespace WordBlock

def rotateLeft (x : UInt32) (bits : UInt32) : UInt32 := (x <<< bits) ||| (x >>> (32 - bits))

/-- Adds one word into another, mixes the sum into a third and rotates that. -/
def mix (s : WordBlock) (sum term mixed : Fin 16) (bits : UInt32) : WordBlock :=
  let s := s.set sum (s[sum] + s[term])
  s.set mixed (rotateLeft (s[mixed] ^^^ s[sum]) bits)

def quarterRound (s : WordBlock) (a b c d : Fin 16) : WordBlock :=
  (((s.mix a b d 16).mix c d b 12).mix a b d 8).mix c d b 7

/-- The four columns, then the four diagonals. -/
def doubleRound (s : WordBlock) : WordBlock :=
  let columns := (((s.quarterRound 0 4 8 12).quarterRound 1 5 9 13).quarterRound 2 6 10 14
    ).quarterRound 3 7 11 15
  (((columns.quarterRound 0 5 10 15).quarterRound 1 6 11 12).quarterRound 2 7 8 13
    ).quarterRound 3 4 9 14

/-- Twelve rounds, and the state they started from added at the end. -/
def scrambled (s : WordBlock) : WordBlock :=
  let mixed := s.doubleRound.doubleRound.doubleRound.doubleRound.doubleRound.doubleRound
  mixed.zipWith (· + ·) s

/-- The state of a block: four constants, the key, the block's number and a nonce of zero. -/
def initial (key : Vector UInt32 8) (block : UInt64) : WordBlock :=
  #v[0x61707865, 0x3320646e, 0x79622d32, 0x6b206574,
    key[0], key[1], key[2], key[3], key[4], key[5], key[6], key[7],
    block.toUInt32, (block >>> 32).toUInt32, 0, 0]

end WordBlock

structure Keystream where
  key : Vector UInt32 8
  /-- The number of the next block. -/
  block : UInt64
  /-- Words of the last block that are still to be used. -/
  ready : List UInt32

namespace Keystream

/-! ## The key of a seed -/

/-- One step of the seed's own small generator. -/
def advance (seed : UInt64) : UInt64 := seed * 6364136223846793005 + 11634580027462260723

/-- The word a seed state stands for: folded to 32 bits and rotated by its top five bits. -/
def fold (seed : UInt64) : UInt32 :=
  let folded := (((seed >>> 18) ^^^ seed) >>> 27).toUInt32
  let turn := (seed >>> 59).toUInt32
  (folded >>> turn) ||| (folded <<< ((32 - turn) % 32))

/-- The state of the seed's generator after so many steps. -/
def seedState (seed : UInt64) : Nat → UInt64
  | 0 => seed
  | n + 1 => advance (seedState seed n)

def ofSeed (seed : UInt64) : Keystream :=
  ⟨Vector.ofFn fun i => fold (seedState seed (i.val + 1)), 0, []⟩

/-! ## Words -/

/-- The next word. A block that is used up is followed by the next. -/
def next (s : Keystream) : UInt32 × Keystream :=
  match s.ready with
  | word :: rest => (word, { s with ready := rest })
  | [] =>
    let words := (WordBlock.initial s.key s.block).scrambled
    (words[0], ⟨s.key, s.block + 1, words.toList.drop 1⟩)

def words (patience : Nat) : WordSource Keystream := ⟨next, patience⟩

end Keystream
end DetectionLink
