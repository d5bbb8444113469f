import ChipEight.Nibble
import ChipEight.Random.Stream

/-!
# Random — ChaCha

The random bytes that a seed of 64 bits stands for.  A seed is stretched into a key of eight
words; the key and a block counter start a ChaCha state, which is stirred twelve times; every word
of the blocks, in order, gives its low byte.

* `ChaCha.key`: a key from a seed, by a permuted linear congruence.
* `ChaCha.block`: the sixteen words of a numbered block.
* `ByteStream.ofSeed`: the bytes of a seed.
-/

namespace ChipEight

namespace ChaCha

/-- Sixteen words that are stirred together. -/
abbrev Block := Vector UInt32 16

/-- The number of a word of a block. -/
abbrev Place := Fin 16

/-- A word turned left by `n` bits. -/
def rotateLeft (w : UInt32) (n : UInt32) : UInt32 := (w <<< n) ||| (w >>> (32 - n))

/-- Adds word `b` to word `a`, and mixes the sum into word `d`, which is turned. -/
def mix (s : Block) (a b d : Place) (turn : UInt32) : Block :=
  let sum := s[a.val] + s[b.val]
  (s.set a sum).set d (rotateLeft (s[d.val] ^^^ sum) turn)

/-- Stirs four words of a block. -/
def quarterRound (s : Block) (a b c d : Place) : Block :=
  mix (mix (mix (mix s a b d 16) c d b 12) a b d 8) c d b 7

/-- Stirs the four columns of a block, then its four diagonals. -/
def doubleRound (s : Block) : Block :=
  let s := quarterRound s 0 4 8 12
  let s := quarterRound s 1 5 9 13
  let s := quarterRound s 2 6 10 14
  let s := quarterRound s 3 7 11 15
  let s := quarterRound s 0 5 10 15
  let s := quarterRound s 1 6 11 12
  let s := quarterRound s 2 7 8 13
  quarterRound s 3 4 9 14

/-- A block stirred by some double rounds. -/
def stir : Nat → Block → Block
  | 0, s => s
  | k + 1, s => stir k (doubleRound s)

/-- The block to start from: four constants, the key, the counter with its low word first, and
two zeros. -/
def start (key : Vector UInt32 8) (counter : UInt64) : Block :=
  #v[0x61707865, 0x3320646E, 0x79622D32, 0x6B206574,
     key[0], key[1], key[2], key[3], key[4], key[5], key[6], key[7],
     counter.toUInt32, (counter >>> 32).toUInt32, 0, 0]

/-- The words of the block with a number: the stirred block added to the one it started from. -/
def block (key : Vector UInt32 8) (counter : UInt64) : Block :=
  let s := start key counter
  (stir 6 s).zipWith (· + ·) s

/-- One step of the congruence that stretches a seed. -/
def stretch (s : UInt64) : UInt64 := s * 6364136223846793005 + 11634580027462260723

/-- The word that a state of the congruence gives, turned right by the highest bits of the state. -/
def output (s : UInt64) : UInt32 :=
  let turn := (s >>> 59).toUInt32
  rotateLeft (((s >>> 18) ^^^ s) >>> 27).toUInt32 (32 - turn)

/-- The key of a seed. -/
def key (seed : UInt64) : Vector UInt32 8 :=
  .ofFn fun i => output (Nat.repeat stretch (i.val + 1) seed)

/-- The word at a position of the sequence that a key gives. -/
def word (key : Vector UInt32 8) (k : Nat) : UInt32 :=
  (block key (UInt64.ofNat (k / 16)))[k % 16]

end ChaCha

namespace ByteStream

/-- The bytes that a seed stands for. -/
def ofSeed (seed : UInt64) : ByteStream :=
  let key := ChaCha.key seed
  ⟨fun k => (ChaCha.word key k).toUInt8, 0⟩

end ByteStream

end ChipEight
