import CrashTest.Random.ChaCha
/-!
The word stream of a seeded ChaCha8 generator, and the seeding of one generator per iteration.

A generator is a key and a position in the endless sequence of its blocks' words (stream number 0,
counters 0, 1, 2, …). A 32-bit draw is the next word; a 64-bit draw is the next two words, the first
as the low half. A 64-bit seed is spread into the eight key words by a PCG32 generator: each word is
one PCG32 output, the state first stepped by `state * 6364136223846793005 + 11634580027462260723`
modulo `2^64`, the output being the xor-shifted state rotated right by its top five bits.
Iteration `i` of a campaign with seed `s` uses the seed `s xor (i * 0x9E3779B97F4A7C15 mod 2^64)`.
-/
namespace CrashTest.Random

/-- One PCG32 step: the new state and its output word. -/
def pcg32 (state : UInt64) : UInt64 × UInt32 :=
  let state := state * 6364136223846793005 + 11634580027462260723
  let xorshifted := (((state >>> 18) ^^^ state) >>> 27).toUInt32
  let rot := (state >>> 59).toUInt32
  let out := (xorshifted >>> rot) ||| (xorshifted <<< ((32 - rot) % 32))
  (state, out)

/-- The eight key words spread from a 64-bit seed. -/
def keyOfSeed (seed : UInt64) : Block :=
  let step (acc : UInt64 × Block) (_ : Nat) : UInt64 × Block :=
    let (state, out) := pcg32 acc.1
    (state, acc.2.push out)
  ((List.range 8).foldl step (seed, #[])).2

/-- The distance between the seeds of consecutive iterations: `2^64` over the golden ratio. -/
def iterationStride : UInt64 := 0x9E3779B97F4A7C15

/-- The seed of a campaign's iteration. -/
def iterationSeed (campaignSeed iteration : UInt64) : UInt64 :=
  campaignSeed ^^^ (iteration * iterationStride)

/-- A ChaCha8 generator: its key, the word position reached, and the block that holds it. -/
structure Generator where
  key : Block
  position : Nat
  current : Block
  deriving Inhabited

namespace Generator

/-- A generator seeded from 64 bits, at the first word. -/
def ofSeed (seed : UInt64) : Generator :=
  let key := keyOfSeed seed
  ⟨key, 0, block chacha8DoubleRounds key 0 0⟩

/-- The generator of a campaign's iteration. -/
def forIteration (campaignSeed iteration : UInt64) : Generator :=
  ofSeed (iterationSeed campaignSeed iteration)

/-- The next word, and the generator after it. -/
def nextWord (g : Generator) : UInt32 × Generator :=
  let blockIndex := g.position / 16
  let current :=
    if g.position % 16 = 0 ∧ 0 < g.position then block chacha8DoubleRounds g.key blockIndex 0
    else g.current
  (current.getD (g.position % 16) 0, { g with position := g.position + 1, current })

/-- A 32-bit draw. -/
def nextU32 (g : Generator) : UInt32 × Generator := g.nextWord

/-- A 64-bit draw: two words, the first as the low half. -/
def nextU64 (g : Generator) : UInt64 × Generator :=
  let (lo, g) := g.nextWord
  let (hi, g) := g.nextWord
  ((hi.toUInt64 <<< 32) ||| lo.toUInt64, g)

end Generator

end CrashTest.Random
