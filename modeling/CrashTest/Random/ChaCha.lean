/-!
The ChaCha block function on 32-bit words.

A block is sixteen words: the four constant words of "expand 32-byte k", eight key words, a 64-bit
block counter as two words (low first) and a 64-bit stream number as two words. Each double round
mixes the four columns and then the four diagonals with the quarter round; the block is the mixed
state added word by word to the state it started from. ChaCha8 takes four double rounds.
-/
-- Powers of numbers are the core ones, also where Mathlib's monoid powers are in scope.
attribute [local instance (high)] instPowNat

namespace CrashTest.Random

/-- Sixteen 32-bit words. -/
abbrev Block := Array UInt32

/-- Rotates a word left by `n` bits, `0 < n < 32`. -/
def rotl (x : UInt32) (n : UInt32) : UInt32 := (x <<< n) ||| (x >>> (32 - n))

/-- The quarter round on words `a`, `b`, `c`, `d` of the state. -/
def quarterRound (s : Block) (a b c d : Nat) : Block :=
  let va := s.getD a 0 + s.getD b 0
  let vd := rotl (s.getD d 0 ^^^ va) 16
  let vc := s.getD c 0 + vd
  let vb := rotl (s.getD b 0 ^^^ vc) 12
  let va := va + vb
  let vd := rotl (vd ^^^ va) 8
  let vc := vc + vd
  let vb := rotl (vb ^^^ vc) 7
  ((((s.setIfInBounds a va).setIfInBounds b vb).setIfInBounds c vc).setIfInBounds d vd)

/-- Four quarter rounds down the columns, then four along the diagonals. -/
def doubleRound (s : Block) : Block :=
  let s := quarterRound s 0 4 8 12
  let s := quarterRound s 1 5 9 13
  let s := quarterRound s 2 6 10 14
  let s := quarterRound s 3 7 11 15
  let s := quarterRound s 0 5 10 15
  let s := quarterRound s 1 6 11 12
  let s := quarterRound s 2 7 8 13
  quarterRound s 3 4 9 14

/-- The words of "expand 32-byte k". -/
def sigma : Block := #[0x61707865, 0x3320646e, 0x79622d32, 0x6b206574]

/-- The state a block starts from: constants, key, counter and stream number. -/
def initialState (key : Block) (counter stream : Nat) : Block :=
  sigma ++ key ++
    #[counter.toUInt32, (counter / 2 ^ (32 : Nat)).toUInt32,
      stream.toUInt32, (stream / 2 ^ (32 : Nat)).toUInt32]

/-- The block with this counter after `doubleRounds` double rounds. -/
def block (doubleRounds : Nat) (key : Block) (counter stream : Nat) : Block :=
  let init := initialState key counter stream
  Array.zipWith (· + ·) (Nat.repeat doubleRound doubleRounds init) init

/-- ChaCha8 has four double rounds. -/
def chacha8DoubleRounds : Nat := 4

end CrashTest.Random
