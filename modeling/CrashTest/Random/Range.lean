import CrashTest.Random.Stream
/-!
Uniform draws below a bound, by widening multiplication with rejection.

A 64-bit draw `v` is multiplied by the bound `n` into 128 bits; the high half is the candidate and
the low half decides acceptance: it must not exceed the zone `(n << z) - 1 mod 2^64`, where `z`
counts the leading zero bits of `n`. A rejected draw is replaced by the next one. The zone is a
multiple of `n` minus one, so every result below `n` has the same number of accepted draws.
-/
-- Powers of numbers are the core ones, also where Mathlib's monoid powers are in scope.
attribute [local instance (high)] instPowNat

namespace CrashTest.Random

/-- Leading zero bits of a 64-bit word. -/
def leadingZeros (n : Nat) : Nat := 64 - (Nat.log2 n + 1)

/-- The acceptance zone for the bound `n`. -/
def zone (n : Nat) : Nat :=
  (n * 2 ^ leadingZeros n % 2 ^ (64 : Nat) + 2 ^ (64 : Nat) - 1) % 2 ^ (64 : Nat)

/-- Draws until a draw is accepted; `fuel` bounds the draws (each is rejected with probability
below one half). -/
def drawBelow (n : Nat) : Nat → Generator → Nat × Generator
  | 0, g => (0, g)
  | fuel + 1, g =>
    let (v, g) := g.nextU64
    let wide := v.toNat * n
    if wide % 2 ^ (64 : Nat) ≤ zone n then (wide / 2 ^ (64 : Nat), g) else drawBelow n fuel g

/-- A uniform number in `[0, n)`, for `0 < n < 2^64`. -/
def Generator.below (g : Generator) (n : Nat) : Nat × Generator := drawBelow n 1024 g

end CrashTest.Random
