import Mathlib
import CrashTest.Random.Stream
/-!
Each iteration of a campaign draws from a generator of its own.

The seed of iteration `i` of a campaign seeded with `s` is `s xor (i * stride)` modulo `2^64`.
The stride is odd, hence prime to `2^64`, so multiplying by it loses nothing modulo `2^64`;
xor with a fixed word loses nothing either. So two iterations of one campaign never share a seed,
and neither does one iteration of two campaigns.
-/
namespace CrashTest.Random

/-- Multiplying by an odd word is injective modulo `2^64`: an odd number is prime to `2^64`. -/
theorem mul_odd_injective {a : UInt64} (ha : Odd a.toNat) : Function.Injective (· * a) := by
  intro x y hxy
  have hcop : Nat.gcd (2 ^ 64) a.toNat = 1 := (Nat.coprime_two_left.2 ha).pow_left 64
  have hmod : x.toNat * a.toNat ≡ y.toNat * a.toNat [MOD 2 ^ 64] := by
    simpa [Nat.ModEq, UInt64.toNat_mul] using congrArg UInt64.toNat hxy
  exact UInt64.toNat_inj.1
    ((Nat.ModEq.cancel_right_of_coprime hcop hmod).eq_of_lt_of_lt x.toNat_lt y.toNat_lt)

theorem iterationStride_odd : Odd iterationStride.toNat := by
  decide

/-- Iterations of one campaign get the same seed only if they are the same iteration. -/
theorem iterationSeed_inj_iteration {seed i j : UInt64} :
    iterationSeed seed i = iterationSeed seed j ↔ i = j := by
  unfold iterationSeed
  rw [UInt64.xor_right_inj]
  exact (mul_odd_injective iterationStride_odd).eq_iff

/-- One iteration of two campaigns gets the same seed only if the campaigns have the same seed. -/
theorem iterationSeed_inj_campaign {seed seed' i : UInt64} :
    iterationSeed seed i = iterationSeed seed' i ↔ seed = seed' := by
  unfold iterationSeed
  exact UInt64.xor_left_inj _

/-- Seeding is injective in the iteration for every campaign, and in the campaign for every
iteration: no two iterations of a campaign, and no iteration of two campaigns, seed their
generators alike. -/
theorem iteration_seeds_never_alias :
    (∀ seed i j : UInt64, iterationSeed seed i = iterationSeed seed j ↔ i = j) ∧
    (∀ seed seed' i : UInt64, iterationSeed seed i = iterationSeed seed' i ↔ seed = seed') :=
  ⟨fun _ _ _ => iterationSeed_inj_iteration, fun _ _ _ => iterationSeed_inj_campaign⟩

end CrashTest.Random
