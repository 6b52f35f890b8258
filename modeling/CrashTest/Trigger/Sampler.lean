import CrashTest.Trigger.Calibration
import CrashTest.Random.Range
/-!
Choosing the kill offset of each iteration.

A seeded sampler draws each iteration's offset uniformly from `[0, window)`, from a generator
seeded by the campaign's seed and the iteration's index alone, so any iteration can be replayed
on its own. A fixed sampler gives the same offset every time, as long as it lies in the window.
-/
namespace CrashTest

/-- Why no offset could be chosen. -/
inductive SampleError where
  /-- The offset does not fit the window. -/
  | trigger (e : TriggerError)
  /-- A uniform draw from an empty window. -/
  | emptyRange
  deriving DecidableEq, Repr, Inhabited

/-- The words of a draw from an empty window. -/
def SampleError.emptyRangeMessage : String := "cannot sample empty range"

/-- How each iteration's offset is chosen. -/
inductive OffsetSampler where
  /-- Uniformly in the window, from a generator seeded by `seed` and the iteration. -/
  | seeded (seed : Nat)
  /-- Always `offsetNs`. -/
  | fixed (offsetNs : Nat)
  deriving DecidableEq, Repr, Inhabited

namespace OffsetSampler

/-- The offset of iteration `iteration` in the window of `c`. -/
def sample (s : OffsetSampler) (c : Calibration) (iteration : Nat) : Except SampleError Duration :=
  match s with
  | .seeded seed =>
    if c.windowNs = 0 then .error .emptyRange
    else
      let g := Random.Generator.forIteration seed.toUInt64 iteration.toUInt64
      .ok (.ofNanos (g.below c.windowNs).1)
  | .fixed offsetNs =>
    if c.windowNs < offsetNs then .error (.trigger (.offsetOutOfWindow offsetNs c.windowNs))
    else .ok (.ofNanos offsetNs)

/-- The trigger of iteration `iteration`: its offset in the window of `c`. -/
def trigger (s : OffsetSampler) (c : Calibration) (iteration : Nat) :
    Except SampleError Trigger := do
  let offset ← s.sample c iteration
  (Trigger.ofTimeOffset c.window offset).mapError .trigger

/-- The sampler as JSON. -/
def toJson : OffsetSampler → Json
  | .seeded seed => .obj [("kind", .str "seeded"), ("seed", .nat seed)]
  | .fixed offsetNs => .obj [("kind", .str "fixed"), ("offset_ns", .nat offsetNs)]

open Json in
/-- Reads a sampler from JSON. -/
def decoder : Decoder OffsetSampler :=
  let seed := Field.required "seed" Decoder.u64
  let offsetNs := Field.required "offset_ns" Decoder.u64
  Decoder.tagged "internally tagged enum OffsetSampler" "kind"
    [("seeded", Decoder.record "variant OffsetSampler::Seeded" [seed.toCheck]
        fun m => return .seeded (← m.read seed)),
     ("fixed", Decoder.record "variant OffsetSampler::Fixed" [offsetNs.toCheck]
        fun m => return .fixed (← m.read offsetNs))]

end OffsetSampler

end CrashTest
