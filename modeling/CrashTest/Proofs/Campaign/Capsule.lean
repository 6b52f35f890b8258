import CrashTest.Campaign.Capsule
import CrashTest.Proofs.Json.Decode
/-!
A reproduction capsule reads back from its text.

Every capsule whose numbers fit in 64 bits is read back, from the pretty text it is stored as,
as exactly itself: whatever its texts hold (quotes, backslashes, control and non-ASCII
characters), whichever trigger, expectation, operation and signal it records, and whatever its
numbers are within that range, including a zero threshold and an offset past its window, which
reading does not check. Each part is decoded by the lemma of its decoder's shape: the trigger as a
variant tagged by its first member `kind` beside its own fields, the expectation as a variant
tagged by `kind` with its content under `value`, the operation and the signal by their names, and
the capsule as a record with its members in the order of its fields.
-/
namespace CrashTest

open CrashTest.Json

/-! ### Numbers that fit in 64 bits -/

/-- The trigger's numbers fit in 64 bits. -/
def Trigger.FitsU64 : Trigger → Prop
  | .eventCount _ threshold => threshold < 2 ^ 64
  | .timeOffset windowNs offsetNs => windowNs < 2 ^ 64 ∧ offsetNs < 2 ^ 64

instance : DecidablePred Trigger.FitsU64
  | .eventCount _ threshold => inferInstanceAs (Decidable (threshold < 2 ^ 64))
  | .timeOffset windowNs offsetNs => inferInstanceAs (Decidable (windowNs < 2 ^ 64 ∧ offsetNs < 2 ^ 64))

/-- The expectation's floor, if it has one, fits in 64 bits. -/
def Expectation.FitsU64 : Expectation → Prop
  | .atLeast floor => floor < 2 ^ 64
  | _ => True

instance : DecidablePred Expectation.FitsU64
  | .equals _ => inferInstanceAs (Decidable True)
  | .atLeast floor => inferInstanceAs (Decidable (floor < 2 ^ 64))
  | .any => inferInstanceAs (Decidable True)

/-- Every number of the capsule fits in 64 bits. -/
structure ReproductionCapsule.FitsU64 (c : ReproductionCapsule) : Prop where
  seed : c.seed < 2 ^ 64
  iteration : c.iteration < 2 ^ 64
  trigger : c.trigger.FitsU64
  expected : c.expected.FitsU64

instance : DecidablePred ReproductionCapsule.FitsU64 := fun c =>
  decidable_of_iff (c.seed < 2 ^ 64 ∧ c.iteration < 2 ^ 64 ∧ c.trigger.FitsU64 ∧ c.expected.FitsU64)
    ⟨fun ⟨hs, hi, ht, he⟩ => ⟨hs, hi, ht, he⟩, fun ⟨hs, hi, ht, he⟩ => ⟨hs, hi, ht, he⟩⟩

/-! ### The capsule's JSON nests within the reader's depth -/

theorem Trigger.fitsIn_toJson {t : Trigger} (h : t.FitsU64) (room : Nat) :
    FitsIn (room + 1) t.toJson := by
  cases t with
  | eventCount eventName threshold => exact ⟨trivial, trivial, h, trivial⟩
  | timeOffset windowNs offsetNs => exact ⟨trivial, h.1, h.2, trivial⟩

theorem Expectation.fitsIn_toJson {e : Expectation} (h : e.FitsU64) (room : Nat) :
    FitsIn (room + 1) e.toJson := by
  cases e with
  | equals s => exact ⟨trivial, trivial, trivial⟩
  | atLeast floor => exact ⟨trivial, h, trivial⟩
  | any => exact ⟨trivial, trivial⟩

theorem ReproductionCapsule.fitsIn_toJson {c : ReproductionCapsule} (h : c.FitsU64) :
    FitsIn maxDepth c.toJson :=
  ⟨trivial, h.seed, h.iteration, Trigger.fitsIn_toJson h.trigger 125, trivial, trivial,
    Expectation.fitsIn_toJson h.expected 125, trivial, trivial⟩

/-! ### Each part decodes -/

theorem MonitoredOperation.decodes (o : MonitoredOperation) :
    Decodes MonitoredOperation.decoder o.toJson o := by
  cases o with
  | startup => exact Decodes.named_unit (by decide : _ = some 0) rfl
  | shutdown => exact Decodes.named_unit (by decide : _ = some 1) rfl
  | workload => exact Decodes.named_unit (by decide : _ = some 2) rfl

theorem KillSignal.decodes (s : KillSignal) : Decodes KillSignal.decoder s.toJson s := by
  cases s with
  | terminate => exact Decodes.named_unit (by decide : _ = some 0) rfl
  | kill => exact Decodes.named_unit (by decide : _ = some 1) rfl

theorem Trigger.decodes {t : Trigger} (h : t.FitsU64) : Decodes Trigger.decoder t.toJson t := by
  cases t with
  | eventCount eventName threshold =>
    refine Decodes.tagged (by decide : _ = some 0) rfl (by simp) ?_
    dsimp only
    refine Decodes.record ?_ ?_ fun src nodes hAs => ?_
    · simp
    · exact .cons ⟨rfl, (Decodes.textNamed _ eventName).toCheck⟩
        (.cons ⟨rfl, (Decodes.u64 h).toCheck⟩ .nil)
    · simp only [Fields.read_of_readAs hAs (Field.required "event_name" Decoder.string) rfl
          (Decodes.textNamed _ eventName) src,
        Fields.read_of_readAs hAs (Field.required "threshold" Decoder.u64) rfl
          (Decodes.u64 h) src,
        bind, Except.bind, pure, Except.pure]
  | timeOffset windowNs offsetNs =>
    refine Decodes.tagged (by decide : _ = some 1) rfl (by simp) ?_
    dsimp only
    refine Decodes.record ?_ ?_ fun src nodes hAs => ?_
    · simp
    · exact .cons ⟨rfl, (Decodes.u64 h.1).toCheck⟩ (.cons ⟨rfl, (Decodes.u64 h.2).toCheck⟩ .nil)
    · simp only [Fields.read_of_readAs hAs (Field.required "window_ns" Decoder.u64) rfl
          (Decodes.u64 h.1) src,
        Fields.read_of_readAs hAs (Field.required "offset_ns" Decoder.u64) rfl
          (Decodes.u64 h.2) src,
        bind, Except.bind, pure, Except.pure]

theorem Expectation.decodes {e : Expectation} (h : e.FitsU64) :
    Decodes Expectation.decoder e.toJson e := by
  cases e with
  | equals s =>
    exact Decodes.adjacent_content (by decide) (by decide : _ = some 0) rfl
      ((Decodes.textNamed _ s.text).map _)
  | atLeast floor =>
    exact Decodes.adjacent_content (by decide) (by decide : _ = some 1) rfl ((Decodes.u64 h).map _)
  | any => exact Decodes.adjacent_unit (by decide : _ = some 2) rfl

theorem ReproductionCapsule.decodes {c : ReproductionCapsule} (h : c.FitsU64) :
    Decodes ReproductionCapsule.decoder c.toJson c := by
  unfold ReproductionCapsule.decoder ReproductionCapsule.toJson
  refine Decodes.record ?_ ?_ fun src nodes hAs => ?_
  · -- the keys are distinct
    simp
  · -- the members come in the order of the checks, and each passes its own
    exact .cons ⟨rfl, (Decodes.textNamed _ c.campaign).toCheck⟩
      (.cons ⟨rfl, (Decodes.u64 h.seed).toCheck⟩
      (.cons ⟨rfl, (Decodes.u64 h.iteration).toCheck⟩
      (.cons ⟨rfl, (Trigger.decodes h.trigger).toCheck⟩
      (.cons ⟨rfl, (MonitoredOperation.decodes c.operation).toCheck⟩
      (.cons ⟨rfl, (KillSignal.decodes c.signal).toCheck⟩
      (.cons ⟨rfl, (Expectation.decodes h.expected).toCheck⟩
      (.cons ⟨rfl, (Decodes.textNamed _ c.reason).toCheck⟩ .nil)))))))
  · -- each field reads what its member decodes to
    simp only [Fields.read_of_readAs hAs (Field.required "campaign" Decoder.string) rfl
        (Decodes.textNamed _ c.campaign) src,
      Fields.read_of_readAs hAs (Field.required "seed" Decoder.u64) rfl
        (Decodes.u64 h.seed) src,
      Fields.read_of_readAs hAs (Field.required "iteration" Decoder.u64) rfl
        (Decodes.u64 h.iteration) src,
      Fields.read_of_readAs hAs (Field.required "trigger" Trigger.decoder) rfl
        (Trigger.decodes h.trigger) src,
      Fields.read_of_readAs hAs (Field.required "operation" MonitoredOperation.decoder) rfl
        (MonitoredOperation.decodes c.operation) src,
      Fields.read_of_readAs hAs (Field.required "signal" KillSignal.decoder) rfl
        (KillSignal.decodes c.signal) src,
      Fields.read_of_readAs hAs (Field.required "expected" Expectation.decoder) rfl
        (Expectation.decodes h.expected) src,
      Fields.read_of_readAs hAs (Field.required "reason" Decoder.string) rfl
        (Decodes.textNamed _ c.reason) src,
      bind, Except.bind, pure, Except.pure]

/-! ### The round trip -/

/-- A capsule whose numbers fit in 64 bits is read back from its text as itself. -/
theorem ReproductionCapsule.ofText_toText {c : ReproductionCapsule} (h : c.FitsU64) :
    ReproductionCapsule.ofText c.toText = .ok c := by
  have hDecode := decodeText_pretty (ReproductionCapsule.fitsIn_toJson h) (ReproductionCapsule.decodes h)
  simp [ReproductionCapsule.ofText, ReproductionCapsule.toText, hDecode, Except.mapError]

/-- A capsule with the hard cases of the format at once: a quote, a backslash, a line break, a
control character and non-ASCII characters in its texts, the largest 64-bit numbers, and an
offset past its window. -/
def ReproductionCapsule.escapedSample : ReproductionCapsule :=
  ⟨"crash \"safe\" \\ run\n\x01 é✓", 2 ^ 64 - 1, 2 ^ 64 - 1, .timeOffset 5 (2 ^ 64 - 1), .shutdown,
    .terminate, .equals ⟨"\t\"7\"\x7f"⟩, "state \\diverged\\\r\n"⟩

theorem ReproductionCapsule.escapedSample_ofText_toText :
    escapedSample.FitsU64 ∧ ReproductionCapsule.ofText escapedSample.toText = .ok escapedSample :=
  ⟨by decide, ReproductionCapsule.ofText_toText (by decide)⟩

end CrashTest
