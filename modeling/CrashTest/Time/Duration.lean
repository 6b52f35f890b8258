import CrashTest.Json.Value
/-!
Spans of time.

A `Duration` counts nanoseconds. Spans are written in two ways: as the JSON object
`{"secs": s, "nanos": n}` with `n` below a second, and as a short text for people, in the largest
of seconds, milliseconds, microseconds and nanoseconds that the span reaches, with as many
fraction digits as it needs (`1.5s`, `50ms`, `1.001µs`, `0ns`).
-/
-- Powers of numbers are the core ones, also where Mathlib's monoid powers are in scope.
attribute [local instance (high)] instPowNat

namespace CrashTest

/-- A span of time in nanoseconds. -/
structure Duration where
  nanos : Nat
  deriving DecidableEq, Repr, Inhabited

namespace Duration

/-- Nanoseconds in a second. -/
def nanosPerSec : Nat := 1000000000

/-- The largest count a 64-bit word holds. -/
def wordMax : Nat := 2 ^ (64 : Nat) - 1

/-- The empty span. -/
def zero : Duration := ⟨0⟩

/-- A span of `n` nanoseconds. -/
def ofNanos (n : Nat) : Duration := ⟨n⟩

/-- A span of `ms` milliseconds. -/
def ofMillis (ms : Nat) : Duration := ⟨ms * 1000000⟩

/-- A span of `s` seconds. -/
def ofSecs (s : Nat) : Duration := ⟨s * nanosPerSec⟩

/-- A span of `s` seconds and `n` nanoseconds. -/
def ofSecsNanos (s n : Nat) : Duration := ⟨s * nanosPerSec + n⟩

/-- The whole seconds of the span. -/
def secs (d : Duration) : Nat := d.nanos / nanosPerSec

/-- The nanoseconds past the whole seconds. -/
def subsecNanos (d : Duration) : Nat := d.nanos % nanosPerSec

/-- The nanoseconds of the span, or the largest word when they do not fit in one. -/
def saturatingNanos (d : Duration) : Nat := min d.nanos wordMax

/-- The span in seconds as a double: the whole seconds and the nanoseconds each made a double, the
nanoseconds divided by `1e9`, and the two added, every step rounded to nearest. -/
def secondsF64 (d : Duration) : Binary64 :=
  let whole := Binary64.ofNat d.secs
  let part := ((Binary64.ofNat d.subsecNanos).div (Binary64.ofNat nanosPerSec)).getD Binary64.zero
  (whole.add part).getD whole

instance : LE Duration := ⟨fun a b => a.nanos ≤ b.nanos⟩

instance : LT Duration := ⟨fun a b => a.nanos < b.nanos⟩

instance (a b : Duration) : Decidable (a ≤ b) := inferInstanceAs (Decidable (a.nanos ≤ b.nanos))

instance (a b : Duration) : Decidable (a < b) := inferInstanceAs (Decidable (a.nanos < b.nanos))

instance : Add Duration := ⟨fun a b => ⟨a.nanos + b.nanos⟩⟩

/-- The digits of `frac / scale` after the point, without trailing zeros; `scale` is a power of
ten and `frac` below it. Nothing when `frac` is zero. -/
def fractionDigits (frac scale : Nat) : String :=
  if frac = 0 then ""
  else
    let width := (toString scale).length - 1
    let digits := toString frac
    let padded := List.replicate (width - digits.length) '0' ++ digits.toList
    "." ++ String.ofList (padded.reverse.dropWhile (· = '0')).reverse

/-- The span for people: in seconds from one second up, else in milliseconds from one
millisecond, else in microseconds from one microsecond, else in nanoseconds; the whole units,
then the exact rest as a fraction without trailing zeros. -/
def toText (d : Duration) : String :=
  if nanosPerSec ≤ d.nanos then
    toString d.secs ++ fractionDigits d.subsecNanos nanosPerSec ++ "s"
  else if 1000000 ≤ d.nanos then
    toString (d.nanos / 1000000) ++ fractionDigits (d.nanos % 1000000) 1000000 ++ "ms"
  else if 1000 ≤ d.nanos then
    toString (d.nanos / 1000) ++ fractionDigits (d.nanos % 1000) 1000 ++ "µs"
  else toString d.nanos ++ "ns"

/-- The span as the JSON object of whole seconds and the nanoseconds past them. -/
def toJson (d : Duration) : Json := .obj [("secs", .nat d.secs), ("nanos", .nat d.subsecNanos)]

end Duration

end CrashTest
