import StsGateway.Rust

namespace StsGateway

/-! Clock values and the arithmetic the gateway does on them.

Both clocks count nanoseconds from the Unix epoch. `chrono` values and the
64-bit Unix `SystemTime` have finite ranges, carried by the types; leaving the
range is a panic in the source.
-/

namespace Chrono

/-- `chrono::Duration`, in nanoseconds. -/
structure Duration where
  nanos : Int
deriving DecidableEq, Repr

def nanosPerMilli : Int := 1000000
def nanosPerHour : Int := 3600000000000
def millisPerHour : Int := 3600000

/-- `chrono::Duration::hours`; a duration holds at most `i64` milliseconds. -/
def Duration.hours (hours : Int) : Except Panic Duration :=
  if -(2 ^ 63) ≤ hours * millisPerHour ∧ hours * millisPerHour < 2 ^ 63 then
    .ok ⟨hours * nanosPerHour⟩
  else .error ⟨"Duration::hours out of bounds"⟩

/-- From the start of the year -262144 to the end of the year 262143. -/
def minNanos : Int := -8334632937600000000000
def maxNanos : Int := 8210298412799999999999

end Chrono

open Chrono

structure UtcDateTime where
  nanos : Int
  representable : minNanos ≤ nanos ∧ nanos ≤ maxNanos
deriving DecidableEq, Repr

namespace UtcDateTime

/-- `timestamp_millis` rounds towards the past, also before the epoch. -/
def timestampMillis (time : UtcDateTime) : Int := time.nanos / nanosPerMilli

def sub (time : UtcDateTime) (duration : Duration) : Except Panic UtcDateTime :=
  if representable : minNanos ≤ time.nanos - duration.nanos ∧
      time.nanos - duration.nanos ≤ maxNanos then
    .ok ⟨time.nanos - duration.nanos, representable⟩
  else .error ⟨"`DateTime - Duration` overflowed"⟩

theorem sub_ok {time old : UtcDateTime} {duration : Duration}
    (subtracted : time.sub duration = .ok old) : old.nanos = time.nanos - duration.nanos := by
  unfold sub at subtracted
  split at subtracted
  · cases subtracted
    rfl
  · contradiction

end UtcDateTime

namespace Chrono

/-- Every `i32` number of hours is a duration: the jobs never panic building theirs. -/
theorem Duration.hours_of_i32 (hours : Int32) :
    Duration.hours hours.toInt = .ok ⟨hours.toInt * nanosPerHour⟩ := by
  have lower := hours.le_toInt
  have upper := hours.toInt_lt
  have inBounds : -(2 ^ 63) ≤ hours.toInt * millisPerHour ∧
      hours.toInt * millisPerHour < 2 ^ 63 := by
    unfold millisPerHour
    omega
  rw [Duration.hours, if_pos inBounds]

end Chrono

/-- A whole number of hours is a whole number of milliseconds, so flooring the
cutoff is the same as subtracting from the floored reading. -/
theorem UtcDateTime.timestampMillis_sub {time old : UtcDateTime} {hours : Int}
    (subtracted : time.sub ⟨hours * nanosPerHour⟩ = .ok old) :
    old.timestampMillis = time.timestampMillis - hours * millisPerHour := by
  have exact := sub_ok subtracted
  simp only [timestampMillis, exact, nanosPerHour, nanosPerMilli, millisPerHour]
  omega

/-- `std::time::SystemTime` on a 64-bit Unix: `i64` seconds and a nanosecond part. -/
structure SystemTime where
  nanos : Int
  representable : -(2 ^ 63) * 1000000000 ≤ nanos ∧ nanos < 2 ^ 63 * 1000000000
deriving DecidableEq, Repr

def SystemTime.unixEpoch : SystemTime := ⟨0, by decide⟩

def SystemTime.subSecs (time : SystemTime) (seconds : UInt64) : Except Panic SystemTime :=
  if representable : -(2 ^ 63) * 1000000000 ≤ time.nanos - seconds.toNat * 1000000000 ∧
      time.nanos - seconds.toNat * 1000000000 < 2 ^ 63 * 1000000000 then
    .ok ⟨time.nanos - seconds.toNat * 1000000000, representable⟩
  else .error ⟨"overflow when subtracting duration from instant"⟩

end StsGateway
