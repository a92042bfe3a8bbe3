import FileTransfer.Time.FileTime

/-! Readings of the system clock. A reading is a timestamp whose nanoseconds lie between zero and
a second, also before 1970; read the other way, it is a span of time after or before the start of
1970. A file time built from the span is the one built from the timestamp. -/
namespace FileTransfer

/-- A span of time: whole seconds, and a part of a second in nanoseconds. -/
structure Span where
  seconds : UInt64
  nanos : UInt32
  deriving DecidableEq, Repr

/-- A span counted from the start of 1970, forward or back. -/
inductive Offset where
  | after (span : Span)
  | before (span : Span)
  deriving DecidableEq, Repr

namespace Offset

/-- Whether a number of seconds has a place on the clock. -/
def fits (seconds : Int) : Bool :=
  decide (-0x8000000000000000 ≤ seconds) && decide (seconds < 0x8000000000000000)

/-- The timestamp an offset points at, its nanoseconds brought to between zero and a second, if
its seconds fit the clock. -/
def timestamp? : Offset → Option Timestamp
  | .after s =>
    let seconds : Int := s.seconds.toNat
    if fits seconds then some ⟨Int64.ofInt seconds, s.nanos.toUInt64.toInt64⟩ else none
  | .before s =>
    let seconds : Int := -s.seconds.toNat
    if s.nanos = 0 then
      if fits seconds then some ⟨Int64.ofInt seconds, 0⟩ else none
    else
      if fits (seconds - 1) then
        some ⟨Int64.ofInt (seconds - 1), nanosPerSecond - s.nanos.toUInt64.toInt64⟩
      else none

/-- The file time of an offset. Back from 1970 both parts are negated. -/
def toFileTime : Offset → FileTime
  | .after s => .ofSeconds s.seconds.toInt64 s.nanos.toUInt64.toInt64
  | .before s => .ofSeconds (-s.seconds.toInt64) (-s.nanos.toUInt64.toInt64)

end Offset

/-- How far a timestamp lies after or before the start of 1970, if its nanoseconds are between
zero and a second. -/
def Timestamp.offset (t : Timestamp) : Offset :=
  if 0 ≤ t.seconds then .after ⟨t.seconds.toUInt64, t.nanos.toUInt64.toUInt32⟩
  else if t.nanos = 0 then .before ⟨(-t.seconds).toUInt64, 0⟩
  else .before ⟨(-t.seconds - 1).toUInt64, (nanosPerSecond - t.nanos).toUInt64.toUInt32⟩

end FileTransfer
