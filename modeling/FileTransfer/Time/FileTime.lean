/-! File times: a count of 100-nanosecond ticks since the start of 1601, kept as two 32-bit
halves, and its relation to nanoseconds since the start of 1970. All arithmetic is on 64-bit
words and wraps; division drops what is left over, toward zero. -/
namespace FileTransfer

/-- Ticks from the start of 1601 to the start of 1970. -/
def unixEpoch : Int64 := 116444736000000000

/-- Nanoseconds in a tick. -/
def nanosPerTick : Int64 := 100

/-- Nanoseconds in a second. -/
def nanosPerSecond : Int64 := 1000000000

/-- Nanoseconds since 1970 of a tick count, wrapping where they do not fit. -/
def ticksToNanos (ticks : Int64) : Int64 :=
  (ticks - unixEpoch) * nanosPerTick

/-- The tick count of a number of nanoseconds since 1970. A part of a tick is dropped. -/
def nanosToTicks (nanos : Int64) : Int64 :=
  nanos / nanosPerTick + unixEpoch

/-- A tick count in two halves. -/
structure FileTime where
  low : UInt32
  high : UInt32
  deriving DecidableEq, Repr, Inhabited

namespace FileTime

/-- The two halves of a tick count. -/
def ofTicks (ticks : Int64) : FileTime where
  low := (ticks &&& 0xFFFFFFFF).toUInt64.toUInt32
  high := (ticks >>> 32).toUInt64.toUInt32

/-- The tick count put back together. -/
def ticks (t : FileTime) : Int64 :=
  (t.high.toUInt64.toInt64 <<< 32) + t.low.toUInt64.toInt64

/-- The 64 bits of the tick count, without a sign. -/
def toBits (t : FileTime) : UInt64 :=
  (t.high.toUInt64 <<< 32) ||| t.low.toUInt64

/-- The file time with these 64 bits. -/
def ofBits (bits : UInt64) : FileTime :=
  ofTicks bits.toInt64

/-- The file time of a number of nanoseconds since 1970. -/
def ofNanos (nanos : Int64) : FileTime :=
  ofTicks (nanosToTicks nanos)

/-- Nanoseconds since 1970. -/
def nanos (t : FileTime) : Int64 :=
  ticksToNanos t.ticks

/-- The file time of seconds and nanoseconds since 1970, whose total may wrap. -/
def ofSeconds (seconds nanos : Int64) : FileTime :=
  ofNanos (seconds * nanosPerSecond + nanos)

end FileTime

/-- A point in time as the system keeps it for a file: whole seconds since 1970, and
nanoseconds to add to them. -/
structure Timestamp where
  seconds : Int64
  nanos : Int64
  deriving DecidableEq, Repr, Inhabited

/-- The file time of a timestamp. -/
def Timestamp.toFileTime (t : Timestamp) : FileTime :=
  .ofSeconds t.seconds t.nanos

end FileTransfer
