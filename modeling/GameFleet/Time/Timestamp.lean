import GameFleet.Time.Calendar

/-!
# Moments and lengths of time

- `Timestamp`: a moment in universal time, to the nanosecond. A leap second is the second before
  it with a nanosecond count of a thousand millions or more.
- `Timestamp.since`: the signed nanoseconds between two moments.
- `Span`: a length of time that is never negative.
- `Span.reachedBy`: whether a signed number of nanoseconds has come as far as a span. Spans of more
  milliseconds than 63 bits hold are never reached.
-/

namespace GameFleet

/-- A moment in universal time. -/
structure Timestamp where
  /-- Whole seconds from the start of 1970. -/
  seconds : Int
  /-- Nanoseconds into that second. -/
  nanos : Nat
  deriving Repr, DecidableEq, Inhabited

/-- A length of time in nanoseconds. -/
structure Span where
  nanos : Nat
  deriving Repr, DecidableEq, Inhabited

namespace Span

/-- Nanoseconds in a second. -/
def second : Nat := 1000000000

/-- Nanoseconds in a millisecond. -/
def milli : Nat := 1000000

def ofSeconds (s : Nat) : Span := ⟨s * second⟩

def ofMillis (ms : Nat) : Span := ⟨ms * milli⟩

/-- The whole seconds of a span. -/
def seconds (d : Span) : Nat := d.nanos / second

/-- The whole milliseconds of a span. -/
def millis (d : Span) : Nat := d.nanos / milli

/-- Whether a span is short enough to be compared with the time between two moments. -/
def isComparable (d : Span) : Bool := d.nanos ≤ 0x7FFFFFFFFFFFFFFF * milli

/-- Whether that many nanoseconds have come as far as the span. -/
def reachedBy (d : Span) (nanos : Int) : Bool := d.isComparable && (d.nanos : Int) ≤ nanos

end Span

namespace Timestamp

/-- Seconds in a day. -/
def day : Int := 86400

def ofSeconds (s : Int) : Timestamp := ⟨s, 0⟩

/-- The moment that many milliseconds from the start of 1970. -/
def ofMillis (ms : Int) : Timestamp := ⟨ms / 1000, (ms % 1000).toNat * Span.milli⟩

/-- Whether the moment is inside a leap second. -/
def isLeap (t : Timestamp) : Bool := Span.second ≤ t.nanos

/-- The second of the day. -/
def secondOfDay (t : Timestamp) : Int := t.seconds % day

/-- The date. -/
def date (t : Timestamp) : Date := Date.ofDayNumber (t.seconds / day)

/-- The signed nanoseconds from `s` to `t`. A leap second counts when the other moment is on the
far side of it in the time of day. -/
def since (t s : Timestamp) : Int :=
  let crossed : Int :=
    if s.secondOfDay < t.secondOfDay then if s.isLeap then 1 else 0
    else if t.secondOfDay < s.secondOfDay then if t.isLeap then -1 else 0
    else 0
  (t.seconds - s.seconds + crossed) * (Span.second : Int) + ((t.nanos : Int) - (s.nanos : Int))

/-- The moment a span after another. -/
def plus (t : Timestamp) (d : Span) : Timestamp :=
  let n := t.nanos + d.nanos
  ⟨t.seconds + (n / Span.second : Nat), n % Span.second⟩

/-- The moment a span before another. -/
def minus (t : Timestamp) (d : Span) : Timestamp :=
  let n : Int := t.seconds * (Span.second : Int) + (t.nanos : Int) - (d.nanos : Int)
  ⟨n / (Span.second : Int), (n % (Span.second : Int)).toNat⟩

/-- Whether the first moment is not after the second. -/
def le (s t : Timestamp) : Bool :=
  s.seconds < t.seconds || (s.seconds == t.seconds && s.nanos ≤ t.nanos)

/-- Between moments outside leap seconds the time is the plain difference. -/
theorem since_eq_sub {t s : Timestamp} (ht : t.isLeap = false) (hs : s.isLeap = false) :
    t.since s = (t.seconds - s.seconds) * (Span.second : Int)
      + ((t.nanos : Int) - (s.nanos : Int)) := by
  simp [since, ht, hs]

end Timestamp

end GameFleet
