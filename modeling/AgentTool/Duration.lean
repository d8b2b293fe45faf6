/-!
# Durations

A duration is a whole number of nanoseconds, at most the longest one: the
seconds of a word of 64 bits and just under one more.  Nothing is lost below
that bound, and what would exceed it becomes the longest duration.
-/

namespace AgentTool

/-- The nanoseconds of a millisecond. -/
def Duration.perMilli : Nat := 1000000

/-- The nanoseconds of a second. -/
def Duration.perSecond : Nat := 1000000000

/-- The longest duration in nanoseconds. -/
def Duration.limit : Nat := (UInt64.size - 1) * perSecond + (perSecond - 1)

/-- A span of time. -/
structure Duration where
  nanos : Nat
  bounded : nanos ≤ Duration.limit
  deriving DecidableEq, Repr

namespace Duration

/-- A number of nanoseconds, or the longest duration if that is less. -/
def ofNanos (n : Nat) : Duration := ⟨min n limit, Nat.min_le_right _ _⟩

/-- A number of milliseconds. -/
def ofMillis (n : Nat) : Duration := ofNanos (n * perMilli)

/-- A number of seconds. -/
def ofSeconds (n : Nat) : Duration := ofNanos (n * perSecond)

instance : Inhabited Duration := ⟨ofNanos 0⟩

instance : LE Duration := ⟨fun a b => a.nanos ≤ b.nanos⟩

instance (a b : Duration) : Decidable (a ≤ b) := inferInstanceAs (Decidable (a.nanos ≤ b.nanos))

instance : Min Duration := ⟨fun a b => if a ≤ b then a else b⟩

instance : Max Duration := ⟨fun a b => if a ≤ b then b else a⟩

/-- The whole milliseconds in a duration. -/
def millis (d : Duration) : Nat := d.nanos / perMilli

/-- A duration taken a number of times. -/
def times (d : Duration) (n : Nat) : Duration := ofNanos (d.nanos * n)

/-- Two durations one after the other. -/
def plus (a b : Duration) : Duration := ofNanos (a.nanos + b.nanos)

end Duration
end AgentTool
