/-
# Spans of time

A span is a signed whole number of nanoseconds.  Every timeout, shift length and
clock movement of the desk is one; sums are exact because the number is unbounded,
and a calendar that cannot hold a result says so where the sum is formed.
-/

namespace SupportDesk

/-- A signed span of time, counted in nanoseconds. -/
structure Duration where
  nanos : Int
deriving DecidableEq, Repr, Inhabited

namespace Duration

/-- Nanoseconds in one second. -/
def perSecond : Int := 1000000000

/-- Nanoseconds in one millisecond. -/
def perMilli : Int := 1000000

/-- A span of whole milliseconds. -/
def ofMillis (ms : Int) : Duration := ⟨ms * perMilli⟩

/-- A span of whole seconds. -/
def ofSeconds (s : Int) : Duration := ⟨s * perSecond⟩

/-- A span of whole hours. -/
def ofHours (h : Int) : Duration := ofSeconds (h * 3600)

/-- The whole seconds of a span; a fraction is dropped toward zero. -/
def wholeSeconds (d : Duration) : Int := d.nanos.tdiv perSecond

/-- What `wholeSeconds` drops, with the sign of the span. -/
def fraction (d : Duration) : Int := d.nanos.tmod perSecond

/-- The whole milliseconds of a span; a fraction is dropped toward zero. -/
def wholeMillis (d : Duration) : Int := d.nanos.tdiv perMilli

/-- The fewest whole milliseconds that cover a span; nothing covers a negative one.
A timer that counts milliseconds waits this long. -/
def coveringMillis (d : Duration) : Nat := ((d.nanos + (perMilli - 1)) / perMilli).toNat

instance : LE Duration := ⟨fun a b => a.nanos ≤ b.nanos⟩

instance (a b : Duration) : Decidable (a ≤ b) := inferInstanceAs (Decidable (a.nanos ≤ b.nanos))

/-- Whole seconds are read back from a span built from them. -/
@[simp] theorem wholeSeconds_ofSeconds (s : Int) : (ofSeconds s).wholeSeconds = s := by
  simp [wholeSeconds, ofSeconds, perSecond]

end Duration

end SupportDesk
