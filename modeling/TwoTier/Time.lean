/-
Numbers of a fixed width, and time in whole nanoseconds. Instants count from the moment the clock
started, so an instant and a duration are both natural numbers (`Nat`) and never run over. Timers
have a resolution of one millisecond: a wait ends on the first tick at or after its deadline, and
ticks keep the distance to a whole millisecond that the clock had when the wait began. Both tiers
give an entry a deadline when it is written and treat it as gone from that instant on. A time to
live longer than a hundred years counts as a hundred years.
-/

namespace TwoTier

/-! ## Widths -/

/-- Two to the power of `n`, the number of values of `n` bits. -/
def pow2 (n : Nat) : Nat := Nat.pow 2 n

/-- Ten to the power of `n`. -/
def pow10 (n : Nat) : Nat := Nat.pow 10 n

def maxNat16 : Nat := 65535
def maxNat32 : Nat := 4294967295
def maxNat64 : Nat := 18446744073709551615
def minInt64 : Int := -9223372036854775808
def maxInt64 : Int := 9223372036854775807

/-! ## Instants and waits -/

/-- Nanoseconds in a millisecond. -/
def perMilli : Nat := 1000000

/-- Nanoseconds in a second. -/
def perSecond : Nat := 1000000000

def millis (n : Nat) : Nat := perMilli * n

def seconds (n : Nat) : Nat := perSecond * n

/-- Whole milliseconds in a duration. -/
def wholeMillis (d : Nat) : Nat := d / perMilli

/-- The longest duration a caller can name: `2^64 - 1` seconds and 999 999 999 nanoseconds. -/
def longest : Nat := seconds maxNat64 + (perSecond - 1)

/-- The milliseconds of a duration as far as 64 bits reach. -/
def millis64 (d : Nat) : Nat := min (wholeMillis d) maxNat64

/-- The first millisecond tick at or after an instant. -/
def tickAfter (t : Nat) : Nat := t / perMilli + if t % perMilli = 0 then 0 else 1

/-- When a wait of `d` that begins at `now` ends. -/
def wakeAt (now d : Nat) : Nat := now + millis (tickAfter (now + d) - wholeMillis now)

theorem millis_wholeMillis_le (d : Nat) : millis (wholeMillis d) ≤ d := Nat.mul_div_le d perMilli

/-- On whole milliseconds a wait ends exactly at its deadline. -/
theorem wakeAt_millis (m d : Nat) : wakeAt (millis m) (millis d) = millis (m + d) := by
  unfold wakeAt tickAfter wholeMillis millis perMilli
  split <;> omega

/-- A wait never ends early. -/
theorem add_le_wakeAt (now d : Nat) : now + d ≤ wakeAt now d := by
  unfold wakeAt tickAfter wholeMillis millis perMilli
  split <;> omega

/-! ## Deadlines -/

/-- The longest time to live either tier honours: a hundred years of 365 days. -/
def maxTtl : Nat := seconds (100 * 365 * 24 * 60 * 60)

/-- The instant at which something written at `now` with time to live `ttl` is gone. -/
def deadline (now ttl : Nat) : Nat := now + min ttl maxTtl

/-- Gone at the deadline and after it. -/
def isExpired (deadline now : Nat) : Bool := decide (deadline ≤ now)

theorem isExpired_iff (d now : Nat) : isExpired d now = true ↔ d ≤ now := by simp [isExpired]

theorem isExpired_mono {d now later : Nat} (h : now ≤ later) (he : isExpired d now = true) :
    isExpired d later = true := by
  rw [isExpired_iff] at *; exact Nat.le_trans he h

/-- A longer time to live never ends sooner. -/
theorem deadline_mono (now : Nat) {a b : Nat} (h : a ≤ b) : deadline now a ≤ deadline now b := by
  unfold deadline; omega

end TwoTier
