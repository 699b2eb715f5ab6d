/-
The waits between attempts to connect. A duration is stored in two parts, and a wait is multiplied part by part
with the carry checked against the width of the seconds. None of it runs over: the wait is that of arithmetic
without bounds, so it doubles until it meets the longest wait of the policy and stays there.
-/
import TwoTier.Settings
import Mathlib.Tactic.Ring

namespace TwoTier

/-! ## Powers of two in 32 bits -/

theorem pow2_eq (n : Nat) : pow2 n = 2 ^ n := rfl

theorem doublings_of_lt {n : Nat} (h : n < 32) : doublings n = 2 ^ n := by rw [doublings, if_pos h, pow2_eq]

theorem doublings_of_ge {n : Nat} (h : 32 ≤ n) : doublings n = 2 ^ 32 - 1 := by
  rw [doublings, if_neg (Nat.not_lt.mpr h)]
  rfl

/-- The power is exact as far as 32 bits reach, and their greatest number beyond. -/
theorem doublings_eq_min (n : Nat) : doublings n = min (2 ^ n) maxNat32 := by
  rcases Nat.lt_or_ge n 32 with h | h
  · have hle : 2 ^ n ≤ 2 ^ 31 := Nat.pow_le_pow_right (by decide) (by omega)
    rw [doublings_of_lt h, Nat.min_eq_left (hle.trans (by decide))]
  · have hle : 2 ^ 32 ≤ 2 ^ n := Nat.pow_le_pow_right (by decide) h
    rw [doublings_of_ge h, Nat.min_eq_right (Nat.le_trans (by decide) hle)]
    rfl

theorem doublings_le (n : Nat) : doublings n ≤ maxNat32 := by
  rw [doublings_eq_min]
  exact Nat.min_le_right _ _

theorem doublings_pos (n : Nat) : 1 ≤ doublings n := by
  rw [doublings_eq_min]
  exact Nat.le_min.mpr ⟨Nat.one_le_two_pow, by decide⟩

theorem doublings_mono {m n : Nat} (h : m ≤ n) : doublings m ≤ doublings n := by
  rw [doublings_eq_min, doublings_eq_min]
  exact min_le_min_right _ (Nat.pow_le_pow_right (by decide) h)

/-! ## Durations in parts -/

/-- A duration as it is stored: whole seconds in 64 bits, and the nanoseconds below a second. -/
@[ext] structure Span where
  secs : Nat
  nanos : Nat
  secs_le : secs ≤ maxNat64
  nanos_lt : nanos < perSecond
deriving DecidableEq

namespace Span

/-- Its length in nanoseconds. -/
def total (s : Span) : Nat := seconds s.secs + s.nanos

/-- The longest one. -/
def greatest : Span := ⟨maxNat64, perSecond - 1, Nat.le_refl _, by decide⟩

/-- The product with a number, where the seconds with what the nanoseconds carry over fit in 64 bits. -/
def times? (s : Span) (k : Nat) : Option Span :=
  if h : s.secs * k + s.nanos * k / perSecond ≤ maxNat64 then
    some ⟨s.secs * k + s.nanos * k / perSecond, s.nanos * k % perSecond, h, Nat.mod_lt _ (by decide)⟩
  else none

/-- The product, or the longest duration where there is none. -/
def times (s : Span) (k : Nat) : Span := (s.times? k).getD greatest

/-- The shorter of two, compared by their seconds and then by their nanoseconds. -/
def shorter (s t : Span) : Span :=
  if s.secs < t.secs ∨ s.secs = t.secs ∧ s.nanos ≤ t.nanos then s else t

theorem total_greatest : greatest.total = longest := rfl

theorem total_le (s : Span) : s.total ≤ longest := by
  have hsecs := s.secs_le
  have hnanos := s.nanos_lt
  unfold total longest seconds perSecond at *
  omega

/-- What the nanoseconds come to before the carry fits in 64 bits. -/
theorem nanos_mul_le (s : Span) {k : Nat} (h : k ≤ maxNat32) : s.nanos * k ≤ maxNat64 :=
  (Nat.mul_le_mul (Nat.le_of_lt s.nanos_lt) h).trans (by decide)

/-- The seconds of the product, carry included, say whether it is within reach. -/
theorem carried_le_iff (s : Span) (k : Nat) :
    s.secs * k + s.nanos * k / perSecond ≤ maxNat64 ↔ s.total * k ≤ longest := by
  have hsplit : s.total * k = perSecond * (s.secs * k) + s.nanos * k := by
    unfold total seconds
    ring
  rw [hsplit]
  generalize s.secs * k = a
  generalize s.nanos * k = b
  unfold longest seconds perSecond
  omega

theorem total_times (s : Span) (k : Nat) : (s.times k).total = min (s.total * k) longest := by
  unfold times times?
  by_cases h : s.secs * k + s.nanos * k / perSecond ≤ maxNat64
  · rw [dif_pos h, Option.getD_some, Nat.min_eq_left ((carried_le_iff s k).mp h)]
    show perSecond * (s.secs * k + s.nanos * k / perSecond) + s.nanos * k % perSecond = _
    rw [Nat.mul_add, Nat.add_assoc, Nat.div_add_mod]
    unfold total seconds
    ring
  · rw [dif_neg h, Option.getD_none, Nat.min_eq_right]
    · exact total_greatest
    · exact Nat.le_of_not_le fun hle => h ((carried_le_iff s k).mpr hle)

theorem total_shorter (s t : Span) : (s.shorter t).total = min s.total t.total := by
  have hs := s.nanos_lt
  have ht := t.nanos_lt
  unfold shorter
  split <;> unfold total seconds perSecond at * <;> omega

/-- The wait after failed attempt number `n`, computed in parts. -/
def wait (initial cap : Span) (n : Nat) : Span := (initial.times (doublings n)).shorter cap

theorem total_wait (attempts n : Nat) (initial cap : Span) :
    (initial.wait cap n).total = RetryPolicy.backoff ⟨attempts, initial.total, cap.total⟩ n := by
  rw [wait, total_shorter, total_times]
  rfl

end Span

/-! ## The waits of a policy -/

namespace RetryPolicy

/-- How the waits after attempt 0, 1, 2 and so on go. -/
structure Doubles (p : RetryPolicy) (wait : Nat → Nat) : Prop where
  capped (n : Nat) : wait n ≤ p.maxBackoff
  floor (n : Nat) : min p.initialBackoff p.maxBackoff ≤ wait n
  mono (m n : Nat) : m ≤ n → wait m ≤ wait n
  exactly (n : Nat) : n ≤ 31 → wait n = min (p.initialBackoff * 2 ^ n) p.maxBackoff
  /-- Each wait is twice the one before, up to the longest. -/
  twice (n : Nat) : n < 31 → wait (n + 1) = min (2 * wait n) p.maxBackoff
  constant (n : Nat) : 32 ≤ n → wait n = min (p.initialBackoff * (2 ^ 32 - 1)) p.maxBackoff

/-- The bound on products is not felt: the longest wait of the policy is a duration itself. -/
theorem backoff_eq {p : RetryPolicy} (hcap : p.maxBackoff ≤ longest) (n : Nat) :
    p.backoff n = min (p.initialBackoff * doublings n) p.maxBackoff := by
  rw [backoff, Nat.min_assoc, Nat.min_eq_right hcap]

theorem backoff_doubles {p : RetryPolicy} (hcap : p.maxBackoff ≤ longest) : p.Doubles p.backoff := by
  have hexactly (n : Nat) (hn : n ≤ 31) : p.backoff n = min (p.initialBackoff * 2 ^ n) p.maxBackoff := by
    rw [backoff_eq hcap, doublings_of_lt (by omega)]
  refine ⟨fun n => Nat.min_le_right _ _, fun n => ?_, fun m n h => ?_, hexactly, fun n hn => ?_, fun n hn => ?_⟩
  · rw [backoff_eq hcap]
    exact min_le_min_right _ (Nat.le_mul_of_pos_right _ (doublings_pos n))
  · rw [backoff_eq hcap, backoff_eq hcap]
    exact min_le_min_right _ (Nat.mul_le_mul_left _ (doublings_mono h))
  · have hpow : p.initialBackoff * 2 ^ (n + 1) = 2 * (p.initialBackoff * 2 ^ n) := by ring
    rw [hexactly (n + 1) hn, hexactly n (Nat.le_of_lt hn), hpow]
    omega
  · rw [backoff_eq hcap, doublings_of_ge hn]

/-- The schedule of waits, for any two durations in either order. The power stays within 32 bits, the product of
the nanoseconds within 64, and the wait computed in parts is the one that the policy names; the waits then double
until capped, and from attempt 32 on they are all the same. -/
theorem backoff_schedule (attempts : Nat) (initial cap : Span) :
    (∀ n, doublings n = min (2 ^ n) maxNat32 ∧ initial.nanos * doublings n ≤ maxNat64 ∧
      (initial.wait cap n).total = RetryPolicy.backoff ⟨attempts, initial.total, cap.total⟩ n) ∧
    RetryPolicy.Doubles ⟨attempts, initial.total, cap.total⟩
      (RetryPolicy.backoff ⟨attempts, initial.total, cap.total⟩) :=
  ⟨fun n => ⟨doublings_eq_min n, initial.nanos_mul_le (doublings_le n), Span.total_wait attempts n initial cap⟩,
    backoff_doubles cap.total_le⟩

example : [0, 1, 2, 31, 32].map (RetryPolicy.backoff ⟨5, millis 100, millis 350⟩) =
    [millis 100, millis 200, millis 350, millis 350, millis 350] := by decide

end RetryPolicy

end TwoTier
