/-
Connecting takes one attempt after another. What each comes to is read off the script in front of the store: how long
the store lets it wait, and whether it fails; an attempt succeeds if it does not fail, the store is available, and the
wait is no longer than the bound. The first that succeeds is the last. There are no more attempts than the policy says,
and a wait follows each that fails but the last of these.
-/
import Mathlib.Algebra.BigOperators.Intervals
import TwoTier.Proofs.Remote.Containment

namespace TwoTier

/-! ## Scripts -/

namespace Fault

/-- What is left of a list of faults after so many calls of one kind. -/
def left (m : Method) : (calls : Nat) → List (Method × Fault) → List (Method × Fault)
  | 0, faults => faults
  | n + 1, faults => left m n (draw m faults).2

/-- What a list of faults does to the call number `n`, counted from zero. -/
def upcoming (m : Method) (n : Nat) (faults : List (Method × Fault)) : Fault := (draw m (left m n faults)).1

/-- Faults for one call each, in a row. -/
def row (m : Method) (fs : List Fault) : List (Method × Fault) := fs.map fun f => (m, { f with times := some 1 })

/-- A fault that affects no more calls is passed over. -/
theorem upcoming_spent {m k : Method} {f : Fault} {n : Nat} {faults : List (Method × Fault)} (hf : f.times = some 0) :
    upcoming m n ((k, f) :: faults) = upcoming m n faults := by
  have hdraw : ∀ fs, draw m ((k, f) :: fs) = ((draw m fs).1, (k, f) :: (draw m fs).2) := fun fs => by
    rw [draw, if_neg (by simp [hf])]
  induction n generalizing faults with
  | zero => simp [upcoming, left, hdraw]
  | succ n ih =>
    have h : upcoming m n ((k, f) :: (draw m faults).2) = upcoming m n (draw m faults).2 := ih
    simpa [upcoming, left, hdraw] using h

/-- Whatever is to happen to the next calls of a kind can be scripted. -/
theorem upcoming_row (m : Method) (fs : List Fault) (n : Nat) (h : n < fs.length) (rest : List (Method × Fault)) :
    upcoming m n (row m fs ++ rest) = { fs[n] with times := some 1 } := by
  induction fs generalizing n with
  | nil => simp at h
  | cons f fs ih =>
    have hdraw : draw m (row m (f :: fs) ++ rest) =
        ({ f with times := some 1 }, (m, { f with times := some 0 }) :: (row m fs ++ rest)) := by
      simp [row, draw, spend]
    cases n with
    | zero => simp [upcoming, left, hdraw]
    | succ n =>
      have hn : n < fs.length := by simpa using h
      have hstep : upcoming m (n + 1) (row m (f :: fs) ++ rest) =
          upcoming m n ((m, { f with times := some 0 }) :: (row m fs ++ rest)) := by
        simp [upcoming, left, hdraw]
      rw [hstep, upcoming_spent rfl, ih n hn, List.getElem_cons_succ]

end Fault

/-! ## Attempts -/

namespace RetryPolicy

variable {p : RetryPolicy}

/-- The waits between attempts are whole milliseconds if those of the policy are. -/
theorem backoff_whole (hi : perMilli ∣ p.initialBackoff) (hm : perMilli ∣ p.maxBackoff) (hl : p.maxBackoff ≤ longest)
    (n : Nat) : perMilli ∣ p.backoff n := by
  unfold backoff
  rw [Nat.min_assoc, Nat.min_eq_right hl]
  rcases Nat.le_total (p.initialBackoff * doublings n) p.maxBackoff with h | h
  · rw [Nat.min_eq_left h]
    exact Nat.dvd_mul_right_of_dvd hi _
  · rwa [Nat.min_eq_right h]

end RetryPolicy

namespace Link

variable {l : Link Store}

/-- What the script does to the attempt number `i` to connect, counted from zero. -/
def attempt (l : Link Store) (i : Nat) : Fault := Fault.upcoming .connect i l.store.faults

/-- How long it waits. -/
def delay (l : Link Store) (i : Nat) : Nat := (l.attempt i).delay.getD 0

/-- Whether it comes to the store in time. -/
def reaches (l : Link Store) (i : Nat) : Bool :=
  (l.attempt i).failure.isNone && decide (l.delay i ≤ l.remote.timeout)

/-- Whether it succeeds. -/
def lands (l : Link Store) (i : Nat) : Bool := l.reaches i && l.store.inner.available

/-- How long it takes. -/
def span (l : Link Store) (i : Nat) : Nat := min (l.delay i) l.remote.timeout

/-- All durations that matter to so many attempts are whole milliseconds, and none is too long for a policy to name. -/
structure Whole (l : Link Store) (attempts : Nat) : Prop where
  now : perMilli ∣ l.now
  timeout : perMilli ∣ l.remote.timeout
  initialBackoff : perMilli ∣ l.remote.retry.initialBackoff
  maxBackoff : perMilli ∣ l.remote.retry.maxBackoff
  longest : l.remote.retry.maxBackoff ≤ longest
  delay : ∀ i < attempts, perMilli ∣ l.delay i

/-- The link after `k` out of `n` attempts, the first being number `a` of a policy; the waits are made after those that
fail, but not after the last of `n`. -/
def tried (l : Link Store) (a k n : Nat) : Link Store :=
  { l with
    now := l.now + ∑ i ∈ Finset.range k, l.span i +
      ∑ i ∈ Finset.range k, if l.lands i = false ∧ i + 1 < n then l.remote.retry.backoff (a + i) else 0
    store := { l.store with
      faults := Fault.left .connect k l.store.faults
      inner := { l.store.inner with
        attempts := l.store.inner.attempts + ∑ i ∈ Finset.range k, (l.reaches i).toNat } } }

/-- When a first attempt sets out, its end and its failure on the way are settled. -/
theorem dial_eq (h : l.Whole 1) :
    l.dial = (⟨.connect, l.now + l.span 0,
        if l.delay 0 ≤ l.remote.timeout then (l.attempt 0).failure else some (.timeout (millis64 l.remote.timeout))⟩,
      { l with store := { l.store with faults := Fault.left .connect 1 l.store.faults } }) := by
  have hdue : (l.attempt 0).delay.elim l.now (wakeAt l.now) = l.now + l.delay 0 := by
    have hdelay := h.delay 0 Nat.one_pos
    unfold delay at hdelay ⊢
    cases hd : (l.attempt 0).delay with
    | none => simp
    | some d =>
      rw [hd] at hdelay
      exact wakeAt_whole h.now hdelay
  have hbound : wakeAt l.now l.remote.timeout = l.now + l.remote.timeout := wakeAt_whole h.now h.timeout
  unfold dial
  rw [Trip.start_bounded]
  change (_, _) = _
  dsimp only
  rw [show (l.store.draw (Request.method .connect)).1 = l.attempt 0 from rfl, hdue, hbound]
  unfold span
  by_cases hd : l.delay 0 ≤ l.remote.timeout
  · rw [if_neg (by omega), if_pos hd, Nat.min_eq_left hd]
    rfl
  · rw [if_pos (by omega), if_neg hd, Nat.min_eq_right (by omega)]
    rfl

theorem tried_one (l : Link Store) (a n : Nat) :
    l.tried a 1 n = { l with
      now := l.now + l.span 0 + if l.lands 0 = false ∧ 1 < n then l.remote.retry.backoff a else 0
      store := { l.store with
        faults := Fault.left .connect 1 l.store.faults
        inner := { l.store.inner with attempts := l.store.inner.attempts + (l.reaches 0).toNat } } } := by
  simp [tried]

/-- One attempt. -/
theorem finish_dial (h : l.Whole 1) :
    ∃ reply, (l.dial.2.wait l.dial.1.ends).finish l.dial.1 = (reply, l.tried 0 1 1) ∧
      (reply = .ok () ↔ l.lands 0 = true) := by
  have hnow : max l.now (l.now + l.span 0) = l.now + l.span 0 := Nat.max_eq_right (Nat.le_add_right ..)
  rw [dial_eq h, tried_one]
  unfold wait finish Trip.finish lands
  dsimp only
  rw [hnow]
  by_cases hd : l.delay 0 ≤ l.remote.timeout
  · cases hf : (l.attempt 0).failure with
    | some e =>
      have hr : l.reaches 0 = false := by simp [reaches, hf]
      simp [hd, hr]
    | none =>
      have hr : l.reaches 0 = true := by simp [reaches, hf, hd]
      rw [if_pos hd, hr]
      cases ha : l.store.inner.available with
      | true =>
        refine ⟨.ok (), ?_, by simp⟩
        simp [Scripted.serve, Backend.serve, Store.serve, Store.answer, ha]
      | false =>
        refine ⟨.error Store.unavailable, ?_, by simp⟩
        simp [Scripted.serve, Backend.serve, Store.serve, ha]
  · have hr : l.reaches 0 = false := by simp [reaches, hd]
    simp [hd, hr]

/-! ## A series of attempts -/

section Tried

variable {a n : Nat}

@[simp] theorem span_tried (i : Nat) : (l.tried a 1 n).span i = l.span (i + 1) := rfl

@[simp] theorem reaches_tried (i : Nat) : (l.tried a 1 n).reaches i = l.reaches (i + 1) := rfl

@[simp] theorem lands_tried (i : Nat) : (l.tried a 1 n).lands i = l.lands (i + 1) := rfl

/-- One attempt and then some more. -/
theorem tried_succ (k : Nat) : (l.tried a 1 (n + 1)).tried (a + 1) k n = l.tried a (k + 1) (n + 1) := by
  rw [tried]
  simp only [span_tried, lands_tried, reaches_tried]
  simp only [tried, Finset.sum_range_succ', Fault.left]
  simp [Nat.lt_iff_add_one_le, Nat.add_assoc, Nat.add_comm, Nat.add_left_comm]

/-- After a first attempt the clock shows a whole number of milliseconds. -/
theorem Whole.now_tried (h : l.Whole (n + 1)) (m : Nat) : perMilli ∣ (l.tried a 1 m).now := by
  have hspan : perMilli ∣ l.span 0 := by
    unfold span
    rcases Nat.le_total (l.delay 0) l.remote.timeout with hle | hle
    · rw [Nat.min_eq_left hle]
      exact h.delay 0 (Nat.succ_pos n)
    · rw [Nat.min_eq_right hle]
      exact h.timeout
  rw [tried_one]
  refine Nat.dvd_add (Nat.dvd_add h.now hspan) ?_
  split
  · exact RetryPolicy.backoff_whole h.initialBackoff h.maxBackoff h.longest a
  · exact Nat.dvd_zero _

/-- So the attempts that are left have whole milliseconds to deal with. -/
theorem Whole.tried (h : l.Whole (n + 1)) (m : Nat) : (l.tried a 1 m).Whole n where
  now := h.now_tried m
  timeout := h.timeout
  initialBackoff := h.initialBackoff
  maxBackoff := h.maxBackoff
  longest := h.longest
  delay i hi := h.delay (i + 1) (Nat.succ_lt_succ hi)

/-- The wait after an attempt that failed. -/
theorem wait_tried (h : l.Whole (n + 1)) (hlands : l.lands 0 = false) (hn : 0 < n) :
    (l.tried 0 1 1).wait (wakeAt (l.tried 0 1 1).now (l.remote.retry.backoff a)) = l.tried a 1 (n + 1) := by
  rw [wakeAt_whole (h.now_tried 1) (RetryPolicy.backoff_whole h.initialBackoff h.maxBackoff h.longest a)]
  unfold wait
  rw [tried_one, tried_one]
  simp [hlands, hn]

end Tried

/-- The attempts are made in a row, up to the first that succeeds. -/
theorem connectWithin_spec (l : Link Store) (a n : Nat) (h : l.Whole n) (hn : 0 < n) :
    ∃ j, j < n ∧ (∀ i < j, l.lands i = false) ∧ (l.lands j = true ∨ j + 1 = n) ∧
      l.connectWithin a n = (l.lands j, (l.tried a (j + 1) n).setConnected (l.lands j)) := by
  induction n generalizing l a with
  | zero => omega
  | succ n ih =>
    obtain ⟨reply, hfinish, hreply⟩ := finish_dial (l := l)
      ⟨h.now, h.timeout, h.initialBackoff, h.maxBackoff, h.longest, fun i hi => h.delay i (by omega)⟩
    rw [connectWithin]
    dsimp only
    rw [hfinish]
    cases reply with
    | ok u =>
      have hlands := hreply.1 rfl
      refine ⟨0, Nat.succ_pos n, nofun, .inl hlands, ?_⟩
      rw [tried_one, tried_one, hlands]
      simp
    | error e =>
      have hlands : l.lands 0 = false := Bool.eq_false_iff.2 fun hl => nomatch hreply.2 hl
      by_cases hzero : n = 0
      · subst hzero
        refine ⟨0, Nat.one_pos, nofun, .inr rfl, ?_⟩
        rw [tried_one, tried_one, hlands]
        simp [connectWithin]
      · have hn := Nat.pos_of_ne_zero hzero
        obtain ⟨j, hj, hbefore, hlast, hconnect⟩ := ih (l.tried a 1 (n + 1)) (a + 1) (h.tried _) hn
        refine ⟨j + 1, by omega, ?_, ?_, ?_⟩
        · rintro (_ | i) hi
          · exact hlands
          · exact hbefore i (by omega)
        · rcases hlast with hlast | hlast
          · exact .inl hlast
          · exact .inr (by omega)
        · dsimp only
          rw [if_neg hzero]
          change ((l.tried 0 1 1).wait (wakeAt _ (l.remote.retry.backoff a))).connectWithin (a + 1) n = _
          rw [wait_tried h hlands hn, hconnect, tried_succ, lands_tried]

/-- Connecting makes attempts in a row, up to the first that succeeds or as many as the policy says, and at least one.
Whether it succeeds is whether one of these would, and so the connection is marked, whatever it was marked before. It
takes as long as the attempts and, after each that failed but the last there can be, the wait of the policy. The
attempts can be scripted to be anything. -/
theorem connection_retries (l : Link Store) (h : l.Whole (max l.remote.retry.attempts 1)) :
    let n := max l.remote.retry.attempts 1
    (l.connect.1 = true ↔ ∃ i, i < n ∧ l.lands i = true) ∧
      (∃ last, last < n ∧ (∀ i < last, l.lands i = false) ∧ (l.lands last = true ∨ last + 1 = n) ∧
        l.connect = (l.lands last,
          { now := l.now + ∑ i ∈ Finset.range (last + 1), min (l.delay i) l.remote.timeout +
              ∑ i ∈ Finset.range (last + 1), if l.lands i = false ∧ i + 1 < n then l.remote.retry.backoff i else 0
            remote := { l.remote with connected := l.lands last }
            store := { l.store with
              faults := Fault.left .connect (last + 1) l.store.faults
              inner := { l.store.inner with
                attempts := l.store.inner.attempts + ∑ i ∈ Finset.range (last + 1), (l.reaches i).toNat } }
            recorder := l.recorder.setConnected (l.lands last) })) ∧
      ∀ fs rest, l.store.faults = Fault.row .connect fs ++ rest →
        ∀ i (hi : i < fs.length), l.attempt i = { fs[i] with times := some 1 } := by
  intro n
  obtain ⟨last, hlast, hbefore, hstop, hconnect⟩ := connectWithin_spec l 0 n h (by omega)
  change l.connect = _ at hconnect
  refine ⟨?_, ⟨last, hlast, hbefore, hstop, ?_⟩, ?_⟩
  · rw [hconnect]
    constructor
    · intro hl
      exact ⟨last, hlast, hl⟩
    · rintro ⟨i, hi, hl⟩
      rcases hstop with hstop | hstop
      · exact hstop
      · by_cases hlt : i < last
        · exact absurd hl (Bool.eq_false_iff.1 (hbefore i hlt))
        · obtain rfl : i = last := by omega
          exact hl
  · rw [hconnect]
    simp [tried, span, setConnected]
  · intro fs rest hfaults i hi
    unfold attempt
    rw [hfaults, Fault.upcoming_row]

/-- One attempt is too late, one fails, and one is just in time. -/
theorem connection_retries_of_three :
    let l : Link Store := {
      now := 0
      remote := { keyspace := "", timeout := millis 20, retry := ⟨5, millis 10, millis 15⟩ }
      store := { inner := {}, faults := Fault.row .connect [
        { delay := some (millis 50) },
        { delay := some (millis 5), failure := some Store.unavailable },
        { delay := some (millis 20) }] }
      recorder := {} }
    l.Whole 5 ∧ l.connect.1 = true ∧ l.connect.2.now = millis (20 + 10 + 5 + 15 + 20) ∧
      l.connect.2.remote.connected = true ∧ l.connect.2.store.inner.attempts = 1 := by
  intro l
  have hdelay : ∀ i, i < 5 → perMilli ∣ l.delay i := by decide
  have hwhole : l.Whole 5 :=
    ⟨Nat.dvd_zero _, Nat.dvd_mul_right .., Nat.dvd_mul_right .., Nat.dvd_mul_right .., by decide, hdelay⟩
  obtain ⟨-, ⟨last, hlast, hbefore, hstop, hconnect⟩, -⟩ := connection_retries l hwhole
  have hfail : ∀ i, i < 2 → l.lands i = false := by decide
  have hland : l.lands 2 = true := by decide
  obtain rfl : last = 2 := by
    have hge : ¬ 2 < last := fun h => by simp [hbefore 2 h] at hland
    rcases hstop with hstop | hstop
    · have hle : ¬ last < 2 := fun h => by simp [hfail last h] at hstop
      omega
    · change last + 1 = 5 at hstop
      omega
  rw [hconnect]
  exact ⟨hwhole, hland, by decide, hland, by decide⟩

end Link

end TwoTier
