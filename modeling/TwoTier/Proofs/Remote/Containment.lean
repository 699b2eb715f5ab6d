/-
What can go wrong with the shared tier stays there. An operation that tells what went wrong takes no
longer than its bound, lets a store that answers in time answer for itself, and when it fails nothing
that the store holds or has published has changed; one that cannot fail answers a default in its
place and counts the failure once. Whether the client is connected is never decided here.
-/
import TwoTier.Remote.Calls
import TwoTier.Proofs.Store.Calm

namespace TwoTier

/-- Whether a reply is a failure that counts. To have no connection is none. -/
def isFailure {α : Type} : Except CacheError α → Bool
  | .ok _ => false
  | .error e => decide (e ≠ .disconnected)

/-! ## A store that fails -/

/-- The same keys with the same contents, and the same messages. -/
structure Store.Unharmed (s s' : Store) : Prop where
  entries : s'.entries = s.entries
  published : s'.published = s.published

theorem Store.Unharmed.refl (s : Store) : s.Unharmed s := ⟨rfl, rfl⟩

namespace Store

variable {α : Type} {s : Store} {now : Nat} {r : Request α} {e : CacheError}

/-- What is answered with an error has not been begun. -/
theorem answer_of_error (h : (s.answer now r).1 = .error e) : (s.answer now r).2 = s := by
  cases r with
  | deletePattern pattern =>
    unfold answer at h ⊢
    dsimp only at h ⊢
    cases hp : Glob.compile pattern with
    | none => rfl
    | some p => rw [hp] at h; cases h
  | _ => cases h

theorem unharmed_of_error (h : (s.serve now r).1 = .error e) : s.Unharmed (s.serve now r).2 := by
  cases r with
  | disconnect => cases h
  | connect => unfold serve; dsimp only; split <;> exact ⟨rfl, rfl⟩
  | _ =>
    unfold serve at h ⊢
    dsimp only at h ⊢
    split at h
    · rw [if_pos ‹_›, answer_of_error h]
      exact .refl s
    · rw [if_neg ‹_›]
      exact .refl s

/-- To read what is live changes nothing. -/
theorem serve_of_found {key : String} {data : Bytes} (h : (s.serve now (.get key)).1 = .ok (some data)) :
    (s.serve now (.get key)).2 = s := by
  cases ha : s.available with
  | false => rw [serve_unavailable ha rfl]
  | true =>
    rw [serve_available ha rfl] at h ⊢
    change Except.ok (s.read now key).1 = _ at h
    show (s.read now key).2 = s
    unfold read at h ⊢
    cases hf : s.find? key with
    | none => rfl
    | some e =>
      rw [hf] at h
      dsimp only at h ⊢
      split
      · rename_i he
        rw [if_pos he] at h
        cases h
      · rfl

end Store

namespace Scripted

variable {α : Type} {st : Scripted Store} {now : Nat} {r : Request α}

theorem unharmed_of_error {e : CacheError} (h : (st.serve now r).1 = .error e) :
    st.inner.Unharmed (st.serve now r).2.inner := by
  obtain ⟨inner, faults, blank⟩ := st
  have hserve : (inner.serve now r).1 = .error e → inner.Unharmed (inner.serve now r).2 := Store.unharmed_of_error
  cases r with
  | info =>
    cases blank with
    | true => cases h
    | false => exact hserve h
  | _ => exact hserve h

end Scripted

/-! ## A call that is bounded -/

/-- What the script keeps beyond the bound is cut off at the bound. -/
theorem Trip.start_bounded {σ α : Type} (now bound : Nat) (r : Request α) (st : Scripted σ) :
    Trip.start now (some bound) r st =
      (let fault := (st.draw r.method).1
        let due := fault.delay.elim now (wakeAt now)
        if wakeAt now bound < due then ⟨r, wakeAt now bound, some (.timeout (millis64 bound))⟩ else ⟨r, due, fault.failure⟩,
        (st.draw r.method).2) := by
  unfold start
  dsimp only
  rw [Option.filter_some]
  split <;> rename_i h
  · rw [if_pos (of_decide_eq_true h)]
    rfl
  · rw [if_neg fun hlt => h (decide_eq_true hlt)]
    rfl

namespace Link

variable {α β : Type} {l : Link Store} {r : Request α}

/-- What the script does to the next call for a request. -/
def fault (l : Link Store) (r : Request α) : Fault := (l.store.draw r.method).1

/-- When the script lets go of it. -/
def due (l : Link Store) (r : Request α) : Nat := (l.fault r).delay.elim l.now (wakeAt l.now)

/-- What comes of a call that is not cut off: it fails as the script says, or the store answers. -/
def uncut (l : Link Store) (r : Request α) : Except CacheError α × Link Store :=
  let l' : Link Store := { l with now := l.due r, store := (l.store.draw r.method).2 }
  match (l.fault r).failure with
  | some e => (.error e, l')
  | none =>
    let (reply, store) := l'.store.serve l'.now r
    (reply, { l' with store })

/-- What comes of one that is. -/
def cut (l : Link Store) (r : Request α) : Except CacheError α × Link Store :=
  (.error (.timeout (millis64 l.remote.timeout)),
    { l with now := wakeAt l.now l.remote.timeout, store := (l.store.draw r.method).2 })

theorem ask_disconnected (hc : l.remote.connected = false) (r : Request α) : l.ask r = (.error .disconnected, l) := by
  unfold ask call wait
  rw [hc, if_neg (by decide)]
  dsimp only [Trip.refused]
  rw [Nat.max_self]
  rfl

/-- A call is cut off if the script keeps it beyond the bound, and only then. -/
theorem ask_connected (hc : l.remote.connected = true) (r : Request α) :
    l.ask r = if wakeAt l.now l.remote.timeout < l.due r then l.cut r else l.uncut r := by
  have hdue : l.now ≤ l.due r := le_elim_wakeAt ..
  unfold ask call wait
  rw [if_pos hc, Trip.start_bounded]
  change Link.finish { l with now := max l.now (if _ < l.due r then _ else _ : Trip α).ends, store := _ }
    (if _ < l.due r then _ else _) = _
  split
  · dsimp only
    rw [Nat.max_eq_right (le_wakeAt ..)]
    rfl
  · change Link.finish { l with now := max l.now (l.due r), store := _ } _ = _
    rw [Nat.max_eq_right hdue]
    unfold uncut finish Trip.finish fault
    dsimp only
    cases (l.store.draw r.method).1.failure <;> rfl

/-- An operation that makes one call and reads the reply. It ends in time, which on a clock and a
bound of whole milliseconds means that it takes no longer than the bound; it leaves the client as it
is; if it fails it has done no harm; and a store that is delayed no longer than the bound answers it. -/
structure Contained (l : Link Store) (r : Request α) (read : Except CacheError α → Except CacheError β)
    (x : Except CacheError β × Link Store) : Prop where
  inTime : x.2.now ≤ wakeAt l.now l.remote.timeout
  inBound : perMilli ∣ l.now → perMilli ∣ l.remote.timeout → x.2.now ≤ l.now + l.remote.timeout
  remote : x.2.remote = l.remote
  unharmed : ∀ e, x.1 = .error e → l.store.inner.Unharmed x.2.store.inner
  answered : l.remote.connected = true → (∀ d, (l.fault r).delay = some d → d ≤ l.remote.timeout) →
    x = (read (l.uncut r).1, (l.uncut r).2)

/-- An operation in place of one that tells what went wrong: it answers a default and counts the
failure, if it was one. -/
structure Degrades {σ : Type} (default : β) (tried : Except CacheError β × Link σ) (x : β × Link σ) : Prop where
  value : x.1 = tried.1.toOption.getD default
  now : x.2.now = tried.2.now
  store : x.2.store = tried.2.store
  remote : x.2.remote = { tried.2.remote with errors := tried.2.remote.errors + (isFailure tried.1).toNat }

theorem wakeAt_whole {now d : Nat} (hn : perMilli ∣ now) (hd : perMilli ∣ d) : wakeAt now d = now + d := by
  obtain ⟨m, rfl⟩ := hn
  obtain ⟨k, rfl⟩ := hd
  rw [← Nat.mul_add]
  exact wakeAt_millis m k

theorem uncut_remote (l : Link Store) (r : Request α) : (l.uncut r).2.remote = l.remote := by
  unfold uncut
  dsimp only
  split <;> rfl

theorem uncut_now (l : Link Store) (r : Request α) : (l.uncut r).2.now = l.due r := by
  unfold uncut
  dsimp only
  split <;> rfl

/-- What the store holds after a call that is not cut off is what it held, or what it made of the request. -/
theorem uncut_inner (l : Link Store) (r : Request α) :
    (∃ e, (l.uncut r).1 = .error e ∧ (l.uncut r).2.store.inner = l.store.inner) ∨
      ∃ st : Scripted Store, st.inner = l.store.inner ∧ (l.uncut r).1 = (st.serve (l.due r) r).1 ∧
        (l.uncut r).2.store = (st.serve (l.due r) r).2 := by
  have hinner : (l.store.draw r.method).2.inner = l.store.inner := (Scripted.draw_inner rfl).1
  unfold uncut
  dsimp only
  split
  · exact Or.inl ⟨_, rfl, hinner⟩
  · exact Or.inr ⟨_, hinner, rfl, rfl⟩

theorem unharmed_of_uncut {e : CacheError} (h : (l.uncut r).1 = .error e) :
    l.store.inner.Unharmed (l.uncut r).2.store.inner := by
  rcases uncut_inner l r with ⟨_, -, hi⟩ | ⟨st, hst, hr, hi⟩
  · rw [hi]
    exact .refl _
  · rw [hi, ← hst]
    exact Scripted.unharmed_of_error (hr ▸ h)

/-- Reading the reply does no harm if it fails only where nothing has changed. -/
theorem contained_ask (l : Link Store) (r : Request α) (read : Except CacheError α → Except CacheError β)
    (hok : ∀ a e, (l.uncut r).1 = .ok a → read (.ok a) = .error e → l.store.inner.Unharmed (l.uncut r).2.store.inner) :
    Contained l r read (read (l.ask r).1, (l.ask r).2) := by
  -- refused at once, cut off by the time limit, or answered in time
  have hcase : l.ask r = (.error .disconnected, l) ∨ (l.ask r = l.cut r ∧ wakeAt l.now l.remote.timeout < l.due r) ∨
      (l.ask r = l.uncut r ∧ l.due r ≤ wakeAt l.now l.remote.timeout) := by
    cases hc : l.remote.connected with
    | false => exact Or.inl (ask_disconnected hc r)
    | true =>
      rw [ask_connected hc]
      split <;> rename_i hlate
      · exact Or.inr (Or.inl ⟨rfl, hlate⟩)
      · exact Or.inr (Or.inr ⟨rfl, Nat.le_of_not_lt hlate⟩)
  have htime : (l.ask r).2.now ≤ wakeAt l.now l.remote.timeout := by
    rcases hcase with h | ⟨h, -⟩ | ⟨h, hle⟩
    · rw [h]; exact le_wakeAt ..
    · rw [h]; exact Nat.le_refl _
    · rw [h, uncut_now]; exact hle
  refine ⟨htime, fun hn hd => wakeAt_whole hn hd ▸ htime, ?_, ?_, ?_⟩
  · rcases hcase with h | ⟨h, -⟩ | ⟨h, -⟩
    · rw [h]
    · rw [h]; rfl
    · rw [h]; exact uncut_remote l r
  · intro e he
    rcases hcase with h | ⟨h, -⟩ | ⟨h, -⟩
    · rw [h]
      exact .refl _
    · -- what is cut off has drawn from the script and done nothing else
      have hinner : (l.store.draw r.method).2.inner = l.store.inner := (Scripted.draw_inner rfl).1
      rw [h]
      show l.store.inner.Unharmed (l.store.draw r.method).2.inner
      rw [hinner]
      exact .refl _
    · rw [h] at he ⊢
      cases hr : (l.uncut r).1 with
      | error e' => exact unharmed_of_uncut hr
      | ok a => rw [hr] at he; exact hok a e hr he
  · intro hc hd
    have hdue : l.due r ≤ wakeAt l.now l.remote.timeout := by
      unfold due
      cases hf : (l.fault r).delay with
      | none => exact le_wakeAt ..
      | some d => exact wakeAt_mono l.now (hd d hf)
    rw [ask_connected hc, if_neg (Nat.not_lt.2 hdue)]

/-- A call whose reply is the answer. -/
theorem contained_ask_id (l : Link Store) (r : Request α) : Contained l r id (l.ask r) :=
  contained_ask l r id nofun

/-- Bytes that cannot be read have been found, and to find them changes nothing. -/
theorem contained_tryGet [Payload α] (l : Link Store) (key : String) :
    Contained l (.get key) Payload.decodeReply (l.tryGet key : Except CacheError (Option α) × Link Store) := by
  refine contained_ask l (.get key) _ fun found e hf he => ?_
  cases found with
  | none => cases he
  | some data =>
    rcases uncut_inner l (.get key) with ⟨_, h, -⟩ | ⟨st, hst, hr, hi⟩
    · rw [hf] at h; cases h
    · rw [hr] at hf
      have hserved : (st.inner.serve (l.due (.get key)) (.get key)).1 = .ok (some data) := hf
      rw [hi, ← hst]
      show st.inner.Unharmed (st.inner.serve (l.due (.get key)) (.get key)).2
      rw [Store.serve_of_found hserved]
      exact .refl _

theorem degrades_settle {σ : Type} (operation : String) (default : β) (tried : Except CacheError β × Link σ) :
    Degrades default tried (settle operation default tried) := by
  obtain ⟨reply, l⟩ := tried
  cases reply with
  | ok b => exact ⟨rfl, rfl, rfl, rfl⟩
  | error e =>
    by_cases he : e = .disconnected
    · subst he
      exact ⟨rfl, rfl, rfl, rfl⟩
    · have hr : l.report operation e = { l with
          remote := { l.remote with errors := l.remote.errors + 1 }
          recorder := l.recorder.add (.failures operation) 1 } := if_neg he
      have hf : isFailure (.error e : Except CacheError β) = true := decide_eq_true he
      refine ⟨rfl, ?_, ?_, ?_⟩ <;> simp only [settle, hr, hf, Bool.toNat_true]

/-- Failures of the shared tier are contained, whatever the client, the script before the store and the
store have come to, and whatever is asked. A value that has no payload is refused before any call. -/
theorem failures_contained [Payload α] (l : Link Store) (key pattern channel message : String) (value : α)
    (ttl : Option Nat) :
    (Contained l (.get key) Payload.decodeReply (l.tryGet key : Except CacheError (Option α) × Link Store) ∧
      (match Payload.encode value with
        | .ok bytes => Contained l (.set key bytes ttl) id (l.trySet key value ttl)
        | .error e => l.trySet key value ttl = (.error e, l)) ∧
      Contained l (.delete key) id (l.tryDelete key) ∧
      Contained l (.deletePattern (l.remote.scopedPattern pattern)) id (l.tryDeletePattern pattern) ∧
      Contained l (.publish channel message) id (l.tryPublish channel message)) ∧
    Degrades none (l.tryGet key : Except CacheError (Option α) × Link Store) (l.get key) ∧
    Degrades false ((l.trySet key value ttl).map (fun r => r.map fun _ => true) id) (l.set key value ttl) ∧
    Degrades false (l.tryDelete key) (l.delete key) ∧
    Degrades 0 (l.tryDeletePattern pattern) (l.deletePattern pattern) ∧
    Degrades 0 (l.tryDeletePattern "*") l.clear := by
  refine ⟨⟨contained_tryGet l key, ?_, contained_ask_id .., contained_ask_id .., contained_ask_id ..⟩,
    degrades_settle .., degrades_settle .., degrades_settle .., degrades_settle .., degrades_settle ..⟩
  unfold trySet
  cases Payload.encode value with
  | ok bytes => exact contained_ask_id l (.set key bytes ttl)
  | error e => rfl

end Link

end TwoTier
