/-
A store hides what is past its deadline. Two stores that differ in nothing but such entries give the same results
whatever is done to them, and these are the results of the map that has no such entries. So what a key holds is there
until its deadline and no longer, unless the key is written or removed, and for ever if it has no deadline.
-/
import TwoTier.Proofs.Store.Reference

namespace TwoTier

/-- Whether a request can write or remove a key. -/
def Request.changes {α : Type} (k : String) : Request α → Bool
  | .set key _ _ => key == k
  | .delete key => key == k
  | .deletePattern pattern => (Glob.compile pattern).any (·.isMatch k)
  | _ => false

namespace Store

/-- Whether an act can write or remove a key. -/
def Act.changes (k : String) : Act → Bool
  | .request r => r.changes k
  | .insertRaw key _ => key == k
  | _ => false

end Store

namespace Reference

variable {m : Reference} {k : String}

theorem held_put_of_ne {key : String} (h : (key == k) = false) (e : Stored) : (m.put key e).held k = m.held k :=
  Function.update_of_ne (beq_eq_false_iff_ne.1 h).symm ..

theorem held_answer {α : Type} {r : Request α} (h : r.changes k = false) : (m.answer r).2.held k = m.held k := by
  cases r with
  | set key data ttl => exact held_put_of_ne h _
  | delete key =>
    show (if k == key then none else m.held k) = m.held k
    rw [BEq.comm, show (key == k) = false from h]
    rfl
  | deletePattern pattern =>
    unfold answer
    unfold Request.changes at h
    dsimp only at h ⊢
    cases hp : Glob.compile pattern with
    | none => rfl
    | some p =>
      rw [hp, Option.any_some] at h
      show (if p.isMatch k then none else m.held k) = m.held k
      rw [h]
      rfl
  | _ => rfl

theorem held_serve {α : Type} {r : Request α} (h : r.changes k = false) : (m.serve r).2.held k = m.held k := by
  cases r with
  | disconnect => rfl
  | _ =>
    unfold serve
    dsimp only
    split
    · exact held_answer h
    · rfl

end Reference

namespace Store

namespace Timed

variable {s s' : Timed} {k : String}

theorem now_le_act (s : Timed) (a : Act) : s.now ≤ (s.act a).2.now := by
  cases a with
  | advance d => exact Nat.le_add_right ..
  | _ => exact Nat.le_refl _

theorem now_le_run (s : Timed) (acts : List Act) : s.now ≤ (s.run acts).now := by
  induction acts generalizing s with
  | nil => exact Nat.le_refl _
  | cons a acts ih => exact Nat.le_trans (now_le_act s a) (ih (s.act a).2)

/-- An act that does not change a key takes from it only what comes to its deadline. -/
theorem held_act {a : Act} (h : a.changes k = false) :
    (s.act a).2.held k = (s.held k).filter (·.lives (s.act a).2.now) := by
  have hm : (s.act a).2.held k = (s.reference.act a).2.held k :=
    congrArg (fun x => x.2.held k) (act_reference s a)
  rw [hm]
  cases a with
  | request r => exact (Reference.held_serve h).trans (held_filter s k).symm
  | insertRaw key data => exact (Reference.held_put_of_ne h _).trans (held_filter s k).symm
  | advance d => rfl
  | _ => exact (held_filter s k).symm

/-- So it is with several acts. -/
theorem held_run {acts : List Act} (h : ∀ a ∈ acts, a.changes k = false) :
    (s.run acts).held k = (s.held k).filter (·.lives (s.run acts).now) := by
  induction acts generalizing s with
  | nil => exact (held_filter s k).symm
  | cons a acts ih =>
    show ((s.act a).2.run acts).held k = _
    rw [ih fun a' ha' => h a' (List.mem_cons_of_mem _ ha'), held_act (h a List.mem_cons_self)]
    exact Stored.filter_lives (now_le_run (s.act a).2 acts) (s.held k)

/-- Two stores at one instant that differ in nothing but entries past their deadline. -/
structure Alike (s s' : Timed) : Prop where
  now : s'.now = s.now
  held : ∀ key, s'.held key = s.held key
  available : s'.store.available = s.store.available
  attempts : s'.store.attempts = s.store.attempts
  published : s'.store.published = s.store.published

theorem Alike.reference (h : s.Alike s') : s'.reference = s.reference :=
  Reference.ext h.now (funext h.held) h.available h.attempts h.published

/-- Expiry is hidden. Stores that differ in nothing but entries past their deadline give the same results, and these are
the results of the map without such entries, to which the store comes down in the end; a key that no act changes holds
what it held until the deadline of that. -/
theorem expiry_hidden (h : s.Alike s') (acts : List Act) : s'.results acts = s.results acts ∧
    s.results acts = s.reference.results acts ∧ (s.run acts).reference = s.reference.run acts ∧
    ∀ key, (∀ a ∈ acts, a.changes key = false) →
      (s.run acts).held key = (s.held key).filter (·.lives (s.run acts).now) := by
  refine ⟨?_, results_reference s acts, run_reference s acts, fun key hkey => held_run hkey⟩
  rw [results_reference, results_reference, h.reference]

/-- A store that still holds an expired key, and one that has dropped it. -/
theorem expiry_hidden_of_dropped :
    let s : Timed := ⟨5, { entries := [("a", ⟨[1], some 3⟩), ("b", ⟨[2], none⟩), ("c", ⟨[3], some 7⟩)] }⟩
    let s' : Timed := ⟨5, { entries := [("c", ⟨[3], some 7⟩), ("b", ⟨[2], none⟩)] }⟩
    let acts : List Act := [.size, .request (.get "a"), .request (.get "c"), .advance 1, .contains "c", .advance 1, .size]
    s.Alike s' ∧ s.store.usedMemory ≠ s'.store.usedMemory ∧
      s.results acts = [.of 2, .of (Except.ok none : Except CacheError (Option Bytes)),
        .of (Except.ok (some [3]) : Except CacheError (Option Bytes)), .done, .of true, .done, .of 1] ∧
      s'.results acts = s.results acts ∧ s.results acts = s.reference.results acts ∧
      (s.run acts).reference = s.reference.run acts ∧ ∀ key, (∀ a ∈ acts, a.changes key = false) →
        (s.run acts).held key = (s.held key).filter (·.lives (s.run acts).now) := by
  intro s s' acts
  have halike : s.Alike s' := by
    refine ⟨rfl, fun key => ?_, rfl, rfl, rfl⟩
    by_cases ha : key = "a"
    · rw [ha]; rfl
    · by_cases hb : key = "b"
      · rw [hb]; rfl
      · show Option.filter _ (List.lookup key [("c", _), ("b", _)]) =
          Option.filter _ (List.lookup key [("a", _), ("b", _), ("c", _)])
        simp only [List.lookup_cons, beq_eq_false_iff_ne.2 ha, beq_eq_false_iff_ne.2 hb]
        rfl
  exact ⟨halike, by decide, rfl, expiry_hidden halike acts⟩

end Timed

end Store

end TwoTier
