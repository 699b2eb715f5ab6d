/-
What a store is meant to be: a map from keys to what they hold, from which an entry vanishes at its deadline. The map
has no entry that is past its deadline, so no request has to look for one. The store in memory keeps such entries for
a while, but forgetting them gives the map, whatever the store is asked and however much time goes by, and the map
answers what the store answers, but for the memory that is in use.
-/
import Mathlib.Data.Set.Card
import TwoTier.Proofs.Store.Contents

namespace TwoTier

/-- Whether something is there at an instant: before its deadline, and always if it has none. -/
def Stored.lives (e : Stored) (now : Nat) : Bool := e.deadline.all (now < ·)

theorem Stored.not_isExpired (e : Stored) (now : Nat) : (!e.isExpired now) = e.lives now := by
  unfold isExpired lives TwoTier.isExpired
  cases e.deadline with
  | none => rfl
  | some d => rw [Option.all_some, ← decide_not, decide_eq_decide, Nat.not_le]

/-- What is there later was there before. -/
theorem Stored.filter_lives {now later : Nat} (h : now ≤ later) (o : Option Stored) :
    (o.filter (·.lives now)).filter (·.lives later) = o.filter (·.lives later) := by
  have hle : ∀ e : Stored, e.lives later = true → e.lives now = true := by
    intro e he
    unfold lives at *
    cases hd : e.deadline with
    | none => rfl
    | some d =>
      rw [hd, Option.all_some, decide_eq_true_iff] at he
      exact decide_eq_true (Nat.lt_of_le_of_lt h he)
  rw [Option.filter_filter]
  congr 1
  funext e
  cases he : e.lives later with
  | true => rw [hle e he]; rfl
  | false => exact Bool.and_false _

/-- A map with a clock, next to what else a store has. -/
@[ext]
structure Reference where
  now : Nat
  held : String → Option Stored
  available : Bool
  attempts : Nat
  published : List (String × String)

/-! ## What can happen -/

/-- What can be done to a store, and what can be asked about it. -/
inductive Store.Act : Type 1 where
  | request {α : Type} (r : Request α)
  | insertRaw (key : String) (data : Bytes)
  | contains (key : String)
  | size
  | isEmpty
  | attempts
  | published
  | setAvailable (b : Bool)
  | advance (d : Nat)

/-- A result with its type. -/
abbrev Store.Result : Type 1 := (α : Type) × α

namespace Store.Result

def of {α : Type} (a : α) : Result := ⟨α, a⟩

/-- The result of an act that tells nothing. -/
def done : Result := of ()

end Store.Result

/-- A reply without the memory figure. -/
def Request.withoutMemory {α : Type} (r : Request α) (reply : α) : α :=
  match r, reply with
  | .info, i => { i with usedMemory := none }
  | _, a => a

/-! ## The map -/

namespace Reference

open Store

variable (m : Reference)

/-- What is left of something at the map's instant. -/
def current (e : Stored) : Option Stored := if e.lives m.now then some e else none

def put (key : String) (e : Stored) : Reference := { m with held := Function.update m.held key (m.current e) }

/-- Without the keys that meet a condition. -/
def drop (p : String → Bool) : Reference := { m with held := fun key => if p key then none else m.held key }

/-- How many keys that meet a condition hold something. -/
noncomputable def count (p : String → Bool) : Nat := {key | p key ∧ (m.held key).isSome}.ncard

noncomputable def answer {α : Type} : Request α → Except CacheError α × Reference
  | .connect => (.ok (), m)
  | .disconnect => (.ok (), m)
  | .ping => (.ok (), m)
  | .get key => (.ok ((m.held key).map Stored.data), m)
  | .set key data ttl => (.ok (), m.put key ⟨data, ttl.map (deadline m.now)⟩)
  | .delete key => (.ok (m.held key).isSome, m.drop (· == key))
  | .deletePattern pattern =>
    match Glob.compile pattern with
    | none => (.error (.connection ("invalid pattern " ++ Text.quoted pattern)), m)
    | some p => (.ok (m.count p.isMatch), m.drop p.isMatch)
  | .publish channel message => (.ok (), { m with published := m.published ++ [(channel, message)] })
  | .info => (.ok ⟨none, some 1⟩, m)

/-- A map that is not available refuses everything but to disconnect, and counts the attempts to connect. -/
noncomputable def serve {α : Type} : Request α → Except CacheError α × Reference
  | .disconnect => (.ok (), m)
  | .connect =>
    let m := { m with attempts := m.attempts + 1 }
    if m.available then m.answer .connect else (.error unavailable, m)
  | r => if m.available then m.answer r else (.error unavailable, m)

/-- As time goes by, what has come to its deadline vanishes. -/
def advance (d : Nat) : Reference :=
  { m with now := m.now + d, held := fun key => (m.held key).filter (·.lives (m.now + d)) }

noncomputable def act : Act → Result × Reference
  | .request r => let (reply, m) := m.serve r; (.of reply, m)
  | .insertRaw key data => (.done, m.put key ⟨data, none⟩)
  | .contains key => (.of (m.held key).isSome, m)
  | .size => (.of (m.count fun _ => true), m)
  | .isEmpty => (.of (m.count (fun _ => true) == 0), m)
  | .attempts => (.of m.attempts, m)
  | .published => (.of m.published, m)
  | .setAvailable b => (.done, { m with available := b })
  | .advance d => (.done, m.advance d)

/-- The results of several acts, one after the other. -/
noncomputable def results (m : Reference) : List Act → List Result
  | [] => []
  | a :: acts => (m.act a).1 :: (m.act a).2.results acts

noncomputable def run (m : Reference) (acts : List Act) : Reference := acts.foldl (fun m a => (m.act a).2) m

end Reference

/-! ## The store -/

namespace Store

/-- A store and its clock. -/
structure Timed where
  now : Nat
  store : Store

namespace Timed

variable (s : Timed)

def act : Act → Result × Timed
  | .request r =>
    let (reply, store) := s.store.serve s.now r
    (.of (reply.map r.withoutMemory), { s with store })
  | .insertRaw key data => (.done, { s with store := s.store.insertRaw key data })
  | .contains key => (.of (s.store.contains s.now key), s)
  | .size => (.of (s.store.size s.now), s)
  | .isEmpty => (.of (s.store.isEmpty s.now), s)
  | .attempts => (.of s.store.attempts, s)
  | .published => (.of s.store.published, s)
  | .setAvailable b => (.done, { s with store := { s.store with available := b } })
  | .advance d => (.done, { s with now := s.now + d })

def results (s : Timed) : List Act → List Result
  | [] => []
  | a :: acts => (s.act a).1 :: (s.act a).2.results acts

def run (s : Timed) (acts : List Act) : Timed := acts.foldl (fun s a => (s.act a).2) s

/-- What a key holds that is there. -/
def held (key : String) : Option Stored := (s.store.find? key).filter (·.lives s.now)

/-- The store without what is past its deadline. -/
def reference : Reference := ⟨s.now, s.held, s.store.available, s.store.attempts, s.store.published⟩

end Timed

/-! ## What is there -/

namespace Timed

variable (s : Store) (now : Nat)

theorem held_mk (key : String) : (Timed.mk now s).held key = s.live? now key := by
  unfold held live?
  simp only [Stored.not_isExpired]

/-- Nothing that is there is past its deadline. -/
theorem held_filter (s : Timed) (key : String) : (s.held key).filter (·.lives s.now) = s.held key :=
  Stored.filter_lives (Nat.le_refl _) (s.store.find? key)

/-- What is there later is there now, and has not come to its deadline. -/
theorem held_later {now later : Nat} (h : now ≤ later) (key : String) :
    (Timed.mk later s).held key = ((Timed.mk now s).held key).filter (·.lives later) :=
  (Stored.filter_lives h (s.find? key)).symm

theorem reference_keep (p : String → Bool) :
    (Timed.mk now (s.keep p)).reference = (Timed.mk now s).reference.drop fun key => !p key := by
  refine Reference.ext rfl (funext fun k => ?_) rfl rfl rfl
  show ((s.keep p).find? k).filter (·.lives now) = if !p k then none else (s.find? k).filter (·.lives now)
  rw [find?_keep]
  cases p k <;> rfl

theorem reference_remove (key : String) :
    (Timed.mk now (s.remove key)).reference = (Timed.mk now s).reference.drop (· == key) := by
  rw [remove, reference_keep]
  simp only [bne, Bool.not_not]

theorem reference_put (key : String) (e : Stored) :
    (Timed.mk now (s.put key e)).reference = (Timed.mk now s).reference.put key e := by
  refine Reference.ext rfl (funext fun k => ?_) rfl rfl rfl
  show ((s.put key e).find? k).filter (·.lives now) = Function.update (Timed.mk now s).held key _ k
  rw [find?_put, Function.update_apply]
  split
  · rfl
  · rfl

theorem reference_read (key : String) :
    (Timed.mk now (s.read now key).2).reference = (Timed.mk now s).reference := by
  have hsnd : (s.read now key).2 = s ∨ (s.read now key).2 = s.remove key := by
    unfold read
    split
    · exact Or.inl rfl
    · split
      · exact Or.inr rfl
      · exact Or.inl rfl
  refine Reference.ext rfl (funext fun k => ?_) ?_ ?_ ?_
  · show (Timed.mk now (s.read now key).2).held k = (Timed.mk now s).held k
    rw [held_mk, held_mk, live?, find?_read]
    split <;> rename_i hk
    · rw [hk, live?, Option.filter_filter]
      simp only [Bool.and_self]
    · rfl
  all_goals rcases hsnd with h | h <;> simp only [reference, h, remove, keep]

/-- Keys that hold something live are counted once. -/
theorem length_live (p : String → Bool) :
    (s.entries.filter fun e => p e.1 && !e.2.isExpired now).length = (Timed.mk now s).reference.count p := by
  have hkeys : ((s.entries.filter fun e => p e.1 && !e.2.isExpired now).map Prod.fst).Nodup :=
    s.keys_nodup.sublist (List.filter_sublist.map _)
  have hset : {key | p key ∧ ((Timed.mk now s).held key).isSome} =
      ↑((s.entries.filter fun e => p e.1 && !e.2.isExpired now).map Prod.fst).toFinset := by
    ext key
    rw [Set.mem_ofPred_eq, held_mk, Finset.mem_coe, List.mem_toFinset, List.mem_map, Option.isSome_iff_exists]
    constructor
    · rintro ⟨hp, e, he⟩
      obtain ⟨hf, hd⟩ := live?_eq_some_iff.1 he
      refine ⟨(key, e), List.mem_filter.2 ⟨(lookup_eq_some_iff_mem s.keys_nodup).1 hf, ?_⟩, rfl⟩
      simp [hp, hd]
    · rintro ⟨x, hx, rfl⟩
      obtain ⟨hmem, hx⟩ := List.mem_filter.1 hx
      rw [Bool.and_eq_true, Bool.not_eq_true'] at hx
      exact ⟨hx.1, x.2, live?_eq_some_iff.2 ⟨(lookup_eq_some_iff_mem s.keys_nodup).2 hmem, hx.2⟩⟩
  show _ = {key | p key ∧ ((Timed.mk now s).held key).isSome}.ncard
  rw [hset, Set.ncard_coe_finset, List.toFinset_card_of_nodup hkeys, List.length_map]

theorem answer_reference {α : Type} (r : Request α) :
    ((s.answer now r).1.map r.withoutMemory, (Timed.mk now (s.answer now r).2).reference) =
      (Timed.mk now s).reference.answer r := by
  cases r with
  | get key =>
    show (Except.ok (s.read now key).1, (Timed.mk now (s.read now key).2).reference) = _
    rw [reference_read, read_fst, ← held_mk]
    rfl
  | set key data ttl => exact Prod.ext rfl (reference_put ..)
  | delete key =>
    refine Prod.ext ?_ (reference_remove ..)
    show Except.ok (s.live? now key).isSome = _
    rw [← held_mk]
    rfl
  | deletePattern pattern =>
    unfold answer Reference.answer
    dsimp only
    cases Glob.compile pattern with
    | none => rfl
    | some p =>
      refine Prod.ext (congrArg Except.ok (length_live s now p.isMatch)) ((reference_keep ..).trans ?_)
      simp only [Bool.not_not]
  | _ => rfl

theorem serve_reference {α : Type} (r : Request α) :
    ((s.serve now r).1.map r.withoutMemory, (Timed.mk now (s.serve now r).2).reference) =
      (Timed.mk now s).reference.serve r := by
  -- an unavailable store looks at no entry, so only the case of an available one rests on the answers
  by_cases hs : s.available = true
  · have hm : (Timed.mk now s).reference.available = true := hs
    cases r with
    | disconnect => rfl
    | connect =>
      unfold serve Reference.serve
      dsimp only
      rw [if_pos hs, if_pos hm]
      rfl
    | _ =>
      unfold serve Reference.serve
      dsimp only
      rw [if_pos hs, if_pos hm]
      exact answer_reference ..
  · have hm : ¬(Timed.mk now s).reference.available = true := hs
    cases r with
    | disconnect => rfl
    | _ =>
      unfold serve Reference.serve
      dsimp only
      rw [if_neg hs, if_neg hm]
      rfl

/-- What is done to the store is done to the map, with the same result. -/
theorem act_reference (s : Timed) (a : Act) : ((s.act a).1, (s.act a).2.reference) = s.reference.act a := by
  have hsize : s.store.size s.now = s.reference.count fun _ => true := by
    rw [← length_live]
    simp only [Bool.true_and]
    rfl
  cases a with
  | request r =>
    obtain ⟨hreply, hstore⟩ := Prod.ext_iff.1 (serve_reference s.store s.now r)
    exact Prod.ext (congrArg Result.of hreply) hstore
  | insertRaw key data => exact Prod.ext rfl (reference_put ..)
  | size => exact Prod.ext (congrArg Result.of hsize) rfl
  | isEmpty => exact Prod.ext (congrArg (fun n => Result.of (n == 0)) hsize) rfl
  | contains key =>
    refine Prod.ext ?_ rfl
    show Result.of (s.store.live? s.now key).isSome = _
    rw [← held_mk]
    rfl
  | advance d =>
    refine Prod.ext rfl (Reference.ext rfl (funext fun k => ?_) rfl rfl rfl)
    exact held_later s.store (Nat.le_add_right ..) k
  | _ => rfl

/-- So it is with the results of several acts, one after the other. -/
theorem results_reference (s : Timed) (acts : List Act) : s.results acts = s.reference.results acts := by
  induction acts generalizing s with
  | nil => rfl
  | cons a acts ih =>
    obtain ⟨hresult, hstore⟩ := Prod.ext_iff.1 (act_reference s a)
    dsimp only at hresult hstore
    rw [results, Reference.results, ih, hresult, hstore]

/-- And with what the store comes down to in the end. -/
theorem run_reference (s : Timed) (acts : List Act) : (s.run acts).reference = s.reference.run acts := by
  induction acts generalizing s with
  | nil => rfl
  | cons a acts ih =>
    have hstore : (s.act a).2.reference = (s.reference.act a).2 := (Prod.ext_iff.1 (act_reference s a)).2
    show ((s.act a).2.run acts).reference = (s.reference.act a).2.run acts
    rw [ih, hstore]

end Timed

end Store

end TwoTier
