/-
What calls leave behind. Look-ups and writes that an instance alone makes on a calm store take both tiers
from one state in which they are coherent to another, and a look-up finds what the tiers are coherent
with. Over calls made one after the other, the latest write of a key counts, if no removal has undone it.
-/
import TwoTier.Proofs.Cluster.Tally
import TwoTier.Proofs.Site.Coherent

namespace TwoTier

variable {n : Node} {key : String} {w : Option Mark} {t t' : Task} {s s' : Site Store}

/-! ## What calls leave behind -/

/-- What a call that is over has written, and when. A look-up has if it has fetched a value. -/
def Task.wrote? (n : Node) (t : Task) : Option (Writing × Nat) :=
  match t.phase with
  | .finished _ ended => if t.call.reads?.isSome && t.fetches == 0 then none else (t.call.writes? n).map (·, ended)
  | _ => none

/-- What a key stands for after a call that is over. -/
def Task.leaves (n : Node) (key : String) (w : Option Mark) (t : Task) : Option Mark :=
  match t.wrote? n, t.call.removal? n with
  | some (wr, ended), _ => wr.marks key ended w
  | none, some b => if b.Names key then none else w
  | none, none => w

/-- What a key stands for after calls that were made one after the other: the latest write of it, if
no removal has undone that. -/
def latest (n : Node) (key : String) (calls : List Task) : Option Mark := calls.foldl (Task.leaves n key) none

/-- What both tiers hold while a call that is no removal is under way. -/
def Task.Coheres (n : Node) (key : String) (w : Option Mark) (t : Task) (s : Site Store) : Prop :=
  match t.phase with
  | .storing _ _ trip => trip.failure = none ∧ ∃ wr, t.call.writes? n = some wr ∧
      s.Coherent (wr.marks key s.now w) w key
  | .finished _ _ => s.Coherent (t.leaves n key w) (t.leaves n key w) key
  | _ => s.Coherent w w key

theorem Task.leaves_of_unwritten (hr : t.call.removal? n = none) (hw : t.wrote? n = none) : t.leaves n key w = w := by
  unfold leaves
  rw [hw, hr]

theorem Task.leaves_of_wrote {wr : Writing} {ended : Nat} (hw : t.wrote? n = some (wr, ended)) :
    t.leaves n key w = wr.marks key ended w := by
  unfold leaves
  rw [hw]

/-- A look-up that has found what it looked for has written nothing. -/
theorem Task.wrote?_of_found {short : String} (hc : t.call.reads? = some short)
    (hm : ∀ key f, t.call = .getOrFetch key f → t.fetches = 0) : t.wrote? n = none := by
  unfold wrote?
  cases t.phase with
  | finished reply ended =>
    cases hcall : t.call with
    | get key => exact ite_self _
    | getOrFetch key f => rw [hm key f hcall]; rfl
    | _ => rw [hcall] at hc; cases hc
  | _ => rfl

theorem Task.wrote?_of_written {wr : Writing} {reply : Reply} {ended : Nat} (hp : t.phase = .finished reply ended)
    (hw : t.call.writes? n = some wr) (hm : t.call.reads?.isSome → t.fetches ≠ 0) : t.wrote? n = some (wr, ended) := by
  unfold wrote?
  rw [hp, hw]
  dsimp only
  rw [if_neg]
  · rfl
  · rw [Bool.and_eq_true, beq_iff_eq]
    exact fun h => hm h.1 h.2

theorem Task.writes?_of_wrote? {wr : Writing} {ended : Nat} (h : t.wrote? n = some (wr, ended)) :
    t.call.writes? n = some wr := by
  unfold wrote? at h
  split at h
  · split at h
    · cases h
    · obtain ⟨wr', hw, heq⟩ := Option.map_eq_some_iff.1 h
      cases heq
      exact hw
  · cases h

theorem Task.returns_leaves (hw : ∀ m ∈ w, m.Returns)
    (ht : ∀ wr, t.call.writes? n = some wr → Payload.decode (payload wr.value) = .ok wr.value) :
    ∀ m ∈ t.leaves n key w, m.Returns := by
  intro m hm
  unfold leaves at hm
  split at hm
  · rename_i wr ended hwrote
    unfold Writing.marks at hm
    split at hm
    · cases hm
      exact ht wr (writes?_of_wrote? hwrote)
    · exact hw m hm
  · split at hm
    · cases hm
    · exact hw m hm
  · exact hw m hm

/-- A call that ends without having written leaves what there was. -/
theorem Task.Coheres.over {reply : Reply} {ended : Nat} (hp : t.phase = .finished reply ended)
    (hr : t.call.removal? n = none) (hw : t.wrote? n = none) (hs : s.Coherent w w key) : t.Coheres n key w s := by
  unfold Coheres
  rw [hp, Task.leaves_of_unwritten hr hw]
  exact hs

/-- One that ends with a write has made both tiers coherent anew. -/
theorem Task.Coheres.written {wr : Writing} {reply : Reply} {ended : Nat} (hp : t.phase = .finished reply ended)
    (hw : t.wrote? n = some (wr, ended)) (hs : s.Coherent (wr.marks key ended w) (wr.marks key ended w) key) :
    t.Coheres n key w s := by
  unfold Coheres
  rw [hp, Task.leaves_of_wrote hw]
  exact hs

theorem Segment.coheres (h : Segment s s' t t') (hstep : t.step s = (t', s')) (hn : s.node.frame = n.frame)
    (hf : t.phase.Fits s.node t.call) (hcalm : s.store.Calm) (hconn : s.node.remote.connected = true)
    (hr : t.call.removal? n = none) (hu : t.call.usesCache = true)
    (htally : ∀ key f, t.call = .getOrFetch key f → t.Tally f)
    (hret : ∀ m ∈ w, m.Returns) (hc : t.Coheres n key w s) : t'.Coheres n key w s' := by
  -- a writing has reached the local tier and sets out for the store
  have hsets : ∀ {wr : Writing} {trip : Trip Unit} {s₁ : Site Store}, (s.written wr).Alike s₁ →
      s₁.call wr.request = (trip, s') → s.Coherent w w key →
      trip.failure = none ∧ s'.Coherent (wr.marks key s'.now w) w key := by
    intro wr trip s₁ hs ht hc
    have hcalm₁ : s₁.store.Calm := hs.store ▸ hcalm
    rw [Site.call_calm hcalm₁ (hs.connected.trans hconn)] at ht
    cases ht
    exact ⟨rfl, hs.now ▸ (hc.written wr).alike hs⟩
  -- and reaches the store
  have hlands : ∀ {t : Task} {k : String} {evicted : Bool} {trip : Trip Unit} {reply : Except CacheError Unit}
      {s₁ : Site Store}, t.phase.Fits s.node t.call → s.finish trip = (reply, s₁) → t.Coheres n key w s →
      t.phase = .storing k evicted trip →
      ∃ wr, t.call.writes? n = some wr ∧ s₁.Coherent (wr.marks key s.now w) (wr.marks key s.now w) key := by
    intro t k evicted trip reply s₁ hf hf' hc hp
    unfold Task.Coheres at hc
    rw [hp] at hc hf
    obtain ⟨hfail, wr, hw, hmarks⟩ := hc
    obtain ⟨wr', hw', -, hq⟩ := hf.storing_inv
    rw [Call.writes?_of_frame hn, hw] at hw'
    cases hw'
    exact ⟨wr, hw, hmarks.stored hcalm.available hf' hq hfail⟩
  cases h with
  | hitLocal hc' hv hs =>
    exact .over rfl hr (Task.wrote?_of_found hc' fun _ _ hcall => htally _ _ hcall) ((hc.looked _).alike hs)
  | missLocal hc' hv hs ht => exact ((hc.looked _).alike hs).call ht
  | hitShared hf' hv hs =>
    obtain ⟨short, hc', rfl, hq⟩ := hf.reading_inv
    exact .over rfl hr (Task.wrote?_of_found hc' fun _ _ hcall => htally _ _ hcall)
      ((Site.Coherent.promoted hc hret hf' hq hv).alike hs)
  | missGet hf' hv hs =>
    obtain ⟨short, hc', rfl, hq⟩ := hf.reading_inv
    exact .over rfl hr (Task.wrote?_of_found hc' fun _ _ hcall => by cases hcall)
      ((Site.Coherent.asked hc hf' hq).alike hs)
  | queue hf' hv hco hs =>
    obtain ⟨short, hc', rfl, hq⟩ := hf.reading_inv
    exact ((Site.Coherent.asked hc hf' hq).join ..).alike hs
  | fetchAtOnce hf' hv hco hs =>
    obtain ⟨short, hc', rfl, hq⟩ := hf.reading_inv
    exact (Site.Coherent.asked hc hf' hq).alike hs
  | rehitLocal hv hs =>
    exact .over rfl hr (Task.wrote?_of_found rfl fun _ _ hcall => htally _ _ hcall) (((hc.looked _).leave ..).alike hs)
  | remissLocal hv hs ht => exact (Site.Coherent.alike (Site.Coherent.looked hc _) hs).call ht
  | rehitShared hf' hv hs =>
    cases hf with
    | rereading hco hq =>
      exact .over rfl hr (Task.wrote?_of_found rfl fun _ _ hcall => htally _ _ hcall)
        (((Site.Coherent.promoted hc hret hf' hq hv).leave ..).alike hs)
  | remissShared hf' hv hs =>
    cases hf with
    | rereading hco hq => exact (Site.Coherent.asked hc hf' hq).alike hs
  | fetched ho hw hs ht =>
    obtain ⟨hfail, hmarks⟩ := hsets hs ht hc
    exact ⟨hfail, _, by rw [← Call.writes?_of_frame hn, hw]; simp only [Call.writes?, ho], hmarks⟩
  | unfetched ho hs =>
    refine .over rfl hr ?_ ((hc.leave ..).alike hs)
    unfold Task.wrote? Call.writes?
    dsimp only
    split
    · rfl
    · split
      · exact absurd ‹_› (ho _)
      · rfl
  | put hw hs ht =>
    obtain ⟨hfail, hmarks⟩ := hsets hs ht hc
    exact ⟨hfail, _, by rw [← Call.writes?_of_frame hn, hw]; rfl, hmarks⟩
  | stored hf' hs =>
    obtain ⟨wr, hw, hmarks⟩ := hlands hf hf' hc rfl
    exact .written rfl (Task.wrote?_of_written rfl hw fun hread => by cases hread) (hmarks.alike hs)
  | storedFetched hf' hs =>
    obtain ⟨wr, hw, hmarks⟩ := hlands hf hf' hc rfl
    have hfetched := (htally _ _ rfl).fetched_of_storing rfl
    exact .written rfl (Task.wrote?_of_written rfl hw fun _ => hfetched) ((hmarks.leave ..).alike hs)
  | drop | dropped | dropAll | swept => cases hr
  | aside hc' hb hi hfits hrank hs hq =>
    -- of the calls left a write is the only one, and both of its segments touch its key
    rename_i call _ ph ph' _ _ _ _ _
    cases call with
    | set =>
      cases hf with
      | waiting =>
        obtain ⟨trip, -, ht⟩ := write_spec rfl hstep
        cases congrArg Task.phase ht
        cases hi
      | reading hc => cases hc
      | storing => cases hb
      | announcing hc => rcases hc with ⟨_, hc⟩ | ⟨_, hc⟩ <;> cases hc
      | finished | cancelled => cases hrank
    | get | getOrFetch => cases hc'
    | delete | deletePattern => cases hr
    | _ => cases hu

/-! ## Look-ups -/

namespace Site

/-- What a look-up finds in the local tier, or else in the shared one. -/
def found? (s : Site Store) (key : String) : Option Json :=
  (s.node.lru.live? s.now key).or ((s.store.inner.live? s.now key).bind fun e => (Payload.decode e.data).toOption)

/-- How far a look-up on a calm store has come that began at a site. -/
inductive LooksUp (s : Site Store) (key : String) : Phase → Site Store → Prop where
  | begins {start : Nat} {s' : Site Store} (hnow : s'.now = s.now) (hst : s'.store = s.store)
      (hl : s'.node.lru = s.node.lru) : LooksUp s key (.waiting start) s'
  | asks {s' : Site Store} (hnow : s'.now = s.now) (hst : s'.store = s.store) (hm : s.node.lru.live? s.now key = none) :
    LooksUp s key (.reading key ⟨.get key, s.now, none⟩) s'
  | ends {s' : Site Store} : LooksUp s key (.finished (.value (s.found? key)) s.now) s'

/-- What the shared tier brings is what lives there. -/
theorem valueOf?_of_live? {trip : Trip (Option Bytes)} {reply : Except CacheError (Option Bytes)} (hcalm : s.store.Calm)
    (hr : trip.request = .get key) (hfail : trip.failure = none) (hf : s.finish trip = (reply, s')) :
    valueOf? reply = (s.store.inner.live? s.now key).bind fun e => (Payload.decode e.data).toOption := by
  have hans := finish_of_touches hfail (by rw [hr]; rfl) hcalm.available hf
  rw [hr] at hans
  obtain rfl : Except.ok (s.store.inner.read s.now key).1 = reply := congrArg Prod.fst hans
  rw [Store.read_fst]
  cases s.store.inner.live? s.now key with
  | none => rfl
  | some e =>
    show ((Payload.decode e.data).map some).toOption.join = (Payload.decode e.data).toOption
    cases (Payload.decode e.data : Except CacheError Json) <;> rfl

theorem LooksUp.step {s₀ : Site Store} {short : String} (h : s₀.LooksUp (s.node.fullKey short) t.phase s)
    (hc : t.call = .get short) (hcalm : s.store.Calm) (hconn : s.node.remote.connected = true)
    (hover : t.phase.isOver = false) (hseg : Segment s s' t t') : s₀.LooksUp (s.node.fullKey short) t'.phase s' := by
  obtain ⟨call, ticket, ph, started, fetches, patience⟩ := t
  obtain rfl : call = .get short := hc
  generalize hkey : s.node.fullKey short = key at h ⊢
  cases h with
  | begins hnow hst hl =>
    cases hseg with
    | hitLocal hc' hv hs =>
      rename_i v
      cases hc'
      rw [hkey, hl, hnow] at hv
      have hfound : s₀.found? key = some v := by unfold found?; rw [hv]; rfl
      rw [hnow, ← hfound]
      exact .ends
    | missLocal hc' hv hs ht =>
      cases hc'
      have hcalm₁ := hs.store.symm ▸ (show (s.looked _).store.Calm from hcalm)
      rw [call_calm hcalm₁ (hs.connected.trans hconn)] at ht
      cases ht
      rw [hkey, hl, hnow] at hv
      rw [hkey, hs.now, show (s.looked _).now = s₀.now from hnow]
      exact .asks (hs.now.trans hnow) (hs.store.trans hst) hv
    | aside hc' => cases hc'
  | asks hnow hst hm =>
    -- the store is the one that the look-up began with, so it answers for both tiers
    have hfound : ∀ {reply s₁}, s.finish ⟨.get key, s₀.now, none⟩ = (reply, s₁) → s₀.found? key = valueOf? reply := by
      intro reply s₁ hf
      rw [valueOf?_of_live? hcalm rfl rfl hf, hst, hnow]
      unfold found?
      rw [hm]
      rfl
    cases hseg with
    | hitShared hf hv hs | missGet hf hv hs =>
      rw [hnow, ← hv, ← hfound hf]
      exact .ends
    | aside hc' => cases hc'
  | ends => cases hover

/-- A look-up returns what a key stands for until that is gone. A copy may be returned for the default
time longer, and nothing else is ever returned. -/
def Returned (ttl now : Nat) (r : Option Json) : Option Mark → Prop
  | none => r = none
  | some m => (now < m.gone → r = some m.value) ∧ (m.gone ≤ now → now < m.gone + ttl → r = some m.value ∨ r = none) ∧
      (m.gone + ttl ≤ now → r = none)

theorem Coherent.found? (h : s.Coherent w w key) (hret : ∀ m ∈ w, m.Returns) :
    Returned s.node.defaultTtl s.now (s.found? key) w := by
  -- the store has exactly what the key stands for now
  have hshared : ((s.store.inner.live? s.now key).bind fun e => (Payload.decode e.data).toOption) =
      (w.filter fun m => s.now < m.gone).map Mark.value := by
    rw [h.store.live?]
    cases hm : w.filter fun m => s.now < m.gone with
    | none => rfl
    | some m =>
      have hd : (Payload.decode m.stored.data : Except CacheError Json) = .ok m.value :=
        hret m (Option.filter_eq_some_iff.1 hm).1
      show (Payload.decode m.stored.data : Except CacheError Json).toOption = _
      rw [hd]
      rfl
  -- the local tier may have a copy that outlives it
  have hlocal : ∀ {v}, s.node.lru.live? s.now key = some v →
      ∃ m ∈ w, v = m.value ∧ s.now < m.gone + s.node.defaultTtl := by
    intro v hv
    obtain ⟨e, he, rfl, hlt⟩ := Lru.live?_eq_some_iff.1 hv
    obtain ⟨m, hm, hval, hle⟩ := h.lru e he
    exact ⟨m, hm, hval, Nat.lt_of_lt_of_le hlt hle⟩
  unfold Site.found?
  rw [hshared]
  cases hl : s.node.lru.live? s.now key with
  | some v =>
    obtain ⟨m, rfl, rfl, hlt⟩ := hlocal hl
    exact ⟨fun _ => rfl, fun _ _ => Or.inl rfl, fun hle => absurd hlt (Nat.not_lt.2 hle)⟩
  | none =>
    rw [Option.none_or]
    cases w with
    | none => rfl
    | some m =>
      rw [Option.filter_some]
      by_cases hlt : s.now < m.gone
      · rw [if_pos (decide_eq_true hlt)]
        exact ⟨fun _ => rfl, fun _ _ => Or.inl rfl, fun hle => absurd hle (by omega)⟩
      · rw [if_neg (by simpa using hlt)]
        exact ⟨fun h => absurd h hlt, fun _ _ => Or.inr rfl, fun _ => rfl⟩

end Site

end TwoTier
