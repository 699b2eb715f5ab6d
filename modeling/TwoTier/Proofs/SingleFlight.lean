/-
One fetch at a time. At an instance that lets its callers wait for each other, whatever the callers
ask, however long fetches and trips take, however they end and whoever is dropped: no two fetches for
a key run at once, no call fetches twice or answers anything but what it fetched or found, who waited
while a value was fetched finds it, and nothing is left behind.
-/
import TwoTier.Proofs.Cluster.Tally
import TwoTier.Proofs.Schedule.Solo
import TwoTier.Store

namespace TwoTier

variable {σ : Type} [Backend σ]

namespace Cluster

variable {c c' : Cluster σ}

/-! ## No two fetches for a key -/

/-- No two calls of an instance run their fetches for one key. -/
def FetchesAlone (c : Cluster σ) (i : Nat) : Prop :=
  ∀ {a b : Nat} {ta tb : Task} {key : String} {da db : Nat}, c.jobs[a]? = some ⟨i, ta⟩ → c.jobs[b]? = some ⟨i, tb⟩ →
    ta.phase = .fetching key da → tb.phase = .fetching key db → a = b

omit [Backend σ] in
/-- A call that fetches stands in line for its key and has the turn. -/
theorem fetching_inLine {i k : Nat} {n : Node} {t : Task} {key : String} {due : Nat} (hs : c.Sound)
    (hco : n.coalesce = true) (hj : c.jobs[k]? = some ⟨i, t⟩)
    (hp : t.phase = .fetching key due) : t.inLine? n.coalesce = some key ∧ t.holds n.coalesce = true := by
  obtain ⟨n', hn', hf⟩ := hs.fits hj
  have hline : t.inLine? n.coalesce = some key := by
    rw [hco]
    unfold Task.inLine?
    rw [hp] at hf
    generalize hc : t.call = call at hf
    cases hf
    rw [hp]
    rfl
  refine ⟨hline, ?_⟩
  unfold Task.holds
  rw [hline, hp]
  rfl

omit [Backend σ] in
theorem Orderly.fetchesAlone {i : Nat} {n : Node} (ho : c.Orderly) (hs : c.Sound) (hn : c.nodes[i]? = some n)
    (hco : n.coalesce = true) : c.FetchesAlone i := by
  intro a b ta tb key da db ha hb hpa hpb
  obtain ⟨hla, hta⟩ := fetching_inLine hs hco ha hpa
  obtain ⟨hlb, htb⟩ := fetching_inLine hs hco hb hpb
  exact (ho.standing hn).turn_unique ((lineAt_of_job ha _).trans hla) ((lineAt_of_job hb _).trans hlb)
    (ho.turns hn ha hta) (ho.turns hn hb htb)

/-! ## Answers -/

/-- Calls fetch at most once. One that has fetched answers what it fetched, any other one a value it
has found. -/
def AnswersFetch (c : Cluster σ) (i : Nat) : Prop :=
  ∀ {k : Nat} {t : Task} {key : String} {f : Fetch}, c.jobs[k]? = some ⟨i, t⟩ → t.call = .getOrFetch key f →
    t.fetches ≤ 1 ∧ ∀ reply ended, t.phase = .finished reply ended →
      (t.fetches = 1 ∧ reply = .fetched f.outcome) ∨ (t.fetches = 0 ∧ ∃ v, reply = .fetched (.ok (some v)))

omit [Backend σ] in
theorem Tallied.answersFetch (h : c.Tallied) (i : Nat) : c.AnswersFetch i := by
  intro k t key f hj hc
  have ht := h hj hc
  refine ⟨ht.le_one, fun reply ended hp => ?_⟩
  unfold Task.Tally at ht
  rw [hp] at ht
  exact ht

/-! ## Who waits is served -/

/-- As long as a call waits for a key, the local tier of its instance holds a live value of the key. -/
def StaysLive (c : Cluster σ) (i k : Nat) (key : String) (later : List Move) : Prop :=
  ∀ sofar, sofar <+: later → ∀ t, (c.run sofar).jobs[k]? = some ⟨i, t⟩ → t.phase = .queued key →
    ∃ n, (c.run sofar).nodes[i]? = some n ∧ (n.lru.live? (c.run sofar).now key).isSome

/-- When a fetch has brought a value, the local tier holds it; and a call that waits for the key is
served from the local tier without a fetch, if it is not dropped and the tier goes on holding a live
value of the key until the call proceeds. -/
def ServesWaiters (c : Cluster σ) (i : Nat) : Prop :=
  ∀ {a : Nat} {ta : Task} {short key : String} {f : Fetch} {due : Nat} {v : Json}, c.jobs[a]? = some ⟨i, ta⟩ →
    ta.call = .getOrFetch short f → ta.phase = .fetching key due → f.outcome = .ok (some v) → due ≤ c.now →
    (∃ n, (c.move (.resume a)).nodes[i]? = some n ∧ n.lru.live? (c.move (.resume a)).now key = some v) ∧
    ∀ {k : Nat} {t : Task}, c.jobs[k]? = some ⟨i, t⟩ → t.phase = .queued key →
      ∀ later, (c.move (.resume a)).StaysLive i k key later →
        ∃ t', ((c.move (.resume a)).run later).jobs[k]? = some ⟨i, t'⟩ ∧
          (t'.phase = .queued key ∨ (∃ ended, t'.phase = .cancelled ended) ∨
            (t'.fetches = 0 ∧ ∃ u ended, t'.phase = .finished (.fetched (.ok (some u))) ended))

theorem move_fetched {i a : Nat} {ta : Task} {short key : String} {f : Fetch} {due : Nat} {v : Json} (hs : c.Sound)
    (hj : c.jobs[a]? = some ⟨i, ta⟩) (hc : ta.call = .getOrFetch short f) (hp : ta.phase = .fetching key due)
    (hv : f.outcome = .ok (some v)) (hd : due ≤ c.now) :
    ∃ n, (c.move (.resume a)).nodes[i]? = some n ∧ n.lru.live? (c.move (.resume a)).now key = some v := by
  obtain ⟨n, hn, hf⟩ := hs.fits hj
  have hr : c.jobs[a]?.any c.isReady = true := by
    rw [hj, Option.any_some, isReady, hn]
    show ta.isReady c.now n = true
    unfold Task.isReady
    rw [hp]
    exact decide_eq_true hd
  obtain ⟨node, u, n', u', s', hju, hnu, -, hseg, hm⟩ := move_resume hs hr
  rw [hj] at hju
  cases hju
  rw [hn] at hnu
  cases hnu
  rw [hm]
  refine ⟨s'.node, List.getElem?_set_self (List.getElem?_eq_some_iff.1 hn).1, ?_⟩
  show s'.node.lru.live? s'.now key = some v
  obtain ⟨call, k, ph, b, m, p⟩ := ta
  cases hc
  cases hp
  cases hseg with
  | fetched ho hw hs₁ ht =>
    obtain ⟨-, -, hset⟩ := Site.call_spec ht
    rw [hv] at ho
    cases ho
    rw [hset.node, hset.now, hs₁.lru, hs₁.now]
    subst hw
    exact Lru.live?_set_default ..
  | unfetched ho hs => exact absurd hv (ho v)
  | aside hr => cases hr

/-- A call that waits for a key is served when it proceeds while the key is live. -/
theorem waiter_served {i k : Nat} {t : Task} {key : String} (hs : c.Sound) (ht : c.Tallied)
    (hj : c.jobs[k]? = some ⟨i, t⟩) (hq : t.phase = .queued key) (later : List Move)
    (hlive : c.StaysLive i k key later) :
    ∃ t', (c.run later).jobs[k]? = some ⟨i, t'⟩ ∧
      (t'.phase = .queued key ∨ (∃ ended, t'.phase = .cancelled ended) ∨
        (t'.fetches = 0 ∧ ∃ u ended, t'.phase = .finished (.fetched (.ok (some u))) ended)) := by
  induction later generalizing c t with
  | nil => exact ⟨t, hj, Or.inl hq⟩
  | cons m later ih =>
    have hm := step_move hs m
    have hs' := hm.sound hs
    obtain ⟨t', hj', rfl | ⟨n, s', hn, -, hseg⟩ | ⟨-, rfl⟩⟩ := hm.job hj
    · refine ih hs' (ht.step hm) hj' hq fun sofar hpre => ?_
      exact hlive (m :: sofar) ((List.prefix_cons_inj m).2 hpre)
    · -- the call has proceeded, and found the key live
      obtain ⟨n', hn', hl⟩ := hlive [] (List.nil_prefix) t hj hq
      change c.nodes[i]? = some n' at hn'
      rw [hn] at hn'
      cases hn'
      obtain ⟨call, ticket, ph, b, m₀, p⟩ := t
      cases hq
      cases hseg with
      | rehitLocal hv hs₁ => exact ⟨_, run_over hs' hj' rfl later, Or.inr (Or.inr ⟨ht hj rfl, _, _, rfl⟩)⟩
      | remissLocal hv hs₁ =>
        change n.lru.live? c.now key = none at hv
        change (n.lru.live? c.now key).isSome at hl
        rw [hv] at hl
        cases hl
      | aside hr hb => cases hb
    · exact ⟨_, run_over hs' hj' rfl later, Or.inr (Or.inl ⟨_, rfl⟩)⟩

theorem Tallied.servesWaiters (ht : c.Tallied) (hs : c.Sound) (i : Nat) : c.ServesWaiters i := by
  intro a ta short key f due v hj hc hp hv hd
  refine ⟨move_fetched hs hj hc hp hv hd, fun {k t} hk hq later hlive => ?_⟩
  have hm := step_move hs (.resume a)
  -- who waits is not the one that fetches, so it still waits
  have hne : a ≠ k := by
    rintro rfl
    rw [hj] at hk
    cases hk
    rw [hp] at hq
    cases hq
  have hk' : (c.move (.resume a)).jobs[k]? = some ⟨i, t⟩ := by
    rw [move]
    split
    · obtain ⟨n, hn, -⟩ := hs.fits hj
      rw [onJob_eq hj hn]
      exact (List.getElem?_set_ne hne).trans hk
    · exact hk
  exact waiter_served (hm.sound hs) (ht.step hm) hk' hq later hlive

/-! ## Nothing is left behind -/

/-- Once all calls are over, no key has a lock and no caller a handle, and another call for any key
comes to its end with an answer. -/
def LeavesNothing (c : Cluster σ) (i : Nat) : Prop :=
  (∀ job ∈ c.jobs, job.task.phase.isOver = true) →
    (∀ n, c.nodes[i]? = some n → n.flights.table = [] ∧ n.flights.handles = []) ∧
    ∀ key f, ∃ t reply ended, (c.request i (.getOrFetch key f) none).1 = some t ∧ t.phase = .finished reply ended

/-- The fair order, which is one of the orders there are, brings all calls to their ends. -/
def Completes (c : Cluster σ) : Prop :=
  ∃ later, c.drive (c.totalRank + 1) = c.run later ∧ ∀ job ∈ (c.run later).jobs, job.task.phase.isOver = true

theorem Orderly.leavesNothing (ho : c.Orderly) {i : Nat} {n : Node} (hn : c.nodes[i]? = some n) :
    c.LeavesNothing i := by
  intro hover
  have hd := ho.deserted hover
  exact ⟨fun n' hn' => hd n' (List.mem_of_getElem? hn'), fun key f => request_answered hd hn _⟩

theorem Orderly.completes (ho : c.Orderly) (hs : c.Sound) : c.Completes := by
  obtain ⟨later, hl⟩ := (turns_drive hs (c.totalRank + 1)).reaches
  exact ⟨later, hl, hl ▸ drive_completes hs ho⟩

/-! ## The theorem -/

/-- Whatever happens to an instance that lets its callers wait for each other, and to the instances
and the store around it: no two fetches for a key run at once, every call fetches at most once and
answers accordingly, who waits while a value is fetched is served without a fetch, and when all calls
are over, which a fair order brings about, nothing is left behind. -/
theorem single_flight (c : Cluster σ) (hj : c.jobs = []) (hd : c.Deserted) {i : Nat} {n : Node}
    (hn : c.nodes[i]? = some n) (hco : n.coalesce = true) (moves : List Move) :
    (c.run moves).FetchesAlone i ∧ (c.run moves).AnswersFetch i ∧ (c.run moves).ServesWaiters i ∧
      (c.run moves).LeavesNothing i ∧ (c.run moves).Completes := by
  have hs := sound_of_no_jobs hj
  obtain ⟨hs', ho, ht⟩ := run_induct (P := fun c => c.Orderly ∧ c.Tallied) hs
    ⟨orderly_of_deserted hj hd, fun hk => by rw [hj] at hk; cases hk⟩
    (fun hs h hm => ⟨h.1.step hs hm, Tallied.step h.2 hm⟩) moves
  obtain ⟨n', hn', hf⟩ := node_of_frames (run_frames hs moves) hn
  exact ⟨ho.fetchesAlone hs' hn' ((Node.coalesce_of_frame hf).trans hco), ht.answersFetch i, ht.servesWaiters hs' i,
    ho.leavesNothing hn', ho.completes hs'⟩

/-- Two callers of an instance made from settings, for one key. -/
theorem single_flight_of_two : ∃ n, Node.make "a" { coalesceFetches := true } = .ok n ∧
    let c : Cluster Store := { store := { inner := {} }, nodes := [n] }
    let fetch : Fetch := { delay := some (millis 5), outcome := .ok (some .null) }
    let moves : List Move := [.call 0 0 none (.getOrFetch "k" fetch), .call 0 0 none (.getOrFetch "k" fetch), .resume 0,
      .resume 1, .resume 0, .resume 1, .resume 0, .resume 0]
    (c.run moves).FetchesAlone 0 ∧ (c.run moves).AnswersFetch 0 ∧ (c.run moves).ServesWaiters 0 ∧
      (c.run moves).LeavesNothing 0 ∧ (c.run moves).Completes := by
  refine ⟨_, rfl, single_flight _ rfl ?_ rfl rfl _⟩
  intro n hn
  cases hn with
  | head => exact ⟨rfl, rfl⟩
  | tail _ h => cases h

end Cluster

end TwoTier
