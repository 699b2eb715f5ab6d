/-
A call with no other in progress. The schedule lets it go on while it is ready, drops it when its
caller has lost patience, and otherwise lets the clock come to the next instant at which either is
the case, until the call is over.
-/
import TwoTier.Proofs.Schedule.Completion

namespace TwoTier.Cluster

variable {σ : Type} {c c' : Cluster σ} {i : Nat} {t : Task} {n : Node}

/-- The cluster with a call that is about to begin, and no other. -/
def begin (c : Cluster σ) (i : Nat) (call : Call) (patience : Option Nat) : Cluster σ :=
  { c with jobs := [⟨i, { call, ticket := 0, phase := .waiting c.now, patience }⟩] }

theorem begin_sound {call : Call} {patience : Option Nat} (hn : c.nodes[i]? = some n) :
    (c.begin i call patience).Sound := by
  have hjob : ∀ {k node : Nat} {t : Task}, (c.begin i call patience).jobs[k]? = some ⟨node, t⟩ →
      k = 0 ∧ node = i ∧ t = { call, ticket := 0, phase := .waiting c.now, patience } := by
    intro k node t hj
    cases k with
    | zero => cases hj; exact ⟨rfl, rfl, rfl⟩
    | succ k => cases hj
  constructor
  · intro k node t hj
    obtain ⟨rfl, -, rfl⟩ := hjob hj
    rfl
  · intro k node t hj
    obtain ⟨-, rfl, rfl⟩ := hjob hj
    exact ⟨n, hn, .waiting⟩

theorem Deserted.orderly_begin (hd : c.Deserted) (i : Nat) (call : Call) (patience : Option Nat) :
    (c.begin i call patience).Orderly :=
  Orderly.call (c := { c with jobs := [] }) (orderly_of_deserted rfl hd) i 0 c.now call patience

/-- A call that has no other before it never waits for anything but the clock. -/
theorem due_of_not_ready (hs : c.Sound) (ho : c.Orderly) (hj : c.jobs = [⟨i, t⟩]) (hn : c.nodes[i]? = some n)
    (hr : t.isReady c.now n = false) (hover : t.phase.isOver = false) :
    ∃ due, t.phase.due? = some due ∧ c.now < due := by
  have hj0 : c.jobs[0]? = some ⟨i, t⟩ := by rw [hj]; rfl
  have hclock : ∀ due, t.phase.due? = some due → ∃ due, t.phase.due? = some due ∧ c.now < due := fun due hd =>
    ⟨due, hd, Nat.lt_of_not_le fun hle => Bool.eq_false_iff.1 hr (Task.isReady_of_due hd hle)⟩
  cases hp : t.phase with
  | queued key =>
    have hf := hs.fits_node hj0 hn
    rw [hp] at hf
    have hline : t.inLine? n.coalesce = some key := by
      unfold Task.inLine?
      generalize t.call = call at hf ⊢
      cases hf with
      | queued hco => rw [hco, hp]; rfl
    -- somebody has the turn at the lock, and there is nobody else
    obtain ⟨a, ha, hturn⟩ := (ho.standing hn).exists_turn ((lineAt_of_job hj0 _).trans hline)
    have ha0 : a = 0 := by
      cases a with
      | zero => rfl
      | succ a => unfold lineAt at ha; rw [hj] at ha; cases ha
    unfold Task.isReady at hr
    rw [hp, hs.ticket hj0, ← ha0] at hr
    rw [hturn] at hr
    cases hr
  | finished => rw [hp] at hover; cases hover
  | cancelled => rw [hp] at hover; cases hover
  | _ => rw [← hp]; exact hclock _ (by rw [hp]; rfl)

/-- A patient caller never drops its call. -/
theorem dropsAt?_of_patient (h : t.patience = none) : t.dropsAt? = none := by
  unfold Task.dropsAt?
  rw [h]
  split
  · rfl
  · split <;> rfl

/-- What a turn makes of a cluster with one call. -/
inductive SoloTurn [Backend σ] (i : Nat) (n : Node) (t : Task) (c : Cluster σ) : Task → Cluster σ → Prop where
  | goesOn {t' : Task} {s' : Site σ} (hr : t.isReady c.now n = true) (hs : Segment (c.siteOf n) s' t t')
      (hstep : t.step (c.siteOf n) = (t', s')) :
    SoloTurn i n t c t' (c.after 0 i t' s')
  | dropped {due : Nat} (hw : t.phase.due? = some due) (hlt : c.now < due) (hp : t.patience.isSome) :
    SoloTurn i n t c { t with phase := .cancelled c.now }
      (c.after 0 i { t with phase := .cancelled c.now } (c.siteOf (t.released n)))
  | sleeps {due d : Nat} (hw : t.phase.due? = some due) (hlt : c.now < due) (hd : d ≤ due)
      (hp : t.patience = none → d = due) :
    SoloTurn i n t c t (c.advance d)

variable [Backend σ]

theorem Turn.solo (h : Turn c c') (hs : c.Sound) (ho : c.Orderly) (hj : c.jobs = [⟨i, t⟩]) (hn : c.nodes[i]? = some n) :
    ∃ t', SoloTurn i n t c t' c' ∧ c'.jobs = [⟨i, t'⟩] := by
  -- there is one call, so every turn is its own
  have hzero : ∀ {k : Nat} {p : Job → Bool}, c.jobs[k]?.any p = true → k = 0 := by
    intro k p hp
    cases k with
    | zero => rfl
    | succ k => rw [hj] at hp; cases hp
  have hj0 : c.jobs[0]? = some ⟨i, t⟩ := by rw [hj]; rfl
  have hset : ∀ t' s', (c.after 0 i t' s').jobs = [⟨i, t'⟩] := fun t' s' => by
    show c.jobs.set 0 ⟨i, t'⟩ = _
    rw [hj]
    rfl
  cases h with
  | resume hr =>
    obtain rfl := hzero hr
    have hf := hs.fits_node hj0 hn
    rcases hstep : t.step (c.siteOf n) with ⟨t', s'⟩
    have hm : c.move (.resume 0) = c.after 0 i t' s' := by rw [move, if_pos hr, onJob_eq hj0 hn, hstep]
    rw [hm]
    rw [hj0, Option.any_some, isReady, hn] at hr
    exact ⟨t', .goesOn hr (segment_step hf (isReady_not_over hr) hstep) hstep, hset ..⟩
  | cancel hd hr =>
    obtain rfl := hzero hd
    obtain ⟨node, u, n', hju, hnu, hdu, hm⟩ := move_cancel hs hd
    rw [hj0] at hju
    cases hju
    rw [hn] at hnu
    cases hnu
    rw [hm]
    rw [hj0, Option.any_some, isReady, hn] at hr
    obtain ⟨due, hdue, hlt⟩ := due_of_not_ready hs ho hj hn hr (isDropped_not_over hdu)
    refine ⟨_, .dropped hdue hlt ?_, hset ..⟩
    unfold isDropped at hdu
    cases hp : t.patience with
    | some p => rfl
    | none => rw [dropsAt?_of_patient hp] at hdu; cases hdu
  | advance hq hw =>
    rename_i d
    obtain ⟨hr, -⟩ := hq ⟨i, t⟩ (by rw [hj]; exact List.mem_singleton_self _)
    rw [isReady, hn] at hr
    -- the next instant at which anything happens is that of the one call
    have hwake : t.wakes? = some d := by
      unfold nextWake? at hw
      rw [hj] at hw
      cases hwk : t.wakes? with
      | none => simp [hwk] at hw
      | some e =>
        simp only [List.filterMap_cons, hwk, List.filterMap_nil] at hw
        exact hw
    have hover : t.phase.isOver = false := by
      cases hp : t.phase <;> first | rfl | (unfold Task.wakes? Task.dropsAt? at hwake; rw [hp] at hwake; cases hwake)
    obtain ⟨due, hdue, hlt⟩ := due_of_not_ready hs ho hj hn hr hover
    unfold Task.wakes? at hwake
    rw [hdue] at hwake
    -- which is when it is due, or when its caller loses patience if that comes first
    have hle : d ≤ due ∧ (t.patience = none → d = due) := by
      cases hdr : t.dropsAt? with
      | none => rw [hdr] at hwake; cases hwake; exact ⟨Nat.le_refl _, fun _ => rfl⟩
      | some e =>
        rw [hdr] at hwake
        cases hwake
        refine ⟨Nat.min_le_left .., fun hp => ?_⟩
        rw [dropsAt?_of_patient hp] at hdr
        cases hdr
    exact ⟨t, .sleeps hdue hlt hle.1 hle.2, (advance_spec c d).1.jobs.trans hj⟩

/-- What every turn of the one call keeps holds until it is over. -/
theorem Turns.solo_induct {P : Task → Cluster σ → Prop} (hT : Turns c c') (hs : c.Sound) (ho : c.Orderly)
    (hj : c.jobs = [⟨i, t⟩]) (h : P t c) (hstep : ∀ {t t' : Task} {n : Node} {c c' : Cluster σ}, c.jobs = [⟨i, t⟩] →
      c.nodes[i]? = some n → t.phase.Fits n t.call → P t c → SoloTurn i n t c t' c' → P t' c') :
    ∃ t', c'.jobs = [⟨i, t'⟩] ∧ P t' c' := by
  induction hT with
  | refl => exact ⟨t, hj, h⟩
  | tail hT hturn ih =>
    obtain ⟨u, hju, hu⟩ := ih
    have hs' := Turns.sound hT hs
    have ho' := (Turns.reaches hT).orderly hs ho
    have hj0 : ∀ {b : Cluster σ}, b.jobs = [⟨i, u⟩] → b.jobs[0]? = some ⟨i, u⟩ := fun hb => by rw [hb]; rfl
    obtain ⟨n, hn, hf⟩ := hs'.fits (hj0 hju)
    obtain ⟨u', hsolo, hju'⟩ := hturn.solo hs' ho' hju hn
    exact ⟨u', hju', hstep hju hn hf hu hsolo⟩

/-- A request is the one call, driven on. -/
theorem request_eq (hn : c.nodes[i]? = some n) (call : Call) (patience : Option Nat) :
    c.request i call patience =
      ((((c.begin i call patience).drive ((c.begin i call patience).totalRank + 1)).jobs.map Job.task).head?,
        { (c.begin i call patience).drive ((c.begin i call patience).totalRank + 1) with jobs := [] }) := by
  have hm : ([Move.call i c.now patience call].foldl move { c with jobs := [] }) = c.begin i call patience := by
    rw [List.foldl_cons, List.foldl_nil, move_call (c := { c with jobs := [] }) hn]
    rfl
  unfold request perform
  simp only [List.map_cons, List.map_nil, Option.elim_none]
  rw [hm]

/-- It comes to its end. -/
theorem request_spec (hd : c.Deserted) (hn : c.nodes[i]? = some n) (call : Call) (patience : Option Nat) :
    ∃ t c', c.request i call patience = (some t, { c' with jobs := [] }) ∧ Turns (c.begin i call patience) c' ∧
      c'.jobs = [⟨i, t⟩] ∧ t.phase.isOver = true := by
  have hs : (c.begin i call patience).Sound := begin_sound hn
  have ho := hd.orderly_begin i call patience
  obtain ⟨b, hb⟩ : ∃ b, b = c.begin i call patience := ⟨_, rfl⟩
  rw [← hb] at hs ho ⊢
  have hturns : Turns b (b.drive (b.totalRank + 1)) := turns_drive hs _
  obtain ⟨t, hjobs, -⟩ := hturns.solo_induct (P := fun _ _ => True) hs ho (by rw [hb]; rfl) trivial
    fun _ _ _ _ _ => trivial
  refine ⟨t, _, ?_, hturns, hjobs, drive_completes hs ho ⟨i, t⟩ (by rw [hjobs]; exact List.mem_singleton_self _)⟩
  have hreq := request_eq hn call patience
  rw [← hb] at hreq
  rw [hreq, hjobs]
  rfl

/-- What holds of a call before it begins and is kept by every turn holds of it at its end. -/
theorem request_induct {P : Task → Cluster σ → Prop} (hd : c.Deserted) (hn : c.nodes[i]? = some n) (call : Call)
    (patience : Option Nat)
    (h : P { call, ticket := 0, phase := .waiting c.now, patience } (c.begin i call patience))
    (hstep : ∀ {t t' : Task} {n : Node} {c c' : Cluster σ}, c.jobs = [⟨i, t⟩] → c.nodes[i]? = some n →
      t.phase.Fits n t.call → P t c → SoloTurn i n t c t' c' → P t' c') :
    ∃ t c', c.request i call patience = (some t, { c' with jobs := [] }) ∧ t.phase.isOver = true ∧ P t c' := by
  obtain ⟨t, c', hreq, hT, hj, hover⟩ := request_spec hd hn call patience
  obtain ⟨t', hj', hP⟩ := hT.solo_induct (begin_sound hn) (hd.orderly_begin ..) rfl h hstep
  rw [hj] at hj'
  cases hj'
  exact ⟨t, c', hreq, hover, hP⟩

omit [Backend σ] in
theorem line?_of_over {ph : Phase} (h : ph.isOver = true) : ph.line? = none := by
  cases ph <;> first | rfl | cases h

omit [Backend σ] in
/-- When all calls are over, nobody stands in line anywhere. -/
theorem Orderly.deserted (ho : c.Orderly) (h : ∀ job ∈ c.jobs, job.task.phase.isOver = true) : c.Deserted := by
  intro n hn
  obtain ⟨i, hi, rfl⟩ := List.getElem_of_mem hn
  refine (ho.standing (List.getElem?_eq_getElem hi)).empty fun k => ?_
  unfold lineAt
  split
  · rename_i job hj
    split
    · exact Task.inLine?_of_line? (line?_of_over (h job (List.mem_of_getElem? hj))) _
    · rfl
  · rfl

/-- A request leaves nobody in line. -/
theorem request_deserted (hd : c.Deserted) (hn : c.nodes[i]? = some n) (call : Call) (patience : Option Nat) :
    (c.request i call patience).2.Deserted := by
  obtain ⟨t, c', hreq, hT, hj, hover⟩ := request_spec hd hn call patience
  have ho : c'.Orderly := (Turns.reaches hT).orderly (begin_sound hn) (hd.orderly_begin ..)
  rw [hreq]
  refine ho.deserted fun job hjob => ?_
  rw [hj, List.mem_singleton] at hjob
  rw [hjob]
  exact hover

omit [Backend σ] in
theorem over_cases {ph : Phase} (h : ph.isOver = true) :
    (∃ reply ended, ph = .finished reply ended) ∨ ∃ ended, ph = .cancelled ended := by
  cases ph <;> first | exact Or.inl ⟨_, _, rfl⟩ | exact Or.inr ⟨_, rfl⟩ | cases h

/-- A request of a caller that never loses patience is answered. -/
theorem request_answered (hd : c.Deserted) (hn : c.nodes[i]? = some n) (call : Call) :
    ∃ t reply ended, (c.request i call none).1 = some t ∧ t.phase = .finished reply ended := by
  obtain ⟨t, c', hreq, hover, -, hnot⟩ := request_induct
    (P := fun t _ => t.patience = none ∧ ∀ ended, t.phase ≠ .cancelled ended) hd hn call none ⟨rfl, nofun⟩ <| by
      intro t t' n c c' _ _ _ h hsolo
      cases hsolo with
      | goesOn hr hs => exact ⟨hs.same.2.2.trans h.1, hs.not_cancelled⟩
      | dropped hw hlt hp => rw [h.1] at hp; cases hp
      | sleeps => exact h
  rcases over_cases hover with ⟨reply, ended, hp⟩ | ⟨ended, hp⟩
  · exact ⟨t, reply, ended, by rw [hreq], hp⟩
  · exact absurd hp (hnot ended)

end TwoTier.Cluster
