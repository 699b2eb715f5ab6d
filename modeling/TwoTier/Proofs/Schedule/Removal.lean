/-
Removals on a calm store take no time. Made as a request, or visited among other calls, a removal goes
through all its stages at one instant: both tiers have lost what it names, its caller is answered, and
the other instances are told.
-/
import TwoTier.Proofs.Call.Removal
import TwoTier.Proofs.Schedule.Solo

namespace TwoTier

namespace Cluster

variable {σ : Type} [Backend σ] {c c' : Cluster σ} {i k : Nat} {t t' : Task} {n : Node}

/-! ## A visit to a patient caller -/

theorem goOn_induct {P : Task → Cluster σ → Prop} (hs : c.Sound) (hj : c.jobs[k]? = some ⟨i, t⟩) (h : P t c)
    (hstep : ∀ {c : Cluster σ} {t t' : Task} {n : Node} {s' : Site σ}, c.Sound → c.jobs[k]? = some ⟨i, t⟩ →
      c.nodes[i]? = some n → t.phase.isOver = false → P t c → t.step (c.siteOf n) = (t', s') → P t' (c.after k i t' s'))
    (fuel : Nat) : ∃ t', (c.goOn k fuel).jobs[k]? = some ⟨i, t'⟩ ∧ P t' (c.goOn k fuel) := by
  induction fuel generalizing c t with
  | zero => exact ⟨t, hj, h⟩
  | succ fuel ih =>
    unfold goOn
    split
    · rename_i hr
      obtain ⟨n, hn, -⟩ := hs.fits hj
      have hover : t.phase.isOver = false := by
        rw [hj, Option.any_some, isReady, hn] at hr
        exact isReady_not_over hr
      rcases ht : t.step (c.siteOf n) with ⟨t', s'⟩
      have hm : c.move (.resume k) = c.after k i t' s' := by rw [move, if_pos hr, onJob_eq hj hn, ht]
      have hs' := (step_move hs (.resume k)).sound hs
      rw [hm] at hs' ⊢
      exact ih hs' (after_job hj) (hstep hs hj hn hover h ht)
    · exact ⟨t, hj, h⟩

omit [Backend σ] in
theorem isDropped_of_patient (h : t.patience = none) : c.isDropped ⟨i, t⟩ = false := by
  unfold isDropped
  rw [dropsAt?_of_patient h]
  rfl

/-- What every segment of a patient call keeps holds after a visit, when the call is not ready. -/
theorem visit_induct {P : Task → Cluster σ → Prop} (hs : c.Sound) (hj : c.jobs[k]? = some ⟨i, t⟩)
    (hp : t.patience = none) (h : P t c)
    (hstep : ∀ {c : Cluster σ} {t t' : Task} {n : Node} {s' : Site σ}, c.Sound → c.jobs[k]? = some ⟨i, t⟩ →
      c.nodes[i]? = some n → t.phase.isOver = false → P t c → t.step (c.siteOf n) = (t', s') →
        P t' (c.after k i t' s')) :
    ∃ t', (c.visit k).jobs[k]? = some ⟨i, t'⟩ ∧ P t' (c.visit k) ∧ (c.visit k).isReady ⟨i, t'⟩ = false := by
  obtain ⟨t', hj', h', hp'⟩ := goOn_induct (P := fun t c => P t c ∧ t.patience = none) hs hj ⟨h, hp⟩
    (fun hs hj hn hover ⟨h, hp⟩ ht => by
      have hf := hs.fits_node hj hn
      exact ⟨hstep hs hj hn hover h ht, (segment_step hf hover ht).same.2.2.trans hp⟩) (c.rankAt k)
  -- a patient caller drops nothing, so the visit ends when the call is not ready
  have hv : c.visit k = c.goOn k (c.rankAt k) := by
    show (if (c.goOn k (c.rankAt k)).jobs[k]?.any (c.goOn k (c.rankAt k)).isDropped then _ else _) = _
    rw [hj', Option.any_some, isDropped_of_patient hp']
    rfl
  have hready := goOn_not_ready hs (Nat.le_refl (c.rankAt k))
  rw [hj', Option.any_some] at hready
  rw [hv]
  exact ⟨t', hj', h', hready⟩

end Cluster

/-! ## Removals -/

/-- A removal that an instance of a cluster has under way, while the others stay as they are. -/
structure Removal.Under (r : Removal) (others : Nat → Option Node) (i : Nat) (t : Task) (c : Cluster Store) : Prop where
  patience : t.patience = none
  call : t.call.removal? r.node = some r.body
  node : ∃ n, c.nodes[i]? = some n ∧ r.At (c.siteOf n) ∧ r.Stage t.phase n.lru c.store.inner
  others : ∀ j, j ≠ i → c.nodes[j]? = others j

namespace Removal.Under

variable {r : Removal} {others : Nat → Option Node} {c c' : Cluster Store} {i k : Nat} {t t' : Task} {n : Node}

theorem after {s' : Site Store} (h : r.Under others i t c) (hn : c.nodes[i]? = some n) (hf : t.phase.Fits n t.call)
    (hover : t.phase.isOver = false) (hstep : t.step (c.siteOf n) = (t', s')) :
    r.Under others i t' (c.after k i t' s') := by
  obtain ⟨hp, hcall, ⟨n₁, hn₁, hat, hstage⟩, hother⟩ := h
  rw [hn] at hn₁
  cases hn₁
  obtain ⟨hat', hstage'⟩ := Stage.step (s := c.siteOf n) hstage hat hcall hover hstep
  have hsame := (segment_step (s := c.siteOf n) hf hover hstep).same
  refine ⟨hsame.2.2.trans hp, hsame.1 ▸ hcall, ⟨s'.node, Cluster.after_node hn, ?_, hstage'⟩,
    fun j hj => (List.getElem?_set_ne hj.symm).trans (hother j hj)⟩
  exact ⟨hat'.now, hat'.frame, hat'.connected, hat'.calm⟩

theorem turn (h : r.Under others i t c) (hn : c.nodes[i]? = some n) (hf : t.phase.Fits n t.call)
    (hturn : Cluster.SoloTurn i n t c t' c') : r.Under others i t' c' := by
  cases hturn with
  | goesOn hr hs hstep => exact h.after hn hf (Cluster.isReady_not_over hr) hstep
  | dropped hw hlt hp => rw [h.patience] at hp; cases hp
  | sleeps hw hlt =>
    obtain ⟨n₁, hn₁, hat, hstage⟩ := h.node
    have hle := hstage.due_le hw
    have hnow : c.now = r.now := hat.now
    omega

/-- It has come to its end. -/
theorem finished (h : r.Under others i t c) (hover : t.phase.isOver = true) :
    t.phase = .finished r.reply r.now ∧ c.now = r.now ∧ c.store.Calm ∧ c.store.inner = r.announced ∧
      ∃ n, c.nodes[i]? = some n ∧ n.lru = r.inLocal ∧ n.frame = r.node.frame ∧ n.remote.connected = true := by
  obtain ⟨n, hn, hat, hstage⟩ := h.node
  have hend : t.phase = .finished r.reply r.now ∧ n.lru = r.inLocal ∧ c.store.inner = r.announced := by
    generalize t.phase = ph at hover hstage
    generalize hl : n.lru = l at hstage
    generalize hst : c.store.inner = st at hstage
    cases hstage with
    | finished => exact ⟨rfl, rfl, rfl⟩
    | _ => cases hover
  exact ⟨hend.1, hat.now, hat.calm, hend.2.2, n, hn, hend.2.1, hat.frame, hat.connected⟩

end Removal.Under

namespace Cluster

variable {c : Cluster Store} {i k : Nat} {n : Node} {call : Call} {body : Invalidation}

theorem under_begin (hn : c.nodes[i]? = some n) (hconn : n.remote.connected = true) (hcalm : c.store.Calm)
    (hcall : call.removal? n = some body) (ticket : Nat) (jobs : List Job) :
    (⟨n, c.store.inner, c.now, body⟩ : Removal).Under (c.nodes[·]?) i { call, ticket, phase := .waiting c.now }
      { c with jobs } :=
  ⟨rfl, hcall, ⟨n, hn, ⟨rfl, rfl, hconn, hcalm⟩, .waiting (Nat.le_refl _)⟩, fun _ _ => rfl⟩

/-- A removal requested of an instance on a calm store. -/
theorem request_removal (hd : c.Deserted) (hn : c.nodes[i]? = some n) (hconn : n.remote.connected = true)
    (hcalm : c.store.Calm) (hcall : call.removal? n = some body) :
    ∃ t c', c.request i call none = (some t, c') ∧ t.phase.isOver = true ∧
      (⟨n, c.store.inner, c.now, body⟩ : Removal).Under (c.nodes[·]?) i t c' := by
  obtain ⟨t, c', hreq, hover, hu⟩ := request_induct
    (P := (⟨n, c.store.inner, c.now, body⟩ : Removal).Under (c.nodes[·]?) i) hd hn call none
    (under_begin hn hconn hcalm hcall 0 _) fun _ hn hf h hs => h.turn hn hf hs
  exact ⟨t, _, hreq, hover, hu.patience, hu.call, hu.node, hu.others⟩

/-- A removal made among other calls, and visited at once. -/
theorem visit_removal (hs : c.Sound) (hn : c.nodes[i]? = some n) (hconn : n.remote.connected = true)
    (hcalm : c.store.Calm) (hcall : call.removal? n = some body) :
    ∃ t, ((c.move (.call i c.now none call)).visit c.jobs.length).jobs[c.jobs.length]? = some ⟨i, t⟩ ∧
      t.phase.isOver = true ∧ (⟨n, c.store.inner, c.now, body⟩ : Removal).Under (c.nodes[·]?) i t
        ((c.move (.call i c.now none call)).visit c.jobs.length) := by
  have hs' := (step_move hs (.call i c.now none call)).sound hs
  rw [move_call hn] at hs' ⊢
  obtain ⟨t, hj, hu, hready⟩ := visit_induct
    (P := (⟨n, c.store.inner, c.now, body⟩ : Removal).Under (c.nodes[·]?) i) hs'
    List.getElem?_concat_length rfl (under_begin hn hconn hcalm hcall c.jobs.length _) <| by
      intro c t t' n s' hs hj hn hover h hstep
      have hf := hs.fits_node hj hn
      exact h.after hn hf hover hstep
  refine ⟨t, hj, ?_, hu⟩
  obtain ⟨n₁, hn₁, hat, hstage⟩ := hu.node
  -- it is not ready any more, and whatever is not over would be
  by_contra hover
  have hnow : (visit _ c.jobs.length).now = c.now := hat.now
  rw [isReady, hn₁] at hready
  dsimp only at hready
  rw [hnow, hstage.ready (Bool.eq_false_iff.2 hover) n₁] at hready
  cases hready

end Cluster

end TwoTier
