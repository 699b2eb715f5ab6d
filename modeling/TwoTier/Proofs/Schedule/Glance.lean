/-
Looking at a cache. To ask an instance for its health or for the figures of both tiers makes at most one trip to the
store, and that trip changes nothing there. But for the error counter of the client every instance is afterwards as the
passing of time alone would have left it: its books are the same, and its local tier has lost what purges dropped
meanwhile.
-/
import TwoTier.Proofs.Cluster.Twins
import TwoTier.Proofs.Remote.Containment

namespace TwoTier

/-- An instance without the error counter of its client. -/
def Node.unfailed (n : Node) : Node := { n with remote := { n.remote with errors := 0 } }

/-! ## Segments -/

/-- What such a segment leaves alone. -/
structure Site.Glances (s s' : Site Store) : Prop where
  now : s'.now = s.now
  node : s'.node.unfailed = s.node.unfailed
  store : s.store.inner.Unharmed s'.store.inner

namespace Site.Glances

variable {α : Type} {s s' s'' : Site Store} {trip : Trip α}

theorem refl (s : Site Store) : s.Glances s := ⟨rfl, rfl, .refl _⟩

theorem trans (h : s.Glances s') (h' : s'.Glances s'') : s.Glances s'' :=
  ⟨h'.now.trans h.now, h'.node.trans h.node, h'.store.entries.trans h.store.entries,
    h'.store.published.trans h.store.published⟩

theorem of_setOff (h : SetOff s s') : s.Glances s' := ⟨h.now, by rw [h.node], by rw [h.inner]; exact .refl _⟩

/-- A request that the store answers without a change. -/
theorem of_landed {reply : Except CacheError α} (h : Landed trip reply s s')
    (hr : ∀ now (st : Store), st.Unharmed (st.serve now trip.request).2) : s.Glances s' := by
  refine ⟨h.now, by rw [h.node], ?_⟩
  rcases Trip.finish_cases h.finish with ⟨-, -, -, hs⟩ | ⟨-, hs⟩
  · rw [hs]
    exact .refl _
  · rcases Scripted.serve_inner hs with hi | hi <;> rw [hi]
    · exact .refl _
    · exact hr ..

theorem of_report (s : Site Store) (operation : String) (e : CacheError) : s.Glances (s.report operation e) := by
  unfold report Link.report
  split <;> exact ⟨rfl, rfl, .refl _⟩

end Site.Glances

theorem Store.unharmed_info (now : Nat) (st : Store) : st.Unharmed (st.serve now .info).2 := by
  unfold serve
  dsimp only
  split <;> exact .refl st

theorem Store.unharmed_ping (now : Nat) (st : Store) : st.Unharmed (st.serve now .ping).2 := by
  unfold serve
  dsimp only
  split <;> exact .refl st

namespace Task

variable {s s' : Site Store} {t t' : Task}

/-- Whether a call looks only. -/
def looks (t : Task) : Prop := t.call = .health ∨ t.call = .stats

theorem glances_start (hl : t.looks) (h : t.start s = (t', s')) :
    s.Glances s' ∧ ∀ start, t'.phase ≠ .waiting start := by
  have hcall {α : Type} (r : Request α) : s.Glances (s.call r).2 := .of_setOff (Site.call_spec rfl).2.2
  obtain ⟨c, k, ph, b, m, p⟩ := t
  unfold start at h
  rcases hl with rfl | rfl <;> dsimp only at h <;> split at h <;> cases h
  · exact ⟨hcall .ping, nofun⟩
  · exact ⟨.refl s, nofun⟩
  · exact ⟨hcall .info, nofun⟩
  · exact ⟨.refl s, nofun⟩

/-- A segment of such a call is the first one, or the call is over with it. -/
theorem glances_step (hl : t.looks) (hf : t.phase.Fits s.node t.call) (ho : t.phase.isOver = false)
    (h : t.step s = (t', s')) :
    s.Glances s' ∧ (∀ start, t'.phase ≠ .waiting start) ∧
      ((∃ start, t.phase = .waiting start) ∨ t'.phase.isOver = true) := by
  obtain ⟨c, k, ph, b, m, p⟩ := t
  have hreads : c.reads? = none := by rcases hl with rfl | rfl <;> rfl
  have hwrites : c.writes? s.node = none := by rcases hl with rfl | rfl <;> rfl
  unfold step at h
  cases hf with
  | waiting =>
    obtain ⟨hg, hp⟩ := glances_start hl h
    exact ⟨hg, hp, Or.inl ⟨_, rfl⟩⟩
  | inspecting hr =>
    rename_i localTier trip
    rcases hf : s.finish trip with ⟨e | info, s₁⟩ <;> simp only [hf] at h <;> cases h
    · have hland : s.Glances s₁ := .of_landed (Site.finish_spec hf) (by rw [hr]; exact Store.unharmed_info)
      exact ⟨hland.trans (.of_report ..), nofun, Or.inr rfl⟩
    · exact ⟨.of_landed (Site.finish_spec hf) (by rw [hr]; exact Store.unharmed_info), nofun, Or.inr rfl⟩
  | probing hr =>
    rename_i trip
    rcases hf : s.finish trip with ⟨reply, s₁⟩
    simp only [hf] at h
    cases h
    exact ⟨.of_landed (Site.finish_spec hf) (by rw [hr]; exact Store.unharmed_ping), nofun, Or.inr rfl⟩
  | reading hc => rw [hreads] at hc; cases hc
  | storing hc => rw [hwrites] at hc; cases hc
  | announcing hc =>
    rcases hc with ⟨_, rfl⟩ | ⟨_, rfl⟩ <;> rcases hl with h | h <;> cases h
  | finished | cancelled => cases ho
  | _ => rcases hl with h | h <;> cases h

end Task

/-! ## The clock -/

namespace Cluster

variable {c c' d : Cluster Store} {i : Nat} {n : Node} {t t' : Task}

/-- Two clusters at the same instant, with the same instances but for what their clients count. -/
structure Beside (c c' : Cluster Store) : Prop where
  now : c'.now = c.now
  nodes : c'.nodes.map Node.unfailed = c.nodes.map Node.unfailed

theorem Beside.purge (h : c.Beside c') (i : Nat) : (c.move (.purge i)).Beside (c'.move (.purge i)) := by
  have hat : c'.nodes[i]?.map Node.unfailed = c.nodes[i]?.map Node.unfailed := by
    rw [← List.getElem?_map, ← List.getElem?_map, h.nodes]
  cases hn : c.nodes[i]? with
  | none =>
    have hn' : c'.nodes[i]? = none := by rwa [hn, Option.map_none, Option.map_eq_none_iff] at hat
    rwa [move_purge_of_none hn, move_purge_of_none hn']
  | some n =>
    obtain ⟨n', hn', hm⟩ : ∃ n', c'.nodes[i]? = some n' ∧ n'.unfailed = n.unfailed := by
      rwa [hn, Option.map_some, Option.map_eq_some_iff] at hat
    obtain ⟨r, hc⟩ := move_purge hn
    obtain ⟨r', hc'⟩ := move_purge hn'
    rw [hc, hc']
    refine ⟨h.now, ?_⟩
    show (c'.nodes.set i _).map _ = (c.nodes.set i _).map _
    rw [List.map_set, List.map_set, h.nodes, h.now]
    exact congrArg (fun m : Node => (c.nodes.map Node.unfailed).set i
      { m with lru := (m.lru.purge c.now).2, maintenance := m.maintenance.map Maintenance.next }) hm

theorem ticking_beside : Ticking Beside where
  now h := h.now
  plans h := by
    have hplan : ∀ nodes : List Node, nodes.map Node.maintenance = (nodes.map Node.unfailed).map Node.maintenance := by
      intro nodes
      rw [List.map_map]
      rfl
    exact (hplan _).trans ((congrArg _ h.nodes).trans (hplan _).symm)
  wait h t := ⟨congrArg (max · t) h.now, h.nodes⟩
  purge h i := h.purge i

/-- Purges leave the books alone. -/
theorem books_purgeWithin (c : Cluster Store) (t fuel : Nat) :
    (c.purgeWithin t fuel).nodes.map Node.books = c.nodes.map Node.books := by
  induction fuel generalizing c with
  | zero => rfl
  | succ fuel ih =>
    unfold purgeWithin
    split
    · rename_i i due h
      split
      · rw [ih]
        obtain ⟨-, n, hn, -⟩ := nextPurge?_spec h
        obtain ⟨r, hp⟩ := move_purge (c := c.move (.wait due)) hn
        unfold purgeAt
        rw [hp]
        exact map_set_of_eq hn _ rfl
      · rfl
    · rfl

theorem books_advance (c : Cluster Store) (t : Nat) : (c.advance t).nodes.map Node.books = c.nodes.map Node.books :=
  books_purgeWithin ..

/-- Where no purges are planned, time changes no instance. -/
theorem nodes_advance (hp : ∀ n ∈ c.nodes, n.maintenance = none) (t : Nat) : (c.advance t).nodes = c.nodes := by
  have ha := (advance_spec c t).1
  refine List.ext_getElem? fun i => ?_
  cases hn : c.nodes[i]? with
  | none => exact List.getElem?_eq_none (ha.length ▸ List.getElem?_eq_none_iff.1 hn)
  | some n =>
    obtain ⟨n', hn', hag⟩ := ha.nodes hn
    rw [hn', hag.still (hp n (List.mem_of_getElem? hn))]

/-! ## The request -/

/-- A look under way, or come to its end. The clock has moved only if the look waits no longer. -/
structure Glancing (c : Cluster Store) (t : Task) (d : Cluster Store) : Prop where
  looks : t.looks
  patience : t.patience = none
  store : c.store.inner.Unharmed d.store.inner
  beside : (c.advance d.now).Beside d
  start : ∀ start, t.phase = .waiting start → start ≤ d.now
  clock : d.now = c.now ∨ ((∀ start, t.phase ≠ .waiting start) ∧ ∀ due, t.phase.due? = some due → due ≤ d.now)

theorem Glancing.goesOn (h : c.Glancing t d) (hn : d.nodes[i]? = some n) (hf : t.phase.Fits n t.call)
    (ho : t.phase.isOver = false) {s' : Site Store} (hcall : t'.call = t.call ∧ t'.patience = t.patience)
    (hstep : t.step (d.siteOf n) = (t', s')) : c.Glancing t' (d.after 0 i t' s') := by
  obtain ⟨hg, hstart, hover⟩ := Task.glances_step (s := d.siteOf n) h.looks hf ho hstep
  have hnow : s'.now = d.now := hg.now
  refine ⟨?_, hcall.2.trans h.patience, ⟨?_, ?_⟩, ?_, fun start hp => absurd hp (hstart start), ?_⟩
  · unfold Task.looks
    rw [hcall.1]
    exact h.looks
  · exact hg.store.entries.trans h.store.entries
  · exact hg.store.published.trans h.store.published
  · show (c.advance s'.now).Beside _
    rw [hnow]
    exact ⟨hnow.trans h.beside.now, (map_set_of_eq hn _ hg.node).trans h.beside.nodes⟩
  · show s'.now = c.now ∨ _
    rw [hnow]
    refine h.clock.imp id fun ⟨hno, _⟩ => ⟨hstart, fun due hdue => ?_⟩
    rcases hover with ⟨start, hp⟩ | hover
    · exact absurd hp (hno start)
    · rcases over_cases hover with ⟨reply, ended, hp⟩ | ⟨ended, hp⟩ <;> rw [hp] at hdue <;> cases hdue

theorem Glancing.sleeps (h : c.Glancing t d) {due : Nat} (hw : t.phase.due? = some due) (hlt : d.now < due) :
    c.Glancing t (d.advance due) := by
  obtain ⟨ha, hnow⟩ := advance_spec d due
  rw [Nat.max_eq_right (Nat.le_of_lt hlt)] at hnow
  -- the call has begun, or its due time would not lie ahead; so this is its only wait
  have hstart : ∀ start, t.phase ≠ .waiting start := by
    intro start hp
    have := h.start start hp
    rw [hp] at hw
    cases hw
    omega
  have hnow₀ : d.now = c.now := by
    rcases h.clock with h | ⟨-, h⟩
    · exact h
    · have := h due hw
      omega
  refine ⟨h.looks, h.patience, ?_, ?_, fun start hp => absurd hp (hstart start),
    Or.inr ⟨hstart, fun due' hdue => ?_⟩⟩
  · rw [ha.store]
    exact h.store
  · have hbeside := h.beside
    rw [hnow₀, advance_now] at hbeside
    rw [hnow]
    exact ticking_beside.advance hbeside due
  · rw [hw] at hdue
    cases hdue
    exact Nat.le_of_eq hnow.symm

/-- A look leaves the store alone, and every instance as time alone leaves it. -/
theorem request_glance (hd : c.Deserted) (hn : c.nodes[i]? = some n) {call : Call}
    (hl : call = .health ∨ call = .stats) :
    c.store.inner.Unharmed (c.request i call none).2.store.inner ∧
      (c.advance (c.request i call none).2.now).Beside (c.request i call none).2 := by
  obtain ⟨t, c', hreq, -, hg⟩ := request_induct (P := c.Glancing) hd hn call none
    ⟨hl, rfl, .refl _, by show (c.advance c.now).Beside _; rw [advance_now]; exact ⟨rfl, rfl⟩,
      fun start hp => by cases hp; exact Nat.le_refl _, Or.inl rfl⟩ <| by
      intro t t' n d d' _ hn hf hg hsolo
      cases hsolo with
      | goesOn hr hs hstep => exact hg.goesOn hn hf (isReady_not_over hr) ⟨hs.same.1, hs.same.2.2⟩ hstep
      | dropped hw hlt hp => rw [hg.patience] at hp; cases hp
      | sleeps hw hlt hle hp =>
        obtain rfl := hp hg.patience
        exact hg.sleeps hw hlt
  rw [hreq]
  exact ⟨hg.store, hg.beside.now, hg.beside.nodes⟩

end Cluster

end TwoTier
