/-
Calls on a calm store take no time but for their fetches. A trip ends at the instant at which it sets
out, so that a call which uses the cache never waits, save once: for as long as its fetch takes.
-/
import TwoTier.Proofs.Call.Removal
import TwoTier.Proofs.Schedule.Solo

namespace TwoTier

variable {s s' : Site Store} {t t' : Task} {due : Nat}

/-! ## Waits -/

/-- What is announced is announced at once. -/
theorem Task.announce_prompt (hcalm : s.store.Calm) {body : Invalidation} {reply : Reply}
    (h : t.announce body reply s = (t', s')) (hd : t'.phase.due? = some due) : due = s.now := by
  unfold announce at h
  cases hc : s.node.channel with
  | none =>
    rw [hc] at h
    cases h
    cases hd
  | some channel =>
    rcases ht : s.call (.publish channel (Message.encode ⟨s.node.id, body⟩)) with ⟨trip, s₁⟩
    simp only [hc, ht] at h
    cases h
    cases hd
    exact Site.ends_of_calm hcalm ht

/-- The end of a trip changes nothing about how calls to the store fare. -/
theorem Site.calm_of_finish {α : Type} {trip : Trip α} {reply : Except CacheError α} (hcalm : s.store.Calm)
    (h : s.finish trip = (reply, s')) : s'.store.Calm := by
  rcases Trip.finish_cases (finish_spec h).finish with ⟨-, -, -, hs⟩ | ⟨-, hs⟩
  · exact hs ▸ hcalm
  · have := hcalm.serve trip.request s.now
    rwa [hs] at this

/-- The end of a removal from the store, and what is told of it. -/
theorem Task.settled_prompt {α : Type} {trip : Trip α} {reply : Except CacheError α} {s₁ s₂ : Site Store}
    {body : Invalidation} {answer : Reply} (hcalm : s.store.Calm) (hf : s.finish trip = (reply, s₁)) (hs : s₁.Alike s₂)
    (h : t.announce body answer s₂ = (t', s')) (hd : t'.phase.due? = some due) : due = s.now := by
  have hcalm₂ : s₂.store.Calm := hs.store ▸ Site.calm_of_finish hcalm hf
  rw [announce_prompt hcalm₂ h hd, hs.now, (Site.finish_spec hf).now]

/-- Removals do not wait. -/
theorem Task.removal_prompt (hcalm : s.store.Calm)
    (hc : (∃ key, t.call = .delete key) ∨ ∃ pattern, t.call = .deletePattern pattern) (hf : t.phase.Fits s.node t.call)
    (hover : t.phase.isOver = false) (h : t.step s = (t', s')) (hd : t'.phase.due? = some due) : due = s.now := by
  obtain ⟨call, ticket, ph, started, fetches, patience⟩ := t
  unfold step at h
  cases hf with
  | waiting =>
    unfold start at h
    rcases hc with ⟨key, rfl⟩ | ⟨pattern, rfl⟩
    · rcases hdel : s.node.lru.delete (s.node.fullKey key) with ⟨resident, lru⟩
      rcases ht : (s.withLru lru).call (.delete (s.node.fullKey key)) with ⟨trip, s₁⟩
      simp only [hdel, ht] at h
      cases h
      cases hd
      exact Site.ends_of_calm (s := s.withLru lru) hcalm ht
    · rcases ht : (s.withLru s.node.lru.clear).call (.deletePattern (s.node.remote.scopedPattern pattern)) with
        ⟨trip, s₁⟩
      simp only [ht] at h
      cases h
      cases hd
      exact Site.ends_of_calm (s := s.withLru s.node.lru.clear) hcalm ht
  | deleting hr =>
    rename_i key resident trip
    rcases hf : s.finish trip with ⟨reply, s₁⟩
    simp only [hf] at h
    obtain ⟨s₂, ha, hann⟩ := endDelete_spec h
    exact settled_prompt hcalm hf ha hann hd
  | sweeping hr =>
    rename_i pattern trip
    rcases hf : s.finish trip with ⟨reply, s₁⟩
    simp only [hf] at h
    obtain ⟨s₂, ha, hann⟩ := endSweep_spec h
    exact settled_prompt hcalm hf ha hann hd
  | announcing hc hr =>
    cases h
    cases hd
  | finished | cancelled => cases hover
  | reading hr => rcases hc with ⟨_, rfl⟩ | ⟨_, rfl⟩ <;> cases hr
  | storing hw => rcases hc with ⟨_, rfl⟩ | ⟨_, rfl⟩ <;> cases hw
  | _ => rcases hc with ⟨_, hc⟩ | ⟨_, hc⟩ <;> cases hc

/-- A call that uses the cache waits for its fetch at most. -/
theorem Task.step_prompt (hcalm : s.store.Calm) (hu : t.call.usesCache = true) (hf : t.phase.Fits s.node t.call)
    (hover : t.phase.isOver = false) (h : t.step s = (t', s')) (hd : t'.phase.due? = some due) :
    due = s.now ∨ ∃ key, t'.phase = .fetching key due := by
  -- removals apart: the segments do not say where the trip of what they announce ends
  by_cases hc : (∃ key, t.call = .delete key) ∨ ∃ pattern, t.call = .deletePattern pattern
  · exact Or.inl (removal_prompt hcalm hc hf hover h hd)
  · cases segment_step hf hover h with
    | missLocal hr hv hs ht | remissLocal hv hs ht =>
      cases hd
      have hcalm' := hs.store.symm ▸ (show (s.looked _).store.Calm from hcalm)
      exact Or.inl ((Site.ends_of_calm hcalm' ht).trans hs.now)
    | fetched ho hw hs ht | put hw hs ht =>
      cases hd
      have hcalm' := hs.store.symm ▸ (show (s.written _).store.Calm from hcalm)
      exact Or.inl ((Site.ends_of_calm hcalm' ht).trans hs.now)
    | fetchAtOnce | remissShared =>
      cases hd
      exact Or.inr ⟨_, rfl⟩
    | drop | dropped => exact absurd (Or.inl ⟨_, rfl⟩) hc
    | dropAll | swept => exact absurd (Or.inr ⟨_, rfl⟩) hc
    | aside hr hb hi hfits hrank hs hq =>
      rename_i call _ ph ph' _ _ _ _ _
      obtain ⟨key, v, ttl, rfl⟩ : ∃ key v ttl, call = .set key v ttl := by
        cases call with
        | set key v ttl => exact ⟨key, v, ttl, rfl⟩
        | delete | deletePattern => exact absurd (by simp) hc
        | get | getOrFetch => cases hr
        | _ => cases hu
      cases hfits with
      | finished => cases hd
      | announcing hc' => exact absurd hc' hc
      | _ => cases hi
    | _ => cases hd

/-! ## Requests -/

namespace Cluster

variable {c c' : Cluster Store} {i : Nat} {n : Node} {call : Call}

/-- How far a request has come that never waits but for its fetch: the clock is where it was, or the
fetch has been waited for. -/
structure Prompt (c : Cluster Store) (call : Call) (t : Task) (d : Cluster Store) : Prop where
  patience : t.patience = none
  call : t.call = call
  calm : d.store.Calm
  due : (∀ due, t.phase.due? = some due → due ≤ d.now) ∨ ∃ key due, t.phase = .fetching key due
  now : d.now = c.now ∨ ∀ a, t.phase.rank a ≤ 2 ∧ ∀ due, t.phase.due? = some due → due ≤ d.now

namespace Prompt

variable {d : Cluster Store} {t t' : Task} {s' : Site Store} {due : Nat} {key : String}

theorem after (h : c.Prompt call t d) (hu : call.usesCache = true) (hf : t.phase.Fits n t.call)
    (hover : t.phase.isOver = false) (hseg : Segment (d.siteOf n) s' t t')
    (hstep : t.step (d.siteOf n) = (t', s')) : c.Prompt call t' (d.after 0 i t' s') := by
  have hwait := fun due (hd : t'.phase.due? = some due) =>
    Task.step_prompt (s := d.siteOf n) h.calm (h.call.symm ▸ hu) hf hover hstep hd
  have hnow : s'.now = d.now := hseg.steady.now
  refine ⟨hseg.same.2.2.trans h.patience, hseg.same.1.trans h.call, ?_, ?_, ?_⟩
  · have := t.step_calm (s := d.siteOf n) h.calm
    rwa [hstep] at this
  · cases hdue : t'.phase.due? with
    | none => exact Or.inl nofun
    | some due =>
      rcases hwait due hdue with hle | ⟨key, hp⟩
      · refine Or.inl fun due' hd => ?_
        cases hd
        exact Nat.le_of_eq (hle.trans hnow.symm)
      · exact Or.inr ⟨key, due, hp⟩
  · refine h.now.imp (fun h => hnow.trans h) fun h => ?_
    -- after its fetch a call has but one wait left
    have hrank := Nat.lt_of_lt_of_le hseg.rank_lt (h _).1
    refine fun a => ⟨?_, fun due hd => ?_⟩
    · revert hrank
      cases t'.phase <;> simp only [Phase.rank] <;> omega
    · rcases hwait due hd with hle | ⟨key, hp⟩
      · exact Nat.le_of_eq (hle.trans hnow.symm)
      · rw [hp] at hrank
        exact absurd hrank (Nat.lt_irrefl _)

/-- A wait is the one for the fetch, and the first one. -/
theorem asleep (h : c.Prompt call t d) (hw : t.phase.due? = some due) (hlt : d.now < due) :
    d.now = c.now ∧ ∃ key, t.phase = .fetching key due := by
  refine ⟨h.now.resolve_right fun h => Nat.not_le.2 hlt ((h 0).2 due hw), ?_⟩
  rcases h.due with hle | ⟨key, due', hp⟩
  · exact absurd (hle due hw) (Nat.not_le.2 hlt)
  · rw [hp] at hw
    cases hw
    exact ⟨key, hp⟩

theorem sleep (h : c.Prompt call t d) (hp : t.phase = .fetching key due) : c.Prompt call t (d.advance due) := by
  obtain ⟨ha, hnow⟩ := advance_spec d due
  refine ⟨h.patience, h.call, ha.store ▸ h.calm, Or.inr ⟨key, due, hp⟩, Or.inr fun a =>
    ⟨by rw [hp]; exact Nat.le_refl _, ?_⟩⟩
  intro due' hd
  rw [hp] at hd
  cases hd
  rw [hnow]
  exact Nat.le_max_right ..

end Prompt

/-- What every segment of a call keeps, and the wait for its fetch, holds at the end of a request. -/
theorem request_prompt {P : Task → Cluster Store → Prop} (hd : c.Deserted) (hcalm : c.store.Calm)
    (hn : c.nodes[i]? = some n) (hu : call.usesCache = true)
    (h : P { call, ticket := 0, phase := .waiting c.now } (c.begin i call none))
    (hstep : ∀ {t t' : Task} {n : Node} {d : Cluster Store} {s' : Site Store}, d.nodes[i]? = some n → d.store.Calm →
      t.call = call → t.phase.Fits n call → t.phase.isOver = false → t.step (d.siteOf n) = (t', s') → P t d →
      P t' (d.after 0 i t' s'))
    (hsleep : ∀ {t : Task} {d : Cluster Store} {key : String} {due : Nat}, d.now = c.now → t.phase = .fetching key due →
      d.now < due → P t d → P t (d.advance due)) :
    ∃ t c', c.request i call none = (some t, { c' with jobs := [] }) ∧ t.phase.isOver = true ∧ c'.store.Calm ∧
      P t c' := by
  obtain ⟨t, c', hreq, hover, hprompt, hP⟩ := request_induct (P := fun t d => c.Prompt call t d ∧ P t d) hd hn call none
    ⟨⟨rfl, rfl, hcalm, Or.inl fun due hd => by cases hd; exact Nat.le_refl _, Or.inl rfl⟩, h⟩ <| by
      rintro t t' n d d' hj hn hf ⟨hpr, hP⟩ hturn
      cases hturn with
      | goesOn hr hseg hst =>
        have hover := isReady_not_over hr
        exact ⟨hpr.after hu hf hover hseg hst, hstep hn hpr.calm hpr.call (hpr.call ▸ hf) hover hst hP⟩
      | dropped hw hlt hp => rw [hpr.patience] at hp; cases hp
      | sleeps hw hlt hle hp =>
        obtain rfl := hp hpr.patience
        obtain ⟨hnow, key, hphase⟩ := hpr.asleep hw hlt
        exact ⟨hpr.sleep hphase, hsleep hnow hphase hlt hP⟩
  exact ⟨t, c', hreq, hover, hprompt.calm, hP⟩

/-- A call is under way at an instance that is connected, and something holds of the two. -/
structure Attends (n : Node) (i : Nat) (call : Call) (Q : Task → Site Store → Prop) (d : Cluster Store)
    (t : Task) : Prop where
  call : t.call = call
  node : ∃ n', d.nodes[i]? = some n' ∧ n'.frame = n.frame ∧ n'.remote.connected = true ∧ Q t (d.siteOf n')

/-- It goes on. -/
theorem Attends.after {Q : Task → Site Store → Prop} {t t' : Task} {d : Cluster Store} {m : Node} {s' : Site Store}
    (h : d.Attends n i call Q t) (hm : d.nodes[i]? = some m) (hu : call.usesCache = true) (hf : t.phase.Fits m call)
    (hover : t.phase.isOver = false) (hstep : t.step (d.siteOf m) = (t', s'))
    (hQ : m.remote.connected = true → m.frame = n.frame → t.call = call → Q t (d.siteOf m) → Q t' s') :
    (d.after 0 i t' s').Attends n i call Q t' := by
  obtain ⟨hcall, n', hn', hframe, hconn, hq⟩ := h
  cases hm.symm.trans hn'
  have hseg := segment_step (s := d.siteOf m) (hcall.symm ▸ hf) hover hstep
  refine ⟨hseg.same.1.trans hcall, s'.node, after_node hm,
    hseg.steady.frame.trans hframe, ?_, hQ hconn hframe hcall hq⟩
  refine (hseg.connected ?_ ?_).trans hconn <;> rw [hcall] <;> rintro rfl <;> cases hu

/-- The clock moves on. -/
theorem Attends.advance {Q : Task → Site Store → Prop} {t : Task} {d : Cluster Store}
    (h : d.Attends n i call Q t) (due : Nat)
    (hQ : ∀ {s s' : Site Store}, s.now ≤ s'.now → s'.store = s.store → s.node.Aged s'.now s'.node → Q t s → Q t s') :
    (d.advance due).Attends n i call Q t := by
  obtain ⟨hcall, n', hn', hframe, hconn, hq⟩ := h
  obtain ⟨ha, -⟩ := advance_spec d due
  obtain ⟨n'', hn'', hag⟩ := ha.nodes hn'
  exact ⟨hcall, n'', hn'', hag.frame.trans hframe, (congrArg Remote.connected hag.remote).trans hconn,
    hQ (s := d.siteOf n') ha.now ha.store hag hq⟩

/-- What holds of a call and its instance at the beginning of a request, and is kept by every segment and
by the wait for its fetch, holds at the end. -/
theorem request_site {Q : Task → Site Store → Prop} (hd : c.Deserted) (hcalm : c.store.Calm) (hn : c.nodes[i]? = some n)
    (hconn : n.remote.connected = true) (hu : call.usesCache = true)
    (h : Q { call, ticket := 0, phase := .waiting c.now } (c.siteOf n))
    (hstep : ∀ {t t' : Task} {s s' : Site Store}, s.store.Calm → s.node.remote.connected = true →
      s.node.frame = n.frame → t.call = call → t.phase.Fits s.node t.call → t.phase.isOver = false →
      t.step s = (t', s') → Q t s → Q t' s')
    (hsleep : ∀ {t : Task} {s s' : Site Store} {key : String} {due : Nat}, t.phase = .fetching key due →
      s.now ≤ s'.now → s'.store = s.store → s.node.Aged s'.now s'.node → Q t s → Q t s') :
    ∃ t c', c.request i call none = (some t, c') ∧ t.phase.isOver = true ∧ c'.Deserted ∧ c'.store.Calm ∧
      c'.Attends n i call Q t := by
  have hdeserted := request_deserted hd hn call none
  obtain ⟨t, c', hreq, hover, hcalm', hend⟩ := request_prompt (P := fun t d => d.Attends n i call Q t) hd hcalm hn hu
    ⟨rfl, n, hn, rfl, hconn, h⟩
    (fun hm hcalm hcall hf hover hst hP => hP.after hm hu hf hover hst fun hconn hframe hcall hq =>
      hstep hcalm hconn hframe hcall (hcall.symm ▸ hf) hover hst hq)
    (fun _ hphase _ hP => hP.advance _ fun hnow hst hag hq => hsleep hphase hnow hst hag hq)
  rw [hreq] at hdeserted
  exact ⟨t, _, hreq, hover, hdeserted, hcalm', hend.call, hend.node⟩

end Cluster

end TwoTier
