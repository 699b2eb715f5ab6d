/-
Clusters that are the same to one instance: it is in the same state in both, and so is the store's share
of its keyspace, before a calm store. They stay so when the instance is asked the same in both, and it
answers the same; and when an instance with a keyspace that lies apart is asked something in one of them,
while in the other the clock moves on.
-/
import TwoTier.Proofs.Schedule.Lockstep
import TwoTier.Proofs.Schedule.Prompt
import TwoTier.Proofs.Schedule.Strides
import TwoTier.Proofs.Store.Share

namespace TwoTier

/-- What a call that uses the cache asks of the store lies within the instance's keyspace. -/
theorem Phase.Fits.within {n : Node} {call : Call} {ph : Phase} (hf : ph.Fits n call) (hs : n.IsScoped)
    (hu : call.usesCache = true) : ph.Asks (Request.Within n.keyspace) := by
  cases hf with
  | reading hc hr | rereading hco hr | deleting hr =>
    show Request.Within _ (Trip.request _)
    rw [hr]
    exact isUnder_append ..
  | storing hc hr =>
    obtain ⟨key, hkey⟩ := Call.key_of_writes? hc
    show Request.Within _ (Trip.request _)
    rw [hr]
    show isUnder n.keyspace (Writing.key _) = true
    rw [hkey]
    exact isUnder_append ..
  | sweeping hr =>
    rename_i pattern trip
    show Request.Within _ (Trip.request _)
    rw [hr]
    exact ⟨pattern, by unfold Remote.scopedPattern; rw [hs]⟩
  | announcing hc hr =>
    show Request.Within _ (Trip.request _)
    rw [hr]
    trivial
  | inspecting | probing | dialing | resting | hangingUp => cases hu
  | _ => trivial

namespace Cluster

/-- Clusters in which an instance is the same, and the store's share of a keyspace. The others have the
same plans of purges. -/
structure Twins (scope : String) (b : Nat) (c c' : Cluster Store) : Prop where
  now : c'.now = c.now
  node : c'.nodes[b]? = c.nodes[b]?
  plans : c'.nodes.map Node.maintenance = c.nodes.map Node.maintenance
  store : c.store.Twin scope c'.store

variable {scope : String} {a b i : Nat} {c c' d : Cluster Store} {m n : Node}

namespace Twins

theorem wait (h : Twins scope b c c') (t : Nat) : Twins scope b (c.move (.wait t)) (c'.move (.wait t)) :=
  ⟨congrArg (max · t) h.now, h.node, h.plans, h.store⟩

theorem purge (h : Twins scope b c c') (i : Nat) : Twins scope b (c.move (.purge i)) (c'.move (.purge i)) := by
  have hplan : c'.nodes[i]?.map Node.maintenance = c.nodes[i]?.map Node.maintenance := by
    rw [← List.getElem?_map, ← List.getElem?_map, h.plans]
  cases hn : c.nodes[i]? with
  | none =>
    have hn' : c'.nodes[i]? = none := by rwa [hn, Option.map_none, Option.map_eq_none_iff] at hplan
    rwa [move_purge_of_none hn, move_purge_of_none hn']
  | some n =>
    obtain ⟨n', hn', hm⟩ : ∃ n', c'.nodes[i]? = some n' ∧ n'.maintenance = n.maintenance := by
      rwa [hn, Option.map_some, Option.map_eq_some_iff] at hplan
    obtain ⟨r, hc⟩ := move_purge hn
    obtain ⟨r', hc'⟩ := move_purge hn'
    rw [hc, hc']
    refine ⟨h.now, ?_, ?_, h.store⟩
    · show (c'.nodes.set i _)[b]? = (c.nodes.set i _)[b]?
      -- the twin is the same on both sides; of the others only the next tick has to agree
      by_cases hi : i = b
      · subst hi
        have hsame : n' = n := by have := h.node; rw [hn, hn'] at this; exact Option.some.inj this
        rw [List.getElem?_set_self (List.getElem?_eq_some_iff.1 hn).1,
          List.getElem?_set_self (List.getElem?_eq_some_iff.1 hn').1, hsame, h.now]
      · rw [List.getElem?_set_ne hi, List.getElem?_set_ne hi]
        exact h.node
    · show (c'.nodes.set i _).map _ = (c.nodes.set i _).map _
      rw [List.map_set, List.map_set, h.plans, hm]

theorem ticking (scope : String) (b : Nat) : Ticking (Twins scope b) :=
  ⟨fun h => h.now, fun h => h.plans, fun h => h.wait, fun h => h.purge⟩

theorem advance (h : Twins scope b c c') (t : Nat) : Twins scope b (c.advance t) (c'.advance t) := (ticking scope b).advance h t

end Twins

/-! ## The instance is asked -/

end Cluster

/-- Stores with the same share of a keyspace are not told apart by those who ask within it. -/
def Likeness.twin (scope : String) : Likeness Store where
  rel := Scripted.Twin scope
  asks := Request.Within scope
  draw h m := by rw [h.calm.draw, h.calm'.draw]; exact ⟨rfl, h⟩
  serve h _ r hr now := h.within hr now

/-- A call that is dropped stays the call it is, and leaves its instance as it was made. -/
theorem Task.cancel_spec {σ : Type} [Backend σ] {t t' : Task} {s s' : Site σ} (h : t.cancel s = (t', s')) :
    t'.call = t.call ∧ s.Steady s' := by
  unfold cancel at h
  split at h
  · cases h
    exact ⟨rfl, .refl s⟩
  · cases hl : t.phase.line? with
    | none => rw [hl] at h; cases h; exact ⟨rfl, .refl s⟩
    | some key => rw [hl] at h; cases h; exact ⟨rfl, .leave ..⟩

namespace Cluster

variable {scope : String} {b i k : Nat} {c c' d d' : Cluster Store} {n : Node} {t t' : Task} {s s' : Site Store}

theorem Twins.site (h : Twins scope b c c') (n : Node) : (c.siteOf n).Like (.twin scope) (c'.siteOf n) := by
  unfold siteOf
  rw [h.now]
  exact .mk h.store

/-- Twins with the same calls under way, all at the instance. -/
structure Abreast (scope : String) (b : Nat) (d d' : Cluster Store) : Prop where
  twins : Twins scope b d d'
  jobs : d'.jobs = d.jobs
  sound : d.Sound
  calls : ∀ job ∈ d.jobs, job.node = b ∧ job.task.call.usesCache = true
  node : ∃ n, d.nodes[b]? = some n ∧ n.IsScoped ∧ n.keyspace = scope

namespace Abreast

theorem job (h : Abreast scope b d d') {job : Job} (hj : d.jobs[k]? = some job) :
    ∃ t n, job = ⟨b, t⟩ ∧ t.call.usesCache = true ∧ t.phase.Fits n t.call ∧ d.nodes[b]? = some n ∧
      d'.nodes[b]? = some n ∧ n.IsScoped ∧ n.keyspace = scope := by
  obtain ⟨node, t⟩ := job
  obtain ⟨rfl, hu⟩ := h.calls _ (List.mem_of_getElem? hj)
  obtain ⟨n, hn, hscope, hkey⟩ := h.node
  have hf := h.sound.fits_node hj hn
  exact ⟨t, n, rfl, hu, hf, hn, h.twins.node.trans hn, hscope, hkey⟩

/-- One of the calls has changed on both sides. -/
theorem after (h : Abreast scope b d d') (hj : d.jobs[k]? = some ⟨b, t⟩) (hn : d.nodes[b]? = some n)
    (hsteady : (d.siteOf n).Steady s) (hs : s.Like (.twin scope) s') (hcall : t'.call = t.call)
    (hsound : (d.after k b t' s).Sound) : Abreast scope b (d.after k b t' s) (d'.after k b t' s') := by
  have hn' : d'.nodes[b]? = some n := h.twins.node.trans hn
  refine ⟨⟨hs.now, ?_, ?_, hs.store⟩, ?_, hsound, ?_, ?_⟩
  · rw [after_node hn, after_node hn', hs.node]
  · show (d'.nodes.set b s'.node).map _ = (d.nodes.set b s.node).map _
    rw [map_set_of_eq hn _ hsteady.maintenance, map_set_of_eq hn' _ (hs.node ▸ hsteady.maintenance), h.twins.plans]
  · show d'.jobs.set k _ = d.jobs.set k _
    rw [h.jobs]
  · intro job hjob
    rcases List.mem_or_eq_of_mem_set hjob with hjob | rfl
    · exact h.calls job hjob
    · exact ⟨rfl, hcall ▸ (h.calls _ (List.mem_of_getElem? hj)).2⟩
  · obtain ⟨n₁, hn₁, hscope, hkey⟩ := h.node
    rw [hn] at hn₁
    cases hn₁
    exact ⟨_, after_node hn, hscope.of_frame hsteady.frame, (Node.keyspace_of_frame hsteady.frame).trans hkey⟩

theorem ready (h : Abreast scope b d d') {job : Job} (hj : job ∈ d.jobs) : d'.isReady job = d.isReady job := by
  unfold isReady
  rw [(h.calls job hj).1, h.twins.node, h.twins.now]

theorem resume (h : Abreast scope b d d') (hr : d.jobs[k]?.any d.isReady = true) :
    Abreast scope b (d.move (.resume k)) (d'.move (.resume k)) := by
  cases hj : d.jobs[k]? with
  | none => rw [hj] at hr; cases hr
  | some job =>
    obtain ⟨t, n, rfl, hu, hf, hn, hn', hscope, rfl⟩ := h.job hj
    have hj' : d'.jobs[k]? = some ⟨b, t⟩ := by rw [h.jobs, hj]
    -- the call is ready on both sides, since time and instance are the same
    have hr' : d'.jobs[k]?.any d'.isReady = true := by
      rw [hj', Option.any_some, h.ready (List.mem_of_getElem? hj)]
      rwa [hj, Option.any_some] at hr
    have hover : t.phase.isOver = false := by
      rw [hj, Option.any_some, isReady, hn] at hr
      exact isReady_not_over hr
    obtain ⟨t', s, s', hstep, hstep', hs⟩ := (h.twins.site n).step (t := t) (hf.within hscope hu)
    have hm : d.move (.resume k) = d.after k b t' s := by rw [move, if_pos hr, onJob_eq hj hn, hstep]
    have hm' : d'.move (.resume k) = d'.after k b t' s' := by rw [move, if_pos hr', onJob_eq hj' hn', hstep']
    have hseg := segment_step (s := d.siteOf n) hf hover hstep
    have hsound := (step_move h.sound (.resume k)).sound h.sound
    rw [hm] at hsound
    rw [hm, hm']
    exact h.after hj hn hseg.steady hs hseg.same.1 hsound

theorem cancel (h : Abreast scope b d d') (k : Nat) : Abreast scope b (d.move (.cancel k)) (d'.move (.cancel k)) := by
  have hsound := (step_move h.sound (.cancel k)).sound h.sound
  cases hj : d.jobs[k]? with
  | none =>
    have hidle : ∀ c : Cluster Store, c.jobs[k]? = none → c.move (.cancel k) = c := fun c hc => by
      rw [move, onJob, hc]
    rwa [hidle d hj, hidle d' (by rw [h.jobs, hj])]
  | some job =>
    obtain ⟨t, n, rfl, hu, hf, hn, hn', hscope, rfl⟩ := h.job hj
    have hj' : d'.jobs[k]? = some ⟨b, t⟩ := by rw [h.jobs, hj]
    obtain ⟨t', s, s', hc, hc', hs⟩ := (h.twins.site n).cancel (t := t)
    have hm : d.move (.cancel k) = d.after k b t' s := by rw [move, onJob_eq hj hn, hc]
    have hm' : d'.move (.cancel k) = d'.after k b t' s' := by rw [move, onJob_eq hj' hn', hc']
    obtain ⟨hcall, hsteady⟩ := Task.cancel_spec hc
    rw [hm] at hsound
    rw [hm, hm']
    exact h.after hj hn hsteady hs hcall hsound

theorem wait (h : Abreast scope b d d') (t : Nat) : Abreast scope b (d.move (.wait t)) (d'.move (.wait t)) :=
  ⟨h.twins.wait t, h.jobs, (step_move h.sound (.wait t)).sound h.sound, h.calls, h.node⟩

theorem purge (h : Abreast scope b d d') (i : Nat) : Abreast scope b (d.move (.purge i)) (d'.move (.purge i)) := by
  have hstep := step_move h.sound (.purge i)
  obtain ⟨n, hn, hscope, hkey⟩ := h.node
  obtain ⟨n', hn', hframe⟩ := node_of_frames hstep.frames hn
  refine ⟨h.twins.purge i, by rw [jobs_purge, jobs_purge, h.jobs], hstep.sound h.sound, by rw [jobs_purge]; exact h.calls,
    n', hn', hscope.of_frame hframe, (Node.keyspace_of_frame hframe).trans hkey⟩

end Abreast

theorem lockstep_abreast (scope : String) (b : Nat) : Lockstep (Abreast scope b) where
  now h := h.twins.now
  plans h := h.twins.plans
  wait h t := h.wait t
  purge h i := h.purge i
  jobs h := by
    rw [h.jobs]
    refine List.map_congr_left fun job hj => ?_
    unfold sight rank
    rw [h.ready hj, (h.calls job hj).1, h.twins.node]
  resume h _ hr := h.resume hr
  cancel h k := h.cancel k

/-- The instance answers alike. -/
theorem Twins.request (h : Twins n.keyspace b c c') (hn : c.nodes[b]? = some n) (hscope : n.IsScoped) {call : Call}
    (hu : call.usesCache = true) (patience : Option Nat) :
    Twins n.keyspace b (c.request b call patience).2 (c'.request b call patience).2 ∧
      (c'.request b call patience).1 = (c.request b call patience).1 := by
  have hbegin : Abreast n.keyspace b (c.begin b call patience) (c'.begin b call patience) := by
    refine ⟨⟨h.now, h.node, h.plans, h.store⟩, ?_, begin_sound hn, ?_, n, hn, hscope, rfl⟩
    · unfold begin
      rw [h.now]
    · intro job hjob
      cases List.mem_singleton.1 hjob
      exact ⟨rfl, hu⟩
  obtain ⟨d, d', hd, hreq, hreq'⟩ := (lockstep_abreast _ b).request hn (h.node.trans hn) hbegin
  rw [hreq, hreq']
  exact ⟨⟨hd.twins.now, hd.twins.node, hd.twins.plans, hd.twins.store⟩, by rw [hd.jobs]⟩

/-! ## Another instance is asked -/

/-- No time passes, and no purge falls due. -/
theorem advance_now {σ : Type} [Backend σ] (c : Cluster σ) : c.advance c.now = c := by
  -- a purge that is due falls due now at the earliest
  have hpurge : ∀ fuel, c.purgeWithin c.now fuel = c := by
    intro fuel
    cases fuel with
    | zero => rfl
    | succ fuel =>
      unfold Cluster.purgeWithin
      split
      · rename_i i due h
        rw [if_neg (Nat.not_lt.2 (nextPurge?_spec h).1)]
      · rfl
  unfold advance purgeUntil
  rw [hpurge, move, Nat.max_self]

variable {a : Nat} {m : Node}

/-- A call goes on at another instance. -/
theorem Twins.apart (h : Twins scope b c c') (hab : a ≠ b) (hm : c.nodes[a]? = some m) (hscope : m.IsScoped)
    (hap : Apart scope m.keyspace) (hu : t.call.usesCache = true) (hf : t.phase.Fits m t.call)
    (hover : t.phase.isOver = false) (hstep : t.step (c.siteOf m) = (t', s)) : Twins scope b (c.after k a t' s) c' := by
  have hsteady := (segment_step (s := c.siteOf m) hf hover hstep).steady
  -- only the share of the other keyspace is asked for, so the stores stay twins
  have hstore := t.step_store_of_asks (s := c.siteOf m) (Q := (Scripted.Twin scope · c'.store))
    (fun st q hst => by rw [hst.calm.draw]; exact hst) (fun st _ r now hr hst => hst.apart hr hap now)
      (hf.within hscope hu) h.store
  rw [hstep] at hstore
  refine ⟨h.now.trans hsteady.now.symm, h.node.trans (List.getElem?_set_ne hab).symm, ?_, hstore⟩
  exact h.plans.trans (map_set_of_eq hm _ hsteady.maintenance).symm

/-- While another instance has a call under way in one of two clusters, the other one follows its clock. -/
structure Trails (scope : String) (a b : Nat) (m : Node) (c' d : Cluster Store) : Prop where
  twins : Twins scope b d (c'.advance d.now)
  node : ∃ m', d.nodes[a]? = some m' ∧ m'.frame = m.frame

namespace Trails

variable {m' : Node}

theorem after (h : Trails scope a b m c' d) (hab : a ≠ b) (hm : d.nodes[a]? = some m') (hscope : m.IsScoped)
    (hap : Apart scope m.keyspace) (hu : t.call.usesCache = true) (hf : t.phase.Fits m' t.call)
    (hover : t.phase.isOver = false) (hstep : t.step (d.siteOf m') = (t', s)) :
    Trails scope a b m c' (d.after k a t' s) := by
  obtain ⟨m₁, hm₁, hframe⟩ := h.node
  cases hm.symm.trans hm₁
  have hsteady := (segment_step (s := d.siteOf m') hf hover hstep).steady
  have hkey : Apart scope m'.keyspace := by rwa [Node.keyspace_of_frame hframe]
  refine ⟨?_, s.node, after_node hm, hsteady.frame.trans hframe⟩
  rw [show (d.after k a t' s).now = d.now from hsteady.now]
  exact h.twins.apart hab hm (hscope.of_frame hframe) hkey hu hf hover hstep

/-- The first wait, which the other cluster has yet to follow. -/
theorem sleep (h : Trails scope a b m c' d) (hidle : c'.advance d.now = c') {due : Nat} (hlt : d.now < due) :
    Trails scope a b m c' (d.advance due) := by
  obtain ⟨haged, hnow⟩ := advance_spec d due
  obtain ⟨m₁, hm₁, hframe⟩ := h.node
  obtain ⟨m₂, hm₂, hag⟩ := haged.nodes hm₁
  have htwins := h.twins
  rw [hidle] at htwins
  refine ⟨?_, m₂, hm₂, hag.frame.trans hframe⟩
  rw [hnow, Nat.max_eq_right (Nat.le_of_lt hlt)]
  exact htwins.advance due

end Trails

/-- While another instance is asked nothing happens but that the clock moves on. -/
theorem Twins.elsewhere (h : Twins scope b c c') (hd : c.Deserted) (hab : a ≠ b) (hm : c.nodes[a]? = some m)
    (hscope : m.IsScoped) (hap : Apart scope m.keyspace) {call : Call} (hu : call.usesCache = true) :
    Twins scope b (c.request a call none).2 (c'.advance (c.request a call none).2.now) := by
  -- before the first wait there is nothing to follow
  have hidle : c'.advance c.now = c' := by
    have := advance_now c'
    rwa [h.now] at this
  have hbegin : Trails scope a b m c' (c.begin a call none) := by
    refine ⟨?_, m, hm, rfl⟩
    rw [show (c.begin a call none).now = c.now from rfl, hidle]
    exact ⟨h.now, h.node, h.plans, h.store⟩
  obtain ⟨t, d, hreq, -, -, hend⟩ := request_prompt (P := fun _ d => Trails scope a b m c' d) hd h.store.calm hm hu
    hbegin
    (by
      rintro t t' m' d s' hn - rfl hf hover hstep htrails
      exact htrails.after hab hn hscope hap hu hf hover hstep)
    (fun hnow _ hlt htrails => htrails.sleep (hnow ▸ hidle) hlt)
  rw [hreq]
  exact ⟨hend.twins.now, hend.twins.node, hend.twins.plans, hend.twins.store⟩

end Cluster

end TwoTier
