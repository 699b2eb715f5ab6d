/-
Two-tier coherence. One instance alone uses a calm store, one call after the other, while the clock moves
on and its local tier is purged. Then a key stands for what was written under it last, unless a removal
has undone that, and a look-up finds it for as long as it lives, whatever has become of the local tier.
-/
import TwoTier.Proofs.Call.Marks
import TwoTier.Proofs.Schedule.Prompt
import TwoTier.Proofs.Schedule.Removal
import TwoTier.Proofs.Schedule.Strides

namespace TwoTier

variable {n : Node} {key : String} {w : Option Mark}

/-- A stride of a run in which one instance alone is asked, and nothing but what uses the cache. What it
writes comes back from the store as it was written. -/
def Stride.IsProper (n : Node) (i : Nat) : Stride → Prop
  | .of j call => j = i ∧ call.usesCache = true ∧ ∀ w, call.writes? n = some w →
      Payload.decode (payload w.value) = .ok w.value
  | _ => True

namespace Cluster

variable {c c' : Cluster Store} {i : Nat} {call : Call}

/-! ## Strides -/

/-- Both tiers of an instance that is connected hold what a key stands for, and nobody is in line. -/
structure Coherent (n : Node) (i : Nat) (key : String) (w : Option Mark) (c : Cluster Store) : Prop where
  deserted : c.Deserted
  calm : c.store.Calm
  returns : ∀ m ∈ w, m.Returns
  node : ∃ n', c.nodes[i]? = some n' ∧ n'.frame = n.frame ∧ n'.remote.connected = true ∧ (c.siteOf n').Coherent w w key

namespace Coherent

theorem advance (h : c.Coherent n i key w) (t : Nat) : (c.advance t).Coherent n i key w := by
  obtain ⟨ha, -⟩ := advance_spec c t
  obtain ⟨n₁, hn₁, hframe, hconn, hc⟩ := h.node
  obtain ⟨n₂, hn₂, hag⟩ := ha.nodes hn₁
  have hc₂ : ((c.advance t).siteOf n₂).Coherent w w key := hc.aged ha.now ha.store hag
  exact ⟨ha.deserted h.deserted, ha.store ▸ h.calm, h.returns, n₂, hn₂, hag.frame.trans hframe,
    (congrArg Remote.connected hag.remote).trans hconn, hc₂⟩

theorem purge (h : c.Coherent n i key w) (j : Nat) : (c.move (.purge j)).Coherent n i key w := by
  cases hj : c.nodes[j]? with
  | none => rwa [move_purge_of_none hj]
  | some m =>
    have hd := (take_spec h.deserted (s := .purge j) nofun).1
    obtain ⟨r, hm⟩ := move_purge hj
    change (c.move (.purge j)).Deserted at hd
    rw [hm] at hd ⊢
    obtain ⟨n₁, hn₁, hframe, hconn, hc⟩ := h.node
    refine ⟨hd, h.calm, h.returns, ?_⟩
    -- a purge elsewhere is none of the instance's business
    by_cases hji : j = i
    · subst hji
      cases hj.symm.trans hn₁
      refine ⟨_, List.getElem?_set_self (List.getElem?_eq_some_iff.1 hj).1, hframe, hconn, ?_, hc.store⟩
      exact hc.lru.sub Lru.purge_defaultTtl fun _ he => Lru.find?_of_find?_purge he
    · exact ⟨n₁, (List.getElem?_set_ne hji).trans hn₁, hframe, hconn, hc.lru, hc.store⟩

/-- A call that is no removal, made and answered. -/
theorem request (h : c.Coherent n i key w) (hu : call.usesCache = true) (hr : call.removal? n = none)
    (hret : ∀ wr, call.writes? n = some wr → Payload.decode (payload wr.value) = .ok wr.value) :
    ∃ t c', c.request i call none = (some t, c') ∧ c'.Coherent n i key (t.leaves n key w) := by
  obtain ⟨n₁, hn₁, hframe, hconn, hc⟩ := h.node
  obtain ⟨t, c', hreq, hover, hd, hcalm, hcall, n₂, hn₂, hframe₂, hconn₂, -, hcoh⟩ := request_site
    (Q := fun t s => (∀ key f, t.call = .getOrFetch key f → t.Tally f) ∧ t.Coheres n key w s)
    h.deserted h.calm hn₁ hconn hu ⟨fun _ _ _ => rfl, hc⟩
    (by
      rintro t t' s s' hcalm hconn hframe₁ rfl hf hover hstep ⟨htally, hcoh⟩
      have hseg := segment_step hf hover hstep
      exact ⟨fun _ _ hcall => hseg.tally (hseg.same.1 ▸ hcall) (htally _ _ (hseg.same.1 ▸ hcall)),
        hseg.coheres hstep (hframe₁.trans hframe) hf hcalm hconn hr hu htally h.returns hcoh⟩)
    (by
      rintro t s s' k due hphase hnow hst hag ⟨htally, hcoh⟩
      refine ⟨htally, ?_⟩
      unfold Task.Coheres at hcoh ⊢
      rw [hphase] at hcoh ⊢
      exact Site.Coherent.aged hcoh hnow hst hag)
  refine ⟨t, c', hreq, hd, hcalm, Task.returns_leaves h.returns (hcall.symm ▸ hret), n₂, hn₂, hframe₂.trans hframe,
    hconn₂, ?_⟩
  -- what both tiers are coherent with is read off the phase in which the call has ended
  rcases over_cases hover with ⟨reply, ended, hp⟩ | ⟨ended, hp⟩ <;> unfold Task.Coheres at hcoh <;> rw [hp] at hcoh
  · exact hcoh
  · rw [Task.leaves_of_unwritten (hcall.symm ▸ hr) (by unfold Task.wrote?; rw [hp])]
    exact hcoh

/-- A removal, made and answered. -/
theorem request_removal (h : c.Coherent n i key w) {body : Invalidation} (hr : call.removal? n = some body) :
    ∃ t c', c.request i call none = (some t, c') ∧ c'.Coherent n i key (t.leaves n key w) := by
  obtain ⟨n₁, hn₁, hframe, hconn, hc⟩ := h.node
  have hr₁ : call.removal? n₁ = some body := (congrFun (Call.removal?_of_frame hframe) call).trans hr
  obtain ⟨t, c', hreq, hover, hu⟩ := Cluster.request_removal h.deserted hn₁ hconn h.calm hr₁
  obtain ⟨hphase, hnow, hcalm, hstore, n₂, hn₂, hlru, hframe₂, hconn₂⟩ := hu.finished hover
  -- a removal writes nothing, so it leaves what it does not name
  have hleaves : t.leaves n key w = if body.Names key then none else w := by
    have hcall : t.call.removal? n = some body := (congrFun (Call.removal?_of_frame hframe) t.call).symm.trans hu.call
    have hw : t.wrote? n = none := by
      unfold Task.wrote?
      rw [hphase]
      generalize t.call = call at hcall
      cases call with
      | delete | deletePattern => rfl
      | _ => cases hcall
    unfold Task.leaves
    rw [hw, hcall]
  have hd : c'.Deserted := by
    have := request_deserted h.deserted hn₁ call none
    rwa [hreq] at this
  refine ⟨t, c', hreq, hd, hcalm, ?_, n₂, hn₂, hframe₂.trans hframe, hconn₂, ?_⟩
  · rw [hleaves]
    split
    · exact nofun
    · exact h.returns
  · rw [hleaves]
    have hshared : c'.store.inner.find? key = (body.inShared c.now c.store.inner).find? key := by rw [hstore]; rfl
    exact Site.Coherent.removed hc body hnow hframe₂ hlru hshared

end Coherent

/-- A look-up on a calm store returns what it finds. -/
theorem request_get (hd : c.Deserted) (hcalm : c.store.Calm) (hn : c.nodes[i]? = some n)
    (hconn : n.remote.connected = true) (short : String) : ∃ t, (c.request i (.get short) none).1 = some t ∧
      t.phase = .finished (.value ((c.siteOf n).found? (n.fullKey short))) c.now := by
  obtain ⟨t, c', hreq, hover, -, -, -, n', -, hframe, -, hlooks⟩ := request_site
    (Q := fun t s => (c.siteOf n).LooksUp (n.fullKey short) t.phase s) hd hcalm hn hconn
    (show (Call.get short).usesCache = true from rfl) (.begins rfl rfl rfl)
    (by
      intro t t' s s' hcalm hconn hframe hcall hf hover hstep hlooks
      rw [← Node.fullKey_of_frame hframe] at hlooks ⊢
      exact hlooks.step hcall hcalm hconn hover (segment_step hf hover hstep))
    (by
      rintro t s s' key due hphase - - - hlooks
      rw [hphase] at hlooks
      cases hlooks)
  refine ⟨t, by rw [hreq], ?_⟩
  generalize t.phase = ph at hlooks hover
  cases hlooks with
  | ends => rfl
  | _ => cases hover

/-! ## Runs -/

theorem Coherent.take {s : Stride} (h : c.Coherent n i key w) (hs : s.IsProper n i) :
    (c.take s).2.Coherent n i key ((c.answers i [s]).foldl (Task.leaves n key) w) := by
  cases s with
  | advance t => exact h.advance t
  | purge j => exact h.purge j
  | of j call =>
    obtain ⟨rfl, hu, hret⟩ := hs
    obtain ⟨t, c', hreq, hc⟩ : ∃ t c', c.request j call none = (some t, c') ∧
        c'.Coherent n j key (t.leaves n key w) := by
      cases hr : call.removal? n with
      | none => exact h.request hu hr hret
      | some body => exact h.request_removal hr
    have hans : c.answers j [.of j call] = [t] := by
      rw [answers_singleton, if_pos (show (Stride.of j call).isOf j = true from beq_self_eq_true j)]
      show (c.request j call none).1.toList = _
      rw [hreq]
      rfl
    rw [hans]
    show (c.request j call none).2.Coherent n j key _
    rw [hreq]
    exact hc

theorem Coherent.walk (h : c.Coherent n i key w) (strides : List Stride) (hs : ∀ s ∈ strides, s.IsProper n i) :
    (c.walk strides).Coherent n i key ((c.answers i strides).foldl (Task.leaves n key) w) := by
  induction strides generalizing c w with
  | nil => exact h
  | cons s strides ih =>
    have hcons : c.answers i (s :: strides) = c.answers i [s] ++ (c.take s).2.answers i strides :=
      answers_append c i [s] strides
    rw [hcons, List.foldl_append]
    exact ih (h.take (hs s (List.mem_cons_self ..))) fun s hmem => hs s (List.mem_cons_of_mem _ hmem)

/-- Two-tier coherence. One instance uses a calm store alone, both tiers being empty at first. After
any sequential run a look-up returns what its key stands for until that is gone, whatever the local
tier has lost; a copy may be returned for the default time longer; and nothing else is ever returned. -/
theorem coherence (hd : c.Deserted) (hcalm : c.store.Calm) (hn : c.nodes[i]? = some n)
    (hconn : n.remote.connected = true) (hl : n.lru.entries = []) (hst : c.store.inner.entries = []) (strides : List Stride)
    (hs : ∀ s ∈ strides, s.IsProper n i) (short : String) :
    ∃ t r, ((c.walk strides).request i (.get short) none).1 = some t ∧
      t.phase = .finished (.value r) (c.walk strides).now ∧
      match latest n (n.fullKey short) (c.answers i strides) with
      | none => r = none
      | some m =>
        ((c.walk strides).now < m.gone → r = some m.value) ∧
        (m.gone ≤ (c.walk strides).now → (c.walk strides).now < m.gone + n.defaultTtl → r = some m.value ∨ r = none) ∧
        (m.gone + n.defaultTtl ≤ (c.walk strides).now → r = none) := by
  -- empty tiers are coherent with a key that was never written
  have hbegin : c.Coherent n i (n.fullKey short) none := by
    refine ⟨hd, hcalm, nofun, n, hn, rfl, hconn, fun e he => ?_, fun e he => ?_, nofun⟩
    · unfold Lru.find? at he
      rw [show (c.siteOf n).node.lru.entries = [] from hl] at he
      cases he
    · unfold Store.find? at he
      rw [show (c.siteOf n).store.inner.entries = [] from hst] at he
      cases he
  have hend := hbegin.walk strides hs
  obtain ⟨n', hn', hframe, hconn', hc⟩ := hend.node
  obtain ⟨t, hreq, hphase⟩ := request_get hend.deserted hend.calm hn' hconn' short
  have hfound := hc.found? hend.returns
  rw [show ((c.walk strides).siteOf n').node.defaultTtl = n.defaultTtl from Node.defaultTtl_of_frame hframe] at hfound
  rw [Node.fullKey_of_frame hframe] at hphase
  exact ⟨t, _, hreq, hphase, hfound⟩

/-- A key is found again after the local tier was cleared. -/
theorem coherence_of_cleared : ∃ n, Node.make "a" {} = .ok n ∧
    let m := { n with remote.connected := true }
    let c : Cluster Store := { store := { inner := {} }, nodes := [m] }
    let strides : List Stride := [.of 0 (.set "k" (.bool true) (some (seconds 5))), .advance (seconds 2),
      .of 0 (.deletePattern "x*")]
    ∃ t r, ((c.walk strides).request 0 (.get "k") none).1 = some t ∧
      t.phase = .finished (.value r) (c.walk strides).now ∧ r.map payload = some (payload (.bool true)) := by
  obtain ⟨n, hmake⟩ : ∃ n, Node.make "a" {} = .ok n := ⟨_, rfl⟩
  refine ⟨n, hmake, ?_⟩
  intro m c strides
  have hd : c.Deserted := by
    intro x hx
    rw [List.mem_singleton.1 hx]
    cases hmake
    exact ⟨rfl, rfl⟩
  have hcalm : c.store.Calm := ⟨rfl, rfl⟩
  have hn : c.nodes[0]? = some m := rfl
  have hl : m.lru.entries = [] := by cases hmake; rfl
  have hst : c.store.inner.entries = [] := rfl
  have hproper : ∀ s ∈ strides, s.IsProper m 0 := by
    intro s hs
    simp only [strides, List.mem_cons, List.not_mem_nil, or_false] at hs
    rcases hs with rfl | rfl | rfl
    · refine ⟨rfl, rfl, fun w hw => ?_⟩
      cases hw
      rfl
    · trivial
    · exact ⟨rfl, rfl, fun w hw => by cases hw⟩
  -- the run is evaluated here, and is opaque from then on
  have hrun : (latest m (m.fullKey "k") (c.answers 0 strides)).map (fun w => (payload w.value, w.gone)) =
      some (payload (.bool true), seconds 5) ∧ (c.walk strides).now < seconds 5 := by
    cases hmake
    decide +kernel
  obtain ⟨⟨w, hw, heq⟩, hnow⟩ := And.imp_left Option.map_eq_some_iff.1 hrun
  obtain ⟨hval, hgone⟩ := Prod.mk.inj heq
  clear_value c strides
  obtain ⟨t, r, hreq, hphase, hr⟩ := coherence hd hcalm hn rfl hl hst strides hproper "k"
  rw [hw] at hr
  refine ⟨t, r, hreq, hphase, ?_⟩
  rw [hr.1 (hgone.symm ▸ hnow), Option.map_some, hval]

end Cluster

end TwoTier
