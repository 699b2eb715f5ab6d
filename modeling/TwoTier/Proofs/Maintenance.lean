/-
How long dead entries linger. An instance is purged by ticks, while calls go on, messages arrive, the clock moves and its
local tier is worked on alone, in any order. An entry that is resident after a tick has not expired by then, and one that
comes later expires later. So where the next tick is due at most an interval after the last one was run, and has been run
by the end of a step if it is due, no entry is resident an interval after its deadline. Purges drop nothing that is live.
-/
import TwoTier.Proofs.Cluster.Run
import TwoTier.Proofs.Lru.Recency
import TwoTier.Store

namespace TwoTier

/-! ## What becomes resident -/

namespace Lru

variable {α : Type} {l l' l'' : Lru α} {now : Nat}

/-- Whatever is resident in the second tier is resident in the first, or has not expired before `now`. -/
def Renewed (now : Nat) (l l' : Lru α) : Prop :=
  ∀ ⦃k : String⦄ ⦃e : Entry α⦄, l'.find? k = some e → l.find? k = some e ∨ now ≤ e.deadline

theorem Renewed.refl (now : Nat) (l : Lru α) : Renewed now l l := fun _ _ he => Or.inl he

/-- Only a write brings an entry, and it brings one that expires now at the earliest. -/
theorem renewed_act (s : Timed α) (a : Act α) : Renewed s.now s.lru (s.act a).lru := by
  intro k e he
  rcases find?_of_act he with ⟨v, ttl, -, rfl⟩ | ⟨-, -, he⟩
  · exact Or.inr (Nat.le_add_right ..)
  · exact Or.inl he

/-- A purge keeps the entries that are live, in their order, and no others. -/
theorem entries_purge (l : Lru α) (now : Nat) :
    (l.purge now).2.entries = l.entries.filter fun x => decide (now < x.2.deadline) := by
  show l.entries.filter (fun x => !x.2.isExpired now) = _
  refine List.filter_congr fun x _ => ?_
  simp only [Entry.isExpired, isExpired, ← decide_not, Nat.not_le]

theorem lt_deadline_of_purge {k : String} {e : Entry α} (he : (l.purge now).2.find? k = some e) : now < e.deadline := by
  rw [find?_purge, Option.filter_eq_some_iff] at he
  simpa [Entry.isExpired, isExpired] using he.2

end Lru

section Segments

variable {σ : Type} [Backend σ] {s s' : Site σ} {t t' : Task}

/-- A segment reads the local tier, writes it, deletes from it or clears it at most once. -/
theorem Segment.renewed (h : Segment s s' t t') : Lru.Renewed s.now s.node.lru s'.node.lru := by
  have hact (a : Lru.Act Json) := Lru.renewed_act ⟨s.now, s.node.lru⟩ a
  -- the end of a trip leaves the instance alone, and a value that was found is then written
  have hfinish {β : Type} {trip : Trip β} {reply : Except CacheError β} {s₁ : Site σ} (hf : s.finish trip = (reply, s₁)) :
      s₁.node.lru = s.node.lru := congrArg Node.lru (Site.finish_spec hf).node
  have hpromoted {trip : Trip (Option Bytes)} {reply : Except CacheError (Option Bytes)} {s₁ : Site σ} (key : String)
      (v : Json) (hf : s.finish trip = (reply, s₁)) :
      Lru.Renewed s.now s.node.lru (s₁.promoted key (some v)).node.lru := by
    show Lru.Renewed _ _ (s₁.node.lru.set s₁.now key v none).2
    rw [hfinish hf, (Site.finish_spec hf).now]
    exact hact (.set key v none)
  cases h with
  | hitLocal hc hv hs => rw [hs.lru]; exact hact (.get _)
  | missLocal hc hv hs ht | remissLocal hv hs ht =>
    rw [(Site.call_spec ht).2.2.node, hs.lru]
    exact hact (.get _)
  | rehitLocal hv hs => rw [hs.lru]; exact hact (.get _)
  | hitShared hf hv hs | rehitShared hf hv hs => rw [hs.lru]; exact hpromoted _ _ hf
  | missGet hf hv hs | fetchAtOnce hf hv hco hs | queue hf hv hco hs | remissShared hf hv hs | stored hf hs
  | storedFetched hf hs =>
    rw [hs.lru]
    exact hfinish hf ▸ .refl s.now s.node.lru
  | fetched ho hw hs ht | put hw hs ht =>
    rw [(Site.call_spec ht).2.2.node, hs.lru]
    exact hact (.set _ _ (some _))
  | unfetched ho hs => rw [hs.lru]; exact .refl ..
  | drop hd ht =>
    obtain rfl := congrArg Prod.snd hd
    rw [(Site.call_spec ht).2.2.node]
    exact hact (.delete _)
  | dropAll ht =>
    rw [(Site.call_spec ht).2.2.node]
    exact hact .clear
  | dropped hf hq | swept hf hq =>
    rw [hq.lru, hfinish hf]
    exact .refl ..
  | aside hc hb hi hfits hr hs hq =>
    rw [hq.lru]
    rcases hs with rfl | ⟨-, on, rfl⟩
    · exact .refl ..
    · exact .refl ..

end Segments

namespace Cluster

variable {σ : Type} {c c' : Cluster σ} {i j : Nat} {n n' : Node} {ts : List Nat}

/-! ## Acts -/

/-- What may happen: a move, or work on the local tier of an instance alone. -/
inductive Act where
  | move (m : Move)
  | alone (i : Nat) (a : Lru.Act Json)

/-- Whether an act is a tick at which an instance is purged. -/
def Act.isTick (j : Nat) : Act → Bool
  | .move (.purge i) => i == j
  | _ => false

/-- Whether an act purges the local tier of an instance, by a tick or by hand. -/
def Act.isPurge (j : Nat) : Act → Bool
  | .alone i .purge => i == j
  | a => a.isTick j

theorem Act.isPurge_of_isTick {a : Act} (h : a.isTick j = true) : a.isPurge j = true := by
  cases a with
  | move m => exact h
  | alone i a => cases h

/-- The cluster after work on a local tier, which may take time. -/
def workOn (c : Cluster σ) (i : Nat) (a : Lru.Act Json) : Cluster σ :=
  match c.nodes[i]? with
  | none => c
  | some n =>
    let after := (Lru.Timed.mk c.now n.lru).act a
    { c.withNode i { n with lru := after.lru } with now := after.now }

variable [Backend σ]

def act (c : Cluster σ) : Act → Cluster σ
  | .move m => c.move m
  | .alone i a => c.workOn i a

/-- The cluster after several acts. -/
def acts (c : Cluster σ) (as : List Act) : Cluster σ := as.foldl act c

/-- The instants of the ticks in the course of several acts. -/
def ticks (j : Nat) (c : Cluster σ) : List Act → List Nat
  | [] => []
  | a :: as => (if a.isTick j then [c.now] else []) ++ (c.act a).ticks j as

theorem acts_concat (c : Cluster σ) (as : List Act) (a : Act) : c.acts (as ++ [a]) = (c.acts as).act a :=
  List.foldl_concat ..

omit [Backend σ] in
theorem frame_workOn (n : Node) (now : Nat) (a : Lru.Act Json) :
    Node.frame { n with lru := ((Lru.Timed.mk now n.lru).act a).lru } = n.frame := by
  have hbare : ((Lru.Timed.mk now n.lru).act a).lru.bare = n.lru.bare := by
    cases a with
    | get key => exact Lru.bare_get ..
    | set key v ttl => exact Lru.bare_set ..
    | delete key => exact Lru.bare_delete ..
    | apply m self =>
      rcases Lru.apply_cases m self n.lru with ⟨hl, -⟩ | ⟨key, hl, -⟩ | ⟨hl, -⟩ <;>
        show (m.apply self n.lru).2.bare = _ <;> rw [hl]
      · exact Lru.bare_delete ..
      · rfl
    | _ => rfl
  show { n.frame with lru := ((Lru.Timed.mk now n.lru).act a).lru.bare } = n.frame
  rw [hbare]
  rfl

omit [Backend σ] in
/-- Work on a local tier alone is none of the calls' business. -/
theorem Sound.workOn (h : c.Sound) (i : Nat) (a : Lru.Act Json) : (c.workOn i a).Sound := by
  unfold Cluster.workOn
  cases hn : c.nodes[i]? with
  | none => exact h
  | some n =>
    refine ⟨h.ticket, fun {k node t} hj => ?_⟩
    obtain ⟨n₀, hn₀, hf⟩ := h.fits hj
    have hframes : (c.nodes.set i { n with lru := ((Lru.Timed.mk c.now n.lru).act a).lru }).map Node.frame =
        c.nodes.map Node.frame := map_set_of_eq hn _ (frame_workOn n c.now a)
    obtain ⟨n', hn', hfr⟩ : ∃ n', (c.withNode i _).nodes[node]? = some n' ∧ n'.frame = n₀.frame :=
      node_of_frames hframes hn₀
    exact ⟨n', hn', hf.of_frame hfr⟩

theorem Sound.act (h : c.Sound) (a : Act) : (c.act a).Sound := by
  cases a with
  | move m => exact (step_move h m).sound h
  | alone i a => exact h.workOn i a

theorem now_le_act (h : c.Sound) (a : Act) : c.now ≤ (c.act a).now := by
  cases a with
  | move m => exact (step_move h m).now_le
  | alone i a =>
    show c.now ≤ (c.workOn i a).now
    unfold workOn
    cases c.nodes[i]? with
    | none => exact Nat.le_refl _
    | some n => exact Lru.Timed.now_le_act ⟨c.now, n.lru⟩ a

omit [Backend σ] in
/-- Instances with their tiers renewed. -/
theorem renewed_set {m : Node} (hn : c.nodes[i]? = some n) (hm : Lru.Renewed c.now n.lru m.lru)
    (hn' : (c.nodes.set i m)[j]? = some n') : ∃ n, c.nodes[j]? = some n ∧ Lru.Renewed c.now n.lru n'.lru := by
  rcases set_cases hn' with ⟨rfl, rfl⟩ | ⟨-, hn'⟩
  · exact ⟨n, hn, hm⟩
  · exact ⟨n', hn', .refl ..⟩

theorem Step.renewed {m : Move} (h : Step c m c') (hn' : c'.nodes[j]? = some n') :
    ∃ n, c.nodes[j]? = some n ∧ Lru.Renewed c.now n.lru n'.lru := by
  cases h with
  | idle | call | wait | script => exact ⟨n', hn', .refl ..⟩
  | resume hj hn hr hseg => exact renewed_set hn hseg.renewed hn'
  | cancel hj hn ho => exact renewed_set (m := Task.released _ _) hn (.refl c.now _) hn'
  | purge hn => exact renewed_set hn (Lru.renewed_act ⟨c.now, _⟩ .purge) hn'
  | deliver hn hl =>
    refine renewed_set hn ?_ hn'
    rcases hl with rfl | ⟨key, rfl⟩ | rfl
    · exact .refl ..
    · exact Lru.renewed_act ⟨c.now, _⟩ (.delete key)
    · exact Lru.renewed_act ⟨c.now, _⟩ .clear

/-- Whatever an act makes resident expires now at the earliest. -/
theorem renewed_act (h : c.Sound) (a : Act) (hn' : (c.act a).nodes[j]? = some n') :
    ∃ n, c.nodes[j]? = some n ∧ Lru.Renewed c.now n.lru n'.lru := by
  cases a with
  | move m => exact (step_move h m).renewed hn'
  | alone i a =>
    change (c.workOn i a).nodes[j]? = some n' at hn'
    unfold workOn at hn'
    cases hn : c.nodes[i]? with
    | none => rw [hn] at hn'; exact ⟨n', hn', .refl ..⟩
    | some n => rw [hn] at hn'; exact renewed_set hn (Lru.renewed_act ⟨c.now, n.lru⟩ a) hn'

theorem lru_purge (hn : c.nodes[j]? = some n) {a : Act} (ha : a.isPurge j = true) :
    ∃ n', (c.act a).nodes[j]? = some n' ∧ n'.lru = (n.lru.purge c.now).2 := by
  have hplace {m : Node} : (c.nodes.set j m)[j]? = some m := List.getElem?_set_self (List.getElem?_eq_some_iff.1 hn).1
  cases a with
  | alone i a =>
    cases a with
    | purge =>
      obtain rfl : i = j := beq_iff_eq.mp ha
      show ∃ n', (c.workOn i .purge).nodes[i]? = some n' ∧ _
      unfold workOn
      rw [hn]
      exact ⟨_, hplace, rfl⟩
    | _ => cases ha
  | move m =>
    cases m with
    | purge i =>
      obtain rfl : i = j := beq_iff_eq.mp ha
      show ∃ n', (c.onSite i Site.purge).nodes[i]? = some n' ∧ _
      unfold onSite
      rw [site?_of_node hn]
      exact ⟨_, hplace, rfl⟩
    | _ => cases ha

/-! ## Since the last tick -/

/-- No tick of the past left behind, and nothing brought back, what had expired by then. -/
structure Swept (j : Nat) (c : Cluster σ) (ts : List Nat) : Prop where
  sound : c.Sound
  past : ∀ t ∈ ts, t ≤ c.now
  alive : ∀ t ∈ ts, ∀ n, c.nodes[j]? = some n → ∀ k e, n.lru.find? k = some e → t ≤ e.deadline

omit [Backend σ] in
theorem swept_start (h : c.Sound) : c.Swept j [] := ⟨h, by simp, by simp⟩

theorem Swept.act (h : c.Swept j ts) (a : Act) : (c.act a).Swept j (ts ++ if a.isTick j then [c.now] else []) := by
  have hnow := now_le_act h.sound a
  have hnew {t : Nat} (ht : t ∈ if a.isTick j then [c.now] else []) : a.isTick j = true ∧ t = c.now := by
    split at ht
    · exact ⟨‹_›, List.mem_singleton.mp ht⟩
    · cases ht
  refine ⟨h.sound.act a, fun t ht => ?_, fun t ht n' hn' k e he => ?_⟩
  · rcases List.mem_append.mp ht with ht | ht
    · exact (h.past t ht).trans hnow
    · exact (hnew ht).2 ▸ hnow
  · obtain ⟨n, hn, hrenewed⟩ := renewed_act h.sound a hn'
    rcases List.mem_append.mp ht with ht | ht
    · rcases hrenewed he with he | hle
      · exact h.alive t ht n hn k e he
      · exact (h.past t ht).trans hle
    · obtain ⟨htick, rfl⟩ := hnew ht
      obtain ⟨n₁, hn₁, hl⟩ := lru_purge hn (Act.isPurge_of_isTick htick)
      cases hn'.symm.trans hn₁
      rw [hl] at he
      exact Nat.le_of_lt (Lru.lt_deadline_of_purge he)

theorem Swept.acts (h : c.Swept j ts) (as : List Act) : (c.acts as).Swept j (ts ++ c.ticks j as) := by
  induction as generalizing c ts with
  | nil => rw [Cluster.ticks, List.append_nil]; exact h
  | cons a as ih =>
    rw [Cluster.ticks, ← List.append_assoc]
    exact ih (h.act a)

/-! ## Maintenance -/

/-- The acts of the first steps. -/
def upTo (steps : List (List Act)) (k : Nat) : List Act := (steps.take k).flatten

/-- A timer keeps ticking in the course of some steps. The first tick is due at once. Each further one is due at most an
interval after the one before it was run, so after a delay it may be late. At the end of every step each tick that is due
has been run. -/
structure Maintained (j interval : Nat) (c : Cluster σ) (steps : List (List Act)) (due : Nat → Nat) : Prop where
  first : due 0 = c.now
  apart : ∀ tick t, (c.ticks j steps.flatten)[tick]? = some t → due (tick + 1) ≤ t + interval
  caughtUp : ∀ k < steps.length, ∀ tick, due tick ≤ (c.acts (upTo steps (k + 1))).now →
    tick < (c.ticks j (upTo steps (k + 1))).length

theorem ticks_append (c : Cluster σ) (as bs : List Act) :
    c.ticks j (as ++ bs) = c.ticks j as ++ (c.acts as).ticks j bs := by
  induction as generalizing c with
  | nil => rfl
  | cons a as ih =>
    show _ ++ (c.act a).ticks j (as ++ bs) = _ ++ (c.act a).ticks j as ++ _
    rw [ih, List.append_assoc]
    rfl

theorem acts_now_le (h : c.Sound) (as : List Act) : c.now ≤ (c.acts as).now := by
  induction as generalizing c with
  | nil => exact Nat.le_refl _
  | cons a as ih => exact (now_le_act h a).trans (ih (h.act a))

/-- At the end of a step the last tick is less than an interval ago. -/
theorem Maintained.last_tick {interval : Nat} {steps : List (List Act)} {due : Nat → Nat}
    (h : Maintained j interval c steps due) (hs : c.Sound) {k : Nat} (hk : k < steps.length) :
    ∃ t ∈ c.ticks j (upTo steps (k + 1)), (c.acts (upTo steps (k + 1))).now < t + interval := by
  have hcaught := h.caughtUp k hk
  -- there has been a tick, since the first one was due from the start
  have hfirst : 0 < (c.ticks j (upTo steps (k + 1))).length :=
    hcaught 0 (h.first ▸ acts_now_le hs _)
  obtain ⟨last, hlast⟩ : ∃ last, (c.ticks j (upTo steps (k + 1))).length = last + 1 :=
    Nat.exists_eq_add_one_of_ne_zero (Nat.ne_of_gt hfirst)
  obtain ⟨t, ht⟩ : ∃ t, (c.ticks j (upTo steps (k + 1)))[last]? = some t :=
    ⟨_, List.getElem?_eq_getElem (by omega)⟩
  -- it is a tick of the whole run as well, so the next one is due in time, and has not come yet
  have hwhole : (c.ticks j steps.flatten)[last]? = some t := by
    have hsplit : steps.flatten = upTo steps (k + 1) ++ (steps.drop (k + 1)).flatten := by
      rw [upTo, ← List.flatten_append, List.take_append_drop]
    rw [hsplit, ticks_append, List.getElem?_append_left (by omega), ht]
  have hnext : ¬ due (last + 1) ≤ (c.acts (upTo steps (k + 1))).now := fun hdue => by
    have := hcaught (last + 1) hdue
    omega
  have hapart := h.apart last t hwhole
  exact ⟨t, List.mem_of_getElem? ht, by omega⟩

/-- Maintenance bounds how long dead entries linger. Whatever is done to a cluster, at the end of every step the local
tier of the instance holds no entry that had been dead for an interval, and each purge on the way kept every entry that
was not dead yet, in its order. -/
theorem lingering_bounded (hs : c.Sound) {interval : Nat} {steps : List (List Act)} {due : Nat → Nat}
    (h : Maintained j interval c steps due) :
    (∀ k < steps.length, ∀ n, (c.acts (upTo steps (k + 1))).nodes[j]? = some n →
      ∀ key e, n.lru.find? key = some e → (c.acts (upTo steps (k + 1))).now < e.deadline + interval) ∧
    ∀ before a after, steps.flatten = before ++ a :: after → a.isPurge j = true → ∀ n, (c.acts before).nodes[j]? = some n →
      ∃ n', (c.acts (before ++ [a])).nodes[j]? = some n' ∧
        n'.lru.entries = n.lru.entries.filter fun x => decide ((c.acts before).now < x.2.deadline) := by
  constructor
  · intro k hk n hn key e he
    obtain ⟨t, ht, hlt⟩ := h.last_tick hs hk
    have halive := ((swept_start hs).acts (upTo steps (k + 1))).alive t ht n hn key e he
    omega
  · intro before a after _ hpurge n hn
    obtain ⟨n', hn', hl⟩ := lru_purge hn hpurge
    rw [acts_concat]
    exact ⟨n', hn', hl ▸ Lru.entries_purge ..⟩

/-- Two keys are written, one for 5 nanoseconds and one for 100, and a tick comes at once; then 25 nanoseconds pass in
which two ticks are missed, and one is made up for. -/
theorem lingering_bounded_of_two : ∃ a, Node.make "a" { maxSize := 2 } = .ok a ∧
    let c : Cluster Store := { store := { inner := {} }, nodes := [a] }
    let steps : List (List Act) := [
      [.alone 0 (.set "k" (.int 7) (some 5)), .alone 0 (.set "l" (.int 8) (some 100)), .move (.purge 0)],
      [.alone 0 (.advance 25), .move (.purge 0)]]
    c.Sound ∧ Maintained 0 10 c steps (fun tick => [0, 10].getD tick 35) ∧
      ∃ n, (c.acts (upTo steps 2)).nodes[0]? = some n ∧ n.lru.find? "k" = none ∧
        n.lru.find? "l" = some ⟨.int 8, 100⟩ ∧ 25 < 100 + 10 := by
  refine ⟨_, rfl, ?_⟩
  intro c steps
  have hs : c.Sound := sound_of_no_jobs rfl
  have hticks : c.ticks 0 steps.flatten = [0, 25] := rfl
  have hm : Maintained 0 10 c steps (fun tick => [0, 10].getD tick 35) := by
    refine ⟨rfl, fun tick t ht => ?_, fun k hk tick hdue => ?_⟩
    · rw [hticks] at ht
      match tick, ht with
      | 0, ht => cases ht; decide
      | 1, ht => cases ht; decide
    · match k, hk with
      | 0, _ =>
        change [0, 10].getD tick 35 ≤ 0 at hdue
        rcases tick with _ | _ | tick
        · decide
        all_goals simp at hdue
      | 1, _ =>
        change [0, 10].getD tick 35 ≤ 25 at hdue
        rcases tick with _ | _ | tick
        · decide
        · decide
        · simp at hdue
  exact ⟨hs, hm, _, rfl, rfl, rfl, (lingering_bounded hs hm).1 1 (by decide) _ rfl "l" _ rfl⟩

end Cluster

end TwoTier
