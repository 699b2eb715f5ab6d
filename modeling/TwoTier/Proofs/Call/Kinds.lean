/-
Every call is answered in kind: a deletion with whether there was anything to remove, the deletion of many keys with
how many there were, and so on, however the shared tier behaves. The reply of a deletion is settled before it is told,
so it is followed from the segment that settles it.
-/
import TwoTier.Proofs.Schedule.Solo

namespace TwoTier

/-- Whether a call is answered with such a reply. -/
def Call.takes : Call → Reply → Bool
  | .get _, .value _ => true
  | .getOrFetch _ _, .fetched _ => true
  | .set _ _ _, .done => true
  | .delete _, .removed _ => true
  | .deletePattern _, .swept _ => true
  | .stats, .stats _ => true
  | .health, .health _ => true
  | .connect, .connected _ => true
  | .shutdown, .done => true
  | _, _ => false

/-- The reply that is known in a phase. -/
def Phase.reply? : Phase → Option Reply
  | announcing reply _ => some reply
  | finished reply _ => some reply
  | _ => none

namespace Task

variable {σ : Type} {t : Task} {s : Site σ} {key : String}

/-- The reply is of the kind that the call asks for, as soon as it is known. -/
structure InKind (t : Task) : Prop where
  takes : ∀ reply, t.phase.reply? = some reply → t.call.takes reply = true

theorem inKind_become {ph : Phase} (h : ph.reply? = none) : (t.become ph s).1.InKind := by
  refine ⟨fun reply hr => ?_⟩
  change ph.reply? = _ at hr
  rw [h] at hr
  cases hr

theorem inKind_finish {reply : Reply} (h : t.call.takes reply = true) : (t.finish reply s).1.InKind := by
  refine ⟨fun reply' hr => ?_⟩
  cases hr
  exact h

/-- Look-ups find a value or none. -/
theorem inKind_answer (hc : t.call.reads? = some key) (served : Bool) (v : Option Json) :
    (t.answer served (.ok v) s).1.InKind := by
  refine inKind_finish ?_
  cases hcall : t.call with
  | get | getOrFetch => rfl
  | _ => rw [hcall] at hc; cases hc

/-- A fetch may fail as well. -/
theorem inKind_answer_fetched {fetch : Fetch} (hc : t.call = .getOrFetch key fetch) (served : Bool)
    (r : Except String (Option Json)) : (t.answer served r s).1.InKind := by
  refine inKind_finish ?_
  rw [hc]
  rfl

theorem inKind_announce {body : Invalidation} {reply : Reply} (h : t.call.takes reply = true) :
    (t.announce body reply s).1.InKind := by
  unfold announce
  cases s.node.channel with
  | none => exact inKind_finish h
  | some channel =>
    refine ⟨fun reply' hr => ?_⟩
    cases hr
    exact h

theorem inKind_lookup (hc : t.call.reads? = some key) (full : String) : (t.lookup full s).1.InKind := by
  unfold lookup
  rcases s.lookupLocal full with ⟨_ | v, s₁⟩
  · exact inKind_become rfl
  · exact inKind_answer hc ..

theorem inKind_startFetch (hc : t.call.reads? = some key) (full : String) : (t.startFetch full s).1.InKind := by
  unfold startFetch
  split
  · exact inKind_become rfl
  · exact inKind_answer hc ..

theorem inKind_miss (hc : t.call.reads? = some key) (full : String) : (t.miss full s).1.InKind := by
  unfold miss
  split
  · split
    · exact inKind_become rfl
    · exact inKind_startFetch hc full
  · exact inKind_answer hc ..

variable [Backend σ]

theorem inKind_start (t : Task) (s : Site σ) : (t.start s).1.InKind := by
  obtain ⟨c, k, ph, b, m, p⟩ := t
  unfold start
  cases c with
  | get | getOrFetch => exact inKind_lookup rfl _
  | set | delete | deletePattern | connect | shutdown => exact inKind_become rfl
  | stats | health =>
    dsimp only
    split
    · exact inKind_become rfl
    · exact inKind_finish rfl

/-- A segment keeps to the kind. -/
theorem inKind_step (hf : t.phase.Fits s.node t.call) (hk : t.InKind) : (t.step s).1.InKind := by
  obtain ⟨c, k, ph, b, m, p⟩ := t
  unfold step
  cases hf with
  | waiting => exact inKind_start ..
  | reading hc hr =>
    dsimp only
    split
    · exact inKind_answer hc ..
    · exact inKind_miss hc ..
  | queued =>
    dsimp only
    split
    · exact inKind_answer rfl ..
    · exact inKind_become rfl
  | rereading =>
    dsimp only
    split
    · exact inKind_answer rfl ..
    · exact inKind_startFetch rfl ..
  | fetching =>
    dsimp only [endFetch]
    split
    · exact inKind_become rfl
    · exact inKind_answer_fetched rfl ..
  | storing hc hr =>
    dsimp only [endStore]
    cases c with
    | set => exact inKind_finish rfl
    | getOrFetch => exact inKind_answer_fetched rfl ..
    | _ => cases hc
  | deleting hr => exact inKind_announce rfl
  | sweeping hr => exact inKind_announce rfl
  | announcing hc hr => exact inKind_finish (hk.takes _ rfl)
  | inspecting hr =>
    dsimp only
    split <;> exact inKind_finish rfl
  | probing hr => exact inKind_finish rfl
  | dialing hr =>
    dsimp only
    split
    · exact inKind_finish rfl
    · split
      · exact inKind_finish rfl
      · exact inKind_become rfl
  | resting => exact inKind_become rfl
  | hangingUp hr => exact inKind_finish rfl
  | finished => exact hk
  | cancelled => exact hk

end Task

/-- A request of a caller that never loses patience is answered in kind. -/
theorem Cluster.request_inKind {σ : Type} [Backend σ] {c : Cluster σ} {i : Nat} {n : Node} (hd : c.Deserted)
    (hn : c.nodes[i]? = some n) (call : Call) :
    ∃ t reply ended c', c.request i call none = (some t, c') ∧ t.phase = .finished reply ended ∧
      call.takes reply = true := by
  obtain ⟨t, reply, ended, ht, hp⟩ := request_answered hd hn call
  obtain ⟨t', c', hreq, -, hcall, hk⟩ := request_induct (P := fun t _ => t.call = call ∧ t.InKind) hd hn call none
    ⟨rfl, ⟨nofun⟩⟩ <| by
      rintro t t' n c c' - - hf ⟨hc, hk⟩ hsolo
      cases hsolo with
      | goesOn hr hs hstep =>
        refine ⟨hs.same.1.trans hc, ?_⟩
        have := Task.inKind_step (s := c.siteOf n) hf hk
        rwa [hstep] at this
      | dropped => exact ⟨hc, ⟨nofun⟩⟩
      | sleeps => exact ⟨hc, hk⟩
  rw [hreq] at ht
  cases ht
  exact ⟨t, reply, ended, _, hreq, hp, hcall ▸ hk.takes reply (by rw [hp]; rfl)⟩

end TwoTier
