/-
Error accounting. An instance counts the failures of the shared tier in two places, in its books and at its client.
The client counts every failure once. The books do not: when a call that has stood in line looks a second time, a
failure is reported to the client only, as is a failed question for the figures of the store.
-/
import TwoTier.Proofs.Cluster.Balance
import TwoTier.Store

namespace TwoTier

variable {σ : Type} [Backend σ]

/-- Whether a failure comes next that is not entered into the books: of a second look, or of a question for figures. -/
def Task.escapes (t : Task) (s : Site σ) : Bool :=
  match t.phase with
  | .rereading _ _ => t.fails s
  | .inspecting _ _ => t.fails s
  | _ => false

/-- What a step enters of failures is what it reports, less what escapes the books. -/
theorem Posting.errors {s : Site σ} {t t' : Task} {p : Slip} (h : Posting s t t' p) (hf : p.failures = (t.fails s).toNat) :
    p.books.l2.errors + (t.escapes s).toNat = (t.fails s).toNat := by
  cases h with
  | aside hc hb =>
    unfold Task.escapes
    split
    · exact Nat.zero_add _
    · exact Nat.zero_add _
    · exact hf
  | rehitShared | remissShared | inspected => exact Nat.zero_add _
  | _ => exact hf

/-- Nothing escapes without a line to stand in, but for questions for figures. -/
theorem Phase.Fits.not_escapes {n : Node} {t : Task} {s : Site σ} (h : t.phase.Fits n t.call) (hco : n.coalesce = false)
    (hc : t.call ≠ .stats) : t.escapes s = false := by
  unfold Task.escapes
  generalize hcall : t.call = call at h hc
  split
  · rename_i hp
    rw [hp] at h
    cases h with
    | rereading hon => rw [hco] at hon; cases hon
  · rename_i hp
    rw [hp] at h
    cases h
    exact absurd rfl hc
  · rfl

namespace Cluster

variable {c : Cluster σ} {i : Nat} {n n₀ : Node}

/-- A call stays what it is. -/
theorem run_call (hs : c.Sound) {k : Nat} {t : Task} (hj : c.jobs[k]? = some ⟨i, t⟩) (moves : List Move) :
    ∃ t', (c.run moves).jobs[k]? = some ⟨i, t'⟩ ∧ t'.call = t.call := by
  refine (run_induct (P := fun c' => ∃ t', c'.jobs[k]? = some ⟨i, t'⟩ ∧ t'.call = t.call) hs ⟨t, hj, rfl⟩ ?_ moves).2
  rintro c c' m - ⟨t₁, hj₁, hcall⟩ hm
  obtain ⟨t₂, hj₂, rfl | ⟨_, _, -, -, hseg⟩ | ⟨-, rfl⟩⟩ := hm.job hj₁
  · exact ⟨_, hj₂, hcall⟩
  · exact ⟨_, hj₂, hseg.same.1.trans hcall⟩
  · exact ⟨_, hj₂, hcall⟩

theorem tally_escapes (hs : c.Sound) (hn : c.nodes[i]? = some n) (hco : n.coalesce = false) (moves : List Move)
    (hc : ∀ t ∈ (c.run moves).tasksAt i, t.call ≠ .stats) : tally i Task.escapes c moves = 0 := by
  induction moves generalizing c n with
  | nil => rfl
  | cons m moves ih =>
    have hm := step_move hs m
    obtain ⟨n₁, hn₁, hframe⟩ := node_of_frames hm.frames hn
    have hrest := ih (hm.sound hs) hn₁ ((Node.coalesce_of_frame hframe).trans hco) hc
    have hnow : (c.resumed? i m).elim 0 (fun x => (x.1.escapes x.2).toNat) = 0 := by
      cases hr : c.resumed? i m with
      | none => rfl
      | some x =>
        obtain ⟨k, hj⟩ := resumed?_eq_some hr
        obtain ⟨t', hj', hcall⟩ := run_call hs hj (m :: moves)
        have hfits := hs.fits_node hj hn
        have hescapes := hfits.not_escapes (s := x.2) hco (hcall ▸ hc t' (mem_tasksAt.2 ⟨k, hj'⟩))
        rw [Option.elim_some, hescapes]
        rfl
    unfold tally at hrest ⊢
    rw [along, hnow, hrest]

/-- Error accounting. Calls to an instance that has counted no failures yet, and to any others around the same store,
may be interleaved, fail and be dropped in any way. Its client counts every failure of the shared tier once; its books
lack those of second looks and of questions for figures, and no others. So without a line to stand in and without such
questions both show the same. -/
theorem error_accounting (c : Cluster σ) (hj : c.jobs = []) (hn₀ : c.nodes[i]? = some n₀) (hb : n₀.books.l2.errors = 0)
    (he : n₀.remote.errors = 0) (moves : List Move) (hn : (c.run moves).nodes[i]? = some n) :
    n.remote.errors = tally i Task.fails c moves ∧
      n.books.l2.errors + tally i Task.escapes c moves = n.remote.errors ∧
      (n.coalesce = false → (∀ t ∈ (c.run moves).tasksAt i, t.call ≠ .stats) →
        n.books.snapshot.l2.errors = shown n.remote.errors) := by
  have hs := sound_of_no_jobs hj
  have hfails : n.remote.errors + tally i (fun _ _ => false) c moves = n₀.remote.errors + tally i Task.fails c moves :=
    tally_run (a := Slip.failures) (g := fun _ _ => false) (fun _ _ => rfl) (fun _ hf => hf) (fun _ => rfl) hs hn₀ moves hn
  have hentered : n.books.l2.errors + tally i Task.escapes c moves = n₀.books.l2.errors + tally i Task.fails c moves :=
    tally_run (a := (·.books.l2.errors)) (fun _ _ => rfl) Posting.errors (fun _ => rfl) hs hn₀ moves hn
  have hnone : tally i (fun _ _ => false) c moves = 0 := tally_false ..
  refine ⟨by omega, by omega, fun hco hc => congrArg shown ?_⟩
  obtain ⟨n', hn', hframe⟩ := node_of_frames (run_frames hs moves) hn₀
  cases hn.symm.trans hn'
  have := tally_escapes hs hn₀ ((Node.coalesce_of_frame hframe).symm.trans hco) moves hc
  omega

/-- The books do not tell all failures that the client has counted, though all calls have ended: while the shared tier
fails every look, a call looks twice. -/
theorem second_look_not_entered : ∃ a, Node.make "a" { coalesceFetches := true } = .ok a ∧
    let c : Cluster Store := { store := { inner := {} }, nodes := [{ a with remote.connected := true }] }
    let moves : List Move := [.script .get { failure := some (.connection "down") },
      .call 0 0 none (.getOrFetch "k" { outcome := .ok none }), .resume 0, .resume 0, .resume 0, .resume 0, .resume 0]
    ∃ n, (c.run moves).nodes[0]? = some n ∧ (c.run moves).AtRest 0 ∧ (c.run moves).Kept 0 ∧
      n.books.snapshot.l2.errors ≠ shown n.remote.errors :=
  ⟨_, rfl, _, rfl, by decide, by decide, by decide⟩

/-- Both looks of a call fail, and one of them is entered. -/
theorem error_accounting_of_two_looks : ∃ a, Node.make "a" { coalesceFetches := true } = .ok a ∧
    let c : Cluster Store := { store := { inner := {} }, nodes := [{ a with remote.connected := true }] }
    let moves : List Move := [.script .get { failure := some (.connection "down") },
      .call 0 0 none (.getOrFetch "k" { outcome := .ok none }), .resume 0, .resume 0, .resume 0, .resume 0, .resume 0]
    ∃ n, (c.run moves).nodes[0]? = some n ∧ tally 0 Task.fails c moves = 2 ∧ tally 0 Task.escapes c moves = 1 ∧
      n.remote.errors = tally 0 Task.fails c moves ∧
      n.books.l2.errors + tally 0 Task.escapes c moves = n.remote.errors ∧
      (n.coalesce = false → (∀ t ∈ (c.run moves).tasksAt 0, t.call ≠ .stats) →
        n.books.snapshot.l2.errors = shown n.remote.errors) :=
  ⟨_, rfl, _, rfl, by decide, by decide, error_accounting _ rfl rfl rfl rfl _ rfl⟩

end Cluster

end TwoTier
