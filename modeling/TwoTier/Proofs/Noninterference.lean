/-
Noninterference. Instances whose keyspaces lie apart use a calm store side by side. Whatever one of them
is asked, every answer of the other, all that it holds and counts, and the store's share of its keyspace
are as if nothing had been asked.
-/
import TwoTier.Proofs.Cluster.Twins
import TwoTier.Proofs.Schedule.Strides

namespace TwoTier

namespace Cluster

/-- What is left of a stride without the calls to an instance: when one of them has taken time, the clock
comes to the same instant by itself. -/
def remains (c : Cluster Store) (a : Nat) (s : Stride) : List Stride :=
  if s.isOf a then (if (c.take s).2.now = c.now then [] else [.advance (c.take s).2.now]) else [s]

/-- The run without the calls to an instance. -/
def without (c : Cluster Store) (a : Nat) : List Stride → List Stride
  | [] => []
  | s :: strides => c.remains a s ++ (c.take s).2.without a strides

/-- Two instances with keyspaces of their own, and nobody in line anywhere. -/
structure Neighbours (scope other : String) (a b : Nat) (c : Cluster Store) : Prop where
  deserted : c.Deserted
  asked : ∃ m, c.nodes[a]? = some m ∧ m.IsScoped ∧ m.keyspace = other
  watched : ∃ n, c.nodes[b]? = some n ∧ n.IsScoped ∧ n.keyspace = scope

variable {scope other : String} {a b : Nat} {c c' : Cluster Store} {s : Stride}

theorem Neighbours.take (h : Neighbours scope other a b c) (hs : ∀ i call, s = .of i call → i = a ∨ i = b) :
    Neighbours scope other a b (c.take s).2 := by
  obtain ⟨m, hm, hms, hmk⟩ := h.asked
  obtain ⟨n, hn, hns, hnk⟩ := h.watched
  obtain ⟨hd, hframes⟩ := take_spec h.deserted (s := s) fun i call hi => by
    rcases hs i call hi with rfl | rfl
    · exact (List.getElem?_eq_some_iff.1 hm).1
    · exact (List.getElem?_eq_some_iff.1 hn).1
  obtain ⟨m', hm', hmf⟩ := node_of_frames hframes hm
  obtain ⟨n', hn', hnf⟩ := node_of_frames hframes hn
  exact ⟨hd, ⟨m', hm', hms.of_frame hmf, (Node.keyspace_of_frame hmf).trans hmk⟩,
    ⟨n', hn', hns.of_frame hnf, (Node.keyspace_of_frame hnf).trans hnk⟩⟩

/-- What a stride does to twins, one of which goes without the calls to the other instance. -/
theorem Twins.take (h : Twins scope b c c') (hnb : Neighbours scope other a b c) (hab : a ≠ b) (hap : Apart scope other)
    (hs : ∀ i call, s = .of i call → (i = a ∨ i = b) ∧ call.usesCache = true) :
    Twins scope b (c.take s).2 (c'.walk (c.remains a s)) ∧ c'.answers b (c.remains a s) = c.answers b [s] := by
  obtain ⟨m, hm, hms, rfl⟩ := hnb.asked
  obtain ⟨n, hn, hns, rfl⟩ := hnb.watched
  cases s with
  | advance t => exact ⟨h.advance t, rfl⟩
  | purge i => exact ⟨h.purge i, rfl⟩
  | of i call =>
    obtain ⟨hi, hu⟩ := hs i call rfl
    unfold remains
    -- calls to the one instance are left out, calls to the other are made on both sides
    rcases hi with rfl | rfl
    · have htwins := h.elsewhere hnb.deserted hab hm hms hap hu
      have hnot : (Stride.of i call).isOf b = false := beq_eq_false_iff_ne.2 hab
      rw [answers_singleton, hnot, if_pos (show (Stride.of i call).isOf i = true from beq_self_eq_true i)]
      split
      · rename_i hnow
        change (c.request i call none).2.now = c.now at hnow
        rw [hnow, ← h.now, advance_now] at htwins
        exact ⟨htwins, rfl⟩
      · exact ⟨htwins, rfl⟩
    · obtain ⟨htwins, hans⟩ := h.request hn hns hu none
      rw [if_neg (show ¬ (Stride.of i call).isOf a = true from fun hi => hab (eq_of_beq hi).symm)]
      refine ⟨htwins, ?_⟩
      rw [answers_singleton, answers_singleton]
      exact congrArg (fun t => if (Stride.of i call).isOf i then Option.toList t else []) hans

theorem Twins.walk (h : Twins scope b c c') (hnb : Neighbours scope other a b c) (hab : a ≠ b) (hap : Apart scope other)
    (strides : List Stride) (hs : ∀ i call, .of i call ∈ strides → (i = a ∨ i = b) ∧ call.usesCache = true) :
    Twins scope b (c.walk strides) (c'.walk (c.without a strides)) ∧
      c'.answers b (c.without a strides) = c.answers b strides := by
  induction strides generalizing c c' with
  | nil => exact ⟨h, rfl⟩
  | cons s strides ih =>
    have hhead : ∀ i call, s = .of i call → (i = a ∨ i = b) ∧ call.usesCache = true := fun i call hi =>
      hs i call (hi ▸ List.mem_cons_self ..)
    obtain ⟨htwins, hans⟩ := h.take hnb hab hap hhead
    obtain ⟨hwalk, hrest⟩ := ih htwins (hnb.take fun i call hi => (hhead i call hi).1)
      fun i call hi => hs i call (List.mem_cons_of_mem _ hi)
    have hcons : c.answers b (s :: strides) = c.answers b [s] ++ (c.take s).2.answers b strides :=
      answers_append c b [s] strides
    unfold without
    rw [walk_append, answers_append, hrest, hans, hcons]
    exact ⟨hwalk, rfl⟩

variable {m n : Node}

/-- Noninterference. Of two instances on a calm store, neither of whose keyspaces is the beginning of the
other, one may be asked whatever uses the cache: the answers of the other one, all that it holds and
counts, and the store's share of its keyspace are as in the run without those calls. -/
theorem noninterference (hd : c.Deserted) (hcalm : c.store.Calm) (hab : a ≠ b) (hm : c.nodes[a]? = some m)
    (hn : c.nodes[b]? = some n) (hms : m.IsScoped) (hns : n.IsScoped) (hap : Apart n.keyspace m.keyspace)
    (strides : List Stride) (hs : ∀ i call, .of i call ∈ strides → (i = a ∨ i = b) ∧ call.usesCache = true) :
    c.answers b (c.without a strides) = c.answers b strides ∧
      (c.walk (c.without a strides)).now = (c.walk strides).now ∧
      (c.walk (c.without a strides)).nodes[b]? = (c.walk strides).nodes[b]? ∧
      (c.walk (c.without a strides)).store.inner.share n.keyspace = (c.walk strides).store.inner.share n.keyspace := by
  have htwins : Twins n.keyspace b c c := ⟨rfl, rfl, rfl, hcalm, hcalm, rfl⟩
  obtain ⟨hwalk, hans⟩ := htwins.walk ⟨hd, ⟨m, hm, hms, rfl⟩, ⟨n, hn, hns, rfl⟩⟩ hab hap strides hs
  exact ⟨hans, hwalk.now, hwalk.node, hwalk.store.share⟩

/-- One of two instances sets a key, the other one clears its keys and sets its own one, and the first
reads. -/
theorem noninterference_of_clear : ∃ m n, Node.make "a" { keyspace := "a:" } = .ok m ∧
    Node.make "b" { keyspace := "b:" } = .ok n ∧
    let c : Cluster Store := {
      store := { inner := {} }
      nodes := [{ m with remote.connected := true }, { n with remote.connected := true }] }
    let strides : List Stride := [.of 1 (.set "k" (.bool true) none), .of 0 (.deletePattern "*"),
      .of 0 (.set "k" (.bool false) none), .of 1 (.get "k")]
    c.answers 1 (c.without 0 strides) = c.answers 1 strides ∧
      (c.walk (c.without 0 strides)).now = (c.walk strides).now ∧
      (c.walk (c.without 0 strides)).nodes[1]? = (c.walk strides).nodes[1]? ∧
      (c.walk (c.without 0 strides)).store.inner.share n.keyspace = (c.walk strides).store.inner.share n.keyspace := by
  obtain ⟨m, hmake⟩ : ∃ m, Node.make "a" { keyspace := "a:" } = .ok m := ⟨_, rfl⟩
  obtain ⟨n, hmake'⟩ : ∃ n, Node.make "b" { keyspace := "b:" } = .ok n := ⟨_, rfl⟩
  refine ⟨m, n, hmake, hmake', ?_⟩
  intro c strides
  have hms := Node.isScoped_of_make hmake
  have hns := Node.isScoped_of_make hmake'
  have hd : c.Deserted := by
    intro x hx
    cases hmake
    cases hmake'
    rcases List.mem_pair.1 hx with rfl | rfl <;> exact ⟨rfl, rfl⟩
  have hap : Apart n.keyspace m.keyspace := by
    cases hmake
    cases hmake'
    exact ⟨by decide, by decide⟩
  refine noninterference (m := { m with remote.connected := true }) (n := { n with remote.connected := true }) hd
    ⟨rfl, rfl⟩ Nat.zero_ne_one rfl rfl hms hns hap strides ?_
  intro i call hi
  simp only [strides, List.mem_cons, List.not_mem_nil, or_false, Stride.of.injEq] at hi
  rcases hi with ⟨rfl, rfl⟩ | ⟨rfl, rfl⟩ | ⟨rfl, rfl⟩ | ⟨rfl, rfl⟩ <;> simp [Call.usesCache]

end Cluster

end TwoTier
