/-
Sequential runs. Calls are made one after the other, each coming to its end before anything else
happens; in between the clock moves on and local tiers are purged. Nobody is left in line between two
strides, and instances stay what they were made to be.
-/
import TwoTier.Proofs.Schedule.Solo

namespace TwoTier

/-- What happens next in a sequential run. -/
inductive Stride where
  /-- An instance is asked, and answers. -/
  | of (node : Nat) (call : Call)
  /-- The clock comes to an instant. -/
  | advance (t : Nat)
  /-- The local tier of an instance is purged. -/
  | purge (node : Nat)

/-- Whether a stride is a call to an instance. -/
def Stride.isOf (i : Nat) : Stride → Bool
  | .of node _ => node == i
  | _ => false

namespace Cluster

variable {σ : Type} [Backend σ]

def take (c : Cluster σ) : Stride → Option Task × Cluster σ
  | .of i call => c.request i call none
  | .advance t => (none, c.advance t)
  | .purge i => (none, c.move (.purge i))

def walk (c : Cluster σ) (strides : List Stride) : Cluster σ := strides.foldl (fun c s => (c.take s).2) c

/-- What comes of the calls to an instance. -/
def answers (c : Cluster σ) (b : Nat) : List Stride → List Task
  | [] => []
  | s :: strides => (if s.isOf b then (c.take s).1.toList else []) ++ (c.take s).2.answers b strides

theorem walk_append (c : Cluster σ) (l l' : List Stride) : c.walk (l ++ l') = (c.walk l).walk l' := List.foldl_append

theorem answers_append (c : Cluster σ) (b : Nat) (l l' : List Stride) :
    c.answers b (l ++ l') = c.answers b l ++ (c.walk l).answers b l' := by
  induction l generalizing c with
  | nil => rfl
  | cons s l ih =>
    show _ ++ (c.take s).2.answers b (l ++ l') = (_ ++ (c.take s).2.answers b l) ++ _
    rw [ih, List.append_assoc]
    rfl

theorem answers_singleton (c : Cluster σ) (b : Nat) (s : Stride) :
    c.answers b [s] = if s.isOf b then (c.take s).1.toList else [] := List.append_nil _

variable {c c' : Cluster σ} {i : Nat} {n : Node}

theorem request_frames (hd : c.Deserted) (hn : c.nodes[i]? = some n) (call : Call) (patience : Option Nat) :
    (c.request i call patience).2.nodes.map Node.frame = c.nodes.map Node.frame := by
  obtain ⟨t, c', hreq, hT, -, -⟩ := request_spec hd hn call patience
  obtain ⟨moves, rfl⟩ := Turns.reaches hT
  rw [hreq]
  exact run_frames (begin_sound hn) moves

omit [Backend σ] in
theorem Aged.deserted (h : Aged c c') (hd : c.Deserted) : c'.Deserted := by
  intro n' hn'
  obtain ⟨j, hj, rfl⟩ := List.getElem_of_mem hn'
  obtain ⟨n, hn, ha⟩ := h.node (List.getElem?_eq_getElem hj)
  rw [ha.flights]
  exact hd n (List.mem_of_getElem? hn)

/-- A stride leaves nobody in line, and instances what they are. -/
theorem take_spec (hd : c.Deserted) {s : Stride} (hs : ∀ i call, s = .of i call → i < c.nodes.length) :
    (c.take s).2.Deserted ∧ (c.take s).2.nodes.map Node.frame = c.nodes.map Node.frame := by
  cases s with
  | of i call =>
    have hn := List.getElem?_eq_getElem (hs i call rfl)
    exact ⟨request_deserted hd hn call none, request_frames hd hn call none⟩
  | advance t =>
    obtain ⟨ha, -⟩ := advance_spec c t
    exact ⟨ha.deserted hd, ha.frames⟩
  | purge i =>
    show (c.move (.purge i)).Deserted ∧ _
    cases hn : c.nodes[i]? with
    | none =>
      refine ⟨by rw [move_purge_of_none hn]; exact hd, congrArg (List.map Node.frame) ?_⟩
      show (c.move (.purge i)).nodes = _
      rw [move_purge_of_none hn]
    | some n =>
      obtain ⟨r, hm⟩ := move_purge hn
      constructor
      · rw [hm]
        intro n' hn'
        rcases List.mem_or_eq_of_mem_set hn' with hn' | rfl
        · exact hd n' hn'
        · exact hd n (List.mem_of_getElem? hn)
      · show ((c.move (.purge i)).nodes).map Node.frame = _
        rw [hm]
        exact map_set_of_eq hn _ rfl

end Cluster

end TwoTier
