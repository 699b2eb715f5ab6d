/-
Messages on the wire. A message whose origin has no bar comes back from its payload, whatever text its
key or pattern is. An instance that gets it drops what the message names, unless it sent it itself.
-/
import Mathlib.Tactic
import TwoTier.Node
import TwoTier.Proofs.Lru.Residence

namespace TwoTier

namespace Message

theorem stripTag_append (tag text : String) : stripTag tag (tag.toList ++ text.toList) = some text := by
  unfold stripTag
  rw [if_pos (by simp), ← String.length_toList, List.drop_left, String.ofList_toList]

/-- What is told by key is not told by pattern. -/
theorem stripTag_keyTag_patternTag (text : List Char) : stripTag keyTag (patternTag.toList ++ text) = none := rfl

/-- The origin ends at the first bar. -/
theorem decode_bar {origin : String} (h : '|' ∉ origin.toList) (body : String) :
    decode (origin ++ "|" ++ body) =
      match stripTag keyTag body.toList, stripTag patternTag body.toList with
      | some k, _ => some ⟨origin, .key k⟩
      | none, some p => some ⟨origin, .pattern p⟩
      | none, none => none := by
  have hbar : ∀ c ∈ origin.toList, (c != '|') = true := fun c hc => bne_iff_ne.2 fun he => h (he ▸ hc)
  have htext : (origin ++ "|" ++ body).toList = origin.toList ++ '|' :: body.toList := by
    rw [String.toList_append, String.toList_append, List.append_assoc]
    rfl
  unfold decode
  dsimp only
  rewrite [htext, List.dropWhile_append_of_pos hbar, List.takeWhile_append_of_pos hbar, List.dropWhile_cons_of_neg (by simp),
    List.takeWhile_cons_of_neg (by simp), List.append_nil, String.ofList_toList]
  rfl

/-- A payload gives back its message. -/
theorem decode_encode (m : Message) (h : '|' ∉ m.origin.toList) : decode (encode m) = some m := by
  obtain ⟨origin, body⟩ := m
  cases body with
  | key k =>
    show decode (origin ++ "|" ++ keyTag ++ k) = _
    rw [String.append_assoc, decode_bar h, String.toList_append, stripTag_append]
  | pattern p =>
    show decode (origin ++ "|" ++ patternTag ++ p) = _
    rw [String.append_assoc, decode_bar h, String.toList_append, stripTag_append, stripTag_keyTag_patternTag]

end Message

namespace Node

variable {n : Node}

/-- An instance leaves its own messages alone. -/
theorem deliver_own (h : '|' ∉ n.id.toList) (body : Invalidation) :
    n.deliver (Message.encode ⟨n.id, body⟩) = (some false, n) := by
  unfold deliver
  rw [Message.decode_encode _ h]
  dsimp only [Message.apply]
  rw [if_pos rfl]

/-- What another instance tells to drop is dropped. -/
theorem deliver_other {origin : String} (h : '|' ∉ origin.toList) (hne : origin ≠ n.id) (body : Invalidation) :
    (n.deliver (Message.encode ⟨origin, body⟩)).2.lru =
      match body with
      | .key k => (n.lru.delete k).2
      | .pattern _ => n.lru.clear := by
  unfold deliver
  rw [Message.decode_encode _ h]
  dsimp only [Message.apply]
  rw [if_neg hne]
  cases body <;> rfl

end Node

end TwoTier
