/-
Messages on the wire, and what becomes of the local tier of an instance that gets one. A payload is a message if its
text before the first bar is followed by one of the two tags; it is then the payload of that message and of no other,
whatever bars and tags the key or the pattern has in it. A text that is no message, and one that the instance sent
itself, leaves the tier as it is; any other only drops entries.
-/
import TwoTier.Proofs.Invalidation
import TwoTier.Proofs.Lru.Acts

namespace TwoTier.Message

/-! ## The format -/

theorem stripTag_eq_some_iff {tag rest : String} {text : List Char} :
    stripTag tag text = some rest ↔ text = tag.toList ++ rest.toList := by
  constructor
  · intro h
    unfold stripTag at h
    split at h
    · rename_i htag
      rw [List.isPrefixOf_iff_prefix] at htag
      obtain ⟨behind, rfl⟩ := htag
      rw [← String.length_toList, List.drop_left] at h
      cases h
      rw [String.toList_ofList]
    · cases h
  · rintro rfl
    exact stripTag_append tag rest

/-- A payload without a bar is no message. -/
theorem decode_no_bar {payload : String} (h : '|' ∉ payload.toList) : decode payload = none := by
  have hdrop : payload.toList.dropWhile (· != '|') = [] := by
    have hbar : ∀ c ∈ payload.toList, (c != '|') = true := fun c hc => bne_iff_ne.2 fun he => h (he ▸ hc)
    rw [← List.append_nil payload.toList, List.dropWhile_append_of_pos hbar, List.dropWhile_nil]
  unfold decode
  dsimp only
  rw [hdrop]

/-- A message that is read comes from the text before the first bar, and was written that way. -/
theorem encode_of_decode_bar {origin body : String} {m : Message} (ho : '|' ∉ origin.toList)
    (h : decode (origin ++ "|" ++ body) = some m) : m.origin = origin ∧ encode m = origin ++ "|" ++ body := by
  rw [decode_bar ho] at h
  cases hkey : stripTag keyTag body.toList with
  | some k =>
    rw [hkey] at h
    cases h
    rw [stripTag_eq_some_iff, ← String.toList_append, String.toList_inj] at hkey
    exact ⟨rfl, by rw [hkey, ← String.append_assoc]; rfl⟩
  | none =>
    rw [hkey] at h
    cases hpattern : stripTag patternTag body.toList with
    | some p =>
      rw [hpattern] at h
      cases h
      rw [stripTag_eq_some_iff, ← String.toList_append, String.toList_inj] at hpattern
      exact ⟨rfl, by rw [hpattern, ← String.append_assoc]; rfl⟩
    | none =>
      rw [hpattern] at h
      cases h

/-- A text with a bar has a first one. -/
theorem exists_first_bar {payload : String} (h : '|' ∈ payload.toList) :
    ∃ origin body, '|' ∉ origin.toList ∧ payload = origin ++ "|" ++ body := by
  obtain ⟨before, behind, htext, hbefore⟩ := List.eq_append_cons_of_mem h
  refine ⟨String.ofList before, String.ofList behind, by rwa [String.toList_ofList], ?_⟩
  rw [← String.toList_inj, htext]
  simp

/-- The message of a payload is the one whose payload it is, if there is one with no bar in its origin. -/
theorem decode_eq_some_iff {payload : String} {m : Message} :
    decode payload = some m ↔ '|' ∉ m.origin.toList ∧ encode m = payload := by
  constructor
  · intro h
    by_cases hbar : '|' ∈ payload.toList
    · obtain ⟨origin, body, ho, rfl⟩ := exists_first_bar hbar
      obtain ⟨horigin, hencode⟩ := encode_of_decode_bar ho h
      exact ⟨horigin ▸ ho, hencode⟩
    · rw [decode_no_bar hbar] at h
      cases h
  · rintro ⟨h, rfl⟩
    exact decode_encode m h

/-! ## What becomes of a tier -/

variable {α : Type}

/-- The tier of the instance `self` after a payload has arrived. -/
def arrived (payload self : String) (c : Lru α) : Lru α := (decode payload).elim c fun m => (m.apply self c).2

/-- What a payload does to a tier: entries are dropped if anything, and those that stay are as they were and in their
order. -/
structure Arrives (payload self : String) (c c' : Lru α) : Prop where
  survivors : c'.entries.Sublist c.entries
  settings : c'.capacity = c.capacity ∧ c'.defaultTtl = c.defaultTtl
  /-- What is no message is ignored. -/
  other : decode payload = none → c' = c
  /-- So is what the instance sent itself. -/
  own : ∀ body, '|' ∉ self.toList → payload = self ++ "|" ++ body → c' = c
  /-- A message about a key drops its entry and no other. -/
  key : ∀ origin k, '|' ∉ origin.toList → origin ≠ self → payload = origin ++ "|key:" ++ k →
    c'.entries = c.entries.filter (·.1 ≠ k)
  /-- A message about a pattern empties the tier. -/
  pattern : ∀ origin p, '|' ∉ origin.toList → origin ≠ self → payload = origin ++ "|pattern:" ++ p → c'.entries = []

theorem arrived_encode {m : Message} (h : '|' ∉ m.origin.toList) (self : String) (c : Lru α) :
    arrived (encode m) self c = (m.apply self c).2 := by
  unfold arrived
  rw [decode_encode m h]
  rfl

/-- Text that an instance gets on the channel, whatever it is. -/
theorem arrives (payload self : String) (c : Lru α) : Arrives payload self c (arrived payload self c) where
  survivors := by
    unfold arrived
    cases decode payload with
    | none => exact List.Sublist.refl _
    | some m =>
      rw [Option.elim_some, Lru.entries_apply]
      exact List.filter_sublist
  settings := by
    unfold arrived
    cases decode payload with
    | none => exact ⟨rfl, rfl⟩
    | some m => exact ⟨Lru.apply_capacity, Lru.apply_defaultTtl⟩
  other h := by rw [arrived, h]; rfl
  own body hself hpayload := by
    cases hm : decode payload with
    | none => rw [arrived, hm]; rfl
    | some m =>
      obtain ⟨horigin, -⟩ := encode_of_decode_bar hself (hpayload ▸ hm)
      rw [arrived, hm, Option.elim_some, apply, if_pos horigin]
  key origin k ho hne hpayload := by
    have hencode : encode ⟨origin, .key k⟩ = payload := by
      rw [hpayload, show "|key:" = "|" ++ keyTag from rfl, ← String.append_assoc]
      rfl
    have hother : (origin != self) = true := bne_iff_ne.2 hne
    rw [← hencode, arrived_encode ho, Lru.entries_apply]
    apply List.filter_congr
    intro x _
    by_cases hk : x.1 = k
    · simp [drops, hother, hk]
    · simp [drops, hother, hk, Ne.symm hk]
  pattern origin p ho hne hpayload := by
    have hencode : encode ⟨origin, .pattern p⟩ = payload := by
      rw [hpayload, show "|pattern:" = "|" ++ patternTag from rfl, ← String.append_assoc]
      rfl
    have hother : (origin != self) = true := bne_iff_ne.2 hne
    rw [← hencode, arrived_encode ho, Lru.entries_apply]
    simp [drops, hother]

/-- The wire format. A payload is read as the one message that is written so, and messages without a bar in their origin
are written apart. Whatever text arrives does to a tier what the message says, and no more. -/
theorem wire_format (payload self : String) (c : Lru α) :
    (∀ m : Message, decode payload = some m ↔ '|' ∉ m.origin.toList ∧ encode m = payload) ∧
    (∀ m m' : Message, '|' ∉ m.origin.toList → '|' ∉ m'.origin.toList → encode m = encode m' → m = m') ∧
    Arrives payload self c (arrived payload self c) ∧
    ∀ n : Node, (n.deliver payload).2 = { n with lru := arrived payload n.id n.lru } := by
  refine ⟨fun m => decode_eq_some_iff, fun m m' h h' heq => ?_, arrives payload self c, fun n => ?_⟩
  · have hm : decode (encode m) = some m := decode_encode m h
    rw [heq, decode_encode m' h'] at hm
    exact (Option.some.inj hm).symm
  · unfold Node.deliver arrived
    cases decode payload <;> rfl

/-- A key that looks like a message about a pattern is dropped as a key, and its neighbour stays. -/
theorem wire_format_of_bars : ∃ c : Lru Nat, Lru.make 3 9 = .ok c ∧
    let c := ((c.set 0 "k|pattern:*" 1 none).2.set 0 "k" 2 none).2
    decode "a|key:k|pattern:*" = some ⟨"a", .key "k|pattern:*"⟩ ∧
    (arrived "a|key:k|pattern:*" "b" c).entries = [("k", ⟨2, 9⟩)] ∧
    Arrives "a|key:k|pattern:*" "b" c (arrived "a|key:k|pattern:*" "b" c) :=
  ⟨_, rfl, by decide, by decide, (wire_format ..).2.2.1⟩

end TwoTier.Message
