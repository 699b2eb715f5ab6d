/-
Shares of a store. Instances whose keyspaces lie apart use a store side by side: what a request within a
keyspace is answered depends on the share of that keyspace alone, and the request leaves every share that
lies apart as it is.
-/
import TwoTier.Proofs.Glob.Matching
import TwoTier.Proofs.Store.Calm

namespace TwoTier

/-- Whether a key starts with a text. -/
def isUnder (scope key : String) : Bool := scope.toList.isPrefixOf key.toList

theorem isUnder_append (scope key : String) : isUnder scope (scope ++ key) = true := by
  unfold isUnder
  rw [List.isPrefixOf_iff_prefix, String.toList_append]
  exact List.prefix_append ..

/-- Neither of two keyspaces is the beginning of the other. -/
structure Apart (scope other : String) : Prop where
  left : isUnder scope other = false
  right : isUnder other scope = false

/-- No key starts with both. -/
theorem Apart.not_both {scope other key : String} (h : Apart scope other) (hk : isUnder other key = true) :
    isUnder scope key = false := by
  by_contra hs
  obtain ⟨hl, hr⟩ := h
  unfold isUnder at *
  rw [Bool.not_eq_false, List.isPrefixOf_iff_prefix] at hs
  rw [List.isPrefixOf_iff_prefix] at hk
  rw [Bool.eq_false_iff, ne_eq, List.isPrefixOf_iff_prefix] at hl hr
  exact (List.prefix_or_prefix_of_prefix hs hk).elim hl hr

/-- Requests that touch no key but those that start with a text, and ask about no other. -/
def Request.Within (scope : String) {α : Type} : Request α → Prop
  | .get key => isUnder scope key = true
  | .set key _ _ => isUnder scope key = true
  | .delete key => isUnder scope key = true
  | .deletePattern pattern => ∃ glob, pattern = Glob.escape scope ++ glob
  | .ping => True
  | .publish _ _ => True
  | _ => False

namespace Store

variable {s s' : Store} {scope other key : String} {now : Nat} {α : Type} {r : Request α}

/-- What a store holds under a keyspace. -/
def share (s : Store) (scope : String) : List (String × Stored) := s.entries.filter fun e => isUnder scope e.1

theorem share_keep (s : Store) (p : String → Bool) :
    (s.keep p).share scope = (s.share scope).filter fun e => p e.1 := by
  show (s.entries.filter _).filter _ = (s.entries.filter _).filter _
  rw [List.filter_filter, List.filter_filter]
  exact List.filter_congr fun e _ => Bool.and_comm ..

/-- A share loses nothing when only other keys are dropped. -/
theorem share_keep_of {p : String → Bool} (h : ∀ key, isUnder scope key = true → p key = true) :
    (s.keep p).share scope = s.share scope := by
  rw [share_keep]
  exact List.filter_eq_self.2 fun e he => h e.1 (List.mem_filter.1 he).2

theorem share_remove_of (h : isUnder scope key = false) : (s.remove key).share scope = s.share scope := by
  refine share_keep_of fun k hk => bne_iff_ne.2 ?_
  rintro rfl
  rw [h] at hk
  cases hk

theorem share_put (s : Store) (e : Stored) :
    (s.put key e).share scope =
      if isUnder scope key then (key, e) :: (s.remove key).share scope else (s.remove key).share scope :=
  List.filter_cons

/-- A key is found in its share. -/
theorem find?_of_share (h : isUnder scope key = true) : s.find? key = (s.share scope).lookup key := by
  unfold share
  rw [lookup_filter s.keys_nodup]
  show s.entries.lookup key = (s.entries.lookup key).filter fun _ => isUnder scope key
  rw [h]
  cases s.entries.lookup key <;> rfl

/-- Keys that a pattern within a keyspace matches lie in it. -/
theorem isUnder_of_isMatch {glob : String} {p : Glob.Pattern} (hp : Glob.compile (Glob.escape scope ++ glob) = some p)
    (hk : p.isMatch key = true) : isUnder scope key = true := by
  obtain ⟨-, rest, -, rfl, -⟩ := Glob.isMatch_escape_append hp hk
  exact isUnder_append ..

/-- Stores with the same share answer alike what is asked within the keyspace, and go on having the same
share. -/
theorem answer_within (hr : r.Within scope) (h : s'.share scope = s.share scope) (now : Nat) :
    (s'.answer now r).1 = (s.answer now r).1 ∧ (s'.answer now r).2.share scope = (s.answer now r).2.share scope := by
  have hremove : ∀ key, (s'.remove key).share scope = (s.remove key).share scope := fun key => by
    rw [remove, remove, share_keep, share_keep, h]
  cases r with
  | get key =>
    have hfind : s'.find? key = s.find? key := by rw [find?_of_share hr, find?_of_share hr, h]
    show Except.ok (s'.read now key).1 = .ok (s.read now key).1 ∧
      (s'.read now key).2.share scope = (s.read now key).2.share scope
    unfold read
    rw [hfind]
    cases s.find? key with
    | none => exact ⟨rfl, h⟩
    | some e =>
      dsimp only
      split
      · exact ⟨rfl, hremove key⟩
      · exact ⟨rfl, h⟩
  | set key data ttl =>
    refine ⟨rfl, ?_⟩
    show (s'.put key _).share scope = (s.put key _).share scope
    rw [share_put, share_put, hremove]
  | delete key =>
    have hfind : s'.find? key = s.find? key := by rw [find?_of_share hr, find?_of_share hr, h]
    refine ⟨?_, hremove key⟩
    show Except.ok (s'.contains now key) = .ok (s.contains now key)
    unfold contains live?
    rw [hfind]
  | deletePattern pattern =>
    obtain ⟨glob, rfl⟩ := hr
    unfold answer
    dsimp only
    cases hp : Glob.compile (Glob.escape scope ++ glob) with
    | none => exact ⟨rfl, h⟩
    | some p =>
      -- whatever the pattern matches lies in the share
      have hcount : ∀ s : Store, (s.entries.filter fun e => p.isMatch e.1 && !e.2.isExpired now) =
          (s.share scope).filter fun e => p.isMatch e.1 && !e.2.isExpired now := by
        intro s
        unfold share
        rw [List.filter_filter]
        refine List.filter_congr fun e _ => ?_
        cases hm : p.isMatch e.1 with
        | false => simp
        | true => rw [isUnder_of_isMatch hp hm, Bool.and_true]
      refine ⟨?_, ?_⟩
      · show Except.ok (s'.entries.filter _).length = .ok (s.entries.filter _).length
        rw [hcount, hcount, h]
      · show (s'.keep _).share scope = (s.keep _).share scope
        rw [share_keep, share_keep, h]
  | ping | publish => exact ⟨rfl, h⟩
  | connect | disconnect | info => cases hr

/-- What is asked within a keyspace that lies apart leaves the share alone. -/
theorem answer_apart (hr : r.Within other) (h : Apart scope other) :
    (s.answer now r).2.share scope = s.share scope := by
  -- each request names a key under the other scope, or matches only such keys, and no key is under both
  cases r with
  | get key =>
    show (s.read now key).2.share scope = _
    unfold read
    split
    · rfl
    · split
      · exact share_remove_of (h.not_both hr)
      · rfl
  | set key data ttl =>
    show (s.put key _).share scope = _
    rw [share_put, h.not_both hr]
    exact share_remove_of (h.not_both hr)
  | delete key => exact share_remove_of (h.not_both hr)
  | deletePattern pattern =>
    obtain ⟨glob, rfl⟩ := hr
    unfold answer
    dsimp only
    cases hp : Glob.compile (Glob.escape other ++ glob) with
    | none => rfl
    | some p =>
      refine share_keep_of fun key hk => ?_
      cases hm : p.isMatch key with
      | false => rfl
      | true => rw [h.not_both (isUnder_of_isMatch hp hm)] at hk; cases hk
  | ping | publish => rfl
  | connect | disconnect | info => cases hr

end Store

theorem Request.isAnswered_of_within {scope : String} {α : Type} {r : Request α} (h : r.Within scope) :
    r.isAnswered = true := by
  cases r <;> first | rfl | cases h

/-! ## Behind a script -/

namespace Scripted

/-- Calm stores with the same share of a keyspace. -/
structure Twin (scope : String) (st st' : Scripted Store) : Prop where
  calm : st.Calm
  calm' : st'.Calm
  share : st'.inner.share scope = st.inner.share scope

variable {scope other : String} {st st' : Scripted Store} {α : Type} {r : Request α}

theorem Twin.within (h : Twin scope st st') (hr : r.Within scope) (now : Nat) :
    (st'.serve now r).1 = (st.serve now r).1 ∧ Twin scope (st.serve now r).2 (st'.serve now r).2 := by
  have ha := Request.isAnswered_of_within hr
  have hans := Store.answer_within hr h.share now
  refine ⟨?_, h.calm.serve r now, h.calm'.serve r now, ?_⟩
  · rw [serve_answer h.calm.available ha, serve_answer h.calm'.available ha]
    exact hans.1
  · rw [serve_answer h.calm.available ha, serve_answer h.calm'.available ha]
    exact hans.2

theorem Twin.apart (h : Twin scope st st') (hr : r.Within other) (hap : Apart scope other) (now : Nat) :
    Twin scope (st.serve now r).2 st' := by
  refine ⟨h.calm.serve r now, h.calm', ?_⟩
  rw [serve_answer h.calm.available (Request.isAnswered_of_within hr)]
  exact h.share.trans (Store.answer_apart hr hap).symm

end Scripted

end TwoTier
