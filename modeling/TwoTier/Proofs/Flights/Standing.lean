/-
Who stands in line where. `line` tells for every caller the key it waits for or fetches, if any, and
`Standing` that the locks are kept accordingly: callers in line, and nobody else, have a handle, it is
one of the lock listed under their key, no two keys share a lock, and no lock is listed unless
somebody in line has a handle of it. Coming and going keep it, in any order. So there is never a
second lock for a key, and none is left when nobody stands in line.
-/
import TwoTier.Flights
import TwoTier.Proofs.Keyed

namespace TwoTier.Flights

structure Standing (f : Flights) (line : Nat → Option String) : Prop where
  keys : (f.table.map Prod.fst).Nodup
  locks : (f.table.map Prod.snd).Nodup
  made : ∀ e ∈ f.table, e.2 < f.made
  callers : (f.handles.map Handle.caller).Nodup
  stands : ∀ k key, line k = some key → ∃ lock, ⟨lock, k⟩ ∈ f.handles
  listed : ∀ h ∈ f.handles, ∃ key, line h.caller = some key ∧ f.listed? key = some h.lock
  used : ∀ e ∈ f.table, ∃ h ∈ f.handles, h.lock = e.2

variable {f : Flights} {line : Nat → Option String} {a k lock : Nat} {key : String}

/-! ## Handles -/

theorem lockOf?_eq_some_iff (hc : (f.handles.map Handle.caller).Nodup) :
    f.lockOf? k = some lock ↔ ⟨lock, k⟩ ∈ f.handles := by
  unfold lockOf?
  rw [Option.map_eq_some_iff]
  constructor
  · rintro ⟨h, hf, rfl⟩
    have hk : h.caller = k := by simpa using List.find?_some hf
    exact hk ▸ List.mem_of_find?_eq_some hf
  · intro hm
    cases hf : f.handles.find? fun h => h.caller == k with
    | none => simpa using List.find?_eq_none.1 hf _ hm
    | some h =>
      have hk : h.caller = k := by simpa using List.find?_some hf
      exact ⟨h, rfl, congrArg Handle.lock (List.inj_on_of_nodup_map hc (List.mem_of_find?_eq_some hf) hm hk)⟩

namespace Standing

/-- The handle of a caller in line is one of the lock listed under its key. -/
theorem lockOf? (h : f.Standing line) (hk : line k = some key) :
    ∃ lock, f.lockOf? k = some lock ∧ f.listed? key = some lock := by
  obtain ⟨lock, hm⟩ := h.stands k key hk
  obtain ⟨key', hk', hl⟩ := h.listed _ hm
  rw [hk] at hk'
  cases hk'
  exact ⟨lock, (lockOf?_eq_some_iff h.callers).2 hm, hl⟩

theorem lockOf?_eq_none (h : f.Standing line) (hk : line k = none) : f.lockOf? k = none := by
  rw [Option.eq_none_iff_forall_ne_some]
  intro lock hl
  obtain ⟨key, hk', -⟩ := h.listed _ ((lockOf?_eq_some_iff h.callers).1 hl)
  rw [hk] at hk'
  cases hk'

/-- Callers at one lock are in line for one key. -/
theorem key_unique (h : f.Standing line) {x y : Handle} (hx : x ∈ f.handles) (hy : y ∈ f.handles)
    (hl : x.lock = y.lock) : line x.caller = line y.caller := by
  obtain ⟨kx, hkx, hlx⟩ := h.listed x hx
  obtain ⟨ky, hky, hly⟩ := h.listed y hy
  have hmx := (lookup_eq_some_iff_mem h.keys).1 hlx
  have hmy := (lookup_eq_some_iff_mem h.keys).1 hly
  have := List.inj_on_of_nodup_map h.locks hmx hmy hl
  rw [hkx, hky]
  exact congrArg (fun e : String × Nat => some e.1) this

/-! ## Turns -/

/-- At most one caller of a key has the turn. -/
theorem turn_unique (h : f.Standing line) {b : Nat} (ha : line a = some key) (hb : line b = some key)
    (hta : f.hasTurn a = true) (htb : f.hasTurn b = true) : a = b := by
  obtain ⟨la, hla, hka⟩ := h.lockOf? ha
  obtain ⟨lb, hlb, hkb⟩ := h.lockOf? hb
  rw [hka] at hkb
  cases hkb
  unfold hasTurn at hta htb
  rw [hla] at hta
  rw [hlb] at htb
  simp only [Option.any_some, beq_iff_eq] at hta htb
  rw [hta] at htb
  exact Option.some.inj htb

/-- Somebody in line for a key has the turn as long as anybody is. -/
theorem exists_turn (h : f.Standing line) (hk : line k = some key) :
    ∃ a, line a = some key ∧ f.hasTurn a = true := by
  obtain ⟨lock, hm⟩ := h.stands k key hk
  cases hf : f.handles.find? fun x => x.lock == lock with
  | none => simpa using List.find?_eq_none.1 hf _ hm
  | some x =>
    have hx := List.mem_of_find?_eq_some hf
    have hl : x.lock = lock := by simpa using List.find?_some hf
    refine ⟨x.caller, (h.key_unique hx hm hl).trans hk, ?_⟩
    unfold hasTurn holder?
    rw [(lockOf?_eq_some_iff h.callers).2 hx, Option.any_some, hl, hf]
    exact beq_self_eq_true _

theorem empty (h : f.Standing line) (hn : ∀ k, line k = none) : f.table = [] ∧ f.handles = [] := by
  have hh : f.handles = [] := by
    rw [List.eq_nil_iff_forall_not_mem]
    intro x hx
    obtain ⟨key, hk, -⟩ := h.listed x hx
    rw [hn] at hk
    cases hk
  refine ⟨?_, hh⟩
  rw [List.eq_nil_iff_forall_not_mem]
  intro e he
  obtain ⟨x, hx, -⟩ := h.used e he
  rw [hh] at hx
  cases hx

/-! ## Coming -/

theorem not_mem_callers (h : f.Standing line) (hk : line k = none) : k ∉ f.handles.map Handle.caller := by
  intro hm
  obtain ⟨x, hx, rfl⟩ := List.mem_map.1 hm
  obtain ⟨key, hk', -⟩ := h.listed x hx
  rw [hk] at hk'
  cases hk'

/-- A caller that comes takes a handle of the lock of its key, and of a new one if there is none. -/
theorem join (h : f.Standing line) (hk : line k = none) (key : String) :
    (f.join key k).Standing (Function.update line k (some key)) := by
  have hnew := h.not_mem_callers hk
  have hne : ∀ x ∈ f.handles, x.caller ≠ k := fun x hx he => hnew (he ▸ List.mem_map_of_mem hx)
  have hcallers : ∀ lock, ((f.handles ++ [Handle.mk lock k]).map Handle.caller).Nodup := fun lock => by
    rw [List.map_append, List.nodup_append]
    refine ⟨h.callers, List.nodup_singleton _, ?_⟩
    intro x hx y hy hxy
    have hyk : y = k := List.mem_singleton.1 hy
    exact hnew (hyk ▸ hxy ▸ hx)
  have hstands : ∀ lock c key', Function.update line k (some key) c = some key' →
      ∃ l, ⟨l, c⟩ ∈ f.handles ++ [⟨lock, k⟩] := fun lock c key' hc => by
    by_cases hck : c = k
    · exact ⟨lock, List.mem_append_right _ (hck ▸ List.mem_singleton_self _)⟩
    · rw [Function.update_of_ne hck] at hc
      obtain ⟨l, hl⟩ := h.stands c key' hc
      exact ⟨l, List.mem_append_left _ hl⟩
  unfold Flights.join
  -- either the lock is listed and only a handle is added, or it is made together with its first handle
  cases hl : f.listed? key with
  | some lock =>
    refine ⟨h.keys, h.locks, h.made, hcallers lock, hstands lock, ?_, ?_⟩
    · intro x hx
      rcases List.mem_append.1 hx with hx | hx
      · obtain ⟨key', hk', hl'⟩ := h.listed x hx
        exact ⟨key', by rw [Function.update_of_ne (hne x hx)]; exact hk', hl'⟩
      · rw [List.mem_singleton.1 hx]
        exact ⟨key, Function.update_self .., hl⟩
    · intro e he
      obtain ⟨x, hx, hxl⟩ := h.used e he
      exact ⟨x, List.mem_append_left _ hx, hxl⟩
  | none =>
    -- no entry of the table has the key, so the new one hides none of the others
    have hkey : ∀ e ∈ f.table, e.1 ≠ key := fun e he hek => by
      have := List.lookup_eq_none_iff.1 hl e he
      simp [hek] at this
    have hlisted : ∀ {key' lock'}, f.listed? key' = some lock' →
        List.lookup key' ((key, f.made) :: f.table) = some lock' := fun {key' lock'} hl' => by
      rw [List.lookup_cons, beq_eq_false_iff_ne.2 (fun he => by rw [he, hl] at hl'; cases hl')]
      exact hl'
    refine ⟨?_, ?_, ?_, hcallers f.made, hstands f.made, ?_, ?_⟩
    · rw [List.map_cons, List.nodup_cons]
      refine ⟨fun hm => ?_, h.keys⟩
      obtain ⟨e, he, hek⟩ := List.mem_map.1 hm
      exact hkey e he hek
    · rw [List.map_cons, List.nodup_cons]
      refine ⟨fun hm => ?_, h.locks⟩
      obtain ⟨e, he, hel⟩ := List.mem_map.1 hm
      exact Nat.ne_of_lt (h.made e he) hel
    · intro e he
      rcases List.mem_cons.1 he with rfl | he
      · exact Nat.lt_succ_self _
      · exact Nat.lt_succ_of_lt (h.made e he)
    · intro x hx
      rcases List.mem_append.1 hx with hx | hx
      · obtain ⟨key', hk', hl'⟩ := h.listed x hx
        exact ⟨key', by rw [Function.update_of_ne (hne x hx)]; exact hk', hlisted hl'⟩
      · rw [List.mem_singleton.1 hx]
        exact ⟨key, Function.update_self .., List.lookup_cons_self⟩
    · intro e he
      rcases List.mem_cons.1 he with rfl | he
      · exact ⟨⟨f.made, k⟩, List.mem_append_right _ (List.mem_singleton_self _), rfl⟩
      · obtain ⟨x, hx, hxl⟩ := h.used e he
        exact ⟨x, List.mem_append_left _ hx, hxl⟩

/-! ## Going -/

theorem leave_of_none (h : f.Standing line) (hk : line k = none) (key : String) : f.leave key k = f := by
  unfold leave
  rw [h.lockOf?_eq_none hk]
  rfl

/-- The list's own handle of a lock is the only one it has of it. -/
theorem countP_table (h : f.Standing line) (hl : f.listed? key = some lock) :
    (f.table.countP fun e => e.2 == lock) = 1 := by
  have hm := (lookup_eq_some_iff_mem h.keys).1 hl
  have : f.table.countP (fun e => e.2 == lock) = (f.table.map Prod.snd).count lock := by
    rw [List.count, List.countP_map]; rfl
  rw [this]
  exact List.count_eq_one_of_mem h.locks (List.mem_map.2 ⟨_, hm, rfl⟩)

/-- A caller that goes gives its handle back, and the lock with it if nobody else has one. -/
theorem leave (h : f.Standing line) (hk : line k = some key) :
    (f.leave key k).Standing (Function.update line k none) := by
  obtain ⟨lock, hlk, hl⟩ := h.lockOf? hk
  have hmine := (lockOf?_eq_some_iff h.callers).1 hlk
  have hentry := (lookup_eq_some_iff_mem h.keys).1 hl
  obtain ⟨rest, hrest⟩ : ∃ rest, rest = f.handles.filter fun x => x.caller != k := ⟨_, rfl⟩
  have hmem : ∀ x, x ∈ rest ↔ x ∈ f.handles ∧ x.caller ≠ k := fun x => by
    rw [hrest, List.mem_filter, bne_iff_ne]
  have hcallers : (rest.map Handle.caller).Nodup := hrest ▸ h.callers.sublist (List.filter_sublist.map _)
  have hstands : ∀ c key', Function.update line k none c = some key' → ∃ l, ⟨l, c⟩ ∈ rest := by
    intro c key' hc
    by_cases hck : c = k
    · rw [hck, Function.update_self] at hc; cases hc
    · rw [Function.update_of_ne hck] at hc
      obtain ⟨l, hl⟩ := h.stands c key' hc
      exact ⟨l, (hmem _).2 ⟨hl, hck⟩⟩
  -- every other lock is still in use
  have hused : ∀ e ∈ f.table, e.2 ≠ lock → ∃ x ∈ rest, x.lock = e.2 := by
    intro e he hne
    obtain ⟨x, hx, hxl⟩ := h.used e he
    refine ⟨x, (hmem x).2 ⟨hx, fun hxk => hne ?_⟩, hxl⟩
    rw [← hxl, congrArg Handle.lock (List.inj_on_of_nodup_map h.callers hx hmine hxk)]
  unfold Flights.leave
  rw [hlk, ← hrest]
  show (unlist { f with handles := rest } key).Standing _
  unfold unlist
  rw [show listed? { f with handles := rest } key = some lock from hl]
  have hcount : handleCount { f with handles := rest } lock = 1 + rest.countP fun x => x.lock == lock := by
    unfold handleCount; rw [h.countP_table hl]
  dsimp only
  split <;> rename_i hc <;> rw [hcount] at hc
  · have hnone : ∀ x ∈ rest, x.lock ≠ lock := fun x hx hxl => by
      have : 0 < rest.countP fun x => x.lock == lock := List.countP_pos_iff.2 ⟨x, hx, by simp [hxl]⟩
      omega
    refine ⟨h.keys.sublist (List.filter_sublist.map _), h.locks.sublist (List.filter_sublist.map _),
      fun e he => h.made e (List.mem_filter.1 he).1, hcallers, hstands, ?_, ?_⟩
    · intro x hx
      obtain ⟨hxf, hxk⟩ := (hmem x).1 hx
      obtain ⟨key', hk', hl'⟩ := h.listed x hxf
      refine ⟨key', by rw [Function.update_of_ne hxk]; exact hk', ?_⟩
      show (f.table.filter fun e => e.1 != key).lookup key' = some x.lock
      rw [lookup_without h.keys, if_neg (fun he => ?_)]
      · exact hl'
      · rw [he, hl] at hl'
        exact hnone x hx (Option.some.inj hl').symm
    · intro e he
      obtain ⟨het, hek⟩ := List.mem_filter.1 he
      refine hused e het fun hel => ?_
      rw [List.inj_on_of_nodup_map h.locks het hentry hel] at hek
      simp at hek
  · refine ⟨h.keys, h.locks, h.made, hcallers, hstands, ?_, ?_⟩
    · intro x hx
      obtain ⟨hxf, hxk⟩ := (hmem x).1 hx
      obtain ⟨key', hk', hl'⟩ := h.listed x hxf
      exact ⟨key', by rw [Function.update_of_ne hxk]; exact hk', hl'⟩
    · intro e he
      by_cases hel : e.2 = lock
      · obtain ⟨x, hx, hxl⟩ := List.countP_pos_iff.1 (show 0 < rest.countP fun x => x.lock == lock by omega)
        exact ⟨x, hx, hel ▸ by simpa using hxl⟩
      · exact hused e he hel

end Standing

/-! ## Turns pass on only when their callers go -/

theorem hasTurn_iff : f.hasTurn a = true ↔ ∃ lock, f.lockOf? a = some lock ∧ f.holder? lock = some a := by
  unfold hasTurn
  rw [Option.any_eq_true]
  simp only [beq_iff_eq]

theorem handles_join (f : Flights) (key : String) (k : Nat) :
    ∃ x, (f.join key k).handles = f.handles ++ [x] := by
  unfold join
  split <;> exact ⟨_, rfl⟩

theorem handles_unlist (f : Flights) (key : String) : (f.unlist key).handles = f.handles := by
  unfold unlist
  split
  · split <;> rfl
  · rfl

theorem handles_leave (f : Flights) (key : String) (k : Nat) :
    (f.leave key k).handles = f.handles ∨ (f.leave key k).handles = f.handles.filter fun x => x.caller != k := by
  unfold leave
  split
  · exact Or.inl rfl
  · exact Or.inr (handles_unlist ..)

theorem hasTurn_join (h : f.hasTurn a = true) (key : String) (k : Nat) : (f.join key k).hasTurn a = true := by
  obtain ⟨lock, hl, hh⟩ := hasTurn_iff.1 h
  obtain ⟨x, hx⟩ := handles_join f key k
  unfold lockOf? at hl
  unfold holder? at hh
  rw [Option.map_eq_some_iff] at hl hh
  obtain ⟨y, hy, rfl⟩ := hl
  obtain ⟨z, hz, hza⟩ := hh
  refine hasTurn_iff.2 ⟨y.lock, ?_, ?_⟩
  · unfold lockOf?
    rw [hx, List.find?_append, hy]
    rfl
  · unfold holder?
    rw [hx, List.find?_append, hz]
    exact congrArg some hza

/-- What is found first is found first among fewer. -/
theorem find?_filter_of_find? {β : Type} {l : List β} {p q : β → Bool} {x : β} (h : l.find? q = some x)
    (hp : p x = true) : (l.filter p).find? q = some x := by
  obtain ⟨hq, as, bs, hl, has⟩ := List.find?_eq_some_iff_append.1 h
  rw [List.find?_filter]
  refine List.find?_eq_some_iff_append.2 ⟨by simp [hp, hq], as, bs, hl, fun y hy => ?_⟩
  have := has y hy
  simp only [Bool.not_eq_true'] at this
  simp [this]

theorem hasTurn_leave (h : f.hasTurn a = true) (key : String) {k : Nat} (hne : a ≠ k) :
    (f.leave key k).hasTurn a = true := by
  obtain ⟨lock, hl, hh⟩ := hasTurn_iff.1 h
  rcases handles_leave f key k with he | he
  · exact hasTurn_iff.2 ⟨lock, by unfold lockOf?; rw [he]; exact hl, by unfold holder?; rw [he]; exact hh⟩
  · unfold lockOf? at hl
    unfold holder? at hh
    rw [Option.map_eq_some_iff] at hl hh
    obtain ⟨y, hy, rfl⟩ := hl
    obtain ⟨z, hz, hza⟩ := hh
    have hya : y.caller = a := by simpa using List.find?_some hy
    have hy' := find?_filter_of_find? (p := fun x => x.caller != k) hy (bne_iff_ne.2 (hya ▸ hne))
    have hz' := find?_filter_of_find? (p := fun x => x.caller != k) hz (bne_iff_ne.2 (hza ▸ hne))
    refine hasTurn_iff.2 ⟨y.lock, ?_, ?_⟩
    · unfold lockOf?
      rw [he, hy']
      rfl
    · unfold holder?
      rw [he, hz']
      exact congrArg some hza

end TwoTier.Flights
