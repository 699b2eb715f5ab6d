/-
The local tier as time goes by. What can happen to it are its operations, messages that are applied to it, and
the passing of time. Whatever happens, the list of entries is cut down, or the entry of one key is put in front
of what is left of the others; a write leaves one place less than there are, and so drives out the last entry
of a full list.
-/
import TwoTier.Proofs.Lru.Residence

namespace TwoTier.Lru

variable {α : Type}

theorem make_eq {capacity ttl : Nat} {c : Lru α} (h : make capacity ttl = .ok c) :
    c.capacity = capacity ∧ c.defaultTtl = ttl ∧ c.entries = [] ∧ c.counts = {} := by
  unfold make at h
  split_ifs at h
  cases h
  exact ⟨rfl, rfl, rfl, rfl⟩

/-! ## The list of entries -/

section Entries

variable {c : Lru α} {now : Nat} {key : String} {v : α} {ttl : Option Nat}

theorem without_eq_self (h : c.find? key = none) : without key c.entries = c.entries := by
  rw [without, List.filter_eq_self]
  intro x hx
  have hne : key ≠ x.1 := by simpa using List.lookup_eq_none_iff.1 h x hx
  simpa using hne.symm

theorem mem_without {x : String × Entry α} {entries : List (String × Entry α)} :
    x ∈ without key entries ↔ x ∈ entries ∧ x.1 ≠ key := by
  rw [without, List.mem_filter, bne_iff_ne]

/-- The entry that a read moves to the front. -/
def front (c : Lru α) (now : Nat) (key : String) : List (String × Entry α) :=
  match c.find? key with
  | some e => if e.isExpired now then [] else [(key, e)]
  | none => []

/-- A read puts what it brings in front of the others. -/
theorem entries_get (c : Lru α) (now : Nat) (key : String) :
    (c.get now key).2.entries = c.front now key ++ without key c.entries := by
  unfold get front
  split <;> rename_i h
  · simp [h, without_eq_self h]
  · split <;> rename_i he <;> simp [h, he, keep, without]

/-- A read brings a live entry, or finds none. -/
theorem front_cases (c : Lru α) (now : Nat) (key : String) :
    (∃ e, c.find? key = some e ∧ e.isExpired now = false ∧ c.live? now key = some e.value ∧
      c.front now key = [(key, e)]) ∨
    ((∀ e, c.find? key = some e → e.isExpired now = true) ∧ c.live? now key = none ∧ c.front now key = []) := by
  unfold front live?
  cases h : c.find? key with
  | none => exact Or.inr ⟨nofun, rfl, rfl⟩
  | some e =>
    cases he : e.isExpired now with
    | true => exact Or.inr ⟨fun e' h' => by cases h'; exact he, by simp [he], by simp [he]⟩
    | false => exact Or.inl ⟨e, rfl, he, by simp [he], by simp [he]⟩

/-- A read that brings nothing drops its key for being expired. -/
theorem without_of_dead (h : ∀ e, c.find? key = some e → e.isExpired now = true) :
    without key c.entries = c.entries.filter fun x => !(x.1 == key && x.2.isExpired now) := by
  apply List.filter_congr
  intro x hx
  by_cases hk : x.1 = key
  · have hfind : c.find? key = some x.2 := (lookup_eq_some_iff_mem c.keys_nodup).2 (hk ▸ hx)
    simp [hk, h x.2 hfind]
  · have hne : (x.1 == key) = false := beq_eq_false_iff_ne.2 hk
    simp [bne, hne]

/-- A write puts its entry in front, and the others keep all places but one. -/
theorem entries_set (c : Lru α) (now : Nat) (key : String) (v : α) (ttl : Option Nat) :
    (c.set now key v ttl).2.entries =
      (key, .written now v (ttl.getD c.defaultTtl)) :: (without key c.entries).take (c.capacity - 1) := by
  unfold set
  dsimp only
  split <;> rename_i h
  · have hsize : c.entries.length = c.capacity := Nat.le_antisymm c.size_le h.2
    have htake : (without key c.entries).take (c.capacity - 1) = c.entries.dropLast := by
      rw [without_eq_self h.1, ← hsize, List.dropLast_eq_take]
    rw [htake]
  · have hlen := c.length_cons_without_le h (.written now v (ttl.getD c.defaultTtl))
    rw [List.length_cons] at hlen
    rw [List.take_of_length_le (by omega)]

theorem entries_delete (c : Lru α) (key : String) : (c.delete key).2.entries = without key c.entries := by
  unfold delete
  split <;> rename_i h
  · rfl
  · exact (without_eq_self (by simpa using h)).symm

theorem entries_apply (m : Message) (self : String) (c : Lru α) :
    (m.apply self c).2.entries = c.entries.filter fun x => !m.drops self x.1 := by
  rcases apply_cases m self c with ⟨h, hd⟩ | ⟨key, h, hd⟩ | ⟨h, hd⟩ <;> rw [h] <;> simp only [hd]
  · exact (List.filter_true _).symm
  · rw [entries_delete, without]
    congr 1
    funext x
    rw [bne, BEq.comm]
  · exact (List.filter_false _).symm

/-! ## What no operation changes -/

@[simp] theorem get_capacity : (c.get now key).2.capacity = c.capacity := by
  unfold get
  split
  · rfl
  · split <;> rfl

@[simp] theorem set_capacity : (c.set now key v ttl).2.capacity = c.capacity := by
  dsimp only [set]
  split <;> rfl

@[simp] theorem delete_capacity : (c.delete key).2.capacity = c.capacity := by
  unfold delete
  split <;> rfl

@[simp] theorem apply_capacity {m : Message} {self : String} : (m.apply self c).2.capacity = c.capacity := by
  rcases apply_cases m self c with ⟨h, -⟩ | ⟨key, h, -⟩ | ⟨h, -⟩ <;> rw [h]
  · exact delete_capacity
  · rfl

@[simp] theorem apply_defaultTtl {m : Message} {self : String} : (m.apply self c).2.defaultTtl = c.defaultTtl := by
  rcases apply_cases m self c with ⟨h, -⟩ | ⟨key, h, -⟩ | ⟨h, -⟩ <;> rw [h]
  · exact delete_defaultTtl
  · rfl

end Entries

/-! ## Acts -/

/-- What can happen to a local tier. A message is applied by the instance `self`. -/
inductive Act (α : Type) where
  | get (key : String)
  | set (key : String) (value : α) (ttl : Option Nat)
  | delete (key : String)
  | clear
  | contains (key : String)
  | purge
  | apply (m : Message) (self : String)
  | advance (d : Nat)

namespace Act

/-- Whether a key is written. -/
def sets (k : String) : Act α → Bool
  | set key _ _ => key == k
  | _ => false

/-- Whether a key is deleted, cleared or invalidated. -/
def removes (k : String) : Act α → Bool
  | delete key => key == k
  | clear => true
  | apply m self => m.drops self k
  | _ => false

/-- Whether an act that puts nothing to the front drops an entry. -/
def drops (now : Nat) (x : String × Entry α) : Act α → Bool
  | get key => x.1 == key && x.2.isExpired now
  | purge => x.2.isExpired now
  | a => a.removes x.1

end Act

/-- A local tier and its clock. -/
structure Timed (α : Type) where
  now : Nat
  lru : Lru α

namespace Timed

/-- The tier after an act. -/
def act (s : Timed α) : Act α → Timed α
  | .get key => { s with lru := (s.lru.get s.now key).2 }
  | .set key v ttl => { s with lru := (s.lru.set s.now key v ttl).2 }
  | .delete key => { s with lru := (s.lru.delete key).2 }
  | .clear => { s with lru := s.lru.clear }
  | .contains _ => s
  | .purge => { s with lru := (s.lru.purge s.now).2 }
  | .apply m self => { s with lru := (m.apply self s.lru).2 }
  | .advance d => { s with now := s.now + d }

/-- The tier after several acts. -/
def run (s : Timed α) (acts : List (Act α)) : Timed α := acts.foldl act s

/-- The key that an act touches: one that is written, or read with success. -/
def touched? (s : Timed α) : Act α → Option String
  | .set key _ _ => some key
  | .get key => if (s.lru.get s.now key).1.isSome then some key else none
  | _ => none

/-- The keys touched in the course of several acts, one after the other. -/
def touches (s : Timed α) : List (Act α) → List String
  | [] => []
  | a :: acts => (s.touched? a).toList ++ (s.act a).touches acts

variable {s : Timed α} {a : Act α}

/-- An act either cuts the entries down, or reads or writes a key with success. -/
theorem act_cases (s : Timed α) (a : Act α) :
    (s.touched? a = none ∧ (∀ k, a.sets k = false) ∧
      (s.act a).lru.entries = s.lru.entries.filter fun x => !a.drops s.now x) ∨
    (∃ key e, a = .get key ∧ s.touched? a = some key ∧ s.lru.find? key = some e ∧
      (s.act a).lru.entries = (key, e) :: without key s.lru.entries) ∨
    ∃ key v ttl, a = .set key v ttl ∧ (s.act a).lru.entries =
      (key, .written s.now v (ttl.getD s.lru.defaultTtl)) :: (without key s.lru.entries).take (s.lru.capacity - 1) := by
  cases a with
  | get key =>
    have hentries : (s.act (.get key)).lru.entries = s.lru.front s.now key ++ without key s.lru.entries := entries_get ..
    have htouched : s.touched? (.get key) = if (s.lru.live? s.now key).isSome then some key else none := by
      rw [← get_fst]
      rfl
    -- a read that finds nothing may still drop its key, which has expired
    rcases s.lru.front_cases s.now key with ⟨e, hf, -, hl, hfront⟩ | ⟨hdead, hl, hfront⟩ <;>
      rw [hl] at htouched <;> rw [hfront] at hentries
    · exact Or.inr (Or.inl ⟨key, e, rfl, htouched, hf, hentries⟩)
    · exact Or.inl ⟨htouched, fun _ => rfl, hentries.trans (without_of_dead hdead)⟩
  | set key v ttl => exact Or.inr (Or.inr ⟨key, v, ttl, rfl, entries_set ..⟩)
  | delete key =>
    refine Or.inl ⟨rfl, fun _ => rfl, (entries_delete ..).trans ?_⟩
    apply List.filter_congr
    intro x _
    show (x.1 != key) = !(key == x.1)
    rw [bne, BEq.comm]
  | clear => exact Or.inl ⟨rfl, fun _ => rfl, (List.filter_false _).symm⟩
  | contains => exact Or.inl ⟨rfl, fun _ => rfl, (List.filter_true _).symm⟩
  | purge => exact Or.inl ⟨rfl, fun _ => rfl, rfl⟩
  | apply m self => exact Or.inl ⟨rfl, fun _ => rfl, entries_apply ..⟩
  | advance d => exact Or.inl ⟨rfl, fun _ => rfl, (List.filter_true _).symm⟩

@[simp] theorem capacity_act (s : Timed α) (a : Act α) : (s.act a).lru.capacity = s.lru.capacity := by
  cases a with
  | get => exact get_capacity
  | set => exact set_capacity
  | delete => exact delete_capacity
  | apply m self => exact apply_capacity
  | _ => rfl

@[simp] theorem capacity_run (s : Timed α) (acts : List (Act α)) : (s.run acts).lru.capacity = s.lru.capacity := by
  induction acts generalizing s with
  | nil => rfl
  | cons a acts ih => exact (ih (s.act a)).trans (capacity_act s a)

@[simp] theorem defaultTtl_act (s : Timed α) (a : Act α) : (s.act a).lru.defaultTtl = s.lru.defaultTtl := by
  cases a with
  | get => exact get_defaultTtl
  | set => exact set_defaultTtl
  | delete => exact delete_defaultTtl
  | apply m self => exact apply_defaultTtl
  | _ => rfl

theorem now_le_act (s : Timed α) (a : Act α) : s.now ≤ (s.act a).now := by
  cases a with
  | advance d => exact Nat.le_add_right ..
  | _ => exact Nat.le_refl _

theorem run_concat (s : Timed α) (acts : List (Act α)) (a : Act α) : s.run (acts ++ [a]) = (s.run acts).act a := by
  unfold run
  rw [List.foldl_append, List.foldl_cons, List.foldl_nil]

theorem touches_concat (s : Timed α) (acts : List (Act α)) (a : Act α) :
    s.touches (acts ++ [a]) = s.touches acts ++ ((s.run acts).touched? a).toList := by
  induction acts generalizing s with
  | nil => exact List.append_nil _
  | cons b acts ih =>
    show _ ++ (s.act b).touches (acts ++ [a]) = _
    rw [ih, ← List.append_assoc]
    rfl

end Timed

end TwoTier.Lru
