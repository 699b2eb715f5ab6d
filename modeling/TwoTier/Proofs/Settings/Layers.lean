/-
Layers of settings. A value stands in a tree under a path of keys. To put one under a path changes nothing but what
stands under that path, under the paths that lead to it and under those that go on from it; and a layer whose tables
name each key once is, merged into nothing, the layer itself.
-/
import Mathlib.Data.List.Nodup
import TwoTier.Settings.Tree

namespace TwoTier.Tree

/-! ## Paths -/

/-- What stands under a path of keys. -/
def at? (t : Tree) : List String → Option Tree
  | [] => some t
  | key :: rest => (t.members.lookup key).bind fun v => v.at? rest

@[simp] theorem at?_nil (t : Tree) : t.at? [] = some t := rfl

theorem at?_cons (t : Tree) (key : String) (rest : List String) :
    t.at? (key :: rest) = (t.members.lookup key).bind fun v => v.at? rest := rfl

@[simp] theorem members_table (ms : List (String × Tree)) : (Tree.table ms).members = ms := rfl

/-- The members of the table under a key, none where nothing stands there. -/
def inside (name : String) (ms : List (String × Tree)) : List (String × Tree) :=
  ((ms.lookup name).getD .absent).members

theorem at?_inside (ms : List (String × Tree)) (name next : String) (rest : List String) :
    (Tree.table ms).at? (name :: next :: rest) = (Tree.table (inside name ms)).at? (next :: rest) := by
  rw [at?_cons, members_table, inside]
  cases ms.lookup name <;> rfl

theorem at?_singleton (ms : List (String × Tree)) (name : String) :
    (Tree.table ms).at? [name] = ms.lookup name := by
  simp [at?_cons]

/-- Whether a value is none that other values can stand in. -/
def IsLeaf (v : Tree) : Prop := ∀ ms, v ≠ .table ms

/-- Neither path leads to the other. -/
def Apart (p q : List String) : Prop := ¬ p <+: q ∧ ¬ q <+: p

theorem lookup_update (key k : String) (f : Option Tree → Tree) (ms : List (String × Tree)) :
    (update key f ms).lookup k = if k = key then some (f (ms.lookup key)) else ms.lookup k := by
  induction ms with
  | nil =>
    by_cases hk : k = key
    · simp [update, hk]
    · simp [update, List.lookup_cons, hk, beq_eq_false_iff_ne.mpr hk]
  | cons m rest ih =>
    obtain ⟨k', v⟩ := m
    by_cases hkey : k' = key
    · subst hkey
      by_cases hk : k = k'
      · simp [update, hk]
      · simp [update, List.lookup_cons, hk, beq_eq_false_iff_ne.mpr hk]
    · have hne : (key == k') = false := by simpa using Ne.symm hkey
      by_cases hk : k = k'
      · subst hk
        simp [update, hkey]
      · have hk' : (k == k') = false := by simpa using hk
        simp [update, hkey, List.lookup_cons, hne, hk', ih]

theorem lookup_new {β : Type} {ms : List (String × β)} {key : String} (h : key ∉ ms.map Prod.fst) :
    ms.lookup key = none := by
  rw [List.lookup_eq_none_iff]
  rintro ⟨k, v⟩ hm
  have hne : key ≠ k := by
    rintro rfl
    exact h (List.mem_map_of_mem hm)
  simpa using hne

theorem mem_update {key : String} {f : Option Tree → Tree} {ms : List (String × Tree)} {m : String × Tree}
    (h : m ∈ update key f ms) : m ∈ ms ∨ ∃ old, m = (key, f old) := by
  induction ms with
  | nil => exact Or.inr ⟨none, List.mem_singleton.mp h⟩
  | cons x rest ih =>
    obtain ⟨k, v⟩ := x
    unfold update at h
    split at h
    · rename_i hk
      rcases List.mem_cons.mp h with rfl | h
      · exact Or.inr ⟨some v, by rw [hk]⟩
      · exact Or.inl (List.mem_cons_of_mem _ h)
    · rcases List.mem_cons.mp h with rfl | h
      · exact Or.inl List.mem_cons_self
      · exact (ih h).imp_left (List.mem_cons_of_mem _)

theorem nodup_update {key : String} {ms : List (String × Tree)} (h : (ms.map Prod.fst).Nodup)
    (f : Option Tree → Tree) : ((update key f ms).map Prod.fst).Nodup := by
  induction ms with
  | nil => simp [update]
  | cons m rest ih =>
    obtain ⟨k, v⟩ := m
    simp only [List.map_cons, List.nodup_cons] at h
    unfold update
    split
    · simpa using h
    · rename_i hk
      rw [List.map_cons, List.nodup_cons]
      constructor
      · intro hmem
        obtain ⟨⟨k', v'⟩, hm, rfl⟩ := List.mem_map.mp hmem
        rcases mem_update hm with hm | ⟨old, heq⟩
        · exact h.1 (List.mem_map_of_mem hm)
        · cases heq
          exact hk rfl
      · exact ih h.2

theorem assign_leaf {v : Tree} (hv : v.IsLeaf) (base : Tree) (key : String) :
    base.assign key v = .table (update key (fun _ => v) base.members) := by
  unfold assign
  split
  · exact absurd rfl (hv _)
  · rfl

theorem assignAt_cons (base : Tree) (key next : String) (rest : List String) (v : Tree) :
    base.assignAt (key :: next :: rest) v =
      .table (update key (fun old => assignAt (.table (old.getD .absent).members) (next :: rest) v) base.members) := rfl

section Put

variable {v : Tree} {p q : List String}

theorem at?_assignAt_self (hv : v.IsLeaf) (hp : p ≠ []) (base : Tree) : (base.assignAt p v).at? p = some v := by
  induction p generalizing base with
  | nil => contradiction
  | cons key rest ih =>
    cases rest with
    | nil => simp [assignAt, assign_leaf hv, at?_cons, lookup_update]
    | cons next rest =>
      rw [assignAt_cons, at?_cons, members_table, lookup_update, if_pos rfl]
      exact ih (by simp) _

/-- On the way to a value there are tables. -/
theorem at?_assignAt_of_prefix (hq : q <+: p) (hne : q ≠ p) (hv : v.IsLeaf) (base : Tree) :
    ∃ ms, (base.assignAt p v).at? q = some (.table ms) := by
  induction p generalizing base q with
  | nil => exact absurd (List.prefix_nil.mp hq) hne
  | cons key rest ih =>
    -- assigning under a key makes a table of whatever was there
    have htable : ∃ ms, base.assignAt (key :: rest) v = .table ms := by
      cases rest with
      | nil => exact ⟨_, assign_leaf hv base key⟩
      | cons next rest => exact ⟨_, rfl⟩
    cases q with
    | nil =>
      obtain ⟨ms, h⟩ := htable
      exact ⟨ms, by rw [at?_nil, h]⟩
    | cons k q =>
      obtain ⟨rfl, hrest⟩ := List.cons_prefix_cons.mp hq
      cases rest with
      | nil =>
        obtain rfl := List.prefix_nil.mp hrest
        exact absurd rfl hne
      | cons next rest =>
        rw [assignAt_cons, at?_cons, members_table, lookup_update, if_pos rfl]
        exact ih hrest (fun h => hne (by rw [h])) _

theorem at?_assignAt_of_apart (h : Apart p q) (hv : v.IsLeaf) (base : Tree) :
    (base.assignAt p v).at? q = base.at? q := by
  induction p generalizing base q with
  | nil => exact absurd List.nil_prefix h.1
  | cons key rest ih =>
    cases q with
    | nil => exact absurd List.nil_prefix h.2
    | cons k q =>
      by_cases hk : k = key
      · subst hk
        have hrest : Apart rest q := by simpa [Apart] using h
        cases rest with
        | nil => exact absurd List.nil_prefix hrest.1
        | cons next rest =>
          cases q with
          | nil => exact absurd List.nil_prefix hrest.2
          | cons k' q =>
            rw [assignAt_cons, at?_cons, members_table, lookup_update, if_pos rfl, Option.bind_some, ih hrest, at?_cons base]
            -- what is no table holds nothing, as what is missing
            cases base.members.lookup k <;> rfl
      · cases rest with
        | nil => rw [assignAt, assign_leaf hv, at?_cons, members_table, lookup_update, if_neg hk, ← at?_cons]
        | cons next rest => rw [assignAt_cons, at?_cons, members_table, lookup_update, if_neg hk, ← at?_cons]

end Put

/-! ## Layers of values under paths -/

/-- Whether a table stands under a path, if anything does. -/
def TableAt (t : Tree) (q : List String) : Prop := ∀ v, t.at? q = some v → ∃ ms, v = .table ms

section Merge

variable {layer : List (String × Tree)} {q : List String}

theorem merge_cons (base : Tree) (m : String × Tree) :
    base.merge (.table (m :: layer)) = (base.assignAt (path m.1) m.2).merge (.table layer) := rfl

/-- A layer that sets values under paths of which none leads to another sets each, and nothing else. -/
theorem at?_merge {key : String} (hleaf : ∀ m ∈ layer, m.2.IsLeaf) (hnodup : (layer.map Prod.fst).Nodup)
    (hkey : path key ≠ []) (hapart : ∀ m ∈ layer, m.1 ≠ key → Apart (path m.1) (path key)) (base : Tree) :
    (base.merge (.table layer)).at? (path key) = (layer.lookup key).or (base.at? (path key)) := by
  induction layer generalizing base with
  | nil => rfl
  | cons m rest ih =>
    obtain ⟨k, v⟩ := m
    simp only [List.map_cons, List.nodup_cons] at hnodup
    simp only [List.forall_mem_cons] at hleaf hapart
    rw [merge_cons, ih hleaf.2 hnodup.2 hapart.2]
    by_cases hk : k = key
    · -- the rest of the layer does not name the key again
      subst hk
      rw [lookup_new hnodup.1, at?_assignAt_self hleaf.1 hkey]
      simp
    · rw [at?_assignAt_of_apart (hapart.1 hk) hleaf.1, List.lookup_cons, beq_eq_false_iff_ne.mpr (Ne.symm hk)]

theorem tableAt_merge (hleaf : ∀ m ∈ layer, m.2.IsLeaf)
    (hq : ∀ m ∈ layer, q <+: path m.1 ∧ q ≠ path m.1 ∨ Apart (path m.1) q) {base : Tree} (hbase : base.TableAt q) :
    (base.merge (.table layer)).TableAt q := by
  induction layer generalizing base with
  | nil => exact hbase
  | cons m rest ih =>
    simp only [List.forall_mem_cons] at hleaf hq
    rw [merge_cons]
    refine ih hleaf.2 hq.2 ?_
    intro v hv
    rcases hq.1 with ⟨hbelow, hne⟩ | hapart
    · obtain ⟨ms, hms⟩ := at?_assignAt_of_prefix hbelow hne hleaf.1 base
      exact ⟨ms, Option.some.inj (hv.symm.trans hms)⟩
    · exact hbase v (by rwa [at?_assignAt_of_apart hapart hleaf.1] at hv)

end Merge

/-! ## Distinct keys -/

mutual

/-- Every table that can be reached by keys names each key once. -/
def Distinct : Tree → Prop
  | .table ms => (ms.map Prod.fst).Nodup ∧ AllDistinct ms
  | _ => True

def AllDistinct : List (String × Tree) → Prop
  | [] => True
  | (_, v) :: rest => v.Distinct ∧ AllDistinct rest

end

theorem allDistinct_iff {ms : List (String × Tree)} : AllDistinct ms ↔ ∀ m ∈ ms, m.2.Distinct := by
  induction ms with
  | nil => simp [AllDistinct]
  | cons m rest ih => simp [AllDistinct, ih]

theorem update_new {key : String} {ms : List (String × Tree)} (h : key ∉ ms.map Prod.fst) (f : Option Tree → Tree) :
    update key f ms = ms ++ [(key, f none)] := by
  induction ms with
  | nil => rfl
  | cons m rest ih =>
    obtain ⟨k, v⟩ := m
    simp only [List.map_cons, List.mem_cons, not_or] at h
    simp [update, Ne.symm h.1, ih h.2]

mutual

theorem assign_new : ∀ {v : Tree}, v.Distinct → ∀ {key : String} {before : List (String × Tree)},
    key ∉ before.map Prod.fst → (Tree.table before).assign key v = .table (before ++ [(key, v)])
  | .table ms, h, key, before, hkey => by
    have hms : (Tree.table []).assignAll ms = .table ([] ++ ms) := assignAll_new h.2 h.1 (by simp)
    rw [assign, members_table, update_new hkey]
    simpa [members] using hms
  | .absent, _, _, _, hkey | .bool _, _, _, _, hkey | .int _, _, _, _, hkey | .float _, _, _, _, hkey
  | .text _, _, _, _, hkey | .list _, _, _, _, hkey => by
    rw [assign_leaf (by rintro ms ⟨⟩), members_table, update_new hkey]

theorem assignAll_new : ∀ {ms before : List (String × Tree)}, AllDistinct ms → (ms.map Prod.fst).Nodup →
    (∀ key ∈ ms.map Prod.fst, key ∉ before.map Prod.fst) → (Tree.table before).assignAll ms = .table (before ++ ms)
  | [], before, _, _, _ => by simp [assignAll]
  | (key, v) :: rest, before, h, hnodup, hnew => by
    simp only [List.map_cons, List.nodup_cons] at hnodup
    have hrest : ∀ k ∈ rest.map Prod.fst, k ∉ (before ++ [(key, v)]).map Prod.fst := by
      intro k hk hmem
      simp only [List.map_append, List.mem_append, List.map_cons, List.map_nil, List.mem_singleton] at hmem
      rcases hmem with hmem | rfl
      · exact hnew k (List.mem_cons_of_mem _ hk) hmem
      · exact hnodup.1 hk
    rw [assignAll, assign_new h.1 (hnew key List.mem_cons_self), assignAll_new h.2 hnodup.2 hrest, List.append_assoc]
    rfl

end

/-- Where no key of a layer is a path of several, merging puts the members in one after the other. -/
theorem merge_eq_assignAll {layer : List (String × Tree)} (h : ∀ m ∈ layer, path m.1 = [m.1]) (base : Tree) :
    base.merge (.table layer) = base.assignAll layer := by
  induction layer generalizing base with
  | nil => rfl
  | cons m rest ih =>
    obtain ⟨key, v⟩ := m
    have hkey : path key = [key] := h (key, v) List.mem_cons_self
    have hrest := ih (fun m hm => h m (List.mem_cons_of_mem _ hm)) (base.assign key v)
    rw [assignAll, ← hrest]
    show rest.foldl _ (base.assignAt (path key) v) = _
    rw [hkey]
    rfl

/-- Merged into nothing, a layer is what it is. -/
theorem merge_nothing {layer : List (String × Tree)} (h : ∀ m ∈ layer, path m.1 = [m.1])
    (hd : (Tree.table layer).Distinct) : (Tree.table []).merge (.table layer) = .table layer := by
  rw [merge_eq_assignAll h]
  exact assignAll_new hd.2 hd.1 (by simp)

end TwoTier.Tree
