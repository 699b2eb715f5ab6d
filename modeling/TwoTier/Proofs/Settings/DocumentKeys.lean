/-
A document names each key once. A table that is being read changes at one key at a time, and the reader of each kind of
statement refuses to define a key again; so no table of a document that was read, inline ones included, holds two values
under one key.
-/
import Mathlib.Tactic
import TwoTier.Proofs.Settings.Layers
import TwoTier.Settings.Toml

namespace TwoTier.Toml

theorem distinct_of_isLeaf {v : Tree} (h : v.IsLeaf) : v.Distinct := by
  cases v with
  | table ms => exact absurd rfl (h ms)
  | _ => trivial

/-! ## Values without members -/

theorem isLeaf_inRange {i : Int} {v : Tree} (h : inRange? i = some v) : v.IsLeaf := by
  unfold inRange? at h
  split at h
  · cases h
    rintro ms ⟨⟩
  · cases h

theorem isLeaf_basedInteger {base : Nat} {digits : List Char} {v : Tree} (h : basedInteger? base digits = some v) :
    v.IsLeaf := by
  obtain ⟨ds, -, h⟩ := Option.bind_eq_some_iff.mp h
  exact isLeaf_inRange h

theorem isLeaf_decimal {negative : Bool} {text : List Char} {v : Tree} (h : decimal? negative text = some v) :
    v.IsLeaf := by
  unfold decimal? at h
  simp only at h
  split at h
  · cases h
  · split at h
    · exact isLeaf_inRange h
    · split at h
      · cases h
      · obtain ⟨e, -, h⟩ := Option.bind_eq_some_iff.mp h
        split at h
        · cases h
          rintro ms ⟨⟩
        · cases h

theorem isLeaf_number {text : List Char} {v : Tree} (h : number? text = some v) : v.IsLeaf := by
  unfold number? at h
  split at h
  · exact isLeaf_basedInteger h
  · exact isLeaf_basedInteger h
  · exact isLeaf_basedInteger h
  · split at h
    split at h
    · cases h
      rintro ms ⟨⟩
    · split at h
      · cases h
        rintro ms ⟨⟩
      · exact isLeaf_decimal h

theorem isLeaf_moment {text : List Char} {v : Tree} (h : moment? text = some v) : v.IsLeaf := by
  have htext {cs : List Char} : (Tree.text (String.ofList cs)).IsLeaf := by rintro ms ⟨⟩
  unfold moment? at h
  split at h
  · cases h
    exact htext
  · split at h
    · split at h
      · obtain ⟨o, -, rfl⟩ := Option.map_eq_some_iff.mp h
        exact htext
      · cases h
    · cases h
  · split at h
    · cases h
      exact htext
    · cases h

theorem isLeaf_scalar {text rest : List Char} {v : Tree} (h : scalar? text = some (v, rest)) : v.IsLeaf := by
  unfold scalar? at h
  obtain ⟨v', hv, h⟩ := Option.map_eq_some_iff.mp h
  cases h
  split at hv
  · cases hv
    rintro ms ⟨⟩
  · split at hv
    · cases hv
      rintro ms ⟨⟩
    · split at hv
      · rename_i hn
        cases hv
        exact isLeaf_number hn
      · exact isLeaf_moment hv

/-! ## Tables under construction -/

/-- A table whose keys are distinct, and so are those of the tables in it. -/
structure Tidy (ms : Members) : Prop where
  nodup : (ms.map Prod.fst).Nodup
  distinct : ∀ m ∈ ms, m.2.tree.Distinct

theorem trees_eq_map (ms : Members) : Node.trees ms = ms.map fun m => (m.1, m.2.tree) := by
  induction ms with
  | nil => rfl
  | cons m rest ih => simp [Node.trees, ih]

theorem tidy_iff {ms : Members} : Tidy ms ↔ (Tree.table (Node.trees ms)).Distinct := by
  have hkeys : (Node.trees ms).map Prod.fst = ms.map Prod.fst := by simp [trees_eq_map, Function.comp_def]
  rw [Tree.Distinct, Tree.allDistinct_iff, hkeys]
  constructor
  · rintro ⟨hnodup, hdistinct⟩
    refine ⟨hnodup, ?_⟩
    rintro ⟨k, v⟩ hm
    rw [trees_eq_map] at hm
    obtain ⟨m, hmem, heq⟩ := List.mem_map.mp hm
    cases heq
    exact hdistinct m hmem
  · rintro ⟨hnodup, hdistinct⟩
    refine ⟨hnodup, fun m hm => hdistinct (m.1, m.2.tree) ?_⟩
    rw [trees_eq_map]
    exact List.mem_map_of_mem hm

theorem tidy_nil : Tidy [] := ⟨by simp, by simp⟩

/-- A change makes of what a key holds, or of nothing, something with distinct keys. -/
def Tidies (f : Option Node → Option Node) : Prop :=
  ∀ ⦃old : Option Node⦄ ⦃n : Node⦄, (∀ m, old = some m → m.tree.Distinct) → f old = some n → n.tree.Distinct

theorem keys_change {ms ms' : Members} {key : String} {f : Option Node → Option Node} (h : change ms key f = some ms') :
    ms'.map Prod.fst = ms.map Prod.fst ∨ key ∉ ms.map Prod.fst ∧ ms'.map Prod.fst = ms.map Prod.fst ++ [key] := by
  induction ms generalizing ms' with
  | nil =>
    obtain ⟨n, -, rfl⟩ := Option.map_eq_some_iff.mp h
    exact Or.inr (by simp)
  | cons m rest ih =>
    obtain ⟨k, n⟩ := m
    unfold change at h
    split at h
    · obtain ⟨n', -, rfl⟩ := Option.map_eq_some_iff.mp h
      exact Or.inl rfl
    · rename_i hk
      obtain ⟨rest', hrest, rfl⟩ := Option.map_eq_some_iff.mp h
      rcases ih hrest with hkeys | ⟨hnew, hkeys⟩
      · exact Or.inl (by simp [hkeys])
      · exact Or.inr (by simp [hkeys, hnew, Ne.symm hk])

theorem distinct_change {ms ms' : Members} {key : String} {f : Option Node → Option Node} (hf : Tidies f)
    (hms : ∀ m ∈ ms, m.2.tree.Distinct) (h : change ms key f = some ms') : ∀ m ∈ ms', m.2.tree.Distinct := by
  -- the member is changed where its key is found, and added behind the last one otherwise
  induction ms generalizing ms' with
  | nil =>
    obtain ⟨n, hn, rfl⟩ := Option.map_eq_some_iff.mp h
    rintro m hm
    obtain rfl := List.mem_singleton.mp hm
    exact hf (by simp) hn
  | cons m rest ih =>
    obtain ⟨k, n⟩ := m
    have hrest : ∀ m ∈ rest, m.2.tree.Distinct := fun m hm => hms m (List.mem_cons_of_mem _ hm)
    unfold change at h
    split at h
    · obtain ⟨n', hn, rfl⟩ := Option.map_eq_some_iff.mp h
      rintro m hm
      rcases List.mem_cons.mp hm with rfl | hm
      · exact hf (by rintro m ⟨⟩; exact hms (k, n) List.mem_cons_self) hn
      · exact hrest m hm
    · obtain ⟨rest', hchange, rfl⟩ := Option.map_eq_some_iff.mp h
      rintro m hm
      rcases List.mem_cons.mp hm with rfl | hm
      · exact hms (k, n) List.mem_cons_self
      · exact ih hrest hchange m hm

theorem Tidy.change {ms ms' : Members} {key : String} {f : Option Node → Option Node} (hms : Tidy ms) (hf : Tidies f)
    (h : Toml.change ms key f = some ms') : Tidy ms' := by
  refine ⟨?_, distinct_change hf hms.distinct h⟩
  rcases keys_change h with hkeys | ⟨hnew, hkeys⟩
  · rw [hkeys]
    exact hms.nodup
  · rw [hkeys]
    exact List.nodup_append.mpr ⟨hms.nodup, by simp, by rintro a ha b hb rfl; exact hnew (List.mem_singleton.mp hb ▸ ha)⟩

/-- What becomes of the table that a key holds decides what becomes of the key. -/
theorem distinct_table {g : Members → Option Members} (hg : ∀ {ms ms' : Members}, Tidy ms → g ms = some ms' → Tidy ms')
    {inner : Members} (hinner : (Tree.table (Node.trees inner)).Distinct) {make : Members → Node}
    (hmake : ∀ ms, (make ms).tree = .table (Node.trees ms)) {n : Node} (h : (g inner).map make = some n) :
    n.tree.Distinct := by
  obtain ⟨ms, hms, rfl⟩ := Option.map_eq_some_iff.mp h
  rw [hmake]
  exact tidy_iff.mp (hg (tidy_iff.mpr hinner) hms)

/-- A list of tables is no table. -/
theorem distinct_array {o : Option Members} {make : Members → List Members} {n : Node}
    (h : o.map (fun ms => Node.array (make ms)) = some n) : n.tree.Distinct := by
  obtain ⟨ms, -, rfl⟩ := Option.map_eq_some_iff.mp h
  trivial

theorem Tidy.define {keys : List String} {v : Tree} (hv : v.Distinct) {ms ms' : Members} (hms : Tidy ms)
    (h : Toml.define ms keys v = some ms') : Tidy ms' := by
  induction keys generalizing ms ms' with
  | nil => cases h
  | cons key rest ih =>
    cases rest with
    | nil =>
      refine hms.change ?_ h
      rintro (_ | old) n hold hn
      · cases hn
        exact hv
      · cases hn
    | cons next rest =>
      refine hms.change ?_ h
      rintro old n hold hn
      beta_reduce at hn
      split at hn
      · exact distinct_table ih (tidy_iff.mp tidy_nil) (fun _ => rfl) hn
      · exact distinct_table ih (hold _ rfl) (fun _ => rfl) hn
      · exact distinct_table ih (hold _ rfl) (fun _ => rfl) hn
      · cases hn

/-- On the way to the table of a header, what a key holds is gone through, or made. -/
theorem tidies_open {g : Members → Option Members} (hg : ∀ {ms ms' : Members}, Tidy ms → g ms = some ms' → Tidy ms') :
    Tidies fun
      | none => (g []).map .implicit
      | some (.implicit inner) => (g inner).map .implicit
      | some (.header inner) => (g inner).map .header
      | some (.dotted inner) => (g inner).map .dotted
      | some (.array (last :: before)) => (g last).map fun last => .array (last :: before)
      | some _ => none := by
  rintro old n hold hn
  beta_reduce at hn
  split at hn
  · exact distinct_table hg (tidy_iff.mp tidy_nil) (fun _ => rfl) hn
  · exact distinct_table hg (hold _ rfl) (fun _ => rfl) hn
  · exact distinct_table hg (hold _ rfl) (fun _ => rfl) hn
  · exact distinct_table hg (hold _ rfl) (fun _ => rfl) hn
  · exact distinct_array hn
  · cases hn

theorem Tidy.openTable {keys : List String} {ms ms' : Members} (hms : Tidy ms)
    (h : Toml.openTable ms keys = some ms') : Tidy ms' := by
  induction keys generalizing ms ms' with
  | nil => cases h
  | cons key rest ih =>
    cases rest with
    | nil =>
      refine hms.change ?_ h
      rintro old n hold hn
      beta_reduce at hn
      split at hn
      · cases hn
        exact tidy_iff.mp tidy_nil
      · cases hn
        exact hold (.implicit _) rfl
      · cases hn
    | cons next rest => exact hms.change (tidies_open ih) h

theorem Tidy.openItem {keys : List String} {ms ms' : Members} (hms : Tidy ms)
    (h : Toml.openItem ms keys = some ms') : Tidy ms' := by
  induction keys generalizing ms ms' with
  | nil => cases h
  | cons key rest ih =>
    cases rest with
    | nil =>
      refine hms.change ?_ h
      rintro old n hold hn
      beta_reduce at hn
      split at hn
      · cases hn
        trivial
      · cases hn
        trivial
      · cases hn
    | cons next rest => exact hms.change (tidies_open ih) h

theorem Tidy.defineIn {current keys : List String} {v : Tree} (hv : v.Distinct) {ms ms' : Members} (hms : Tidy ms)
    (h : Toml.defineIn ms current keys v = some ms') : Tidy ms' := by
  induction current generalizing ms ms' with
  | nil => exact hms.define hv h
  | cons key rest ih =>
    refine hms.change ?_ h
    rintro old n hold hn
    beta_reduce at hn
    split at hn
    · exact distinct_table ih (hold _ rfl) (fun _ => rfl) hn
    · exact distinct_table ih (hold _ rfl) (fun _ => rfl) hn
    · exact distinct_table ih (hold _ rfl) (fun _ => rfl) hn
    · exact distinct_array hn
    · cases hn

/-! ## Documents -/

/-- Values that were read, and the inline tables in them. -/
theorem distinct_value (fuel : Nat) :
    (∀ {text rest : List Char} {v : Tree}, value fuel text = some (v, rest) → v.Distinct) ∧
      ∀ {ms ms' : Members} {text rest : List Char}, Tidy ms → inlineMembers fuel ms text = some (ms', rest) →
        Tidy ms' := by
  induction fuel with
  | zero =>
    constructor
    · intro _ _ _ h
      cases h
    · intro _ _ _ _ _ h
      cases h
  | succ fuel ih =>
    -- values and inline tables are read by each other, so the induction carries both
    obtain ⟨hvalue, hmembers⟩ := ih
    constructor
    · intro text rest v h
      unfold value at h
      split at h
      · obtain ⟨x, -, heq⟩ := Option.map_eq_some_iff.mp h
        cases heq
        trivial
      · obtain ⟨x, -, heq⟩ := Option.map_eq_some_iff.mp h
        cases heq
        trivial
      · obtain ⟨x, -, heq⟩ := Option.map_eq_some_iff.mp h
        cases heq
        trivial
      · split at h
        · cases h
          exact tidy_iff.mp tidy_nil
        · obtain ⟨x, hx, heq⟩ := Option.map_eq_some_iff.mp h
          cases heq
          exact tidy_iff.mp (hmembers tidy_nil hx)
      · exact distinct_of_isLeaf (isLeaf_scalar h)
    · intro ms ms' text rest hms h
      unfold inlineMembers at h
      split at h
      · split at h
        · cases h
        · rename_i v rest' hv
          split at h
          · cases h
          · rename_i ms₁ hdefine
            have htidy : Tidy ms₁ := hms.define (hvalue hv) hdefine
            split at h
            · cases h
              exact htidy
            · exact hmembers htidy h
            · cases h
      · cases h

theorem tidy_statements {fuel : Nat} {doc doc' : Members} {current : List String} {text : List Char} (hdoc : Tidy doc)
    (h : statements fuel doc current text = some doc') : Tidy doc' := by
  induction fuel generalizing doc current text with
  | zero => cases h
  | succ fuel ih =>
    -- what comes next is unreadable, the end, the header of an item or of a table, or a definition
    unfold statements at h
    split at h
    · cases h
    · cases h
      exact hdoc
    · split at h
      · split at h
        · rename_i hopen _
          exact ih (hdoc.openItem hopen) h
        · cases h
      · cases h
    · split at h
      · split at h
        · rename_i hopen _
          exact ih (hdoc.openTable hopen) h
        · cases h
      · cases h
    · split at h
      · split at h
        · cases h
        · rename_i hv
          split at h
          · rename_i hdefine _
            exact ih (hdoc.defineIn ((distinct_value _).1 hv) hdefine) h
          · cases h
      · cases h

/-- No table of a document that was read names a key twice. -/
theorem distinct_parse {text : String} {doc : Tree} (h : parse text = some doc) :
    ∃ ms, doc = .table ms ∧ doc.Distinct := by
  obtain ⟨ms, hms, rfl⟩ := Option.map_eq_some_iff.mp h
  exact ⟨_, rfl, tidy_iff.mp (tidy_statements tidy_nil hms)⟩

end TwoTier.Toml
