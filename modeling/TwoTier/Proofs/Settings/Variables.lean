/-
Settings from environment variables. Each setting has a variable, and the layer that variables make has under its path
what the text of that variable is read as. A text that reads as no truth value and no number is read as itself.
-/
import TwoTier.Proofs.Settings.Texts

namespace TwoTier

namespace Setting

/-! ## Names -/

/-- The variable that sets a setting. -/
def envName (s : Setting) : String :=
  String.ofList ("TIERCACHE".toList ++ s.path.flatMap fun k => '_' :: '_' :: k.toList.map Char.toUpper)

/-- The path of a setting in one text. -/
def pathText (s : Setting) : String := ".".intercalate s.path

example : defaultTtlSecs.envName = "TIERCACHE__CACHE__DEFAULT_TTL_SECS" := by decide +kernel

theorem pathOf?_envName (s : Setting) : Environment.pathOf? s.envName = some s.pathText := by
  revert s
  decide +kernel

theorem path_pathText (s : Setting) : Tree.path s.pathText = s.path := by
  revert s
  decide +kernel

theorem pathText_injective : Function.Injective pathText := by
  intro s s' h
  by_contra hne
  have hpath : s.path = s'.path := by rw [← path_pathText, ← path_pathText, h]
  exact (apart_path hne).1 (by rw [hpath])

theorem envName_injective : Function.Injective envName := by
  intro s s' h
  have hpath := pathOf?_envName s
  rw [h, pathOf?_envName] at hpath
  exact pathText_injective (Option.some.inj hpath).symm

end Setting

namespace Environment

/-- Variables with a name each, of which none sets anything but a setting. -/
structure Regular (vars : List (String × String)) : Prop where
  nodup : (vars.map Prod.fst).Nodup
  named : ∀ v ∈ vars, pathOf? v.1 = none ∨ ∃ s : Setting, v.1 = s.envName

/-! ## The layer -/

/-- A layer with one more variable in it. -/
def put (ms : List (String × Tree)) (v : String × String) : List (String × Tree) :=
  match pathOf? v.1 with
  | none => ms
  | some path => Tree.update path (fun _ => valueOf v.2) ms

theorem layer_eq (vars : List (String × String)) : layer vars = .table (vars.foldl put []) := rfl

theorem put_of_none {v : String × String} (h : pathOf? v.1 = none) (ms : List (String × Tree)) : put ms v = ms := by
  simp [put, h]

theorem put_envName (s : Setting) (text : String) (ms : List (String × Tree)) :
    put ms (s.envName, text) = Tree.update s.pathText (fun _ => valueOf text) ms := by
  simp [put, s.pathOf?_envName]

/-- A layer that has under paths of settings what texts are read as. -/
structure Layer (ms : List (String × Tree)) : Prop where
  nodup : (ms.map Prod.fst).Nodup
  read : ∀ m ∈ ms, ∃ (s : Setting) (text : String), m = (s.pathText, valueOf text)

theorem Layer.put {ms : List (String × Tree)} (h : Layer ms) {v : String × String}
    (hv : pathOf? v.1 = none ∨ ∃ s : Setting, v.1 = s.envName) : Layer (put ms v) := by
  obtain ⟨name, text⟩ := v
  rcases hv with hnone | ⟨s, rfl⟩
  · rwa [put_of_none hnone]
  · rw [put_envName]
    constructor
    · exact Tree.nodup_update h.nodup _
    · rintro m hm
      rcases Tree.mem_update hm with hm | ⟨-, rfl⟩
      · exact h.read m hm
      · exact ⟨s, text, rfl⟩

variable {vars : List (String × String)}

theorem Layer.foldl {ms : List (String × Tree)} (h : Layer ms) (hvars : Regular vars) : Layer (vars.foldl Environment.put ms) := by
  have hnamed := hvars.named
  clear hvars
  induction vars generalizing ms with
  | nil => exact h
  | cons v rest ih =>
    rw [List.forall_mem_cons] at hnamed
    exact ih (h.put hnamed.1) hnamed.2

theorem layer_foldl (hvars : Regular vars) : Layer (vars.foldl put []) := Layer.foldl ⟨by simp, by simp⟩ hvars

/-- The layer has for a setting what its variable is read as. -/
theorem lookup_foldl_put (hvars : Regular vars) (ms : List (String × Tree)) (s : Setting) :
    (vars.foldl put ms).lookup s.pathText =
      ((vars.lookup s.envName).map valueOf).or (ms.lookup s.pathText) := by
  induction vars generalizing ms with
  | nil => rfl
  | cons v rest ih =>
    obtain ⟨name, text⟩ := v
    obtain ⟨hnodup, hnamed⟩ := hvars
    rw [List.map_cons, List.nodup_cons] at hnodup
    rw [List.forall_mem_cons] at hnamed
    rw [List.foldl_cons, ih ⟨hnodup.2, hnamed.2⟩]
    -- the variable names no setting and is passed over, or it names one and is put at its path
    rcases hnamed.1 with hnone | ⟨s', rfl⟩
    · have hne : s.envName ≠ name := by
        rintro rfl
        rw [s.pathOf?_envName] at hnone
        cases hnone
      rw [put_of_none hnone, List.lookup_cons, beq_eq_false_iff_ne.mpr hne]
    · rw [put_envName, Tree.lookup_update]
      by_cases hs : s = s'
      · -- no later variable has the same name
        subst hs
        rw [Tree.lookup_new hnodup.1]
        simp
      · have hpath : s.pathText ≠ s'.pathText := fun h => hs (Setting.pathText_injective h)
        have hname : s.envName ≠ s'.envName := fun h => hs (Setting.envName_injective h)
        rw [if_neg hpath, List.lookup_cons, beq_eq_false_iff_ne.mpr hname]

theorem isLeaf_layer (hvars : Regular vars) : ∀ m ∈ vars.foldl put [], m.2.IsLeaf := by
  rintro m hm
  obtain ⟨s, text, rfl⟩ := (layer_foldl hvars).read m hm
  exact isLeaf_valueOf text

/-- Over a tree, variables set the settings that are theirs, and leave every other one as it is. -/
theorem at?_merge_layer (hvars : Regular vars) (base : Tree) (s : Setting) :
    (base.merge (layer vars)).at? s.path = ((vars.lookup s.envName).map valueOf).or (base.at? s.path) := by
  have hapart : ∀ m ∈ vars.foldl put [], m.1 ≠ s.pathText → Tree.Apart (Tree.path m.1) (Tree.path s.pathText) := by
    rintro m hm hne
    obtain ⟨s', text, rfl⟩ := (layer_foldl hvars).read m hm
    rw [Setting.path_pathText, Setting.path_pathText]
    exact Setting.apart_path (by rintro rfl; exact hne rfl)
  have hpath : Tree.path s.pathText ≠ [] := by simp [Setting.path_pathText, Setting.path]
  have hmerge := Tree.at?_merge (isLeaf_layer hvars) (layer_foldl hvars).nodup hpath hapart base
  rw [Setting.path_pathText, lookup_foldl_put hvars] at hmerge
  rw [layer_eq, hmerge, List.lookup_nil, Option.or_none]

theorem sectioned_merge_layer (hvars : Regular vars) {base : Tree} (hbase : base.Sectioned) :
    (base.merge (layer vars)).Sectioned := by
  intro q hq
  refine Tree.tableAt_merge (isLeaf_layer hvars) ?_ (hbase q hq)
  rintro m hm
  obtain ⟨s, text, rfl⟩ := (layer_foldl hvars).read m hm
  rw [Setting.path_pathText]
  exact s.path_of_place hq

end Environment
end TwoTier
