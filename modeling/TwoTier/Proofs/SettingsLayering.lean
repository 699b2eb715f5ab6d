/-
Where the settings of a server come from. Each is what its environment variable says if that is set, else what the file
says, else its default, whatever the other settings are; and all together meet the rules. But a variable reaches its
setting only through a reading that knows truth values, integers of 64 bits with a sign and numbers of double precision:
a text that reads as one of these is written out again from what was read, and an integer beyond 64 bits with a sign is
rounded.
-/
import Mathlib.Tactic
import TwoTier.Proofs.Settings.DocumentKeys
import TwoTier.Proofs.Settings.Texts
import TwoTier.Proofs.Settings.Variables
import TwoTier.Settings.Load

namespace TwoTier

/-- Whether a document sets each setting that it sets to a value of its type. -/
structure Tree.WellTyped (doc : Tree) : Prop where
  /-- No key of the document is a path of several keys. -/
  plain : ∀ m ∈ doc.members, Tree.path m.1 = [m.1]
  sectioned : doc.Sectioned
  typed : ∀ (s : Setting) (t : Tree), doc.at? s.path = some t → (s.typed? t).isSome

instance (t : Tree) (q : List String) : Decidable (t.TableAt q) :=
  decidable_of_iff ((t.at? q).all fun v => v matches .table _) (by
    cases h : t.at? q with
    | none => simp [Tree.TableAt, h]
    | some v => cases v <;> simp [Tree.TableAt, h])

instance (doc : Tree) : Decidable doc.WellTyped :=
  decidable_of_iff ((∀ m ∈ doc.members, Tree.path m.1 = [m.1]) ∧ (∀ q ∈ Tree.places, doc.TableAt q) ∧
      ∀ s : Setting, (doc.at? s.path).all fun t => (s.typed? t).isSome) (by
    simp only [Option.all_eq_true]
    constructor
    · rintro ⟨hplain, hsectioned, htyped⟩
      exact ⟨hplain, hsectioned, htyped⟩
    · rintro ⟨hplain, hsectioned, htyped⟩
      exact ⟨hplain, hsectioned, htyped⟩)

/-- What a document sets a setting to. -/
def Tree.setting? (doc : Tree) (s : Setting) : Option Setting.Value := (doc.at? s.path).bind s.typed?

namespace AppSettings

/-- The document that counts for a path: that of the TOML file, or an empty one where there is nothing. -/
inductive Document (files : Files) (path : String) : Tree → Prop
  | nothing (h : pathExists files path = false) : Document files path (.table [])
  | toml {text : String} {doc : Tree} (hfile : fileAt? files path = some text) (hextension : extension path = "toml")
      (hparse : Toml.parse text = some doc) : Document files path doc

section Layers

variable {files : Files} {path : String} {doc : Tree}

theorem Document.layer (h : Document files path doc) :
    (if pathExists files path then fileLayer? files path else some (.table [])) = some doc := by
  cases h with
  | nothing h => simp [h]
  | toml hfile hextension hparse => simp [pathExists, hfile, fileLayer?, layerOf?, hextension, hparse]

theorem Document.distinct (h : Document files path doc) : ∃ ms, doc = .table ms ∧ doc.Distinct := by
  cases h with
  | nothing => exact ⟨[], rfl, by simp [Tree.Distinct, Tree.AllDistinct]⟩
  | toml _ _ hparse => exact Toml.distinct_parse hparse

/-- Over nothing, a document is a layer as it stands. -/
theorem Document.merge (h : Document files path doc) (hdoc : doc.WellTyped) : (Tree.table []).merge doc = doc := by
  obtain ⟨ms, rfl, hdistinct⟩ := h.distinct
  exact Tree.merge_nothing hdoc.plain hdistinct

/-- What is taken for a setting from a document is what the document sets it to. -/
theorem taken_of_document (hdoc : doc.WellTyped) {s : Setting} {v : Setting.Value}
    (h : s.taken? (doc.at? s.path) = some v) : v = (doc.setting? s).getD s.default := by
  unfold Tree.setting?
  cases ht : doc.at? s.path with
  | none =>
    rw [ht] at h
    exact (Option.some.inj h).symm
  | some t =>
    -- what is of the right type already is taken as it is
    rw [ht] at h
    obtain ⟨w, hw⟩ := Option.isSome_iff_exists.mp (hdoc.typed s t ht)
    rw [Option.bind_some, hw, Option.getD_some]
    exact Setting.read?_of_typed? hw h

end Layers

/-- Loading succeeds exactly if what is taken from the layers has the types of the settings and meets the rules. -/
theorem load_eq_ok_iff {path : Option String} {files : Files} {vars : List (String × String)} {doc : Tree}
    {r : AppSettings} (hdoc : Document files (path.getD defaultPath) doc) (hw : doc.WellTyped) :
    load path files vars = .ok r ↔
      SettingsReader.tree.app? (doc.merge (Environment.layer vars)) = some r ∧ r.broken? = none := by
  unfold load
  simp only [hdoc.layer, hdoc.merge hw]
  cases SettingsReader.tree.app? (doc.merge (Environment.layer vars)) with
  | none => simp
  | some settings =>
    cases hrules : settings.broken? with
    | none =>
      simp only [hrules, Except.ok.injEq, Option.some.injEq]
      constructor
      · rintro rfl
        exact ⟨rfl, hrules⟩
      · rintro ⟨rfl, -⟩
        rfl
    | some rule =>
      simp only [hrules, Option.some.injEq, reduceCtorEq, false_iff]
      rintro ⟨rfl, h⟩
      rw [hrules] at h
      cases h

/-- Settings that load meet the rules, and each is what its variable makes of it, else what the document sets it to,
else its default. -/
theorem layering {path : Option String} {files : Files} {vars : List (String × String)} {doc : Tree} {r : AppSettings}
    (hdoc : Document files (path.getD defaultPath) doc) (hw : doc.WellTyped) (hvars : Environment.Regular vars)
    (h : load path files vars = .ok r) :
    r.broken? = none ∧ ∀ s : Setting,
      (∀ text, vars.lookup s.envName = some text → s.SetBy text (s.of r)) ∧
        (vars.lookup s.envName = none → s.of r = (doc.setting? s).getD s.default) := by
  obtain ⟨happ, hrules⟩ := (load_eq_ok_iff hdoc hw).mp h
  refine ⟨hrules, fun s => ?_⟩
  have hs := Setting.taken_of_app? (Environment.sectioned_merge_layer hvars hw.sectioned) happ s
  rw [Environment.at?_merge_layer hvars] at hs
  constructor
  · intro text htext
    rw [htext] at hs
    exact Setting.setBy_of_read hs
  · intro hnone
    rw [hnone] at hs
    exact taken_of_document hw hs

theorem ok_of_toOption {ε α : Type} {x : Except ε α} {a : α} (h : x.toOption = some a) : x = .ok a := by
  cases x with
  | error e => cases h
  | ok b =>
    cases h
    rfl

/-- A variable wins over a file that sets two settings of one table, and the other setting stays. -/
theorem layering_of_variable_over_file :
    ∃ r, load (some "t.toml") [("t.toml", "[cache]\nmax_size = 500\nnamespace = \"007\"\n")]
        [("PATH", "/bin"), ("TIERCACHE__CACHE__MAX_SIZE", "42")] = .ok r ∧
      r.broken? = none ∧ Setting.maxSize.of r = .number 42 ∧ Setting.keyspace.of r = .text "007" ∧
        Setting.port.of r = .number 8080 := by
  have hload : load (some "t.toml") [("t.toml", "[cache]\nmax_size = 500\nnamespace = \"007\"\n")]
      [("PATH", "/bin"), ("TIERCACHE__CACHE__MAX_SIZE", "42")] = .ok { cache := { maxSize := 42, keyspace := "007" } } :=
    ok_of_toOption (by decide +kernel)
  have hparse : Toml.parse "[cache]\nmax_size = 500\nnamespace = \"007\"\n" =
      some (.table [("cache", .table [("max_size", .int 500), ("namespace", .text "007")])]) := by cbv
  have hw : (Tree.table [("cache", .table [("max_size", .int 500), ("namespace", .text "007")])]).WellTyped := by
    decide +kernel
  have hvars : Environment.Regular [("PATH", "/bin"), ("TIERCACHE__CACHE__MAX_SIZE", "42")] := by
    constructor
    · decide +kernel
    · simp only [List.forall_mem_cons]
      exact ⟨.inl (by decide +kernel), .inr ⟨.maxSize, by decide +kernel⟩, by simp⟩
  obtain ⟨hrules, hs⟩ := layering (.toml (by decide +kernel) (by decide +kernel) hparse) hw hvars hload
  refine ⟨_, hload, hrules, ?_, ?_, ?_⟩
  · exact ((hs .maxSize).1 "42" (by decide +kernel)).number 42 (by decide +kernel) (by decide)
  · exact (hs .keyspace).2 (by decide +kernel)
  · exact (hs .port).2 (by decide +kernel)

/-- A text of digits loses the zeros in front, and a number beyond 64 bits with a sign is rounded. -/
theorem layering_alters_digits :
    load (some "t.toml") []
        [("TIERCACHE__CACHE__NAMESPACE", "007"), ("TIERCACHE__CACHE__DEFAULT_TTL_SECS", "9223372036854775809")] =
      .ok { cache := { keyspace := "7", defaultTtlSecs := 9223372036854775808 } } ∧
    Setting.keyspace.read? (.text "007") = some (.text "007") ∧
    Setting.defaultTtlSecs.read? (.text "9223372036854775809") = some (.number 9223372036854775809) := by
  refine ⟨ok_of_toOption ?_, ?_, ?_⟩ <;> decide +kernel

end AppSettings

end TwoTier
