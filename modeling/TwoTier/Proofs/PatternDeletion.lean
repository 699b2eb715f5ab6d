/-
Deletion by pattern stays within a client's own keys. The common beginning of these is escaped before the pattern, so
whatever it and the pattern are made of, a connected client drops from a calm store the keys that start with it and go
on with what the pattern's expression matches, counts those not past their deadline, and leaves every other key alone.
A pattern whose expression is not a valid one is refused, and nothing is dropped.
-/
import TwoTier.Proofs.Glob.Expression
import TwoTier.Proofs.Glob.Matching
import TwoTier.Proofs.Remote.Containment

namespace TwoTier

/-! ## The keys a pattern is about -/

namespace Remote

variable {c : Remote}

/-- Whether a key belongs to the client and goes on, behind the common beginning, with what a compiled pattern
matches. -/
def matched (c : Remote) (q : Glob.Pattern) (key : String) : Bool :=
  c.keyspace.toList.isPrefixOf key.toList && q.isMatch (String.ofList (key.toList.drop c.keyspace.length))

theorem matched_iff {q : Glob.Pattern} {key : String} :
    c.matched q key = true ↔ ∃ rest, key = c.keyspace ++ rest ∧ q.isMatch rest = true := by
  unfold matched
  rw [Bool.and_eq_true, List.isPrefixOf_iff_prefix]
  constructor
  · rintro ⟨⟨rest, hrest⟩, hm⟩
    rw [← hrest, ← String.length_toList, List.drop_left] at hm
    refine ⟨String.ofList rest, ?_, hm⟩
    rw [← String.toList_inj, ← hrest, String.toList_append, String.toList_ofList]
  · rintro ⟨rest, rfl, hm⟩
    rw [String.toList_append, ← String.length_toList, List.drop_left, String.ofList_toList]
    exact ⟨List.prefix_append .., hm⟩

/-- What a client sends to the store for a pattern compiles if the pattern does, and matches the client's keys that go
on with a match. -/
theorem compile_scopedPattern (c : Remote) (pattern : String) :
    match Glob.compile pattern with
    | none => Glob.compile (c.scopedPattern pattern) = none
    | some q => ∃ p, Glob.compile (c.scopedPattern pattern) = some p ∧ ∀ key, p.isMatch key = c.matched q key := by
  have hscoped := Glob.compile_escape_append c.keyspace pattern
  unfold scopedPattern
  cases hq : Glob.compile pattern with
  | none => rw [hscoped, hq]; rfl
  | some q =>
    rw [hq] at hscoped
    refine ⟨_, hscoped, fun key => ?_⟩
    rw [Bool.eq_iff_iff, matched_iff, Glob.Pattern.isMatch_iff, Glob.accepts_chars_append]
    constructor
    · rintro ⟨rest, hkey, hr⟩
      refine ⟨String.ofList rest, ?_, by rw [Glob.Pattern.isMatch_iff, String.toList_ofList]; exact hr⟩
      rw [← String.toList_inj, hkey, String.toList_append, String.toList_ofList]
    · rintro ⟨rest, rfl, hr⟩
      exact ⟨rest.toList, by rw [String.toList_append], Glob.Pattern.isMatch_iff.1 hr⟩

end Remote

/-- An escaped text compiles to a pattern that matches it and nothing else. -/
theorem Glob.compile_escape (text : String) :
    ∃ q, Glob.compile (Glob.escape text) = some q ∧ ∀ key, q.isMatch key = true ↔ key = text := by
  have hnil : Glob.compile "" = some ⟨[]⟩ := by
    unfold compile
    rw [show "".toList = [] from rfl, pieces]
    rfl
  have hc := Glob.compile_escape_append text ""
  rw [hnil, String.append_empty] at hc
  refine ⟨_, hc, fun key => ?_⟩
  rw [Pattern.isMatch_iff, accepts_chars_append, ← String.toList_inj]
  constructor
  · rintro ⟨rest, hkey, hr⟩
    cases hr
    rw [hkey, List.append_nil]
  · intro hkey
    exact ⟨[], by rw [hkey, List.append_nil], .nil⟩

/-! ## The deletion -/

namespace Link

variable {l : Link Store}

/-- The client with other contents of the store. -/
def holding (l : Link Store) (inner : Store) : Link Store := { l with store := { l.store with inner } }

/-- A connected client gets its answer from a calm store at once. -/
theorem ask_calm {α : Type} (hc : l.remote.connected = true) (hs : l.store.Calm) {r : Request α}
    (hr : r.isAnswered = true) :
    l.ask r = ((l.store.inner.answer l.now r).1, l.holding (l.store.inner.answer l.now r).2) := by
  have hfault : l.fault r = {} := by unfold fault; rw [hs.draw]
  have hdue : l.due r = l.now := by unfold due; rw [hfault]; rfl
  rw [ask_connected hc, hdue, if_neg (Nat.not_lt.2 (le_wakeAt ..))]
  unfold uncut
  rw [hfault, hdue, hs.draw]
  dsimp only
  rw [Scripted.serve_answer hs.available hr]
  rfl

/-- So it is with a deletion by pattern. -/
theorem tryDeletePattern_calm (hc : l.remote.connected = true) (hs : l.store.Calm) (pattern : String) :
    l.tryDeletePattern pattern = match Glob.compile pattern with
      | none => (.error (.connection ("invalid pattern " ++ Text.quoted (l.remote.scopedPattern pattern))), l)
      | some q =>
        (.ok (l.store.inner.entries.filter fun e => l.remote.matched q e.1 && !e.2.isExpired l.now).length,
          l.holding (l.store.inner.keep fun key => !l.remote.matched q key)) := by
  have hscoped := l.remote.compile_scopedPattern pattern
  unfold tryDeletePattern
  rw [ask_calm hc hs rfl]
  unfold Store.answer
  cases hq : Glob.compile pattern with
  | none =>
    rw [hq] at hscoped
    dsimp only at hscoped ⊢
    rw [hscoped]
    rfl
  | some q =>
    rw [hq] at hscoped
    obtain ⟨p, hp, hmatch⟩ := hscoped
    dsimp only
    rw [hp]
    simp only [Store.sweep, hmatch]

/-- Deletion by pattern is scoped. If the text of the pattern's expression is a valid one, what the client drops is the
keys of its own that go on with a match of it, and what it answers is how many of these were live; the rest of the
store is as it was. If not, the operation that tells what went wrong says that there is no such pattern, the other
answers zero, and the store is as it was. To escape a text makes a pattern of it that matches the text and nothing
else. -/
theorem pattern_deletion (l : Link Store) (hc : l.remote.connected = true) (hs : l.store.Calm) (pattern : String) :
    (match Glob.Expression.read (Glob.source pattern) with
      | some q =>
        let gone (key : String) : Bool := l.remote.matched q key
        let live := (l.store.inner.entries.filter fun e => gone e.1 && !e.2.isExpired l.now).length
        (∀ key, gone key = true ↔ ∃ rest, key = l.remote.keyspace ++ rest ∧ q.isMatch rest = true) ∧
          l.tryDeletePattern pattern = (.ok live, l.holding (l.store.inner.keep fun key => !gone key)) ∧
          l.deletePattern pattern = (live, l.holding (l.store.inner.keep fun key => !gone key))
      | none =>
        let e : CacheError := .connection ("invalid pattern " ++ Text.quoted (l.remote.scopedPattern pattern))
        l.tryDeletePattern pattern = (.error e, l) ∧ l.deletePattern pattern = (0, l.report "delete_pattern" e) ∧
          (l.deletePattern pattern).2.store = l.store) ∧
      ∀ text, ∃ q, Glob.Expression.read (Glob.source (Glob.escape text)) = some q ∧
        ∀ key, q.isMatch key = true ↔ key = text := by
  refine ⟨?_, fun text => by rw [Glob.read_source]; exact Glob.compile_escape text⟩
  have htried := tryDeletePattern_calm hc hs pattern
  have hstore : (l.deletePattern pattern).2.store = (l.tryDeletePattern pattern).2.store := (degrades_settle ..).store
  rw [hstore, deletePattern, htried, Glob.read_source]
  cases Glob.compile pattern with
  | none => exact ⟨rfl, rfl, rfl⟩
  | some q => exact ⟨fun key => Remote.matched_iff, rfl, rfl⟩

/-- Brackets in the common beginning open no set. -/
theorem pattern_deletion_behind_bracket :
    let l : Link Store := {
      now := 0
      remote := { keyspace := "a[", timeout := 1, retry := ⟨1, 0, 0⟩, connected := true }
      store := { inner := (({} : Store).insertRaw "a[x" [1]).insertRaw "ax" [2] }
      recorder := {} }
    (l.deletePattern "?").1 = 1 ∧ (l.deletePattern "?").2.store.inner.entries = [("ax", ⟨[2], none⟩)] := by
  intro l
  have h := (pattern_deletion l rfl ⟨rfl, rfl⟩ "?").1
  have hone : Glob.compile "?" = some ⟨[.one]⟩ := by
    unfold Glob.compile
    rw [show "?".toList = ['?'] from rfl, Glob.pieces, Glob.pieces]
    rfl
  rw [Glob.read_source, hone] at h
  obtain ⟨-, -, h⟩ := h
  rw [h]
  decide

end Link

end TwoTier
