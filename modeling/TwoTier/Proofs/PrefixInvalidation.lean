/-
Invalidation by prefix. On a calm store an instance drops the keys of its keyspace that start with a
prefix and have no line feed behind it, whatever other characters they and the prefix are made of: a
run of a pattern stops at a line feed, so keys that go on with one stay.
-/
import TwoTier.Proofs.Glob.Matching
import TwoTier.Proofs.Schedule.Removal

namespace TwoTier

/-- Whether a key starts with a text and has no line feed behind it. -/
def Glob.reaches (text key : String) : Bool :=
  text.toList.isPrefixOf key.toList && !(key.toList.drop text.length).contains '\n'

theorem Glob.reaches_iff {text key : String} :
    Glob.reaches text key = true ↔ ∃ rest, key = text ++ rest ∧ '\n' ∉ rest.toList := by
  unfold Glob.reaches
  rw [Bool.and_eq_true, List.isPrefixOf_iff_prefix, Bool.not_eq_true', List.contains_eq_mem,
    decide_eq_false_iff_not]
  constructor
  · rintro ⟨⟨rest, hrest⟩, hfeed⟩
    rw [← hrest, ← String.length_toList, List.drop_left] at hfeed
    refine ⟨String.ofList rest, ?_, by rw [String.toList_ofList]; exact hfeed⟩
    rw [← String.toList_inj, ← hrest, String.toList_append, String.toList_ofList]
  · rintro ⟨rest, rfl, hfeed⟩
    rw [String.toList_append, ← String.length_toList, List.drop_left]
    exact ⟨List.prefix_append .., hfeed⟩

/-- The pattern that an instance sends to the store for a prefix. -/
theorem compile_scoped_startingWith {n : Node} (h : n.IsScoped) (start : String) :
    ∃ p, Glob.compile (n.remote.scopedPattern (startingWith start)) = some p ∧
      ∀ key, p.isMatch key = Glob.reaches (n.keyspace ++ start) key := by
  obtain ⟨p, hp, hmatch⟩ := Glob.compile_startingWith n.keyspace start
  unfold Remote.scopedPattern
  rw [h]
  refine ⟨p, hp, fun key => ?_⟩
  rw [Bool.eq_iff_iff, hmatch, Glob.reaches_iff]

namespace Cluster

variable {c : Cluster Store} {i : Nat} {n : Node}

/-- Invalidation by prefix. The store loses the keys that start with the keyspace and the prefix and
have no line feed behind them, and nothing else; the caller is told how many of these were not past
their deadline; and the local tier is empty. -/
theorem prefix_invalidation (hd : c.Deserted) (hn : c.nodes[i]? = some n) (hscope : n.IsScoped)
    (hconn : n.remote.connected = true) (hcalm : c.store.Calm) (start : String) :
    ∃ t c' n', c.request i (.deletePattern (startingWith start)) none = (some t, c') ∧ c'.nodes[i]? = some n' ∧
      n'.lru.entries = [] ∧
      c'.store.inner.entries = c.store.inner.entries.filter (fun e => !Glob.reaches (n.keyspace ++ start) e.1) ∧
      t.phase = .finished (.swept (c.store.inner.entries.filter fun e =>
        Glob.reaches (n.keyspace ++ start) e.1 && !e.2.isExpired c.now).length) c.now := by
  obtain ⟨t, c', hreq, hover, hu⟩ := request_removal hd hn hconn hcalm
    (show Call.removal? n (.deletePattern (startingWith start)) = some _ from rfl)
  obtain ⟨p, hp, hmatch⟩ := compile_scoped_startingWith hscope start
  obtain ⟨hphase, -, -, hstore, n', hn', hlru, -, -⟩ := hu.finished hover
  refine ⟨t, c', n', hreq, hn', ?_, ?_, ?_⟩
  · rw [hlru]
    rfl
  · rw [hstore]
    simp only [Removal.announced, Removal.inShared, Invalidation.inShared, hp, Option.map_some, Option.getD_some,
      Store.sweep, Store.keep, hmatch]
  · rw [hphase]
    simp only [Removal.reply, Invalidation.reply, hp, Option.map_some, Option.getD_some, Store.sweep, hmatch]

/-- Clearing a cache is invalidation by the empty prefix. -/
example : startingWith "" = "*" := rfl

/-- Characters that mean something in patterns mean nothing in a prefix. -/
theorem prefix_invalidation_of_brackets : ∃ n, Node.make "a" {} = .ok n ∧
    let c : Cluster Store := {
      store := { inner := (({} : Store).insertRaw "cache:a*[b" [1]).insertRaw "cache:aa" [2] }
      nodes := [{ n with remote.connected := true }] }
    ∃ t c' n', c.request 0 (.deletePattern (startingWith "a*[")) none = (some t, c') ∧ c'.nodes[0]? = some n' ∧
      n'.lru.entries = [] ∧
      c'.store.inner.entries = c.store.inner.entries.filter (fun e => !Glob.reaches (n.keyspace ++ "a*[") e.1) ∧
      t.phase = .finished (.swept (c.store.inner.entries.filter fun e =>
        Glob.reaches (n.keyspace ++ "a*[") e.1 && !e.2.isExpired 0).length) 0 := by
  obtain ⟨n, hmake⟩ : ∃ n, Node.make "a" {} = .ok n := ⟨_, rfl⟩
  refine ⟨n, hmake, ?_⟩
  intro c
  have hd : c.Deserted := by
    intro m hm
    cases hmake
    cases List.mem_singleton.1 hm
    exact ⟨rfl, rfl⟩
  have hscope := Node.isScoped_of_make hmake
  exact prefix_invalidation (i := 0) (n := { n with remote.connected := true }) hd rfl hscope rfl ⟨rfl, rfl⟩ "a*["

/-- A key with a line feed behind the prefix stays in the store, and nothing is counted. -/
theorem prefix_invalidation_spares_line_feed : ∃ n, Node.make "a" {} = .ok n ∧
    let c : Cluster Store := {
      store := { inner := ({} : Store).insertRaw "cache:a\n" [1] }
      nodes := [{ n with remote.connected := true }] }
    (n.keyspace ++ "a").toList <+: "cache:a\n".toList ∧
      ∃ t c', c.request 0 (.deletePattern (startingWith "a")) none = (some t, c') ∧
        c'.store.inner.find? "cache:a\n" = some ⟨[1], none⟩ ∧ t.phase = .finished (.swept 0) 0 := by
  obtain ⟨n, hmake⟩ : ∃ n, Node.make "a" {} = .ok n := ⟨_, rfl⟩
  have hscope := Node.isScoped_of_make hmake
  have hkeyspace : n.keyspace = "cache:" := by cases hmake; rfl
  refine ⟨n, hmake, ?_⟩
  intro c
  have hd : c.Deserted := by
    intro m hm
    cases hmake
    cases List.mem_singleton.1 hm
    exact ⟨rfl, rfl⟩
  refine ⟨by rw [hkeyspace]; decide, ?_⟩
  obtain ⟨t, c', hreq, hover, hu⟩ := request_removal (i := 0) (n := { n with remote.connected := true }) hd rfl rfl
    ⟨rfl, rfl⟩ (show Call.removal? _ (.deletePattern (startingWith "a")) = some _ from rfl)
  obtain ⟨p, hp, hmatch⟩ := compile_scoped_startingWith (n := { n with remote.connected := true }) hscope "a"
  obtain ⟨hphase, -, -, hstore, -⟩ := hu.finished hover
  have hspared : p.isMatch "cache:a\n" = false := by
    rw [hmatch]
    show Glob.reaches (n.keyspace ++ "a") _ = false
    rw [hkeyspace]
    decide
  refine ⟨t, c', hreq, ?_, ?_⟩
  · rw [hstore]
    refine (Invalidation.find?_inShared_of_not ?_).trans rfl
    rintro ⟨q, hq, hk⟩
    rw [hp] at hq
    cases hq
    rw [hspared] at hk
    cases hk
  · rw [hphase]
    simp [Removal.reply, Invalidation.reply, hp, Store.sweep, Store.insertRaw, Store.put, Store.remove, Store.keep,
      hspared, c]

end Cluster

end TwoTier
