/-
What can be done over HTTP, and nothing else. Only a request to invalidate that gives its one text as JSON reaches the
cache, and it does there what the call of the library does, whatever becomes of the shared tier; any other request
leaves both tiers, what was published and the books alone, and is refused if it was to invalidate something. A body that
is too large is one of these others, whatever it gives.
-/
import Mathlib.Data.String.Basic
import TwoTier.Http
import TwoTier.Proofs.Call.Kinds
import TwoTier.Proofs.Schedule.Glance

namespace TwoTier.Http

/-! ## Requests that are accepted -/

namespace Request

variable {r : Request} {name text : String}

/-- A request to post something to a route. -/
structure Posts (r : Request) (route : Route) : Prop where
  method : r.method = "POST"
  path : Route.ofPath? r.path = some route

/-- A request that announces JSON, and whose body gives one text under a name, which is not empty. -/
structure Gives (r : Request) (name text : String) : Prop where
  announced : ∃ kind, r.contentType = some kind ∧ MediaType.isJson kind = true
  read : Body.read name r.body = .ok text
  nonempty : text ≠ ""

/-- A request whose body is not too large to be read. -/
def Fits (r : Request) : Prop := r.body.utf8ByteSize ≤ Body.maxBytes

/-- The requests that reach the cache. -/
def Accepted (r : Request) : Prop :=
  r.Fits ∧ (r.Posts .invalidate ∧ (∃ key, r.Gives "key" key) ∨
    r.Posts .invalidatePattern ∧ ∃ pattern, r.Gives "pattern" pattern)

/-- A request gives its one text if it announces and gives it, and is not too large. -/
theorem text_eq_ok : r.text name = .ok text ↔ r.Fits ∧ r.Gives name text := by
  constructor
  · intro h
    unfold Request.text at h
    split at h
    case isFalse => cases h
    case isTrue hany =>
      split at h
      case isFalse => cases h
      case isTrue hf =>
        cases hr : Body.read name r.body with
        | error e => rw [hr] at h; cases h
        | ok s =>
          rw [hr] at h
          dsimp only at h
          split at h <;> cases h
          rename_i hne
          exact ⟨hf, (Option.any_eq_true ..).1 hany, hr, by rwa [String.isEmpty_iff] at hne⟩
  · rintro ⟨hf, ⟨kind, hk, hjson⟩, hread, hne⟩
    unfold Request.text
    rw [hk, Option.any_some, if_pos hjson, if_pos (show r.body.utf8ByteSize ≤ Body.maxBytes from hf), hread]
    dsimp only
    rw [if_neg (by rwa [String.isEmpty_iff])]

/-- Any other request is refused. -/
theorem text_error (name : String) (h : r.Fits → ∀ text, ¬ r.Gives name text) :
    ∃ refusal, r.text name = .error refusal := by
  cases ht : r.text name with
  | error refusal => exact ⟨refusal, rfl⟩
  | ok text =>
    obtain ⟨hf, hg⟩ := text_eq_ok.1 ht
    exact absurd hg (h hf text)

/-- The refusal says that the caller is at fault. -/
theorem status_of_text_error {refusal : Response} (h : r.text name = .error refusal) :
    400 ≤ refusal.status ∧ refusal.status < 500 := by
  unfold Request.text at h
  split at h
  · split at h
    · cases hr : Body.read name r.body with
      | error e => rw [hr] at h; cases h; cases e <;> decide
      | ok s =>
        rw [hr] at h
        dsimp only at h
        split at h <;> cases h
        exact ⟨Nat.le_refl 400, by show 400 < 500; decide⟩
    · cases h
      decide
  · cases h
    decide

end Request

/-! ## What is left alone -/

/-- A cluster after what has touched neither tier: the store holds what it held, and has published what it had; the books
are as they were; and the local tiers are as time alone leaves them, which is as they were if no purges are planned. -/
structure Undisturbed (c c' : Cluster Store) : Prop where
  store : c.store.inner.Unharmed c'.store.inner
  books : c'.nodes.map Node.books = c.nodes.map Node.books
  aged : c'.nodes.map Node.lru = (c.advance c'.now).nodes.map Node.lru
  still : (∀ n ∈ c.nodes, n.maintenance = none) → c'.nodes.map Node.lru = c.nodes.map Node.lru

theorem Undisturbed.of_beside {c c' : Cluster Store} (hs : c.store.inner.Unharmed c'.store.inner)
    (hb : (c.advance c'.now).Beside c') : Undisturbed c c' := by
  have hof : ∀ {β : Type} (f : Node → β), (∀ n : Node, f n.unfailed = f n) →
      c'.nodes.map f = (c.advance c'.now).nodes.map f := by
    intro β f hf
    have hmap : ∀ nodes : List Node, nodes.map f = (nodes.map Node.unfailed).map f := by
      intro nodes
      rw [List.map_map]
      exact List.map_congr_left fun n _ => (hf n).symm
    rw [hmap, hb.nodes, ← hmap]
  have hlru := hof Node.lru fun _ => rfl
  exact ⟨hs, (hof Node.books fun _ => rfl).trans (Cluster.books_advance ..), hlru,
    fun hp => by rw [hlru, Cluster.nodes_advance hp]⟩

theorem Undisturbed.refl (c : Cluster Store) : Undisturbed c c :=
  .of_beside (.refl _) (by rw [Cluster.advance_now]; exact ⟨rfl, rfl⟩)

namespace Server

variable {σ : Type} [Backend σ] {s : Server} {r : Request} {c c' : Cluster σ} {call : Call} {n : Node}

theorem through_snd (s : Server) (call : Call) (answer : Reply → Response) (c : Cluster σ) :
    (s.through call answer c).2 = (c.request s.node call none).2 := by
  unfold through
  dsimp only
  split <;> rfl

/-- A call that a server makes ends in an answer in kind. -/
theorem through_spec (hd : c.Deserted) (hn : c.nodes[s.node]? = some n) (call : Call) :
    ∃ t reply ended c', c.request s.node call none = (some t, c') ∧ t.phase = .finished reply ended ∧
      call.takes reply = true ∧ ∀ answer, s.through call answer c = (answer reply, c') := by
  obtain ⟨⟨call', k, ph, b, m, p⟩, reply, ended, c', hreq, hp, hk⟩ := Cluster.request_inKind hd hn call
  cases hp
  refine ⟨_, reply, ended, c', hreq, rfl, hk, fun answer => ?_⟩
  unfold through
  rw [hreq]

/-- A request to post is served by its route. -/
theorem handle_post {route : Route} (h : r.Posts route) (hm : route.methods = ["POST"]) :
    s.handle r c = s.serve route r c := by
  unfold handle
  rw [h.path]
  dsimp only
  rw [hm, h.method, if_pos (by decide), if_neg (by decide)]

/-- What a request leaves is what its route leaves, or it never gets there. -/
theorem handle_snd (s : Server) (r : Request) (c : Cluster σ) :
    (s.handle r c).2 = c ∨
      ∃ route, Route.ofPath? r.path = some route ∧ r.method ∈ route.methods ∧
        (s.handle r c).2 = (s.serve route r c).2 := by
  unfold handle
  cases hp : Route.ofPath? r.path with
  | none => exact Or.inl rfl
  | some route =>
    dsimp only
    split
    · rename_i hm
      exact Or.inr ⟨route, rfl, List.contains_iff_mem.1 hm, rfl⟩
    · exact Or.inl rfl

end Server

/-! ## The surface -/

/-- A request that only looks disturbs nothing. -/
theorem undisturbed_of_look {s : Server} {c : Cluster Store} {n : Node} (hd : c.Deserted)
    (hn : c.nodes[s.node]? = some n) {call : Call} (hl : call = .health ∨ call = .stats) (answer : Reply → Response) :
    Undisturbed c (s.through call answer c).2 := by
  rw [Server.through_snd]
  obtain ⟨hstore, hbeside⟩ := Cluster.request_glance hd hn hl
  exact .of_beside hstore hbeside

/-- Nor does one that is not accepted, wherever it gets to. -/
theorem undisturbed_of_not_accepted {s : Server} {r : Request} {c : Cluster Store} {n : Node} (hd : c.Deserted)
    (hn : c.nodes[s.node]? = some n) (hr : ¬ r.Accepted) : Undisturbed c (s.handle r c).2 := by
  rcases s.handle_snd r c with h | ⟨route, hpath, hm, h⟩ <;> rw [h]
  · exact .refl c
  · cases route with
    | healthz | metrics => exact .refl c
    | readyz => exact undisturbed_of_look hd hn (Or.inl rfl) _
    | stats => exact undisturbed_of_look hd hn (Or.inr rfl) _
    | invalidate =>
      obtain ⟨refusal, hrefusal⟩ := Request.text_error "key" fun hf key hg =>
        hr ⟨hf, Or.inl ⟨⟨List.mem_singleton.1 hm, hpath⟩, key, hg⟩⟩
      rw [Server.serve, hrefusal]
      exact .refl c
    | invalidatePattern =>
      obtain ⟨refusal, hrefusal⟩ := Request.text_error "pattern" fun hf pattern hg =>
        hr ⟨hf, Or.inr ⟨⟨List.mem_singleton.1 hm, hpath⟩, pattern, hg⟩⟩
      rw [Server.serve, hrefusal]
      exact .refl c

/-- The surface of a server. A request that is not accepted disturbs nothing, and is refused if it was to post to one of
the two routes that invalidate, be it only because its body is too large. One that is accepted is the call of the
library: the answer gives back the text and the figure that the call is answered with, and all that there is afterwards
is what the call leaves, whatever was scripted for the store and whether it is available or not. -/
theorem http_surface (s : Server) (r : Request) (c : Cluster Store) {n : Node} (hd : c.Deserted)
    (hn : c.nodes[s.node]? = some n) :
    (¬ r.Accepted → Undisturbed c (s.handle r c).2 ∧
      (r.Posts .invalidate ∨ r.Posts .invalidatePattern →
        400 ≤ (s.handle r c).1.status ∧ (s.handle r c).1.status < 500)) ∧
    (∀ key, r.Posts .invalidate → r.Fits → r.Gives "key" key →
      ∃ t removed ended c', c.request s.node (.delete key) none = (some t, c') ∧
        t.phase = .finished (.removed removed) ended ∧
        s.handle r c = (jsonResponse 200 (Json.object [("key", .str key), ("removed", .bool removed)]), c')) ∧
    (∀ pattern, r.Posts .invalidatePattern → r.Fits → r.Gives "pattern" pattern →
      ∃ t deleted ended c', c.request s.node (.deletePattern pattern) none = (some t, c') ∧
        t.phase = .finished (.swept deleted) ended ∧
        s.handle r c = (jsonResponse 200 (Json.object [("pattern", .str pattern), ("deleted", .nat deleted)]), c')) := by
  refine ⟨fun hr => ⟨?_, ?_⟩, fun key hp hf hg => ?_, fun pattern hp hf hg => ?_⟩
  · exact undisturbed_of_not_accepted hd hn hr
  · rintro (hp | hp)
    · obtain ⟨refusal, hrefusal⟩ := Request.text_error "key" fun hf key hg => hr ⟨hf, Or.inl ⟨hp, key, hg⟩⟩
      rw [Server.handle_post hp rfl, Server.serve, hrefusal]
      exact Request.status_of_text_error hrefusal
    · obtain ⟨refusal, hrefusal⟩ := Request.text_error "pattern" fun hf pattern hg =>
        hr ⟨hf, Or.inr ⟨hp, pattern, hg⟩⟩
      rw [Server.handle_post hp rfl, Server.serve, hrefusal]
      exact Request.status_of_text_error hrefusal
  · rw [Server.handle_post hp rfl, Server.serve, Request.text_eq_ok.2 ⟨hf, hg⟩]
    obtain ⟨t, reply, ended, c', hreq, hphase, hk, hthrough⟩ := Server.through_spec hd hn (.delete key)
    cases reply with
    | removed removed => exact ⟨t, removed, ended, c', hreq, hphase, hthrough _⟩
    | _ => cases hk
  · rw [Server.handle_post hp rfl, Server.serve, Request.text_eq_ok.2 ⟨hf, hg⟩]
    obtain ⟨t, reply, ended, c', hreq, hphase, hk, hthrough⟩ := Server.through_spec hd hn (.deletePattern pattern)
    cases reply with
    | swept deleted => exact ⟨t, deleted, ended, c', hreq, hphase, hthrough _⟩
    | _ => cases hk

/-- A key is invalidated, though the store is down, and asking for the same in another way does nothing. -/
theorem http_surface_of_key : ∃ a, Node.make "a" {} = .ok a ∧
    let c : Cluster Store := {
      store := { inner := { ({} : Store).insertRaw "cache:k" [1] with available := false } }
      nodes := [{ a with remote.connected := true }] }
    let s : Server := ⟨0, true⟩
    let r : Request := {
      method := "POST", path := "/cache/invalidate?now", contentType := some "application/json"
      body := "\x7b\"key\": \"k\"\x7d" }
    (∃ t removed ended c', c.request 0 (.delete "k") none = (some t, c') ∧ t.phase = .finished (.removed removed) ended ∧
      s.handle r c = (jsonResponse 200 (Json.object [("key", .str "k"), ("removed", .bool removed)]), c')) ∧
      Undisturbed c (s.handle { r with method := "PUT" } c).2 := by
  obtain ⟨a, hmake⟩ : ∃ a, Node.make "a" {} = .ok a := ⟨_, rfl⟩
  refine ⟨a, hmake, ?_⟩
  intro c s r
  have hd : c.Deserted := by
    intro m hm
    cases hmake
    cases List.mem_singleton.1 hm
    exact ⟨rfl, rfl⟩
  have hput : ¬ { r with method := "PUT" : Request }.Accepted := by
    rintro ⟨-, ⟨hp, -⟩ | ⟨hp, -⟩⟩ <;> exact absurd hp.method (by decide)
  have hpath : Route.ofPath? r.path = some .invalidate := by decide
  have hfits : r.Fits := by show (12 : Nat) ≤ 2097152; decide
  have hgives : r.Gives "key" "k" := ⟨⟨_, rfl, by decide⟩, by decide +kernel, by decide⟩
  exact ⟨(http_surface s r c hd rfl).2.1 "k" ⟨rfl, hpath⟩ hfits hgives, ((http_surface s _ c hd rfl).1 hput).1⟩

/-- A request to invalidate a key, with blanks behind the object that gives it. -/
def Request.padded (blanks : Nat) : Request where
  method := "POST"
  path := "/cache/invalidate"
  contentType := some "application/json"
  body := "\x7b\"key\": \"k\"\x7d" ++ String.ofList (List.replicate blanks ' ')

/-- It gives the key, however many they are. -/
theorem Request.gives_padded (blanks : Nat) : (padded blanks).Gives "key" "k" := by
  have hskip : Json.skipBlanks (List.replicate blanks ' ') = [] := by
    unfold Json.skipBlanks
    rw [List.dropWhile_replicate]
    rfl
  have hvalue : Body.value "key" (padded blanks).body.toList = .ok ("k", List.replicate blanks ' ') := by
    unfold padded
    simp only [String.toList_append, String.toList_ofList]
    rfl
  have hread : Body.read "key" (padded blanks).body = .ok "k" := by
    unfold Body.read
    rw [hvalue]
    dsimp only [bind, Except.bind]
    rw [hskip]
    rfl
  exact ⟨⟨_, rfl, by decide⟩, hread, by decide⟩

/-- It is too large if they are. -/
theorem Request.not_fits_padded {blanks : Nat} (h : Body.maxBytes ≤ blanks) : ¬ (padded blanks).Fits := by
  have hlen : String.utf8Len (List.replicate blanks ' ') = blanks := by
    clear h
    induction blanks with
    | zero => rfl
    | succ n ih => rw [List.replicate_succ, String.utf8Len_cons, ih]; rfl
  have hsize : (padded blanks).body.utf8ByteSize = 12 + blanks := by
    unfold padded
    simp only [String.utf8ByteSize_append, String.utf8ByteSize_ofList, hlen]
    rfl
  unfold Fits
  omega

/-- A request that gives the key is refused all the same if there is too much behind it. And an instance that is asked
whether it is ready may have lost an entry when it answers: time passes meanwhile, and a purge is planned. -/
theorem http_surface_takes_room_and_time : ∃ a, Node.make "a" { keyspace := "t:" } = .ok a ∧
    (let c : Cluster Store := { store := { inner := {} }, nodes := [a] }
      let r := Request.padded Body.maxBytes
      r.Posts .invalidate ∧ r.Gives "key" "k" ∧ ((⟨0, true⟩ : Server).handle r c).1.status = 413) ∧
    (let n : Node := { a with
        remote.connected := true
        lru := (a.lru.set 0 "t:a" (.int 1) (some (millis 5))).2
        maintenance := some ⟨millis 10, millis 10, by decide⟩ }
      let c : Cluster Store := {
        store := ({ inner := {} } : Scripted Store).script .ping { delay := some (millis 25) }
        nodes := [n] }
      let r : Request := { method := "GET", path := "/readyz" }
      ¬ r.Accepted ∧ c.nodes.map (·.lru.size) = [1] ∧
        ((⟨0, true⟩ : Server).handle r c).2.nodes.map (·.lru.size) = [0]) := by
  obtain ⟨a, hmake⟩ : ∃ a, Node.make "a" { keyspace := "t:" } = .ok a := ⟨_, rfl⟩
  refine ⟨a, hmake, ?_, ?_⟩
  · intro c r
    have hp : r.Posts .invalidate := ⟨rfl, by decide⟩
    have hlarge : ¬ r.body.utf8ByteSize ≤ Body.maxBytes := Request.not_fits_padded (Nat.le_refl _)
    have ht : r.text "key" =
        .error (plainResponse 413 "Failed to buffer the request body: length limit exceeded") := by
      unfold Request.text
      rw [if_pos (by decide), if_neg hlarge]
    refine ⟨hp, Request.gives_padded _, ?_⟩
    rw [Server.handle_post hp rfl, Server.serve, ht]
    rfl
  · intro n c r
    have hget : ¬ r.Accepted := by
      rintro ⟨-, ⟨hp, -⟩ | ⟨hp, -⟩⟩ <;> exact absurd hp.method (by decide)
    cases hmake
    exact ⟨hget, by decide +kernel, by decide +kernel⟩

end TwoTier.Http
