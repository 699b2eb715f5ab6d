/-
Deletion by pattern on a server that answers as it likes. The client asks for a page of keys, deletes its keys with one
command, and goes on with the cursor it was given until that is zero; the first answer it cannot read ends the call with
an error. So where a server lists every key it keeps at least once, on whatever pages and however often, and tells how
many keys it removed, no key that matches is left and the numbers add up to those removed.
-/
import Mathlib.Algebra.GroupWithZero.Nat
import Mathlib.Data.Finset.Card
import TwoTier.Redis

namespace TwoTier.Redis

/-! ## Commands and their answers -/

/-- What an answer says, if it is not an error and can be read. -/
def Answer.content {α : Type} (read : Reply → Option α) : Answer → Option α
  | .reply r => if r.failed then none else read r
  | .close => none
  | .silence => none

/-- The page of keys an answer holds, with the cursor of the next one. -/
def Answer.page? (a : Answer) : Option (Nat × List String) := a.content Reply.page?

/-- The number an answer holds. -/
def Answer.number? (a : Answer) : Option Nat := a.content (Reply.number? 64)

/-- A command and the answer it got. -/
structure Exchange where
  command : Command
  answer : Answer

namespace Server

variable {α : Type} {s : Server} {pattern : String}

/-- The answer to the next command. -/
def upcoming (s : Server) : Answer := s.script.headD (.reply (.error ""))

/-- The server after a command. -/
def told (s : Server) (c : Command) : Server := { s with script := s.script.tail, sent := s.sent ++ [c] }

/-- The server after one command and another. -/
def toldAll (s : Server) (cs : List Command) : Server := cs.foldl told s

/-- The commands with the answers the server gives them. -/
def exchanges (s : Server) : List Command → List Exchange
  | [] => []
  | c :: cs => ⟨c, s.upcoming⟩ :: (s.told c).exchanges cs

@[simp] theorem toldAll_nil : s.toldAll [] = s := rfl

@[simp] theorem toldAll_cons {c : Command} {cs : List Command} : s.toldAll (c :: cs) = (s.told c).toldAll cs := rfl

theorem toldAll_append {cs ds : List Command} : s.toldAll (cs ++ ds) = (s.toldAll cs).toldAll ds :=
  List.foldl_append ..

theorem exchanges_append {cs ds : List Command} :
    s.exchanges (cs ++ ds) = s.exchanges cs ++ (s.toldAll cs).exchanges ds := by
  induction cs generalizing s with
  | nil => rfl
  | cons c cs ih => simp [exchanges, ih]

/-- A server goes on with its script and remembers what it was told. -/
theorem toldAll_eq {cs : List Command} :
    s.toldAll cs = { s with script := s.script.drop cs.length, sent := s.sent ++ cs } := by
  induction cs generalizing s with
  | nil => simp
  | cons c cs ih => simp [ih, told]

/-- Asking takes the next answer and reads it. -/
theorem ask_eq (s : Server) (c : Command) (read : Reply → Option α) :
    match s.upcoming.content read with
    | some a => s.ask c read = (.ok a, s.told c)
    | none => ∃ f, s.ask c read = (.error f, s.told c) := by
  unfold ask exchange upcoming told
  cases hs : s.script with
  | nil => exact ⟨_, rfl⟩
  | cons a rest =>
    cases a with
    | close => exact ⟨_, rfl⟩
    | silence => exact ⟨_, rfl⟩
    | reply r =>
      simp only [List.headD_cons, List.tail_cons, Answer.content]
      by_cases hf : r.failed = true
      · simp [hf]
      · cases hr : read r with
        | none => simp [hf, hr]
        | some a => simp [hf, hr]

theorem ask_some {c : Command} {read : Reply → Option α} {a : α} (h : s.upcoming.content read = some a) :
    s.ask c read = (.ok a, s.told c) := by
  have := s.ask_eq c read
  rwa [h] at this

theorem ask_none {c : Command} {read : Reply → Option α} (h : s.upcoming.content read = none) :
    ∃ f, s.ask c read = (.error f, s.told c) := by
  have := s.ask_eq c read
  rwa [h] at this

/-- An answer that says something is on the script. -/
theorem script_ne_nil {read : Reply → Option α} {a : α} (h : s.upcoming.content read = some a) : s.script ≠ [] := by
  intro hs
  simp [upcoming, hs, Answer.content, Reply.failed] at h

/-- Deleting the keys of a page. -/
def delete (keys : List String) : Command := command ("DEL" :: keys)

end Server

/-! ## A sweep -/

/-- A page of keys that were listed and deleted. -/
structure Page where
  /-- The cursor it was asked for with. -/
  cursor : Nat
  next : Nat
  keys : List String
  /-- How many keys the server says it deleted. -/
  deleted : Nat
  /-- The answer to the command that lists it. -/
  listing : Answer
  /-- The answer to the command that deletes its keys, if there are any. -/
  removal : Option Answer
  listed : listing.page? = some (next, keys)
  removed : match removal with
    | none => keys = [] ∧ deleted = 0
    | some a => keys ≠ [] ∧ a.number? = some deleted

/-- What is said about a page: one command lists it, and one deletes its keys if there are any. -/
def Page.exchanges (pattern : String) (p : Page) : List Exchange :=
  ⟨Server.scan pattern p.cursor, p.listing⟩ :: p.removal.toList.map fun a => ⟨Server.delete p.keys, a⟩

/-- The last exchanges of a sweep that fails at a cursor: its page cannot be read, or the number of keys deleted. -/
inductive Stuck (pattern : String) (cursor : Nat) : List Exchange → Prop
  | listing {a : Answer} (ha : a.page? = none) : Stuck pattern cursor [⟨Server.scan pattern cursor, a⟩]
  | removal {a b : Answer} {next : Nat} {keys : List String} (ha : a.page? = some (next, keys)) (hk : keys ≠ [])
      (hb : b.number? = none) :
      Stuck pattern cursor [⟨Server.scan pattern cursor, a⟩, ⟨Server.delete keys, b⟩]

/-- What a sweep from a cursor says and hears, and what it comes to. It asks for every page with the cursor the page
before gave. The first page that gives zero is the last, unless something cannot be read before. -/
inductive Sweep (pattern : String) (cursor : Nat) : List Exchange → Except Failure Nat → Prop
  | done (pages : List Page) (hne : pages ≠ [])
      (hlinks : cursor :: pages.map Page.next = pages.map Page.cursor ++ [0])
      (hnext : ∀ p ∈ pages.dropLast, p.next ≠ 0) :
      Sweep pattern cursor (pages.flatMap (Page.exchanges pattern)) (.ok (pages.map Page.deleted).sum)
  | failed (pages : List Page) (stop : Nat) (rest : List Exchange) (f : Failure)
      (hlinks : cursor :: pages.map Page.next = pages.map Page.cursor ++ [stop])
      (hnext : ∀ p ∈ pages, p.next ≠ 0) (hrest : Stuck pattern stop rest) :
      Sweep pattern cursor (pages.flatMap (Page.exchanges pattern) ++ rest) (.error f)

namespace Sweep

variable {pattern : String} {log : List Exchange} {r : Except Failure Nat}

/-- A sweep of one page. -/
theorem last (p : Page) (hp : p.next = 0) : Sweep pattern p.cursor (p.exchanges pattern) (.ok p.deleted) := by
  have h : Sweep pattern p.cursor _ _ := done [p] (List.cons_ne_nil _ _) (by simp [hp]) (by simp)
  simpa using h

/-- A page before a sweep. -/
theorem cons (p : Page) (hp : p.next ≠ 0) (h : Sweep pattern p.next log r) :
    Sweep pattern p.cursor (p.exchanges pattern ++ log) (r.map (p.deleted + ·)) := by
  cases h with
  | done pages hne hlinks hnext =>
    have hnext' : ∀ q ∈ (p :: pages).dropLast, q.next ≠ 0 := by
      rw [List.dropLast_cons_of_ne_nil hne]
      simpa using ⟨hp, hnext⟩
    have h : Sweep pattern p.cursor _ _ := done (p :: pages) (List.cons_ne_nil _ _) (by simpa using hlinks) hnext'
    simpa [Except.map] using h
  | failed pages z rest f hlinks hnext hrest =>
    have h : Sweep pattern p.cursor _ _ := failed (p :: pages) z rest f (by simpa using hlinks)
      (by simpa using ⟨hp, hnext⟩) hrest
    simpa [Except.map] using h

end Sweep

namespace Server

variable {s : Server} {pattern : String}

/-- One round of a sweep: it fails, or it deals with a page. Each page takes an answer off the script, so the fuel need
not be more than there are. -/
theorem sweepFrom_succ (pattern : String) (cursor total : Nat) (s : Server) (fuel : Nat) :
    (∃ log f, Stuck pattern cursor log ∧ log = s.exchanges (log.map Exchange.command) ∧
        s.sweepFrom pattern cursor total (fuel + 1) = (.error f, s.toldAll (log.map Exchange.command))) ∨
      ∃ (p : Page) (s' : Server), p.cursor = cursor ∧
        p.exchanges pattern = s.exchanges ((p.exchanges pattern).map Exchange.command) ∧
        s' = s.toldAll ((p.exchanges pattern).map Exchange.command) ∧ s'.script.length < s.script.length ∧
        s.sweepFrom pattern cursor total (fuel + 1) =
          if p.next = 0 then (.ok (total + p.deleted), s') else s'.sweepFrom pattern p.next (total + p.deleted) fuel := by
  rw [sweepFrom]
  cases hp : s.upcoming.content Reply.page? with
  | none =>
    obtain ⟨f, hask⟩ := ask_none hp
    rw [hask]
    exact .inl ⟨_, f, .listing hp, rfl, rfl⟩
  | some page =>
    obtain ⟨next, keys⟩ := page
    rw [ask_some hp]
    have hlt : (s.told (scan pattern cursor)).script.length < s.script.length := by
      have := List.length_pos_of_ne_nil (script_ne_nil hp)
      simp only [told, List.length_tail]
      omega
    by_cases hk : keys = []
    · -- an empty page
      refine .inr ⟨⟨cursor, next, keys, 0, s.upcoming, none, hp, hk, rfl⟩, _, rfl, rfl, rfl, hlt, ?_⟩
      simp [drop, hk, Page.exchanges]
    · -- a page with keys
      have hdrop : ∀ s : Server, s.drop keys = s.ask (delete keys) (Reply.number? 64) := fun s => by
        simp [drop, delete, hk]
      dsimp only
      rw [hdrop]
      cases hn : (s.told (scan pattern cursor)).upcoming.content (Reply.number? 64) with
      | none =>
        obtain ⟨f, hask⟩ := ask_none hn
        rw [hask]
        exact .inl ⟨_, f, .removal hp hk hn, rfl, rfl⟩
      | some n =>
        rw [ask_some hn]
        refine .inr ⟨⟨cursor, next, keys, n, s.upcoming, some _, hp, hk, hn⟩, _, rfl, rfl, rfl, ?_, rfl⟩
        simp only [Page.exchanges, Option.toList_some, List.map_cons, List.map_nil, toldAll_cons, toldAll_nil]
        refine Nat.lt_of_le_of_lt ?_ hlt
        simp only [told, List.length_tail]
        omega

/-- A sweep that has more fuel than the server has answers goes on to its end. -/
theorem sweepFrom_spec (pattern : String) (cursor total : Nat) (s : Server) (fuel : Nat) (hf : s.script.length < fuel) :
    ∃ log r, Sweep pattern cursor log r ∧ log = s.exchanges (log.map Exchange.command) ∧
      s.sweepFrom pattern cursor total fuel = (r.map (total + ·), s.toldAll (log.map Exchange.command)) := by
  induction fuel generalizing cursor total s with
  | zero => omega
  | succ fuel ih =>
    obtain ⟨log, f, hstuck, hlog, hs⟩ | ⟨p, s', rfl, hlog, hs', hlt, hs⟩ := sweepFrom_succ pattern cursor total s fuel
    · exact ⟨log, .error f, .failed [] cursor log f rfl (by simp) hstuck, hlog, hs⟩
    · rw [hs]
      by_cases hp : p.next = 0
      · rw [if_pos hp]
        exact ⟨_, _, .last p hp, hlog, by rw [hs']; rfl⟩
      · rw [if_neg hp]
        obtain ⟨log, r, hsweep, hlog', heq⟩ := ih p.next (total + p.deleted) s' (by omega)
        refine ⟨_, _, .cons p hp hsweep, ?_, ?_⟩
        · rw [List.map_append, exchanges_append, ← hs', ← hlog, ← hlog']
        · rw [heq, List.map_append, toldAll_append, ← hs']
          cases r with
          | error f => rfl
          | ok n => simp [Except.map, Nat.add_assoc]

end Server

/-! ## A server that keeps keys -/

/-- The keys an exchange lists. -/
def Exchange.listed (x : Exchange) : List String :=
  if x.command.head? = some (.text "SCAN") then (x.answer.page?.map Prod.snd).getD [] else []

/-- The keys of a server before some exchanges and after them, if nobody else writes to it. It answers a deletion with
the number of keys it removes, and to list keys removes none. -/
inductive Keeps : Finset String → List Exchange → Finset String → Prop
  | nil (K : Finset String) : Keeps K [] K
  | scan {K K' : Finset String} {x : Exchange} {log : List Exchange} {pattern : String} {cursor : Nat}
      (hx : x.command = Server.scan pattern cursor) (h : Keeps K log K') : Keeps K (x :: log) K'
  | delete {K K' : Finset String} {x : Exchange} {log : List Exchange} {keys : List String}
      (hx : x.command = Server.delete keys) (ha : x.answer.number? = some (K ∩ keys.toFinset).card)
      (h : Keeps (K \ keys.toFinset) log K') : Keeps K (x :: log) K'

namespace Server

theorem scan_ne_delete {pattern : String} {cursor : Nat} {keys : List String} : scan pattern cursor ≠ delete keys := by
  intro h
  simp [scan, delete, command] at h

theorem delete_inj {ks ls : List String} : delete ks = delete ls ↔ ks = ls := by
  constructor
  · intro h
    have h := (List.map_inj_right fun a b hab => Argument.text.inj hab).1 h
    exact (List.cons.inj h).2
  · rintro rfl
    rfl

end Server

namespace Keeps

variable {pattern : String} {K K' : Finset String} {log : List Exchange}

/-- After a page its keys are gone, and the server told how many there were. -/
theorem page {p : Page} (h : Keeps K (p.exchanges pattern ++ log) K') :
    Keeps (K \ p.keys.toFinset) log K' ∧ p.deleted = (K ∩ p.keys.toFinset).card := by
  have hp := p.removed
  unfold Page.exchanges at h
  cases hr : p.removal with
  | none =>
    rw [hr] at h hp
    obtain ⟨hkeys, hdeleted⟩ := hp
    cases h with
    | scan _ h => simpa [hkeys, hdeleted] using h
    | delete hx _ _ => exact absurd hx Server.scan_ne_delete
  | some a =>
    rw [hr] at h hp
    obtain ⟨-, hdeleted⟩ := hp
    cases h with
    | delete hx _ _ => exact absurd hx Server.scan_ne_delete
    | scan _ h =>
      cases h with
      | scan hx _ => exact absurd hx.symm Server.scan_ne_delete
      | delete hx ha h =>
        obtain rfl := Server.delete_inj.1 hx
        exact ⟨h, Option.some.inj (hdeleted.symm.trans ha)⟩

/-- After some pages the keys on them are gone, and the numbers the server told add up. -/
theorem pages {ps : List Page} (h : Keeps K (ps.flatMap (Page.exchanges pattern)) K') :
    K' = K \ (ps.flatMap Page.keys).toFinset ∧ (ps.map Page.deleted).sum + K'.card = K.card := by
  induction ps generalizing K with
  | nil => cases h; simp
  | cons p ps ih =>
    obtain ⟨h, hdeleted⟩ := page h
    obtain ⟨hkeys, hsum⟩ := ih h
    constructor
    · ext key
      simp [hkeys, and_assoc]
    · have hsplit := Finset.card_sdiff_add_card_inter K p.keys.toFinset
      rw [List.map_cons, List.sum_cons, hdeleted]
      omega

end Keeps

/-- The keys listed for a page are those it is made of. -/
theorem Page.listed_exchanges (pattern : String) (p : Page) :
    (p.exchanges pattern).flatMap Exchange.listed = p.keys := by
  have hscan : Exchange.listed ⟨Server.scan pattern p.cursor, p.listing⟩ = p.keys := by
    simp [Exchange.listed, Server.scan, Server.command, p.listed]
  have hdelete : ∀ a, Exchange.listed ⟨Server.delete p.keys, a⟩ = [] := fun a => by
    simp [Exchange.listed, Server.delete, Server.command]
  unfold exchanges
  rw [List.flatMap_cons, hscan]
  cases p.removal with
  | none => simp
  | some a => simp [hdelete]

theorem Page.listed_flatMap_exchanges (pattern : String) (ps : List Page) :
    (ps.flatMap (exchanges pattern)).flatMap Exchange.listed = ps.flatMap keys := by
  rw [List.flatMap_assoc]
  exact List.flatMap_congr fun p _ => p.listed_exchanges pattern

/-- If what a finished sweep lists matches, and what matches and is there throughout is listed, then nothing that
matches is left, nothing else is gone, and the sweep comes to the number of keys removed. -/
theorem Sweep.exact {pattern : String} {cursor n : Nat} {log : List Exchange} {K K' : Finset String}
    {m : String → Bool} (hs : Sweep pattern cursor log (.ok n)) (hk : Keeps K log K')
    (honly : ∀ key ∈ log.flatMap Exchange.listed, m key = true)
    (hall : ∀ key ∈ K', m key = true → key ∈ log.flatMap Exchange.listed) :
    K' = K.filter (fun key => m key = false) ∧ n = (K.filter fun key => m key = true).card := by
  cases hs with
  | done ps _ _ _ =>
    obtain ⟨hK', hsum⟩ := hk.pages
    have hleft : K' = K.filter fun key => m key = false := by
      ext key
      have honly := honly key
      have hall := hall key
      rw [Page.listed_flatMap_exchanges] at honly hall
      rw [hK', Finset.mem_sdiff, List.mem_toFinset] at hall ⊢
      rw [Finset.mem_filter]
      constructor
      · rintro ⟨hin, hnot⟩
        exact ⟨hin, Bool.eq_false_iff.2 fun hm => hnot (hall ⟨hin, hnot⟩ hm)⟩
      · rintro ⟨hin, hm⟩
        exact ⟨hin, fun hlisted => Bool.eq_false_iff.1 hm (honly hlisted)⟩
    refine ⟨hleft, ?_⟩
    have hsplit : (K.filter fun key => m key = true).card + _ = K.card := Finset.card_filter_add_card_filter_not _
    simp only [Bool.not_eq_true] at hsplit
    rw [← hleft] at hsplit
    omega

namespace Client

/-- Deletion by pattern is complete and exact. Whatever the server answers, the commands of the call and the answers to
them are a sweep from cursor zero, nothing else is sent, and what cannot be read makes an error of the connection. If
the server keeps keys, lists no others than those that match, and lists at least once each of these that stays, then a
call that succeeds leaves none of them, removes no other key and answers how many it removed. -/
theorem paged_deletion (c : Client) (pattern : String) (hc : c.connected = true) (hl : c.server.listening = true) :
    ∃ log r, Sweep pattern 0 log r ∧ log = c.server.exchanges (log.map Exchange.command) ∧
      c.serve (.deletePattern pattern) = (r.mapError fun f => .connection f.reason,
        { c with server := { c.server with
          script := c.server.script.drop log.length
          sent := c.server.sent ++ log.map Exchange.command } }) ∧
      ∀ (K K' : Finset String) (m : String → Bool), Keeps K log K' →
        (∀ key ∈ log.flatMap Exchange.listed, m key = true) →
        (∀ key ∈ K', m key = true → key ∈ log.flatMap Exchange.listed) →
        ∀ n, r = .ok n →
          K' = K.filter (fun key => m key = false) ∧ n = (K.filter fun key => m key = true).card := by
  obtain ⟨log, r, hsweep, hlog, heq⟩ :=
    Server.sweepFrom_spec pattern 0 0 c.server (c.server.script.length + 1) (Nat.lt_succ_self _)
  refine ⟨log, r, hsweep, hlog, ?_, ?_⟩
  · have hr : r.map (0 + ·) = r := by cases r <;> simp [Except.map]
    unfold serve
    dsimp only
    rw [if_pos hc, reach, if_pos hl, converse, Server.sweep, heq, hr, Server.toldAll_eq, List.length_map]
    rfl
  · rintro K K' m hkeeps honly hall n rfl
    exact hsweep.exact hkeeps honly hall

/-- A key on two pages, a page without keys, and a last page with keys. -/
theorem paged_deletion_of_four_keys :
    let c : Client := {
      url := "redis://localhost"
      connected := true
      server := { script := [
        .reply (.array [.bulk [55], .array [.bulk [97], .bulk [98]]]), .reply (.int 2),
        .reply (.array [.bulk [53], .array []]),
        .reply (.array [.bulk [48], .array [.bulk [97], .bulk [99]]]), .reply (.int 1)] } }
    (c.serve (.deletePattern "?")).1 = .ok 3 ∧
      ∃ log, (c.serve (.deletePattern "?")).2.server.sent = log.map Exchange.command ∧
        Keeps {"a", "b", "c", "d"} log {"d"} ∧
        3 = (({"a", "b", "c", "d"} : Finset String).filter fun key => (key != "d") = true).card := by
  intro c
  obtain ⟨log, r, -, hlog, heq, hexact⟩ := paged_deletion c "?" rfl rfl
  have hreply : (c.serve (.deletePattern "?")).1 = .ok 3 := by decide
  have hr : r = .ok 3 := by
    rw [heq] at hreply
    cases r with
    | error f => cases hreply
    | ok n => exact congrArg Except.ok (Except.ok.inj hreply)
  have hsent : log.map Exchange.command = [Server.scan "?" 0, Server.delete ["a", "b"], Server.scan "?" 7,
      Server.scan "?" 5, Server.delete ["a", "c"]] := by
    have h : (c.serve (.deletePattern "?")).2.server.sent = log.map Exchange.command := by rw [heq]; rfl
    rw [← h]
    decide
  rw [hsent] at hlog
  have hkeeps : Keeps {"a", "b", "c", "d"} log {"d"} := by
    rw [hlog]
    refine .scan rfl (.delete rfl (by decide) (.scan rfl (.scan rfl (.delete rfl (by decide) ?_))))
    have : ((({"a", "b", "c", "d"} : Finset String) \ ["a", "b"].toFinset) \ ["a", "c"].toFinset) = {"d"} := by decide
    rw [this]
    exact .nil _
  refine ⟨hreply, log, by rw [heq]; rfl, hkeeps, (hexact _ _ (fun key => key != "d") hkeeps ?_ ?_ 3 hr).2⟩
  · rw [hlog]
    decide
  · intro key hkey hm
    rw [Finset.mem_singleton.1 hkey] at hm
    exact absurd hm (by decide)

end Client

end TwoTier.Redis
