/-
What is set in the shared tier is what is got from it. Each of the covered types is named by a kind. For a
value of any of them that fits into a payload, there are bytes that it is stored as; getting it from these
bytes gives the value back, whatever follows them, and no value of its type is got from less than all of them.
-/
import TwoTier.Proofs.MessagePack.Restored
import TwoTier.Proofs.Store.Calm
import TwoTier.Remote.Calls

namespace TwoTier

/-! ## Bytes in the shared tier -/

/-- A client that is connected to a store which answers every call at once. -/
structure Link.Open (l : Link Store) : Prop where
  calm : l.store.Calm
  connected : l.remote.connected = true

/-- The bytes that a value is stored as. They are what setting it sends, to any store, and what a store in
memory then keeps; before a calm one the setting succeeds. A store that brings them, with or without more
behind them, brings the value, and one that brings only a part of them brings nothing that can be read. -/
structure Payload.StoredAs {α : Type} [Payload α] (a : α) (bytes : Bytes) : Prop where
  sent : ∀ {σ : Type} [Backend σ] (l : Link σ) (key : String) (ttl : Option Nat),
    l.trySet key a ttl = l.ask (.set key bytes ttl)
  kept : ∀ (l : Link Store) (key : String) (ttl : Option Nat), l.Open →
    ∃ l', l.trySet key a ttl = (.ok (), l') ∧ l'.store.inner.find? key = some ⟨bytes, ttl.map (deadline l.now)⟩
  got : ∀ {σ : Type} [Backend σ] (l : Link σ) (key : String) (rest : Bytes),
    (l.ask (.get key)).1 = .ok (some (bytes ++ rest)) → (l.tryGet key).1 = .ok (some a)
  cut : ∀ {σ : Type} [Backend σ] (l : Link σ) (key : String) (part missing : Bytes), missing ≠ [] →
    part ++ missing = bytes → (l.ask (.get key)).1 = .ok (some part) →
    (l.tryGet key).1 = (.error .deserialization : Except CacheError (Option α))

namespace Link

variable {l : Link Store} {α : Type}

/-- An open client has the answer of the store at once. -/
theorem Open.ask (h : l.Open) {r : Request α} (hr : r.isAnswered = true) :
    l.ask r = ((l.store.inner.answer l.now r).1,
      { l with store := { l.store with inner := (l.store.inner.answer l.now r).2 } }) := by
  unfold Link.ask call
  rw [if_pos h.connected, Trip.start_calm h.calm]
  dsimp only [wait, finish, Trip.finish]
  rw [Nat.max_self, Scripted.serve_answer h.calm.available hr]

/-- What is live in the store is what an open client is brought. -/
theorem Open.ask_get (h : l.Open) (key : String) :
    (l.ask (.get key)).1 = .ok ((l.store.inner.live? l.now key).map Stored.data) := by
  rw [h.ask rfl]
  exact congrArg Except.ok Store.read_fst

variable {σ : Type} [Backend σ] [Payload α]

theorem tryGet_fst (l : Link σ) (key : String) :
    ((l.tryGet key).1 : Except CacheError (Option α)) = Payload.decodeReply (l.ask (.get key)).1 := rfl

end Link

namespace Payload

/-- A value that comes back from its bytes comes back from the shared tier. -/
theorem Restored.storedAs_of {α : Type} [Payload α] {a : α} {bytes : Bytes} (h : Restored Pack.maxDepth a)
    (hencode : encode a = .ok bytes) : StoredAs a bytes := by
  obtain ⟨bytes', hencode', hdecode, hcut⟩ := h.decode
  obtain rfl : bytes' = bytes := Except.ok.inj (hencode'.symm.trans hencode)
  have hsent : ∀ {σ : Type} [Backend σ] (l : Link σ) (key : String) (ttl : Option Nat),
      l.trySet key a ttl = l.ask (.set key bytes' ttl) := by
    intro σ _ l key ttl
    unfold Link.trySet
    rw [hencode]
  refine ⟨hsent, ?_, ?_, ?_⟩
  · intro l key ttl ho
    refine ⟨_, (hsent l key ttl).trans (ho.ask rfl), ?_⟩
    exact Store.find?_put.trans (if_pos rfl)
  · intro σ _ l key rest hr
    rw [Link.tryGet_fst, hr]
    exact congrArg (Except.map some) (hdecode rest)
  · intro σ _ l key part missing hm hp hr
    rw [Link.tryGet_fst, hr]
    exact congrArg (Except.map some) (hcut part missing hm hp)

theorem Restored.storedAs {α : Type} [Payload α] {a : α} (h : Restored Pack.maxDepth a) : ∃ bytes, StoredAs a bytes := by
  obtain ⟨bytes, hencode, -, -⟩ := h.decode
  exact ⟨bytes, h.storedAs_of hencode⟩

/-! ## The covered types -/

/-- The types that callers keep in the shared tier. -/
inductive Kind where
  | json | uint8 | int8 | uint32 | int64 | uint64 | bool | double | string
  | list | option | pair | textMap | profile | outline
deriving DecidableEq, Repr

namespace Kind

/-- The values of a kind. -/
abbrev Value : Kind → Type
  | json => Json
  | uint8 => UInt8
  | int8 => Int8
  | uint32 => UInt32
  | int64 => Int64
  | uint64 => UInt64
  | bool => Bool
  | double => Double
  | string => String
  | list => List UInt32
  | option => Option UInt32
  | pair => Int64 × String
  | textMap => TextMap Int64
  | profile => Profile
  | outline => Outline

instance payload : (k : Kind) → Payload k.Value
  | json => inferInstanceAs (Payload Json)
  | uint8 => inferInstanceAs (Payload UInt8)
  | int8 => inferInstanceAs (Payload Int8)
  | uint32 => inferInstanceAs (Payload UInt32)
  | int64 => inferInstanceAs (Payload Int64)
  | uint64 => inferInstanceAs (Payload UInt64)
  | bool => inferInstanceAs (Payload Bool)
  | double => inferInstanceAs (Payload Double)
  | string => inferInstanceAs (Payload String)
  | list => inferInstanceAs (Payload (List UInt32))
  | option => inferInstanceAs (Payload (Option UInt32))
  | pair => inferInstanceAs (Payload (Int64 × String))
  | textMap => inferInstanceAs (Payload (TextMap Int64))
  | profile => inferInstanceAs (Payload Profile)
  | outline => inferInstanceAs (Payload Outline)

/-- What a value has to keep to: texts and collections have at most `2 ^ 32 - 1` bytes and items, the keys of a
map are in order, and JSON is proper and nests no deeper than a reader follows. -/
def Fits : (k : Kind) → k.Value → Prop
  | json, j => j.IsProper ∧ (packJson j).nesting ≤ Pack.maxDepth
  | string, s => TextFits s
  | list, ns => ns.length ≤ maxNat32
  | pair, p => TextFits p.2
  | textMap, m => m.entries.length ≤ maxNat32 ∧ m.entries.Pairwise (·.1 < ·.1) ∧ ∀ e ∈ m.entries, TextFits e.1
  | profile, p => TextFits p.name
  | outline, o => OutlineFits o
  | _, _ => True

theorem restored : (k : Kind) → {v : k.Value} → k.Fits v → Restored Pack.maxDepth v
  | json, _, h => restored_json h.1 h.2
  | uint8, _, _ => restored_uint8 _
  | int8, _, _ => restored_int8 _
  | uint32, _, _ => restored_uint32 _
  | int64, _, _ => restored_int64 _
  | uint64, _, _ => restored_uint64 _
  | bool, _, _ => restored_bool _
  | double, _, _ => restored_double _
  | string, _, h => restored_string h
  | list, _, h => restored_list h fun n _ => restored_uint32 n
  | option, _, _ => restored_option _
  | pair, _, h => restored_pair (restored_int64 _) (restored_string h)
  | textMap, _, h => restored_textMap h.1 h.2.1 fun e he => ⟨h.2.2 e he, restored_int64 e.2⟩
  | profile, _, h => restored_profile h
  | outline, _, h => restored_outline h

/-- Every value of a covered type that fits into a payload is stored as bytes that give it back exactly,
whatever follows them, and that give back nothing once they are cut off. -/
theorem storedAs_of_fits (k : Kind) (v : k.Value) (h : k.Fits v) : ∃ bytes, StoredAs v bytes := (k.restored h).storedAs

/-- An object with a negative number below a list comes back from a store that has a byte behind it. -/
theorem storedAs_of_nested : json.Fits (.obj [("a", .arr [.int (-129), .str "x"]), ("b", .obj [])]) ∧
    ∃ bytes, StoredAs (Json.obj [("a", .arr [.int (-129), .str "x"]), ("b", .obj [])]) bytes ∧
      ∀ l : Link Store, l.Open → l.store.inner.live? l.now "k" = some ⟨bytes ++ [0], none⟩ →
        (l.tryGet "k").1 = .ok (some (Json.obj [("a", .arr [.int (-129), .str "x"]), ("b", .obj [])])) := by
  have h : json.Fits (.obj [("a", .arr [.int (-129), .str "x"]), ("b", .obj [])]) := by
    refine ⟨?_, by decide⟩
    simp only [Json.IsProper, Json.AreProper, Json.MembersProper]
    decide
  obtain ⟨bytes, hstored⟩ := storedAs_of_fits json _ h
  refine ⟨h, bytes, hstored, ?_⟩
  intro l ho hlive
  apply hstored.got l "k" [0]
  rw [ho.ask_get, hlive]
  rfl

end Kind

end Payload

end TwoTier
