/-
A number may be read as another type than it was written as. Each type of integers is the numbers between two
bounds; what a value is stored as depends on its number alone, and it is read by its number and not by the
width of its marker. So a number crosses from one type to another as it is, or not at all.
-/
import TwoTier.Proofs.PayloadRoundTrip

namespace TwoTier

/-! ## Reading a key -/

namespace Link

variable {σ α : Type} [Backend σ] {l : Link σ} {key : String}

/-- To make a call and wait for the reply leaves the client and the recorder as they are. -/
theorem ask_client (l : Link σ) (r : Request α) :
    (l.ask r).2.remote = l.remote ∧ (l.ask r).2.recorder = l.recorder := by
  unfold ask call
  by_cases h : l.remote.connected = true
  · rw [if_pos h]
    exact ⟨rfl, rfl⟩
  · rw [if_neg h]
    exact ⟨rfl, rfl⟩

/-- Whether the store answers with these bytes when it is asked for a key. -/
def Brings (l : Link σ) (key : String) (bytes : Bytes) : Prop := (l.ask (.get key)).1 = .ok (some bytes)

/-- A value has been read, and nothing is counted. -/
structure Reads [Payload α] (l : Link σ) (key : String) (a : α) : Prop where
  tried : (l.tryGet key).1 = .ok (some a)
  value : (l.get key).1 = some a
  remote : (l.get key : Option α × Link σ).2.remote = l.remote
  recorder : (l.get key : Option α × Link σ).2.recorder = l.recorder

/-- What was brought is no value of the type. The operation that tells what went wrong says so; the other one has
nothing to give and counts one failure. -/
structure Refuses (α : Type) [Payload α] (l : Link σ) (key : String) : Prop where
  tried : (l.tryGet key).1 = (.error .deserialization : Except CacheError (Option α))
  value : (l.get key).1 = (none : Option α)
  remote : (l.get key : Option α × Link σ).2.remote = { l.remote with errors := l.remote.errors + 1 }
  recorder : (l.get key : Option α × Link σ).2.recorder = l.recorder.add (.failures "get") 1

variable [Payload α] {bytes : Bytes}

theorem get_eq (l : Link σ) (key : String) :
    (l.get key : Option α × Link σ) = settle "get" none ((l.tryGet key).1, (l.ask (.get key)).2) := rfl

theorem Brings.tryGet_fst (h : l.Brings key bytes) :
    (l.tryGet key).1 = (Payload.decode bytes : Except CacheError α).map some := by
  rw [Link.tryGet_fst, h]
  rfl

theorem Brings.reads {a : α} (h : l.Brings key bytes) (hdecode : Payload.decode bytes = .ok a) : l.Reads key a := by
  have htried : (l.tryGet key).1 = .ok (some a) := by
    rw [h.tryGet_fst, hdecode]
    rfl
  have hget : l.get key = (some a, (l.ask (.get key)).2) := by
    rw [get_eq, htried]
    rfl
  refine ⟨htried, ?_, ?_, ?_⟩ <;> rw [hget]
  · exact (ask_client l _).1
  · exact (ask_client l _).2

theorem Brings.refuses (h : l.Brings key bytes)
    (hdecode : (Payload.decode bytes : Except CacheError α) = .error .deserialization) : l.Refuses α key := by
  have htried : (l.tryGet key).1 = (.error .deserialization : Except CacheError (Option α)) := by
    rw [h.tryGet_fst, hdecode]
    rfl
  have hget : l.get key = ((none : Option α), (l.ask (.get key)).2.report "get" .deserialization) := by
    rw [get_eq, htried]
    rfl
  obtain ⟨hremote, hrecorder⟩ := ask_client l (.get key)
  refine ⟨htried, ?_, ?_, ?_⟩ <;> rw [hget]
  · show { (l.ask (.get key)).2.remote with errors := (l.ask (.get key)).2.remote.errors + 1 } = _
    rw [hremote]
  · show (l.ask (.get key)).2.recorder.add _ _ = _
    rw [hrecorder]

theorem tryGet_eq_some_iff {a : α} :
    (l.tryGet key).1 = .ok (some a) ↔ ∃ bytes, l.Brings key bytes ∧ Payload.decode bytes = .ok a := by
  rw [tryGet_fst]
  unfold Brings
  cases (l.ask (.get key)).1 with
  | error e => simp [Payload.decodeReply]
  | ok found =>
    cases found with
    | none => simp [Payload.decodeReply]
    | some bytes =>
      cases hdecode : (Payload.decode bytes : Except CacheError α) <;> simp [Payload.decodeReply, hdecode, Except.map]

end Link

namespace Payload

/-- A store in memory brings what was set in it just before. -/
theorem StoredAs.brings {α : Type} [Payload α] {a : α} {bytes : Bytes} (h : StoredAs a bytes) {l : Link Store} (ho : l.Open)
    (key : String) {ttl : Option Nat} (httl : ttl ≠ some 0) : (l.trySet key a ttl).2.Brings key bytes := by
  have hlive : Stored.isExpired ⟨bytes, ttl.map (deadline l.now)⟩ l.now = false := by
    cases ttl with
    | none => rfl
    | some d =>
      have hd : d ≠ 0 := fun hd => httl (congrArg some hd)
      have hmax : 0 < maxTtl := by decide
      apply decide_eq_false
      unfold deadline
      omega
  rw [h.sent, ho.ask rfl]
  have ho' : Link.Open { l with store := { l.store with inner := l.store.inner.put key ⟨bytes, ttl.map (deadline l.now)⟩ } } :=
    ⟨⟨ho.calm.faults, ho.calm.available⟩, ho.connected⟩
  refine (ho'.ask_get key).trans (congrArg Except.ok ?_)
  rw [Store.live?_eq_some_iff.2 ⟨Store.find?_put.trans (if_pos rfl), hlive⟩]
  rfl

/-! ## Types of integers -/

/-- The types of integers that callers keep in the shared tier. -/
inductive IntKind where
  | uint8 | int8 | uint32 | int64 | uint64
deriving DecidableEq, Repr

namespace IntKind

/-- As one of the covered types. -/
def kind : IntKind → Kind
  | uint8 => .uint8
  | int8 => .int8
  | uint32 => .uint32
  | int64 => .int64
  | uint64 => .uint64

abbrev Value (k : IntKind) : Type := k.kind.Value

/-- The number that a value is. -/
def number : (k : IntKind) → k.Value → Int
  | uint8, n => UInt8.toNat n
  | int8, i => Int8.toInt i
  | uint32, n => UInt32.toNat n
  | int64, i => Int64.toInt i
  | uint64, n => UInt64.toNat n

def low : IntKind → Int
  | uint8 | uint32 | uint64 => 0
  | int8 => -128
  | int64 => minInt64

def high : IntKind → Int
  | uint8 => 255
  | int8 => 127
  | uint32 => maxNat32
  | int64 => maxInt64
  | uint64 => maxNat64

/-- Whether a number is one of the type. -/
def Holds (k : IntKind) (i : Int) : Prop := k.low ≤ i ∧ i ≤ k.high

instance (k : IntKind) (i : Int) : Decidable (k.Holds i) := inferInstanceAs (Decidable (k.low ≤ i ∧ i ≤ k.high))

/-- The value that is a number of the type. -/
def ofInt : (k : IntKind) → Int → k.Value
  | uint8, i => i.toNat.toUInt8
  | int8, i => Int8.ofInt i
  | uint32, i => i.toNat.toUInt32
  | int64, i => Int64.ofInt i
  | uint64, i => i.toNat.toUInt64

variable {k : IntKind} {i : Int} {v : k.Value}

theorem holds_number (k : IntKind) (v : k.Value) : k.Holds (k.number v) := by
  cases k with
  | uint8 => exact ⟨Int.natCast_nonneg _, Int.ofNat_le.2 (Nat.le_of_lt_succ (UInt8.toNat_lt v))⟩
  | int8 => exact ⟨Int8.le_toInt v, Int8.toInt_le v⟩
  | uint32 => exact ⟨Int.natCast_nonneg _, Int.ofNat_le.2 (Nat.le_of_lt_succ (UInt32.toNat_lt v))⟩
  | int64 => exact ⟨Int64.le_toInt v, Int64.toInt_le v⟩
  | uint64 => exact ⟨Int.natCast_nonneg _, Int.ofNat_le.2 (Nat.le_of_lt_succ (UInt64.toNat_lt v))⟩

theorem ofInt_number (k : IntKind) (v : k.Value) : k.ofInt (k.number v) = v := by
  cases k with
  | uint8 => exact UInt8.ofNat_toNat
  | int8 => exact Int8.ofInt_toInt v
  | uint32 => exact UInt32.ofNat_toNat
  | int64 => exact Int64.ofInt_toInt v
  | uint64 => exact UInt64.ofNat_toNat

theorem number_ofInt (h : k.Holds i) : k.number (k.ofInt i) = i := by
  obtain ⟨hl, hh⟩ := h
  cases k with
  | uint8 =>
    simp only [low, high] at hl hh
    simp only [number, ofInt, Nat.toUInt8_eq, UInt8.toNat_ofNat']
    omega
  | int8 =>
    simp only [low, high] at hl hh
    exact Int8.toInt_ofInt_of_le hl (by omega)
  | uint32 =>
    simp only [low, high, maxNat32] at hl hh
    simp only [number, ofInt, Nat.toUInt32_eq, UInt32.toNat_ofNat']
    omega
  | int64 =>
    simp only [low, high, minInt64, maxInt64] at hl hh
    exact Int64.toInt_ofInt_of_le hl (by omega)
  | uint64 =>
    simp only [low, high, maxNat64] at hl hh
    simp only [number, ofInt, Nat.toUInt64_eq, UInt64.toNat_ofNat']
    omega

/-- No type goes beyond what can be written. -/
theorem holds_within (h : k.Holds i) : minInt64 ≤ i ∧ i ≤ maxNat64 := by
  have hlow : minInt64 ≤ k.low := by cases k <;> decide
  have hhigh : k.high ≤ maxNat64 := by cases k <;> decide
  exact ⟨Int.le_trans hlow h.1, Int.le_trans h.2 hhigh⟩

/-! ## Writing and reading by the number -/

/-- Two values of the same number are written alike, whatever their types. -/
theorem encode_eq (k : IntKind) (v : k.Value) : encode v = .ok (Pack.writeInt (k.number v)) := by
  have hwrite : ∀ n : Nat, (Pack.uint n).write = Pack.writeInt n := by
    intro n
    rw [Pack.write, Pack.writeInt, if_pos (Int.natCast_nonneg n), Int.toNat_natCast]
  cases k with
  | uint8 => exact congrArg Except.ok (hwrite _)
  | int8 => rfl
  | uint32 => exact congrArg Except.ok (hwrite _)
  | int64 => rfl
  | uint64 => exact congrArg Except.ok (hwrite _)

theorem storedAs (k : IntKind) (v : k.Value) : StoredAs v (Pack.writeInt (k.number v)) := by
  have hrestored : Restored Pack.maxDepth v := by cases k <;> exact Kind.restored _ trivial
  exact hrestored.storedAs_of (encode_eq k v)

theorem unpack_eq (k : IntKind) (p : Pack) : unpack p = (intWithin? k.low k.high p).map k.ofInt := by
  cases k <;> rfl

/-- A form is a value if it holds the number that the value is, and not otherwise. -/
theorem unpack_eq_some_iff {p : Pack} : unpack p = some v ↔ intOf? p = some (k.number v) := by
  rw [unpack_eq, Option.map_eq_some_iff]
  unfold intWithin?
  constructor
  · rintro ⟨i, hi, rfl⟩
    obtain ⟨hp, hholds⟩ := Option.filter_eq_some_iff.1 hi
    rw [hp, number_ofInt (of_decide_eq_true hholds)]
  · intro hp
    exact ⟨k.number v, Option.filter_eq_some_iff.2 ⟨hp, decide_eq_true (holds_number k v)⟩, ofInt_number k v⟩

end IntKind

/-- A form is a number of JSON if it holds an integer. -/
theorem unpack_eq_some_json_iff {i : Int} {p : Pack} : unpack p = some (Json.int i) ↔ intOf? p = some i := by
  change unpackJson p = _ ↔ _
  cases p with
  | single bits =>
    simp only [unpackJson, intOf?, jsonNumber]
    split <;> simp
  | double x =>
    simp only [unpackJson, intOf?, jsonNumber]
    split <;> simp
  | map entries =>
    cases entries with
    | nil => simp [unpackJson, intOf?]
    | cons e rest =>
      simp only [unpackJson, intOf?]
      split <;> simp [Json.object]
  | _ => simp [unpackJson, intOf?]

/-- The number in a payload, if there is one. -/
def numberIn? (bytes : Bytes) : Option Int := (Pack.parse bytes).bind intOf?

/-- What is a value by the number in its form is one by the number in its payload. -/
theorem decode_eq_ok_iff {α : Type} [Payload α] {a : α} {i : Int} {bytes : Bytes}
    (h : ∀ p, unpack p = some a ↔ intOf? p = some i) : decode bytes = .ok a ↔ numberIn? bytes = some i := by
  unfold Payload.decode numberIn?
  cases Pack.parse bytes with
  | none => simp
  | some p =>
    rw [Option.bind_some, Option.bind_some, ← h]
    cases (unpack p : Option α) <;> simp

theorem decode_of_not_ok {α : Type} [Payload α] {bytes : Bytes} (h : ∀ a : α, decode bytes ≠ .ok a) :
    (decode bytes : Except CacheError α) = .error .deserialization := by
  unfold Payload.decode at h ⊢
  cases hu : (Pack.parse bytes).bind (unpack : Pack → Option α) with
  | none => rfl
  | some a => exact absurd (by rw [hu]) (h a)

theorem numberIn?_writeInt {i : Int} (hl : minInt64 ≤ i) (hh : i ≤ maxNat64) : numberIn? (Pack.writeInt i) = some i := by
  have hparse := Pack.parse_write (Pack.isPlain_ofInt hl hh) []
  rw [List.append_nil, Pack.nesting_ofInt, if_pos (Nat.zero_le _), Pack.write_ofInt, Pack.write] at hparse
  rw [numberIn?, hparse, Option.bind_some, intOf?_ofInt]

/-! ## Crossing from one type to another -/

namespace IntKind

/-- No read makes a number other than the one in the payload that is brought. -/
structure Faithful {σ : Type} [Backend σ] (T : IntKind) (l : Link σ) (key : String) : Prop where
  number : ∀ v : T.Value, (l.tryGet key).1 = .ok (some v) ↔ ∃ bytes, l.Brings key bytes ∧ numberIn? bytes = some (T.number v)
  json : ∀ i, (l.tryGet key).1 = .ok (some (Json.int i)) ↔ ∃ bytes, l.Brings key bytes ∧ numberIn? bytes = some i

theorem faithful {σ : Type} [Backend σ] (T : IntKind) (l : Link σ) (key : String) : T.Faithful l key := by
  constructor
  · intro v
    simp only [Link.tryGet_eq_some_iff, decode_eq_ok_iff fun _ => unpack_eq_some_iff]
  · intro i
    simp only [Link.tryGet_eq_some_iff, decode_eq_ok_iff fun _ => unpack_eq_some_json_iff]

/-- What becomes of a number that was set as one type and is read as another. It is stored as bytes, a store in
memory brings them back, and any store that does brings the same number, if it is one of the other type, and
nothing that can be read if it is not. As JSON it is that number. -/
structure Crosses (S T : IntKind) (n : S.Value) (bytes : Bytes) : Prop where
  stored : StoredAs n bytes
  brought : ∀ (l : Link Store) (key : String) (ttl : Option Nat), l.Open → ttl ≠ some 0 →
    (l.trySet key n ttl).2.Brings key bytes
  exact : T.Holds (S.number n) → ∃ v : T.Value, T.number v = S.number n ∧
    ∀ {σ : Type} [Backend σ] (l : Link σ) (key : String), l.Brings key bytes → l.Reads key v
  refused : ¬ T.Holds (S.number n) →
    ∀ {σ : Type} [Backend σ] (l : Link σ) (key : String), l.Brings key bytes → l.Refuses T.Value key
  json : ∀ {σ : Type} [Backend σ] (l : Link σ) (key : String), l.Brings key bytes →
    l.Reads key (Json.int (S.number n))

theorem crosses (S T : IntKind) (n : S.Value) : Crosses S T n (Pack.writeInt (S.number n)) := by
  obtain ⟨hl, hh⟩ := holds_within (holds_number S n)
  have hnumber : numberIn? (Pack.writeInt (S.number n)) = some (S.number n) := numberIn?_writeInt hl hh
  refine ⟨storedAs S n, fun l key ttl ho => (storedAs S n).brings ho key, ?_, ?_, ?_⟩
  · intro hholds
    refine ⟨T.ofInt (S.number n), number_ofInt hholds, ?_⟩
    intro σ _ l key hbrings
    apply hbrings.reads
    rw [decode_eq_ok_iff fun _ => unpack_eq_some_iff, hnumber, number_ofInt hholds]
  · intro hholds σ _ l key hbrings
    apply hbrings.refuses
    apply decode_of_not_ok
    intro v hv
    rw [decode_eq_ok_iff fun _ => unpack_eq_some_iff, hnumber] at hv
    exact hholds (Option.some.inj hv ▸ holds_number T v)
  · intro σ _ l key hbrings
    apply hbrings.reads
    exact (decode_eq_ok_iff fun _ => unpack_eq_some_json_iff).2 hnumber

/-- Integers cross types safely: whatever was set as one type is read as another by its number or not at all, and
no store, whatever it holds, makes a read give a number that it does not bring. -/
theorem integers_cross (S T : IntKind) (n : S.Value) : Crosses S T n (Pack.writeInt (S.number n)) ∧
    ∀ {σ : Type} [Backend σ] (l : Link σ) (key : String), T.Faithful l key :=
  ⟨crosses S T n, fun l key => faithful T l key⟩

/-- A number just below those of eight bits comes back as itself, and as no byte of either sign. -/
theorem integers_cross_of_low_number :
    let l : Link Store := {
      now := 0
      remote := { keyspace := "", timeout := 1, retry := ⟨1, 0, 0⟩, connected := true }
      store := { inner := {} }
      recorder := {} }
    let l' := (l.trySet "k" (-129 : Int64) none).2
    (∃ v : Int64, v.toInt = -129 ∧ l'.Reads "k" v) ∧ l'.Refuses Int8 "k" ∧ l'.Refuses UInt8 "k" ∧
      l'.Reads "k" (Json.int (-129)) := by
  intro l l'
  have hcross : ∀ T, Crosses .int64 T (-129 : Int64) _ := fun T => (integers_cross .int64 T (-129 : Int64)).1
  have hbrings : l'.Brings "k" _ := (hcross .int64).brought l "k" none ⟨⟨rfl, rfl⟩, rfl⟩ nofun
  obtain ⟨v, hv, hreads⟩ := (hcross .int64).exact (by decide)
  exact ⟨⟨v, hv, hreads l' "k" hbrings⟩, (hcross .int8).refused (by decide) l' "k" hbrings,
    (hcross .uint8).refused (by decide) l' "k" hbrings, (hcross .int64).json l' "k" hbrings⟩

end IntKind

end Payload

end TwoTier
