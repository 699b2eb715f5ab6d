/-
Values that come back. The bytes of a value are those of a form that a reader takes from them and that gives
the value again, whatever follows them; it need not be the form that the value was packed into, since an
integer that is not negative is written without a sign. Here this is shown of every type with a form, with
what its values have to keep to: texts and collections that have markers, keys in order, and JSON that does
not nest too deep.
-/
import TwoTier.Proofs.MessagePack.JsonPayload
import TwoTier.Proofs.MessagePack.Truncation

namespace TwoTier

/-! ## Integers of either sign -/

namespace Pack

/-- The form in which an integer is read back. -/
def ofInt (i : Int) : Pack := if 0 ≤ i then .uint i.toNat else .sint i

variable {i : Int}

theorem write_ofInt (i : Int) : (ofInt i).write = (sint i).write := by
  unfold ofInt
  split
  · rename_i hi
    rw [write, write, writeInt, if_pos hi]
  · rfl

theorem isPlain_ofInt (hl : minInt64 ≤ i) (hu : i ≤ maxNat64) : (ofInt i).IsPlain := by
  unfold ofInt
  split
  · show i.toNat ≤ maxNat64
    omega
  · exact ⟨hl, by omega⟩

theorem nesting_ofInt (i : Int) : (ofInt i).nesting = 0 := by
  unfold ofInt
  split <;> rfl

end Pack

namespace Payload

theorem intWithin?_uint {n : Nat} {high : Int} (h : (n : Int) ≤ high) : intWithin? 0 high (.uint n) = some (n : Int) := by
  unfold intWithin? intOf?
  rw [Option.filter_some, if_pos (decide_eq_true ⟨Int.natCast_nonneg n, h⟩)]

theorem intOf?_ofInt (i : Int) : intOf? (.ofInt i) = some i := by
  unfold Pack.ofInt
  split
  · exact congrArg some (Int.toNat_of_nonneg ‹_›)
  · rfl

theorem intWithin?_ofInt {i low high : Int} (hl : low ≤ i) (hu : i ≤ high) : intWithin? low high (.ofInt i) = some i := by
  unfold intWithin?
  rw [intOf?_ofInt, Option.filter_some, if_pos (decide_eq_true ⟨hl, hu⟩)]

/-! ## Forms that give a value back -/

variable {α β : Type} [Payload α] [Payload β] {depth : Nat}

/-- A value is packed into the one form, and the other form is written alike, is read back and gives the
value again. -/
structure Restores (depth : Nat) (a : α) (p q : Pack) : Prop where
  packed : pack a = some p
  written : q.write = p.write
  plain : q.IsPlain
  shallow : q.nesting ≤ depth
  unpacked : unpack q = some a

/-- A value that comes back from its bytes, in which arrays and maps nest no deeper than `depth`. -/
def Restored (depth : Nat) (a : α) : Prop := ∃ p q, Restores depth a p q

/-- Whatever follows the bytes of such a value, it is read from them; and nothing is read from bytes that
are cut off. -/
theorem Restored.decode {a : α} (h : Restored Pack.maxDepth a) : ∃ bytes, encode a = .ok bytes ∧
    (∀ rest, (decode (bytes ++ rest) : Except CacheError α) = .ok a) ∧
    ∀ part missing, missing ≠ [] → part ++ missing = bytes →
      (decode part : Except CacheError α) = .error .deserialization := by
  obtain ⟨p, q, h⟩ := h
  refine ⟨p.write, ?_, ?_, ?_⟩
  · unfold encode
    rw [h.packed]
  · intro rest
    unfold Payload.decode
    rw [← h.written, Pack.parse_write h.plain, if_pos h.shallow, Option.bind_some, h.unpacked]
  · intro part missing hm hpart
    unfold Payload.decode
    rw [Pack.parse_of_cut h.plain hm (hpart.trans h.written.symm)]
    rfl

/-- The form that a value is packed into may be the one that is read back. -/
theorem restored_of_form {a : α} (p : Pack) (hpack : pack a = some p) (hplain : p.IsPlain) (hdepth : p.nesting ≤ depth)
    (hunpack : unpack p = some a) : Restored depth a := ⟨p, p, hpack, rfl, hplain, hdepth, hunpack⟩

/-! ## Numbers, truth values and texts -/

/-- A type of numbers without a sign, none of them above `high`. -/
theorem restored_uint {a : α} {n : Nat} {high : Int} {ofInt : Int → α} (hpack : pack a = some (.uint n))
    (hunpack : ∀ p, unpack p = (intWithin? 0 high p).map ofInt) (hhigh : high ≤ maxNat64) (hn : n ≤ high)
    (hof : ofInt n = a) : Restored depth a := by
  refine restored_of_form (.uint n) hpack ?_ (Nat.zero_le _) ?_
  · exact Int.ofNat_le.1 (Int.le_trans hn hhigh)
  · rw [hunpack, intWithin?_uint hn, Option.map_some, hof]

/-- A type of numbers with a sign, all of them between `low` and `high`. -/
theorem restored_sint {a : α} {i low high : Int} {ofInt : Int → α} (hpack : pack a = some (.sint i))
    (hunpack : ∀ p, unpack p = (intWithin? low high p).map ofInt) (hlow : minInt64 ≤ low) (hhigh : high ≤ maxNat64)
    (hl : low ≤ i) (hu : i ≤ high) (hof : ofInt i = a) : Restored depth a := by
  refine ⟨.sint i, .ofInt i, hpack, Pack.write_ofInt i, ?_, ?_, ?_⟩
  · exact Pack.isPlain_ofInt (Int.le_trans hlow hl) (Int.le_trans hu hhigh)
  · rw [Pack.nesting_ofInt]
    exact Nat.zero_le _
  · rw [hunpack, intWithin?_ofInt hl hu, Option.map_some, hof]

theorem restored_uint8 (n : UInt8) : Restored depth n := by
  have hn := n.toNat_lt
  apply restored_uint rfl (fun _ => rfl) (by decide)
  · omega
  · simp

theorem restored_uint32 (n : UInt32) : Restored depth n := by
  have hn := n.toNat_lt
  apply restored_uint rfl (fun _ => rfl) (by decide)
  · simp only [maxNat32]
    omega
  · simp

theorem restored_uint64 (n : UInt64) : Restored depth n := by
  have hn := n.toNat_lt
  apply restored_uint rfl (fun _ => rfl) (by decide)
  · simp only [maxNat64]
    omega
  · simp

theorem restored_int8 (i : Int8) : Restored depth i :=
  restored_sint rfl (fun _ => rfl) (by decide) (by decide) i.le_toInt i.toInt_le i.ofInt_toInt

theorem restored_int64 (i : Int64) : Restored depth i :=
  restored_sint rfl (fun _ => rfl) (by decide) (by decide) i.le_toInt i.toInt_le i.ofInt_toInt

theorem restored_bool (b : Bool) : Restored depth b := restored_of_form (.bool b) rfl trivial (Nat.zero_le _) rfl

theorem restored_double (x : Double) : Restored depth x :=
  restored_of_form (.double x) rfl trivial (Nat.zero_le _) rfl

/-- Whether a text is short enough to be written. -/
def TextFits (s : String) : Prop := (Pack.textBytes s).length ≤ maxNat32

theorem restored_string {s : String} (h : TextFits s) : Restored depth s :=
  restored_of_form (.text s) rfl h (Nat.zero_le _) (textOf?_textBytes s)

theorem restored_json {j : Json} (h : j.IsProper) (hdepth : (packJson j).nesting ≤ depth) : Restored depth j :=
  restored_of_form (packJson j) rfl (isPlain_packJson j h) hdepth (unpackJson_packJson j h)

/-! ## Collections -/

theorem restores_items {as : List α} (h : ∀ a ∈ as, Restored depth a) : ∃ ps qs : List Pack, as.mapM pack = some ps ∧
    qs.length = as.length ∧ ps.length = as.length ∧ Pack.writeItems qs = Pack.writeItems ps ∧ Pack.ArePlain qs ∧
    Pack.nestingOf qs ≤ depth ∧ qs.mapM unpack = some as := by
  induction as with
  | nil => exact ⟨[], [], rfl, rfl, rfl, rfl, trivial, Nat.zero_le _, rfl⟩
  | cons a as ih =>
    obtain ⟨p, q, ha⟩ := h a (List.mem_cons_self ..)
    obtain ⟨ps, qs, hps, hq, hp, hw, hplain, hdepth, hqs⟩ := ih fun a' ha' => h a' (List.mem_cons_of_mem _ ha')
    refine ⟨p :: ps, q :: qs, ?_, ?_, ?_, ?_, ⟨ha.plain, hplain⟩, Nat.max_le.2 ⟨ha.shallow, hdepth⟩, ?_⟩
    · simp [ha.packed, hps]
    · simp [hq]
    · simp [hp]
    · simp [Pack.writeItems, ha.written, hw]
    · simp [ha.unpacked, hqs]

theorem restored_list {as : List α} (hlen : as.length ≤ maxNat32) (h : ∀ a ∈ as, Restored depth a) :
    Restored (depth + 1) as := by
  obtain ⟨ps, qs, hps, hq, hp, hw, hplain, hdepth, hqs⟩ := restores_items h
  refine ⟨.arr ps, .arr qs, ?_, ?_, ⟨hq ▸ hlen, hplain⟩, Nat.succ_le_succ hdepth, hqs⟩
  · show (as.mapM pack).map Pack.arr = _
    simp [hps]
  · simp [Pack.write, hw, hq, hp]

/-- A value that is not given is nothing, and no number is. -/
theorem restored_option (n : Option UInt32) : Restored depth n := by
  cases n with
  | none => exact restored_of_form .nil rfl trivial (Nat.zero_le _) rfl
  | some n =>
    have hn : Restored depth n := restored_uint32 n
    obtain ⟨p, q, hn⟩ := hn
    refine ⟨p, q, hn.packed, hn.written, hn.plain, hn.shallow, ?_⟩
    have hq := hn.unpacked
    cases q with
    | nil => cases hq
    | _ => exact congrArg (Option.map some) hq

theorem unpack_pair {a : α} {b : β} {p q : Pack} (ha : unpack p = some a) (hb : unpack q = some b) :
    unpack (.arr [p, q]) = some (a, b) := by
  simp only [unpack, ha, hb]

theorem restored_pair {a : α} {b : β} (ha : Restored depth a) (hb : Restored depth b) : Restored (depth + 1) (a, b) := by
  obtain ⟨p, q, ha⟩ := ha
  obtain ⟨p', q', hb⟩ := hb
  refine ⟨.arr [p, p'], .arr [q, q'], ?_, ?_, ⟨show 2 ≤ maxNat32 by decide, ha.plain, hb.plain, trivial⟩, ?_, ?_⟩
  · simp only [pack, ha.packed, hb.packed]
  · simp only [Pack.write, Pack.writeItems, ha.written, hb.written, List.length_cons, List.length_nil]
  · simp only [Pack.nesting, Pack.nestingOf, Nat.max_zero]
    exact Nat.succ_le_succ (Nat.max_le.2 ⟨ha.shallow, hb.shallow⟩)
  · exact unpack_pair ha.unpacked hb.unpacked

theorem restores_entries {entries : List (String × α)} (h : ∀ e ∈ entries, TextFits e.1 ∧ Restored depth e.2) :
    ∃ ps qs : List (Pack × Pack),
      (entries.mapM fun e => (pack e.2).map fun p => (Pack.text e.1, p)) = some ps ∧
      qs.length = entries.length ∧ ps.length = entries.length ∧ Pack.writeEntries qs = Pack.writeEntries ps ∧
      Pack.EntriesPlain qs ∧ Pack.nestingOfEntries qs ≤ depth ∧ qs.mapM entryOf? = some entries := by
  induction entries with
  | nil => exact ⟨[], [], rfl, rfl, rfl, rfl, trivial, Nat.zero_le _, rfl⟩
  | cons e entries ih =>
    obtain ⟨k, a⟩ := e
    obtain ⟨hk, p, q, ha⟩ := h (k, a) (List.mem_cons_self ..)
    obtain ⟨ps, qs, hps, hq, hp, hw, hplain, hdepth, hqs⟩ := ih fun e he => h e (List.mem_cons_of_mem _ he)
    refine ⟨(.text k, p) :: ps, (.text k, q) :: qs, ?_, ?_, ?_, ?_, ⟨hk, ha.plain, hplain⟩, ?_, ?_⟩
    · simp [ha.packed, hps]
    · simp [hq]
    · simp [hp]
    · simp [Pack.writeEntries, ha.written, hw]
    · exact Nat.max_le.2 ⟨Nat.max_le.2 ⟨Nat.zero_le _, ha.shallow⟩, hdepth⟩
    · have he : entryOf? (.text k, q) = some (k, a) := by
        unfold entryOf?
        rw [show textOf? (.text k) = some k from textOf?_textBytes k, ha.unpacked]
      simp [he, hqs]

theorem restored_textMap {m : TextMap α} (hlen : m.entries.length ≤ maxNat32) (hsorted : m.entries.Pairwise (·.1 < ·.1))
    (h : ∀ e ∈ m.entries, TextFits e.1 ∧ Restored depth e.2) : Restored (depth + 1) m := by
  obtain ⟨ps, qs, hps, hq, hp, hw, hplain, hdepth, hqs⟩ := restores_entries h
  refine ⟨.map ps, .map qs, ?_, ?_, ⟨hq ▸ hlen, hplain⟩, Nat.succ_le_succ hdepth, ?_⟩
  · show (m.entries.mapM fun e => (pack e.2).map fun p => (Pack.text e.1, p)).map Pack.map = _
    simp [hps]
  · simp [Pack.write, hw, hq, hp]
  · show (qs.mapM entryOf?).map TextMap.ofList = _
    rw [hqs, Option.map_some, TextMap.ofList_eq hsorted]

/-! ## Records -/

@[simp] theorem unpack_uint32 (n : UInt32) : (unpack (.uint n.toNat) : Option UInt32) = some n := by
  have hn := n.toNat_lt
  have hle : (n.toNat : Int) ≤ maxNat32 := by
    simp only [maxNat32]
    omega
  show (intWithin? 0 maxNat32 (.uint n.toNat)).map _ = some n
  simp [intWithin?_uint hle]

@[simp] theorem unpack_text (s : String) : (unpack (.text s) : Option String) = some s := textOf?_textBytes s

theorem isPlain_uint32 (n : UInt32) : (Pack.uint n.toNat).IsPlain := by
  have hn := n.toNat_lt
  show n.toNat ≤ maxNat64
  unfold maxNat64
  omega

theorem restored_profile {p : Profile} (h : TextFits p.name) : Restored (depth + 1) p := by
  obtain ⟨name, visits⟩ := p
  refine restored_of_form (.arr [.text name, .uint visits.toNat]) rfl ?_ (Nat.succ_le_succ (Nat.zero_le _)) ?_
  · exact ⟨show 2 ≤ maxNat32 by decide, h, isPlain_uint32 visits, trivial⟩
  · simp only [unpack, pairOf?, ↓unpack_text, ↓unpack_uint32]

/-- Whether the texts of an outline are short enough to be written. -/
def OutlineFits : Outline → Prop
  | .pair _ text => TextFits text
  | _ => True

theorem restored_outline {o : Outline} (h : OutlineFits o) : Restored (depth + 2) o := by
  -- a variant without data is its name, and every other is a map from its name to its data
  cases o with
  | unit => exact restored_of_form (.text "Unit") rfl (show 4 ≤ maxNat32 by decide) (Nat.zero_le _) (by decide)
  | new n =>
    refine restored_of_form (.map [(.text "New", .uint n.toNat)]) rfl ?_ ?_ ?_
    · exact ⟨show 1 ≤ maxNat32 by decide, show 3 ≤ maxNat32 by decide, isPlain_uint32 n, trivial⟩
    · exact Nat.succ_le_succ (Nat.zero_le _)
    · show (unpack (.uint n.toNat) : Option UInt32).map Outline.new = _
      rw [unpack_uint32]
      rfl
  | pair n text =>
    refine restored_of_form (.map [(.text "Pair", .arr [.uint n.toNat, .text text])]) rfl ?_ ?_ ?_
    · exact ⟨show 1 ≤ maxNat32 by decide, show 4 ≤ maxNat32 by decide,
        ⟨show 2 ≤ maxNat32 by decide, isPlain_uint32 n, h, trivial⟩, trivial⟩
    · exact Nat.succ_le_succ (Nat.succ_le_succ (Nat.zero_le _))
    · show (unpack (.arr [.uint n.toNat, .text text]) : Option (UInt32 × String)).map _ = _
      rw [unpack_pair (unpack_uint32 n) (unpack_text text)]
      rfl
  | record a b =>
    refine restored_of_form (.map [(.text "Rec", .arr [.uint a.toNat, b.elim .nil .bool])]) rfl ?_ ?_ ?_
    · refine ⟨show 1 ≤ maxNat32 by decide, show 3 ≤ maxNat32 by decide,
        ⟨show 2 ≤ maxNat32 by decide, isPlain_uint32 a, ?_, trivial⟩, trivial⟩
      cases b <;> trivial
    · cases b <;> exact Nat.succ_le_succ (Nat.succ_le_succ (Nat.zero_le _))
    · show outlineOf? 3 (.arr [.uint a.toNat, b.elim .nil .bool]) = _
      simp only [outlineOf?, pairOf?, unpack_uint32]
      cases b <;> rfl

end Payload

end TwoTier
