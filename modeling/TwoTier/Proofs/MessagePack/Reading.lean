/-
Reading back what was written. Each marker that the writer picks announces to the reader what the
writer meant, and so a value is read back from the front of any bytes as it was written, unless it
nests deeper than the reader goes.
-/
import Mathlib.Tactic
import TwoTier.MessagePack.Reader

namespace TwoTier.Pack

variable {fuel depth n k : Nat} {rest : Bytes}

/-! ## Numbers as bytes -/

@[simp] theorem length_bigEndian (k n : Nat) : (bigEndian k n).length = k := by
  induction k with
  | zero => rfl
  | succ k ih => rw [bigEndian, List.length_cons, ih]

theorem foldl_bigEndian (k n a : Nat) :
    (bigEndian k n).foldl (fun n b => n * 256 + b.toNat) a = a * pow2 (8 * k) + n % pow2 (8 * k) := by
  induction k generalizing a with
  | zero => simp [bigEndian, pow2, Nat.mod_one]
  | succ k ih =>
    have hp : pow2 (8 * (k + 1)) = 256 * pow2 (8 * k) := by
      rw [show 8 * (k + 1) = 8 + 8 * k by omega]
      exact Nat.pow_add 2 8 (8 * k)
    rw [bigEndian, List.foldl_cons, ih, hp, Nat.mul_comm 256, Nat.mod_mul]
    have hb : (n / pow2 (8 * k) % 256).toUInt8.toNat = n / pow2 (8 * k) % 256 := by
      rw [Nat.toUInt8_eq, UInt8.toNat_ofNat']
      exact Nat.mod_mod ..
    rw [hb]
    ring

/-- Only the lowest bytes are written. -/
theorem ofBigEndian_bigEndian (k n : Nat) : ofBigEndian (bigEndian k n) = n % pow2 (8 * k) := by
  rw [ofBigEndian, foldl_bigEndian, Nat.zero_mul, Nat.zero_add]

theorem takeBytes_append (data rest : Bytes) : takeBytes data.length (data ++ rest) = some (data, rest) := by
  rw [takeBytes, if_pos (by simp), List.take_left, List.drop_left]

theorem takeNat_bigEndian_mod (k n : Nat) (rest : Bytes) :
    takeNat k (bigEndian k n ++ rest) = some (n % pow2 (8 * k), rest) := by
  have ht := takeBytes_append (bigEndian k n) rest
  rw [length_bigEndian] at ht
  rw [takeNat, ht, ← ofBigEndian_bigEndian]
  rfl

theorem takeNat_bigEndian (h : n < pow2 (8 * k)) : takeNat k (bigEndian k n ++ rest) = some (n, rest) := by
  rw [takeNat_bigEndian_mod, Nat.mod_eq_of_lt h]

theorem takeData_append (f : Bytes → Pack) (data rest : Bytes) :
    takeData f data.length (data ++ rest) = some (f data, rest) := by
  rw [takeData, takeBytes_append]
  rfl

/-! ## Markers -/

theorem toNat_toUInt8 (h : n < 256) : n.toUInt8.toNat = n := by
  rw [Nat.toUInt8_eq, UInt8.toNat_ofNat', Nat.mod_eq_of_lt h]

theorem shapeOf_small (h : n < 128) : shapeOf n.toUInt8 = .value (.uint n) := by
  have hn := toNat_toUInt8 (show n < 256 by omega)
  unfold shapeOf
  simp only [hn]
  rw [if_pos h]

theorem shapeOf_map (h : n < 16) : shapeOf (0x80 + n).toUInt8 = .map n := by
  have hn := toNat_toUInt8 (show 0x80 + n < 256 by omega)
  unfold shapeOf
  simp only [hn]
  rw [if_neg (by omega), if_pos (by omega), Nat.add_sub_cancel_left]

theorem shapeOf_arr (h : n < 16) : shapeOf (0x90 + n).toUInt8 = .arr n := by
  have hn := toNat_toUInt8 (show 0x90 + n < 256 by omega)
  unfold shapeOf
  simp only [hn]
  rw [if_neg (by omega), if_neg (by omega), if_pos (by omega), Nat.add_sub_cancel_left]

theorem shapeOf_str (h : n < 32) : shapeOf (0xa0 + n).toUInt8 = .str n := by
  have hn := toNat_toUInt8 (show 0xa0 + n < 256 by omega)
  unfold shapeOf
  simp only [hn]
  rw [if_neg (by omega), if_neg (by omega), if_neg (by omega), if_pos (by omega), Nat.add_sub_cancel_left]

theorem shapeOf_negative (h : 0xe0 ≤ n) (h' : n < 256) : shapeOf n.toUInt8 = .value (.sint ((n : Int) - 256)) := by
  have hn := toNat_toUInt8 h'
  unfold shapeOf
  simp only [hn]
  rw [if_neg (by omega), if_neg (by omega), if_neg (by omega), if_neg (by omega), if_pos h]

/-! ## What stands behind a marker -/

/-- A marker that is all of a value. -/
theorem read_bare {p : Pack} {marker : UInt8} (h : shapeOf marker = .value p) :
    read (fuel + 1) depth (marker :: rest) = some (p, rest) := by
  rw [read, h]

theorem read_writeNat (h : n ≤ maxNat64) : read (fuel + 1) depth (writeNat n ++ rest) = some (.uint n, rest) := by
  unfold maxNat64 at h
  unfold writeNat
  split_ifs with h₁ h₂ h₃ h₄
  · exact read_bare (shapeOf_small h₁)
  · rw [List.cons_append, read, show shapeOf 0xcc = .uint 1 from rfl]
    simp only [takeNat_bigEndian (k := 1) (show n < pow2 8 from h₂), Option.map_some]
  · rw [List.cons_append, read, show shapeOf 0xcd = .uint 2 from rfl]
    simp only [takeNat_bigEndian (k := 2) (show n < pow2 16 from h₃), Option.map_some]
  · rw [List.cons_append, read, show shapeOf 0xce = .uint 4 from rfl]
    simp only [takeNat_bigEndian (k := 4) (show n < pow2 32 from h₄), Option.map_some]
  · rw [List.cons_append, read, show shapeOf 0xcf = .uint 8 from rfl]
    simp only [takeNat_bigEndian (k := 8) (show n < pow2 64 from Nat.lt_succ_of_le h), Option.map_some]

/-- A negative number of `k` bytes in two's complement. -/
theorem twosComplement_mod {i : Int} {k : Nat} (hk : pow2 (8 * k) ∣ 18446744073709551616) (hi : i < 0)
    (h : -(pow2 (8 * k) : Int) ≤ 2 * i) :
    twosComplement k ((i + 18446744073709551616).toNat % pow2 (8 * k)) = i := by
  have hp : 0 < pow2 (8 * k) := Nat.two_pow_pos _
  have hmod : (i + 18446744073709551616).toNat % pow2 (8 * k) = (i + pow2 (8 * k)).toNat := by
    obtain ⟨q, hq⟩ := hk
    obtain ⟨q, rfl⟩ : ∃ q', q = q' + 1 := ⟨q - 1, by cases q <;> omega⟩
    rw [Nat.mul_succ] at hq
    have hsplit : (i + 18446744073709551616).toNat = (i + pow2 (8 * k)).toNat + pow2 (8 * k) * q := by omega
    rw [hsplit, Nat.add_mul_mod_self_left, Nat.mod_eq_of_lt (by omega)]
  rw [hmod]
  unfold twosComplement
  split_ifs <;> omega

theorem read_writeInt {i : Int} (hi : i < 0) (h : minInt64 ≤ i) :
    read (fuel + 1) depth (writeInt i ++ rest) = some (.sint i, rest) := by
  unfold minInt64 at h
  unfold writeInt
  rw [if_neg (by omega)]
  dsimp only
  -- one form for each width, and the smallest numbers in the marker itself
  split_ifs with h₁ h₂ h₃ h₄
  · have hb : bigEndian 1 (i + 18446744073709551616).toNat = [(i + 256).toNat.toUInt8] := by
      have hn : (i + 18446744073709551616).toNat / pow2 0 % 256 = (i + 256).toNat := by
        rw [show pow2 0 = 1 from rfl, Nat.div_one]
        omega
      rw [bigEndian, bigEndian, hn]
    rw [hb, List.cons_append, read, shapeOf_negative (by omega) (by omega)]
    dsimp only
    rw [Int.toNat_of_nonneg (by omega), Int.add_sub_cancel]
    rfl
  · rw [List.cons_append, read, show shapeOf 0xd0 = .sint 1 from rfl]
    simp only [takeNat_bigEndian_mod, Option.map_some]
    rw [twosComplement_mod (by decide) hi (by change -(256 : Int) ≤ _; omega)]
  · rw [List.cons_append, read, show shapeOf 0xd1 = .sint 2 from rfl]
    simp only [takeNat_bigEndian_mod, Option.map_some]
    rw [twosComplement_mod (by decide) hi (by change -(65536 : Int) ≤ _; omega)]
  · rw [List.cons_append, read, show shapeOf 0xd2 = .sint 4 from rfl]
    simp only [takeNat_bigEndian_mod, Option.map_some]
    rw [twosComplement_mod (by decide) hi (by change -(4294967296 : Int) ≤ _; omega)]
  · rw [List.cons_append, read, show shapeOf 0xd3 = .sint 8 from rfl]
    simp only [takeNat_bigEndian_mod, Option.map_some]
    rw [twosComplement_mod (by decide) hi (by change -(18446744073709551616 : Int) ≤ _; omega)]

theorem read_double (x : Double) : read (fuel + 1) depth (write (.double x) ++ rest) = some (.double x, rest) := by
  rw [write, List.cons_append, read, show shapeOf 0xcb = .double from rfl]
  simp only [takeNat_bigEndian (k := 8) (show x.bits.toNat < pow2 64 from x.bits.toNat_lt), Option.map_some]
  rw [Nat.toUInt64_eq, UInt64.ofNat_toNat]

theorem read_textMarker (h : n ≤ maxNat32) :
    read (fuel + 1) depth (writeTextMarker n ++ rest) = takeData .str n rest := by
  unfold maxNat32 at h
  unfold writeTextMarker
  split_ifs with h₁ h₂ h₃
  · rw [List.cons_append, read, shapeOf_str h₁]
    rfl
  · rw [List.cons_append, read, show shapeOf 0xd9 = .strLength 1 from rfl]
    simp only [takeNat_bigEndian (k := 1) (show n < pow2 8 from h₂)]
  · rw [List.cons_append, read, show shapeOf 0xda = .strLength 2 from rfl]
    simp only [takeNat_bigEndian (k := 2) (show n < pow2 16 from h₃)]
  · rw [List.cons_append, read, show shapeOf 0xdb = .strLength 4 from rfl]
    simp only [takeNat_bigEndian (k := 4) (show n < pow2 32 from Nat.lt_succ_of_le h)]

theorem read_arrayMarker (h : n ≤ maxNat32) :
    read (fuel + 1) depth (writeArrayMarker n ++ rest) = readArray fuel depth n rest := by
  unfold maxNat32 at h
  unfold writeArrayMarker
  split_ifs with h₁ h₂
  · rw [List.cons_append, read, shapeOf_arr h₁]
    rfl
  · rw [List.cons_append, read, show shapeOf 0xdc = .arrLength 2 from rfl]
    simp only [takeNat_bigEndian (k := 2) (show n < pow2 16 from h₂)]
  · rw [List.cons_append, read, show shapeOf 0xdd = .arrLength 4 from rfl]
    simp only [takeNat_bigEndian (k := 4) (show n < pow2 32 from Nat.lt_succ_of_le h)]

theorem read_mapMarker (h : n ≤ maxNat32) :
    read (fuel + 1) depth (writeMapMarker n ++ rest) = readMap fuel depth n rest := by
  unfold maxNat32 at h
  unfold writeMapMarker
  split_ifs with h₁ h₂
  · rw [List.cons_append, read, shapeOf_map h₁]
    rfl
  · rw [List.cons_append, read, show shapeOf 0xde = .mapLength 2 from rfl]
    simp only [takeNat_bigEndian (k := 2) (show n < pow2 16 from h₂)]
  · rw [List.cons_append, read, show shapeOf 0xdf = .mapLength 4 from rfl]
    simp only [takeNat_bigEndian (k := 4) (show n < pow2 32 from Nat.lt_succ_of_le h)]

/-! ## Values that are read as they were written -/

mutual

/-- Whether a value is one the writer has markers for and the reader tells from others: numbers and
lengths fit their markers, negative numbers are the signed ones, and there is nothing but what JSON
needs. -/
def IsPlain : Pack → Prop
  | .nil => True
  | .bool _ => True
  | .uint n => n ≤ maxNat64
  | .sint i => minInt64 ≤ i ∧ i < 0
  | .double _ => True
  | .str data => data.length ≤ maxNat32
  | .arr items => items.length ≤ maxNat32 ∧ ArePlain items
  | .map entries => entries.length ≤ maxNat32 ∧ EntriesPlain entries
  | _ => False

def ArePlain : List Pack → Prop
  | [] => True
  | p :: rest => IsPlain p ∧ ArePlain rest

def EntriesPlain : List (Pack × Pack) → Prop
  | [] => True
  | (k, v) :: rest => IsPlain k ∧ IsPlain v ∧ EntriesPlain rest

end

mutual

/-- How deep arrays and maps nest. -/
def nesting : Pack → Nat
  | .arr items => nestingOf items + 1
  | .map entries => nestingOfEntries entries + 1
  | _ => 0

def nestingOf : List Pack → Nat
  | [] => 0
  | p :: rest => max (nesting p) (nestingOf rest)

def nestingOfEntries : List (Pack × Pack) → Nat
  | [] => 0
  | (k, v) :: rest => max (max (nesting k) (nesting v)) (nestingOfEntries rest)

end

mutual

/-- The fuel that reading a value takes. -/
def cost : Pack → Nat
  | .arr items => costOf items + 2
  | .map entries => costOfEntries entries + 2
  | _ => 1

def costOf : List Pack → Nat
  | [] => 1
  | p :: rest => max (cost p) (costOf rest) + 1

def costOfEntries : List (Pack × Pack) → Nat
  | [] => 1
  | (k, v) :: rest => max (max (cost k) (cost v)) (costOfEntries rest) + 1

end

theorem read_zero (depth : Nat) (bytes : Bytes) : read 0 depth bytes = none := by rw [read]

theorem read_nil (fuel depth : Nat) : read fuel depth [] = none := by
  cases fuel with
  | zero => exact read_zero ..
  | succ fuel => rw [read]; exact nofun

theorem readItems_zero (fuel depth : Nat) (bytes : Bytes) : readItems (fuel + 1) depth 0 bytes = some ([], bytes) := by
  rw [readItems]; exact nofun

theorem readEntries_zero (fuel depth : Nat) (bytes : Bytes) :
    readEntries (fuel + 1) depth 0 bytes = some ([], bytes) := by
  rw [readEntries]; exact nofun

/-- Values that hold no others. -/
theorem read_atom {p : Pack} (hc : cost p = 1) (hn : nesting p = 0)
    (h : ∀ fuel, read (fuel + 1) depth (write p ++ rest) = some (p, rest)) :
    read fuel depth (write p ++ rest) = if cost p ≤ fuel ∧ nesting p ≤ depth then some (p, rest) else none := by
  rw [hc, hn]
  cases fuel with
  | zero => rw [read_zero, if_neg (by omega)]
  | succ fuel => rw [h, if_pos (by omega)]

theorem readArray_of_items {items : List Pack} {bytes : Bytes}
    (h : ∀ fuel depth, readItems fuel depth items.length bytes =
      if costOf items ≤ fuel ∧ nestingOf items ≤ depth then some (items, rest) else none) :
    readArray fuel depth items.length bytes =
      if costOf items + 1 ≤ fuel ∧ nestingOf items + 1 ≤ depth then some (.arr items, rest) else none := by
  unfold readArray
  split
  · rw [if_neg (by omega)]
  · rw [if_neg (by omega)]
  · rw [h]
    split_ifs <;> first | rfl | omega

theorem readMap_of_entries {entries : List (Pack × Pack)} {bytes : Bytes}
    (h : ∀ fuel depth, readEntries fuel depth entries.length bytes =
      if costOfEntries entries ≤ fuel ∧ nestingOfEntries entries ≤ depth then some (entries, rest) else none) :
    readMap fuel depth entries.length bytes =
      if costOfEntries entries + 1 ≤ fuel ∧ nestingOfEntries entries + 1 ≤ depth then some (.map entries, rest)
      else none := by
  unfold readMap
  split
  · rw [if_neg (by omega)]
  · rw [if_neg (by omega)]
  · rw [h]
    split_ifs <;> first | rfl | omega

mutual

/-- A value is read back unless it nests too deep or the fuel runs out. -/
theorem read_write : (p : Pack) → IsPlain p → ∀ (fuel depth : Nat) (rest : Bytes),
    read fuel depth (write p ++ rest) = if cost p ≤ fuel ∧ nesting p ≤ depth then some (p, rest) else none
  | .nil, _, _, _, _ => read_atom rfl rfl fun _ => read_bare rfl
  | .bool true, _, _, _, _ => read_atom rfl rfl fun _ => read_bare rfl
  | .bool false, _, _, _, _ => read_atom rfl rfl fun _ => read_bare rfl
  | .uint n, h, _, _, _ => read_atom rfl rfl fun _ => by rw [write, read_writeNat h]
  | .sint i, h, _, _, _ => read_atom rfl rfl fun _ => by rw [write, read_writeInt h.2 h.1]
  | .double x, _, _, _, _ => read_atom rfl rfl fun _ => read_double x
  | .str data, h, _, _, _ => read_atom rfl rfl fun _ => by
      rw [write, List.append_assoc, read_textMarker h, takeData_append]
  | .arr items, h, fuel, depth, rest => by
      rw [cost, nesting, write, List.append_assoc]
      cases fuel with
      | zero => rw [read_zero, if_neg (by omega)]
      | succ fuel =>
        rw [read_arrayMarker h.1, readArray_of_items fun fuel depth => readItems_writeItems items h.2 fuel depth rest]
        split_ifs <;> first | rfl | omega
  | .map entries, h, fuel, depth, rest => by
      rw [cost, nesting, write, List.append_assoc]
      cases fuel with
      | zero => rw [read_zero, if_neg (by omega)]
      | succ fuel =>
        rw [read_mapMarker h.1, readMap_of_entries fun fuel depth => readEntries_writeEntries entries h.2 fuel depth rest]
        split_ifs <;> first | rfl | omega

theorem readItems_writeItems : (items : List Pack) → ArePlain items → ∀ (fuel depth : Nat) (rest : Bytes),
    readItems fuel depth items.length (writeItems items ++ rest) =
      if costOf items ≤ fuel ∧ nestingOf items ≤ depth then some (items, rest) else none
  | [], _, fuel, depth, rest => by
      rw [costOf, nestingOf]
      cases fuel with
      | zero => rw [readItems, if_neg (by omega)]
      | succ fuel => rw [List.length_nil, readItems_zero, if_pos (by omega)]; rfl
  | p :: items, h, fuel, depth, rest => by
      rw [costOf, nestingOf]
      cases fuel with
      | zero => rw [readItems, if_neg (by omega)]
      | succ fuel =>
        have hp := read_write p h.1 fuel depth (writeItems items ++ rest)
        have hitems := readItems_writeItems items h.2 fuel depth rest
        rw [List.length_cons, readItems, writeItems, List.append_assoc, hp]
        by_cases hc : cost p ≤ fuel ∧ nesting p ≤ depth
        · rw [if_pos hc]
          dsimp only
          rw [hitems]
          split_ifs <;> first | rfl | omega
        · rw [if_neg hc, if_neg (by omega)]

theorem readEntries_writeEntries : (entries : List (Pack × Pack)) → EntriesPlain entries →
    ∀ (fuel depth : Nat) (rest : Bytes), readEntries fuel depth entries.length (writeEntries entries ++ rest) =
      if costOfEntries entries ≤ fuel ∧ nestingOfEntries entries ≤ depth then some (entries, rest) else none
  | [], _, fuel, depth, rest => by
      rw [costOfEntries, nestingOfEntries]
      cases fuel with
      | zero => rw [readEntries, if_neg (by omega)]
      | succ fuel => rw [List.length_nil, readEntries_zero, if_pos (by omega)]; rfl
  | (k, v) :: entries, h, fuel, depth, rest => by
      rw [costOfEntries, nestingOfEntries]
      cases fuel with
      | zero => rw [readEntries, if_neg (by omega)]
      | succ fuel =>
        -- key, value and the other entries are each read with the fuel of the whole less one
        have hk := read_write k h.1 fuel depth (write v ++ (writeEntries entries ++ rest))
        have hv := read_write v h.2.1 fuel depth (writeEntries entries ++ rest)
        have hentries := readEntries_writeEntries entries h.2.2 fuel depth rest
        rw [List.length_cons, readEntries, writeEntries, List.append_assoc, List.append_assoc, hk]
        by_cases hck : cost k ≤ fuel ∧ nesting k ≤ depth
        · rw [if_pos hck]
          dsimp only
          rw [hv]
          by_cases hcv : cost v ≤ fuel ∧ nesting v ≤ depth
          · rw [if_pos hcv]
            dsimp only
            rw [hentries]
            split_ifs <;> first | rfl | omega
          · rw [if_neg hcv, if_neg (by omega)]
        · rw [if_neg hck, if_neg (by omega)]

end

/-! ## Whole payloads -/

theorem length_write_pos (p : Pack) (h : p.IsPlain) : 0 < (write p).length := by
  have hr := read_write p h (cost p) (nesting p) []
  rw [if_pos ⟨Nat.le_refl _, Nat.le_refl _⟩, List.append_nil] at hr
  cases hw : write p with
  | nil => rw [hw, read_nil] at hr; cases hr
  | cons => exact Nat.succ_pos _

theorem cost_le_of_atom {p : Pack} (hc : cost p = 1) (h : p.IsPlain) : cost p ≤ 3 * (write p).length := by
  have := length_write_pos p h
  omega

mutual

theorem cost_le : (p : Pack) → IsPlain p → cost p ≤ 3 * (write p).length
  | .arr items, h => by
      have := costOf_le items h.2
      have hm : 0 < (writeArrayMarker items.length).length := by unfold writeArrayMarker; split_ifs <;> simp
      rw [cost, write, List.length_append]
      omega
  | .map entries, h => by
      have := costOfEntries_le entries h.2
      have hm : 0 < (writeMapMarker entries.length).length := by unfold writeMapMarker; split_ifs <;> simp
      rw [cost, write, List.length_append]
      omega
  | .nil, h => cost_le_of_atom rfl h
  | .bool b, h => cost_le_of_atom rfl h
  | .uint n, h => cost_le_of_atom rfl h
  | .sint i, h => cost_le_of_atom rfl h
  | .double x, h => cost_le_of_atom rfl h
  | .str data, h => cost_le_of_atom rfl h

theorem costOf_le : (items : List Pack) → ArePlain items → costOf items ≤ 3 * (writeItems items).length + 1
  | [], _ => Nat.le_refl _
  | p :: items, h => by
      have := cost_le p h.1
      have := length_write_pos p h.1
      have := costOf_le items h.2
      rw [costOf, writeItems, List.length_append]
      omega

theorem costOfEntries_le : (entries : List (Pack × Pack)) → EntriesPlain entries →
    costOfEntries entries ≤ 3 * (writeEntries entries).length + 1
  | [], _ => Nat.le_refl _
  | (k, v) :: entries, h => by
      have := cost_le k h.1
      have := cost_le v h.2.1
      have := length_write_pos k h.1
      have := length_write_pos v h.2.1
      have := costOfEntries_le entries h.2.2
      rw [costOfEntries, writeEntries, List.length_append, List.length_append]
      omega

end

/-- A payload is read back, whatever follows it, unless it nests too deep. -/
theorem parse_write {p : Pack} (h : p.IsPlain) (rest : Bytes) :
    parse (write p ++ rest) = if nesting p ≤ maxDepth then some p else none := by
  have hc := cost_le p h
  unfold parse
  rw [read_write p h, List.length_append]
  split_ifs <;> first | rfl | omega

end TwoTier.Pack
