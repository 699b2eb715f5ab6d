/-
Payloads that are cut off. A reader takes from the front of the bytes what its markers announce and no
more, so what it has read once it reads again whatever follows, and with any fuel to spare. Bytes that end
before the value does are therefore no value: read with the missing ones behind them they would give a value
and something left over.
-/
import TwoTier.Proofs.MessagePack.Reading

namespace TwoTier.Pack

variable {α β : Type} {fuel fuel' depth n k : Nat} {bytes rest : Bytes}

/-! ## Pieces -/

/-- Whatever the one reader takes from the front of some bytes the other takes too when more follows. -/
def Carries (f f' : Bytes → Option (α × Bytes)) : Prop :=
  ∀ ⦃bytes : Bytes⦄ ⦃a : α⦄ ⦃rest : Bytes⦄, f bytes = some (a, rest) →
    ∀ more, f' (bytes ++ more) = some (a, rest ++ more)

namespace Carries

variable {f f' : Bytes → Option (α × Bytes)} {g g' : α → Bytes → Option (β × Bytes)}

/-- Both go on alike behind what they have taken. -/
theorem andThen (h : Carries f f') (hg : ∀ a, Carries (g a) (g' a)) :
    Carries (fun bytes => (f bytes).bind fun x => g x.1 x.2) (fun bytes => (f' bytes).bind fun x => g' x.1 x.2) := by
  intro bytes b rest hb more
  obtain ⟨⟨a, rest'⟩, hf, hb⟩ := Option.bind_eq_some_iff.1 hb
  show (f' (bytes ++ more)).bind _ = _
  rw [h hf more]
  exact hg a hb more

theorem map (h : Carries f f') (p : α → β) :
    Carries (fun bytes => (f bytes).map fun x => (p x.1, x.2)) (fun bytes => (f' bytes).map fun x => (p x.1, x.2)) := by
  intro bytes b rest hb more
  obtain ⟨⟨a, rest'⟩, hf, hb⟩ := Option.map_eq_some_iff.1 hb
  cases hb
  show (f' (bytes ++ more)).map _ = _
  rw [h hf more]
  rfl

/-- To take nothing is to leave all. -/
theorem done (a : α) : Carries (fun bytes => some (a, bytes)) fun bytes => some (a, bytes) := by
  intro bytes b rest hb more
  cases hb
  rfl

end Carries

theorem carries_takeBytes (n : Nat) : Carries (takeBytes n) (takeBytes n) := by
  intro bytes data rest h more
  unfold takeBytes at h ⊢
  split at h
  · rename_i hn
    cases h
    rw [if_pos (by rw [List.length_append]; omega), List.take_append_of_le_length hn, List.drop_append_of_le_length hn]
  · cases h

theorem carries_takeNat (k : Nat) : Carries (takeNat k) (takeNat k) := (carries_takeBytes k).map ofBigEndian

theorem carries_takeData (f : Bytes → Pack) (n : Nat) : Carries (takeData f n) (takeData f n) :=
  (carries_takeBytes n).map f

theorem carries_takeExt (n : Nat) : Carries (takeExt n) (takeExt n) := by
  intro bytes p rest h more
  cases bytes with
  | nil => cases h
  | cons tag bytes => exact carries_takeData (.ext tag) n h more

/-! ## Values -/

/-- What a reader takes behind a marker. -/
def behind (fuel depth : Nat) : Shape → Bytes → Option (Pack × Bytes)
  | .value p => fun bytes => some (p, bytes)
  | .uint k => fun bytes => (takeNat k bytes).map fun x => (.uint x.1, x.2)
  | .sint k => fun bytes => (takeNat k bytes).map fun x => (.sint (twosComplement k x.1), x.2)
  | .single => fun bytes => (takeNat 4 bytes).map fun x => (.single x.1.toUInt32, x.2)
  | .double => fun bytes => (takeNat 8 bytes).map fun x => (.double ⟨x.1.toUInt64⟩, x.2)
  | .str n => takeData .str n
  | .strLength k => fun bytes => (takeNat k bytes).bind fun x => takeData .str x.1 x.2
  | .binLength k => fun bytes => (takeNat k bytes).bind fun x => takeData .bin x.1 x.2
  | .ext n => takeExt n
  | .extLength k => fun bytes => (takeNat k bytes).bind fun x => takeExt x.1 x.2
  | .arr n => readArray fuel depth n
  | .arrLength k => fun bytes => (takeNat k bytes).bind fun x => readArray fuel depth x.1 x.2
  | .map n => readMap fuel depth n
  | .mapLength k => fun bytes => (takeNat k bytes).bind fun x => readMap fuel depth x.1 x.2
  | .unused => fun _ => none

theorem read_cons (fuel depth : Nat) (marker : UInt8) (bytes : Bytes) :
    read (fuel + 1) depth (marker :: bytes) = behind fuel depth (shapeOf marker) bytes := by
  rw [read]
  cases shapeOf marker with
  | strLength k | binLength k | extLength k | arrLength k | mapLength k =>
    dsimp only [behind]
    cases takeNat k bytes <;> rfl
  | _ => rfl

theorem readItems_succ (fuel depth n : Nat) (bytes : Bytes) : readItems (fuel + 1) depth (n + 1) bytes =
    (read fuel depth bytes).bind fun x => (readItems fuel depth n x.2).map fun y => (x.1 :: y.1, y.2) := by
  rw [readItems]
  cases read fuel depth bytes <;> rfl

theorem readEntries_succ (fuel depth n : Nat) (bytes : Bytes) : readEntries (fuel + 1) depth (n + 1) bytes =
    (read fuel depth bytes).bind fun x => (read fuel depth x.2).bind fun y =>
      (readEntries fuel depth n y.2).map fun z => ((x.1, y.1) :: z.1, z.2) := by
  rw [readEntries]
  cases read fuel depth bytes with
  | none => rfl
  | some x =>
    obtain ⟨k, bytes⟩ := x
    dsimp only [Option.bind_some]
    cases read fuel depth bytes <;> rfl

theorem readArray_succ (fuel depth n : Nat) (bytes : Bytes) : readArray (fuel + 1) (depth + 1) n bytes =
    (readItems fuel depth n bytes).map fun x => (.arr x.1, x.2) := by rw [readArray]

theorem readMap_succ (fuel depth n : Nat) (bytes : Bytes) : readMap (fuel + 1) (depth + 1) n bytes =
    (readEntries fuel depth n bytes).map fun x => (.map x.1, x.2) := by rw [readMap]

theorem carries_behind (ha : ∀ n, Carries (readArray fuel depth n) (readArray fuel' depth n))
    (hm : ∀ n, Carries (readMap fuel depth n) (readMap fuel' depth n)) (shape : Shape) :
    Carries (behind fuel depth shape) (behind fuel' depth shape) := by
  cases shape with
  | value p => exact .done p
  | uint k => exact (carries_takeNat k).map uint
  | sint k => exact (carries_takeNat k).map fun n => sint (twosComplement k n)
  | single => exact (carries_takeNat 4).map fun n => single n.toUInt32
  | double => exact (carries_takeNat 8).map fun n => double ⟨n.toUInt64⟩
  | str n => exact carries_takeData .str n
  | strLength k => exact (carries_takeNat k).andThen fun n => carries_takeData .str n
  | binLength k => exact (carries_takeNat k).andThen fun n => carries_takeData .bin n
  | ext n => exact carries_takeExt n
  | extLength k => exact (carries_takeNat k).andThen fun n => carries_takeExt n
  | arr n => exact ha n
  | arrLength k => exact (carries_takeNat k).andThen ha
  | map n => exact hm n
  | mapLength k => exact (carries_takeNat k).andThen hm
  | unused => exact nofun

mutual

/-- A value that was read is read again when more follows and there is fuel to spare. -/
theorem carries_read : (fuel : Nat) → ∀ {fuel' : Nat}, fuel ≤ fuel' → ∀ depth, Carries (read fuel depth) (read fuel' depth)
  | 0, _, _, depth => by
      intro bytes p rest h more
      rw [read_zero] at h
      cases h
  | fuel + 1, fuel' + 1, hle, depth => by
      intro bytes p rest h more
      cases bytes with
      | nil => rw [read_nil] at h; cases h
      | cons marker bytes =>
        rw [read_cons] at h
        rw [List.cons_append, read_cons]
        have hle := Nat.le_of_succ_le_succ hle
        exact carries_behind (carries_readArray fuel hle depth) (carries_readMap fuel hle depth) _ h more

theorem carries_readArray : (fuel : Nat) → ∀ {fuel' : Nat}, fuel ≤ fuel' → ∀ depth n,
    Carries (readArray fuel depth n) (readArray fuel' depth n)
  | 0, _, _, depth, n => by
      intro bytes p rest h more
      rw [readArray] at h
      cases h
  | fuel + 1, fuel' + 1, hle, 0, n => by
      intro bytes p rest h more
      rw [readArray] at h
      · cases h
      · exact nofun
  | fuel + 1, fuel' + 1, hle, depth + 1, n => by
      intro bytes p rest h more
      rw [readArray_succ] at h ⊢
      exact (carries_readItems fuel (Nat.le_of_succ_le_succ hle) depth n).map _ h more

theorem carries_readMap : (fuel : Nat) → ∀ {fuel' : Nat}, fuel ≤ fuel' → ∀ depth n,
    Carries (readMap fuel depth n) (readMap fuel' depth n)
  | 0, _, _, depth, n => by
      intro bytes p rest h more
      rw [readMap] at h
      cases h
  | fuel + 1, fuel' + 1, hle, 0, n => by
      intro bytes p rest h more
      rw [readMap] at h
      · cases h
      · exact nofun
  | fuel + 1, fuel' + 1, hle, depth + 1, n => by
      intro bytes p rest h more
      rw [readMap_succ] at h ⊢
      exact (carries_readEntries fuel (Nat.le_of_succ_le_succ hle) depth n).map _ h more

theorem carries_readItems : (fuel : Nat) → ∀ {fuel' : Nat}, fuel ≤ fuel' → ∀ depth n,
    Carries (readItems fuel depth n) (readItems fuel' depth n)
  | 0, _, _, depth, n => by
      intro bytes p rest h more
      rw [readItems] at h
      cases h
  | fuel + 1, fuel' + 1, hle, depth, 0 => by
      intro bytes items rest h more
      rw [readItems_zero] at h ⊢
      exact Carries.done [] h more
  | fuel + 1, fuel' + 1, hle, depth, n + 1 => by
      intro bytes items rest h more
      have hle := Nat.le_of_succ_le_succ hle
      rw [readItems_succ] at h ⊢
      exact (carries_read fuel hle depth).andThen (fun p => (carries_readItems fuel hle depth n).map (p :: ·)) h more

theorem carries_readEntries : (fuel : Nat) → ∀ {fuel' : Nat}, fuel ≤ fuel' → ∀ depth n,
    Carries (readEntries fuel depth n) (readEntries fuel' depth n)
  | 0, _, _, depth, n => by
      intro bytes p rest h more
      rw [readEntries] at h
      cases h
  | fuel + 1, fuel' + 1, hle, depth, 0 => by
      intro bytes entries rest h more
      rw [readEntries_zero] at h ⊢
      exact Carries.done [] h more
  | fuel + 1, fuel' + 1, hle, depth, n + 1 => by
      intro bytes entries rest h more
      have hle := Nat.le_of_succ_le_succ hle
      have hread := carries_read fuel hle depth
      rw [readEntries_succ] at h ⊢
      exact hread.andThen (fun k => hread.andThen fun v =>
        (carries_readEntries fuel hle depth n).map ((k, v) :: ·)) h more

end

/-! ## Whole payloads -/

/-- A payload that is cut off gives no value, not even where the whole one would nest too deep. -/
theorem parse_of_cut {p : Pack} (h : p.IsPlain) {missing : Bytes} (hm : missing ≠ []) (hw : bytes ++ missing = write p) :
    parse bytes = none := by
  unfold parse
  rw [Option.map_eq_none_iff, Option.eq_none_iff_forall_not_mem]
  rintro ⟨q, rest⟩ hq
  -- with the missing bytes behind it the same value would be read, and they would be left over
  have hread := carries_read _ (Nat.le_add_right _ (cost p)) maxDepth (Option.mem_def.1 hq) missing
  have hwrite := read_write p h (3 * bytes.length + 3 + cost p) maxDepth []
  rw [List.append_nil, ← hw, hread] at hwrite
  split at hwrite
  · obtain ⟨-, hrest⟩ := Prod.mk.inj (Option.some.inj hwrite)
    exact hm (List.append_eq_nil_iff.1 hrest).2
  · cases hwrite

end TwoTier.Pack
