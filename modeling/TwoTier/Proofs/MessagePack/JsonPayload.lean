/-
JSON as a payload. A value whose numbers are those of JSON and whose objects list each key once, in
order, comes back from its payload unchanged; what a payload gives back is that or nothing.
-/
import TwoTier.MessagePack.Record
import TwoTier.Proofs.MessagePack.Reading

namespace TwoTier

namespace TextMap

variable {α : Type}

/-- A key behind all others is put at the end. -/
theorem insert_of_lt {key : String} {v : α} {entries : List (String × α)} (h : ∀ e ∈ entries, e.1 < key) :
    insert key v entries = entries ++ [(key, v)] := by
  induction entries with
  | nil => rfl
  | cons e rest ih =>
    have he := h e (List.mem_cons_self ..)
    rw [insert, if_neg fun heq => String.lt_irrefl _ (heq ▸ he), if_neg (String.lt_asymm he),
      ih fun e' he' => h e' (List.mem_cons_of_mem _ he')]
    rfl

theorem foldl_insert {entries sorted : List (String × α)} (h : (sorted ++ entries).Pairwise (·.1 < ·.1)) :
    entries.foldl (fun sorted e => insert e.1 e.2 sorted) sorted = sorted ++ entries := by
  induction entries generalizing sorted with
  | nil => rw [List.foldl_nil, List.append_nil]
  | cons e rest ih =>
    have he : ∀ e' ∈ sorted, e'.1 < e.1 := fun e' he' =>
      (List.pairwise_append.1 h).2.2 e' he' e (List.mem_cons_self ..)
    rw [List.foldl_cons, insert_of_lt he, ih (by rw [List.append_assoc]; exact h), List.append_assoc]
    rfl

/-- Entries that are in order stay as they are. -/
theorem ofList_eq {entries : List (String × α)} (h : entries.Pairwise (·.1 < ·.1)) : ofList entries = ⟨entries⟩ :=
  congrArg TextMap.mk (foldl_insert (show ([] ++ entries).Pairwise _ from h))

end TextMap

namespace Json

mutual

/-- Whether a value is proper JSON, of a size that MessagePack has markers for: integers of 64 bits,
finite numbers, objects with each key once and in order. -/
def IsProper : Json → Prop
  | .null => True
  | .bool _ => True
  | .int i => minInt64 ≤ i ∧ i ≤ maxNat64
  | .float x => x.isFinite = true
  | .str s => (Pack.textBytes s).length ≤ maxNat32
  | .arr items => items.length ≤ maxNat32 ∧ AreProper items
  | .obj members => members.length ≤ maxNat32 ∧ members.Pairwise (·.1 < ·.1) ∧ MembersProper members

def AreProper : List Json → Prop
  | [] => True
  | j :: rest => IsProper j ∧ AreProper rest

def MembersProper : List (String × Json) → Prop
  | [] => True
  | (k, j) :: rest => (Pack.textBytes k).length ≤ maxNat32 ∧ IsProper j ∧ MembersProper rest

end

/-! ## Members in order -/

theorem insert_eq (key : String) (v : Json) (members : List (String × Json)) :
    insert key v members = TextMap.insert key v members := by
  induction members with
  | nil => rfl
  | cons m rest ih =>
    obtain ⟨k, w⟩ := m
    rw [insert, TextMap.insert, ih]

/-- Members that are in order stay as they are. -/
theorem object_eq {members : List (String × Json)} (h : members.Pairwise (·.1 < ·.1)) : object members = .obj members := by
  unfold object ordered
  simp only [insert_eq]
  exact congrArg (fun m => obj m.entries) (TextMap.ofList_eq h)

end Json

namespace Payload

theorem textOf?_textBytes (s : String) : Pack.textOf? (Pack.textBytes s) = some s := by
  unfold Pack.textOf? Pack.textBytes
  rw [Array.toArray_toList]
  show String.fromUTF8? s.toUTF8 = some s
  unfold String.fromUTF8?
  rw [String.toUTF8_eq_toByteArray, dif_pos s.isValidUTF8]
  rfl

@[simp] theorem length_packJsons (items : List Json) : (packJsons items).length = items.length := by
  induction items with
  | nil => rfl
  | cons j rest ih => rw [packJsons, List.length_cons, List.length_cons, ih]

@[simp] theorem length_packMembers (members : List (String × Json)) :
    (packMembers members).length = members.length := by
  induction members with
  | nil => rfl
  | cons m rest ih => rw [packMembers, List.length_cons, List.length_cons, ih]

mutual

/-- Proper JSON is written with the markers there are. -/
theorem isPlain_packJson : (j : Json) → j.IsProper → (packJson j).IsPlain
  | .null, _ => trivial
  | .bool _, _ => trivial
  | .int i, h => by
      obtain ⟨hl, hu⟩ := h
      unfold maxNat64 at hu
      rw [packJson]
      split_ifs with hi
      · show i.toNat ≤ maxNat64
        unfold maxNat64
        omega
      · exact ⟨hl, by omega⟩
  | .float _, _ => trivial
  | .str _, h => h
  | .arr items, h => ⟨by rw [length_packJsons]; exact h.1, arePlain_packJsons items h.2⟩
  | .obj members, h => ⟨by rw [length_packMembers]; exact h.1, entriesPlain_packMembers members h.2.2⟩

theorem arePlain_packJsons : (items : List Json) → Json.AreProper items → Pack.ArePlain (packJsons items)
  | [], _ => trivial
  | j :: rest, h => ⟨isPlain_packJson j h.1, arePlain_packJsons rest h.2⟩

theorem entriesPlain_packMembers : (members : List (String × Json)) → Json.MembersProper members →
    Pack.EntriesPlain (packMembers members)
  | [], _ => trivial
  | (_, j) :: rest, h => ⟨h.1, isPlain_packJson j h.2.1, entriesPlain_packMembers rest h.2.2⟩

end

mutual

/-- A form gives back the JSON that it was made from. -/
theorem unpackJson_packJson : (j : Json) → j.IsProper → unpackJson (packJson j) = some j
  | .null, _ => rfl
  | .bool _, _ => rfl
  | .int i, _ => by
      rw [packJson]
      split_ifs with hi
      · rw [unpackJson, Int.toNat_of_nonneg hi]
      · rw [unpackJson]
  | .float x, h => by
      rw [packJson, unpackJson, jsonNumber, if_pos (show x.isFinite = true from h)]
  | .str s, _ => by
      rw [packJson, Pack.text, unpackJson, textOf?_textBytes]
      rfl
  | .arr items, h => by
      rw [packJson, unpackJson, unpackJsons_packJsons items h.2]
      rfl
  | .obj [], _ => rfl
  | .obj ((k, j) :: rest), h => by
      obtain ⟨-, hsorted, -, hj, hrest⟩ := h
      rw [packJson, packMembers, Pack.text, unpackJson, firstKey?, textOf?_textBytes, unpackJson_packJson j hj,
        unpackMembers_packMembers rest hrest]
      exact congrArg some (Json.object_eq hsorted)

theorem unpackJsons_packJsons : (items : List Json) → Json.AreProper items →
    unpackJsons (packJsons items) = some items
  | [], _ => rfl
  | j :: rest, h => by
      rw [packJsons, unpackJsons, unpackJson_packJson j h.1, unpackJsons_packJsons rest h.2]

theorem unpackMembers_packMembers : (members : List (String × Json)) → Json.MembersProper members →
    unpackMembers (packMembers members) = some members
  | [], _ => rfl
  | (k, j) :: rest, h => by
      rw [packMembers, Pack.text, unpackMembers, textOf?, textOf?_textBytes, unpackJson_packJson j h.2.1,
        unpackMembers_packMembers rest h.2.2]

end

/-- A payload gives back the value it was made from, whatever follows it, unless the value nests too
deep to be read. -/
theorem decode_packJson {j : Json} (h : j.IsProper) (rest : Bytes) :
    (decode ((packJson j).write ++ rest) : Except CacheError Json) =
      if (packJson j).nesting ≤ Pack.maxDepth then .ok j else .error .deserialization := by
  unfold decode
  rw [Pack.parse_write (isPlain_packJson j h)]
  split_ifs
  · rw [Option.bind_some, show unpack (packJson j) = some j from unpackJson_packJson j h]
  · rfl

end Payload

end TwoTier
