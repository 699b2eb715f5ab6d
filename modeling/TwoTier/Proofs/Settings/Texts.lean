/-
The texts of environment variables. A text that reads as a truth value or a number is taken as that before it is
converted to the type of the setting; what the conversion makes of it is, but for numbers beyond 64 bits with a sign and
for settings that are texts themselves, what it makes of the text.
-/
import Mathlib
import TwoTier.Proofs.Settings.Leaves
import TwoTier.Settings.Environment

namespace TwoTier.Environment

/-- An integer that a text reads as, if 64 bits with a sign hold it. -/
def integer? (text : String) : Option Int := (Tree.integerOf? text).filter fun i => minInt64 ≤ i ∧ i ≤ maxInt64

/-- Whether a text reads as a truth value or a number. -/
def Literal (text : String) : Prop :=
  asciiLower text = "true" ∨ asciiLower text = "false" ∨ (integer? text).isSome ∨ (Tree.floatOf? text).isSome

variable {text : String}

/-- What a text is read as: the first of what it could be. -/
theorem valueOf_cases (text : String) :
    (∃ b : Bool, valueOf text = .bool b) ∨
      (∃ i, minInt64 ≤ i ∧ i ≤ maxInt64 ∧ valueOf text = .int i) ∨
      (∃ x, valueOf text = .float x) ∨ ¬ Literal text ∧ valueOf text = .text text := by
  unfold valueOf Literal integer?
  simp only
  -- in the order in which they are tried: the two words, an integer, a number, else the text
  split
  · exact Or.inl ⟨true, rfl⟩
  · rename_i htrue
    split
    · exact Or.inl ⟨false, rfl⟩
    · rename_i hfalse
      split
      · rename_i i hi
        obtain ⟨-, hrange⟩ := Option.filter_eq_some_iff.mp hi
        simp only [Bool.decide_and, Bool.and_eq_true, decide_eq_true_eq] at hrange
        exact Or.inr (Or.inl ⟨i, hrange.1, hrange.2, rfl⟩)
      · rename_i hint
        split
        · rename_i x hx
          exact Or.inr (Or.inr (Or.inl ⟨x, rfl⟩))
        · rename_i hfloat
          refine Or.inr (Or.inr (Or.inr ⟨?_, rfl⟩))
          simp only [htrue, hfalse, hint, hfloat, Option.isSome_none, Bool.false_eq_true, or_self, not_false_eq_true]

theorem isLeaf_valueOf (text : String) : (valueOf text).IsLeaf := by
  rintro ms h
  rcases valueOf_cases text with ⟨b, hv⟩ | ⟨i, -, -, hv⟩ | ⟨x, hv⟩ | ⟨-, hv⟩ <;>
    · rw [hv] at h
      cases h

theorem valueOf_of_not_literal (h : ¬ Literal text) : valueOf text = .text text := by
  simp only [Literal, integer?, not_or, Bool.not_eq_true, Option.isSome_eq_false_iff, Option.isNone_iff_eq_none] at h
  obtain ⟨htrue, hfalse, hint, hfloat⟩ := h
  simp only [valueOf, if_neg htrue, if_neg hfalse, hint, hfloat]

/-! ## Words -/

theorem isDigit_of_isAlpha {c : Char} (h : c.isAlpha = true) : Json.isDigit c = false := by
  simp only [Char.isAlpha, Char.isUpper, Char.isLower, Bool.or_eq_true, decide_eq_true_eq, Bool.and_eq_true, ge_iff_le,
    UInt32.le_iff_toNat_le] at h
  simp only [Json.isDigit, decide_eq_false_iff_not, Char.le_def, UInt32.le_iff_toNat_le]
  have h0 : ('0' : Char).val.toNat = 48 := rfl
  have h9 : ('9' : Char).val.toNat = 57 := rfl
  have hA : ('A' : Char).val.toNat = 65 := rfl
  have ha : ('a' : Char).val.toNat = 97 := rfl
  omega

/-- What is a word in lower case starts with a letter. -/
theorem toList_of_asciiLower {l : Char} {ls : List Char} (h : asciiLower text = String.ofList (l :: ls))
    (hl : l.isLower = true) : ∃ c rest, text.toList = c :: rest ∧ c.isAlpha = true := by
  have hlist : text.toList.map Char.toLower = l :: ls := by
    rw [← String.toList_map, ← asciiLower, h, String.toList_ofList]
  obtain ⟨c, rest, htext, rfl, -⟩ := List.map_eq_cons_iff.mp hlist
  exact ⟨c, rest, htext, by rwa [Char.isLower_toLower_eq_isAlpha] at hl⟩

/-- What is a single character in lower case, and no letter, is that character. -/
theorem eq_of_asciiLower {d : Char} (hd : d.isLower = false) (h : asciiLower text = String.ofList [d]) :
    text = String.ofList [d] := by
  have hlist : text.toList.map Char.toLower = [d] := by
    rw [← String.toList_map, ← asciiLower, h, String.toList_ofList]
  obtain ⟨c, htext, rfl⟩ := List.map_eq_singleton_iff.mp hlist
  rw [Char.isLower_toLower_eq_isAlpha, Char.isAlpha, Bool.or_eq_false_iff] at hd
  rw [Char.toLower_eq_of_not_isUpper (by simp [hd.1]), ← htext, String.ofList_toList]

theorem ne_of_isAlpha {c d : Char} (hc : c.isAlpha = true) (hd : d.isAlpha = false) : c ≠ d := by
  rintro rfl
  simp [hc] at hd

theorem integerOf?_of_isAlpha {c : Char} {rest : List Char} (h : text.toList = c :: rest) (hc : c.isAlpha = true) :
    Tree.integerOf? text = none := by
  have hminus : c ≠ '-' := ne_of_isAlpha hc (by decide)
  have hplus : c ≠ '+' := ne_of_isAlpha hc (by decide)
  simp [Tree.integerOf?, h, hminus, hplus, isDigit_of_isAlpha hc]

theorem floatOf?_of_isAlpha {c : Char} {rest : List Char} (h : text.toList = c :: rest) (hc : c.isAlpha = true)
    (hinf : asciiLower text ≠ "inf") (hinfinity : asciiLower text ≠ "infinity") (hnan : asciiLower text ≠ "nan") :
    Tree.floatOf? text = none := by
  have hminus : c ≠ '-' := ne_of_isAlpha hc (by decide)
  have hplus : c ≠ '+' := ne_of_isAlpha hc (by decide)
  have hpoint : c ≠ '.' := ne_of_isAlpha hc (by decide)
  have htext : String.ofList (c :: rest) = text := by rw [← h, String.ofList_toList]
  simp [Tree.floatOf?, h, hminus, hplus, hpoint, isDigit_of_isAlpha hc, htext, hinf, hinfinity, hnan, Json.digitRun]

/-- The words that are converted to truth values without being ones are no literals. -/
theorem not_literal_of_word (h : asciiLower text ∈ ["on", "yes", "off", "no"]) : ¬ Literal text := by
  have hstart : ∃ c rest, text.toList = c :: rest ∧ c.isAlpha = true := by
    simp only [List.mem_cons, List.not_mem_nil, or_false] at h
    rcases h with h | h | h | h
    · exact toList_of_asciiLower h (by decide)
    · exact toList_of_asciiLower h (by decide)
    · exact toList_of_asciiLower h (by decide)
    · exact toList_of_asciiLower h (by decide)
  obtain ⟨c, rest, htext, hc⟩ := hstart
  have hword {w : String} (hw : w ∉ ["on", "yes", "off", "no"]) : asciiLower text ≠ w := by
    rintro rfl
    exact hw h
  rintro (htrue | hfalse | hint | hfloat)
  · exact hword (by decide) htrue
  · exact hword (by decide) hfalse
  · rw [integer?, integerOf?_of_isAlpha htext hc] at hint
    cases hint
  · rw [floatOf?_of_isAlpha htext hc (hword (by decide)) (hword (by decide)) (hword (by decide))] at hfloat
    cases hfloat

theorem valueOf_of_word (h : asciiLower text ∈ ["on", "yes", "off", "no"]) : valueOf text = .text text :=
  valueOf_of_not_literal (not_literal_of_word h)

theorem valueOf_true (h : asciiLower text = "true") : valueOf text = .bool true := by simp [valueOf, h]

theorem valueOf_false (h : asciiLower text = "false") : valueOf text = .bool false := by simp [valueOf, h]

/-! ## Integers -/

theorem asciiLower_ne_of_integer {i : Int} (h : Tree.integerOf? text = some i) (l : Char) (ls : List Char)
    (hl : l.isLower = true) : asciiLower text ≠ String.ofList (l :: ls) := by
  intro hw
  obtain ⟨c, rest, htext, hc⟩ := toList_of_asciiLower hw hl
  rw [integerOf?_of_isAlpha htext hc] at h
  cases h

theorem valueOf_integer {i : Int} (h : Tree.integerOf? text = some i) (hmin : minInt64 ≤ i) (hmax : i ≤ maxInt64) :
    valueOf text = .int i := by
  have htrue : asciiLower text ≠ "true" := asciiLower_ne_of_integer h 't' _ (by decide)
  have hfalse : asciiLower text ≠ "false" := asciiLower_ne_of_integer h 'f' _ (by decide)
  simp [valueOf, htrue, hfalse, h, Option.filter_some, hmin, hmax]

theorem digitsValue_toDigits (n : Nat) : Json.digitsValue (Nat.toDigits 10 n) = n := by
  have h : Nat.ofDigitChars 10 (Nat.toDigits 10 n) 0 = n := Nat.ofDigitChars_ten_toDigits
  rw [Nat.ofDigitChars_eq_foldl] at h
  simpa only [Json.digitsValue, Nat.mul_comm] using h

theorem isDigit_of_mem_toDigits {n : Nat} {c : Char} (h : c ∈ Nat.toDigits 10 n) : Json.isDigit c = true := by
  have hc : c.isDigit = true := Nat.isDigit_of_mem_toDigits (by decide) (by decide) h
  simpa [Char.isDigit, Json.isDigit, Char.le_def] using hc

theorem toDigits_head {n : Nat} {c : Char} {rest : List Char} (h : Nat.toDigits 10 n = c :: rest) :
    c ≠ '-' ∧ c ≠ '+' := by
  have hc : Json.isDigit c = true := isDigit_of_mem_toDigits (h ▸ List.mem_cons_self)
  constructor
  · rintro rfl
    exact absurd hc (by decide)
  · rintro rfl
    exact absurd hc (by decide)

/-- What is written for a number reads as the number. -/
theorem integerOf?_toString (i : Int) : Tree.integerOf? (toString i) = some i := by
  have hall (n : Nat) : (Nat.toDigits 10 n).all Json.isDigit = true :=
    List.all_eq_true.mpr fun c hc => isDigit_of_mem_toDigits hc
  cases i with
  | ofNat n =>
    have htext : (toString (Int.ofNat n)).toList = Nat.toDigits 10 n := Nat.toList_repr
    have hvalue := digitsValue_toDigits n
    have hdigits := hall n
    cases hn : Nat.toDigits 10 n with
    | nil => exact absurd hn Nat.toDigits_ne_nil
    | cons c rest =>
      obtain ⟨hminus, hplus⟩ := toDigits_head hn
      rw [hn] at htext hvalue hdigits
      simp only [Tree.integerOf?, htext]
      simp [hminus, hplus, hdigits, hvalue]
  | negSucc n =>
    have htext : (toString (Int.negSucc n)).toList = '-' :: Nat.toDigits 10 (n + 1) := by
      simp [Int.repr_eq_if]
    simp only [Tree.integerOf?, htext]
    simp [hall, digitsValue_toDigits, Int.negSucc_eq, add_comm]

theorem integerOf?_nonneg {i : Int} (h : Tree.integerOf? text = some i) (hs : text.startsWith "-" = false) : 0 ≤ i := by
  have hminus : ∀ rest, text.toList ≠ '-' :: rest := by
    intro rest htext
    simp [htext] at hs
  unfold Tree.integerOf? at h
  split at h
  rename_i negative digits hsigned
  have hplain : negative = false := by
    split at hsigned
    · rename_i rest htext
      exact absurd htext (hminus rest)
    · cases hsigned
      rfl
    · cases hsigned
      rfl
  subst hplain
  split at h
  · cases h
  · cases h
    simp

/-- A number that 64 bits with a sign hold is converted to what its text is. -/
theorem nat?_valueOf {n : Nat} (hn : (Tree.text text).nat? = some n) (hmax : (n : Int) ≤ maxInt64) :
    (valueOf text).nat? = some n := by
  -- a word for a truth value other than `true` and `false` stays a text
  have hword (hw : asciiLower text ∈ ["on", "yes", "off", "no"]) : (valueOf text).nat? = some n := by
    rwa [valueOf_of_word hw]
  simp only [Tree.nat?] at hn
  split at hn
  · rename_i hon
    simp only [Tree.wordsOn, List.contains_iff_mem, List.mem_cons, List.not_mem_nil, or_false] at hon
    rcases hon with hon | hon | hon
    · rwa [valueOf_true hon]
    · exact hword (by simp [hon])
    · exact hword (by simp [hon])
  · split at hn
    · rename_i hoff
      simp only [Tree.wordsOff, List.contains_iff_mem, List.mem_cons, List.not_mem_nil, or_false] at hoff
      rcases hoff with hoff | hoff | hoff
      · rwa [valueOf_false hoff]
      · exact hword (by simp [hoff])
      · exact hword (by simp [hoff])
    · split at hn
      · cases hn
      · rename_i hminus
        obtain ⟨i, hi, hn⟩ := Option.bind_eq_some_iff.mp hn
        have hpos : 0 ≤ i := integerOf?_nonneg hi (by simpa using hminus)
        split at hn
        · cases hn
          rw [valueOf_integer hi (le_trans (by decide) hpos) (by omega)]
          simp [Tree.nat?, hpos]
        · cases hn

/-- A truth value is what its text is. -/
theorem bool?_valueOf {b : Bool} (hb : (Tree.text text).bool? = some b) : (valueOf text).bool? = some b := by
  have hword (hw : asciiLower text ∈ ["on", "yes", "off", "no"]) : (valueOf text).bool? = some b := by
    rwa [valueOf_of_word hw]
  simp only [Tree.bool?] at hb
  split at hb
  · rename_i hon
    simp only [Tree.wordsOn, List.contains_iff_mem, List.mem_cons, List.not_mem_nil, or_false, Bool.or_eq_true,
      decide_eq_true_eq] at hon
    rcases hon with hon | hon | hon | hon
    · -- the digit reads as an integer, which stands for the same truth value
      obtain rfl := eq_of_asciiLower (by decide) hon
      cases hb
      decide +kernel
    · rwa [valueOf_true hon]
    · exact hword (by simp [hon])
    · exact hword (by simp [hon])
  · split at hb
    · rename_i hoff
      simp only [Tree.wordsOff, List.contains_iff_mem, List.mem_cons, List.not_mem_nil, or_false, Bool.or_eq_true,
        decide_eq_true_eq] at hoff
      rcases hoff with hoff | hoff | hoff | hoff
      · obtain rfl := eq_of_asciiLower (by decide) hoff
        cases hb
        decide +kernel
      · rwa [valueOf_false hoff]
      · exact hword (by simp [hoff])
      · exact hword (by simp [hoff])
    · cases hb

/-! ## Texts -/

/-- Whether a text is no literal, or one in the way in which its value is written out. -/
def Plain (text : String) : Prop :=
  ¬ Literal text ∨ (∃ b : Bool, text = toString b) ∨
    (∃ i : Int, minInt64 ≤ i ∧ i ≤ maxInt64 ∧ text = toString i) ∨ ∃ x, valueOf text = .float x ∧ text = x.plainText

/-- What is read from a text is written out as the text exactly if the text is plain. -/
theorem text?_valueOf_iff : (valueOf text).text? = some text ↔ Plain text := by
  constructor
  · intro h
    rcases valueOf_cases text with ⟨b, hv⟩ | ⟨i, hmin, hmax, hv⟩ | ⟨x, hv⟩ | ⟨hplain, -⟩
    · rw [hv] at h
      exact Or.inr (Or.inl ⟨b, by cases b <;> exact (Option.some.inj h).symm⟩)
    · rw [hv] at h
      exact Or.inr (Or.inr (Or.inl ⟨i, hmin, hmax, (Option.some.inj h).symm⟩))
    · rw [hv] at h
      exact Or.inr (Or.inr (Or.inr ⟨x, hv, (Option.some.inj h).symm⟩))
    · exact Or.inl hplain
  · rintro (h | ⟨b, rfl⟩ | ⟨i, hmin, hmax, rfl⟩ | ⟨x, hv, htext⟩)
    · rw [valueOf_of_not_literal h]
      rfl
    · cases b <;> decide +kernel
    · rw [valueOf_integer (integerOf?_toString i) hmin hmax]
      rfl
    · rw [hv, Tree.text?, htext]

theorem optionalText?_valueOf (text : String) :
    SettingsReader.tree.optionalText? (valueOf text) = (valueOf text).text?.map some := by
  rcases valueOf_cases text with ⟨b, hv⟩ | ⟨i, -, -, hv⟩ | ⟨x, hv⟩ | ⟨-, hv⟩ <;>
    · rw [hv]
      rfl

end TwoTier.Environment

namespace TwoTier.Setting

variable {s : Setting} {text : String} {v : Value}

/-- The text of a number is converted to the number. -/
theorem read?_toString {bound n : Nat} (hs : s.kind = .number bound) (hn : n ≤ bound) (hmax : n ≤ maxNat64) :
    s.read? (.text (toString n)) = some (.number n) := by
  have hint : Tree.integerOf? (toString n) = some (n : Int) := Environment.integerOf?_toString n
  have hword (l : Char) (ls : List Char) (hl : l.isLower = true) : asciiLower (toString n) ≠ String.ofList (l :: ls) :=
    Environment.asciiLower_ne_of_integer hint l ls hl
  have hon : asciiLower (toString n) ∉ Tree.wordsOn := by
    simp only [Tree.wordsOn, List.mem_cons, List.not_mem_nil, or_false, not_or]
    exact ⟨hword 't' _ (by decide), hword 'o' _ (by decide), hword 'y' _ (by decide)⟩
  have hoff : asciiLower (toString n) ∉ Tree.wordsOff := by
    simp only [Tree.wordsOff, List.mem_cons, List.not_mem_nil, or_false, not_or]
    exact ⟨hword 'f' _ (by decide), hword 'o' _ (by decide), hword 'n' _ (by decide)⟩
  have hminus : (toString n).startsWith "-" = false := by
    rw [String.startsWith_string_eq_false_iff]
    rintro ⟨rest, hrest⟩
    exact (Environment.toDigits_head (Nat.toList_repr.symm.trans hrest.symm)).1 rfl
  have hread : (Tree.text (toString n)).nat? = some n := by
    simp only [Tree.nat?, List.contains_iff_mem, hon, hoff, hminus, hint]
    simpa using hmax
  simp only [read?, hs, SettingsReader.tree, hread]
  simp [hn]

/-- What the text of a variable makes of a setting. -/
structure SetBy (s : Setting) (text : String) (v : Value) : Prop where
  /-- It is converted from what the text is read as. -/
  read : s.read? (Environment.valueOf text) = some v
  /-- A number that 64 bits with a sign hold is the one of the text. -/
  number : ∀ n : Nat, s.read? (.text text) = some (.number n) → (n : Int) ≤ maxInt64 → v = .number n
  numeral : ∀ bound n : Nat, s.kind = .number bound → n ≤ bound → (n : Int) ≤ maxInt64 → text = toString n → v = .number n
  truth : ∀ b, s.read? (.text text) = some (.truth b) → v = .truth b
  /-- A text is the text itself exactly if that is plain. -/
  textual : s.kind = .text → (v = .text text ↔ Environment.Plain text)
  optional : s.kind = .option → (v = .option (some text) ↔ Environment.Plain text)

theorem number_of_read (h : s.read? (Environment.valueOf text) = some v) {n : Nat}
    (hn : s.read? (.text text) = some (.number n)) (hmax : (n : Int) ≤ maxInt64) : v = .number n := by
  cases hk : s.kind with
  | number bound =>
    simp only [read?, hk] at h hn
    obtain ⟨n', hn', heq⟩ := Option.map_eq_some_iff.mp hn
    cases heq
    obtain ⟨hn', hbound⟩ := Option.filter_eq_some_iff.mp hn'
    simp only [SettingsReader.tree, Environment.nat?_valueOf hn' hmax, Option.filter_some, hbound, if_true] at h
    exact (Option.some.inj h).symm
  | truth | text | option =>
    simp only [read?, hk] at hn
    obtain ⟨w, -, heq⟩ := Option.map_eq_some_iff.mp hn
    cases heq

theorem setBy_of_read (h : s.read? (Environment.valueOf text) = some v) : s.SetBy text v := by
  have hwidth : maxInt64 ≤ maxNat64 := by decide
  constructor
  · exact h
  · intro n hn hmax
    exact number_of_read h hn hmax
  · -- a number written out reads as itself, so this is the case of numbers again
    rintro bound n hk hn hmax rfl
    exact number_of_read h (read?_toString hk hn (by omega)) hmax
  · intro b hb
    cases hk : s.kind with
    | truth =>
      simp only [read?, hk] at h hb
      obtain ⟨b', hb', heq⟩ := Option.map_eq_some_iff.mp hb
      cases heq
      rw [Environment.bool?_valueOf hb'] at h
      exact (Option.some.inj h).symm
    | number _ | text | option =>
      simp only [read?, hk] at hb
      obtain ⟨w, -, heq⟩ := Option.map_eq_some_iff.mp hb
      cases heq
  · intro hk
    simp only [read?, hk] at h
    obtain ⟨t, ht, rfl⟩ := Option.map_eq_some_iff.mp h
    rw [← Environment.text?_valueOf_iff, ht]
    simp
  · intro hk
    simp only [read?, hk, Environment.optionalText?_valueOf] at h
    obtain ⟨o, ho, rfl⟩ := Option.map_eq_some_iff.mp h
    obtain ⟨t, ht, rfl⟩ := Option.map_eq_some_iff.mp ho
    rw [← Environment.text?_valueOf_iff, ht]
    simp

end TwoTier.Setting
