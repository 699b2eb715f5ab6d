/-
What patterns match. The matcher fills a table with one answer for each suffix of the text; `Accepts`
is the language it decides. An escaped text stands for itself, so a pattern behind it matches the
texts that start with it and go on with a match, and never any other.
-/
import Mathlib.Tactic
import TwoTier.Glob.Pattern
import TwoTier.Node

namespace TwoTier.Glob

/-! ## The language of a pattern -/

/-- The texts that atoms match one after the other. -/
inductive Accepts : List Atom → List Char → Prop where
  | nil : Accepts [] []
  | stop {atoms : List Atom} {text : List Char} (h : Accepts atoms text) : Accepts (.run :: atoms) text
  | more {atoms : List Atom} {c : Char} {text : List Char} (hc : c ≠ '\n') (h : Accepts (.run :: atoms) text) :
    Accepts (.run :: atoms) (c :: text)
  | single {a : Atom} {atoms : List Atom} {c : Char} {text : List Char} (ha : a ≠ .run) (hc : a.admits c = true)
      (h : Accepts atoms text) :
    Accepts (a :: atoms) (c :: text)

namespace Pattern

variable {a : Atom} {atoms : List Atom} {c : Char} {text : List Char}

/-- At the end of the text the table has one answer. -/
theorem suffixes_nil (atoms : List Atom) : ∃ b, suffixes atoms [] = [b] := by
  induction atoms with
  | nil => exact ⟨true, rfl⟩
  | cons a atoms ih =>
    obtain ⟨b, hb⟩ := ih
    unfold suffixes at *
    rw [List.foldr_cons, hb]
    cases a with
    | run => exact ⟨b, rfl⟩
    | _ => exact ⟨false, rfl⟩

/-- One more character in front puts one more answer in front of the table. -/
theorem suffixes_cons (atoms : List Atom) (c : Char) (text : List Char) :
    ∃ b, suffixes atoms (c :: text) = b :: suffixes atoms text := by
  induction atoms with
  | nil => exact ⟨false, rfl⟩
  | cons a atoms ih =>
    obtain ⟨b, hb⟩ := ih
    unfold suffixes at *
    rw [List.foldr_cons, List.foldr_cons, hb]
    cases a with
    | run => exact ⟨_, rfl⟩
    | _ => exact ⟨_, rfl⟩

/-- Whether atoms match a text: the first answer of the table. -/
def decides (atoms : List Atom) (text : List Char) : Bool := (suffixes atoms text).headD false

theorem decides_run_nil : decides (.run :: atoms) [] = decides atoms [] := by
  obtain ⟨b, hb⟩ := suffixes_nil atoms
  show (Atom.afterRun [] (suffixes atoms [])).headD false = _
  rw [decides, hb]
  rfl

theorem decides_run_cons :
    decides (.run :: atoms) (c :: text) = (decides atoms (c :: text) || (c != '\n' && decides (.run :: atoms) text)) := by
  obtain ⟨b, hb⟩ := suffixes_cons atoms c text
  show (Atom.afterRun (c :: text) (suffixes atoms (c :: text))).headD false = _
  rw [decides, hb]
  rfl

theorem decides_single_nil (ha : a ≠ .run) : decides (a :: atoms) [] = false := by
  cases a with
  | run => exact absurd rfl ha
  | _ => rfl

theorem decides_single_cons (ha : a ≠ .run) :
    decides (a :: atoms) (c :: text) = (a.admits c && decides atoms text) := by
  obtain ⟨b, hb⟩ := suffixes_cons atoms c text
  have hs : decides (a :: atoms) (c :: text) =
      (Atom.afterOne a (c :: text) (suffixes atoms (c :: text))).headD false := by
    cases a with
    | run => exact absurd rfl ha
    | _ => rfl
  rw [hs, hb]
  rfl

/-- The table decides the language. -/
theorem decides_iff : decides atoms text = true ↔ Accepts atoms text := by
  induction atoms generalizing text with
  | nil =>
    cases text with
    | nil => exact ⟨fun _ => .nil, fun _ => rfl⟩
    | cons c text => exact ⟨nofun, nofun⟩
  | cons a atoms ih =>
    by_cases ha : a = .run
    · -- a run may stop here or take one more character, so the text is what gets shorter
      subst ha
      induction text with
      | nil =>
        rw [decides_run_nil, ih]
        refine ⟨.stop, fun h => ?_⟩
        cases h with
        | stop h => exact h
      | cons c text iht =>
        rw [decides_run_cons, Bool.or_eq_true, Bool.and_eq_true, bne_iff_ne, ih, iht]
        constructor
        · rintro (h | ⟨hc, h⟩)
          · exact .stop h
          · exact .more hc h
        · intro h
          cases h with
          | stop h => exact Or.inl h
          | more hc h => exact Or.inr ⟨hc, h⟩
          | single ha => exact absurd rfl ha
    · cases text with
      | nil =>
        rw [decides_single_nil ha]
        refine ⟨nofun, fun h => ?_⟩
        cases h with
        | stop => exact absurd rfl ha
      | cons c text =>
        rw [decides_single_cons ha, Bool.and_eq_true, ih]
        refine ⟨fun ⟨hc, h⟩ => .single ha hc h, fun h => ?_⟩
        cases h with
        | stop | more => exact absurd rfl ha
        | single _ hc h => exact ⟨hc, h⟩

theorem isMatch_iff {p : Pattern} {key : String} : p.isMatch key = true ↔ Accepts p.atoms key.toList := decides_iff

end Pattern

/-! ## Literal texts and runs -/

/-- Literal characters match themselves and nothing else. -/
theorem accepts_chars_append {literal : List Char} {atoms : List Atom} {text : List Char} :
    Accepts (literal.map .char ++ atoms) text ↔ ∃ rest, text = literal ++ rest ∧ Accepts atoms rest := by
  induction literal generalizing text with
  | nil => simp
  | cons c literal ih =>
    constructor
    · intro h
      cases h with
      | single ha hc h =>
        obtain ⟨rest, rfl, hr⟩ := ih.1 h
        exact ⟨rest, by rw [eq_of_beq hc]; rfl, hr⟩
    · rintro ⟨rest, rfl, h⟩
      exact .single nofun (beq_self_eq_true c) (ih.2 ⟨rest, rfl, h⟩)

/-- A run at the end matches whatever has no line feed. -/
theorem accepts_run {text : List Char} : Accepts [.run] text ↔ '\n' ∉ text := by
  induction text with
  | nil => exact ⟨fun _ => List.not_mem_nil, fun _ => .stop .nil⟩
  | cons c text ih =>
    rw [List.mem_cons, not_or, ← ih]
    constructor
    · intro h
      cases h with
      | stop h => cases h
      | more hc h => exact ⟨hc.symm, h⟩
      | single ha => exact absurd rfl ha
    · rintro ⟨hc, h⟩
      exact .more (Ne.symm hc) h

/-! ## Compiling behind an escaped text -/

/-- An escaped text is read back character by character. -/
theorem pieces_escapeChars_append (text rest : List Char) :
    pieces (escapeChars text ++ rest) = text.map .char ++ pieces rest := by
  induction text with
  | nil => rfl
  | cons c text ih =>
    rw [escapeChars, List.flatMap_cons, List.append_assoc, ← escapeChars, List.map_cons, List.cons_append, ← ih]
    by_cases hc : isSpecial c
    · rw [if_pos hc]
      show pieces ('\\' :: c :: (escapeChars text ++ rest)) = _
      rw [pieces]
    · rw [if_neg hc]
      simp only [isSpecial, Bool.or_eq_true, decide_eq_true_eq, not_or] at hc
      obtain ⟨⟨⟨⟨hstar, hone⟩, hopen⟩, -⟩, hback⟩ := hc
      show pieces (c :: (escapeChars text ++ rest)) = _
      rw [pieces]
      · exact hstar
      · exact hone
      · exact fun _ _ h => absurd h hback
      · exact hopen

theorem mapM_atom?_chars_append (text : List Char) (ps : List Piece) :
    (text.map Piece.char ++ ps).mapM Piece.atom? = (ps.mapM Piece.atom?).map (text.map Atom.char ++ ·) := by
  induction text with
  | nil => simp
  | cons c text ih =>
    rw [List.map_cons, List.cons_append, List.mapM_cons, ih]
    cases ps.mapM Piece.atom? <;> rfl

/-- A pattern behind an escaped text compiles as it does by itself. -/
theorem compile_escape_append (text pattern : String) :
    compile (escape text ++ pattern) = (compile pattern).map fun p => ⟨text.toList.map .char ++ p.atoms⟩ := by
  unfold compile escape
  rw [String.toList_append, String.toList_ofList, pieces_escapeChars_append, mapM_atom?_chars_append, Option.map_map,
    Option.map_map]
  rfl

/-- It matches the texts that start with the escaped one and go on with a match. -/
theorem isMatch_escape_append {text pattern : String} {p : Pattern} (h : compile (escape text ++ pattern) = some p)
    {key : String} (hk : p.isMatch key = true) :
    ∃ q rest, compile pattern = some q ∧ key = text ++ rest ∧ q.isMatch rest = true := by
  rw [compile_escape_append, Option.map_eq_some_iff] at h
  obtain ⟨q, hq, rfl⟩ := h
  rw [Pattern.isMatch_iff, accepts_chars_append] at hk
  obtain ⟨rest, hkey, hr⟩ := hk
  refine ⟨q, String.ofList rest, hq, ?_, by rw [Pattern.isMatch_iff, String.toList_ofList]; exact hr⟩
  rw [← String.toList_inj, hkey, String.toList_append, String.toList_ofList]

/-- The pattern for what starts with a text, behind another text: it matches what starts with both and
has no line feed after them. -/
theorem compile_startingWith (scope text : String) :
    ∃ p, compile (escape scope ++ startingWith text) = some p ∧
      ∀ key, p.isMatch key = true ↔ ∃ rest, key = scope ++ text ++ rest ∧ '\n' ∉ rest.toList := by
  have hstar : compile "*" = some ⟨[.run]⟩ := by
    unfold compile
    rw [show "*".toList = ['*'] from rfl, pieces, pieces]
    rfl
  unfold startingWith
  rw [compile_escape_append, compile_escape_append, hstar]
  refine ⟨_, rfl, fun key => ?_⟩
  rw [Pattern.isMatch_iff, accepts_chars_append]
  constructor
  · rintro ⟨later, hkey, h⟩
    obtain ⟨rest, rfl, hr⟩ := accepts_chars_append.1 h
    refine ⟨String.ofList rest, ?_, by rw [String.toList_ofList]; exact accepts_run.1 hr⟩
    rw [← String.toList_inj, hkey, String.toList_append, String.toList_append, String.toList_ofList, List.append_assoc]
  · rintro ⟨rest, rfl, h⟩
    exact ⟨text.toList ++ rest.toList, by rw [String.toList_append, String.toList_append, List.append_assoc],
      accepts_chars_append.2 ⟨rest.toList, rfl, accepts_run.2 h⟩⟩

end TwoTier.Glob
