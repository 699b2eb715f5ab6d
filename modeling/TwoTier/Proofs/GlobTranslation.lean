/-
Patterns without sets, translated faithfully. `covers` matches a pattern against a key directly, one character of the
pattern after the other, and never hears of expressions. A pattern without an opening bracket always compiles, to what
the text of its expression says, and what it compiles to matches the keys that the direct matcher lets through, line
feeds aside: a dot does not match one.
-/
import TwoTier.Proofs.Glob.Expression
import TwoTier.Proofs.Glob.Matching

namespace TwoTier.Glob

/-! ## The direct matcher -/

/-- Whether a pattern without sets matches the whole text: a star takes any run of characters, a question mark any
one, a backslash makes the next character literal, and every other character stands for itself, as does a backslash
that nothing follows. -/
def covers : List Char → List Char → Bool
  | [], text => text.isEmpty
  | '*' :: pattern, text => text.tails.any (covers pattern)
  | '?' :: pattern, text => match text with
    | [] => false
    | _ :: text => covers pattern text
  | '\\' :: c :: pattern, text => match text with
    | [] => false
    | d :: text => d == c && covers pattern text
  | c :: pattern, text => match text with
    | [] => false
    | d :: text => d == c && covers pattern text

variable {atoms : List Atom} {text : List Char}

/-! ## What the atoms of such a pattern match -/

/-- A run in front takes any beginning of a text without line feeds. -/
theorem accepts_run_cons (hn : '\n' ∉ text) :
    Accepts (.run :: atoms) text ↔ ∃ rest ∈ text.tails, Accepts atoms rest := by
  induction text with
  | nil =>
    refine ⟨fun h => ?_, fun ⟨rest, hr, h⟩ => ?_⟩
    · cases h with
      | stop h => exact ⟨[], List.mem_singleton_self _, h⟩
    · rw [List.mem_singleton.1 hr] at h
      exact .stop h
  | cons c text ih =>
    rw [List.mem_cons, not_or] at hn
    obtain ⟨hc, hn⟩ := hn
    rw [List.tails_cons, List.exists_mem_cons_iff, ← ih hn]
    refine ⟨fun h => ?_, ?_⟩
    · cases h with
      | stop h => exact .inl h
      | more _ h => exact .inr h
      | single ha => exact absurd rfl ha
    · rintro (h | h)
      · exact .stop h
      · exact .more (Ne.symm hc) h

/-- Any other atom takes one character that it admits. -/
theorem accepts_single_cons {a : Atom} (ha : a ≠ .run) :
    Accepts (a :: atoms) text ↔ ∃ c rest, text = c :: rest ∧ a.admits c = true ∧ Accepts atoms rest := by
  refine ⟨fun h => ?_, ?_⟩
  · cases h with
    | stop | more => exact absurd rfl ha
    | single _ hc h => exact ⟨_, _, rfl, hc, h⟩
  · rintro ⟨c, rest, rfl, hc, h⟩
    exact .single ha hc h

/-- What the atoms match is what the pattern covers. -/
def Agrees (atoms : List Atom) (pattern : List Char) : Prop :=
  ∀ text, '\n' ∉ text → (Accepts atoms text ↔ covers pattern text = true)

variable {pattern : List Char}

theorem Agrees.nil : Agrees [] [] := by
  rintro (_ | ⟨c, text⟩) -
  · exact ⟨fun _ => rfl, fun _ => .nil⟩
  · exact ⟨nofun, nofun⟩

theorem Agrees.run (h : Agrees atoms pattern) : Agrees (.run :: atoms) ('*' :: pattern) := by
  intro text hn
  rw [accepts_run_cons hn, covers, List.any_eq_true]
  refine exists_congr fun rest => and_congr_right fun hr => h rest fun hm => hn ?_
  exact ((List.mem_tails _ _).1 hr).subset hm

theorem Agrees.one (h : Agrees atoms pattern) : Agrees (.one :: atoms) ('?' :: pattern) := by
  have ha : Atom.one ≠ .run := nofun
  rintro (_ | ⟨c, text⟩) hn <;> rw [accepts_single_cons ha, covers]
  · simp
  · rw [List.mem_cons, not_or] at hn
    simpa [Atom.admits, Ne.symm hn.1] using h text hn.2

/-- A literal character, however it is written in the pattern. -/
theorem Agrees.char {c : Char} {more : List Char} (h : Agrees atoms pattern) (hnil : covers more [] = false)
    (hcons : ∀ d text, covers more (d :: text) = (d == c && covers pattern text)) : Agrees (.char c :: atoms) more := by
  have ha : Atom.char c ≠ .run := nofun
  rintro (_ | ⟨d, text⟩) hn <;> rw [accepts_single_cons ha]
  · simp [hnil]
  · rw [List.mem_cons, not_or] at hn
    rw [hcons, Bool.and_eq_true, ← h text hn.2]
    simp [Atom.admits]

/-- A pattern without sets compiles to atoms that match what it covers. -/
theorem exists_agrees (pattern : List Char) (hset : '[' ∉ pattern) :
    ∃ atoms, (pieces pattern).mapM Piece.atom? = some atoms ∧ Agrees atoms pattern := by
  induction pattern using pieces.induct with
  | case1 => exact ⟨[], by rw [pieces]; rfl, .nil⟩
  | case2 rest ih =>
    obtain ⟨atoms, ha, h⟩ := ih (List.not_mem_of_not_mem_cons hset)
    exact ⟨_, by rw [pieces, List.mapM_cons, ha]; rfl, h.run⟩
  | case3 rest ih =>
    obtain ⟨atoms, ha, h⟩ := ih (List.not_mem_of_not_mem_cons hset)
    exact ⟨_, by rw [pieces, List.mapM_cons, ha]; rfl, h.one⟩
  | case4 c rest ih =>
    obtain ⟨atoms, ha, h⟩ := ih (List.not_mem_of_not_mem_cons (List.not_mem_of_not_mem_cons hset))
    refine ⟨_, by rw [pieces, List.mapM_cons, ha]; rfl, h.char ?_ fun d text => ?_⟩ <;> rw [covers]
  | case5 rest => exact absurd List.mem_cons_self hset
  | case6 c rest hstar hone hback hopen ih =>
    obtain ⟨atoms, ha, h⟩ := ih (List.not_mem_of_not_mem_cons hset)
    have hp : pieces (c :: rest) = .char c :: pieces rest := by
      rw [pieces]
      · exact hstar
      · exact hone
      · exact hback
      · exact hopen
    refine ⟨_, by rw [hp, List.mapM_cons, ha]; rfl, h.char ?_ fun d text => ?_⟩ <;> rw [covers]
    all_goals first | exact hstar | exact hone | exact hback

/-! ## The translation -/

/-- A pattern without sets compiles, to what the text of its expression says, and matches the keys without line feeds
that the direct matcher lets through. -/
theorem compile_eq_covers (pattern : String) (hset : '[' ∉ pattern.toList) :
    ∃ q, compile pattern = some q ∧ Expression.read (source pattern) = some q ∧
      ∀ key : String, '\n' ∉ key.toList → q.isMatch key = covers pattern.toList key.toList := by
  obtain ⟨atoms, ha, h⟩ := exists_agrees pattern.toList hset
  have hc : compile pattern = some ⟨atoms⟩ := by
    unfold compile
    rw [ha]
    rfl
  refine ⟨⟨atoms⟩, hc, by rw [read_source, hc], fun key hn => ?_⟩
  rw [Bool.eq_iff_iff, Pattern.isMatch_iff]
  exact h key.toList hn

/-- Dots, stars behind a backslash and a backslash at the end are literal, a star is not. -/
theorem compile_eq_covers_literals :
    ∃ q, compile "a.*\\*?\\" = some q ∧ Expression.read (source "a.*\\*?\\") = some q ∧
      q.isMatch "a.bc*d\\" = true ∧ q.isMatch "axbc*d\\" = false := by
  obtain ⟨q, hc, hr, h⟩ := compile_eq_covers "a.*\\*?\\" (by decide)
  refine ⟨q, hc, hr, ?_, ?_⟩
  · rw [h _ (by decide)]
    decide
  · rw [h _ (by decide)]
    decide

end TwoTier.Glob
