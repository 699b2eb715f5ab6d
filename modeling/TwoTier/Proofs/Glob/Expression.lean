/-
Reading the text of an expression. The reader knows what a regular expression can be made of here, and nothing of
patterns: literals, dots, runs of dots and sets, between the two anchors. From the text of a pattern's expression it
reads what the pattern compiles to, so every character that a pattern means literally comes out literal, and no set
reaches beyond its brackets.
-/
import Mathlib.Data.List.TakeWhile
import Mathlib.Tactic
import TwoTier.Glob.Pattern

namespace TwoTier.Glob

namespace Expression

/-! ## The reader -/

/-- Characters that do not stand for themselves among the members of a set. A dash does, up to what `CharSet` makes
of it. -/
def isSetOperator (c : Char) : Bool := c = '\\' || c = '[' || c = '&' || c = '~'

/-- The members of a set up to the closing bracket, and what follows it. Sets within sets and operators on them are
not read. -/
def members : List Char → Option (List Char × List Char)
  | [] => none
  | ']' :: rest => some ([], rest)
  | ['\\'] => none
  | '\\' :: c :: rest => if isSetOperator c then (members rest).map fun (body, rest) => (c :: body, rest) else none
  | c :: rest => if isSetOperator c then none else (members rest).map fun (body, rest) => (c :: body, rest)

/-- What a set begins with that cannot close it: a closing bracket in the first place is a member. -/
def opening : List Char → List Char × List Char
  | ']' :: rest => ([']'], rest)
  | '^' :: ']' :: rest => (['^', ']'], rest)
  | text => ([], text)

/-- A set, from behind its opening bracket on. -/
def set (text : List Char) : Option (CharSet × List Char) :=
  let (front, rest) := opening text
  (members rest).bind fun (body, rest) => (CharSet.parse (front ++ body)).map fun s => (s, rest)

/-- The parts of an expression, from behind the anchor in front up to the one at the end. -/
def parts : (fuel : Nat) → List Char → Option (List Atom)
  | 0, _ => none
  | _ + 1, [] => none
  | _ + 1, ['$'] => some []
  | fuel + 1, '.' :: '*' :: rest => (parts fuel rest).map (.run :: ·)
  | fuel + 1, '.' :: rest => (parts fuel rest).map (.one :: ·)
  | fuel + 1, '\\' :: c :: rest => if isOperator c then (parts fuel rest).map (.char c :: ·) else none
  | fuel + 1, '[' :: rest => do
    let (s, rest) ← set rest
    (parts fuel rest).map (.set s :: ·)
  | fuel + 1, c :: rest => if isOperator c then none else (parts fuel rest).map (.char c :: ·)

/-- What the text of an expression matches. -/
def read (text : String) : Option Pattern :=
  match text.toList with
  | '^' :: rest => (parts rest.length rest).map Pattern.mk
  | _ => none

end Expression

/-! ## The text of pieces -/

/-- The text of pieces, with the anchor at the end. -/
def tailSource (ps : List Piece) : List Char := ps.flatMap Piece.source ++ ['$']

theorem tailSource_cons (p : Piece) (ps : List Piece) : tailSource (p :: ps) = p.source ++ tailSource ps := by
  unfold tailSource
  rw [List.flatMap_cons, List.append_assoc]

theorem literal_of_operator {c : Char} (h : isOperator c = true) : literal c = ['\\', c] := if_pos h

theorem literal_of_not_operator {c : Char} (h : isOperator c = false) : literal c = [c] :=
  if_neg (Bool.eq_false_iff.1 h)

theorem length_source_pos (p : Piece) : 0 < p.source.length := by
  cases p with
  | char c =>
    show 0 < (literal c).length
    unfold literal
    split <;> exact Nat.succ_pos _
  | run | one | set => exact Nat.succ_pos _

/-- A set that ends where its text does. -/
def Piece.IsClosed : Piece → Prop
  | .set body => ']' ∉ body
  | _ => True

/-- The pieces of a pattern have no set with a closing bracket among its members. -/
theorem isClosed_of_mem_pieces {pattern : List Char} : ∀ p ∈ pieces pattern, p.IsClosed := by
  induction pattern using pieces.induct with
  | case1 => simp [pieces]
  | case5 rest ih =>
    rw [pieces]
    refine List.forall_mem_cons.2 ⟨fun h => ?_, ih⟩
    exact absurd (List.mem_takeWhile_imp h) (by decide)
  | case2 rest ih | case3 rest ih | case4 c rest ih => rw [pieces]; exact List.forall_mem_cons.2 ⟨trivial, ih⟩
  | case6 c rest h₁ h₂ h₃ h₄ ih =>
    rw [pieces]
    · exact List.forall_mem_cons.2 ⟨trivial, ih⟩
    · exact h₁
    · exact h₂
    · exact h₃
    · exact h₄

namespace Expression

theorem isOperator_of_isSetOperator {c : Char} (h : isSetOperator c = true) : isOperator c = true := by
  simp only [isSetOperator, Bool.or_eq_true, decide_eq_true_eq] at h
  rcases h with ((rfl | rfl) | rfl) | rfl <;> decide

theorem members_plain {c : Char} (h : isSetOperator c = false) (hc : c ≠ ']') (rest : List Char) :
    members (c :: rest) = (members rest).map fun (body, rest) => (c :: body, rest) := by
  have hback : c ≠ '\\' := by rintro rfl; cases h
  rw [members, if_neg (Bool.eq_false_iff.1 h)]
  · exact hc
  · exact fun hb => absurd hb hback
  · exact fun _ _ hb => absurd hb hback

/-- The members of a pattern's set are read as they were written. -/
theorem members_flatMap_member {body : List Char} (h : ']' ∉ body) (rest : List Char) :
    members (body.flatMap member ++ ']' :: rest) = some (body, rest) := by
  induction body with
  | nil => rfl
  | cons c body ih =>
    rw [List.mem_cons, not_or] at h
    obtain ⟨hc, hbody⟩ := h
    have ih := ih hbody
    rw [List.flatMap_cons, List.append_assoc]
    cases ho : isSetOperator c with
    | true =>
      rw [show member c = ['\\', c] from if_pos ho, List.cons_append, List.singleton_append, members, if_pos ho, ih]
      rfl
    | false =>
      rw [show member c = [c] from if_neg (Bool.eq_false_iff.1 ho), List.singleton_append,
        members_plain ho (Ne.symm hc), ih]
      rfl

/-- The text of a member, with one more character in front of it or not, does not begin with a closing bracket. -/
theorem member_cases (c : Char) (hc : c ≠ ']') :
    ∃ d more, d ≠ ']' ∧ (d = '^' → c = '^' ∧ more = []) ∧ member c = d :: more := by
  unfold member
  split
  · exact ⟨'\\', [c], by decide, nofun, rfl⟩
  · exact ⟨c, [], hc, fun h => ⟨h, rfl⟩, rfl⟩

theorem opening_of_members {body rest : List Char} (hb : ']' ∉ body) (hne : body ≠ []) (hcaret : body ≠ ['^']) :
    opening (body.flatMap member ++ ']' :: rest) = ([], body.flatMap member ++ ']' :: rest) := by
  obtain ⟨c, body, rfl⟩ := List.exists_cons_of_ne_nil hne
  rw [List.mem_cons, not_or] at hb
  obtain ⟨d, more, hd, hcd, hm⟩ := member_cases c (Ne.symm hb.1)
  rw [List.flatMap_cons, hm]
  by_cases hcar : d = '^'
  · -- behind the caret there is another member
    obtain ⟨rfl, rfl⟩ := hcd hcar
    obtain ⟨e, body, rfl⟩ := List.exists_cons_of_ne_nil (fun h : body = [] => hcaret (by rw [h]))
    rw [List.mem_cons, not_or] at hb
    obtain ⟨x, more, hx, -, hm⟩ := member_cases e (Ne.symm hb.2.1)
    rw [List.flatMap_cons, hm, hcar]
    unfold opening
    split
    · rename_i h; cases h
    · rename_i h; injection h with _ h; injection h with h; exact absurd h hx
    · rfl
  · unfold opening
    split
    · rename_i h; injection h with h; exact absurd h hd
    · rename_i h; injection h with h; exact absurd h hcar
    · rfl

/-- A set with members is read as it was written. -/
theorem set_of_members {body : List Char} (hb : ']' ∉ body) (hne : body ≠ []) (hcaret : body ≠ ['^'])
    (rest : List Char) :
    set (body.flatMap member ++ ']' :: rest) = (CharSet.parse body).map fun s => (s, rest) := by
  unfold set
  rw [opening_of_members hb hne hcaret]
  dsimp only
  rw [members_flatMap_member hb]
  rfl

/-- Behind the text of pieces there is no closing bracket that is not opened there. -/
theorem members_tailSource (ps : List Piece) : members (tailSource ps) = none := by
  induction ps with
  | nil => rfl
  | cons p ps ih =>
    rw [tailSource_cons]
    cases p with
    | run =>
      show members ('.' :: '*' :: tailSource ps) = none
      rw [members_plain (by decide) (by decide), members_plain (by decide) (by decide), ih]
      rfl
    | one =>
      show members ('.' :: tailSource ps) = none
      rw [members_plain (by decide) (by decide), ih]
      rfl
    | char c =>
      show members (literal c ++ tailSource ps) = none
      cases ho : isOperator c with
      | true =>
        rw [literal_of_operator ho]
        show members ('\\' :: c :: tailSource ps) = none
        rw [members, ih]
        split <;> rfl
      | false =>
        have hs : isSetOperator c = false := Bool.eq_false_iff.2 fun h => by
          rw [isOperator_of_isSetOperator h] at ho
          cases ho
        have hc : c ≠ ']' := by rintro rfl; cases ho
        rw [literal_of_not_operator ho, List.singleton_append, members_plain hs hc, ih]
        rfl
    | set body => rfl

/-- A set without members takes the closing bracket for one, and has no end. -/
theorem set_of_no_members (ps : List Piece) :
    set (']' :: tailSource ps) = none ∧ set ('^' :: ']' :: tailSource ps) = none := by
  constructor
  · show (members (tailSource ps)).bind _ = none
    rw [members_tailSource, Option.bind_none]
  · show (members (tailSource ps)).bind _ = none
    rw [members_tailSource, Option.bind_none]

/-- So the set of a pattern's piece is read as it compiles. -/
theorem set_source {body : List Char} (hb : ']' ∉ body) (ps : List Piece) :
    set (body.flatMap member ++ ']' :: tailSource ps) = (CharSet.parse body).map fun s => (s, tailSource ps) := by
  by_cases hne : body = []
  · rw [hne]
    exact (set_of_no_members ps).1
  · by_cases hcaret : body = ['^']
    · rw [hcaret]
      exact (set_of_no_members ps).2
    · exact set_of_members hb hne hcaret _

/-! ## Reading the parts -/

theorem head?_tailSource (ps : List Piece) : (tailSource ps).head? ≠ some '*' := by
  cases ps with
  | nil => decide
  | cons p ps =>
    rw [tailSource_cons]
    cases p with
    | run | one | set => nofun
    | char c =>
      show (literal c ++ tailSource ps).head? ≠ _
      cases ho : isOperator c with
      | true => rw [literal_of_operator ho]; nofun
      | false =>
        rw [literal_of_not_operator ho]
        rintro h
        cases h
        cases ho

theorem parts_one {fuel : Nat} {rest : List Char} (h : rest.head? ≠ some '*') :
    parts (fuel + 1) ('.' :: rest) = (parts fuel rest).map (.one :: ·) := by
  rw [parts]
  rintro rest rfl
  exact h rfl

theorem parts_literal {fuel : Nat} (c : Char) {rest : List Char} :
    parts (fuel + 1) (literal c ++ rest) = (parts fuel rest).map (.char c :: ·) := by
  cases ho : isOperator c with
  | true =>
    rw [literal_of_operator ho]
    show parts (fuel + 1) ('\\' :: c :: rest) = _
    rw [parts, if_pos ho]
  | false =>
    have hne : ∀ d, isOperator d = true → c ≠ d := by
      rintro d hd rfl
      rw [ho] at hd
      cases hd
    rw [literal_of_not_operator ho, List.singleton_append, parts, ho]
    · rfl
    · rintro h -; exact hne _ (by decide) h
    · rintro rest h -; exact hne _ (by decide) h
    · exact hne _ (by decide)
    · rintro d rest h -; exact hne _ (by decide) h
    · exact hne _ (by decide)

theorem parts_tailSource {ps : List Piece} (h : ∀ p ∈ ps, p.IsClosed) {fuel : Nat}
    (hf : (tailSource ps).length ≤ fuel) :
    parts fuel (tailSource ps) = ps.mapM Piece.atom? := by
  -- a piece is written with a character at least, so what is left of the fuel covers what is left of the text
  induction ps generalizing fuel with
  | nil =>
    obtain ⟨fuel, rfl⟩ : ∃ f, fuel = f + 1 := ⟨fuel - 1, by simp [tailSource] at hf; omega⟩
    rfl
  | cons p ps ih =>
    have hpos := length_source_pos p
    rw [tailSource_cons] at hf ⊢
    obtain ⟨fuel, rfl⟩ : ∃ f, fuel = f + 1 := ⟨fuel - 1, by rw [List.length_append] at hf; omega⟩
    have ih : parts fuel (tailSource ps) = ps.mapM Piece.atom? :=
      ih (fun q hq => h q (List.mem_cons_of_mem _ hq)) (by rw [List.length_append] at hf; omega)
    rw [List.mapM_cons, ← ih]
    cases p with
    | run =>
      show parts (fuel + 1) ('.' :: '*' :: tailSource ps) = _
      rw [parts]
      cases parts fuel (tailSource ps) <;> rfl
    | one =>
      show parts (fuel + 1) ('.' :: tailSource ps) = _
      rw [parts_one (head?_tailSource ps)]
      cases parts fuel (tailSource ps) <;> rfl
    | char c =>
      show parts (fuel + 1) (literal c ++ tailSource ps) = _
      rw [parts_literal]
      cases parts fuel (tailSource ps) <;> rfl
    | set body =>
      show parts (fuel + 1) ('[' :: (body.flatMap member ++ [']']) ++ tailSource ps) = _
      rw [List.cons_append, List.append_assoc, List.singleton_append, parts, set_source (h _ List.mem_cons_self)]
      have hatom : Piece.atom? (.set body) = (CharSet.parse body).map .set := rfl
      rw [hatom]
      cases CharSet.parse body with
      | none => rfl
      | some s =>
        show (parts fuel (tailSource ps)).map _ = (parts fuel (tailSource ps)).bind _
        cases parts fuel (tailSource ps) <;> rfl

end Expression

/-- The text of a pattern's expression says what the pattern compiles to. -/
theorem read_source (pattern : String) : Expression.read (source pattern) = compile pattern := by
  have htext : (source pattern).toList = '^' :: tailSource (pieces pattern.toList) := by
    unfold source
    rw [String.toList_ofList]
    rfl
  unfold Expression.read compile
  rw [htext]
  show (Expression.parts _ _).map Pattern.mk = _
  rw [Expression.parts_tailSource isClosed_of_mem_pieces (Nat.le_refl _)]

end TwoTier.Glob
