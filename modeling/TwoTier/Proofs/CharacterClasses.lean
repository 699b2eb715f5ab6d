/-
Character classes. `Class.read` reads a pattern that is one class the way a Redis server does: member after member
from the left, where a backslash takes the next character literally and the ends of a range may come in either order.
A class whose members are plain, with no backslash in front, no dash and no closing bracket at the end of a range,
compiles if and only if its ranges are in order, and then it matches the one-character keys that it admits. The other
classes are read differently by an expression: there a backslash is a member, two dashes take away what follows, and
the first closing bracket ends the class wherever it stands.
-/
import TwoTier.Proofs.GlobTranslation

namespace TwoTier.Glob

/-! ## Classes as a server reads them -/

/-- A member of a class. -/
inductive Member where
  /-- The character behind a backslash. -/
  | escaped (c : Char)
  /-- The characters between two, which may come in either order. -/
  | range (a b : Char)
  | single (c : Char)
deriving Repr, DecidableEq

namespace Member

/-- Whether a member stands for a character. -/
def contains : Member → Char → Bool
  | .escaped c, d => d == c
  | .range a b, d => decide (a ≤ d ∧ d ≤ b ∨ b ≤ d ∧ d ≤ a)
  | .single c, d => d == c

/-- The members up to a closing bracket, with which the text has to end. -/
def readAll : List Char → Option (List Member)
  | [] => none
  | '\\' :: c :: rest => (readAll rest).map (.escaped c :: ·)
  | ']' :: rest => if rest.isEmpty then some [] else none
  | a :: '-' :: b :: rest => (readAll rest).map (.range a b :: ·)
  | c :: rest => (readAll rest).map (.single c :: ·)

/-- A member that an expression reads as the server does, if its ends are in order. -/
def IsPlain : Member → Prop
  | .escaped _ => False
  | .range a b => a ≠ '-' ∧ b ≠ '-' ∧ b ≠ ']'
  | .single _ => True

/-- The lower end of a range comes first. -/
def isOrdered : Member → Bool
  | .range a b => decide (a ≤ b)
  | _ => true

/-- A member as an expression has it. -/
def toRange : Member → CharRange
  | .escaped c => ⟨c, c⟩
  | .range a b => ⟨a, b⟩
  | .single c => ⟨c, c⟩

end Member

/-- What stands between two brackets. -/
structure Class where
  negated : Bool
  members : List Member
deriving Repr, DecidableEq

namespace Class

/-- Whether a character is let through. -/
def admits (s : Class) (c : Char) : Bool := (s.members.any (·.contains c)) != s.negated

/-- A pattern that is one class with members and nothing else. -/
def read : List Char → Option Class
  | '[' :: '^' :: rest => ((Member.readAll rest).filter (· ≠ [])).map (⟨true, ·⟩)
  | '[' :: rest => ((Member.readAll rest).filter (· ≠ [])).map (⟨false, ·⟩)
  | _ => none

end Class

/-! ## What an expression makes of plain members -/

theorem CharRange.contains_self (c d : Char) : (⟨c, c⟩ : CharRange).contains d = (d == c) := by
  rw [Bool.eq_iff_iff, beq_iff_eq, CharRange.contains, decide_eq_true_iff]
  constructor
  · rintro ⟨hcd, hdc⟩
    exact Char.le_antisymm hdc hcd
  · rintro rfl
    exact ⟨Char.le_refl d, Char.le_refl d⟩

theorem Member.contains_toRange {m : Member} (h : m.isOrdered = true) (d : Char) :
    m.toRange.contains d = m.contains d := by
  cases m with
  | escaped c | single c => exact CharRange.contains_self c d
  | range a b =>
    have hab : a ≤ b := of_decide_eq_true h
    refine decide_eq_decide.2 ⟨Or.inl, ?_⟩
    rintro (h | ⟨hb, ha⟩)
    · exact h
    · exact ⟨Char.le_trans hab hb, Char.le_trans ha hab⟩

namespace CharSet

/-- A character that no dash follows is a member by itself. -/
theorem unions_single {c : Char} {rest : List Char} (hr : rest.head? ≠ some '-') :
    unions (c :: rest) = (unions rest).map fun (first, more) => (⟨c, c⟩ :: first, more) := by
  cases rest with
  | nil => rw [unions.eq_3, unions.eq_1]; rfl
  | cons d rest =>
    have hd : d ≠ '-' := by rintro rfl; exact hr rfl
    apply unions.eq_7 <;> simp [hd]

/-- A set whose members do not begin with two dashes has them as they are united. -/
theorem parse_of_unions {body : List Char} (hne : body ≠ []) (hd : ¬ ['-', '-'] <+: body) :
    parse ('^' :: body) = (unions body).map (fun (first, more) => ⟨true, first, more⟩) ∧
      (body.head? ≠ some '^' → parse body = (unions body).map fun (first, more) => ⟨false, first, more⟩) := by
  -- one dash in front counts as a member either way
  have hfront : ∀ negated : Bool, ((unions (body.dropWhile (· == '-'))).map fun (first, more) =>
      (⟨negated, (body.takeWhile (· == '-')).map (fun c => (⟨c, c⟩ : CharRange)) ++ first, more⟩ : CharSet)) =
        (unions body).map fun (first, more) => ⟨negated, first, more⟩ := by
    intro negated
    obtain ⟨c, rest, rfl⟩ := List.exists_cons_of_ne_nil hne
    by_cases hc : c = '-'
    · subst hc
      have hrest : rest.head? ≠ some '-' := by
        intro h
        obtain ⟨more, rfl⟩ := List.head?_eq_some_iff.1 h
        exact hd ⟨more, rfl⟩
      have hstop : rest.takeWhile (· == '-') = [] ∧ rest.dropWhile (· == '-') = rest := by
        cases rest with
        | nil => exact ⟨rfl, rfl⟩
        | cons d rest => simpa using hrest
      rw [unions_single hrest]
      simp [hstop, Option.map_map, Function.comp_def]
    · simp [hc]
  have hempty : body.isEmpty = false := by simpa using hne
  constructor
  · rw [← hfront true]
    unfold parse
    simp only [hempty]
    rfl
  · intro hcaret
    rw [← hfront false]
    unfold parse
    split
    rename_i h
    split at h
    · exact absurd rfl hcaret
    · cases h
      simp only [hempty]
      rfl

end CharSet

/-- Plain members are written up to the first closing bracket, and united as they are if their ranges are in order;
otherwise there is no such set. -/
theorem Member.unions_of_readAll {text : List Char} {ms : List Member} (h : readAll text = some ms)
    (hp : ∀ m ∈ ms, m.IsPlain) :
    ∃ body, text = body ++ [']'] ∧ ']' ∉ body ∧ ¬ ['-', '-'] <+: body ∧
      CharSet.unions body = if ms.all isOrdered then some (ms.map toRange, []) else none := by
  fun_induction readAll text generalizing ms with
  | case1 | case4 => cases h
  | case2 c rest =>
    obtain ⟨ms, -, rfl⟩ := Option.map_eq_some_iff.1 h
    exact (hp _ List.mem_cons_self).elim
  | case3 rest hr =>
    cases h
    refine ⟨[], by simpa using hr, by simp, by simp, CharSet.unions.eq_1⟩
  | case5 a b rest _ ha ih =>
    obtain ⟨ms, hms, rfl⟩ := Option.map_eq_some_iff.1 h
    obtain ⟨⟨had, hbd, hb⟩, hp⟩ := List.forall_mem_cons.1 hp
    obtain ⟨body, rfl, hbody, -, hu⟩ := ih hms hp
    refine ⟨a :: '-' :: b :: body, rfl, ?_, ?_, ?_⟩
    · simp [Ne.symm hb, hbody, Ne.symm ha]
    · rintro ⟨rest, h⟩
      injection h with h
      exact had h.symm
    · rw [CharSet.unions.eq_6 _ _ _ had hbd, hu]
      by_cases hab : a ≤ b <;> by_cases hall : ms.all isOrdered <;> simp [isOrdered, toRange, hab, hall]
  | case6 c rest _ hc hrange ih =>
    obtain ⟨ms, hms, rfl⟩ := Option.map_eq_some_iff.1 h
    obtain ⟨body, rfl, hbody, -, hu⟩ := ih hms fun m hm => hp m (List.mem_cons_of_mem _ hm)
    -- a dash behind the character would make it the end of a range
    have hdash : body.head? ≠ some '-' := by
      intro h
      obtain ⟨more, rfl⟩ := List.head?_eq_some_iff.1 h
      cases more with
      | nil => exact hrange _ _ rfl
      | cons b more => exact hrange _ _ rfl
    refine ⟨c :: body, rfl, ?_, ?_, ?_⟩
    · simp [hbody, Ne.symm hc]
    · rintro ⟨rest, h⟩
      injection h with _ h
      exact hdash (by rw [← h]; rfl)
    · rw [CharSet.unions_single hdash, hu]
      by_cases hall : ms.all isOrdered <;> simp [isOrdered, toRange, hall]

/-! ## The translation -/

/-- A set by itself matches one character that it contains. -/
theorem isMatch_set {s : CharSet} {key : String} :
    (⟨[.set s]⟩ : Pattern).isMatch key = true ↔ ∃ c, key.toList = [c] ∧ s.contains c = true := by
  have hs : Atom.set s ≠ .run := nofun
  rw [Pattern.isMatch_iff, accepts_single_cons hs]
  constructor
  · rintro ⟨c, rest, hkey, hc, h⟩
    cases h
    exact ⟨c, hkey, hc⟩
  · rintro ⟨c, hkey, hc⟩
    exact ⟨c, [], hkey, hc, .nil⟩

/-- What plain ranges in order contain is what the class admits. -/
theorem Class.contains_eq_admits {cl : Class} (ho : cl.members.all Member.isOrdered = true) (c : Char) :
    (⟨cl.negated, cl.members.map Member.toRange, []⟩ : CharSet).contains c = cl.admits c := by
  have hany : (cl.members.map Member.toRange).any (·.contains c) = cl.members.any (·.contains c) := by
    rw [Bool.eq_iff_iff, List.any_map, List.any_eq_true, List.any_eq_true]
    refine exists_congr fun m => and_congr_right fun hm => ?_
    rw [← Member.contains_toRange (List.all_eq_true.1 ho m hm) c]
    rfl
  simp [CharSet.contains, CharSet.inRanges, Class.admits, hany]

/-- What stands between the brackets of a class of plain members is the set of these, if their ranges are in order. -/
theorem Class.parse_of_read {pattern : List Char} {cl : Class} (hr : read pattern = some cl)
    (hp : ∀ m ∈ cl.members, m.IsPlain) :
    ∃ body, pattern = '[' :: body ++ [']'] ∧ ']' ∉ body ∧ CharSet.parse body =
      if cl.members.all Member.isOrdered then some ⟨cl.negated, cl.members.map Member.toRange, []⟩ else none := by
  have hbody : ∀ {text ms}, Member.readAll text = some ms → ms ≠ [] → (∀ m ∈ ms, m.IsPlain) →
      ∃ body, text = body ++ [']'] ∧ ']' ∉ body ∧ body ≠ [] ∧ ¬ ['-', '-'] <+: body ∧
        CharSet.unions body = if ms.all Member.isOrdered then some (ms.map Member.toRange, []) else none := by
    intro text ms hms hne hp
    obtain ⟨body, rfl, hclose, hd, hu⟩ := Member.unions_of_readAll hms hp
    refine ⟨body, rfl, hclose, ?_, hd, hu⟩
    rintro rfl
    cases hms
    exact hne rfl
  unfold read at hr
  split at hr
  · obtain ⟨ms, hms, rfl⟩ := Option.map_eq_some_iff.1 hr
    obtain ⟨hms, hne⟩ := Option.filter_eq_some_iff.1 hms
    obtain ⟨body, rfl, hclose, hb, hd, hu⟩ := hbody hms (of_decide_eq_true hne) hp
    refine ⟨'^' :: body, rfl, by simp [hclose], ?_⟩
    rw [(CharSet.parse_of_unions hb hd).1, hu]
    split <;> rfl
  · rename_i rest hcaret
    obtain ⟨ms, hms, rfl⟩ := Option.map_eq_some_iff.1 hr
    obtain ⟨hms, hne⟩ := Option.filter_eq_some_iff.1 hms
    obtain ⟨body, rfl, hclose, hb, hd, hu⟩ := hbody hms (of_decide_eq_true hne) hp
    have hfirst : body.head? ≠ some '^' := by
      intro h
      obtain ⟨more, rfl⟩ := List.head?_eq_some_iff.1 h
      exact hcaret _ rfl
    refine ⟨body, rfl, hclose, ?_⟩
    rw [(CharSet.parse_of_unions hb hd).2 hfirst, hu]
    split <;> rfl
  · cases hr

/-- A class by itself is one piece. -/
theorem pieces_class {body : List Char} (h : ']' ∉ body) : pieces ('[' :: body ++ [']']) = [.set body] := by
  have hstop : ∀ c ∈ body, (c != ']') = true := fun c hc => by
    rw [bne_iff_ne]
    rintro rfl
    exact h hc
  have hnil : pieces [] = [] := by rw [pieces]
  rw [List.cons_append, pieces, List.takeWhile_append_of_pos hstop, List.dropWhile_append_of_pos hstop]
  simp [hnil]

/-- What a class of plain members compiles to. -/
theorem Class.compile_eq {pattern : String} {cl : Class} (hr : read pattern.toList = some cl)
    (hp : ∀ m ∈ cl.members, m.IsPlain) :
    compile pattern = if cl.members.all Member.isOrdered
      then some ⟨[.set ⟨cl.negated, cl.members.map Member.toRange, []⟩]⟩ else none := by
  obtain ⟨body, htext, hclose, hparse⟩ := parse_of_read hr hp
  unfold compile
  rw [htext, pieces_class hclose]
  simp only [List.mapM_cons, Piece.atom?, hparse]
  split <;> rfl

/-- A class of plain members compiles if and only if its ranges are in order. Then it has the meaning that the text of
its expression has, and matches the keys that are one character which the class admits. -/
theorem compile_class {pattern : String} {cl : Class} (hr : Class.read pattern.toList = some cl)
    (hp : ∀ m ∈ cl.members, m.IsPlain) :
    (compile pattern = none ↔ cl.members.all Member.isOrdered = false) ∧
    (cl.members.all Member.isOrdered = true →
      ∃ q, compile pattern = some q ∧ Expression.read (source pattern) = some q ∧
        ∀ key : String, q.isMatch key = true ↔ ∃ c, key.toList = [c] ∧ cl.admits c = true) := by
  have hcompile := Class.compile_eq hr hp
  constructor
  · rw [hcompile]
    split <;> simp_all
  · intro ho
    rw [if_pos ho] at hcompile
    refine ⟨_, hcompile, by rw [read_source, hcompile], fun key => ?_⟩
    simp only [isMatch_set, Class.contains_eq_admits ho]

/-- Signs that mean something in an expression are members, and so is a line feed where they are left out. -/
theorem compile_class_of_signs :
    ∃ q, compile "[^-&&[+~Z-\\]" = some q ∧ Expression.read (source "[^-&&[+~Z-\\]") = some q ∧
      q.isMatch "\n" = true ∧ q.isMatch "[" = false ∧ q.isMatch "-" = false ∧ q.isMatch "ab" = false := by
  have hr : Class.read "[^-&&[+~Z-\\]".toList = some ⟨true,
      [.single '-', .single '&', .single '&', .single '[', .single '+', .single '~', .range 'Z' '\\']⟩ := by decide
  obtain ⟨q, hc, hr, h⟩ := (compile_class hr (by simp [Member.IsPlain])).2 (by decide)
  refine ⟨q, hc, hr, (h _).2 ⟨'\n', rfl, by decide⟩, ?_, ?_, ?_⟩ <;> rw [Bool.eq_false_iff, Ne, h]
  · rintro ⟨c, hk, hadmits⟩
    cases hk
    exact absurd hadmits (by decide)
  · rintro ⟨c, hk, hadmits⟩
    cases hk
    exact absurd hadmits (by decide)
  · rintro ⟨c, hk, -⟩
    cases hk

/-- The other members are read differently: a range that goes down makes the class no expression, two dashes do not
end one, and a backslash does not keep a closing bracket from ending the class. -/
theorem compile_class_reads_otherwise :
    (Class.read "[c-a]".toList = some ⟨false, [.range 'c' 'a']⟩ ∧ compile "[c-a]" = none) ∧
    (Class.read "[+--]".toList = some ⟨false, [.range '+' '-']⟩ ∧ (⟨false, [.range '+' '-']⟩ : Class).admits ',' = true ∧
      ∃ q, compile "[+--]" = some q ∧ q.isMatch "," = false) ∧
    (Class.read "[\\]]".toList = some ⟨false, [.escaped ']']⟩ ∧ (⟨false, [.escaped ']']⟩ : Class).admits ']' = true ∧
      ∃ q, compile "[\\]]" = some q ∧ q.isMatch "]" = false ∧ q.isMatch "\\]" = true) := by
  have hdashes : compile "[+--]" = some ⟨[.set ⟨false, [⟨'+', '+'⟩], [[]]⟩]⟩ := by decide +kernel
  have hback : compile "[\\]]" = some ⟨[.set ⟨false, [⟨'\\', '\\'⟩], []⟩, .char ']']⟩ := by decide +kernel
  refine ⟨⟨by decide, by decide +kernel⟩, ⟨by decide, by decide, _, hdashes, by decide⟩, by decide, by decide, _, hback,
    by decide, by decide⟩

end TwoTier.Glob
