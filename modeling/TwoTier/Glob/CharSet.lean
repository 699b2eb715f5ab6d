/-
Sets of characters between brackets, read as a regular expression reads them: a caret in front
negates, `a-b` is a range whose ends are in order, `--` takes away what follows, and a dash at
either end stands for itself. The empty pair of brackets is no set, because the closing bracket
then counts as a member. Each `--` nests one level deeper; there is no limit to the levels here.
-/

namespace TwoTier.Glob

/-- The characters from `low` to `high`. -/
structure CharRange where
  low : Char
  high : Char
deriving Repr, DecidableEq

def CharRange.contains (r : CharRange) (c : Char) : Bool := decide (r.low ≤ c ∧ c ≤ r.high)

/-- Ranges, with further ranges taken away from them in turn. -/
structure CharSet where
  negated : Bool
  base : List CharRange
  removed : List (List CharRange)
deriving Repr, DecidableEq

namespace CharSet

def inRanges (rs : List CharRange) (c : Char) : Bool := rs.any (·.contains c)

/-- Whether a character is in the set. -/
def contains (s : CharSet) (c : Char) : Bool :=
  (inRanges s.base c && s.removed.all fun rs => !inRanges rs c) != s.negated

/-- The unions between the `--` of a set's text, from its first member on; the first of the answer
still grows at the front. A range whose ends are out of order makes the whole no set. -/
def unions (body : List Char) : Option (List CharRange × List (List CharRange)) :=
  match body with
  | [] => some ([], [])
  | '-' :: '-' :: rest => (unions rest).map fun (first, more) => ([], first :: more)
  | [c] => some ([⟨c, c⟩], [])
  | [c, '-'] => some ([⟨c, c⟩, ⟨'-', '-'⟩], [])
  | c :: '-' :: '-' :: rest =>
    (unions ('-' :: '-' :: rest)).map fun (first, more) => (⟨c, c⟩ :: first, more)
  | c :: '-' :: d :: rest =>
    if c ≤ d then (unions rest).map fun (first, more) => (⟨c, d⟩ :: first, more) else none
  | c :: rest => (unions rest).map fun (first, more) => (⟨c, c⟩ :: first, more)
termination_by body.length

/-- The set written by the text between two brackets. -/
def parse (text : List Char) : Option CharSet :=
  let (negated, body) := match text with
    | '^' :: rest => (true, rest)
    | text => (false, text)
  if body.isEmpty then none
  else
    let dashes := body.takeWhile (· == '-')
    (unions (body.dropWhile (· == '-'))).map fun (first, more) =>
      ⟨negated, dashes.map (fun c => ⟨c, c⟩) ++ first, more⟩

end CharSet

end TwoTier.Glob
