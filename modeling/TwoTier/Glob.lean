/-
Glob patterns over keys: `*` stands for any run of characters, `?` for one, a backslash takes the
next character literally, and brackets hold a set of characters. A pattern is read as a list of
pieces; `escape` writes a text so that as a pattern it stands for itself.
-/

namespace TwoTier.Glob

/-- A piece of a pattern. -/
inductive Piece where
  /-- Any run of characters. -/
  | run
  /-- Any one character. -/
  | one
  | char (c : Char)
  /-- One character of a set, given by the text between the brackets. -/
  | set (body : List Char)
deriving Repr, DecidableEq

/-- The pieces of a pattern. A backslash at the end stands for itself, a set ends at the first
closing bracket or with the pattern. -/
def pieces (pattern : List Char) : List Piece :=
  match pattern with
  | [] => []
  | '*' :: rest => .run :: pieces rest
  | '?' :: rest => .one :: pieces rest
  | '\\' :: c :: rest => .char c :: pieces rest
  | '[' :: rest => .set (rest.takeWhile (· != ']')) :: pieces (rest.dropWhile (· != ']')).tail
  | c :: rest => .char c :: pieces rest
termination_by pattern.length
decreasing_by
  all_goals simp_wf
  all_goals
    have := (List.dropWhile_suffix (fun x => x != ']') (l := rest)).length_le
    omega

/-- The characters that mean more than themselves in a pattern. -/
def isSpecial (c : Char) : Bool := c = '*' || c = '?' || c = '[' || c = ']' || c = '\\'

def escapeChars (text : List Char) : List Char := text.flatMap fun c => if isSpecial c then ['\\', c] else [c]

/-- The pattern that matches a text and nothing else. -/
def escape (text : String) : String := String.ofList (escapeChars text.toList)

end TwoTier.Glob
