/-
Patterns compiled for matching. A pattern is translated, piece by piece, into a regular expression
anchored at both ends, where a dot matches every character but the line feed. `Pattern.source` is
the text of that expression and `Pattern.isMatch` what it matches. A compiler of regular expressions
also bounds how large the compiled expression may get and how deep its parts may nest, as the
differences in a set with many `--` do. Patterns are taken to stay within these limits.
-/
import TwoTier.Glob
import TwoTier.Glob.CharSet

namespace TwoTier.Glob

/-- One part of the regular expression. -/
inductive Atom where
  /-- Any run of characters without a line feed. -/
  | run
  /-- Any one character but a line feed. -/
  | one
  | char (c : Char)
  | set (s : CharSet)
deriving Repr, DecidableEq

/-- A compiled pattern. -/
structure Pattern where
  atoms : List Atom
deriving Repr, DecidableEq

/-! ## The text of the expression -/

/-- Characters that a regular expression reads as more than themselves. -/
def isOperator (c : Char) : Bool :=
  ['\\', '.', '+', '*', '?', '(', ')', '|', '[', ']', '\x7b', '\x7d', '^', '$', '#', '&', '-', '~'].contains c

/-- A literal character of the expression. -/
def literal (c : Char) : List Char := if isOperator c then ['\\', c] else [c]

/-- A character inside brackets. -/
def member (c : Char) : List Char :=
  if c = '\\' || c = '[' || c = '&' || c = '~' then ['\\', c] else [c]

def Piece.source : Piece → List Char
  | .run => ['.', '*']
  | .one => ['.']
  | .char c => literal c
  | .set body => '[' :: body.flatMap member ++ [']']

/-- The regular expression of a glob pattern. -/
def source (pattern : String) : String :=
  String.ofList ('^' :: (pieces pattern.toList).flatMap Piece.source ++ ['$'])

/-! ## Its meaning -/

/-- The part of the expression that a piece becomes; a set may be no valid one. -/
def Piece.atom? : Piece → Option Atom
  | .run => some .run
  | .one => some .one
  | .char c => some (.char c)
  | .set body => (CharSet.parse body).map .set

/-- Compile a pattern; `none` if its expression is not a valid one. No pattern is too large or too deep. -/
def compile (pattern : String) : Option Pattern := ((pieces pattern.toList).mapM Piece.atom?).map Pattern.mk

namespace Atom

/-- Whether the atom matches the one character. -/
def admits : Atom → Char → Bool
  | .run, c => c != '\n'
  | .one, c => c != '\n'
  | .char d, c => c == d
  | .set s, c => s.contains c

/-- From what the later atoms match, one answer for each suffix of the text, what they match with a
run in front. -/
def afterRun (text : List Char) (tails : List Bool) : List Bool :=
  match text, tails with
  | c :: text, b :: tails =>
    let later := afterRun text tails
    (b || (c != '\n' && later.headD false)) :: later
  | _, tails => tails

/-- The same with one character in front. -/
def afterOne (a : Atom) (text : List Char) (tails : List Bool) : List Bool :=
  match text, tails with
  | c :: text, _ :: tails => (a.admits c && tails.headD false) :: afterOne a text tails
  | _, _ => [false]

def after (a : Atom) (text : List Char) (tails : List Bool) : List Bool :=
  match a with
  | .run => afterRun text tails
  | a => afterOne a text tails

end Atom

namespace Pattern

/-- For each suffix of the text, the whole text first, whether the atoms match it. -/
def suffixes (atoms : List Atom) (text : List Char) : List Bool :=
  atoms.foldr (fun a tails => a.after text tails) (text.map (fun _ => false) ++ [true])

/-- Whether the pattern matches the whole text. -/
def isMatch (p : Pattern) (text : String) : Bool := (suffixes p.atoms text.toList).headD false

end Pattern

end TwoTier.Glob
