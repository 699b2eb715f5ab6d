/-
Settings from environment variables. `TIERCACHE__CACHE__MAX_SIZE` sets the key `max_size` of the
table `cache`: letters may be of either case, and two underscores stand between the keys. A value
that reads as a truth value or a number becomes one.
-/
import TwoTier.Settings.Tree

namespace TwoTier.Environment

/-- What the names of settings start with, in lower case. -/
def marker : String := "tiercache__"

/-- The value of a variable: a truth value, an integer of 64 bits, a number, or the text itself. -/
def valueOf (text : String) : Tree :=
  let word := asciiLower text
  if word = "true" then .bool true
  else if word = "false" then .bool false
  else
    match (Tree.integerOf? text).filter fun i => minInt64 ≤ i ∧ i ≤ maxInt64 with
    | some i => .int i
    | none =>
      match Tree.floatOf? text with
      | some x => .float x
      | none => .text text

/-- A point in the place of every two underscores. -/
def pointed : List Char → List Char
  | '_' :: '_' :: rest => '.' :: pointed rest
  | c :: rest => c :: pointed rest
  | [] => []

/-- The path that a variable sets, if its name is one of a setting. -/
def pathOf? (name : String) : Option String :=
  let letters := name.toList.map Char.toLower
  if marker.toList.isPrefixOf letters then some (String.ofList (pointed (letters.drop marker.length))) else none

/-- The layer of settings that variables make; of variables for one path the last counts. -/
def layer (vars : List (String × String)) : Tree :=
  .table (vars.foldl (fun ms (name, value) =>
    match pathOf? name with
    | none => ms
    | some path => Tree.update path (fun _ => valueOf value) ms) [])

end TwoTier.Environment
