/-
JSON values, the values the cache holds. Numbers are integers of 64 bits, signed or not, or
floating point numbers; an object lists its members in the order of their keys, each key once.
-/
import TwoTier.Double

namespace TwoTier

inductive Json where
  | null
  | bool (b : Bool)
  | int (i : Int)
  | float (x : Double)
  | str (s : String)
  | arr (items : List Json)
  | obj (members : List (String × Json))
deriving Repr, Inhabited, BEq

namespace Json

/-- Put a member into a list that is in key order, in place of one with the same key. -/
def insert (key : String) (value : Json) : List (String × Json) → List (String × Json)
  | [] => [(key, value)]
  | (k, v) :: rest =>
    if key = k then (key, value) :: rest
    else if key < k then (key, value) :: (k, v) :: rest
    else (k, v) :: insert key value rest

/-- Members in key order; of several with one key the last stays. -/
def ordered (members : List (String × Json)) : List (String × Json) :=
  members.foldl (fun sorted m => insert m.1 m.2 sorted) []

/-- The object with these members. -/
def object (members : List (String × Json)) : Json := .obj (ordered members)

/-- The member of an object with the given key. -/
def field? (j : Json) (key : String) : Option Json :=
  match j with
  | .obj members => (members.find? fun m => m.1 == key).map (·.2)
  | _ => none

def nat (n : Nat) : Json := .int n

/-- A value or null. -/
def ofOption {α : Type} (f : α → Json) : Option α → Json
  | none => .null
  | some a => f a

end Json

end TwoTier
